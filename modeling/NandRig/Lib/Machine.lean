/-
Machines that take one event after another and may halt: runs are monadic folds of the step
function, invariants of the steps are invariants of the runs, and a history kept beside the state
does not change the run. A machine that only accepts or rejects (`Option`) accepts the prefixes
of a language when its states carry the languages they have left.
-/
import Mathlib.Computability.Language
import Mathlib.Tactic

namespace Machine

variable {σ ε χ γ : Type*}

/-! ## Runs of a machine that may halt -/

section Halting

variable (step : σ → ε → Except χ σ)

/-- Take the events in order, up to the end or to the first halt. -/
def run (s : σ) (es : List ε) : Except χ σ := es.foldlM step s

@[simp] theorem run_nil (s : σ) : run step s [] = .ok s := rfl

theorem run_cons (s : σ) (e : ε) (es : List ε) : run step s (e :: es) = (step s e).bind (run step · es) := by
  rw [run, List.foldlM_cons]; rfl

theorem run_append (s : σ) (es es' : List ε) :
    run step s (es ++ es') = (run step s es).bind (run step · es') := by
  rw [run, List.foldlM_append]; rfl

theorem run_snoc (s : σ) (es : List ε) (e : ε) : run step s (es ++ [e]) = (run step s es).bind (step · e) := by
  rw [run_append]
  cases run step s es with
  | error x => rfl
  | ok s' =>
    show run step s' [e] = step s' e
    rw [run_cons]
    cases step s' e <;> rfl

variable {step}

theorem run_snoc_ok {s t : σ} {es : List ε} {e : ε} (h : run step s (es ++ [e]) = .ok t) :
    ∃ s', run step s es = .ok s' ∧ step s' e = .ok t := by
  rw [run_snoc] at h
  cases h1 : run step s es with
  | error x => rw [h1] at h; cases h
  | ok s' => rw [h1] at h; exact ⟨s', rfl, h⟩

/-- What every step preserves holds after every run. -/
theorem run_inv {I : σ → Prop} (hstep : ∀ s e s', I s → step s e = .ok s' → I s') :
    ∀ {es : List ε} {s t : σ}, I s → run step s es = .ok t → I t
  | [], s, t, hs, h => by cases h; exact hs
  | e :: es, s, t, hs, h => by
    rw [run_cons] at h
    cases h1 : step s e with
    | error x => rw [h1] at h; cases h
    | ok s' => rw [h1] at h; exact run_inv hstep (hstep s e s' hs h1) h

/-- A halt happens at one step of the run, in a state the invariant holds of. -/
theorem run_error {I : σ → Prop} (hstep : ∀ s e s', I s → step s e = .ok s' → I s') {x : χ} :
    ∀ {es : List ε} {s : σ}, I s → run step s es = .error x → ∃ s' e, I s' ∧ step s' e = .error x
  | [], s, hs, h => by cases h
  | e :: es, s, hs, h => by
    rw [run_cons] at h
    cases h1 : step s e with
    | error y =>
      rw [h1] at h; cases h
      exact ⟨s, e, hs, h1⟩
    | ok s' => rw [h1] at h; exact run_error hstep (hstep s e s' hs h1) h

/-- A run whose end is looked at through `f`: for replays of fixed runs. -/
theorem run_replay {β : Type*} {f : σ → β} {b : β} {s : σ} {es : List ε}
    (h : (run step s es).toOption.map f = some b) : ∃ t, run step s es = .ok t ∧ f t = b := by
  cases h1 : run step s es with
  | error x => rw [h1] at h; cases h
  | ok t => rw [h1] at h; cases h; exact ⟨t, rfl, rfl⟩

/-! ## Histories -/

/-- The machine with a history, updated from the state before, the event and the state after. -/
def withHistory (step : σ → ε → Except χ σ) (record : σ → ε → σ → γ → γ) (x : σ × γ) (e : ε) :
    Except χ (σ × γ) :=
  (step x.1 e).map fun s' => (s', record x.1 e s' x.2)

theorem withHistory_ok {record : σ → ε → σ → γ → γ} {x y : σ × γ} {e : ε}
    (h : withHistory step record x e = .ok y) : step x.1 e = .ok y.1 ∧ y.2 = record x.1 e y.1 x.2 := by
  unfold withHistory at h
  cases h1 : step x.1 e with
  | error z => rw [h1] at h; cases h
  | ok s' => rw [h1] at h; cases h; exact ⟨rfl, rfl⟩

theorem withHistory_of_ok {record : σ → ε → σ → γ → γ} {s s' : σ} {e : ε} (h : step s e = .ok s') (g : γ) :
    withHistory step record (s, g) e = .ok (s', record s e s' g) := by
  unfold withHistory
  rw [h]
  rfl

/-- Without its history, the machine with a history runs as the machine does. -/
theorem run_withHistory (record : σ → ε → σ → γ → γ) :
    ∀ (es : List ε) (s : σ) (g : γ),
      (run (withHistory step record) (s, g) es).map Prod.fst = run step s es
  | [], _, _ => rfl
  | e :: es, s, g => by
    rw [run_cons, run_cons, withHistory]
    cases h1 : step s e with
    | error x => rfl
    | ok s' => exact run_withHistory record es s' _

/-- The runs of the machine are those with a history, which every run has. -/
theorem run_withHistory_iff {record : σ → ε → σ → γ → γ} {g : γ} {es : List ε} {s t : σ} :
    (∃ g', run (withHistory step record) (s, g) es = .ok (t, g')) ↔ run step s es = .ok t := by
  rw [← run_withHistory record es s g]
  constructor
  · rintro ⟨g', h⟩
    rw [h]
    rfl
  · intro h
    cases h1 : run (withHistory step record) (s, g) es with
    | error x => rw [h1] at h; cases h
    | ok y => rw [h1] at h; cases h; exact ⟨y.2, rfl⟩

end Halting

/-! ## Outputs -/

/-- One step taken: the state it starts from, the event, the output and the state it ends in. -/
structure Transition (σ ε ω : Type*) where
  before : σ
  event : ε
  output : ω
  after : σ

section Outputs

variable {ω : Type*} (react : σ → ε → Except χ (ω × σ))

/-- The steps of a run, up to the end or to the first halt. -/
def transitions : (s : σ) → List ε → List (Transition σ ε ω)
  | _, [] => []
  | s, e :: es =>
    match react s e with
    | .error _ => []
    | .ok (o, s') => ⟨s, e, o, s'⟩ :: transitions s' es

/-- The machine without its outputs. -/
def silent (s : σ) (e : ε) : Except χ σ := (react s e).map Prod.snd

@[simp] theorem transitions_nil (s : σ) : transitions react s [] = [] := rfl

variable {react} {react' : σ → ε → Except χ (ω × σ)}

theorem transitions_cons_error {s : σ} {e : ε} {x : χ} (h : react s e = .error x) (es : List ε) :
    transitions react s (e :: es) = [] := by
  rw [transitions, h]

theorem transitions_cons_ok {s s' : σ} {e : ε} {o : ω} (h : react s e = .ok (o, s')) (es : List ε) :
    transitions react s (e :: es) = ⟨s, e, o, s'⟩ :: transitions react s' es := by
  rw [transitions, h]

/-- Machines that agree wherever an invariant of one of them holds take the same steps and halt alike. -/
theorem transitions_congr {I : σ → Prop} (hstep : ∀ s e o s', I s → react s e = .ok (o, s') → I s')
    (hagree : ∀ s e, I s → react' s e = react s e) : ∀ (es : List ε) (s : σ), I s →
      transitions react' s es = transitions react s es ∧ run (silent react') s es = run (silent react) s es
  | [], _, _ => ⟨rfl, rfl⟩
  | e :: es, s, hs => by
    have he := hagree s e hs
    have hsilent : silent react' s e = silent react s e := congrArg (Except.map Prod.snd) he
    rw [run_cons, run_cons, hsilent]
    cases h : react s e with
    | error x =>
      rw [transitions_cons_error h, transitions_cons_error (he.trans h)]
      unfold silent
      rw [h]
      exact ⟨rfl, rfl⟩
    | ok y =>
      obtain ⟨o, s'⟩ := y
      obtain ⟨h1, h2⟩ := transitions_congr hstep hagree es s' (hstep s e o s' hs h)
      rw [transitions_cons_ok h, transitions_cons_ok (he.trans h), h1]
      unfold silent
      rw [h]
      exact ⟨rfl, h2⟩

end Outputs

/-! ## Prefixes of a language -/

section Prefix

variable {α : Type*} {next : σ → α → Option σ} {left : σ → Language α}

/-- The words with a prefix `w` left in state `s` are those the machine gets through: a state's
language starts with the letters it accepts, and is never exhausted. -/
theorem prefix_iff_accepts (hcons : ∀ s a w, a :: w ∈ left s ↔ ∃ s', next s a = some s' ∧ w ∈ left s')
    (hne : ∀ s a s', next s a = some s' → ∃ w, w ∈ left s') :
    ∀ (w : List α) (s : σ), (∃ v, v ∈ left s) →
      ((∃ v ∈ left s, w <+: v) ↔ (w.foldlM next s).isSome = true)
  | [], s, hs => by simpa using hs
  | a :: w, s, _ => by
    rw [List.foldlM_cons]
    constructor
    · rintro ⟨v, hv, t, rfl⟩
      rw [List.cons_append, hcons] at hv
      obtain ⟨s', h1, h2⟩ := hv
      rw [h1]
      exact (prefix_iff_accepts hcons hne w s' (hne s a s' h1)).1 ⟨_, h2, t, rfl⟩
    · intro h
      cases h1 : next s a with
      | none => rw [h1] at h; cases h
      | some s' =>
        rw [h1] at h
        obtain ⟨v, hv, t, rfl⟩ := (prefix_iff_accepts hcons hne w s' (hne s a s' h1)).2 h
        exact ⟨a :: (w ++ t), (hcons s a _).2 ⟨s', h1, hv⟩, t, rfl⟩

end Prefix

/-! ## First letters -/

section Letters

variable {α : Type*} {a c : α} {w : List α} {A L P : Language α}

open Computability

theorem mem_letter {u : List α} : u ∈ ({[a]} : Language α) ↔ ∃ b, u = [b] ∧ b = a := by
  constructor
  · intro h
    exact ⟨a, h, rfl⟩
  · rintro ⟨b, h, rfl⟩
    exact h

theorem mem_letters {b : α} {u : List α} :
    u ∈ ({[a]} + {[b]} : Language α) ↔ ∃ d, u = [d] ∧ (d = a ∨ d = b) := by
  rw [Language.mem_add, mem_letter, mem_letter]
  simp only [and_or_left, exists_or]

theorem cons_mem_letter_mul : c :: w ∈ ({[a]} : Language α) * L ↔ c = a ∧ w ∈ L := by
  rw [Language.mem_mul]
  constructor
  · rintro ⟨u, hu, v, hv, h⟩
    rw [Set.mem_singleton_iff.1 hu, List.singleton_append, List.cons.injEq] at h
    exact ⟨h.1.symm, h.2 ▸ hv⟩
  · rintro ⟨rfl, hw⟩
    exact ⟨[c], rfl, w, hw, rfl⟩

theorem cons_mem_kstar : c :: w ∈ P∗ ↔ c :: w ∈ P * P∗ := by
  rw [← Language.one_add_self_mul_kstar_eq_kstar, Language.mem_add, Language.one_add_self_mul_kstar_eq_kstar]
  exact or_iff_right fun h => List.cons_ne_nil c w h

/-- Behind a repetition of single letters, one more of them or the first letter of the rest. -/
theorem cons_mem_letters_mul (hA : ∀ u ∈ A, u.length = 1) :
    c :: w ∈ A∗ * L ↔ ([c] ∈ A ∧ w ∈ A∗ * L) ∨ c :: w ∈ L := by
  have h : A∗ * L = L + A * (A∗ * L) := by
    -- no repetition, or one more and the same again
    conv_lhs => rw [← Language.one_add_self_mul_kstar_eq_kstar A, add_mul, one_mul, mul_assoc]
  conv_lhs => rw [h, Language.mem_add, or_comm, Language.mem_mul]
  refine or_congr_left ⟨?_, ?_⟩
  · rintro ⟨u, hu, v, hv, h⟩
    obtain ⟨b, rfl⟩ := List.length_eq_one_iff.1 (hA u hu)
    rw [List.singleton_append, List.cons.injEq] at h
    exact ⟨h.1 ▸ hu, h.2 ▸ hv⟩
  · rintro ⟨hc, hw⟩
    exact ⟨[c], hc, w, hw, rfl⟩

end Letters

end Machine
