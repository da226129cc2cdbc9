/-
Programs that ask their environment. A program is a tree of requests, each continued by the
answer; an environment answers from a state, leaves events behind, and may fail to answer. The
rules prove what holds of the events of a run, of each prefix of them and of its result, from
one run or from two runs side by side.
-/
import Mathlib.Tactic

namespace Interact

/-! ## Programs -/

inductive Prog (Op : Type) (Res : Op → Type) (α : Type) : Type
  | ret (a : α)
  | op (o : Op) (k : Res o → Prog Op Res α)

variable {Op : Type} {Res : Op → Type} {α β γ : Type}

namespace Prog

protected def bind : Prog Op Res α → (α → Prog Op Res β) → Prog Op Res β
  | ret a, f => f a
  | op o k, f => op o fun r => (k r).bind f

instance : Monad (Prog Op Res) where
  pure := ret
  bind := Prog.bind

@[simp] theorem ret_bind (a : α) (f : α → Prog Op Res β) : (ret a >>= f) = f a := rfl

@[simp] theorem op_bind (o : Op) (k : Res o → Prog Op Res α) (f : α → Prog Op Res β) :
    (op o k >>= f) = op o fun r => k r >>= f := rfl

theorem bind_ret (p : Prog Op Res α) : (p >>= ret) = p := by
  induction p with
  | ret a => rfl
  | op o k ih => exact congrArg (op o) (funext ih)

theorem bind_assoc' (p : Prog Op Res α) (f : α → Prog Op Res β) (g : β → Prog Op Res γ) :
    ((p >>= f) >>= g) = p >>= fun a => f a >>= g := by
  induction p with
  | ret a => rfl
  | op o k ih => exact congrArg (op o) (funext ih)

instance : LawfulMonad (Prog Op Res) :=
  LawfulMonad.mk' (Prog Op Res) bind_ret (fun _ _ => rfl) bind_assoc'

/-- A single request. -/
def call (o : Op) : Prog Op Res (Res o) := op o ret

/-- `for (i = 0; i < n; i++) body`. -/
def upTo (body : Nat → Prog Op Res Unit) : (n : Nat) → Prog Op Res Unit
  | 0 => ret ()
  | n + 1 => do
    upTo body n
    body n

end Prog

/-! ## Runs -/

/-- The events a request leaves, and the answer with the next state unless the run stops. -/
abbrev Env (Op : Type) (Res : Op → Type) (ε σ : Type) : Type := (o : Op) → σ → List ε × Option (Res o × σ)

variable {ε σ : Type}

/-- The events of a run, also of one that stops, and its result. -/
def run (env : Env Op Res ε σ) : Prog Op Res α → σ → List ε × Option (α × σ)
  | .ret a, s => ([], some (a, s))
  | .op o k, s =>
    match env o s with
    | (l, none) => (l, none)
    | (l, some (r, s')) => (l ++ (run env (k r) s').1, (run env (k r) s').2)

variable {env : Env Op Res ε σ}

@[simp] theorem run_pure (a : α) (s : σ) : run env (pure a) s = ([], some (a, s)) := rfl

theorem run_bind (p : Prog Op Res α) (f : α → Prog Op Res β) (s : σ) :
    run env (p >>= f) s =
      match run env p s with
      | (l, none) => (l, none)
      | (l, some (a, s')) => (l ++ (run env (f a) s').1, (run env (f a) s').2) := by
  induction p generalizing s with
  | ret a => rfl
  | op o k ih =>
    rw [Prog.op_bind, run, run]
    rcases env o s with ⟨l, _ | ⟨r, s'⟩⟩
    · rfl
    · dsimp only
      rw [ih r s']
      rcases run env (k r) s' with ⟨l', _ | ⟨a, s''⟩⟩
      · rfl
      · simp

/-- The run of a program whose first part is known to return. -/
theorem run_bind_of {p : Prog Op Res α} {f : α → Prog Op Res β} {s s' : σ} {l : List ε} {a : α}
    (h : run env p s = (l, some (a, s'))) :
    run env (p >>= f) s = (l ++ (run env (f a) s').1, (run env (f a) s').2) := by
  rw [run_bind, h]

theorem run_bind_none {p : Prog Op Res α} (f : α → Prog Op Res β) {s : σ} (h : (run env p s).2 = none) :
    (run env (p >>= f) s).2 = none := by
  rw [run_bind]
  rcases hr : run env p s with ⟨l, _ | x⟩
  · rfl
  · rw [hr] at h
    cases h

theorem run_call (o : Op) (s : σ) : run env (Prog.call o) s = env o s := by
  unfold Prog.call
  rw [run]
  rcases env o s with ⟨l, _ | ⟨r, s'⟩⟩
  · rfl
  · simp [run]

/-! ## Runs that return -/

/-- Every request the program can make satisfies `P`. -/
def Prog.Only (P : Op → Prop) : Prog Op Res α → Prop
  | .ret _ => True
  | .op o k => P o ∧ ∀ r, (k r).Only P

theorem Prog.Only.bind {P : Op → Prop} {p : Prog Op Res α} {f : α → Prog Op Res β} (hp : p.Only P)
    (hf : ∀ a, (f a).Only P) : (p >>= f).Only P := by
  induction p with
  | ret a => exact hf a
  | op o k ih => exact ⟨hp.1, fun r => ih r (hp.2 r)⟩

theorem Prog.Only.call {P : Op → Prop} {o : Op} (h : P o) : (Prog.call o : Prog Op Res (Res o)).Only P :=
  ⟨h, fun _ => True.intro⟩

theorem Prog.Only.mono {P Q : Op → Prop} {p : Prog Op Res α} (h : p.Only P) (hPQ : ∀ o, P o → Q o) : p.Only Q := by
  induction p with
  | ret a => exact True.intro
  | op o k ih => exact ⟨hPQ o h.1, fun r => ih r (h.2 r)⟩

theorem Prog.Only.trivial (p : Prog Op Res α) : p.Only fun _ => True := by
  induction p with
  | ret a => exact True.intro
  | op o k ih => exact ⟨True.intro, ih⟩

/-- The program makes at most `n` requests. -/
def Prog.Within : (n : Nat) → Prog Op Res α → Prop
  | _, .ret _ => True
  | 0, .op _ _ => False
  | n + 1, .op _ k => ∀ r, (k r).Within n

theorem Prog.Within.pure (n : Nat) (a : α) : (pure a : Prog Op Res α).Within n := by
  cases n <;> trivial

theorem Prog.Within.call (o : Op) : (Prog.call o : Prog Op Res (Res o)).Within 1 := fun r => .pure 0 r

theorem Prog.Within.mono : ∀ {a b : Nat} {p : Prog Op Res α}, p.Within a → a ≤ b → p.Within b
  | _, b, .ret x, _, _ => .pure b x
  | _ + 1, _ + 1, .op _ _, h, hab => fun r => (h r).mono (Nat.le_of_succ_le_succ hab)

theorem Prog.Within.bind : ∀ {a b : Nat} {p : Prog Op Res α} {f : α → Prog Op Res β}, p.Within a →
    (∀ x, (f x).Within b) → (p >>= f).Within (a + b)
  | _, b, .ret x, _, _, hf => (hf x).mono (Nat.le_add_left b _)
  | a + 1, b, .op _ _, _, hp, hf => by
    rw [Nat.succ_add]
    exact fun r => (hp r).bind hf

theorem Prog.Within.upTo {body : Nat → Prog Op Res Unit} {b : Nat} (h : ∀ i, (body i).Within b) : ∀ n : Nat,
    (Prog.upTo body n).Within (n * b)
  | 0 => .pure _ ()
  | n + 1 => by
    rw [Nat.succ_mul]
    exact (Prog.Within.upTo h n).bind fun _ => h n

theorem Prog.Within.op {n : Nat} {o : Op} {k : Res o → Prog Op Res α} (h : (Prog.op o k).Within n) :
    ∃ b, n = b + 1 ∧ ∀ r, (k r).Within b := by
  cases n with
  | zero => exact h.elim
  | succ b => exact ⟨b, rfl, h⟩

-- a bound is a number of rounds, which is not to be unfolded into them
attribute [irreducible] Prog.Within

/-- A bound on the requests of a program, computed from how the program is put together. -/
class Prog.Bounded (p : Prog Op Res α) where
  bound : Nat
  within : p.Within bound

/-- One bound for all programs of a family. -/
class Prog.BoundedAll {ι : Type} (f : ι → Prog Op Res α) where
  bound : Nat
  within : ∀ i, (f i).Within bound

namespace Prog

section Bounded

variable {ι : Type} {p : Prog Op Res α}

instance (a : α) : Bounded (pure a : Prog Op Res α) := ⟨0, .pure 0 a⟩

instance [h : Bounded p] : BoundedAll fun _ : ι => p := ⟨h.bound, fun _ => h.within⟩

instance {f : α → Prog Op Res β} [hp : Bounded p] [hf : BoundedAll f] : Bounded (p >>= f) :=
  ⟨hp.bound + hf.bound, hp.within.bind hf.within⟩

instance {f : ι → Prog Op Res β} [hp : Bounded p] [hf : BoundedAll f] : BoundedAll fun i => p >>= fun _ => f i :=
  ⟨hp.bound + hf.bound, fun i => hp.within.bind fun _ => hf.within i⟩

instance {body : Nat → Prog Op Res Unit} [h : BoundedAll body] (n : Nat) : Bounded (upTo body n) :=
  ⟨n * h.bound, .upTo h.within n⟩

theorem within_of_bounded [h : Bounded p] {n : Nat} (hn : h.bound ≤ n) : p.Within n := h.within.mono hn

end Bounded

end Prog

/-- Environments that answer alike what the program can ask. -/
theorem run_congr {env' : Env Op Res ε σ} {P : Op → Prop} (henv : ∀ o s, P o → env o s = env' o s)
    {p : Prog Op Res α} (hp : p.Only P) (s : σ) : run env p s = run env' p s := by
  induction p generalizing s with
  | ret a => rfl
  | op o k ih =>
    rw [run, run, henv o s hp.1]
    rcases env' o s with ⟨l, _ | ⟨r, s'⟩⟩
    · rfl
    · dsimp only
      rw [ih r (hp.2 r)]

/-- What the events of each request satisfy that the program can make. -/
theorem run_events {R : Op → Prop} {P : ε → Prop} (henv : ∀ o s, R o → ∀ e ∈ (env o s).1, P e) {p : Prog Op Res α}
    (hp : p.Only R) (s : σ) : ∀ e ∈ (run env p s).1, P e := by
  induction p generalizing s with
  | ret a => exact nofun
  | op o k ih =>
    have ho := henv o s hp.1
    rw [run]
    rcases henvs : env o s with ⟨l, _ | ⟨r, s'⟩⟩
    · rw [henvs] at ho
      exact ho
    · rw [henvs] at ho
      intro e he
      rcases List.mem_append.1 he with he | he
      · exact ho e he
      · exact ih r (hp.2 r) s' e he

theorem mem_run_bind {p : Prog Op Res α} (f : α → Prog Op Res β) {s : σ} {e : ε} (h : e ∈ (run env p s).1) :
    e ∈ (run env (p >>= f) s).1 := by
  rw [run_bind]
  rcases hr : run env p s with ⟨l, _ | ⟨a, s'⟩⟩ <;> rw [hr] at h
  · exact h
  · exact List.mem_append_left _ h

/-- A program whose requests are all answered returns. -/
theorem run_returns {P : Op → Prop} (henv : ∀ o s, P o → (env o s).2.isSome) {p : Prog Op Res α} (hp : p.Only P)
    (s : σ) : (run env p s).2.isSome := by
  induction p generalizing s with
  | ret a => rfl
  | op o k ih =>
    have ho := henv o s hp.1
    rw [run]
    rcases henvs : env o s with ⟨l, _ | ⟨r, s'⟩⟩
    · rw [henvs] at ho; cases ho
    · exact ih r (hp.2 r) s'

/-- A program whose requests leave an event against `P` where they stop the run returns, if all
its events satisfy `P`. -/
theorem run_returns_of_events {R : Op → Prop} {P : ε → Prop} {p : Prog Op Res α} {s : σ}
    (h : ∀ e ∈ (run env p s).1, P e) (hp : p.Only R)
    (henv : ∀ o s, R o → (env o s).2 = none → ∃ e ∈ (env o s).1, ¬ P e) : (run env p s).2.isSome := by
  induction p generalizing s with
  | ret a => rfl
  | op o k ih =>
    have ho := henv o s hp.1
    rw [run] at h ⊢
    rcases henvs : env o s with ⟨l, _ | ⟨r, s'⟩⟩
    · rw [henvs] at ho h
      obtain ⟨e, he, hstop⟩ := ho rfl
      exact absurd (h e he) hstop
    · rw [henvs] at h
      exact ih r (fun e he => h e (List.mem_append_right l he)) (hp.2 r)

/-! ## What holds of every event of a run -/

/-- Every event satisfies `P`, and the result satisfies `Q`. -/
structure Always (env : Env Op Res ε σ) (P : ε → Prop) (p : Prog Op Res α) (s : σ) (Q : α → σ → Prop) : Prop where
  events : ∀ e ∈ (run env p s).1, P e
  result : ∀ a s', (run env p s).2 = some (a, s') → Q a s'

namespace Always

variable {P : ε → Prop} {p : Prog Op Res α} {s : σ} {Q Q' : α → σ → Prop}

theorem pure {a : α} (h : Q a s) : Always env P (pure a) s Q where
  events e he := by rw [run_pure] at he; cases he
  result a' s' h' := by cases h'; exact h

theorem mono (h : Always env P p s Q) (hQ : ∀ a s', Q a s' → Q' a s') : Always env P p s Q' :=
  ⟨h.events, fun a s' hr => hQ a s' (h.result a s' hr)⟩

theorem bind {f : α → Prog Op Res β} {R : β → σ → Prop} (h : Always env P p s Q)
    (hf : ∀ a s', Q a s' → Always env P (f a) s' R) : Always env P (p >>= f) s R := by
  obtain ⟨hevents, hresult⟩ := h
  rcases hr : run env p s with ⟨l, _ | ⟨a, s'⟩⟩
  · rw [hr] at hevents
    constructor <;> rw [run_bind, hr]
    · exact hevents
    · intro b t h'; cases h'
  · rw [hr] at hevents
    have hnext := hf a s' (hresult a s' (by rw [hr]))
    constructor <;> rw [run_bind, hr]
    · intro e he
      rcases List.mem_append.1 he with he | he
      · exact hevents e he
      · exact hnext.events e he
    · exact hnext.result

theorem call {o : Op} {Q : Res o → σ → Prop} (h : ∀ e ∈ (env o s).1, P e)
    (hQ : ∀ r s', (env o s).2 = some (r, s') → Q r s') : Always env P (Prog.call o) s Q := by
  constructor <;> rw [run_call]
  · exact h
  · exact hQ

/-- What each round keeps of the rounds before it, a counted loop keeps of all. -/
theorem upTo {body : Nat → Prog Op Res Unit} {I : Nat → σ → Prop} (h0 : I 0 s) : ∀ (n : Nat),
    (∀ i s, i < n → I i s → Always env P (body i) s fun _ => I (i + 1)) →
      Always env P (Prog.upTo body n) s fun _ => I n
  | 0, _ => .pure h0
  | n + 1, hbody => (upTo h0 n fun i s hi => hbody i s (by omega)).bind fun _ s' hs' => hbody n s' (by omega) hs'

/-- A loop whose first round does not return does not return. -/
theorem upTo_stuck {body : Nat → Prog Op Res Unit} (h : Always env P (body 0) s fun _ _ => False) : ∀ (n : Nat),
    Always env P (Prog.upTo body (n + 1)) s fun _ _ => False
  | 0 => h
  | n + 1 => (upTo_stuck h n).bind fun _ _ hstuck => hstuck.elim

end Always

/-! ## What holds of every prefix of a run -/

/-- Behind the events `h`, as long as the events satisfy `A`, `E` holds of every prefix of them and `Q`
of the result. -/
structure Meets (env : Env Op Res ε σ) (A : ε → Prop) (E : List ε → Prop) (p : Prog Op Res α) (h : List ε) (s : σ)
    (Q : List ε → α → σ → Prop) : Prop where
  events : ∀ l, l <+: (run env p s).1 → (∀ e ∈ l, A e) → E (h ++ l)
  result : ∀ a s', (run env p s).2 = some (a, s') → (∀ e ∈ (run env p s).1, A e) →
    Q (h ++ (run env p s).1) a s'

namespace Meets

variable {A : ε → Prop} {E : List ε → Prop} {p : Prog Op Res α} {h : List ε} {s : σ} {Q Q' : List ε → α → σ → Prop}

theorem pure {a : α} (hE : E h) (hQ : Q h a s) : Meets env A E (pure a) h s Q where
  events l hl _ := by
    rw [run_pure, List.prefix_nil] at hl
    rwa [hl, List.append_nil]
  result a' s' h' _ := by
    cases h'
    rwa [run_pure, List.append_nil]

theorem mono (hp : Meets env A E p h s Q) (hQ : ∀ l a s', Q l a s' → Q' l a s') : Meets env A E p h s Q' :=
  ⟨hp.events, fun a s' hr hA => hQ _ a s' (hp.result a s' hr hA)⟩

theorem bind {f : α → Prog Op Res β} {R : List ε → β → σ → Prop} (hp : Meets env A E p h s Q)
    (hf : ∀ h' a s', Q h' a s' → Meets env A E (f a) h' s' R) : Meets env A E (p >>= f) h s R := by
  rcases hr : run env p s with ⟨l₁, _ | ⟨a, s'⟩⟩
  · have hb : run env (p >>= f) s = _ := run_bind p f s
    rw [hr] at hb
    dsimp only at hb
    constructor
    · intro l hl hA
      rw [hb] at hl
      refine hp.events l ?_ hA
      rw [hr]
      exact hl
    · intro a s' h' _
      rw [hb] at h'
      cases h'
  · have hb : run env (p >>= f) s = _ := run_bind p f s
    rw [hr] at hb
    dsimp only at hb
    have hnext (hA : ∀ e ∈ l₁, A e) := hf (h ++ l₁) a s' <| by
      have := hp.result a s' (by rw [hr])
      rw [hr] at this
      exact this hA
    constructor
    · intro l hl hA
      rw [hb] at hl
      -- a prefix ends in the first part, or takes all of it and a prefix of the second
      rcases List.prefix_or_prefix_of_prefix hl (List.prefix_append l₁ _) with hl₁ | ⟨l', rfl⟩
      · exact hp.events l (by rwa [hr]) hA
      · have hl' := (List.prefix_append_right_inj l₁).1 hl
        rw [← List.append_assoc]
        exact (hnext fun e he => hA e (List.mem_append_left _ he)).events l' hl' fun e he =>
          hA e (List.mem_append_right _ he)
    · intro b t h' hA
      rw [hb] at h' hA ⊢
      rw [← List.append_assoc]
      exact (hnext fun e he => hA e (List.mem_append_left _ he)).result b t h' fun e he =>
        hA e (List.mem_append_right _ he)

/-- A request that leaves one event. -/
theorem call {o : Op} {e : ε} {r : Option (Res o × σ)} {Q : List ε → Res o → σ → Prop}
    (ho : env o s = ([e], r)) (h0 : E h) (h1 : A e → E (h ++ [e]))
    (hQ : ∀ a s', r = some (a, s') → A e → Q (h ++ [e]) a s') : Meets env A E (Prog.call o) h s Q := by
  have hr : run env (Prog.call o) s = env o s := run_call o s
  rw [ho] at hr
  constructor
  · intro l hl hA
    rw [hr] at hl
    rcases List.prefix_cons_iff.1 hl with rfl | ⟨l', rfl, hl'⟩
    · rwa [List.append_nil]
    · rw [List.prefix_nil] at hl'
      subst hl'
      exact h1 (hA e (by simp))
  · intro a s' h' hA
    rw [hr] at h' hA ⊢
    exact hQ a s' h' (hA e (by simp))

end Meets

/-! ## What holds of two runs side by side -/

/-- Two runs of one program look the same through `view` and return the same answer, if they return. -/
structure Alike (env : Env Op Res ε σ) (view : ε → γ) (p : Prog Op Res α) (s t : σ) (Q : α → σ → σ → Prop) :
    Prop where
  events : (run env p s).1.map view = (run env p t).1.map view
  result : Option.Rel (fun x y => x.1 = y.1 ∧ Q x.1 x.2 y.2) (run env p s).2 (run env p t).2

namespace Alike

variable {view : ε → γ} {p : Prog Op Res α} {s t : σ} {Q : α → σ → σ → Prop}

theorem pure {a : α} (h : Q a s t) : Alike env view (pure a) s t Q where
  events := rfl
  result := .some ⟨rfl, h⟩

theorem bind {f : α → Prog Op Res β} {R : β → σ → σ → Prop} (h : Alike env view p s t Q)
    (hf : ∀ a s' t', Q a s' t' → Alike env view (f a) s' t' R) : Alike env view (p >>= f) s t R := by
  obtain ⟨hevents, hresult⟩ := h
  rcases hs : run env p s with ⟨l, _ | ⟨a, s'⟩⟩ <;> rcases ht : run env p t with ⟨l', _ | ⟨b, t'⟩⟩ <;>
    rw [hs, ht] at hevents hresult <;> cases hresult
  -- both stop in the first part, or both go on with the same answer
  · refine ⟨?_, ?_⟩ <;> rw [run_bind, run_bind, hs, ht]
    · exact hevents
    · exact .none
  · rename_i hab
    obtain ⟨rfl, hQ⟩ : a = b ∧ Q a s' t' := hab
    have hnext := hf a s' t' hQ
    constructor <;> rw [run_bind, run_bind, hs, ht]
    · dsimp only at hevents ⊢
      rw [List.map_append, List.map_append, hevents, hnext.events]
    · exact hnext.result

theorem call {o : Op} {Q : Res o → σ → σ → Prop} (h : (env o s).1.map view = (env o t).1.map view)
    (hQ : Option.Rel (fun x y => x.1 = y.1 ∧ Q x.1 x.2 y.2) (env o s).2 (env o t).2) :
    Alike env view (Prog.call o) s t Q := by
  constructor <;> rw [run_call, run_call]
  · exact h
  · exact hQ

end Alike

end Interact
