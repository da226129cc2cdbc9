/-
Two more rules of programs that ask their environment. A run ends with a result that satisfies a
postcondition, where it returns or where it must; and a result is judged by the transcript of the run,
the requests with their answers.
-/
import NandRig.Lib.Interact

namespace Interact

variable {Op : Type} {Res : Op → Type} {α β ε σ : Type} {env : Env Op Res ε σ}

/-! ## How a run ends -/

/-- The result of the run satisfies `Q`, and if it must return, it does. -/
structure Yields (must : Prop) (env : Env Op Res ε σ) (p : Prog Op Res α) (s : σ) (Q : α → σ → Prop) : Prop where
  returns : must → (run env p s).2.isSome
  result : ∀ a s', (run env p s).2 = some (a, s') → Q a s'

namespace Yields

variable {must : Prop} {p : Prog Op Res α} {s : σ} {Q Q' : α → σ → Prop}

theorem pure {a : α} (h : Q a s) : Yields must env (pure a) s Q where
  returns _ := rfl
  result a' s' h' := by cases h'; exact h

theorem mono (h : Yields must env p s Q) (hQ : ∀ a s', Q a s' → Q' a s') : Yields must env p s Q' :=
  ⟨h.returns, fun a s' hr => hQ a s' (h.result a s' hr)⟩

theorem bind {f : α → Prog Op Res β} {R : β → σ → Prop} (h : Yields must env p s Q)
    (hf : ∀ a s', Q a s' → Yields must env (f a) s' R) : Yields must env (p >>= f) s R := by
  obtain ⟨hreturns, hresult⟩ := h
  rcases hr : run env p s with ⟨l, _ | ⟨a, s'⟩⟩
  · constructor
    · intro hmust
      have hsome := hreturns hmust
      rw [hr] at hsome
      cases hsome
    · intro b t hb
      rw [run_bind, hr] at hb
      cases hb
  · obtain ⟨hreturns', hresult'⟩ := hf a s' (hresult a s' (by rw [hr]))
    constructor <;> rw [run_bind_of hr]
    · exact hreturns'
    · exact hresult'

theorem call {o : Op} {Q : Res o → σ → Prop} (h : must → (env o s).2.isSome)
    (hQ : ∀ r s', (env o s).2 = some (r, s') → Q r s') : Yields must env (Prog.call o) s Q := by
  constructor <;> rw [run_call]
  · exact h
  · exact hQ

/-- What is known of a program that ends by applying a function is known before it does. -/
theorem of_map {g : α → β} {R : β → σ → Prop} (h : Yields must env (p >>= fun a => Pure.pure (g a)) s R) :
    Yields must env p s fun a s' => R (g a) s' := by
  obtain ⟨hreturns, hresult⟩ := h
  rcases hr : run env p s with ⟨l, _ | ⟨a, s'⟩⟩
  · rw [run_bind, hr] at hreturns
    constructor <;> rw [hr]
    · exact hreturns
    · intro a s' h'
      cases h'
  · constructor <;> rw [hr]
    · exact fun _ => rfl
    · intro b t h'
      cases h'
      exact hresult (g a) s' (by rw [run_bind_of hr]; rfl)

end Yields

/-! ## Transcripts -/

/-- A request with its answer. -/
abbrev Exchange (Op : Type) (Res : Op → Type) : Type := (o : Op) × Res o

/-- The environment that answers as `env` and leaves what was asked and answered as its events. -/
def recording (env : Env Op Res ε σ) : Env Op Res (Exchange Op Res) σ := fun o s =>
  ((env o s).2.elim [] fun x => [⟨o, x.1⟩], (env o s).2)

/-- The transcript of a run. -/
def transcript (env : Env Op Res ε σ) (p : Prog Op Res α) (s : σ) : List (Exchange Op Res) :=
  (run (recording env) p s).1

/-- Recording changes no result. -/
theorem run_recording (p : Prog Op Res α) (s : σ) : (run (recording env) p s).2 = (run env p s).2 := by
  induction p generalizing s with
  | ret a => rfl
  | op o k ih =>
    rw [run, run]
    unfold recording
    rcases env o s with ⟨l, _ | ⟨r, s'⟩⟩
    · rfl
    · exact ih r s'

/-- Behind the exchanges `h`, a run that returns does so with a result and a transcript that satisfy `Q`. -/
def Tells (env : Env Op Res ε σ) (p : Prog Op Res α) (h : List (Exchange Op Res)) (s : σ)
    (Q : List (Exchange Op Res) → α → σ → Prop) : Prop :=
  ∀ a s', (run env p s).2 = some (a, s') → Q (h ++ transcript env p s) a s'

namespace Tells

variable {p : Prog Op Res α} {h : List (Exchange Op Res)} {s : σ} {Q : List (Exchange Op Res) → α → σ → Prop}

theorem pure {a : α} (hQ : Q h a s) : Tells env (pure a) h s Q := by
  intro a' s' h'
  cases h'
  rwa [transcript, run_pure, List.append_nil]

theorem bind {f : α → Prog Op Res β} {R : List (Exchange Op Res) → β → σ → Prop} (hp : Tells env p h s Q)
    (hf : ∀ h' a s', Q h' a s' → Tells env (f a) h' s' R) : Tells env (p >>= f) h s R := by
  intro b t hb
  have hrec : (run (recording env) p s).2 = (run env p s).2 := run_recording p s
  have hbind : run env (p >>= f) s = _ := run_bind p f s
  rcases hr : run env p s with ⟨l, _ | ⟨a, s'⟩⟩
  · rw [hbind, hr] at hb
    cases hb
  · rw [hbind, hr] at hb
    rw [hr] at hrec
    have hp' : run (recording env) p s = (transcript env p s, some (a, s')) := Prod.ext rfl hrec
    have hnext := hf _ a s' (hp a s' (by rw [hr])) b t hb
    unfold transcript
    rw [run_bind_of hp', ← List.append_assoc]
    exact hnext

theorem call {o : Op} {Q : List (Exchange Op Res) → Res o → σ → Prop}
    (hQ : ∀ r s', (env o s).2 = some (r, s') → Q (h ++ [⟨o, r⟩]) r s') : Tells env (Prog.call o) h s Q := by
  intro r s' hr
  rw [run_call] at hr
  have hone : transcript env (Prog.call o) s = [⟨o, r⟩] := by
    unfold transcript
    rw [run_call]
    unfold recording
    rw [hr, Option.elim_some]
  rw [hone]
  exact hQ r s' hr

end Tells

end Interact
