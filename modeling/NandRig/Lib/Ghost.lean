/-
Runs with a ghost state beside the state. Where the program makes only requests to which the ghost makes no
difference, the run is the one without it.
-/
import NandRig.Lib.Interact

namespace Interact

variable {Op : Type} {Res : Op → Type} {α β γ ε σ : Type}

/-- From the ghost `g` on, the program makes only requests that are allowed with the ghost at hand; `next` are
the moves of the ghost, whatever the answers. -/
def Prog.Obeys (allowed : γ → Op → Prop) (next : γ → (o : Op) → γ → Prop) : Prog Op Res α → γ → Prop
  | .ret _, _ => True
  | .op o k, g => allowed g o ∧ ∀ r g', next g o g' → (k r).Obeys allowed next g'

namespace Prog.Obeys

variable {allowed : γ → Op → Prop} {next : γ → (o : Op) → γ → Prop} {p : Prog Op Res α} {g : γ}

theorem bind {f : α → Prog Op Res β} (h : p.Obeys allowed next g) (hf : ∀ a g', (f a).Obeys allowed next g') :
    (p >>= f).Obeys allowed next g := by
  induction p generalizing g with
  | ret a => exact hf a g
  | op o k ih => exact ⟨h.1, fun r g' hg' => ih r (h.2 r g' hg')⟩

/-- Requests that are allowed with every ghost. -/
theorem of_only {P : Op → Prop} (hP : ∀ g o, P o → allowed g o) (h : p.Only P) (g : γ) :
    p.Obeys allowed next g := by
  induction p generalizing g with
  | ret a => exact True.intro
  | op o k ih => exact ⟨hP g o h.1, fun r g' _ => ih r (h.2 r) g'⟩

end Prog.Obeys

/-- The result, without the ghost. -/
def forget : Option (α × σ × γ) → Option (α × σ) := Option.map fun x => (x.1, x.2.1)

@[simp] theorem forget_map (x : Option (α × σ)) (g : α × σ → γ) : forget (x.map fun y => (y.1, y.2, g y)) = x := by
  cases x <;> rfl

/-- `env'` answers as `env` does and moves the ghost, where the ghost allows the request. -/
structure Haunts (env : Env Op Res ε σ) (env' : Env Op Res ε (σ × γ)) (allowed : γ → Op → Prop)
    (next : γ → (o : Op) → γ → Prop) : Prop where
  events : ∀ {o s g}, allowed g o → (env' o (s, g)).1 = (env o s).1
  answer : ∀ {o s g}, allowed g o → forget (env' o (s, g)).2 = (env o s).2
  moves : ∀ {o s g r s' g'}, allowed g o → (env' o (s, g)).2 = some (r, s', g') → next g o g'

/-- The run is the one without the ghost. -/
theorem Haunts.run {env : Env Op Res ε σ} {env' : Env Op Res ε (σ × γ)} {allowed : γ → Op → Prop}
    {next : γ → (o : Op) → γ → Prop} (h : Haunts env env' allowed next) {p : Prog Op Res α} {s : σ} {g : γ}
    (hp : p.Obeys allowed next g) :
    (Interact.run env' p (s, g)).1 = (Interact.run env p s).1 ∧
      forget (Interact.run env' p (s, g)).2 = (Interact.run env p s).2 := by
  induction p generalizing s g with
  | ret a => exact ⟨rfl, rfl⟩
  | op o k ih =>
    obtain ⟨ho, hk⟩ := hp
    have hevents := h.events (s := s) ho
    have hanswer := h.answer (s := s) ho
    rw [Interact.run, Interact.run]
    rcases henv' : env' o (s, g) with ⟨l, _ | ⟨r, s', g'⟩⟩ <;> rw [henv'] at hevents hanswer
    · rcases henv : env o s with ⟨l', y⟩
      rw [henv] at hevents hanswer
      dsimp only at hevents hanswer
      subst hevents
      rw [← hanswer]
      exact ⟨rfl, rfl⟩
    · have hg' := h.moves ho (by rw [henv'])
      rcases henv : env o s with ⟨l', y⟩
      rw [henv] at hevents hanswer
      dsimp only at hevents hanswer
      subst hevents
      rw [← hanswer]
      obtain ⟨hrest, hresult⟩ := ih r (s := s') (hk r g' hg')
      exact ⟨congrArg (l ++ ·) hrest, hresult⟩

end Interact
