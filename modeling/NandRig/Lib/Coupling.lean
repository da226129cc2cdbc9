/-
What is known of programs whatever the answers, or whatever answers of a kind: that their results satisfy a
postcondition, and of two programs that they make the same requests to the end and return related results.
-/
import NandRig.Lib.Rounds

namespace Interact

variable {Op : Type} {Res : Op → Type} {α β γ δ : Type}

/-! ## One program -/

/-- Whatever the answers that satisfy `A`, a result satisfies `Q`. -/
def Prog.Ensures (A : (o : Op) → Res o → Prop) (Q : α → Prop) : Prog Op Res α → Prop
  | .ret a => Q a
  | .op o k => ∀ r, A o r → (k r).Ensures A Q

namespace Prog.Ensures

variable {A : (o : Op) → Res o → Prop} {Q Q' : α → Prop} {p : Prog Op Res α}

theorem mono (h : p.Ensures A Q) (hQ : ∀ a, Q a → Q' a) : p.Ensures A Q' := by
  induction p with
  | ret a => exact hQ a h
  | op o k ih => exact fun r hr => ih r (h r hr)

theorem bind {S : β → Prop} {f : α → Prog Op Res β} (h : p.Ensures A Q) (hf : ∀ a, Q a → (f a).Ensures A S) :
    (p >>= f).Ensures A S := by
  induction p with
  | ret a => exact hf a h
  | op o k ih => exact fun r hr => ih r (h r hr)

theorem trivial (A : (o : Op) → Res o → Prop) (p : Prog Op Res α) : p.Ensures A fun _ => True := by
  induction p with
  | ret a => exact True.intro
  | op o k ih => exact fun r _ => ih r

/-- What each round keeps, the loop keeps. -/
theorem rounds {σ ρ : Type} {round : σ → Prog Op Res (σ ⊕ ρ)} {I : σ → Prop} {R : ρ → Prop}
    (hround : ∀ s, I s → (round s).Ensures A (Sum.elim I R)) :
    ∀ (n : Nat) (s : σ), I s → (Interact.rounds round n s).Ensures A (Sum.elim I R)
  | 0, _, hs => hs
  | n + 1, s, hs => (hround s hs).bind <| by
    rintro (s' | r) hx
    · exact rounds hround n s' hx
    · exact hx

/-- The result of a run whose environment gives no other answers. -/
theorem run {ε σ : Type} {env : Env Op Res ε σ} (henv : ∀ o s r s', (env o s).2 = some (r, s') → A o r)
    (h : p.Ensures A Q) {s s' : σ} {a : α} (hr : (Interact.run env p s).2 = some (a, s')) : Q a := by
  induction p generalizing s with
  | ret b =>
    cases hr
    exact h
  | op o k ih =>
    rw [Interact.run] at hr
    rcases he : env o s with ⟨l, _ | ⟨r, s''⟩⟩ <;> rw [he] at hr
    · cases hr
    · exact ih r (h r (henv o s r s'' (by rw [he]))) hr

end Prog.Ensures

/-! ## Two programs -/

/-- The two programs make the same requests, and `R` holds of what they return. -/
inductive Coupled (R : α → β → Prop) : Prog Op Res α → Prog Op Res β → Prop
  | ret {a : α} {b : β} (h : R a b) : Coupled R (.ret a) (.ret b)
  | op {o : Op} {k : Res o → Prog Op Res α} {k' : Res o → Prog Op Res β} (h : ∀ r, Coupled R (k r) (k' r)) :
    Coupled R (.op o k) (.op o k')

namespace Coupled

variable {R R' : α → β → Prop} {p : Prog Op Res α} {q : Prog Op Res β}

theorem pure {a : α} {b : β} (h : R a b) : Coupled R (Pure.pure a : Prog Op Res α) (Pure.pure b) := .ret h

theorem mono (h : Coupled R p q) (hR : ∀ a b, R a b → R' a b) : Coupled R' p q := by
  induction h with
  | ret h => exact .ret (hR _ _ h)
  | op _ ih => exact .op ih

theorem bind {S : γ → δ → Prop} {f : α → Prog Op Res γ} {g : β → Prog Op Res δ} (h : Coupled R p q)
    (hfg : ∀ a b, R a b → Coupled S (f a) (g b)) : Coupled S (p >>= f) (q >>= g) := by
  induction h with
  | ret h => exact hfg _ _ h
  | op _ ih => exact .op ih

/-- One request, made by both. -/
theorem call {S : γ → δ → Prop} (o : Op) {f : Res o → Prog Op Res γ} {g : Res o → Prog Op Res δ}
    (hfg : ∀ r, Coupled S (f r) (g r)) : Coupled S (Prog.call o >>= f) (Prog.call o >>= g) := .op hfg

theorem refl (p : Prog Op Res α) (R : α → α → Prop) (hR : ∀ a, R a a) : Coupled R p p := by
  induction p with
  | ret a => exact .ret (hR a)
  | op o k ih => exact .op ih

/-- Runs leave the same events, end in the same state, and return related results. -/
theorem run {ε σ : Type} (env : Env Op Res ε σ) (h : Coupled R p q) (s : σ) :
    (Interact.run env p s).1 = (Interact.run env q s).1 ∧
      Option.Rel (fun x y => R x.1 y.1 ∧ x.2 = y.2) (Interact.run env p s).2 (Interact.run env q s).2 := by
  induction h generalizing s with
  | ret h => exact ⟨rfl, .some ⟨h, rfl⟩⟩
  | @op o k k' _ ih =>
    rw [Interact.run, Interact.run]
    rcases env o s with ⟨l, _ | ⟨r, s'⟩⟩
    · exact ⟨rfl, .none⟩
    · obtain ⟨hevents, hresult⟩ := ih r s'
      exact ⟨congrArg (l ++ ·) hevents, hresult⟩

end Coupled

end Interact
