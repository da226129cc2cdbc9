/-
Loops that need not end, as programs. Of such a loop only a number of rounds can be run, after which it
has ended with a result or is about to go on from a state.
-/
import NandRig.Lib.Interact

namespace Interact

variable {Op : Type} {Res : Op → Type} {ε τ σ ρ : Type}

/-- At most `n` rounds from `s` on. A round goes on with the next state, or ends with a result. -/
def rounds (round : σ → Prog Op Res (σ ⊕ ρ)) : (n : Nat) → σ → Prog Op Res (σ ⊕ ρ)
  | 0, s => pure (.inl s)
  | n + 1, s => do
    match ← round s with
    | .inl s => rounds round n s
    | .inr r => pure (.inr r)

/-- A loop that has ended makes no further round. -/
theorem rounds_add (round : σ → Prog Op Res (σ ⊕ ρ)) (k : Nat) : ∀ (n : Nat) (s : σ),
    rounds round (n + k) s = rounds round n s >>= Sum.elim (rounds round k) fun r => pure (.inr r)
  | 0, s => by
    rw [Nat.zero_add, rounds, pure_bind]
    rfl
  | n + 1, s => by
    rw [Nat.succ_add, rounds, rounds, bind_assoc]
    refine congrArg _ (funext fun x => ?_)
    rcases x with s' | r
    · exact rounds_add round k n s'
    · rw [pure_bind]
      rfl

variable {env : Env Op Res ε τ} {round : σ → Prog Op Res (σ ⊕ ρ)}

theorem run_rounds_goes {s s' : σ} {t t' : τ} {l : List ε}
    (h : run env (round s) t = (l, some (.inl s', t'))) (n : Nat) :
    run env (rounds round (n + 1) s) t =
      (l ++ (run env (rounds round n s') t').1, (run env (rounds round n s') t').2) := by
  rw [rounds]
  exact run_bind_of h

/-- What each round keeps, the loop keeps. -/
theorem Always.rounds {P : ε → Prop} {I : σ → τ → Prop} {Q : ρ → τ → Prop}
    (hround : ∀ s t, I s t → Always env P (round s) t fun x t' => Sum.elim (I · t') (Q · t') x) :
    ∀ (n : Nat) (s : σ) (t : τ), I s t →
      Always env P (Interact.rounds round n s) t fun x t' => Sum.elim (I · t') (Q · t') x
  | 0, _, _, hs => .pure hs
  | n + 1, s, t, hs => by
    refine (hround s t hs).bind ?_
    rintro (s' | r) t' hx
    · exact Always.rounds hround n s' t' hx
    · exact .pure hx

end Interact
