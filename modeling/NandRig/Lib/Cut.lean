/-
A range of addresses cut at the multiples of a unit: the first piece may start and the last one may end
inside a unit, and every other boundary lies between two units.
-/
import Mathlib.Tactic

namespace Cut

/-- Pieces of these lengths, one behind the other from `start` on, cut `size` addresses: none is empty or
reaches from one unit into the next, and all but the last reach the end of theirs. -/
structure Cuts (unit start size : Nat) (lens : List Nat) : Prop where
  bounds : ∀ l ∈ lens, 1 ≤ l ∧ l ≤ unit
  sum : lens.sum = size
  inside : ∀ init l tail, lens = init ++ l :: tail →
    (start + init.sum) / unit = (start + init.sum + l - 1) / unit
  full : ∀ init l l' tail, lens = init ++ l :: l' :: tail → unit ∣ start + init.sum + l

variable {unit start size : Nat} {lens : List Nat}

namespace Cuts

theorem nil (unit start : Nat) : Cuts unit start 0 [] where
  bounds := by simp
  sum := rfl
  inside init l tail h := by simp at h
  full init l l' tail h := by simp at h

/-- The rest of a unit, and what comes behind it. -/
theorem cons (hunit : 0 < unit) (hsize : 0 < size)
    (h : Cuts unit (start + min size (unit - start % unit)) (size - min size (unit - start % unit)) lens) :
    Cuts unit start size (min size (unit - start % unit) :: lens) := by
  have hmod : start % unit < unit := Nat.mod_lt start hunit
  have hdiv := Nat.div_add_mod start unit
  set l := min size (unit - start % unit) with hl
  refine ⟨?_, ?_, ?_, ?_⟩
  · intro l' hl'
    rcases List.mem_cons.1 hl' with rfl | hl'
    · omega
    · exact h.bounds l' hl'
  · rw [List.sum_cons, h.sum]
    omega
  · rintro (_ | ⟨l', init⟩) l'' tail hsplit
    · obtain ⟨rfl, -⟩ := List.cons.inj hsplit
      rw [List.sum_nil, Nat.add_zero]
      refine ((Nat.div_eq_of_lt_le ?_ ?_).trans rfl).symm
      · rw [Nat.mul_comm]
        omega
      · rw [Nat.add_mul, Nat.mul_comm, Nat.one_mul]
        omega
    · obtain ⟨rfl, hrest⟩ := List.cons.inj hsplit
      rw [List.sum_cons, ← Nat.add_assoc]
      exact h.inside init l'' tail hrest
  · rintro (_ | ⟨l', init⟩) l'' l''' tail hsplit
    -- another piece follows, so the first one was cut off by the end of the unit
    · obtain ⟨rfl, hrest⟩ := List.cons.inj hsplit
      have hsum := h.sum
      have hpos := (h.bounds l''' (by simp [hrest])).1
      rw [hrest, List.sum_cons] at hsum
      have hend : start + l = unit * (start / unit + 1) := by
        rw [Nat.mul_add, Nat.mul_one]
        omega
      rw [List.sum_nil, Nat.add_zero, hend]
      exact Nat.dvd_mul_right _ _
    · obtain ⟨rfl, hrest⟩ := List.cons.inj hsplit
      rw [List.sum_cons, ← Nat.add_assoc]
      exact h.full init l'' l''' tail hrest

/-- Consecutive pieces lie in consecutive units. -/
theorem next (h : Cuts unit start size lens) {init tail : List Nat} {l l' : Nat}
    (hsplit : lens = init ++ l :: l' :: tail) :
    (start + init.sum + l) / unit = (start + init.sum) / unit + 1 := by
  have hpos := (h.bounds l (by simp [hsplit])).1
  obtain ⟨k, hk⟩ := h.full init l l' tail hsplit
  have hinside := h.inside init l (l' :: tail) hsplit
  have hunit : 0 < unit := by
    rcases Nat.eq_zero_or_pos unit with rfl | hunit
    · rw [Nat.zero_mul] at hk
      omega
    · exact hunit
  obtain ⟨k, rfl⟩ : ∃ j, k = j + 1 := Nat.exists_eq_succ_of_ne_zero (by rintro rfl; omega)
  have hmul : unit * (k + 1) = k * unit + unit := by rw [Nat.mul_succ, Nat.mul_comm]
  have hsucc : (k + 1) * unit = k * unit + unit := Nat.succ_mul k unit
  have hlast : (start + init.sum + l - 1) / unit = k := Nat.div_eq_of_lt_le (by omega) (by omega)
  rw [hinside, hlast, hk, Nat.mul_div_cancel_left _ hunit]

end Cuts

end Cut
