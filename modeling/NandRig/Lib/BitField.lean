/-
Bit fields of machine words as arithmetic: reading the field of `k` bits at position `s` is a
division and a remainder, and replacing it keeps the bits above and below.
-/
import Mathlib.Tactic

namespace BitField

/-! ## Reading a field -/

theorem and_field (n k s : Nat) : n &&& ((2 ^ k - 1) <<< s) = n / 2 ^ s % 2 ^ k * 2 ^ s := by
  apply Nat.eq_of_testBit_eq
  intro i
  rw [Nat.testBit_and, Nat.testBit_shiftLeft, Nat.testBit_mul_two_pow, Nat.testBit_mod_two_pow,
    Nat.testBit_div_two_pow, Nat.testBit_two_pow_sub_one]
  by_cases hs : s ≤ i
  · simp [hs, Bool.and_comm]
  · simp [hs]

theorem and_field_shiftRight (n k s : Nat) : (n &&& ((2 ^ k - 1) <<< s)) >>> s = n / 2 ^ s % 2 ^ k := by
  rw [and_field, Nat.shiftRight_eq_div_pow, Nat.mul_div_cancel _ (Nat.two_pow_pos s)]

/-! ## Replacing a field -/

/-- Three adjacent fields add up to their bitwise or. -/
theorem or_fields (hi v lo k s : Nat) (hv : v < 2 ^ k) (hlo : lo < 2 ^ s) :
    hi * 2 ^ (s + k) + v * 2 ^ s + lo = (hi <<< (s + k) ||| v <<< s) ||| lo := by
  have h1 : v * 2 ^ s + lo < 2 ^ (s + k) := by
    have : (v + 1) * 2 ^ s ≤ 2 ^ k * 2 ^ s := Nat.mul_le_mul_right _ hv
    rw [Nat.pow_add, Nat.mul_comm (2 ^ s)]
    linarith
  calc hi * 2 ^ (s + k) + v * 2 ^ s + lo
      = 2 ^ (s + k) * hi + (2 ^ s * v + lo) := by ring
    _ = 2 ^ (s + k) * hi ||| (2 ^ s * v ||| lo) := by
        rw [Nat.two_pow_add_eq_or_of_lt (by linarith), Nat.two_pow_add_eq_or_of_lt hlo]
    _ = (hi <<< (s + k) ||| v <<< s) ||| lo := by
        rw [Nat.shiftLeft_eq, Nat.shiftLeft_eq, Nat.or_assoc, Nat.mul_comm, Nat.mul_comm v]

/-- Writing `v` to the field of `k` bits at `s` of the word `x`. -/
theorem setField_toNat {w k s : Nat} (x v : BitVec w) (hv : v.toNat < 2 ^ k) (hw : s + k ≤ w) :
    ((x &&& ~~~(BitVec.ofNat w (2 ^ k - 1) <<< s)) ||| (v <<< s)).toNat =
      x.toNat / 2 ^ (s + k) * 2 ^ (s + k) + v.toNat * 2 ^ s + x.toNat % 2 ^ s := by
  rw [or_fields _ _ _ _ _ hv (Nat.mod_lt _ (Nat.two_pow_pos s))]
  apply Nat.eq_of_testBit_eq
  intro i
  -- past its `k` bits the value is zero
  have hfield : k ≤ i - s → v.getLsbD (i - s) = false := fun hi =>
    Nat.testBit_lt_two_pow (lt_of_lt_of_le hv (Nat.pow_le_pow_right (by norm_num) hi))
  simp only [Nat.testBit_or, Nat.testBit_shiftLeft, Nat.testBit_div_two_pow, Nat.testBit_mod_two_pow,
    BitVec.testBit_toNat, BitVec.getLsbD_or, BitVec.getLsbD_and, BitVec.getLsbD_not,
    BitVec.getLsbD_shiftLeft, BitVec.getLsbD_ofNat, Nat.testBit_two_pow_sub_one]
  by_cases h1 : i < s
  · simp [h1, show i < w by omega, show ¬ s ≤ i by omega, show ¬ s + k ≤ i by omega]
  · by_cases h2 : i < s + k
    · simp [h1, show i < w by omega, show s ≤ i by omega, show ¬ s + k ≤ i by omega,
        show i - s < k by omega, show i - s < w by omega]
    · rw [hfield (by omega), show i - (s + k) + (s + k) = i by omega]
      by_cases h3 : i < w
      · simp [h1, h3, show s + k ≤ i by omega, show ¬ i - s < k by omega]
      · simp [h3, BitVec.getLsbD_of_ge x i (by omega)]

end BitField
