/-
Buffers of test data (`tester/st_data.c`): letters to write, and the first index at which two buffers
differ or one is not zero.
-/
import NandRig.Framework.Interface

namespace NandRig.Tester

open Emulator Framework

/-- `TO_PRINTABLE(i)`: the letters of the alphabet in turn. -/
def toPrintable (i : UInt32) : UInt8 := (97 + i % (122 - 96)).toUInt8

/-- The loop of `data_init()`. -/
def dataInitLoop (length i : UInt32) (buffer : Buffer) : Buffer :=
  if _h : i < length then dataInitLoop length (i + 1) (Function.update buffer i.toNat (toPrintable i))
  else buffer
termination_by length.toNat - i.toNat
decreasing_by exact sub_succ_toNat_lt _h

def dataInit (buffer : Buffer) (length : UInt32) : Buffer := dataInitLoop length 0 buffer

/-- `for (; i < length; i++) if (found(i)) break;` and the index behind it. -/
def firstIndex (found : Nat → Bool) (length i : UInt32) : UInt32 :=
  if _h : i < length then
    if found i.toNat then i else firstIndex found length (i + 1)
  else i
termination_by length.toNat - i.toNat
decreasing_by exact sub_succ_toNat_lt _h

def dataCompare (b1 b2 : Buffer) (length : UInt32) : UInt32 := firstIndex (fun i => b1 i != b2 i) length 0

/-- The counter is an `int` here, compared with the length as an `unsigned int`. -/
def dataConfirmZeroes (buffer : Buffer) (length : UInt32) : UInt32 := firstIndex (fun i => buffer i != 0) length 0

/-! ## Letters -/

theorem toPrintable_toNat (i : UInt32) : (toPrintable i).toNat = 97 + i.toNat % 26 := by
  have h26 : ((122 : UInt32) - 96).toNat = 26 := rfl
  have h97 : (97 : UInt32).toNat = 97 := rfl
  rw [toPrintable, UInt32.toNat_toUInt8, UInt32.toNat_add, UInt32.toNat_mod, h26, h97]
  omega

theorem dataInitLoop_eq (length i : UInt32) (buffer : Buffer) :
    dataInitLoop length i buffer = fun j =>
      if i.toNat ≤ j ∧ j < length.toNat then toPrintable j.toUInt32 else buffer j := by
  induction i, buffer using dataInitLoop.induct length with
  | case1 i buffer hlt ih =>
    have hlt' := UInt32.lt_iff_toNat_lt.1 hlt
    rw [dataInitLoop, dif_pos hlt, ih, succ_toNat hlt]
    funext j
    by_cases hj : j = i.toNat
    · subst hj
      rw [if_neg (by omega), if_pos (by omega), Function.update_self, Nat.toUInt32_eq, UInt32.ofNat_toNat]
    · rw [Function.update_of_ne hj]
      by_cases hin : i.toNat + 1 ≤ j ∧ j < length.toNat
      · rw [if_pos hin, if_pos (by omega)]
      · rw [if_neg hin, if_neg (by omega)]
  | case2 i buffer hge =>
    have := UInt32.le_iff_toNat_le.1 (UInt32.not_lt.1 hge)
    rw [dataInitLoop, dif_neg hge]
    funext j
    rw [if_neg (by omega)]

theorem dataInit_apply (buffer : Buffer) {length : UInt32} {j : Nat} (hj : j < length.toNat) :
    dataInit buffer length j = toPrintable j.toUInt32 := by
  have h0 := UInt32.toNat_zero
  rw [dataInit, dataInitLoop_eq]
  exact if_pos (by omega)

/-! ## The first index -/

/-- What `firstIndex` looks for: an index up to the length, the first of those found from `i` on. -/
structure IsFirst (found : Nat → Bool) (length i r : UInt32) : Prop where
  le : r.toNat ≤ length.toNat
  before : ∀ j, i.toNat ≤ j → j < r.toNat → found j = false
  at_index : r.toNat < length.toNat → found r.toNat = true

theorem firstIndex_isFirst (found : Nat → Bool) {length i : UInt32} (hi : i ≤ length) :
    IsFirst found length i (firstIndex found length i) := by
  induction i using firstIndex.induct found length with
  | case1 i hlt hfound =>
    rw [firstIndex, dif_pos hlt, if_pos hfound]
    exact ⟨UInt32.le_iff_toNat_le.1 hi, fun j h₁ h₂ => by omega, fun _ => hfound⟩
  | case2 i hlt hnot ih =>
    have hlt' := UInt32.lt_iff_toNat_lt.1 hlt
    have hsucc := succ_toNat hlt
    obtain ⟨hle, hbefore, hat⟩ := ih (UInt32.le_iff_toNat_le.2 (by omega))
    rw [firstIndex, dif_pos hlt, if_neg hnot]
    refine ⟨hle, fun j h₁ h₂ => ?_, hat⟩
    by_cases hj : j = i.toNat
    · rw [hj]
      exact Bool.eq_false_iff.2 hnot
    · exact hbefore j (by omega) h₂
  | case3 i hge =>
    have hge' := UInt32.le_iff_toNat_le.1 (UInt32.not_lt.1 hge)
    rw [firstIndex, dif_neg hge]
    exact ⟨UInt32.le_iff_toNat_le.1 hi, fun j h₁ h₂ => by omega, fun h => by omega⟩

theorem firstIndex_zero (found : Nat → Bool) (length : UInt32) :
    IsFirst found length 0 (firstIndex found length 0) :=
  firstIndex_isFirst found (UInt32.le_iff_toNat_le.2 (Nat.zero_le _))

/-- The length is returned where nothing is found. -/
theorem firstIndex_eq_length_iff (found : Nat → Bool) (length : UInt32) :
    firstIndex found length 0 = length ↔ ∀ j < length.toNat, found j = false := by
  obtain ⟨hle, hbefore, hat⟩ := firstIndex_zero found length
  constructor
  · intro h j hj
    exact hbefore j (Nat.zero_le j) (by rwa [h])
  · intro h
    by_contra hne
    have hlt : (firstIndex found length 0).toNat < length.toNat :=
      lt_of_le_of_ne hle fun he => hne (UInt32.toNat_inj.1 he)
    have hnone := h _ hlt
    rw [hat hlt] at hnone
    cases hnone

theorem dataCompare_eq_length_iff (b1 b2 : Buffer) (length : UInt32) :
    dataCompare b1 b2 length = length ↔ ∀ j < length.toNat, b1 j = b2 j := by
  rw [dataCompare, firstIndex_eq_length_iff]
  simp only [bne_eq_false_iff_eq]

theorem dataConfirmZeroes_eq_length_iff (buffer : Buffer) (length : UInt32) :
    dataConfirmZeroes buffer length = length ↔ ∀ j < length.toNat, buffer j = 0 := by
  rw [dataConfirmZeroes, firstIndex_eq_length_iff]
  simp only [bne_eq_false_iff_eq]

/-- An index found, with none before it, is the one returned. -/
theorem firstIndex_eq {found : Nat → Bool} {length k : UInt32} (hk : k < length) (hfound : found k.toNat = true)
    (hbefore : ∀ j < k.toNat, found j = false) : firstIndex found length 0 = k := by
  have hk' := UInt32.lt_iff_toNat_lt.1 hk
  obtain ⟨hle, hnone, hat⟩ := firstIndex_zero found length
  rcases Nat.lt_trichotomy (firstIndex found length 0).toNat k.toNat with h | h | h
  · have hfirst := hat (by omega)
    rw [hbefore _ h] at hfirst
    cases hfirst
  · exact UInt32.toNat_inj.1 h
  · have hnot := hnone k.toNat (Nat.zero_le _) h
    rw [hfound] at hnot
    cases hnot

end NandRig.Tester
