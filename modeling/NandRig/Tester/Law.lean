/-
The law that the unit test of the mirror samples (`test()` of `tester/st_mirror.c`): what has been
written is read back, the pages touched are zero around it, and nothing else has changed.
-/
import NandRig.Tester.Mirror

namespace NandRig.Tester

open Emulator Framework RingMem

/-! ## The law -/

/-- The mirror `mirror'` is what a write of the region should make of `mirror`. -/
structure Stores (buffer : Buffer) (offset size : UInt32) (mirror mirror' : Mirror) : Prop where
  /-- A read of the region hands out the bytes of the buffer, and no others. -/
  read : ∀ out, readMirror out offset size mirror' = fun k => if k < size.toNat then buffer k else out k
  before : ∀ a, offset.toNat / 256 * 256 ≤ a → a < offset.toNat → mirror' (a % deviceSize) = 0
  behind : ∀ a, offset.toNat + size.toNat ≤ a → a ≤ (offset.toNat + size.toNat - 1) / 256 * 256 + 255 →
    mirror' (a % deviceSize) = 0
  outside : ∀ i, (∀ k < size.toNat, (offset.toNat + k) % deviceSize / 256 ≠ i / 256) → mirror' i = mirror i

def WriteReadLaw (buffer : Buffer) (offset size : UInt32) (mirror : Mirror) : Prop :=
  ∃ mirror', writeMirror buffer offset size mirror = some mirror' ∧ Stores buffer offset size mirror mirror'

/-- The bytes of the region in its first page, at its start or, where it comes round to it again, at its
end, are all 0. -/
def BlankInFirstPage (buffer : Buffer) (offset size : UInt32) : Prop :=
  ∀ k < size.toNat, offset.toNat % 256 + k < 256 ∨ deviceSize ≤ offset.toNat % 256 + k → buffer k = 0

/-- The region ends before it comes to its first page again, or its bytes there are blank. -/
def Unspoilt (buffer : Buffer) (offset size : UInt32) : Prop :=
  offset.toNat % 256 + size.toNat ≤ deviceSize ∨ BlankInFirstPage buffer offset size

/-! ## The mirror behind a write -/

section

variable {buffer : Buffer} {offset size : UInt32}

theorem writeMirror_none (hsize : 1 ≤ size.toNat) (h : ¬ EndsBelowLastPage offset size) (mirror : Mirror) :
    writeMirror buffer offset size mirror = none := by
  have hend := pageEnd_toNat (offset + size - 1)
  rw [lastOffset_toNat_mod hsize] at hend
  unfold EndsBelowLastPage at h
  unfold writeMirror
  dsimp only
  exact zeroLoop_greatest (by omega) _ _ _

/-- The bytes of the pages touched, and the others. -/
structure Written (buffer : Buffer) (offset size : UInt32) (mirror mirror' : Mirror) : Prop where
  last : ∀ k < (offset.toNat % 256 + size.toNat + 255) / 256 * 256,
    (offset.toNat % 256 + size.toNat + 255) / 256 * 256 ≤ k + deviceSize →
      mirror' ((offset.toNat / 256 * 256 + k) % deviceSize) = pagesImage buffer offset size k
  outside : ∀ i, (∀ k < size.toNat, (offset.toNat + k) % deviceSize / 256 ≠ i / 256) → mirror' i = mirror i

theorem writeMirror_written_pages (hsize : 1 ≤ size.toNat) (hends : EndsBelowLastPage offset size) (mirror : Mirror) :
    ∃ mirror', writeMirror buffer offset size mirror = some mirror' ∧ Written buffer offset size mirror mirror' := by
  refine ⟨_, writeMirror_eq_pages buffer hsize hends mirror, ?_, ?_⟩
  · intro k hk hlast
    exact writeRange_last_round _ _ hk hlast _
  · intro i hi
    refine writeRange_of_forall_ne fun k hk hsame => ?_
    -- the first byte of the region in the page of the `k`-th one stored
    refine hi (k / 256 * 256 - offset.toNat % 256) (by omega) ?_
    rw [← hsame, deviceSize_eq]
    omega

variable {mirror mirror' : Mirror}

/-- Address `a` is that of byte `k` of the pages, and the write does not come round to it again. -/
theorem Written.cell (h : Written buffer offset size mirror mirror') {a : Nat} (k : Nat)
    (ha : a % 16777216 = (offset.toNat / 256 * 256 + k) % 16777216)
    (hk : k < (offset.toNat % 256 + size.toNat + 255) / 256 * 256)
    (hlast : (offset.toNat % 256 + size.toNat + 255) / 256 * 256 ≤ k + 16777216) :
    mirror' (a % deviceSize) = pagesImage buffer offset size k := by
  have hcell := h.last k hk (by rw [deviceSize_eq]; exact hlast)
  rwa [deviceSize_eq, ← ha] at hcell

theorem Written.read (h : Written buffer offset size mirror mirror') (hmax : size.toNat ≤ 16777216)
    (hblank : Unspoilt buffer offset size) {k : Nat} (hk : k < size.toNat) :
    mirror' ((offset.toNat + k) % deviceSize) = buffer k := by
  by_cases hpage : offset.toNat % 256 + k < 256 ∧ 16777216 < offset.toNat % 256 + size.toNat
  -- the zeros behind the region come round to this byte
  · have hzero := h.cell (a := offset.toNat + k) (offset.toNat % 256 + k + 16777216) (by omega) (by omega) (by omega)
    rw [pagesImage, if_neg (by omega)] at hzero
    rcases hblank with hfit | hblank
    · rw [deviceSize_eq] at hfit
      omega
    · rw [hzero, hblank k hk (.inl hpage.1)]
  · have hdata := h.cell (a := offset.toNat + k) (offset.toNat % 256 + k) (by omega) (by omega) (by omega)
    rwa [pagesImage, if_pos (by omega), Nat.add_sub_cancel_left] at hdata

theorem Written.before (h : Written buffer offset size mirror mirror') (hsize : 1 ≤ size.toNat)
    (hmax : size.toNat ≤ 16777216) (hblank : Unspoilt buffer offset size) {a : Nat}
    (ha : offset.toNat / 256 * 256 ≤ a) (ha' : a < offset.toNat) : mirror' (a % deviceSize) = 0 := by
  obtain ⟨k, rfl⟩ := Nat.exists_eq_add_of_le ha
  clear ha
  by_cases hround : 16777216 < offset.toNat % 256 + size.toNat
  · rw [h.cell (k + 16777216) (by omega) (by omega) (by omega), pagesImage]
    split_ifs with hin
    -- the end of the region comes round to this byte
    · rcases hblank with hfit | hblank
      · rw [deviceSize_eq] at hfit
        omega
      · exact hblank _ (by omega) (.inr (by rw [deviceSize_eq]; omega))
    · rfl
  · rw [h.cell k rfl (by omega) (by omega), pagesImage, if_neg (by omega)]

theorem Written.behind (h : Written buffer offset size mirror mirror') (hsize : 1 ≤ size.toNat) {a : Nat}
    (ha : offset.toNat + size.toNat ≤ a) (ha' : a ≤ (offset.toNat + size.toNat - 1) / 256 * 256 + 255) :
    mirror' (a % deviceSize) = 0 := by
  obtain ⟨k, rfl⟩ := Nat.exists_eq_add_of_le (show offset.toNat / 256 * 256 ≤ a by omega)
  rw [h.cell k rfl (by omega) (by clear ha'; omega), pagesImage, if_neg (by omega)]

theorem Written.stores (h : Written buffer offset size mirror mirror') (hsize : 1 ≤ size.toNat)
    (hmax : size.toNat ≤ 16777216) (hblank : Unspoilt buffer offset size) :
    Stores buffer offset size mirror mirror' where
  read out := by
    rw [readMirror_eq]
    funext k
    exact ite_congr rfl (fun hk => h.read hmax hblank hk) fun _ => rfl
  before a ha ha' := h.before hsize hmax hblank ha ha'
  behind a ha ha' := h.behind hsize ha ha'
  outside := h.outside

/-- What is read back, and what is zero before the region, determine the bytes that the write comes round to. -/
theorem Written.unspoilt (h : Written buffer offset size mirror mirror') (hmax : size.toNat ≤ 16777216)
    (hstores : Stores buffer offset size mirror mirror') : Unspoilt buffer offset size := by
  by_cases hround : 16777216 < offset.toNat % 256 + size.toNat
  · refine .inr ?_
    rintro k hk (hstart | hend)
    · have hread := congrFun (hstores.read buffer) k
      rw [readMirror_eq] at hread
      dsimp only at hread
      rw [if_pos hk, if_pos hk] at hread
      rw [← hread, h.cell (offset.toNat % 256 + k + 16777216) (by omega) (by omega) (by omega), pagesImage,
        if_neg (by omega)]
    · rw [deviceSize_eq] at hend
      have hzero := hstores.before (offset.toNat / 256 * 256 + (offset.toNat % 256 + k - 16777216)) (by omega)
        (by omega)
      rwa [h.cell (offset.toNat % 256 + k) (by omega) (by omega) (by omega), pagesImage, if_pos (by omega),
        Nat.add_sub_cancel_left] at hzero
  · exact .inl (by rw [deviceSize_eq]; omega)

end

/-! ## When the law holds -/

/-- The law holds of a write where the loop over its last page ends and, if the region comes round to its
first page again, where its bytes there are blank. -/
theorem write_read_law_iff (buffer : Buffer) {offset size : UInt32} (hsize : 1 ≤ size.toNat)
    (hmax : size ≤ mirrorSize) (mirror : Mirror) :
    WriteReadLaw buffer offset size mirror ↔ EndsBelowLastPage offset size ∧ Unspoilt buffer offset size := by
  have hmax' : size.toNat ≤ 16777216 := UInt32.le_iff_toNat_le.1 hmax
  constructor
  · rintro ⟨mirror', hwrite, hstores⟩
    by_cases hends : EndsBelowLastPage offset size
    · obtain ⟨_, hwrite', hwritten⟩ := writeMirror_written_pages hsize hends mirror
      cases hwrite.symm.trans hwrite'
      exact ⟨hends, hwritten.unspoilt hmax' hstores⟩
    · rw [writeMirror_none hsize hends] at hwrite
      cases hwrite
  · rintro ⟨hends, hblank⟩
    obtain ⟨mirror', hwrite, hwritten⟩ := writeMirror_written_pages hsize hends mirror
    exact ⟨mirror', hwrite, hwritten.stores hsize hmax' hblank⟩

/-- A whole round that starts with the last page but one and its last byte, blank where it comes round. -/
theorem write_read_law_iff_round :
    WriteReadLaw (fun _ => 0) 16776959 16777216 (fun _ => 1) :=
  (write_read_law_iff (fun _ => 0) (by decide) (by decide) fun _ => 1).2 ⟨by decide, .inr fun _ _ _ => rfl⟩

/-- A write of the last byte that an offset can name does not end. -/
theorem write_of_last_byte : ¬ WriteReadLaw (fun _ => 1) 4294967295 1 fun _ => 0 := by
  rintro ⟨mirror', hwrite, -⟩
  rw [writeMirror_none (by decide) (by decide)] at hwrite
  cases hwrite

end NandRig.Tester
