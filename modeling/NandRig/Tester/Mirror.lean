/-
The mirror of the system tests (`tester/st_mirror.c`): an array the size of the storage, read,
written and erased without driver or device. Offsets are `unsigned int`, wrapped to the size of the
mirror where they index it and nowhere else.
-/
import NandRig.Framework.Interface
import NandRig.Lib.RingMem

namespace NandRig.Tester

open Emulator Framework RingMem

/-! ## Macros -/

abbrev pageSize : UInt32 := numBytes
abbrev blockSize : UInt32 := numPages * numBytes
abbrev mirrorSize : UInt32 := numBlocks * numPages * numBytes

def pageStart (o : UInt32) : UInt32 := o / pageSize * pageSize
def pageEnd (o : UInt32) : UInt32 := pageStart o + pageSize - 1
def blockStart (o : UInt32) : UInt32 := o / blockSize * blockSize
def blockEnd (o : UInt32) : UInt32 := blockStart o + blockSize - 1

def wrap (o : UInt32) : UInt32 := o % mirrorSize

/-! ## Loops -/

/-- `static unsigned char mirror[MIRROR_SIZE]`, by index. -/
abbrev Mirror := Nat → UInt8

/-- `for (; i < bound; i++) mirror[WRAP(base + i)] = value;` -/
def storeLoop (base : UInt32) (value : Nat → UInt8) (bound i : UInt32) (mirror : Mirror) : Mirror :=
  if _h : i < bound then
    storeLoop base value bound (i + 1) (Function.update mirror (wrap (base + i)).toNat (value i.toNat))
  else mirror
termination_by bound.toNat - i.toNat
decreasing_by exact sub_succ_toNat_lt _h

/-- `for (; i <= last; i++) mirror[WRAP(i)] = 0;` for at most `fuel` tests of the condition. -/
def zeroLoop (last : UInt32) : (fuel : Nat) → (i : UInt32) → Mirror → Option Mirror
  | 0, _, _ => none
  | fuel + 1, i, mirror =>
    if i ≤ last then zeroLoop last fuel (i + 1) (Function.update mirror (wrap i).toNat 0) else some mirror

/-- The loop until it ends. The counter takes no more values than the fuel, so a loop that uses it up
never ends. -/
def zeroThrough (i last : UInt32) (mirror : Mirror) : Option Mirror := zeroLoop last (UInt32.size + 1) i mirror

/-- The loop of `read_mirror()`. -/
def readMirrorLoop (mirror : Mirror) (offset size i : UInt32) (buffer : Buffer) : Buffer :=
  if _h : i < size then
    readMirrorLoop mirror offset size (i + 1)
      (Function.update buffer i.toNat (mirror (wrap (offset + i)).toNat))
  else buffer
termination_by size.toNat - i.toNat
decreasing_by exact sub_succ_toNat_lt _h

/-! ## Functions -/

def readMirror (buffer : Buffer) (offset size : UInt32) (mirror : Mirror) : Buffer :=
  readMirrorLoop mirror offset size 0 buffer

def writeMirror (buffer : Buffer) (offset size : UInt32) (mirror : Mirror) : Option Mirror :=
  let mirror := storeLoop 0 (fun _ => 0) offset (pageStart offset) mirror
  let mirror := storeLoop offset buffer size 0 mirror
  zeroThrough (offset + size) (pageEnd (offset + size - 1)) mirror

def eraseMirror (offset size : UInt32) (mirror : Mirror) : Option Mirror :=
  zeroThrough (blockStart offset) (blockEnd (offset + size - 1)) mirror

/-! ## What the loops do -/

theorem wrap_toNat (o : UInt32) : (wrap o).toNat = o.toNat % deviceSize := by
  rw [wrap, UInt32.toNat_mod]
  rfl

/-- The mirror has an even share of the `unsigned int`s: a sum of two may overflow before it is wrapped. -/
theorem wrap_add_toNat (o i : UInt32) : (wrap (o + i)).toNat = (o.toNat + i.toNat) % deviceSize := by
  rw [wrap_toNat, UInt32.toNat_add, deviceSize_eq]
  omega

/-- The loop stores the values at consecutive indices, around the end of the mirror. -/
theorem storeLoop_eq (base : UInt32) (value : Nat → UInt8) (bound i : UInt32) (mirror : Mirror) (hi : i ≤ bound) :
    storeLoop base value bound i mirror =
      writeRange deviceSize (fun k => value (i.toNat + k)) (base.toNat + i.toNat) (bound.toNat - i.toNat) mirror := by
  induction i, mirror using storeLoop.induct base value bound with
  | case1 i mirror hlt ih =>
    have hlt' := UInt32.lt_iff_toNat_lt.1 hlt
    have hsucc := succ_toNat hlt
    have hlen : bound.toNat - i.toNat = 1 + (bound.toNat - (i + 1).toNat) := by
      rw [hsucc]; omega
    rw [storeLoop, dif_pos hlt, ih (UInt32.le_iff_toNat_le.2 (by omega)), hlen, writeRange_add, writeRange_succ,
      writeRange_zero, wrap_add_toNat, hsucc]
    simp only [Nat.add_zero, Nat.add_assoc]
  | case2 i mirror hge =>
    have : i.toNat = bound.toNat :=
      le_antisymm (UInt32.le_iff_toNat_le.1 hi) (UInt32.le_iff_toNat_le.1 (UInt32.not_lt.1 hge))
    rw [storeLoop, dif_neg hge, this, Nat.sub_self, writeRange_zero]

theorem zeroLoop_eq (last : UInt32) (hlast : last.toNat + 1 < 2 ^ 32) : ∀ (fuel : Nat) (i : UInt32) (mirror : Mirror),
    i.toNat ≤ last.toNat + 1 → last.toNat + 1 - i.toNat < fuel →
      zeroLoop last fuel i mirror =
        some (writeRange deviceSize (fun _ => 0) i.toNat (last.toNat + 1 - i.toNat) mirror)
  | 0, _, _, _, hfuel => absurd hfuel (Nat.not_lt_zero _)
  | fuel + 1, i, mirror, hi, hfuel => by
    rw [zeroLoop]
    split_ifs with hle
    · have hle' := UInt32.le_iff_toNat_le.1 hle
      have h1 := UInt32.toNat_one
      have hsucc : (i + 1).toNat = i.toNat + 1 := add_toNat (by rw [h1]; omega)
      have hlen : last.toNat + 1 - i.toNat = 1 + (last.toNat + 1 - (i + 1).toNat) := by
        rw [hsucc]; omega
      rw [zeroLoop_eq last hlast fuel (i + 1) _ (by omega) (by omega), hlen, writeRange_add, writeRange_succ,
        writeRange_zero, wrap_toNat, hsucc]
      simp only [Nat.add_zero]
    · have : last.toNat + 1 - i.toNat = 0 := by
        rw [UInt32.le_iff_toNat_le] at hle
        omega
      rw [this, writeRange_zero]

/-- The loop ends, unless `last` is the greatest `unsigned int`. -/
theorem zeroThrough_eq {i last : UInt32} (hlast : last.toNat + 1 < 2 ^ 32) (hi : i.toNat ≤ last.toNat + 1)
    (mirror : Mirror) :
    zeroThrough i last mirror =
      some (writeRange deviceSize (fun _ => 0) i.toNat (last.toNat + 1 - i.toNat) mirror) :=
  zeroLoop_eq last hlast _ i mirror hi (by show _ < 2 ^ 32 + 1; omega)

/-- The loop never ends where every counter is at most `last`. -/
theorem zeroLoop_greatest {last : UInt32} (hlast : last.toNat = 2 ^ 32 - 1) :
    ∀ (fuel : Nat) (i : UInt32) (mirror : Mirror), zeroLoop last fuel i mirror = none
  | 0, _, _ => rfl
  | fuel + 1, i, mirror => by
    have hle : i ≤ last := by
      have := i.toNat_lt
      rw [UInt32.le_iff_toNat_le]
      omega
    rw [zeroLoop, if_pos hle]
    exact zeroLoop_greatest hlast fuel (i + 1) _

/-- A loop that ends changes only what its counters index. -/
theorem zeroLoop_frame {last : UInt32} {a : Nat} : ∀ {fuel : Nat} {i : UInt32} {mirror mirror' : Mirror},
    zeroLoop last fuel i mirror = some mirror' →
      (∀ j, i.toNat ≤ j → j ≤ last.toNat → j % deviceSize ≠ a) → mirror' a = mirror a
  | 0, _, _, _, h, _ => by cases h
  | fuel + 1, i, mirror, mirror', h, ha => by
    by_cases hgreatest : last.toNat = 2 ^ 32 - 1
    · rw [zeroLoop_greatest hgreatest] at h
      cases h
    rw [zeroLoop] at h
    split_ifs at h with hle
    · have hle' := UInt32.le_iff_toNat_le.1 hle
      have hlt := last.toNat_lt
      have h1 := UInt32.toNat_one
      have hsucc : (i + 1).toNat = i.toNat + 1 := add_toNat (by rw [h1]; omega)
      rw [zeroLoop_frame h fun j hj => ha j (by omega), Function.update_of_ne]
      rw [wrap_toNat]
      exact (ha i.toNat le_rfl hle').symm
    · cases h
      rfl

theorem readMirrorLoop_eq (mirror : Mirror) (offset size i : UInt32) (buffer : Buffer) :
    readMirrorLoop mirror offset size i buffer = fun j =>
      if i.toNat ≤ j ∧ j < size.toNat then mirror ((offset.toNat + j) % deviceSize) else buffer j := by
  induction i, buffer using readMirrorLoop.induct mirror offset size with
  | case1 i buffer hlt ih =>
    have hlt' := UInt32.lt_iff_toNat_lt.1 hlt
    rw [readMirrorLoop, dif_pos hlt, ih, wrap_add_toNat, succ_toNat hlt]
    funext j
    by_cases hj : j = i.toNat
    · subst hj
      rw [if_neg (by omega), if_pos (by omega), Function.update_self]
    · rw [Function.update_of_ne hj]
      by_cases hin : i.toNat + 1 ≤ j ∧ j < size.toNat
      · rw [if_pos hin, if_pos (by omega)]
      · rw [if_neg hin, if_neg (by omega)]
  | case2 i buffer hge =>
    have := UInt32.le_iff_toNat_le.1 (UInt32.not_lt.1 hge)
    rw [readMirrorLoop, dif_neg hge]
    funext j
    rw [if_neg (by omega)]

/-! ## What the functions do

Within `InRange`, the mirror's and the framework's, no sum of an offset and a size overflows: neither
the end of the last block, nor the index behind it. -/

/-- A region of at least one byte that ends a block below the greatest offset. -/
def InRange (offset size : UInt32) : Prop :=
  1 ≤ size.toNat ∧ offset.toNat + size.toNat ≤ 2 ^ 32 - 65536

instance (offset size : UInt32) : Decidable (InRange offset size) := inferInstanceAs (Decidable (_ ∧ _))

/-- The last offset of a region, wrapped as the code wraps it. -/
theorem lastOffset_toNat_mod {offset size : UInt32} (hsize : 1 ≤ size.toNat) :
    (offset + size - 1).toNat = (offset.toNat + size.toNat - 1) % 2 ^ 32 := by
  have h1 := UInt32.toNat_one
  rw [UInt32.toNat_sub, UInt32.toNat_add, h1]
  omega

theorem lastOffset_toNat {offset size : UInt32} (h : InRange offset size) :
    (offset + size - 1).toNat = offset.toNat + size.toNat - 1 := by
  obtain ⟨hsize, hfit⟩ := h
  rw [lastOffset_toNat_mod hsize]
  exact Nat.mod_eq_of_lt (by omega)

theorem pageStart_toNat (o : UInt32) : (pageStart o).toNat = o.toNat / 256 * 256 := by
  rw [pageStart, UInt32.toNat_mul, UInt32.toNat_div]
  have := o.toNat_lt
  exact Nat.mod_eq_of_lt (by show o.toNat / 256 * 256 < 2 ^ 32; omega)

theorem blockStart_toNat (o : UInt32) : (blockStart o).toNat = o.toNat / 65536 * 65536 := by
  rw [blockStart, UInt32.toNat_mul, UInt32.toNat_div]
  have := o.toNat_lt
  exact Nat.mod_eq_of_lt (by show o.toNat / 65536 * 65536 < 2 ^ 32; omega)

theorem pageEnd_toNat (o : UInt32) : (pageEnd o).toNat = o.toNat / 256 * 256 + 255 := by
  have hsize : pageSize.toNat = 256 := rfl
  have h1 := UInt32.toNat_one
  have hlt := o.toNat_lt
  rw [pageEnd, UInt32.toNat_sub, UInt32.toNat_add, pageStart_toNat, hsize, h1]
  omega

theorem blockEnd_toNat (o : UInt32) : (blockEnd o).toNat = o.toNat / 65536 * 65536 + 65535 := by
  have hsize : blockSize.toNat = 65536 := rfl
  have h1 := UInt32.toNat_one
  have hlt := o.toNat_lt
  rw [blockEnd, UInt32.toNat_sub, UInt32.toNat_add, blockStart_toNat, hsize, h1]
  omega

/-- A read copies the bytes of the region, around the end of the mirror. -/
theorem readMirror_eq (buffer : Buffer) (offset size : UInt32) (mirror : Mirror) :
    readMirror buffer offset size mirror = fun j =>
      if j < size.toNat then mirror ((offset.toNat + j) % deviceSize) else buffer j := by
  rw [readMirror, readMirrorLoop_eq]
  funext j
  have h0 : (0 : UInt32).toNat ≤ j := Nat.zero_le j
  simp only [h0, true_and]

/-- The region does not end in the last page of the `unsigned int`s, from which the loop over its last page
would not return. -/
def EndsBelowLastPage (offset size : UInt32) : Prop := (offset.toNat + size.toNat - 1) % 2 ^ 32 < 2 ^ 32 - 256

instance (offset size : UInt32) : Decidable (EndsBelowLastPage offset size) := inferInstanceAs (Decidable (_ < _))

/-- Byte `k` of the pages of a region: the data where the region reaches, zeros around it. -/
def pagesImage (buffer : Buffer) (offset size : UInt32) (k : Nat) : UInt8 :=
  if offset.toNat % 256 ≤ k ∧ k < offset.toNat % 256 + size.toNat then buffer (k - offset.toNat % 256) else 0

/-- A write stores whole pages. -/
theorem writeMirror_eq_pages (buffer : Buffer) {offset size : UInt32} (hsize : 1 ≤ size.toNat)
    (hends : EndsBelowLastPage offset size) (mirror : Mirror) :
    writeMirror buffer offset size mirror = some (writeRange deviceSize (pagesImage buffer offset size)
      (offset.toNat / 256 * 256) ((offset.toNat % 256 + size.toNat + 255) / 256 * 256) mirror) := by
  unfold EndsBelowLastPage at hends
  have hoffset := offset.toNat_lt
  have hsize' := size.toNat_lt
  have h0 := UInt32.toNat_zero
  have hstart := pageStart_toNat offset
  have hlast : (offset + size - 1).toNat = _ := lastOffset_toNat_mod hsize
  have hend := pageEnd_toNat (offset + size - 1)
  rw [hlast] at hend
  have hsum : (offset + size).toNat = (offset.toNat + size.toNat) % 2 ^ 32 := UInt32.toNat_add ..
  have hpage : offset.toNat / 256 * 256 + offset.toNat % 256 = offset.toNat := by omega
  -- the three loops write one behind the other: up to the region, the region, and up to the end of its last page
  have hbehind : (pageEnd (offset + size - 1)).toNat + 1 - (offset + size).toNat =
      (offset.toNat % 256 + size.toNat + 255) / 256 * 256 - (offset.toNat % 256 + size.toNat) := by
    rw [hend, hsum]
    omega
  have hrest : (offset + size).toNat % deviceSize =
      (offset.toNat / 256 * 256 + (offset.toNat % 256 + size.toNat)) % deviceSize := by
    rw [hsum, deviceSize_eq]
    omega
  have hbefore : storeLoop 0 (fun _ => 0) offset (pageStart offset) mirror =
      writeRange deviceSize (fun _ => 0) (offset.toNat / 256 * 256) (offset.toNat % 256) mirror := by
    rw [storeLoop_eq _ _ _ _ _ (UInt32.le_iff_toNat_le.2 (by omega)), h0, hstart, Nat.zero_add]
    congr 1
    omega
  have hdata (m : Mirror) : storeLoop offset buffer size 0 m =
      writeRange deviceSize buffer (offset.toNat / 256 * 256 + offset.toNat % 256) size.toNat m := by
    rw [storeLoop_eq _ _ _ _ _ (UInt32.le_iff_toNat_le.2 (by omega)), h0, hpage]
    simp only [Nat.zero_add, Nat.add_zero, Nat.sub_zero]
  unfold writeMirror
  dsimp only
  rw [zeroThrough_eq (by omega) (by omega), hbefore, hdata, writeRange_glue, hbehind, writeRange_mod _ hrest,
    writeRange_glue]
  congr 1
  have hlen : offset.toNat % 256 + size.toNat + ((offset.toNat % 256 + size.toNat + 255) / 256 * 256 -
      (offset.toNat % 256 + size.toNat)) = (offset.toNat % 256 + size.toNat + 255) / 256 * 256 := by
    omega
  rw [hlen]
  refine writeRange_congr (fun k _ => ?_) mirror
  unfold pagesImage
  by_cases hk : k < offset.toNat % 256
  · rw [if_pos (by omega), if_pos hk, if_neg (by omega)]
  · by_cases hk' : k < offset.toNat % 256 + size.toNat
    · rw [if_pos hk', if_neg hk, if_pos (by omega)]
    · rw [if_neg hk', if_neg (by omega)]

theorem InRange.endsBelowLastPage {offset size : UInt32} (h : InRange offset size) : EndsBelowLastPage offset size := by
  obtain ⟨hsize, hfit⟩ := h
  unfold EndsBelowLastPage
  omega

/-- An erase zeroes whole blocks. -/
theorem eraseMirror_eq {offset size : UInt32} (h : InRange offset size) (mirror : Mirror) :
    eraseMirror offset size mirror = some (writeRange deviceSize (fun _ => 0) (offset.toNat / 65536 * 65536)
      ((offset.toNat % 65536 + size.toNat + 65535) / 65536 * 65536) mirror) := by
  have hlast := lastOffset_toNat h
  obtain ⟨hsize, hfit⟩ := h
  have hstart := blockStart_toNat offset
  have hend : (blockEnd (offset + size - 1)).toNat = (offset.toNat + size.toNat - 1) / 65536 * 65536 + 65535 := by
    rw [blockEnd_toNat, hlast]
  have hlen : (blockEnd (offset + size - 1)).toNat + 1 - (blockStart offset).toNat =
      (offset.toNat % 65536 + size.toNat + 65535) / 65536 * 65536 := by
    rw [hend, hstart]
    omega
  rw [eraseMirror, zeroThrough_eq (by omega) (by omega), hlen, hstart]

end NandRig.Tester
