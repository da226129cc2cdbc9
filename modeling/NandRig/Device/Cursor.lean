/-
What the cursor and array functions of the storage module do, in terms of the device address:
a cursor below `2^24` is a number whose bytes are block, page and byte, the masks and shifts of
the source are divisions and remainders, and no array access leaves its array.
-/
import NandRig.Device.Store
import NandRig.Lib.BitField
import NandRig.Lib.RingMem

namespace NandRig.Emulator

open BitField RingMem

/-- The cursor addresses a byte of the data store. -/
def InStorage (s : Store) : Prop := s.cursor.toNat < deviceSize

/-! ## Masks and shifts as arithmetic -/

theorem and_byteMask_toNat (c : UInt32) : (c &&& cursorByteMask).toNat = c.toNat % 256 := by
  rw [UInt32.toNat_and]
  exact Nat.and_two_pow_sub_one_eq_mod c.toNat 8

theorem and_not_byteMask_toNat (c : UInt32) : (c &&& ~~~cursorByteMask).toNat = c.toNat / 256 * 256 := by
  have e : c &&& ~~~cursorByteMask = (c >>> 8) <<< 8 := by
    apply UInt32.toBitVec_inj.mp
    ext i hi
    interval_cases i <;> simp
  have hc := c.toNat_lt
  rw [e, UInt32.toNat_shiftLeft, UInt32.toNat_shiftRight, Nat.shiftLeft_eq, Nat.shiftRight_eq_div_pow]
  simp only [UInt32.reduceToNat, Nat.reduceMod, Nat.reducePow] at hc ⊢
  omega

theorem pageOf_toNat (c : UInt32) :
    ((c &&& cursorPageMask) >>> cursorPageShift).toNat = c.toNat / 256 % 256 := by
  rw [UInt32.toNat_shiftRight, UInt32.toNat_and]
  exact and_field_shiftRight c.toNat 8 8

theorem blockOf_toNat (c : UInt32) :
    ((c &&& cursorBlockMask) >>> cursorBlockShift).toNat = c.toNat / 65536 % 256 := by
  rw [UInt32.toNat_shiftRight, UInt32.toNat_and]
  exact and_field_shiftRight c.toNat 8 16

theorem and_blockMask_toNat (c : UInt32) :
    (c &&& cursorBlockMask).toNat = c.toNat / 65536 % 256 * 65536 := by
  rw [UInt32.toNat_and]
  exact and_field c.toNat 8 16

/-! ## Setting one byte of the cursor -/

theorem setCursorByte_block {s : Store} {v : UInt32} (hs : InStorage s) (hv : v.toNat < 256) :
    (setCursorByte v cursorBlockShift s).cursor.toNat = v.toNat * 65536 + s.cursor.toNat % 65536 := by
  have h := setField_toNat (k := 8) (s := 16) s.cursor.toBitVec v.toBitVec hv (by norm_num)
  have hc : s.cursor.toNat / 16777216 = 0 := Nat.div_eq_of_lt hs
  calc (setCursorByte v cursorBlockShift s).cursor.toNat
      = s.cursor.toNat / 16777216 * 16777216 + v.toNat * 65536 + s.cursor.toNat % 65536 := h
    _ = v.toNat * 65536 + s.cursor.toNat % 65536 := by rw [hc]; omega

theorem setCursorByte_page {s : Store} {v : UInt32} (hv : v.toNat < 256) :
    (setCursorByte v cursorPageShift s).cursor.toNat =
      s.cursor.toNat / 65536 * 65536 + v.toNat * 256 + s.cursor.toNat % 256 :=
  setField_toNat (k := 8) (s := 8) s.cursor.toBitVec v.toBitVec hv (by norm_num)

theorem setCursorByte_byte {s : Store} {v : UInt32} (hv : v.toNat < 256) :
    (setCursorByte v cursorByteShift s).cursor.toNat = s.cursor.toNat / 256 * 256 + v.toNat := by
  have h := setField_toNat (k := 8) (s := 0) s.cursor.toBitVec v.toBitVec hv (by norm_num)
  calc (setCursorByte v cursorByteShift s).cursor.toNat
      = s.cursor.toNat / 256 * 256 + v.toNat * 1 + s.cursor.toNat % 1 := h
    _ = s.cursor.toNat / 256 * 256 + v.toNat := by omega

/-! ## The increments -/

/-- Staying in the page: only the byte part advances, modulo 256. -/
theorem incrementCursor_remain (s : Store) :
    (incrementCursor true s).cursor.toNat =
      s.cursor.toNat / 256 * 256 + (s.cursor.toNat % 256 + 1) % 256 := by
  have hb : ((s.cursor &&& cursorByteMask) + 1).toNat = s.cursor.toNat % 256 + 1 := by
    rw [UInt32.toNat_add, and_byteMask_toNat]
    simp only [UInt32.reduceToNat]; omega
  have hc := s.cursor.toNat_lt
  unfold incrementCursor
  simp only [if_true, UInt32.lt_iff_toNat_lt, hb, numBytes_toNat]
  split
  · rw [UInt32.toNat_add]
    simp only [UInt32.reduceToNat]; omega
  · rw [and_not_byteMask_toNat]; omega

/-- Leaving the page: the device address advances, modulo the device size. -/
theorem incrementCursor_free {s : Store} (hs : InStorage s) :
    (incrementCursor false s).cursor.toNat = (s.cursor.toNat + 1) % 16777216 := by
  rw [InStorage, deviceSize_eq] at hs
  have e : (s.cursor + 1).toNat = s.cursor.toNat + 1 := by
    rw [UInt32.toNat_add]; simp only [UInt32.reduceToNat]; omega
  have hsize : (numBlocks * numPages * numBytes).toNat = 16777216 := by decide
  unfold incrementCursor
  simp only [Bool.false_eq_true, if_false, ge_iff_le, UInt32.le_iff_toNat_le, e, hsize]
  split
  · simp only [UInt32.reduceToNat]; omega
  · simp only [e]; omega

/-- The address made of a block and a page, at byte 0. -/
theorem block_or_page_toNat {block page : UInt32} (hb : block.toNat < 256) (hp : page.toNat < 256) :
    ((0 ||| (block <<< cursorBlockShift)) ||| (page <<< cursorPageShift)).toNat =
      block.toNat * 65536 + page.toNat * 256 := by
  have e1 : (block <<< cursorBlockShift).toNat = block.toNat <<< 16 := by
    rw [UInt32.toNat_shiftLeft]
    show block.toNat <<< 16 % 2 ^ 32 = block.toNat <<< 16
    rw [Nat.shiftLeft_eq]; omega
  have e2 : (page <<< cursorPageShift).toNat = page.toNat <<< 8 := by
    rw [UInt32.toNat_shiftLeft]
    show page.toNat <<< 8 % 2 ^ 32 = page.toNat <<< 8
    rw [Nat.shiftLeft_eq]; omega
  have h := or_fields block.toNat page.toNat 0 8 8 hp (by norm_num)
  rw [Nat.or_zero, Nat.add_zero] at h
  rw [UInt32.toNat_or, UInt32.toNat_or, e1, e2]
  exact (congrArg (· ||| page.toNat <<< 8) (Nat.zero_or _)).trans h.symm

/-- The start of the next page, the last page of storage being followed by the first. -/
theorem incrementPage_cursor {s : Store} (hs : InStorage s) :
    (incrementPage s).cursor.toNat = (s.cursor.toNat / 256 * 256 + 256) % 16777216 := by
  rw [InStorage, deviceSize_eq] at hs
  have hp := pageOf_toNat s.cursor
  have hb := blockOf_toNat s.cursor
  unfold incrementPage
  generalize (s.cursor &&& cursorPageMask) >>> cursorPageShift = page at hp ⊢
  generalize (s.cursor &&& cursorBlockMask) >>> cursorBlockShift = block at hb ⊢
  have hp1 : (page + 1).toNat = page.toNat + 1 := by
    rw [UInt32.toNat_add]; simp only [UInt32.reduceToNat]; omega
  have hb1 : (block + 1).toNat = block.toNat + 1 := by
    rw [UInt32.toNat_add]; simp only [UInt32.reduceToNat]; omega
  simp only [ge_iff_le, UInt32.le_iff_toNat_le, hp1, hb1, numPages_toNat]
  have h0 := UInt32.toNat_zero
  -- the last page of storage, the last page of a block, any other page
  split_ifs with h1 h2 <;> dsimp only
  · have hn : s.cursor.toNat / 256 = 65535 := by omega
    rw [block_or_page_toNat (by omega) (by omega), h0, hn]
  · rw [block_or_page_toNat (by omega) (by omega), hb1, h0]; omega
  · rw [block_or_page_toNat (by omega) (by omega), hp1]; omega

/-- The start of the next block, the last block of storage being followed by the first. -/
theorem incrementBlock_cursor {s : Store} (hs : InStorage s) :
    (incrementBlock s).cursor.toNat = (s.cursor.toNat / 65536 * 65536 + 65536) % 16777216 := by
  rw [InStorage, deviceSize_eq] at hs
  have hb := blockOf_toNat s.cursor
  unfold incrementBlock
  generalize (s.cursor &&& cursorBlockMask) >>> cursorBlockShift = block at hb ⊢
  have hb1 : (block + 1).toNat = block.toNat + 1 := by
    rw [UInt32.toNat_add]; simp only [UInt32.reduceToNat]; omega
  have hshift : ∀ b : UInt32, b.toNat < 256 → (0 ||| (b <<< cursorBlockShift)).toNat = b.toNat * 65536 := by
    intro block hb
    rw [UInt32.toNat_or, UInt32.toNat_shiftLeft]
    show 0 ||| block.toNat <<< 16 % 2 ^ 32 = _
    rw [Nat.zero_or, Nat.shiftLeft_eq]; omega
  have h0 := UInt32.toNat_zero
  simp only [ge_iff_le, UInt32.le_iff_toNat_le, hb1, numBlocks_toNat]
  split_ifs with h1
  · have hn : s.cursor.toNat / 65536 = 255 := by omega
    rw [hshift _ (by omega), h0, hn]
  · rw [hshift _ (by omega), hb1]; omega

/-! ## Frames of the cursor functions -/

@[simp] theorem incrementCursor_dataStore (remain : Bool) (s : Store) :
    (incrementCursor remain s).dataStore = s.dataStore := by
  cases remain <;> simp only [incrementCursor] <;> split <;> (try split) <;> rfl

@[simp] theorem incrementCursor_cache (remain : Bool) (s : Store) :
    (incrementCursor remain s).cache = s.cache := by
  cases remain <;> simp only [incrementCursor] <;> split <;> (try split) <;> rfl

@[simp] theorem incrementPage_dataStore (s : Store) : (incrementPage s).dataStore = s.dataStore := rfl
@[simp] theorem incrementPage_cache (s : Store) : (incrementPage s).cache = s.cache := rfl
@[simp] theorem incrementBlock_dataStore (s : Store) : (incrementBlock s).dataStore = s.dataStore := rfl
@[simp] theorem incrementBlock_cache (s : Store) : (incrementBlock s).cache = s.cache := rfl
@[simp] theorem setCursorByte_dataStore (v shift : UInt32) (s : Store) :
    (setCursorByte v shift s).dataStore = s.dataStore := rfl
@[simp] theorem setCursorByte_cache (v shift : UInt32) (s : Store) :
    (setCursorByte v shift s).cache = s.cache := rfl

/-! ## The arrays, from a cursor in storage -/

theorem storeCopyPageToCache_eq {s : Store} (hs : InStorage s) :
    storeCopyPageToCache s = some { s with
      cache := fun i => if i < 256 then s.dataStore (s.cursor.toNat / 256 * 256 + i) else s.cache i } := by
  rw [InStorage, deviceSize_eq] at hs
  simp only [storeCopyPageToCache, and_not_byteMask_toNat, numBytes_toNat, deviceSize_eq]
  rw [if_pos (by omega)]

theorem storeGetCacheByte_eq (s : Store) : storeGetCacheByte s = some (s.cache (s.cursor.toNat % 256)) := by
  simp only [storeGetCacheByte, and_byteMask_toNat, numBytes_toNat]
  rw [if_pos (by omega)]

theorem storeSetCacheByte_eq (byte : UInt8) (s : Store) :
    storeSetCacheByte byte s = some { s with cache := Function.update s.cache (s.cursor.toNat % 256) byte } := by
  simp only [storeSetCacheByte, and_byteMask_toNat, numBytes_toNat]
  rw [if_pos (by omega)]

/-- The copy loop stores the remaining cache bytes at consecutive indices of the page. -/
theorem copyPageFromCacheLoop_eq {idx : Nat} (hidx : idx + 256 ≤ deviceSize) (cache : Nat → UInt8) :
    ∀ n i dataStore, i + n = 256 → copyPageFromCacheLoop idx cache n i dataStore =
      some (writeRange deviceSize (fun k => cache (i + k)) (idx + i) n dataStore)
  | 0, _, _, _ => rfl
  | n + 1, i, dataStore, h => by
    rw [copyPageFromCacheLoop, if_pos ⟨by omega, by rw [numBytes_toNat]; omega⟩,
      copyPageFromCacheLoop_eq hidx cache n (i + 1) _ (by omega), Nat.add_comm n 1, writeRange_add]
    have h1 : writeRange deviceSize (fun k => cache (i + k)) (idx + i) 1 dataStore =
        Function.update dataStore (idx + i) (cache i) := by
      rw [writeRange_succ, writeRange_zero, Nat.add_zero, Nat.add_zero, Nat.mod_eq_of_lt (by omega)]
    rw [h1]
    simp only [Nat.add_assoc]

/-- The whole page of the cursor takes the contents of the cache. -/
theorem storeCopyPageFromCache_eq {s : Store} (hs : InStorage s) :
    storeCopyPageFromCache s = some { s with
      dataStore := setSegment 256 (s.cursor.toNat / 256) s.cache s.dataStore } := by
  rw [InStorage, deviceSize_eq] at hs
  have hidx : s.cursor.toNat / 256 * 256 + 256 ≤ deviceSize := by rw [deviceSize_eq]; omega
  have hp : s.cursor.toNat / 256 % 65536 = s.cursor.toNat / 256 := by omega
  simp only [storeCopyPageFromCache, and_not_byteMask_toNat, numBytes_toNat]
  rw [copyPageFromCacheLoop_eq hidx s.cache 256 0 s.dataStore rfl]
  have h := writeRange_segment (n := 256) (P := 65536) (by norm_num) (by norm_num) (s.cursor.toNat / 256)
    s.cache s.dataStore
  rw [hp] at h
  simp only [Option.map_some, Nat.zero_add, Nat.add_zero]
  rw [← h]

/-- The whole block of the cursor is zeroed. -/
theorem storeEraseBlock_eq {s : Store} (hs : InStorage s) :
    storeEraseBlock s = some { s with
      dataStore := setSegment 65536 (s.cursor.toNat / 65536) (fun _ => 0) s.dataStore } := by
  rw [InStorage, deviceSize_eq] at hs
  have hlen : (numPages * numBytes).toNat = 65536 := by decide
  simp only [storeEraseBlock, and_blockMask_toNat, hlen, deviceSize_eq]
  rw [if_pos (by omega)]
  congr 2
  funext a
  have : (s.cursor.toNat / 65536 % 256 * 65536 ≤ a ∧ a < s.cursor.toNat / 65536 % 256 * 65536 + 65536) ↔
      a / 65536 = s.cursor.toNat / 65536 := by omega
  simp only [setSegment, this]

end NandRig.Emulator
