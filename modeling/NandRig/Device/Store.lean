/-
The storage module (`device/de_store.c`): cursor, data store and cache. The two arrays are
functions of the index of which only the indices below the declared size exist; every access of
the source checks its index range here and yields `none` when it would leave the array.
-/
import NandRig.Device.Emu

namespace NandRig.Emulator

/-! ## Cursor masks and shifts (`device/de_store.h`) -/

abbrev cursorBlockMask : UInt32 := 0x00FF0000
abbrev cursorPageMask : UInt32 := 0x0000FF00
abbrev cursorByteMask : UInt32 := 0x000000FF
abbrev cursorBlockShift : UInt32 := 16
abbrev cursorPageShift : UInt32 := 8
abbrev cursorByteShift : UInt32 := 0

/-- The static variables of the module. -/
structure Store where
  cursor : UInt32
  dataStore : Nat → UInt8
  cache : Nat → UInt8

/-! ## Initialization -/

def storeClearCache (s : Store) : Store := { s with cache := fun _ => 0 }

def storeClearCursor (s : Store) : Store := { s with cursor := 0 }

def storeInit (s : Store) : Store :=
  { storeClearCursor (storeClearCache s) with dataStore := fun _ => 0 }

/-! ## The cursor -/

/-- `increment_cursor(remain)`. -/
def incrementCursor (remain : Bool) (s : Store) : Store :=
  if remain then
    let bytes := s.cursor &&& cursorByteMask
    if bytes + 1 < numBytes then { s with cursor := s.cursor + 1 }
    else { s with cursor := s.cursor &&& ~~~cursorByteMask }
  else
    let cursor := s.cursor + 1
    -- wrap cursor to remain in storage
    if cursor ≥ numBlocks * numPages * numBytes then { s with cursor := 0 }
    else { s with cursor := cursor }

def incrementPage (s : Store) : Store :=
  let page := ((s.cursor &&& cursorPageMask) >>> cursorPageShift) + 1
  let block := (s.cursor &&& cursorBlockMask) >>> cursorBlockShift
  let (page, block) :=
    if page ≥ numPages then
      -- on to the next block, wrapped to remain in storage
      let block := block + 1
      (0, if block ≥ numBlocks then 0 else block)
    else (page, block)
  { s with cursor := (0 ||| (block <<< cursorBlockShift)) ||| (page <<< cursorPageShift) }

def incrementBlock (s : Store) : Store :=
  let block := ((s.cursor &&& cursorBlockMask) >>> cursorBlockShift) + 1
  let block := if block ≥ numBlocks then 0 else block
  { s with cursor := 0 ||| (block <<< cursorBlockShift) }

/-- `set_cursor_byte(value, shift)`: the value is shifted in unmasked. -/
def setCursorByte (value shift : UInt32) (s : Store) : Store :=
  { s with cursor := (s.cursor &&& ~~~(0xFF <<< shift)) ||| (value <<< shift) }

/-! ## The arrays -/

/-- `memcpy(cache, &data_store[cursor & ~CURSOR_BYTE_MASK], NUM_BYTES)`. -/
def storeCopyPageToCache (s : Store) : Option Store :=
  let idx := (s.cursor &&& ~~~cursorByteMask).toNat
  if idx + numBytes.toNat ≤ deviceSize then
    some { s with cache := fun i => if i < numBytes.toNat then s.dataStore (idx + i) else s.cache i }
  else none

/-- The copy loop of `store_copy_page_from_cache()`, from index `i` on. -/
def copyPageFromCacheLoop (idx : Nat) (cache : Nat → UInt8) : (n i : Nat) → (Nat → UInt8) → Option (Nat → UInt8)
  | 0, _, dataStore => some dataStore
  | n + 1, i, dataStore =>
    if idx + i < deviceSize ∧ i < numBytes.toNat then
      copyPageFromCacheLoop idx cache n (i + 1) (Function.update dataStore (idx + i) (cache i))
    else none

def storeCopyPageFromCache (s : Store) : Option Store :=
  let idx := (s.cursor &&& ~~~cursorByteMask).toNat
  (copyPageFromCacheLoop idx s.cache numBytes.toNat 0 s.dataStore).map fun dataStore =>
    { s with dataStore := dataStore }

def storeGetCacheByte (s : Store) : Option UInt8 :=
  let i := (s.cursor &&& cursorByteMask).toNat
  if i < numBytes.toNat then some (s.cache i) else none

def storeSetCacheByte (byte : UInt8) (s : Store) : Option Store :=
  let i := (s.cursor &&& cursorByteMask).toNat
  if i < numBytes.toNat then some { s with cache := Function.update s.cache i byte } else none

/-- `memset(&data_store[cursor & CURSOR_BLOCK_MASK], 0, NUM_PAGES*NUM_BYTES)`. -/
def storeEraseBlock (s : Store) : Option Store :=
  let idx := (s.cursor &&& cursorBlockMask).toNat
  let len := (numPages * numBytes).toNat
  if idx + len ≤ deviceSize then
    some { s with dataStore := fun i => if idx ≤ i ∧ i < idx + len then 0 else s.dataStore i }
  else none

end NandRig.Emulator
