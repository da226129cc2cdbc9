/-
The framework functions for drivers with a jump table (`framework/fw_jumptable.c`). The loops run
over `bytes_left`; offsets and addresses are truncated to bytes as the source stores them.
-/
import NandRig.Framework.Interface

namespace NandRig.Framework

open Emulator Interact

/-- Device block size in bytes. -/
abbrev blockSize : UInt32 := numPages * numBytes

theorem blockSize_toNat : blockSize.toNat = 65536 := rfl

/-! ## One page of a transfer -/

/-- How much of a transfer goes to the page at hand, the first of which starts at `byte_addr`. -/
def sizeInPage (bytesLeft : UInt32) (byteAddr : UInt8) : UInt32 :=
  let size := if byteAddr ≠ 0 then numBytes - byteAddr.toUInt32 else numBytes
  if bytesLeft < numBytes ∧ bytesLeft < size then bytesLeft else size

theorem byteAddr_toNat (offset : UInt32) : (offset % numBytes).toUInt8.toNat = offset.toNat % 256 := by
  rw [UInt32.toNat_toUInt8, UInt32.toNat_mod, numBytes_toNat]
  omega

theorem sizeInPage_toNat (bytesLeft : UInt32) (byteAddr : UInt8) :
    (sizeInPage bytesLeft byteAddr).toNat = min bytesLeft.toNat (256 - byteAddr.toNat) := by
  have hb : byteAddr.toNat < 256 := byteAddr.toNat_lt
  have hsize : (if byteAddr ≠ 0 then numBytes - byteAddr.toUInt32 else numBytes).toNat = 256 - byteAddr.toNat := by
    split_ifs with h
    · rw [UInt32.toNat_sub_of_le]
      · rfl
      · rw [UInt32.le_iff_toNat_le, UInt8.toNat_toUInt32, numBytes_toNat]; omega
    · rw [Decidable.not_not] at h
      subst h
      rfl
  unfold sizeInPage
  dsimp only
  generalize (if byteAddr ≠ 0 then numBytes - byteAddr.toUInt32 else numBytes) = size at hsize ⊢
  split_ifs with h <;> rw [UInt32.lt_iff_toNat_lt, UInt32.lt_iff_toNat_lt, hsize, numBytes_toNat] at h
  · omega
  · rw [hsize]; omega

theorem sizeInPage_le (bytesLeft : UInt32) (byteAddr : UInt8) : sizeInPage bytesLeft byteAddr ≤ bytesLeft := by
  rw [UInt32.le_iff_toNat_le, sizeInPage_toNat]
  exact Nat.min_le_left _ _

theorem sub_sizeInPage_toNat (bytesLeft : UInt32) (byteAddr : UInt8) :
    (bytesLeft - sizeInPage bytesLeft byteAddr).toNat =
      bytesLeft.toNat - min bytesLeft.toNat (256 - byteAddr.toNat) := by
  rw [UInt32.toNat_sub_of_le _ _ (sizeInPage_le bytesLeft byteAddr), sizeInPage_toNat]

theorem sub_sizeInPage_lt {bytesLeft : UInt32} (byteAddr : UInt8) (h : bytesLeft ≠ 0) :
    (bytesLeft - sizeInPage bytesLeft byteAddr).toNat < bytesLeft.toNat := by
  have hb : byteAddr.toNat < 256 := byteAddr.toNat_lt
  have h0 := toNat_ne_zero h
  rw [sub_sizeInPage_toNat]
  omega

/-! ## Writing -/

/-- The loop of `jt_write()`. -/
def jtWriteLoop (table : NandJumpTable) (buffer : Buffer) (bytesLeft cursor : UInt32) (byteAddr : UInt8) :
    DriverM Int :=
  if _h : bytesLeft = 0 then pure 0
  else do
    let sizeToWrite := sizeInPage bytesLeft byteAddr
    table.writeBuffer buffer cursor.toNat sizeToWrite
    table.setRegister ioregCommand cProgramExecute.toUInt8
    let result ← table.waitReady timeoutWritePageUs
    if result ≠ 0 then pure (-1)
    else jtWriteLoop table buffer (bytesLeft - sizeToWrite) (cursor + sizeToWrite) 0
termination_by bytesLeft.toNat
decreasing_by exact sub_sizeInPage_lt byteAddr _h

def jtWrite (table : NandJumpTable) (buffer : Buffer) (offset size : UInt32) : DriverM Int := do
  let byteAddr := (offset % numBytes).toUInt8
  let pageAddr := (offset / numPages).toUInt8
  let blockAddr := (offset / blockSize).toUInt8
  table.setRegister ioregCommand cProgramSetup.toUInt8
  table.setRegister ioregAddress blockAddr
  table.setRegister ioregAddress pageAddr
  table.setRegister ioregAddress byteAddr
  jtWriteLoop table buffer size 0 byteAddr

/-! ## Reading -/

/-- The loop of `jt_read()`. -/
def jtReadLoop (table : NandJumpTable) (buffer : Buffer) (bytesLeft cursor : UInt32) (byteAddr : UInt8) :
    DriverM (Buffer × Int) :=
  if _h : bytesLeft = 0 then pure (buffer, 0)
  else do
    table.setRegister ioregCommand cReadExecute.toUInt8
    let result ← table.waitReady timeoutReadPageUs
    if result ≠ 0 then pure (buffer, -1)
    else do
      let sizeToRead := sizeInPage bytesLeft byteAddr
      let buffer ← table.readBuffer buffer cursor.toNat sizeToRead
      jtReadLoop table buffer (bytesLeft - sizeToRead) (cursor + sizeToRead) 0
termination_by bytesLeft.toNat
decreasing_by exact sub_sizeInPage_lt byteAddr _h

def jtRead (table : NandJumpTable) (buffer : Buffer) (offset size : UInt32) : DriverM (Buffer × Int) := do
  let byteAddr := (offset % numBytes).toUInt8
  let pageAddr := (offset / numPages).toUInt8
  let blockAddr := (offset / blockSize).toUInt8
  table.setRegister ioregCommand cReadSetup.toUInt8
  table.setRegister ioregAddress blockAddr
  table.setRegister ioregAddress pageAddr
  table.setRegister ioregAddress byteAddr
  jtReadLoop table buffer size 0 byteAddr

/-! ## Erasing -/

/-- The loop of `jt_erase()`, from `b` on. -/
def jtEraseLoop (table : NandJumpTable) (numBlocks b : UInt32) : DriverM Int :=
  if h : b < numBlocks then do
    table.setRegister ioregCommand cEraseExecute.toUInt8
    let result ← table.waitReady timeoutEraseBlockUs
    if result ≠ 0 then pure (-1) else jtEraseLoop table numBlocks (b + 1)
  else pure 0
termination_by numBlocks.toNat - b.toNat
decreasing_by exact sub_succ_toNat_lt h

/-- The number of blocks erased: the region is widened to whole blocks, in `unsigned int`. -/
def blocksToErase (offset size : UInt32) : UInt32 :=
  let size := size + offset % blockSize
  let numBlocks := size / blockSize
  if size % blockSize ≠ 0 then numBlocks + 1 else numBlocks

theorem blocksToErase_toNat {offset size : UInt32} (hfit : offset.toNat % 65536 + size.toNat < 2 ^ 32) :
    (blocksToErase offset size).toNat = (offset.toNat % 65536 + size.toNat + 65535) / 65536 := by
  have h0 := UInt32.toNat_zero
  have h1 := UInt32.toNat_one
  have hoffset : (offset % blockSize).toNat = offset.toNat % 65536 := by
    rw [UInt32.toNat_mod, blockSize_toNat]
  have hsum : (size + offset % blockSize).toNat = size.toNat + offset.toNat % 65536 := by
    rw [add_toNat (by omega), hoffset]
  have hdiv : ((size + offset % blockSize) / blockSize).toNat = (size.toNat + offset.toNat % 65536) / 65536 := by
    rw [UInt32.toNat_div, blockSize_toNat, hsum]
  have hmod : ((size + offset % blockSize) % blockSize).toNat = (size.toNat + offset.toNat % 65536) % 65536 := by
    rw [UInt32.toNat_mod, blockSize_toNat, hsum]
  unfold blocksToErase
  dsimp only
  split_ifs with hrest
  -- a last block that is touched in part, or whole blocks only
  · have := toNat_ne_zero hrest
    rw [hmod] at this
    rw [add_toNat (by omega), hdiv, h1]
    omega
  · have : (size.toNat + offset.toNat % 65536) % 65536 = 0 := by
      rw [← hmod, not_not.1 hrest, h0]
    rw [hdiv]
    omega

/-- Where the widened size overflows, at most one block is left of it. -/
theorem blocksToErase_toNat_le_one {offset size : UInt32} (h : 2 ^ 32 ≤ offset.toNat % 65536 + size.toNat) :
    (blocksToErase offset size).toNat ≤ 1 := by
  have hsize := size.toNat_lt
  have hoffset : (offset % blockSize).toNat = offset.toNat % 65536 := by
    rw [UInt32.toNat_mod, blockSize_toNat]
  have hsum : (size + offset % blockSize).toNat < 65536 := by
    rw [UInt32.toNat_add, hoffset]
    omega
  have hdiv : (size + offset % blockSize) / blockSize = 0 := by
    rw [← UInt32.toNat_inj, UInt32.toNat_div, blockSize_toNat]
    exact Nat.div_eq_of_lt hsum
  unfold blocksToErase
  dsimp only
  rw [hdiv]
  split_ifs <;> decide

def jtErase (table : NandJumpTable) (offset size : UInt32) : DriverM Int := do
  let startBlock := (offset / blockSize).toUInt8
  table.setRegister ioregCommand cEraseSetup.toUInt8
  table.setRegister ioregAddress startBlock
  jtEraseLoop table (blocksToErase offset size) 0

end NandRig.Framework
