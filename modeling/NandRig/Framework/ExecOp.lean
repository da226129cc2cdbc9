/-
The framework functions for drivers with an operation interpreter (`framework/fw_execop.c`). Each
builds the instructions of one operation in an array of a size counted beforehand, checks the
count, and hands the operation to the driver. Allocation is taken to succeed. And the entry points of the
framework (`framework/framework.c`), which go by the kind of driver.
-/
import NandRig.Framework.JumpTable

namespace NandRig.Framework

open Emulator Interact

abbrev pageSize : UInt32 := numBytes

/-! ## Address parts -/

def blockOf (o : UInt32) : UInt32 := o / blockSize
def pageOf (o : UInt32) : UInt32 := (o % blockSize) / pageSize
def byteOf (o : UInt32) : UInt32 := o % pageSize

/-! ## Instruction counts -/

abbrev dataXferInstructions : UInt32 := 3
abbrev eraseInstructions : UInt32 := 2

def instructionCountDataXfer (byteAddr size : UInt32) : UInt32 :=
  let count := 0 + 1 + 1
  let size := size + byteAddr
  let count := count + dataXferInstructions * (size / numBytes)
  count + (if size % numBytes ≠ 0 then dataXferInstructions else 0)

def instructionCountErase (numBlocks : UInt32) : UInt32 :=
  let count := 0 + 1 + 1
  count + eraseInstructions * numBlocks

/-! ## Building an operation -/

/-- `operation.instrs[i++] = instr`, in an array of `count` instructions of which `i` are set. -/
def push (count : UInt32) (instrs : List NandOpInstr) (instr : NandOpInstr) : DriverM (List NandOpInstr) := do
  assert (instrs.length < count.toNat)
  pure (instrs ++ [instr])

def pushAll (count : UInt32) (instrs : List NandOpInstr) : List NandOpInstr → DriverM (List NandOpInstr)
  | [] => pure instrs
  | instr :: rest => do
    let instrs ← push count instrs instr
    pushAll count instrs rest

/-- The room left in a page, never none. -/
abbrev Room := { available : UInt32 // 0 < available }

def sizeThisPage (sizeRemaining : UInt32) (available : Room) : UInt32 :=
  if sizeRemaining < available.1 then sizeRemaining else available.1

theorem sizeThisPage_toNat (sizeRemaining : UInt32) (available : Room) :
    (sizeThisPage sizeRemaining available).toNat = min sizeRemaining.toNat available.1.toNat := by
  unfold sizeThisPage
  split_ifs with h <;> rw [UInt32.lt_iff_toNat_lt] at h <;> omega

theorem sub_sizeThisPage_toNat (sizeRemaining : UInt32) (available : Room) :
    (sizeRemaining - sizeThisPage sizeRemaining available).toNat =
      sizeRemaining.toNat - min sizeRemaining.toNat available.1.toNat := by
  have h := sizeThisPage_toNat sizeRemaining available
  rw [UInt32.toNat_sub_of_le, h]
  rw [UInt32.le_iff_toNat_le, h]
  exact Nat.min_le_left _ _

theorem sub_sizeThisPage_lt {sizeRemaining : UInt32} (available : Room) (h : 0 < sizeRemaining) :
    (sizeRemaining - sizeThisPage sizeRemaining available).toNat < sizeRemaining.toNat := by
  have h2 : 0 < available.1.toNat := UInt32.lt_iff_toNat_lt.1 available.2
  have h3 : 0 < sizeRemaining.toNat := UInt32.lt_iff_toNat_lt.1 h
  rw [sub_sizeThisPage_toNat]
  omega

def fullPage : Room := ⟨pageSize, by decide⟩

/-- First page capacity. -/
def firstRoom (offset : UInt32) : Room :=
  ⟨pageSize - byteOf offset, by
    have h : (byteOf offset).toNat < 256 := by
      unfold byteOf
      rw [UInt32.toNat_mod]
      exact Nat.mod_lt _ (by decide)
    rw [UInt32.lt_iff_toNat_lt, UInt32.toNat_sub_of_le]
    · show 0 < 256 - (byteOf offset).toNat
      omega
    · rw [UInt32.le_iff_toNat_le]
      show (byteOf offset).toNat ≤ 256
      omega⟩

/-- The loop that adds the instructions `page` of each page of a transfer. -/
def execPagesLoop (page : (len : UInt32) → (buf : Nat) → List NandOpInstr) (count size : UInt32)
    (instrs : List NandOpInstr) (sizeRemaining : UInt32) (available : Room) (cursor : UInt32) :
    DriverM (List NandOpInstr) :=
  if _h : 0 < sizeRemaining then do
    let size' := sizeThisPage sizeRemaining available
    let instrs ← pushAll count instrs (page size' cursor.toNat)
    assert (cursor + size' + (sizeRemaining - size') = size)
    execPagesLoop page count size instrs (sizeRemaining - size') fullPage (cursor + size')
  else pure instrs
termination_by sizeRemaining.toNat
decreasing_by exact sub_sizeThisPage_lt available _h

/-- The instructions of one page written: transfer, execute, wait. -/
def writePage (len : UInt32) (buf : Nat) : List NandOpInstr :=
  [.dataIn len buf, .cmd cProgramExecute.toUInt8, .waitrdy timeoutWritePageUs]

/-- The instructions of one page read: execute, wait, transfer. -/
def readPage (len : UInt32) (buf : Nat) : List NandOpInstr :=
  [.cmd cReadExecute.toUInt8, .waitrdy timeoutReadPageUs, .dataOut len buf]

/-- The instructions of a transfer: `setup`, the address, and those of each page. -/
def execTransfer (setup : UInt32) (page : (len : UInt32) → (buf : Nat) → List NandOpInstr)
    (offset size : UInt32) : DriverM (List NandOpInstr) := do
  let count := instructionCountDataXfer (byteOf offset) size
  let instrs ← push count [] (.cmd setup.toUInt8)
  let instrs ← push count instrs
    (.addr [(blockOf offset).toUInt8, (pageOf offset).toUInt8, (byteOf offset).toUInt8])
  let instrs ← execPagesLoop page count size instrs size (firstRoom offset) 0
  assert (UInt32.ofNat instrs.length = instructionCountDataXfer (byteOf offset) size)
  pure instrs

def execWrite (exec : Buffer → List NandOpInstr → DriverM (Buffer × Int)) (buffer : Buffer)
    (offset size : UInt32) : DriverM Int := do
  let instrs ← execTransfer cProgramSetup writePage offset size
  let (_, result) ← exec buffer instrs
  if result ≠ 0 then pure (-1) else pure 0

def execRead (exec : Buffer → List NandOpInstr → DriverM (Buffer × Int)) (buffer : Buffer)
    (offset size : UInt32) : DriverM (Buffer × Int) := do
  let instrs ← execTransfer cReadSetup readPage offset size
  let (buffer, result) ← exec buffer instrs
  if result ≠ 0 then pure (buffer, -1) else pure (buffer, 0)

/-- The instructions of one block erased. -/
def eraseBlockInstrs : List NandOpInstr := [.cmd cEraseExecute.toUInt8, .waitrdy timeoutEraseBlockUs]

/-- The loop of `exec_erase()`, from `b` on; `ninstrs` counts along. -/
def execEraseLoop (count numBlocks b : UInt32) (ninstrs : UInt32) (instrs : List NandOpInstr) :
    DriverM (UInt32 × List NandOpInstr) :=
  if h : b < numBlocks then do
    let instrs ← pushAll count instrs eraseBlockInstrs
    execEraseLoop count numBlocks (b + 1) (ninstrs + 1 + 1) instrs
  else pure (ninstrs, instrs)
termination_by numBlocks.toNat - b.toNat
decreasing_by exact sub_succ_toNat_lt h

def execErase (exec : Buffer → List NandOpInstr → DriverM (Buffer × Int)) (offset size : UInt32) :
    DriverM Int := do
  let startBlock := (offset / blockSize).toUInt8
  let numBlocks := blocksToErase offset size
  let count := instructionCountErase numBlocks
  let instrs ← push count [] (.cmd cEraseSetup.toUInt8)
  let instrs ← push count instrs (.addr [startBlock])
  let (ninstrs, instrs) ← execEraseLoop count numBlocks 0 2 instrs
  assert (ninstrs = instructionCountErase numBlocks)
  let (_, result) ← exec (fun _ => 0) (instrs.take ninstrs.toNat)
  if result ≠ 0 then pure (-1) else pure 0

/-! ## Entry points -/

def writeNand (driver : NandDriver) (buffer : Buffer) (offset size : UInt32) : DriverM Int :=
  match driver with
  | .jumpTable table => jtWrite table buffer offset size
  | .execOp exec => execWrite exec buffer offset size

def readNand (driver : NandDriver) (buffer : Buffer) (offset size : UInt32) : DriverM (Buffer × Int) :=
  match driver with
  | .jumpTable table => jtRead table buffer offset size
  | .execOp exec => execRead exec buffer offset size

def eraseNand (driver : NandDriver) (offset size : UInt32) : DriverM Int :=
  match driver with
  | .jumpTable table => jtErase table offset size
  | .execOp exec => execErase exec offset size

end NandRig.Framework
