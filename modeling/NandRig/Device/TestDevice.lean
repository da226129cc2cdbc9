/-
The unit tests of the emulator (`device/test_device.c`). Their tracee has its own `ioregisters`, to which
it stores whole words where a driver stores bytes, and calls the pins itself.
-/
import NandRig.Device.Emu
import NandRig.Lib.Interact

namespace NandRig.TestDevice

open Emulator Interact

/-! ## Programs of the tracee -/

/-- What a test prints. -/
inductive Line
  | wrote (block : Nat)
  | checked (block : Nat)
  deriving DecidableEq, Repr

inductive TraceeOp
  /-- `ioregisters = word`. -/
  | store (word : UInt64)
  /-- The value of `ioregisters`. -/
  | load
  | gpioSet (pin value : UInt64)
  | gpioGet (pin : UInt64)
  /-- `wait_for_device()`, which returns when a poll of the status pin finds the device ready. -/
  | waitForDevice
  | printf (line : Line)
  /-- A failed assertion, with the text it gives. -/
  | abort (text : String)
  deriving DecidableEq, Repr

abbrev TraceeOp.Res : TraceeOp → Type
  | .load | .gpioGet _ => UInt64
  | .store _ | .gpioSet _ _ | .waitForDevice | .printf _ => Unit
  | .abort _ => Empty

abbrev TraceeM := Prog TraceeOp TraceeOp.Res

def ask (o : TraceeOp) : TraceeM o.Res := Prog.call o

/-- `assert(p && text)`. -/
def assert (p : Prop) [Decidable p] (text : String) : TraceeM Unit :=
  if p then pure () else do
    let e ← ask (.abort text)
    Empty.elim e

theorem assert_true {p : Prop} [Decidable p] (h : p) (text : String) : assert p text = pure () := if_pos h

/-- The word of a command, with an address byte at `ADDRESS_SHIFT` and a data byte. -/
def word (command : UInt32) (address data : UInt8) : UInt64 :=
  ((command <<< commandShift) ||| (address.toUInt32 <<< addressShift) ||| data.toUInt32).toUInt64

/-- The memory of `data` behind `memset(data, value, 256)`. -/
def memset (value : UInt8) : Nat → UInt8 := fun _ => value

/-- The text of an assertion that `ioregisters & MASK_DATA` is the value written `hex`. -/
def expected (hex : String) : String := "expected (ioregisters & MASK_DATA) == " ++ hex

/-! ## The parts of the tests -/

/-- A SETUP and three address bytes. -/
def setup (command : UInt32) (block page byte : UInt8) : TraceeM Unit := do
  ask (.store (word command 0 0))
  ask (.store (word command block 0))
  ask (.store (word command page 0))
  ask (.store (word command byte 0))

/-- `for (int i=0;i<n;i++) ioregisters = (C_DUMMY << COMMAND_SHIFT) | data[i];`. -/
def sendData (data : Nat → UInt8) (n : Nat) : TraceeM Unit :=
  Prog.upTo (fun i => ask (.store (word cDummy 0 (data i)))) n

/-- An EXECUTE, and the wait behind it. -/
def execute (command : UInt32) : TraceeM Unit := do
  ask (.store (word command 0 0))
  ask .waitForDevice

/-- The first `n` bytes of `data` behind a PROGRAM_SETUP, or behind the page before. -/
def fillPage (data : Nat → UInt8) (n : Nat) : TraceeM Unit := do
  sendData data n
  execute cProgramExecute

def writePage (block page byte : UInt8) (data : Nat → UInt8) (n : Nat) : TraceeM Unit := do
  setup cProgramSetup block page byte
  fillPage data n

def readPage (block page byte : UInt8) : TraceeM Unit := do
  setup cReadSetup block page byte
  execute cReadExecute

def eraseSetup (block : UInt8) : TraceeM Unit := do
  ask (.store (word cEraseSetup 0 0))
  ask (.store (word cEraseSetup block 0))

/-- The next `n` bytes provided are all `value`. -/
def expectData (n : Nat) (value : UInt8) (text : String) : TraceeM Unit :=
  Prog.upTo (fun _ => do
    let dataReg ← ask .load
    assert (dataReg &&& maskData.toUInt64 = value.toUInt64) text) n

/-- The bytes of a page are all `value`. -/
def checkPage (block page value : UInt8) (text : String) : TraceeM Unit := do
  readPage block page 0
  expectData 256 value text

/-! ## The tests -/

def wrPageTest : TraceeM Unit := do
  writePage 0 0 0 (memset 0xFF) 256
  checkPage 0 0 0xFF (expected "0xFF")

def eraseBlockTest : TraceeM Unit := do
  wrPageTest
  eraseSetup 0
  execute cEraseExecute
  checkPage 0 0 0x00 (expected "0x00")

def wrLessThanPageTest : TraceeM Unit := do
  writePage 0 0 0x0A (memset 0xFF) 10
  readPage 0 0 0
  expectData 10 0x00 (expected "0x00")
  expectData 10 0xFF (expected "0xFF")
  expectData 10 0x00 (expected "0x00")

-- the texts of this test and of the next name another value than they check
def writeTwoPagesTest : TraceeM Unit := do
  writePage 0 0 0 (memset 0xAA) 256
  fillPage (memset 0xBB) 256
  checkPage 0 0 0xAA (expected "0xFF")
  checkPage 0 1 0xBB (expected "0xFF")

def writeLastTwoPagesTest : TraceeM Unit := do
  writePage 0xFF 0xFF 0 (memset 0xAA) 256
  fillPage (memset 0xBB) 256
  checkPage 0xFF 0xFF 0xAA (expected "0xFF")
  checkPage 0 0 0xBB (expected "0xFF")

def writeAndReadTwoPagesTest : TraceeM Unit := do
  eraseBlockTest
  writePage 0 0 0 (memset 0xAA) 256
  fillPage (memset 0xBB) 256
  checkPage 0 0 0xAA (expected "0xAA")
  execute cReadExecute
  expectData 256 0xBB (expected "0xBB")

/-- The first page of two blocks is written, and both blocks are erased behind one SETUP. -/
def eraseBlocks (first second : UInt8) : TraceeM Unit := do
  writePage first 0 0 (memset 0xAA) 256
  writePage second 0 0 (memset 0xBB) 256
  checkPage first 0 0xAA (expected "0xAA")
  checkPage second 0 0xBB (expected "0xBB")
  eraseSetup first
  execute cEraseExecute
  execute cEraseExecute
  checkPage first 0 0x00 (expected "0x00")
  checkPage second 0 0x00 (expected "0x00")

def eraseTwoBlocksTest : TraceeM Unit := eraseBlocks 0 1

def eraseLastTwoBlocksTest : TraceeM Unit := eraseBlocks 0xFF 0

def overwritePageTest : TraceeM Unit := do
  eraseBlockTest
  setup cProgramSetup 0 0 0
  sendData (memset 0xAA) 128
  fillPage (memset 0xDD) 256
  readPage 0 0 0
  -- the initializer of `data_reg` takes a byte of its own
  let _ ← ask .load
  expectData 256 0xDD (expected "0xDD")

/-- The SETUP behind the reset finds no session open. -/
def resetTest : TraceeM Unit := do
  setup cProgramSetup 0 0 0
  sendData (memset 0xCC) 256
  ask (.gpioSet pnReset 1)
  eraseBlockTest

def setStatusPinTest : TraceeM Unit := do
  ask (.gpioSet pnStatus 1)
  eraseBlockTest

def getResetPinTest : TraceeM Unit := do
  let ret ← ask (.gpioGet pnReset)
  assert (ret = 0) "expected ret == 0"

def eraseAllBlocksTest : TraceeM Unit := do
  writePage 0xFF 0 0 (memset 0xAA) 256
  writePage 0 0 0 (memset 0xBB) 256
  checkPage 0xFF 0 0xAA (expected "0xAA")
  checkPage 0 0 0xBB (expected "0xBB")
  eraseSetup 0
  Prog.upTo (fun _ => execute cEraseExecute) 256
  checkPage 0xFF 0 0x00 (expected "0x00")
  checkPage 0 0 0x00 (expected "0x00")

/-- All pages behind one SETUP, and one more EXECUTE. -/
def writeAllPages : TraceeM Unit := do
  setup cProgramSetup 0 0 0
  Prog.upTo (fun i => do
    Prog.upTo (fun _ => fillPage (memset 0xEE) 256) 256
    ask (.printf (.wrote i))) 256
  execute cProgramExecute

def checkAllPages : TraceeM Unit := do
  setup cReadSetup 0 0 0
  Prog.upTo (fun i => do
    Prog.upTo (fun _ => do
      execute cReadExecute
      expectData 256 0xEE (expected "0xEE")) 256
    ask (.printf (.checked i))) 256

def writeAndReadAllPagesTest : TraceeM Unit := do
  writeAllPages
  checkAllPages

/-- The call of `write_and_read_all_pages_test()` is commented out. -/
def testerMain : TraceeM Int := do
  wrPageTest
  eraseBlockTest
  wrLessThanPageTest
  writeTwoPagesTest
  writeLastTwoPagesTest
  eraseTwoBlocksTest
  eraseLastTwoBlocksTest
  overwritePageTest
  writeAndReadTwoPagesTest
  resetTest
  setStatusPinTest
  getResetPinTest
  eraseAllBlocksTest
  return 0

end NandRig.TestDevice
