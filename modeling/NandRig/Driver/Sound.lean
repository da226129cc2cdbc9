/-
Two sound drivers: alpha_0 (`driver/alpha/alpha_0.c`), which gives the framework a jump table, and foxtrot_0
(`driver/foxtrot/foxtrot_0.c`), which gives it an interpreter of NAND operations.
-/
import NandRig.Framework.Interface

namespace NandRig.Driver

open Emulator Framework Interact

/-! ## alpha_0 -/

namespace Alpha0

def nandSetRegister (offset value : UInt8) : DriverM Unit := ask (.store offset value)

def nandWait (intervalUs : UInt32) : DriverM Int := ask (.wait intervalUs)

/-- `while (length--) *buffer++ = data;` -/
def nandRead (buffer : Buffer) (pos : Nat) (length : UInt32) : DriverM Buffer :=
  if h : length = 0 then pure buffer
  else do
    let byte ← ask .load
    nandRead (Function.update buffer pos byte) (pos + 1) (length - 1)
termination_by length.toNat
decreasing_by exact pred_toNat_lt h

/-- `while (length--) data = *buffer++;` -/
def nandProgram (buffer : Buffer) (pos : Nat) (length : UInt32) : DriverM Unit :=
  if h : length = 0 then pure ()
  else do
    ask (.store ioregData (buffer pos))
    nandProgram buffer (pos + 1) (length - 1)
termination_by length.toNat
decreasing_by exact pred_toNat_lt h

def jumpTable : NandJumpTable where
  readBuffer := nandRead
  setRegister := nandSetRegister
  waitReady := nandWait
  writeBuffer := nandProgram

def getDriver : NandDriver := .jumpTable jumpTable

end Alpha0

/-! ## foxtrot_0 -/

namespace Foxtrot0

/-- Here the offset is an `unsigned int`; all callers pass one of the IOREG constants. -/
def nandSetRegister (offset : UInt32) (value : UInt8) : DriverM Unit :=
  ask (.store offset.toUInt8 value)

def nandWait (intervalUs : UInt32) : DriverM Int := ask (.wait intervalUs)

/-- The loop of `nand_read()`, from `i` on. -/
def nandReadFrom (i : UInt32) (buffer : Buffer) (pos : Nat) (length : UInt32) : DriverM Buffer :=
  if _h : i < length then do
    let byte ← ask .load
    nandReadFrom (i + 1) (Function.update buffer (pos + i.toNat) byte) pos length
  else pure buffer
termination_by length.toNat - i.toNat
decreasing_by exact sub_succ_toNat_lt _h

def nandRead (buffer : Buffer) (pos : Nat) (length : UInt32) : DriverM Buffer :=
  nandReadFrom 0 buffer pos length

/-- The loop of `nand_program()`, from `i` on. -/
def nandProgramFrom (i : UInt32) (buffer : Buffer) (pos : Nat) (length : UInt32) : DriverM Unit :=
  if h : i < length then do
    ask (.store ioregData (buffer (pos + i.toNat)))
    nandProgramFrom (i + 1) buffer pos length
  else pure ()
termination_by length.toNat - i.toNat
decreasing_by exact sub_succ_toNat_lt h

def nandProgram (buffer : Buffer) (pos : Nat) (length : UInt32) : DriverM Unit :=
  nandProgramFrom 0 buffer pos length

/-- The loop over the addresses of an address instruction. -/
def setAddresses : List UInt8 → DriverM Unit
  | [] => pure ()
  | address :: addrs => do
    nandSetRegister ioregAddress.toUInt32 address
    setAddresses addrs

/-- `exec_op(commands)`: the memory behind the buffers, and the value returned. -/
def execOp (buffer : Buffer) : List NandOpInstr → DriverM (Buffer × Int)
  | [] => pure (buffer, 0)
  | .cmd opcode :: instrs => do
    nandSetRegister ioregCommand.toUInt32 opcode
    execOp buffer instrs
  | .addr addrs :: instrs => do
    setAddresses addrs
    execOp buffer instrs
  | .dataIn len buf :: instrs => do
    nandProgram buffer buf len
    execOp buffer instrs
  | .dataOut len buf :: instrs => do
    let buffer ← nandRead buffer buf len
    execOp buffer instrs
  | .waitrdy timeoutMs :: instrs => do
    let result ← nandWait timeoutMs
    if result ≠ 0 then pure (buffer, -1) else execOp buffer instrs

def getDriver : NandDriver := .execOp execOp

end Foxtrot0

end NandRig.Driver
