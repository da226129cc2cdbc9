/-
The interface between the framework and its drivers (`framework/framework.h`, `driver/driver.h`).
Driver code is a program over what it asks of the machine: byte stores to `ioregisters`, loads of
its data byte, and waits; the poll loop behind a wait is run by the environment.
-/
import NandRig.Device.Emu
import NandRig.Lib.Interact

namespace NandRig.Framework

open Emulator Interact

/-! ## Driver programs -/

inductive Op
  | store (offset value : UInt8)
  | load
  /-- `nand_wait(interval_us)`, answered by the value it returns. -/
  | wait (intervalUs : UInt32)
  /-- A failed assertion, or a write outside an allocated array. -/
  | abort
  deriving DecidableEq, Repr

abbrev Op.Res : Op → Type
  | .store _ _ => Unit
  | .load => UInt8
  | .wait _ => Int
  | .abort => Empty

abbrev DriverM := Prog Op Op.Res

def ask (o : Op) : DriverM o.Res := Prog.call o

/-- Memory behind a buffer pointer, by index. -/
abbrev Buffer := Nat → UInt8

/-- `assert(p)`. -/
def assert (p : Prop) [Decidable p] : DriverM Unit :=
  if p then pure () else do
    let e ← ask .abort
    nomatch e

theorem assert_true {p : Prop} [Decidable p] (h : p) : assert p = pure () := if_pos h

/-! ## Drivers -/

/-- A buffer argument is the memory and the index it points to; reading returns the memory filled. -/
structure NandJumpTable where
  setRegister : (offset value : UInt8) → DriverM Unit
  readBuffer : Buffer → (pos : Nat) → (length : UInt32) → DriverM Buffer
  writeBuffer : Buffer → (pos : Nat) → (length : UInt32) → DriverM Unit
  waitReady : (intervalUs : UInt32) → DriverM Int

/-- A NAND operation instruction; the buffers of data instructions are indexes into one memory. -/
inductive NandOpInstr
  | cmd (opcode : UInt8)
  | addr (addrs : List UInt8)
  | dataIn (len : UInt32) (buf : Nat)
  | dataOut (len : UInt32) (buf : Nat)
  | waitrdy (timeoutMs : UInt32)
  deriving DecidableEq, Repr

inductive NandDriver
  | jumpTable (table : NandJumpTable)
  | execOp (exec : Buffer → List NandOpInstr → DriverM (Buffer × Int))

/-! ## Loop counters -/

theorem toNat_ne_zero {n : UInt32} (h : n ≠ 0) : n.toNat ≠ 0 := by
  intro e
  exact h (UInt32.toNat_inj.1 e)

/-- A sum that does not overflow. -/
theorem add_toNat {a b : UInt32} (h : a.toNat + b.toNat < 2 ^ 32) : (a + b).toNat = a.toNat + b.toNat := by
  rw [UInt32.toNat_add]
  exact Nat.mod_eq_of_lt h

theorem pred_toNat {n : UInt32} (h : n ≠ 0) : (n - 1).toNat = n.toNat - 1 := by
  have := toNat_ne_zero h
  rw [UInt32.toNat_sub_of_le]
  · rfl
  · rw [UInt32.le_iff_toNat_le]
    show 1 ≤ n.toNat
    omega

theorem pred_toNat_lt {n : UInt32} (h : n ≠ 0) : (n - 1).toNat < n.toNat := by
  have := toNat_ne_zero h
  rw [pred_toNat h]; omega

theorem succ_toNat {i n : UInt32} (h : i < n) : (i + 1).toNat = i.toNat + 1 := by
  have := n.toNat_lt
  rw [UInt32.lt_iff_toNat_lt] at h
  exact add_toNat (b := 1) (by show i.toNat + 1 < 2 ^ 32; omega)

theorem sub_succ_toNat_lt {i n : UInt32} (h : i < n) : n.toNat - (i + 1).toNat < n.toNat - i.toNat := by
  have h' := UInt32.lt_iff_toNat_lt.1 h
  rw [succ_toNat h]; omega

/-! ## Timeouts (`driver/driver.h`) -/

abbrev nandPollIntervalUs : UInt32 := 25

abbrev timeoutReadPageUs : UInt32 := readPageDuration.toUInt32 + nandPollIntervalUs
abbrev timeoutWritePageUs : UInt32 := writePageDuration.toUInt32 + nandPollIntervalUs
abbrev timeoutEraseBlockUs : UInt32 := eraseBlockDuration.toUInt32 + nandPollIntervalUs

end NandRig.Framework
