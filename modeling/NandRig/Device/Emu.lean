/-
The constants of the device interface: `device/device_emu.h` and the register masks of
`device/de_ioregs.h`, plus the byte view the driver has of the IO register word; and the deadline
(`device/de_deadline.c`).
-/
import Mathlib.Tactic

namespace NandRig.Emulator

/-! ## IO registers -/

abbrev ioregCommand : UInt8 := 0x02
abbrev ioregAddress : UInt8 := 0x01
abbrev ioregData : UInt8 := 0x00

abbrev maskCommand : UInt32 := 0x00FF0000
abbrev maskAddress : UInt32 := 0x0000FF00
abbrev maskData : UInt32 := 0x000000FF
abbrev commandShift : UInt32 := 16
abbrev addressShift : UInt32 := 8

/-! ## Commands -/

abbrev cReadSetup : UInt32 := 0x01
abbrev cReadExecute : UInt32 := 0x02
abbrev cProgramSetup : UInt32 := 0x03
abbrev cProgramExecute : UInt32 := 0x04
abbrev cEraseSetup : UInt32 := 0x05
abbrev cEraseExecute : UInt32 := 0x06
abbrev cDummy : UInt32 := 0x07

/-! ## Pins -/

abbrev deviceBusy : UInt64 := 1
abbrev deviceReady : UInt64 := 0
abbrev pnStatus : UInt64 := 0
abbrev pnReset : UInt64 := 1

/-! ## Storage geometry and durations (microseconds) -/

abbrev numBlocks : UInt32 := 256
abbrev numPages : UInt32 := 256
abbrev numBytes : UInt32 := 256

/-- `NUM_BLOCKS * NUM_PAGES * NUM_BYTES`, the number of bytes of `data_store`. -/
abbrev deviceSize : Nat := 256 * 256 * 256

@[simp] theorem numBytes_toNat : numBytes.toNat = 256 := rfl
@[simp] theorem numPages_toNat : numPages.toNat = 256 := rfl
@[simp] theorem numBlocks_toNat : numBlocks.toNat = 256 := rfl

theorem deviceSize_eq : deviceSize = 16777216 := rfl

abbrev readPageDuration : UInt64 := 100
abbrev writePageDuration : UInt64 := 600
abbrev eraseBlockDuration : UInt64 := 2000

/-! ## The fields of a peeked word -/

def commandOf (peeked : UInt32) : UInt32 := (peeked &&& maskCommand) >>> commandShift
def addressOf (peeked : UInt32) : UInt32 := (peeked &&& maskAddress) >>> addressShift
def dataOf (peeked : UInt32) : UInt8 := (peeked &&& maskData).toUInt8

theorem addressOf_toNat (peeked : UInt32) : (addressOf peeked).toNat = peeked.toNat / 256 % 256 := by
  have h : (peeked.toNat &&& 0x0000FF00) >>> 8 = peeked.toNat / 256 % 256 := by
    rw [Nat.shiftRight_and_distrib, Nat.shiftRight_eq_div_pow]
    exact Nat.and_two_pow_sub_one_eq_mod _ 8
  simpa [addressOf, maskAddress, addressShift] using h

theorem addressOf_lt (peeked : UInt32) : (addressOf peeked).toNat < 256 := by
  rw [addressOf_toNat]; omega

/-! ## Single-byte stores to the word -/

/-- `*((unsigned char *)ioregisters + offset) = value`. -/
def setByte (ioregisters : UInt64) (offset value : UInt8) : UInt64 :=
  (ioregisters &&& ~~~((0xFF : UInt64) <<< (8 * offset.toUInt64))) |||
    (value.toUInt64 <<< (8 * offset.toUInt64))

theorem commandOf_setByte_command (w : UInt64) (v : UInt8) :
    commandOf (setByte w ioregCommand v).toUInt32 = v.toUInt32 := by
  apply UInt32.toBitVec_inj.mp
  ext i hi
  interval_cases i <;> simp [commandOf, setByte]

theorem commandOf_setByte_address (w : UInt64) (v : UInt8) :
    commandOf (setByte w ioregAddress v).toUInt32 = commandOf w.toUInt32 := by
  apply UInt32.toBitVec_inj.mp
  ext i hi
  interval_cases i <;> simp [commandOf, setByte]

theorem commandOf_setByte_data (w : UInt64) (v : UInt8) :
    commandOf (setByte w ioregData v).toUInt32 = commandOf w.toUInt32 := by
  apply UInt32.toBitVec_inj.mp
  ext i hi
  interval_cases i <;> simp [commandOf, setByte]

theorem addressOf_setByte_address (w : UInt64) (v : UInt8) :
    addressOf (setByte w ioregAddress v).toUInt32 = v.toUInt32 := by
  apply UInt32.toBitVec_inj.mp
  ext i hi
  interval_cases i <;> simp [addressOf, setByte]

theorem addressOf_setByte_command (w : UInt64) (v : UInt8) :
    addressOf (setByte w ioregCommand v).toUInt32 = addressOf w.toUInt32 := by
  apply UInt32.toBitVec_inj.mp
  ext i hi
  interval_cases i <;> simp [addressOf, setByte]

theorem addressOf_setByte_data (w : UInt64) (v : UInt8) :
    addressOf (setByte w ioregData v).toUInt32 = addressOf w.toUInt32 := by
  apply UInt32.toBitVec_inj.mp
  ext i hi
  interval_cases i <;> simp [addressOf, setByte]

theorem dataOf_setByte_address (w : UInt64) (v : UInt8) :
    dataOf (setByte w ioregAddress v).toUInt32 = dataOf w.toUInt32 := by
  apply UInt8.toBitVec_inj.mp
  ext i hi
  interval_cases i <;> simp [dataOf, setByte]

theorem dataOf_setByte_data (w : UInt64) (v : UInt8) :
    dataOf (setByte w ioregData v).toUInt32 = v := by
  apply UInt8.toBitVec_inj.mp
  ext i hi
  interval_cases i <;> simp [dataOf, setByte]

/-! ## The deadline

One variable in microseconds since the epoch, compared with readings of `now()`. -/

/-- `timeus_t`, an `unsigned long`. -/
abbrev TimeUs := UInt64

/-- `deadline_clear()`: the cleared deadline makes the device ready. -/
def deadlineClear : TimeUs := 0

/-- `before_deadline()` at the reading `timenow`. -/
def beforeDeadline (deadline timenow : TimeUs) : Bool := decide (timenow < deadline)

/-- `set_deadline(duration)` at the reading `timenow`. -/
def setDeadline (timenow duration : TimeUs) : TimeUs := timenow + duration

theorem beforeDeadline_iff {deadline timenow : TimeUs} :
    beforeDeadline deadline timenow = true ↔ timenow.toNat < deadline.toNat := by
  simp [beforeDeadline, UInt64.lt_iff_toNat_lt]

theorem beforeDeadline_eq_false {deadline timenow : TimeUs} :
    beforeDeadline deadline timenow = false ↔ deadline.toNat ≤ timenow.toNat := by
  rw [← Bool.not_eq_true, beforeDeadline_iff, Nat.not_lt]

@[simp] theorem beforeDeadline_clear (timenow : TimeUs) : beforeDeadline deadlineClear timenow = false := by
  rw [beforeDeadline_eq_false]; exact Nat.zero_le _

/-- Without overflow the deadline is the reading plus the duration. -/
theorem setDeadline_toNat {timenow duration : TimeUs} (h : timenow.toNat + duration.toNat < 2 ^ 64) :
    (setDeadline timenow duration).toNat = timenow.toNat + duration.toNat := by
  rw [setDeadline, UInt64.toNat_add, Nat.mod_eq_of_lt h]

end NandRig.Emulator
