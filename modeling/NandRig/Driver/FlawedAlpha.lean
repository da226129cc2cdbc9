/-
Two flawed read loops: alpha_4 (`driver/alpha/alpha_4.c`) and alpha_5 (`driver/alpha/alpha_5.c`) read eight
bytes at a time. Where the length is a multiple of eight they are the program that alpha_0's loop is.
-/
import NandRig.Driver.Sound
import NandRig.Lib.Rounds

namespace NandRig.Driver

open Framework Interact

/-! ## The loops -/

/-- The value of an `int` with these bits. -/
def signed (i : UInt32) : Int := if i.toNat < 2 ^ 31 then i.toNat else i.toNat - 2 ^ 32

/-- A store through a pointer: before the start of the memory it is not kept. -/
def storeAt (buffer : Buffer) (pos : Int) (byte : UInt8) : Buffer :=
  if 0 ≤ pos then Function.update buffer pos.toNat byte else buffer

/-- The inner loop of both drivers, `for (int j = 0; j < 8; j++) *(buffer + base + j) = data;`, from `j` on. -/
def readEightFrom (j : Nat) (buffer : Buffer) (pos : Nat) (base : UInt32) : DriverM Buffer :=
  if j < 8 then do
    let byte ← ask .load
    readEightFrom (j + 1) (storeAt buffer (pos + signed base + j) byte) pos base
  else pure buffer
termination_by 8 - j

namespace Alpha4

/-- The outer loop of `nand_read()`, from `i` on. -/
def nandReadFrom (i : UInt32) (buffer : Buffer) (pos : Nat) (length : UInt32) : DriverM Buffer :=
  if h : i < length / 8 then do
    let buffer ← readEightFrom 0 buffer pos (i * 8)
    nandReadFrom (i + 1) buffer pos length
  else pure buffer
termination_by (length / 8).toNat - i.toNat
decreasing_by exact sub_succ_toNat_lt h

def nandRead (buffer : Buffer) (pos : Nat) (length : UInt32) : DriverM Buffer := nandReadFrom 0 buffer pos length

end Alpha4

namespace Alpha5

/-- One test of the outer loop's condition and the round behind it, on the counter and the memory. The counter
is an `int`, compared as an `unsigned int`; it wraps. -/
def nandReadRound (pos : Nat) (length : UInt32) (s : UInt32 × Buffer) : DriverM ((UInt32 × Buffer) ⊕ Buffer) :=
  if s.1 ≠ length then do
    let buffer ← readEightFrom 0 s.2 pos s.1
    pure (.inl (s.1 + 8, buffer))
  else pure (.inr s.2)

/-- The first `n` rounds of `nand_read()`. -/
def nandRead (n : Nat) (buffer : Buffer) (pos : Nat) (length : UInt32) : DriverM ((UInt32 × Buffer) ⊕ Buffer) :=
  rounds (nandReadRound pos length) n (0, buffer)

end Alpha5

/-! ## Bytes one after the other -/

/-- `n` bytes read to consecutive positions. -/
def readBytes : (n : Nat) → Buffer → (pos : Nat) → DriverM Buffer
  | 0, buffer, _ => pure buffer
  | n + 1, buffer, pos => do
    let byte ← ask .load
    readBytes n (Function.update buffer pos byte) (pos + 1)

theorem readBytes_add (n : Nat) : ∀ (m : Nat) (buffer : Buffer) (pos : Nat),
    readBytes (m + n) buffer pos = readBytes m buffer pos >>= fun buffer => readBytes n buffer (pos + m)
  | 0, buffer, pos => by
    rw [Nat.zero_add, readBytes, pure_bind, Nat.add_zero]
  | m + 1, buffer, pos => by
    have hmn : m + 1 + n = m + n + 1 := by omega
    have hpos : pos + (m + 1) = pos + 1 + m := by omega
    rw [hmn, readBytes, readBytes, bind_assoc, hpos]
    simp only [readBytes_add n m]

/-- alpha_0's loop makes as many loads as it is to. -/
theorem alpha0_nandRead_eq (buffer : Buffer) (pos : Nat) (length : UInt32) :
    Alpha0.nandRead buffer pos length = readBytes length.toNat buffer pos := by
  induction buffer, pos, length using Alpha0.nandRead.induct with
  | case1 buffer pos =>
    rw [Alpha0.nandRead, dif_pos rfl]
    rfl
  | case2 buffer pos length hne ih =>
    have hlen : length.toNat = (length - 1).toNat + 1 := by
      have := toNat_ne_zero hne
      rw [pred_toNat hne]
      omega
    rw [Alpha0.nandRead, dif_neg hne, hlen, readBytes]
    simp only [ih]

theorem signed_of_lt {i : UInt32} (h : i.toNat < 2 ^ 31) : signed i = i.toNat := if_pos h

theorem storeAt_eq (buffer : Buffer) (pos : Nat) (byte : UInt8) :
    storeAt buffer pos byte = Function.update buffer pos byte := if_pos (Int.natCast_nonneg pos)

theorem readEightFrom_eq (pos : Nat) {base : UInt32} (hbase : base.toNat < 2 ^ 31) : ∀ (j : Nat) (buffer : Buffer),
    readEightFrom j buffer pos base = readBytes (8 - j) buffer (pos + base.toNat + j)
  | j, buffer => by
    rw [readEightFrom]
    split_ifs with hj
    · have hn : 8 - j = 8 - (j + 1) + 1 := by omega
      have hpos : (pos : Int) + signed base + j = (pos + base.toNat + j : Nat) := by
        rw [signed_of_lt hbase]
        push_cast
        rfl
      rw [hn, readBytes, hpos]
      simp only [storeAt_eq, readEightFrom_eq pos hbase (j + 1)]
      rfl
    · have hn : 8 - j = 0 := by omega
      rw [hn, readBytes]
termination_by j => 8 - j

/-! ## Nested loops -/

section Nested

variable {length : UInt32}

theorem eighth_toNat (length : UInt32) : (length / 8).toNat = length.toNat / 8 := by
  rw [UInt32.toNat_div]
  rfl

theorem alpha4_nandReadFrom_eq (pos : Nat) (hlen : length.toNat < 2 ^ 31) :
    ∀ (i : UInt32) (buffer : Buffer), i.toNat ≤ length.toNat / 8 →
      Alpha4.nandReadFrom i buffer pos length =
        readBytes (8 * (length.toNat / 8 - i.toNat)) buffer (pos + 8 * i.toNat)
  | i, buffer, hi => by
    have heighth := eighth_toNat length
    rw [Alpha4.nandReadFrom]
    split_ifs with hlt
    · have hlt' := UInt32.lt_iff_toNat_lt.1 hlt
      have hsucc := succ_toNat hlt
      have hbase : (i * 8).toNat = 8 * i.toNat := by
        rw [UInt32.toNat_mul, Nat.mul_comm]
        exact Nat.mod_eq_of_lt (by show 8 * _ < 2 ^ 32; omega)
      have hn : 8 * (length.toNat / 8 - i.toNat) = 8 + 8 * (length.toNat / 8 - (i + 1).toNat) := by omega
      have hpos : pos + 8 * (i + 1).toNat = pos + 8 * i.toNat + 8 := by omega
      rw [hn, readBytes_add, readEightFrom_eq pos (by omega), hbase, Nat.add_zero, Nat.sub_zero, ← hpos]
      have hrest : ∀ buffer, Alpha4.nandReadFrom (i + 1) buffer pos length = _ := fun buffer =>
        alpha4_nandReadFrom_eq pos hlen (i + 1) buffer (by omega)
      simp only [hrest]
    · have hge := UInt32.le_iff_toNat_le.1 (UInt32.not_lt.1 hlt)
      have hn : 8 * (length.toNat / 8 - i.toNat) = 0 := by omega
      rw [hn, readBytes]
termination_by i => (length / 8).toNat - i.toNat
decreasing_by exact sub_succ_toNat_lt hlt

/-- alpha_4 leaves out the bytes behind the last multiple of eight. -/
theorem alpha4_nandRead_eq (buffer : Buffer) (pos : Nat) (hlen : length.toNat < 2 ^ 31) :
    Alpha4.nandRead buffer pos length = readBytes (8 * (length.toNat / 8)) buffer pos :=
  alpha4_nandReadFrom_eq pos hlen 0 buffer (Nat.zero_le _)

/-- Up to the length, each round of alpha_5 reads the next eight bytes. -/
theorem alpha5_rounds_eq (pos : Nat) (hlen : length.toNat < 2 ^ 31) :
    ∀ (n : Nat) (i : UInt32) (buffer : Buffer), i.toNat + 8 * n = length.toNat →
      rounds (Alpha5.nandReadRound pos length) (n + 1) (i, buffer) =
        readBytes (8 * n) buffer (pos + i.toNat) >>= fun buffer => pure (.inr buffer)
  | 0, i, buffer, hi => by
    have he : i = length := UInt32.toNat_inj.1 hi
    rw [rounds, Alpha5.nandReadRound]
    dsimp only
    rw [if_neg (not_not.2 he)]
    rfl
  | n + 1, i, buffer, hi => by
    have hne : i ≠ length := by
      rintro rfl
      omega
    have h8 : (8 : UInt32).toNat = 8 := rfl
    have hnext : (i + 8).toNat = i.toNat + 8 := by
      rw [add_toNat (by omega), h8]
    have hn : 8 * (n + 1) = 8 + 8 * n := by omega
    have hpos : pos + i.toNat + 8 = pos + (i + 8).toNat := by omega
    rw [rounds, Alpha5.nandReadRound]
    dsimp only
    rw [if_pos hne, bind_assoc, readEightFrom_eq pos (by omega), hn, readBytes_add, bind_assoc, hpos, Nat.add_zero,
      Nat.sub_zero]
    have hrest : ∀ buffer, rounds (Alpha5.nandReadRound pos length) (n + 1) (i + 8, buffer) = _ := fun buffer =>
      alpha5_rounds_eq pos hlen n (i + 8) buffer (by omega)
    simp only [pure_bind, hrest]

/-- Where eight divides the length, alpha_5 ends behind the round that reads the last eight bytes. -/
theorem alpha5_nandRead_eq (buffer : Buffer) (pos : Nat) (hlen : length.toNat < 2 ^ 31) (hdvd : 8 ∣ length.toNat) :
    Alpha5.nandRead (length.toNat / 8 + 1) buffer pos length =
      readBytes length.toNat buffer pos >>= fun buffer => pure (.inr buffer) := by
  have hmul := Nat.mul_div_cancel' hdvd
  have h0 := UInt32.toNat_zero
  have hrounds := alpha5_rounds_eq pos hlen (length.toNat / 8) 0 buffer (by omega)
  rw [hmul] at hrounds
  exact hrounds

end Nested

end NandRig.Driver
