/-
The instruction counts of `exec_write()` and `exec_read()` (`framework/fw_execop.c`): when the array
allocated beforehand has exactly the instructions that are then appended to it.
-/
import NandRig.Framework.Agreement

namespace NandRig.Framework

open Emulator Interact

/-! ## Programs that abort -/

/-- Whatever the machine answers, the program asks nothing of it and aborts. -/
def Aborts {α : Type} (p : DriverM α) : Prop := ∀ (oracle : Oracle) (h : List Transfer), run oracle.env p h = ([], none)

theorem Aborts.bind {α β : Type} {p : DriverM α} (hp : Aborts p) (f : α → DriverM β) : Aborts (p >>= f) := by
  intro oracle h
  rw [run_bind, hp oracle h]

theorem aborts_assert {p : Prop} [Decidable p] (h : ¬ p) : Aborts (assert p) := by
  intro oracle l
  rw [assert, if_neg h]
  rfl

theorem aborts_push {count : UInt32} {instrs : List NandOpInstr} (instr : NandOpInstr)
    (hfull : count.toNat ≤ instrs.length) : Aborts (push count instrs instr) :=
  (aborts_assert (Nat.not_lt.2 hfull)).bind _

theorem aborts_pushAll {count : UInt32} : ∀ {rest instrs : List NandOpInstr}, instrs.length ≤ count.toNat →
    count.toNat < instrs.length + rest.length → Aborts (pushAll count instrs rest)
  | [], instrs, hroom, hfull => by
    rw [List.length_nil] at hfull
    omega
  | instr :: rest, instrs, hroom, hfull => by
    rw [List.length_cons] at hfull
    rw [pushAll]
    rcases Nat.lt_or_ge instrs.length count.toNat with hlt | hge
    · rw [push_eq hlt, pure_bind]
      refine aborts_pushAll ?_ ?_ <;> rw [List.length_append, List.length_singleton] <;> omega
    · exact (aborts_push instr hge).bind _

section Counts

variable {setup : UInt32} {page : (len : UInt32) → (buf : Nat) → List NandOpInstr}

/-- The loop aborts when it reaches the end of the array. -/
theorem aborts_execPagesLoop {count size : UInt32} {instrs : List NandOpInstr} {sizeRemaining : UInt32}
    {available : Room} {cursor : UInt32} (hcursor : cursor + sizeRemaining = size)
    (hroom : instrs.length ≤ count.toNat)
    (hfull : count.toNat < instrs.length + (pageInstrs page sizeRemaining available cursor).length) :
    Aborts (execPagesLoop page count size instrs sizeRemaining available cursor) := by
  induction sizeRemaining, available, cursor using pageInstrs.induct generalizing instrs with
  | case1 sizeRemaining available cursor h ih =>
    rw [pageInstrs, dif_pos h, List.length_append] at hfull
    rw [execPagesLoop, dif_pos h]
    dsimp only
    set len := sizeThisPage sizeRemaining available with hlen
    have hsum : cursor + len + (sizeRemaining - len) = size := by
      rw [← hcursor, UInt32.add_assoc, UInt32.add_comm len, UInt32.sub_add_cancel]
    rcases Nat.lt_or_ge count.toNat (instrs.length + (page len cursor.toNat).length) with hlt | hge
    · exact (aborts_pushAll hroom hlt).bind _
    · rw [pushAll_eq hge, pure_bind, assert_true hsum, pure_bind]
      refine ih hsum ?_ ?_ <;> rw [List.length_append] <;> omega
  | case2 sizeRemaining available cursor h =>
    rw [pageInstrs, dif_neg h, List.length_nil] at hfull
    omega

/-- An operation that was counted wrong: the array is left, or the last assertion fails. -/
theorem aborts_execTransfer {offset size : UInt32}
    (hcount : (appended setup page offset size).length ≠ (instructionCountDataXfer (byteOf offset) size).toNat) :
    Aborts (execTransfer setup page offset size) := by
  have hlen : (appended setup page offset size).length = (pageInstrs page size (firstRoom offset) 0).length + 2 := rfl
  have htwo := instructionCountDataXfer_toNat_sum (byteOf offset) size
  unfold execTransfer
  dsimp only
  rw [push_eq (by rw [List.length_nil]; omega), pure_bind,
    push_eq (by rw [List.length_append, List.length_singleton, List.length_nil]; omega), pure_bind]
  rcases Nat.lt_or_gt_of_ne hcount with hlt | hgt
  · rw [execPagesLoop_eq (UInt32.zero_add size) (by rw [List.length_append]; simp; omega), pure_bind]
    refine (aborts_assert fun heq => hcount ?_).bind _
    rw [← heq, UInt32.toNat_ofNat']
    have := (instructionCountDataXfer (byteOf offset) size).toNat_lt
    exact (Nat.mod_eq_of_lt (by omega)).symm
  · refine (aborts_execPagesLoop (UInt32.zero_add size) ?_ ?_).bind _ <;> rw [List.length_append] <;> simp <;> omega

end Counts

/-! ## Exact counts -/

/-- As many instructions are appended as were counted: none goes past the array, and the assertions hold. -/
structure CountedRight (setup : UInt32) (page : (len : UInt32) → (buf : Nat) → List NandOpInstr)
    (offset size : UInt32) : Prop where
  count : (appended setup page offset size).length = (instructionCountDataXfer (byteOf offset) size).toNat
  built : execTransfer setup page offset size = pure (appended setup page offset size)

/-- The bytes of the first page before `offset` and those of the transfer are counted without overflow, and
an empty transfer starts a page. -/
def Countable (offset size : UInt32) : Prop :=
  offset.toNat % 256 + size.toNat < 2 ^ 32 ∧ (size = 0 → offset.toNat % 256 = 0)

section Exact

variable {setup : UInt32} {page : (len : UInt32) → (buf : Nat) → List NandOpInstr}

theorem appended_length_eq_iff (hpage : ∀ len buf, (page len buf).length = 3) (offset size : UInt32) :
    (appended setup page offset size).length = (instructionCountDataXfer (byteOf offset) size).toNat ↔
      Countable offset size := by
  have hzero : size = 0 ↔ size.toNat = 0 := by
    rw [← UInt32.toNat_inj]
    rfl
  have hsize := size.toNat_lt
  unfold Countable
  rw [appended_length hpage, instructionCountDataXfer_toNat_sum, UInt32.toNat_add, byteOf_toNat, hzero]
  rcases Nat.lt_or_ge (offset.toNat % 256 + size.toNat) (2 ^ 32) with hfit | hwrap
  · have hsum : (size.toNat + offset.toNat % 256) % 2 ^ 32 = size.toNat + offset.toNat % 256 :=
      Nat.mod_eq_of_lt (by omega)
    rw [hsum]
    split_ifs with h0
    · constructor
      · intro hcount
        refine ⟨hfit, fun _ => ?_⟩
        omega
      · rintro ⟨-, haligned⟩
        have := haligned h0
        omega
    · exact iff_of_true (by omega) ⟨hfit, fun h => absurd h h0⟩
  -- the sum has wrapped to less than a page, and more than `2 ^ 24` pages are begun
  · have hsum : (size.toNat + offset.toNat % 256) % 2 ^ 32 < 256 := by omega
    rw [if_neg (by omega)]
    exact iff_of_false (by omega) fun h => absurd h.1 (Nat.not_lt.2 hwrap)

theorem countedRight_iff (hpage : ∀ len buf, (page len buf).length = 3) (offset size : UInt32) :
    CountedRight setup page offset size ↔ Countable offset size := by
  constructor
  · rintro ⟨hcount, -⟩
    exact (appended_length_eq_iff hpage offset size).1 hcount
  · intro h
    have hcount : (appended setup page offset size).length = _ := (appended_length_eq_iff hpage offset size).2 h
    exact ⟨hcount, execTransfer_of_count hcount⟩

/-- A transfer that is not counted right aborts before the driver is called. -/
theorem aborts_of_not_countable (hpage : ∀ len buf, (page len buf).length = 3) {offset size : UInt32}
    (h : ¬ Countable offset size) : Aborts (execTransfer setup page offset size) :=
  aborts_execTransfer fun hcount => h ((appended_length_eq_iff hpage offset size).1 hcount)

end Exact

/-- `exec_write()` and `exec_read()` both append as many instructions as they counted, for exactly the
countable transfers. -/
theorem exec_counts_iff (offset size : UInt32) :
    (CountedRight cProgramSetup writePage offset size ∧ CountedRight cReadSetup readPage offset size) ↔
      Countable offset size := by
  rw [countedRight_iff fun _ _ => rfl, countedRight_iff fun _ _ => rfl, and_self_iff]

/-- An empty transfer inside a page: five instructions are counted and two appended. -/
theorem empty_transfer_miscounted :
    ¬ (CountedRight cProgramSetup writePage 1 0 ∧ CountedRight cReadSetup readPage 1 0) := by
  rintro ⟨hwrite, -⟩
  have hlen := hwrite.count
  rw [appended_length fun _ _ => rfl] at hlen
  exact absurd hlen (by decide)

end NandRig.Framework
