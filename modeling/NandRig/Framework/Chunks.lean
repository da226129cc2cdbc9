/-
How a transfer is cut into pages: the chunks that the loops of `jt_write()`, `jt_read()`, `exec_write()`
and `exec_read()` hand to the driver. The first two code the room of the first page in the variable
`byte_addr`, the other two in `available`.
-/
import NandRig.Framework.Counts
import NandRig.Lib.Cut

namespace NandRig.Framework

open Emulator Interact Cut

/-! ## Chunks -/

/-- `len` bytes at `&buffer[pos]`. -/
structure Chunk where
  pos : Nat
  len : UInt32
  deriving DecidableEq, Repr

abbrev lengths (chunks : List Chunk) : List Nat := chunks.map fun c => c.len.toNat

/-- The chunks of a loop with `byte_addr`. -/
def jtChunks (bytesLeft cursor : UInt32) (byteAddr : UInt8) : List Chunk :=
  if _h : bytesLeft = 0 then []
  else ⟨cursor.toNat, sizeInPage bytesLeft byteAddr⟩ ::
    jtChunks (bytesLeft - sizeInPage bytesLeft byteAddr) (cursor + sizeInPage bytesLeft byteAddr) 0
termination_by bytesLeft.toNat
decreasing_by exact sub_sizeInPage_lt byteAddr _h

/-- The chunks of a loop with `available`. -/
def execChunks (sizeRemaining : UInt32) (available : Room) (cursor : UInt32) : List Chunk :=
  if _h : 0 < sizeRemaining then
    ⟨cursor.toNat, sizeThisPage sizeRemaining available⟩ ::
      execChunks (sizeRemaining - sizeThisPage sizeRemaining available) fullPage
        (cursor + sizeThisPage sizeRemaining available)
  else []
termination_by sizeRemaining.toNat
decreasing_by exact sub_sizeThisPage_lt available _h

/-! ## Chunks handed to a driver -/

/-- A page written for each chunk, until a wait fails. -/
def handWrites (table : NandJumpTable) (buffer : Buffer) : List Chunk → DriverM Int
  | [] => pure 0
  | c :: chunks => do
    table.writeBuffer buffer c.pos c.len
    table.setRegister ioregCommand cProgramExecute.toUInt8
    let result ← table.waitReady timeoutWritePageUs
    if result ≠ 0 then pure (-1) else handWrites table buffer chunks

/-- A page read for each chunk, until a wait fails. -/
def handReads (table : NandJumpTable) (buffer : Buffer) : List Chunk → DriverM (Buffer × Int)
  | [] => pure (buffer, 0)
  | c :: chunks => do
    table.setRegister ioregCommand cReadExecute.toUInt8
    let result ← table.waitReady timeoutReadPageUs
    if result ≠ 0 then pure (buffer, -1)
    else do
      let buffer ← table.readBuffer buffer c.pos c.len
      handReads table buffer chunks

/-- The instructions of the pages, one after the other. -/
def handInstrs (page : (len : UInt32) → (buf : Nat) → List NandOpInstr) (chunks : List Chunk) : List NandOpInstr :=
  chunks.flatMap fun c => page c.len c.pos

theorem jtWriteLoop_eq (table : NandJumpTable) (buffer : Buffer) (bytesLeft cursor : UInt32) (byteAddr : UInt8) :
    jtWriteLoop table buffer bytesLeft cursor byteAddr =
      handWrites table buffer (jtChunks bytesLeft cursor byteAddr) := by
  induction bytesLeft, cursor, byteAddr using jtChunks.induct with
  | case1 cursor byteAddr =>
    rw [jtWriteLoop, dif_pos rfl, jtChunks, dif_pos rfl]
    rfl
  | case2 bytesLeft cursor byteAddr h ih =>
    rw [jtWriteLoop, dif_neg h, jtChunks, dif_neg h]
    dsimp only
    rw [ih]
    rfl

theorem jtReadLoop_eq (table : NandJumpTable) (buffer : Buffer) (bytesLeft cursor : UInt32) (byteAddr : UInt8) :
    jtReadLoop table buffer bytesLeft cursor byteAddr =
      handReads table buffer (jtChunks bytesLeft cursor byteAddr) := by
  induction bytesLeft, cursor, byteAddr using jtChunks.induct generalizing buffer with
  | case1 cursor byteAddr =>
    rw [jtReadLoop, dif_pos rfl, jtChunks, dif_pos rfl]
    rfl
  | case2 bytesLeft cursor byteAddr h ih =>
    rw [jtReadLoop, dif_neg h, jtChunks, dif_neg h]
    simp only [ih]
    rfl

theorem pageInstrs_eq (page : (len : UInt32) → (buf : Nat) → List NandOpInstr) :
    ∀ (sizeRemaining : UInt32) (available : Room) (cursor : UInt32),
      pageInstrs page sizeRemaining available cursor = handInstrs page (execChunks sizeRemaining available cursor)
  | sizeRemaining, available, cursor => by
    rw [pageInstrs, execChunks]
    split_ifs with h
    · rw [pageInstrs_eq page (sizeRemaining - _)]
      rfl
    · rfl
termination_by sizeRemaining => sizeRemaining.toNat
decreasing_by exact sub_sizeThisPage_lt available h

/-! ## Transfers cut into chunks -/

/-- The chunks cut `size` bytes at the device address `start` and the buffer position `pos`. -/
structure Chunked (start pos size : Nat) (chunks : List Chunk) : Prop where
  cuts : Cuts 256 start size (lengths chunks)
  positions : ∀ init c tail, chunks = init ++ c :: tail → c.pos = pos + (lengths init).sum

namespace Chunked

theorem nil (start pos : Nat) : Chunked start pos 0 [] where
  cuts := .nil 256 start
  positions init c tail h := by simp at h

theorem cons {start pos size : Nat} {len : UInt32} {chunks : List Chunk} (hsize : 0 < size)
    (hlen : len.toNat = min size (256 - start % 256))
    (h : Chunked (start + len.toNat) (pos + len.toNat) (size - len.toNat) chunks) :
    Chunked start pos size (⟨pos, len⟩ :: chunks) where
  cuts := by
    have hcuts := h.cuts
    rw [hlen] at hcuts
    rw [lengths, List.map_cons, hlen]
    exact hcuts.cons (by decide) hsize
  positions := by
    rintro (_ | ⟨c', init⟩) c tail hsplit
    · obtain ⟨rfl, -⟩ := List.cons.inj hsplit
      rfl
    · obtain ⟨rfl, hrest⟩ := List.cons.inj hsplit
      rw [h.positions init c tail hrest, lengths, lengths, List.map_cons, List.sum_cons, Nat.add_assoc]

end Chunked

theorem jtChunks_chunked : ∀ (bytesLeft cursor : UInt32) (byteAddr : UInt8) (start : Nat),
    cursor.toNat + bytesLeft.toNat < 2 ^ 32 → (bytesLeft ≠ 0 → byteAddr.toNat = start % 256) →
      Chunked start cursor.toNat bytesLeft.toNat (jtChunks bytesLeft cursor byteAddr)
  | bytesLeft, cursor, byteAddr, start, hfit, hstart => by
    rw [jtChunks]
    split_ifs with h
    · subst h
      exact .nil start _
    · have hpos := toNat_ne_zero h
      have hlen : (sizeInPage bytesLeft byteAddr).toNat = min bytesLeft.toNat (256 - start % 256) := by
        rw [sizeInPage_toNat, hstart h]
      have hrest : (bytesLeft - sizeInPage bytesLeft byteAddr).toNat =
          bytesLeft.toNat - (sizeInPage bytesLeft byteAddr).toNat :=
        UInt32.toNat_sub_of_le _ _ (sizeInPage_le bytesLeft byteAddr)
      have hcursor : (cursor + sizeInPage bytesLeft byteAddr).toNat =
          cursor.toNat + (sizeInPage bytesLeft byteAddr).toNat := add_toNat (by omega)
      have h0 := UInt8.toNat_zero
      refine .cons (by omega) hlen ?_
      rw [← hrest, ← hcursor]
      refine jtChunks_chunked _ _ 0 _ (by omega) fun hne => ?_
      have := toNat_ne_zero hne
      omega
termination_by bytesLeft => bytesLeft.toNat
decreasing_by exact sub_sizeInPage_lt byteAddr h

theorem execChunks_chunked : ∀ (sizeRemaining : UInt32) (available : Room) (cursor : UInt32) (start : Nat),
    cursor.toNat + sizeRemaining.toNat < 2 ^ 32 → (0 < sizeRemaining → available.1.toNat = 256 - start % 256) →
      Chunked start cursor.toNat sizeRemaining.toNat (execChunks sizeRemaining available cursor)
  | sizeRemaining, available, cursor, start, hfit, hstart => by
    have h0 := UInt32.toNat_zero
    rw [execChunks]
    split_ifs with h
    · have hpos := UInt32.lt_iff_toNat_lt.1 h
      have hlen : (sizeThisPage sizeRemaining available).toNat = min sizeRemaining.toNat (256 - start % 256) := by
        rw [sizeThisPage_toNat, hstart h]
      have hrest : (sizeRemaining - sizeThisPage sizeRemaining available).toNat =
          sizeRemaining.toNat - (sizeThisPage sizeRemaining available).toNat := by
        rw [sub_sizeThisPage_toNat, sizeThisPage_toNat]
      have hcursor : (cursor + sizeThisPage sizeRemaining available).toNat =
          cursor.toNat + (sizeThisPage sizeRemaining available).toNat := add_toNat (by omega)
      have hfull : fullPage.1.toNat = 256 := rfl
      refine .cons (by omega) hlen ?_
      rw [← hrest, ← hcursor]
      refine execChunks_chunked _ fullPage _ _ (by omega) fun hlt => ?_
      have := UInt32.lt_iff_toNat_lt.1 hlt
      omega
    · have hzero : sizeRemaining.toNat = 0 := by
        rw [UInt32.lt_iff_toNat_lt] at h
        omega
      rw [hzero]
      exact .nil start cursor.toNat
termination_by sizeRemaining => sizeRemaining.toNat
decreasing_by exact sub_sizeThisPage_lt available h

/-! ## The pages of a transfer -/

/-- The chunks are cut at the pages of the device and follow each other in the buffer. Consecutive ones fall
in consecutive pages. -/
structure Partition (offset size : UInt32) (chunks : List Chunk) : Prop where
  cuts : Cuts 256 offset.toNat size.toNat (lengths chunks)
  positions : ∀ init c tail, chunks = init ++ c :: tail → c.pos = (lengths init).sum
  consecutive : ∀ init l l' tail, lengths chunks = init ++ l :: l' :: tail →
    (offset.toNat + init.sum + l) / 256 = (offset.toNat + init.sum) / 256 + 1

theorem Chunked.partition {offset size : UInt32} {chunks : List Chunk}
    (h : Chunked offset.toNat 0 size.toNat chunks) : Partition offset size chunks where
  cuts := h.cuts
  positions init c tail hsplit := (h.positions init c tail hsplit).trans (Nat.zero_add _)
  consecutive _ _ _ _ hsplit := h.cuts.next hsplit

/-- The chunks of `jt_write()` and `jt_read()`. -/
theorem jtChunks_first (offset size : UInt32) :
    Chunked offset.toNat 0 size.toNat (jtChunks size 0 (offset % numBytes).toUInt8) := by
  have h0 := UInt32.toNat_zero
  have hsize := size.toNat_lt
  refine jtChunks_chunked size 0 _ offset.toNat (by omega) fun _ => ?_
  rw [UInt32.toNat_toUInt8, UInt32.toNat_mod, numBytes_toNat]
  omega

/-- The chunks of `exec_write()` and `exec_read()`. -/
theorem execChunks_first (offset size : UInt32) :
    Chunked offset.toNat 0 size.toNat (execChunks size (firstRoom offset) 0) := by
  have h0 := UInt32.toNat_zero
  have hsize := size.toNat_lt
  exact execChunks_chunked size (firstRoom offset) 0 offset.toNat (by omega) fun _ => firstRoom_toNat offset

/-! ## The loops -/

/-- The loop of `exec_write()` or `exec_read()`, behind the two instructions in front of it. -/
def execPages (setup : UInt32) (page : (len : UInt32) → (buf : Nat) → List NandOpInstr) (offset size : UInt32) :
    DriverM (List NandOpInstr) :=
  execPagesLoop page (instructionCountDataXfer (byteOf offset) size) size
    [.cmd setup.toUInt8, .addr [(blockOf offset).toUInt8, (pageOf offset).toUInt8, (byteOf offset).toUInt8]] size
    (firstRoom offset) 0

/-- The loop ends with the instructions of these chunks behind the two in front. -/
def ExecHands (setup : UInt32) (page : (len : UInt32) → (buf : Nat) → List NandOpInstr) (offset size : UInt32)
    (chunks : List Chunk) : Prop :=
  execPages setup page offset size = pure
    ([.cmd setup.toUInt8, .addr [(blockOf offset).toUInt8, (pageOf offset).toUInt8, (byteOf offset).toUInt8]] ++
      handInstrs page chunks)

/-- Each of the four loops ends, and has handed a partition of the transfer to the driver: to any jump table,
as long as no wait fails, and in the operation to be interpreted. -/
structure HandsPartition (offset size : UInt32) : Prop where
  jtWrite : ∃ chunks, Partition offset size chunks ∧ ∀ table buffer,
    jtWriteLoop table buffer size 0 (offset % numBytes).toUInt8 = handWrites table buffer chunks
  jtRead : ∃ chunks, Partition offset size chunks ∧ ∀ table buffer,
    jtReadLoop table buffer size 0 (offset % numBytes).toUInt8 = handReads table buffer chunks
  execWrite : ∃ chunks, Partition offset size chunks ∧ ExecHands cProgramSetup writePage offset size chunks
  execRead : ∃ chunks, Partition offset size chunks ∧ ExecHands cReadSetup readPage offset size chunks

theorem jtWrite_hands_partition (offset size : UInt32) : ∃ chunks, Partition offset size chunks ∧
    ∀ table buffer, jtWriteLoop table buffer size 0 (offset % numBytes).toUInt8 = handWrites table buffer chunks :=
  ⟨_, (jtChunks_first offset size).partition, fun table buffer => jtWriteLoop_eq table buffer size 0 _⟩

theorem jtRead_hands_partition (offset size : UInt32) : ∃ chunks, Partition offset size chunks ∧
    ∀ table buffer, jtReadLoop table buffer size 0 (offset % numBytes).toUInt8 = handReads table buffer chunks :=
  ⟨_, (jtChunks_first offset size).partition, fun table buffer => jtReadLoop_eq table buffer size 0 _⟩

section Exec

variable {setup : UInt32} {page : (len : UInt32) → (buf : Nat) → List NandOpInstr} {offset size : UInt32}

/-- The instructions that the loop appends, and those that there is room for. -/
theorem pageInstrs_fit_iff (hpage : ∀ len buf, (page len buf).length = 3) (offset size : UInt32) :
    2 + (pageInstrs page size (firstRoom offset) 0).length ≤ (instructionCountDataXfer (byteOf offset) size).toNat ↔
      offset.toNat % 256 + size.toNat < 2 ^ 32 := by
  have hsize := size.toNat_lt
  have hroom := firstRoom_toNat offset
  have hmod : 256 - (256 - offset.toNat % 256) = offset.toNat % 256 := by omega
  rw [pageInstrs_length hpage _ _ _ (by omega), hroom, hmod, instructionCountDataXfer_toNat_sum, UInt32.toNat_add,
    byteOf_toNat]
  rcases Nat.lt_or_ge (offset.toNat % 256 + size.toNat) (2 ^ 32) with hfit | hwrap
  · refine iff_of_true ?_ hfit
    have hsum : (size.toNat + offset.toNat % 256) % 2 ^ 32 = size.toNat + offset.toNat % 256 :=
      Nat.mod_eq_of_lt (by omega)
    rw [hsum]
    split_ifs <;> omega
  -- the sum has wrapped to less than a page, and more than `2 ^ 24` pages are begun
  · have hsum : (size.toNat + offset.toNat % 256) % 2 ^ 32 < 256 := by omega
    rw [if_neg (by omega)]
    exact iff_of_false (by omega) (Nat.not_lt.2 hwrap)

theorem execPages_hands_partition_iff (hpage : ∀ len buf, (page len buf).length = 3) (offset size : UInt32) :
    (∃ chunks, Partition offset size chunks ∧ ExecHands setup page offset size chunks) ↔
      offset.toNat % 256 + size.toNat < 2 ^ 32 := by
  have hcount := instructionCountDataXfer_toNat_sum (byteOf offset) size
  rw [← pageInstrs_fit_iff hpage]
  constructor
  · rintro ⟨chunks, -, hhands⟩
    by_contra hfull
    have haborts : Aborts (execPages setup page offset size) := by
      refine aborts_execPagesLoop (UInt32.zero_add size) ?_ ?_
      · show 2 ≤ _
        omega
      · show _ < 2 + _
        omega
    have hrun := haborts ⟨fun _ => 0, fun _ _ => 0⟩ []
    rw [hhands] at hrun
    cases hrun
  · intro hroom
    refine ⟨_, (execChunks_first offset size).partition, ?_⟩
    unfold ExecHands execPages
    rw [execPagesLoop_eq (UInt32.zero_add size) (by exact hroom), pageInstrs_eq]

end Exec

/-- The loops hand a partition of the transfer to the driver, for exactly the transfers whose last byte is
counted from the start of the first page without overflow. -/
theorem hands_partition_iff (offset size : UInt32) :
    HandsPartition offset size ↔ offset.toNat % 256 + size.toNat < 2 ^ 32 := by
  constructor
  · intro h
    exact (execPages_hands_partition_iff (fun _ _ => rfl) offset size).1 h.execWrite
  · intro hfit
    exact ⟨jtWrite_hands_partition offset size, jtRead_hands_partition offset size,
      (execPages_hands_partition_iff (fun _ _ => rfl) offset size).2 hfit,
      (execPages_hands_partition_iff (fun _ _ => rfl) offset size).2 hfit⟩

/-- Of the greatest transfer from the last byte of a page, no instruction but those of the first page fits into
the array that `exec_write()` allocates. -/
theorem greatest_transfer_overruns : ¬ HandsPartition 255 4294967295 := by
  intro h
  exact absurd ((execPages_hands_partition_iff (fun _ _ => rfl) _ _).1 h.execWrite) (by decide)

end NandRig.Framework
