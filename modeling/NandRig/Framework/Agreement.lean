/-
The two paths through the framework ask the same of the machine: the operation that `exec_write()`,
`exec_read()` or `exec_erase()` builds, run by the interpreter of foxtrot_0, is the program that
`jt_write()`, `jt_read()` or `jt_erase()` is over the jump table of alpha_0.
-/
import NandRig.Framework.ExecOp
import NandRig.Driver.Sound

namespace NandRig.Framework

open Emulator Interact Driver

/-! ## The operation built -/

theorem push_eq {count : UInt32} {instrs : List NandOpInstr} {instr : NandOpInstr}
    (h : instrs.length < count.toNat) : push count instrs instr = pure (instrs ++ [instr]) := by
  unfold push
  rw [assert_true h]
  rfl

theorem pushAll_eq {count : UInt32} : ∀ {rest instrs : List NandOpInstr},
    instrs.length + rest.length ≤ count.toNat → pushAll count instrs rest = pure (instrs ++ rest)
  | [], instrs, _ => by rw [List.append_nil]; rfl
  | instr :: rest, instrs, h => by
    rw [List.length_cons] at h
    rw [pushAll, push_eq (by omega), pure_bind, pushAll_eq (by rw [List.length_append, List.length_singleton]; omega)]
    rw [List.append_assoc, List.singleton_append]

/-- The instructions of the pages of a transfer. -/
def pageInstrs (page : (len : UInt32) → (buf : Nat) → List NandOpInstr) (sizeRemaining : UInt32)
    (available : Room) (cursor : UInt32) : List NandOpInstr :=
  if _h : 0 < sizeRemaining then
    page (sizeThisPage sizeRemaining available) cursor.toNat ++
      pageInstrs page (sizeRemaining - sizeThisPage sizeRemaining available) fullPage
        (cursor + sizeThisPage sizeRemaining available)
  else []
termination_by sizeRemaining.toNat
decreasing_by exact sub_sizeThisPage_lt available _h

section Pages

variable {page : (len : UInt32) → (buf : Nat) → List NandOpInstr}

/-- Three instructions for each page begun. -/
theorem pageInstrs_length (hpage : ∀ len buf, (page len buf).length = 3) (sizeRemaining : UInt32)
    (available : Room) (cursor : UInt32) (hroom : available.1.toNat ≤ 256) :
    (pageInstrs page sizeRemaining available cursor).length =
      if sizeRemaining.toNat = 0 then 0
      else 3 * ((sizeRemaining.toNat + (256 - available.1.toNat) + 255) / 256) := by
  induction sizeRemaining, available, cursor using pageInstrs.induct with
  | case1 sizeRemaining available cursor h ih =>
    have h0 : 0 < sizeRemaining.toNat := UInt32.lt_iff_toNat_lt.1 h
    have ha : 0 < available.1.toNat := UInt32.lt_iff_toNat_lt.1 available.2
    have hr := sub_sizeThisPage_toNat sizeRemaining available
    have hfull : fullPage.1.toNat = 256 := rfl
    rw [pageInstrs, dif_pos h, List.length_append, hpage, ih (le_of_eq hfull), hr, hfull, if_neg h0.ne']
    clear ih
    split_ifs <;> omega
  | case2 sizeRemaining available cursor h =>
    have h0 : sizeRemaining.toNat = 0 := by
      rw [UInt32.lt_iff_toNat_lt] at h
      exact Nat.le_zero.1 (Nat.not_lt.1 h)
    rw [pageInstrs, dif_neg h, if_pos h0]
    rfl

/-- The loop adds these instructions, and none of its assertions fails, when the array is large enough. -/
theorem execPagesLoop_eq {count size : UInt32} {instrs : List NandOpInstr} {sizeRemaining : UInt32}
    {available : Room} {cursor : UInt32} (hcursor : cursor + sizeRemaining = size)
    (hcount : instrs.length + (pageInstrs page sizeRemaining available cursor).length ≤ count.toNat) :
    execPagesLoop page count size instrs sizeRemaining available cursor =
      pure (instrs ++ pageInstrs page sizeRemaining available cursor) := by
  induction sizeRemaining, available, cursor using pageInstrs.induct generalizing instrs with
  | case1 sizeRemaining available cursor h ih =>
    rw [pageInstrs, dif_pos h] at hcount ⊢
    rw [execPagesLoop, dif_pos h]
    dsimp only at hcount ⊢
    rw [List.length_append] at hcount
    have hsum : cursor + sizeThisPage sizeRemaining available +
        (sizeRemaining - sizeThisPage sizeRemaining available) = size := by
      rw [← hcursor, UInt32.add_assoc, UInt32.add_comm (sizeThisPage _ _), UInt32.sub_add_cancel]
    rw [pushAll_eq (by omega), pure_bind, assert_true hsum, pure_bind]
    rw [ih hsum (by rw [List.length_append]; omega), List.append_assoc]
  | case2 sizeRemaining available cursor h =>
    rw [execPagesLoop, dif_neg h, pageInstrs, dif_neg h, List.append_nil]

end Pages

theorem byteOf_toNat (o : UInt32) : (byteOf o).toNat = o.toNat % 256 := by
  unfold byteOf
  rw [UInt32.toNat_mod]
  rfl

theorem firstRoom_toNat (offset : UInt32) : (firstRoom offset).1.toNat = 256 - offset.toNat % 256 := by
  have h := byteOf_toNat offset
  unfold firstRoom
  dsimp only
  rw [UInt32.toNat_sub_of_le, h]
  · rfl
  · rw [UInt32.le_iff_toNat_le, h]
    show offset.toNat % 256 ≤ 256
    omega

/-- The count, in terms of the sum that the code computes. -/
theorem instructionCountDataXfer_toNat_sum (byteAddr size : UInt32) :
    (instructionCountDataXfer byteAddr size).toNat = 2 + 3 * (((size + byteAddr).toNat + 255) / 256) := by
  unfold instructionCountDataXfer
  dsimp only
  generalize size + byteAddr = sum
  have hsum := sum.toNat_lt
  have hdiv : (sum / numBytes).toNat = sum.toNat / 256 := by
    rw [UInt32.toNat_div]
    rfl
  have hmod : (sum % numBytes = 0) ↔ sum.toNat % 256 = 0 := by
    rw [← UInt32.toNat_inj, UInt32.toNat_mod]
    rfl
  have hmul : (dataXferInstructions * (sum / numBytes)).toNat = 3 * (sum.toNat / 256) := by
    rw [UInt32.toNat_mul, hdiv]
    exact Nat.mod_eq_of_lt (by show 3 * _ < 2 ^ 32; omega)
  have h2 : ((0 : UInt32) + 1 + 1).toNat = 2 := rfl
  have h3 : dataXferInstructions.toNat = 3 := rfl
  rw [UInt32.toNat_add, UInt32.toNat_add, hmul, h2]
  simp only [ne_eq, hmod]
  split_ifs with h
  · have h0 := UInt32.toNat_zero
    rw [h0]; omega
  · rw [h3]; omega

theorem instructionCountDataXfer_toNat {byteAddr size : UInt32} (hfit : byteAddr.toNat + size.toNat < 2 ^ 32) :
    (instructionCountDataXfer byteAddr size).toNat = 2 + 3 * ((size.toNat + byteAddr.toNat + 255) / 256) := by
  rw [instructionCountDataXfer_toNat_sum, add_toNat (by omega)]

/-- The instructions that `exec_write()` or `exec_read()` appends, if the array has room for them. -/
def appended (setup : UInt32) (page : (len : UInt32) → (buf : Nat) → List NandOpInstr) (offset size : UInt32) :
    List NandOpInstr :=
  .cmd setup.toUInt8 ::
    .addr [(blockOf offset).toUInt8, (pageOf offset).toUInt8, (byteOf offset).toUInt8] ::
      pageInstrs page size (firstRoom offset) 0

section Transfer

variable {setup : UInt32} {page : (len : UInt32) → (buf : Nat) → List NandOpInstr} {offset size : UInt32}

theorem appended_length (hpage : ∀ len buf, (page len buf).length = 3) :
    (appended setup page offset size).length =
      2 + if size.toNat = 0 then 0 else 3 * ((size.toNat + offset.toNat % 256 + 255) / 256) := by
  have hroom := firstRoom_toNat offset
  have hmod : 256 - (256 - offset.toNat % 256) = offset.toNat % 256 := by omega
  unfold appended
  rw [List.length_cons, List.length_cons, pageInstrs_length hpage _ _ _ (by omega), hroom, hmod]
  omega

/-- The whole operation of a transfer that was counted right: its assertions all hold. -/
theorem execTransfer_of_count
    (hcount : (appended setup page offset size).length = (instructionCountDataXfer (byteOf offset) size).toNat) :
    execTransfer setup page offset size = pure (appended setup page offset size) := by
  have hlen : (appended setup page offset size).length = (pageInstrs page size (firstRoom offset) 0).length + 2 := rfl
  rw [hlen] at hcount
  unfold execTransfer
  dsimp only
  rw [push_eq (by rw [← hcount, List.length_nil]; omega), pure_bind,
    push_eq (by rw [← hcount, List.length_append, List.length_singleton, List.length_nil]; omega), pure_bind,
    execPagesLoop_eq (UInt32.zero_add size) (by rw [← hcount, List.length_append]; simp; omega), pure_bind,
    assert_true, pure_bind]
  · rfl
  · rw [← UInt32.toNat_inj, ← hcount, UInt32.toNat_ofNat']
    have := (instructionCountDataXfer (byteOf offset) size).toNat_lt
    rw [← hcount] at this
    simp only [List.nil_append, List.cons_append, List.length_cons]
    exact Nat.mod_eq_of_lt this

theorem execTransfer_eq (hpage : ∀ len buf, (page len buf).length = 3) (hsize : 1 ≤ size.toNat)
    (hfit : offset.toNat % 256 + size.toNat < 2 ^ 32) :
    execTransfer setup page offset size = pure (appended setup page offset size) := by
  refine execTransfer_of_count ?_
  rw [appended_length hpage, instructionCountDataXfer_toNat (by rw [byteOf_toNat]; omega), byteOf_toNat,
    if_neg (by omega)]

end Transfer

/-! ## The drivers' transfers -/

theorem sub_ne_zero_of_lt {i length : UInt32} (h : i < length) : length - i ≠ 0 := by
  rw [ne_eq, UInt32.sub_eq_iff_eq_add, UInt32.zero_add]
  rintro rfl
  exact UInt32.lt_irrefl _ h

theorem succ_le_of_lt {i length : UInt32} (h : i < length) : i + 1 ≤ length := by
  rw [UInt32.le_iff_toNat_le, succ_toNat h]
  exact UInt32.lt_iff_toNat_lt.1 h

theorem foxtrot_nandProgramFrom (buffer : Buffer) (pos : Nat) (length i : UInt32) (h : i ≤ length) :
    Foxtrot0.nandProgramFrom i buffer pos length = Alpha0.nandProgram buffer (pos + i.toNat) (length - i) := by
  induction i using Foxtrot0.nandProgramFrom.induct length with
  | case1 i hlt ih =>
    have hnext : length - (i + 1) = length - i - 1 := by grind
    rw [Foxtrot0.nandProgramFrom, dif_pos hlt, Alpha0.nandProgram, dif_neg (sub_ne_zero_of_lt hlt),
      ih (succ_le_of_lt hlt), succ_toNat hlt, hnext]
    rfl
  | case2 i hlt =>
    have he : length = i := UInt32.le_antisymm (UInt32.not_lt.1 hlt) h
    rw [Foxtrot0.nandProgramFrom, dif_neg hlt, Alpha0.nandProgram, dif_pos (by rw [he, UInt32.sub_self])]

theorem foxtrot_nandProgram (buffer : Buffer) (pos : Nat) (length : UInt32) :
    Foxtrot0.nandProgram buffer pos length = Alpha0.nandProgram buffer pos length := by
  have h := foxtrot_nandProgramFrom buffer pos length 0 (UInt32.le_iff_toNat_le.2 (Nat.zero_le _))
  rwa [UInt32.sub_zero] at h

theorem foxtrot_nandReadFrom (pos : Nat) (length i : UInt32) (buffer : Buffer) (h : i ≤ length) :
    Foxtrot0.nandReadFrom i buffer pos length = Alpha0.nandRead buffer (pos + i.toNat) (length - i) := by
  induction i, buffer using Foxtrot0.nandReadFrom.induct pos length with
  | case1 i buffer hlt ih =>
    have hnext : length - (i + 1) = length - i - 1 := by grind
    rw [Foxtrot0.nandReadFrom, dif_pos hlt, Alpha0.nandRead, dif_neg (sub_ne_zero_of_lt hlt)]
    congr 1
    funext byte
    rw [ih byte (succ_le_of_lt hlt), succ_toNat hlt, hnext]
    rfl
  | case2 i buffer hlt =>
    have he : length = i := UInt32.le_antisymm (UInt32.not_lt.1 hlt) h
    rw [Foxtrot0.nandReadFrom, dif_neg hlt, Alpha0.nandRead, dif_pos (by rw [he, UInt32.sub_self])]

theorem foxtrot_nandRead (buffer : Buffer) (pos : Nat) (length : UInt32) :
    Foxtrot0.nandRead buffer pos length = Alpha0.nandRead buffer pos length := by
  have h := foxtrot_nandReadFrom pos length 0 buffer (UInt32.le_iff_toNat_le.2 (Nat.zero_le _))
  rwa [UInt32.sub_zero] at h

/-! ## The operation run -/

/-- Both paths give a page the same part of the transfer. -/
theorem sizeThisPage_eq {sizeRemaining : UInt32} {available : Room} {byteAddr : UInt8}
    (h : available.1.toNat = 256 - byteAddr.toNat) :
    sizeThisPage sizeRemaining available = sizeInPage sizeRemaining byteAddr := by
  rw [← UInt32.toNat_inj, sizeThisPage_toNat, sizeInPage_toNat, h]

theorem pageAddr_eq (offset : UInt32) : (pageOf offset).toUInt8 = (offset / numPages).toUInt8 := by
  rw [← UInt8.toNat_inj, UInt32.toNat_toUInt8, UInt32.toNat_toUInt8]
  unfold pageOf
  rw [UInt32.toNat_div, UInt32.toNat_mod, UInt32.toNat_div]
  show offset.toNat % 65536 / 256 % 256 = offset.toNat / 256 % 256
  omega

/-- What `exec_write()` makes of the value of the interpreter. -/
def writeResult (x : Buffer × Int) : DriverM Int := if x.2 ≠ 0 then pure (-1) else pure 0

def readResult (x : Buffer × Int) : DriverM (Buffer × Int) := if x.2 ≠ 0 then pure (x.1, -1) else pure (x.1, 0)

/-- A wait that decides whether to go on, seen from inside and from outside the interpreter. -/
theorem execOp_waitrdy {β : Type} (f : Buffer × Int → DriverM β) (buffer : Buffer) (timeout : UInt32)
    (instrs : List NandOpInstr) :
    (Foxtrot0.execOp buffer (.waitrdy timeout :: instrs) >>= f) =
      (ask (.wait timeout) >>= fun result =>
        if result ≠ 0 then f (buffer, -1) else Foxtrot0.execOp buffer instrs >>= f) := by
  rw [Foxtrot0.execOp, bind_assoc]
  congr 1
  funext result
  by_cases h : result ≠ 0
  · rw [if_pos h, if_pos h, pure_bind]
  · rw [if_neg h, if_neg h]

theorem writePage_append (len : UInt32) (buf : Nat) (instrs : List NandOpInstr) :
    writePage len buf ++ instrs =
      .dataIn len buf :: .cmd cProgramExecute.toUInt8 :: .waitrdy timeoutWritePageUs :: instrs := rfl

theorem readPage_append (len : UInt32) (buf : Nat) (instrs : List NandOpInstr) :
    readPage len buf ++ instrs =
      .cmd cReadExecute.toUInt8 :: .waitrdy timeoutReadPageUs :: .dataOut len buf :: instrs := rfl

theorem execOp_writePages (buffer : Buffer) (sizeRemaining cursor : UInt32) (available : Room) (byteAddr : UInt8)
    (h : available.1.toNat = 256 - byteAddr.toNat) :
    (Foxtrot0.execOp buffer (pageInstrs writePage sizeRemaining available cursor) >>= writeResult) =
      jtWriteLoop Alpha0.jumpTable buffer sizeRemaining cursor byteAddr := by
  induction sizeRemaining, available, cursor using pageInstrs.induct generalizing byteAddr with
  | case1 sizeRemaining available cursor hpos ih =>
    have hne : ¬ sizeRemaining = 0 := fun e => by rw [e] at hpos; exact UInt32.lt_irrefl 0 hpos
    rw [pageInstrs, dif_pos hpos, jtWriteLoop, dif_neg hne, sizeThisPage_eq h, writePage_append]
    rw [sizeThisPage_eq h] at ih
    rw [Foxtrot0.execOp, Foxtrot0.execOp, bind_assoc, foxtrot_nandProgram]
    simp only [bind_assoc, execOp_waitrdy writeResult, ih 0 rfl]
    rfl
  | case2 sizeRemaining available cursor hpos =>
    have he : sizeRemaining = 0 := UInt32.le_antisymm (UInt32.not_lt.1 hpos)
      (UInt32.le_iff_toNat_le.2 (Nat.zero_le _))
    rw [pageInstrs, dif_neg hpos, jtWriteLoop, dif_pos he]
    rfl

theorem execOp_readPages (buffer : Buffer) (sizeRemaining cursor : UInt32) (available : Room) (byteAddr : UInt8)
    (h : available.1.toNat = 256 - byteAddr.toNat) :
    (Foxtrot0.execOp buffer (pageInstrs readPage sizeRemaining available cursor) >>= readResult) =
      jtReadLoop Alpha0.jumpTable buffer sizeRemaining cursor byteAddr := by
  induction sizeRemaining, available, cursor using pageInstrs.induct generalizing byteAddr buffer with
  | case1 sizeRemaining available cursor hpos ih =>
    have hne : ¬ sizeRemaining = 0 := fun e => by rw [e] at hpos; exact UInt32.lt_irrefl 0 hpos
    rw [pageInstrs, dif_pos hpos, jtReadLoop, dif_neg hne, sizeThisPage_eq h, readPage_append]
    rw [sizeThisPage_eq h] at ih
    rw [Foxtrot0.execOp, bind_assoc]
    simp only [execOp_waitrdy readResult]
    simp only [Foxtrot0.execOp, bind_assoc, foxtrot_nandRead, ih _ 0 rfl]
    rfl
  | case2 sizeRemaining available cursor hpos =>
    have he : sizeRemaining = 0 := UInt32.le_antisymm (UInt32.not_lt.1 hpos)
      (UInt32.le_iff_toNat_le.2 (Nat.zero_le _))
    rw [pageInstrs, dif_neg hpos, jtReadLoop, dif_pos he]
    rfl

theorem firstRoom_byteAddr (offset : UInt32) :
    (firstRoom offset).1.toNat = 256 - (offset % numBytes).toUInt8.toNat := by
  have h := byteOf_toNat offset
  unfold byteOf at h
  rw [firstRoom_toNat, UInt32.toNat_toUInt8]
  show _ = 256 - (offset % pageSize).toNat % 256
  rw [h]
  omega

section

variable (exec : Buffer → List NandOpInstr → DriverM (Buffer × Int)) (buffer : Buffer) {offset size : UInt32}

theorem execWrite_built (hsize : 1 ≤ size.toNat) (hfit : offset.toNat % 256 + size.toNat < 2 ^ 32) :
    execWrite exec buffer offset size = exec buffer (appended cProgramSetup writePage offset size) >>= writeResult := by
  rw [execWrite, execTransfer_eq (fun _ _ => rfl) hsize hfit, pure_bind]
  rfl

theorem execRead_built (hsize : 1 ≤ size.toNat) (hfit : offset.toNat % 256 + size.toNat < 2 ^ 32) :
    execRead exec buffer offset size = exec buffer (appended cReadSetup readPage offset size) >>= readResult := by
  rw [execRead, execTransfer_eq (fun _ _ => rfl) hsize hfit, pure_bind]
  rfl

end

theorem execWrite_eq (buffer : Buffer) {offset size : UInt32} (hsize : 1 ≤ size.toNat)
    (hfit : offset.toNat % 256 + size.toNat < 2 ^ 32) :
    execWrite Foxtrot0.execOp buffer offset size = jtWrite Alpha0.jumpTable buffer offset size := by
  have hloop := execOp_writePages buffer size 0 (firstRoom offset) _ (firstRoom_byteAddr offset)
  rw [execWrite_built _ buffer hsize hfit, jtWrite, appended, ← hloop]
  simp only [Foxtrot0.execOp, Foxtrot0.setAddresses, bind_assoc, pure_bind, pageAddr_eq]
  rfl

theorem execRead_eq (buffer : Buffer) {offset size : UInt32} (hsize : 1 ≤ size.toNat)
    (hfit : offset.toNat % 256 + size.toNat < 2 ^ 32) :
    execRead Foxtrot0.execOp buffer offset size = jtRead Alpha0.jumpTable buffer offset size := by
  have hloop := execOp_readPages buffer size 0 (firstRoom offset) _ (firstRoom_byteAddr offset)
  rw [execRead_built _ buffer hsize hfit, jtRead, appended, ← hloop]
  simp only [Foxtrot0.execOp, Foxtrot0.setAddresses, bind_assoc, pure_bind, pageAddr_eq]
  rfl

/-! ## Erasing -/

/-- The instructions of `k` blocks. -/
def blockInstrs (k : Nat) : List NandOpInstr := (List.replicate k eraseBlockInstrs).flatten

theorem blockInstrs_succ (k : Nat) :
    blockInstrs (k + 1) = .cmd cEraseExecute.toUInt8 :: .waitrdy timeoutEraseBlockUs :: blockInstrs k := rfl

theorem blockInstrs_length (k : Nat) : (blockInstrs k).length = 2 * k := by
  induction k with
  | zero => rfl
  | succ k ih => rw [blockInstrs_succ, List.length_cons, List.length_cons, ih]; omega

theorem execEraseLoop_eq {count numBlocks : UInt32} {b ninstrs : UInt32} {instrs : List NandOpInstr}
    (hb : b ≤ numBlocks)
    (hcount : instrs.length + 2 * (numBlocks.toNat - b.toNat) ≤ count.toNat) :
    execEraseLoop count numBlocks b ninstrs instrs =
      pure (ninstrs + 2 * (numBlocks - b), instrs ++ blockInstrs (numBlocks.toNat - b.toNat)) := by
  induction b, ninstrs, instrs using execEraseLoop.induct numBlocks with
  | case1 b ninstrs instrs hlt ih =>
    have hlt' := UInt32.lt_iff_toNat_lt.1 hlt
    have hk : numBlocks.toNat - b.toNat = numBlocks.toNat - (b + 1).toNat + 1 := by
      rw [succ_toNat hlt]; omega
    have hn : ninstrs + 1 + 1 + 2 * (numBlocks - (b + 1)) = ninstrs + 2 * (numBlocks - b) := by grind
    have hlen : eraseBlockInstrs.length = 2 := rfl
    rw [execEraseLoop, dif_pos hlt, pushAll_eq (by rw [hlen]; omega), pure_bind,
      ih _ (succ_le_of_lt hlt) (by rw [List.length_append, hlen]; omega), hn, hk, List.append_assoc]
    rfl
  | case2 b ninstrs instrs hlt =>
    have he : numBlocks = b := UInt32.le_antisymm (UInt32.not_lt.1 hlt) hb
    rw [execEraseLoop, dif_neg hlt, he, UInt32.sub_self, Nat.sub_self, UInt32.mul_zero, UInt32.add_zero]
    simp [blockInstrs]

theorem execOp_blocks (buffer : Buffer) (numBlocks b : UInt32) (hb : b ≤ numBlocks) :
    (Foxtrot0.execOp buffer (blockInstrs (numBlocks.toNat - b.toNat)) >>= writeResult) =
      jtEraseLoop Alpha0.jumpTable numBlocks b := by
  induction b using jtEraseLoop.induct numBlocks with
  | case1 b hlt ih =>
    have hk : numBlocks.toNat - b.toNat = numBlocks.toNat - (b + 1).toNat + 1 := by
      have := UInt32.lt_iff_toNat_lt.1 hlt
      rw [succ_toNat hlt]; omega
    rw [hk, blockInstrs_succ, jtEraseLoop, dif_pos hlt, Foxtrot0.execOp, bind_assoc]
    simp only [execOp_waitrdy writeResult, ih (succ_le_of_lt hlt)]
    rfl
  | case2 b hlt =>
    have he : numBlocks = b := UInt32.le_antisymm (UInt32.not_lt.1 hlt) hb
    rw [he, Nat.sub_self, jtEraseLoop, dif_neg (UInt32.lt_irrefl b)]
    rfl

theorem blocksToErase_toNat_le (offset size : UInt32) : (blocksToErase offset size).toNat ≤ 65536 := by
  have hdiv : ((size + offset % blockSize) / blockSize).toNat ≤ 65535 := by
    rw [UInt32.toNat_div, blockSize_toNat]
    have := (size + offset % blockSize).toNat_lt
    omega
  unfold blocksToErase
  dsimp only
  split_ifs
  · rw [UInt32.toNat_add]
    show (_ + 1) % 2 ^ 32 ≤ 65536
    omega
  · omega

/-- The instructions of an erase of `k` blocks. -/
def eraseInstrs (offset : UInt32) (k : Nat) : List NandOpInstr :=
  .cmd cEraseSetup.toUInt8 :: .addr [(offset / blockSize).toUInt8] :: blockInstrs k

theorem execErase_built (exec : Buffer → List NandOpInstr → DriverM (Buffer × Int)) (offset size : UInt32) :
    execErase exec offset size =
      exec (fun _ => 0) (eraseInstrs offset (blocksToErase offset size).toNat) >>= writeResult := by
  have hle := blocksToErase_toNat_le offset size
  unfold execErase
  dsimp only
  generalize blocksToErase offset size = numBlocks at hle ⊢
  have hcount : (instructionCountErase numBlocks).toNat = 2 + 2 * numBlocks.toNat := by
    have h2 : ((0 : UInt32) + 1 + 1).toNat = 2 := rfl
    have hmul : (eraseInstructions * numBlocks).toNat = 2 * numBlocks.toNat := by
      rw [UInt32.toNat_mul]
      exact Nat.mod_eq_of_lt (by show 2 * _ < 2 ^ 32; omega)
    unfold instructionCountErase
    dsimp only
    rw [UInt32.toNat_add, hmul, h2]
    exact Nat.mod_eq_of_lt (by omega)
  have hn : (2 : UInt32) + 2 * (numBlocks - 0) = instructionCountErase numBlocks := by
    rw [UInt32.sub_zero]
    rfl
  have h0 := UInt32.toNat_zero
  rw [push_eq (by rw [hcount, List.length_nil]; omega), pure_bind,
    push_eq (by rw [hcount, List.length_append, List.length_singleton, List.length_nil]; omega), pure_bind,
    execEraseLoop_eq (UInt32.le_iff_toNat_le.2 (Nat.zero_le _))
      (by rw [hcount, h0]; simp only [List.length_append, List.length_singleton, List.length_nil]; omega),
    pure_bind, hn]
  dsimp only
  rw [assert_true rfl, pure_bind, List.take_of_length_le]
  · rfl
  · rw [hcount]
    simp only [List.length_append, List.length_singleton, List.length_nil, blockInstrs_length, h0]
    omega

theorem execErase_eq (offset size : UInt32) :
    execErase Foxtrot0.execOp offset size = jtErase Alpha0.jumpTable offset size := by
  have hloop := execOp_blocks (fun _ => 0) (blocksToErase offset size) 0 (UInt32.le_iff_toNat_le.2 (Nat.zero_le _))
  have h0 := UInt32.toNat_zero
  rw [h0, Nat.sub_zero] at hloop
  rw [execErase_built, jtErase, eraseInstrs, ← hloop]
  simp only [Foxtrot0.execOp, Foxtrot0.setAddresses, bind_assoc, pure_bind]
  rfl

/-! ## What a path does, under an oracle -/

/-- One exchange with the machine, as it happened. -/
inductive Transfer
  | stored (offset value : UInt8)
  | loaded (byte : UInt8)
  | waited (intervalUs : UInt32) (result : Int)
  deriving DecidableEq, Repr

/-- The answers to loads and waits, which may depend on all that happened before. -/
structure Oracle where
  load : List Transfer → UInt8
  wait : List Transfer → UInt32 → Int

/-- The machine that answers as the oracle says. A path that aborts gets no answer. -/
def Oracle.env (oracle : Oracle) : Env Op Op.Res Transfer (List Transfer)
  | .store offset value, h => ([.stored offset value], some ((), h ++ [.stored offset value]))
  | .load, h => ([.loaded (oracle.load h)], some (oracle.load h, h ++ [.loaded (oracle.load h)]))
  | .wait us, h =>
    ([.waited us (oracle.wait h us)], some (oracle.wait h us, h ++ [.waited us (oracle.wait h us)]))
  | .abort, _ => ([], none)

/-- All a path does and the value it returns, if it does not abort. -/
def performs {α : Type} (oracle : Oracle) (p : DriverM α) : List Transfer × Option α :=
  ((run oracle.env p []).1, (run oracle.env p []).2.map Prod.fst)

/-! ## The jump-table path does not abort -/

def NoAbort {α : Type} (p : DriverM α) : Prop := p.Only (· ≠ .abort)

theorem noAbort_ask {o : Op} (h : o ≠ .abort) : NoAbort (ask o) := Prog.Only.call h

theorem noAbort_nandProgram (buffer : Buffer) (pos : Nat) (length : UInt32) :
    NoAbort (Alpha0.nandProgram buffer pos length) := by
  induction pos, length using Alpha0.nandProgram.induct with
  | case1 pos => rw [Alpha0.nandProgram, dif_pos rfl]; trivial
  | case2 pos length h ih =>
    rw [Alpha0.nandProgram, dif_neg h]
    exact (noAbort_ask (by simp)).bind fun _ => ih

theorem noAbort_nandRead (buffer : Buffer) (pos : Nat) (length : UInt32) :
    NoAbort (Alpha0.nandRead buffer pos length) := by
  induction buffer, pos, length using Alpha0.nandRead.induct with
  | case1 buffer pos => rw [Alpha0.nandRead, dif_pos rfl]; trivial
  | case2 buffer pos length h ih =>
    rw [Alpha0.nandRead, dif_neg h]
    exact (noAbort_ask (by simp)).bind ih

theorem noAbort_ite {α : Type} {p : Prop} [Decidable p] {x y : DriverM α} (hx : NoAbort x) (hy : NoAbort y) :
    NoAbort (if p then x else y) := by
  split_ifs
  · exact hx
  · exact hy

theorem noAbort_jtWriteLoop (buffer : Buffer) (bytesLeft cursor : UInt32) (byteAddr : UInt8) :
    NoAbort (jtWriteLoop Alpha0.jumpTable buffer bytesLeft cursor byteAddr) := by
  induction bytesLeft, cursor, byteAddr using jtWriteLoop.induct with
  | case1 cursor byteAddr => rw [jtWriteLoop, dif_pos rfl]; trivial
  | case2 bytesLeft cursor byteAddr h size ih =>
    rw [jtWriteLoop, dif_neg h]
    refine (noAbort_nandProgram _ _ _).bind fun _ => (noAbort_ask (by simp)).bind fun _ =>
      (noAbort_ask (by simp)).bind fun _ => noAbort_ite trivial ih

theorem noAbort_jtReadLoop (buffer : Buffer) (bytesLeft cursor : UInt32) (byteAddr : UInt8) :
    NoAbort (jtReadLoop Alpha0.jumpTable buffer bytesLeft cursor byteAddr) := by
  induction buffer, bytesLeft, cursor, byteAddr using jtReadLoop.induct with
  | case1 buffer cursor byteAddr => rw [jtReadLoop, dif_pos rfl]; trivial
  | case2 buffer bytesLeft cursor byteAddr h ih =>
    rw [jtReadLoop, dif_neg h]
    refine (noAbort_ask (by simp)).bind fun _ => (noAbort_ask (by simp)).bind fun _ =>
      noAbort_ite trivial ((noAbort_nandRead _ _ _).bind ih)

theorem noAbort_jtEraseLoop (numBlocks b : UInt32) : NoAbort (jtEraseLoop Alpha0.jumpTable numBlocks b) := by
  induction b using jtEraseLoop.induct numBlocks with
  | case1 b h ih =>
    rw [jtEraseLoop, dif_pos h]
    exact (noAbort_ask (by simp)).bind fun _ => (noAbort_ask (by simp)).bind fun _ => noAbort_ite trivial ih
  | case2 b h => rw [jtEraseLoop, dif_neg h]; trivial

theorem noAbort_jtWrite (buffer : Buffer) (offset size : UInt32) :
    NoAbort (jtWrite Alpha0.jumpTable buffer offset size) :=
  (noAbort_ask (by simp)).bind fun _ => (noAbort_ask (by simp)).bind fun _ => (noAbort_ask (by simp)).bind fun _ =>
    (noAbort_ask (by simp)).bind fun _ => noAbort_jtWriteLoop _ _ _ _

theorem noAbort_jtRead (buffer : Buffer) (offset size : UInt32) :
    NoAbort (jtRead Alpha0.jumpTable buffer offset size) :=
  (noAbort_ask (by simp)).bind fun _ => (noAbort_ask (by simp)).bind fun _ => (noAbort_ask (by simp)).bind fun _ =>
    (noAbort_ask (by simp)).bind fun _ => noAbort_jtReadLoop _ _ _ _

theorem noAbort_jtErase (offset size : UInt32) : NoAbort (jtErase Alpha0.jumpTable offset size) :=
  (noAbort_ask (by simp)).bind fun _ => (noAbort_ask (by simp)).bind fun _ => noAbort_jtEraseLoop _ _

theorem performs_returns {α : Type} (oracle : Oracle) {p : DriverM α} (h : NoAbort p) :
    (performs oracle p).2.isSome := by
  have hrun : (run oracle.env p []).2.isSome :=
    run_returns (fun o s ho => by cases o <;> first | rfl | exact absurd rfl ho) h []
  unfold performs
  rwa [Option.isSome_map]

/-- Under every oracle, both paths make the same transfers in the same order, return, and return the
same value and the same buffer. -/
theorem exec_agrees_with_jumpTable (buffer : Buffer) (offset size : UInt32) (hsize : 1 ≤ size.toNat)
    (hfit : offset.toNat % 256 + size.toNat < 2 ^ 32) (oracle : Oracle) :
    (performs oracle (writeNand Foxtrot0.getDriver buffer offset size) =
        performs oracle (writeNand Alpha0.getDriver buffer offset size) ∧
      (performs oracle (writeNand Alpha0.getDriver buffer offset size)).2.isSome) ∧
    (performs oracle (readNand Foxtrot0.getDriver buffer offset size) =
        performs oracle (readNand Alpha0.getDriver buffer offset size) ∧
      (performs oracle (readNand Alpha0.getDriver buffer offset size)).2.isSome) ∧
    (performs oracle (eraseNand Foxtrot0.getDriver offset size) =
        performs oracle (eraseNand Alpha0.getDriver offset size) ∧
      (performs oracle (eraseNand Alpha0.getDriver offset size)).2.isSome) := by
  refine ⟨⟨?_, performs_returns oracle (noAbort_jtWrite buffer offset size)⟩,
    ⟨?_, performs_returns oracle (noAbort_jtRead buffer offset size)⟩,
    ⟨?_, performs_returns oracle (noAbort_jtErase offset size)⟩⟩
  · exact congrArg (performs oracle) (execWrite_eq buffer hsize hfit)
  · exact congrArg (performs oracle) (execRead_eq buffer hsize hfit)
  · exact congrArg (performs oracle) (execErase_eq offset size)

/-- A write of 300 bytes from byte 250 of a page, over three pages, with every wait timing out. -/
theorem exec_agrees_with_jumpTable_timeout :
    performs ⟨fun _ => 0, fun _ _ => -1⟩ (writeNand Foxtrot0.getDriver (fun i => i.toUInt8) 250 300) =
      performs ⟨fun _ => 0, fun _ _ => -1⟩ (writeNand Alpha0.getDriver (fun i => i.toUInt8) 250 300) :=
  (exec_agrees_with_jumpTable _ 250 300 (by decide) (by decide) _).1.1

end NandRig.Framework
