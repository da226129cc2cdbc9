/-
The stack with alpha_5, foxtrot_2 and foxtrot_1: which calls the first two do not return from, and what the
third leaves of a call.
-/
import NandRig.Driver.FlawedLoops
import NandRig.Stack.Drivers

namespace NandRig.Stack

open Emulator Framework Driver Interact Tester

/-! ## Loops that need not end -/

theorem env_noTimeout {waiting : Waiting} (hwaits : WaitsReady waiting) (o : Op) (s : Sys) (r : o.Res) (s' : Sys)
    (h : (env waiting o s).2 = some (r, s')) : NoTimeout o r := by
  cases o with
  | wait us =>
    obtain ⟨c, hw, -⟩ := env_wait_some h
    obtain ⟨c', hw', -⟩ := hwaits us s.device s.clock
    rw [hw'] at hw
    cases hw
    rfl
  | store offset value => trivial
  | load => trivial
  | abort => trivial

/-- A driver that is run for a number of rounds: in enough of them it does what alpha_0 does on the calls that
are `Good`, and in no number of them does it return from another. -/
structure EndsOn (driver : Nat → NandDriver) (enough : Nat) (Good : Call → Prop) : Prop where
  good : ∀ call, call.InRange → Good call → call.through (driver enough) = call.perform
  never : ∀ n call, call.InRange → ¬ Good call → (call.through (driver n)).Ensures NoTimeout fun _ => False

section

variable {driver : Nat → NandDriver} {enough : Nat} {Good : Call → Prop} {calls : List Call}

theorem EndsOn.allThrough_eq (h : EndsOn driver enough Good) (hcalls : ∀ call ∈ calls, call.InRange)
    (hgood : ∀ call ∈ calls, Good call) : allThrough (driver enough) calls = performAll calls := by
  induction calls with
  | nil => rfl
  | cons call calls ih =>
    rw [allThrough, performAll, h.good call (hcalls call List.mem_cons_self) (hgood call List.mem_cons_self),
      ih (fun c hc => hcalls c (List.mem_cons_of_mem _ hc)) fun c hc => hgood c (List.mem_cons_of_mem _ hc)]

theorem EndsOn.allThrough_never (h : EndsOn driver enough Good) (n : Nat) (hcalls : ∀ call ∈ calls, call.InRange)
    (hbad : ∃ call ∈ calls, ¬ Good call) : (allThrough (driver n) calls).Ensures NoTimeout fun _ => False := by
  induction calls with
  | nil =>
    obtain ⟨call, hmem, -⟩ := hbad
    cases hmem
  | cons call calls ih =>
    by_cases hfirst : Good call
    · refine (Prog.Ensures.trivial NoTimeout _).bind fun ret _ => ?_
      refine (ih (fun c hc => hcalls c (List.mem_cons_of_mem _ hc)) ?_).bind fun _ hfalse => hfalse.elim
      obtain ⟨c, hmem, hc⟩ := hbad
      rcases List.mem_cons.1 hmem with rfl | hmem
      · exact absurd hfirst hc
      · exact ⟨c, hmem, hc⟩
    · exact (h.never n call (hcalls call List.mem_cons_self) hfirst).bind fun _ hfalse => hfalse.elim

/-- The calls all return exactly when all of them are good, and then with device and mirror in step. -/
theorem EndsOn.returns_iff (h : EndsOn driver enough Good) {waiting : Waiting} (hwaits : WaitsReady waiting)
    (d₀ : Device) (ioregisters : UInt64) (clock : Clock) (hcalls : ∀ call ∈ calls, call.InRange) :
    ((∃ n, (run (env waiting) (allThrough (driver n) calls) (boot d₀ ioregisters clock)).2.isSome) ↔
      ∀ call ∈ calls, Good call) ∧
    ((∀ call ∈ calls, Good call) →
      RefinesMirror waiting (driver enough) (boot d₀ ioregisters clock) calls) := by
  have hrefines (hgood : ∀ call ∈ calls, Good call) :
      RefinesMirror waiting (driver enough) (boot d₀ ioregisters clock) calls :=
    refinesMirror_of_eq hwaits d₀ ioregisters clock hcalls (h.allThrough_eq hcalls hgood)
  refine ⟨⟨fun hsome => ?_, fun hgood => ?_⟩, hrefines⟩
  · obtain ⟨n, hn⟩ := hsome
    obtain ⟨⟨rets, s⟩, hs⟩ := Option.isSome_iff_exists.1 hn
    by_contra hbad
    push Not at hbad
    exact (h.allThrough_never n hcalls hbad).run (env_noTimeout hwaits) hs
  · obtain ⟨rets, s, -, -, hs, -⟩ := hrefines hgood
    exact ⟨enough, by rw [hs]; rfl⟩

end

/-! ## alpha_5 -/

/-- The read takes whole eights of bytes from each page; or no read. -/
def Call.EightsOfPages : Call → Prop
  | .read _ offset size => Driver.EightsOfPages size.toNat (offset.toNat % 256)
  | _ => True

theorem alpha5_endsOn : EndsOn Alpha5.getDriver 33 Call.EightsOfPages where
  good call _ hgood := by
    cases call with
    | write buffer offset size =>
      have hwrite : writeNand (Alpha5.getDriver 33) buffer offset size =
          writeNand Alpha0.getDriver buffer offset size :=
        writeNand_readBuffer ..
      rw [Call.through, Call.perform, hwrite]
    | erase offset size =>
      have herase : eraseNand (Alpha5.getDriver 33) offset size = eraseNand Alpha0.getDriver offset size :=
        eraseNand_readBuffer ..
      rw [Call.through, Call.perform, herase]
    | read buffer offset size => rw [Call.through, Call.perform, readNand_alpha5 le_rfl buffer hgood]
  never n call _ hbad := by
    cases call with
    | write buffer offset size => exact absurd trivial hbad
    | erase offset size => exact absurd trivial hbad
    | read buffer offset size => exact (readNand_alpha5_never n buffer hbad).bind fun _ hfalse => hfalse.elim

/-- Through alpha_5, framework calls in range all return exactly when each read takes whole eights of bytes
from each page; and then they do what they do through alpha_0. -/
theorem alpha5_returns_iff {waiting : Waiting} (hwaits : WaitsReady waiting) (d₀ : Device) (ioregisters : UInt64)
    (clock : Clock) {calls : List Call} (hcalls : ∀ call ∈ calls, call.InRange) :
    ((∃ n, (run (env waiting) (allThrough (Alpha5.getDriver n) calls) (boot d₀ ioregisters clock)).2.isSome) ↔
      ∀ call ∈ calls, call.EightsOfPages) ∧
    ((∀ call ∈ calls, call.EightsOfPages) →
      RefinesMirror waiting (Alpha5.getDriver 33) (boot d₀ ioregisters clock) calls) :=
  alpha5_endsOn.returns_iff hwaits d₀ ioregisters clock hcalls

/-- A write of 300 bytes and a read of 48 of them, from two pages. -/
theorem alpha5_returns_iff_eights :
    (∃ n, (run (env waitUntilReady) (allThrough (Alpha5.getDriver n) [.write (fun i => i.toUInt8) 0 300,
      .read (fun _ => 0) 232 48]) (boot blankDevice 0 tickingClock)).2.isSome) ∧
    RefinesMirror waitUntilReady (Alpha5.getDriver 33) (boot blankDevice 0 tickingClock)
      [.write (fun i => i.toUInt8) 0 300, .read (fun _ => 0) 232 48] :=
  have h := alpha5_returns_iff waitUntilReady_waitsReady blankDevice 0 tickingClock
    (by simp [Call.InRange, Tester.InRange])
  have heights : ∀ call ∈ [Call.write (fun i => i.toUInt8) 0 300, .read (fun _ => 0) 232 48], call.EightsOfPages := by
    simp [Call.EightsOfPages, Driver.EightsOfPages]
  ⟨h.1.2 heights, h.2 heights⟩

/-! ## Calls as operations -/

theorem appended_length_pageCount {page : (len : UInt32) → (buf : Nat) → List NandOpInstr} (setup : UInt32)
    (offset size : UInt32) (hpage : ∀ len buf, (page len buf).length = 3) (hsize : 1 ≤ size.toNat) :
    (appended setup page offset size).length = 2 + 3 * pageCount offset size := by
  rw [appended_length hpage, if_neg (by omega), pageCount_eq (by omega), Nat.add_comm size.toNat]

theorem eraseInstrs_length (offset : UInt32) (k : Nat) : (eraseInstrs offset k).length = 2 + 2 * k := by
  rw [eraseInstrs, List.length_cons, List.length_cons, blockInstrs_length]
  omega

namespace Call

/-- The instructions that the framework builds. -/
def instrs : Call → List NandOpInstr
  | write _ offset size => appended cProgramSetup writePage offset size
  | read _ offset size => appended cReadSetup readPage offset size
  | erase offset size => eraseInstrs offset (blocksToErase offset size).toNat

/-- The memory that the instructions point into. -/
def memory : Call → Buffer
  | write buffer _ _ => buffer
  | read buffer _ _ => buffer
  | erase _ _ => fun _ => 0

/-- What a call makes of the value of the interpreter. -/
def outcome : Call → Buffer × Int → DriverM Return
  | write _ _ _, x => do
    let value ← writeResult x
    pure ⟨value, none⟩
  | read _ _ _, x => do
    let filled ← readResult x
    pure ⟨filled.2, some filled.1⟩
  | erase _ _, x => do
    let value ← writeResult x
    pure ⟨value, none⟩

variable {call : Call}

theorem through_execOp (exec : Buffer → List NandOpInstr → DriverM (Buffer × Int)) (h : call.InRange) :
    call.through (.execOp exec) = exec call.memory call.instrs >>= call.outcome := by
  cases call with
  | write buffer offset size =>
    have hwrite : writeNand (.execOp exec) buffer offset size = _ :=
      execWrite_built exec buffer h.1 (by have := h.2; omega)
    rw [through, hwrite, bind_assoc]
    rfl
  | read buffer offset size =>
    have hread : readNand (.execOp exec) buffer offset size = _ :=
      execRead_built exec buffer h.1 (by have := h.2; omega)
    rw [through, hread, bind_assoc]
    rfl
  | erase offset size =>
    have herase : eraseNand (.execOp exec) offset size = _ := execErase_built exec offset size
    rw [through, herase, bind_assoc]
    rfl

theorem addressesFit_instrs (call : Call) : ∀ instr ∈ call.instrs, Interpreter.AddressesFit instr := by
  cases call with
  | write buffer offset size => exact addressesFit_appended addressesFit_writePage _ offset size
  | read buffer offset size => exact addressesFit_appended addressesFit_readPage _ offset size
  | erase offset size => exact addressesFit_eraseInstrs offset _

/-- The instructions of a page or of a block. -/
def instrsOfExecute : Call → Nat
  | write _ _ _ | read _ _ _ => 3
  | erase _ _ => 2

theorem instrs_length (h : call.InRange) : call.instrs.length = 2 + call.instrsOfExecute * call.total := by
  cases call with
  | write buffer offset size => exact appended_length_pageCount _ offset size (fun _ _ => rfl) h.1
  | read buffer offset size => exact appended_length_pageCount _ offset size (fun _ _ => rfl) h.1
  | erase offset size => exact eraseInstrs_length offset _

/-- A transfer within a page, or an erase of at most two blocks. -/
def FewInstrs : Call → Prop
  | write _ offset size | read _ offset size => pageCount offset size ≤ 1
  | erase offset size => (blocksToErase offset size).toNat ≤ 2

instance : DecidablePred FewInstrs
  | write _ _ _ | read _ _ _ | erase _ _ => inferInstanceAs (Decidable (_ ≤ _))

theorem fewInstrs_iff (h : call.InRange) : call.FewInstrs ↔ call.instrs.length < 8 := by
  rw [instrs_length h]
  cases call <;> simp only [FewInstrs, instrsOfExecute, total] <;> omega

end Call

/-! ## foxtrot_2 -/

theorem foxtrot2_endsOn : EndsOn Foxtrot2.getDriver 8 Call.FewInstrs where
  good call hrange hgood := by
    rw [Foxtrot2.getDriver, Call.through_execOp _ hrange,
      Foxtrot2.onInstrs_eq le_rfl _ call.addressesFit_instrs ((Call.fewInstrs_iff hrange).1 hgood),
      ← Call.through_execOp _ hrange]
    exact likeAlpha0_foxtrot0 call hrange
  never n call hrange hbad := by
    rw [Foxtrot2.getDriver, Call.through_execOp _ hrange]
    rw [Call.fewInstrs_iff hrange, Nat.not_lt] at hbad
    exact (Foxtrot2.onInstrs_never n _ hbad).bind fun _ hfalse => hfalse.elim

/-- Through foxtrot_2, framework calls in range all return exactly when each transfer stays within a page and
each erase within two blocks; and then they do what they do through alpha_0. -/
theorem foxtrot2_returns_iff {waiting : Waiting} (hwaits : WaitsReady waiting) (d₀ : Device) (ioregisters : UInt64)
    (clock : Clock) {calls : List Call} (hcalls : ∀ call ∈ calls, call.InRange) :
    ((∃ n, (run (env waiting) (allThrough (Foxtrot2.getDriver n) calls) (boot d₀ ioregisters clock)).2.isSome) ↔
      ∀ call ∈ calls, call.FewInstrs) ∧
    ((∀ call ∈ calls, call.FewInstrs) →
      RefinesMirror waiting (Foxtrot2.getDriver 8) (boot d₀ ioregisters clock) calls) :=
  foxtrot2_endsOn.returns_iff hwaits d₀ ioregisters clock hcalls

/-- An erase of two blocks, and a write of a page. -/
theorem foxtrot2_returns_iff_few :
    (∃ n, (run (env waitUntilReady) (allThrough (Foxtrot2.getDriver n) [.erase 65000 1000,
      .write (fun i => i.toUInt8) 512 256]) (boot blankDevice 0 tickingClock)).2.isSome) ∧
    RefinesMirror waitUntilReady (Foxtrot2.getDriver 8) (boot blankDevice 0 tickingClock)
      [.erase 65000 1000, .write (fun i => i.toUInt8) 512 256] :=
  have h := foxtrot2_returns_iff waitUntilReady_waitsReady blankDevice 0 tickingClock
    (by simp [Call.InRange, Tester.InRange])
  ⟨h.1.2 (by decide), h.2 (by decide)⟩

/-! ## foxtrot_1 -/

/-- What foxtrot_1 leaves of a transfer: the part in its first page. -/
def Call.cut : Call → Call
  | .write buffer offset size => .write buffer offset (sizeThisPage size (firstRoom offset))
  | .read buffer offset size => .read buffer offset (sizeThisPage size (firstRoom offset))
  | .erase offset size => .erase offset size

def Call.IsTransfer : Call → Prop
  | .write _ _ _ | .read _ _ _ => True
  | .erase _ _ => False

theorem inRange_cut {offset size : UInt32} (h : Tester.InRange offset size) :
    Tester.InRange offset (sizeThisPage size (firstRoom offset)) := by
  have hfirst := sizeThisPage_toNat size (firstRoom offset)
  have hroom := firstRoom_toNat offset
  unfold Tester.InRange at h ⊢
  omega

theorem Call.InRange.cut {call : Call} (h : call.InRange) : call.cut.InRange := by
  cases call with
  | write buffer offset size => exact inRange_cut h
  | read buffer offset size => exact inRange_cut h
  | erase offset size => exact h

/-- Five instructions set up a transfer, and are those of its first page. -/
theorem appended_take {page : (len : UInt32) → (buf : Nat) → List NandOpInstr} (setup : UInt32)
    {offset size : UInt32} (hpage : ∀ len buf, (page len buf).length = 3) (hsize : 1 ≤ size.toNat) :
    (appended setup page offset size).take 5 =
      appended setup page offset (sizeThisPage size (firstRoom offset)) := by
  have h0 := UInt32.toNat_zero
  have hfirst := sizeThisPage_toNat size (firstRoom offset)
  have hroom := firstRoom_toNat offset
  have hpos : 0 < size := UInt32.lt_iff_toNat_lt.2 (by omega)
  generalize hpart : sizeThisPage size (firstRoom offset) = part at hfirst
  have hpos' : 0 < part := UInt32.lt_iff_toNat_lt.2 (by omega)
  have hsame : sizeThisPage part (firstRoom offset) = part := by
    rw [← UInt32.toNat_inj, sizeThisPage_toNat]
    omega
  have hend : pageInstrs page (part - part) fullPage (0 + part) = [] := by
    rw [UInt32.sub_self, pageInstrs, dif_neg (UInt32.lt_irrefl 0)]
  have hthree : (page part (0 : UInt32).toNat).length = 3 := hpage part _
  rw [appended, appended, pageInstrs, dif_pos hpos]
  conv_rhs => rw [pageInstrs, dif_pos hpos', hsame, hend, List.append_nil]
  rw [hpart, List.take_succ_cons, List.take_succ_cons, List.take_append_of_le_length (by omega),
    List.take_of_length_le (by omega)]

theorem transferInstrs_bounds {offset size : UInt32} (h : Tester.InRange offset size) :
    5 ≤ 2 + 3 * pageCount offset size ∧ 2 + 3 * pageCount offset size < 2 ^ 32 := by
  obtain ⟨hsize, hfit⟩ := h
  rw [pageCount_eq (by omega)]
  omega

theorem onInstrs_appended (setup : UInt32) {page : (len : UInt32) → (buf : Nat) → List NandOpInstr}
    (hpage : ∀ len buf, (page len buf).length = 3)
    (hfit : ∀ len buf, ∀ instr ∈ page len buf, Interpreter.AddressesFit instr) (buffer : Buffer) {offset size : UInt32}
    (h : Tester.InRange offset size) :
    Foxtrot1.onInstrs buffer (appended setup page offset size) =
      Foxtrot0.execOp buffer (appended setup page offset (sizeThisPage size (firstRoom offset))) := by
  have hlen := appended_length_pageCount setup offset size hpage h.1
  have hbounds := transferInstrs_bounds h
  rw [Foxtrot1.onInstrs_eq buffer (addressesFit_appended hfit setup offset size) (by omega) (by omega),
    appended_take setup hpage h.1]

theorem writeNand_foxtrot1 (buffer : Buffer) {offset size : UInt32} (h : Tester.InRange offset size) :
    writeNand Foxtrot1.getDriver buffer offset size =
      writeNand Alpha0.getDriver buffer offset (sizeThisPage size (firstRoom offset)) := by
  obtain ⟨hsize, hfit⟩ := inRange_cut h
  have hfive := onInstrs_appended cProgramSetup (fun _ _ => rfl) addressesFit_writePage buffer h
  have hfirst : writeNand Alpha0.getDriver buffer offset (sizeThisPage size (firstRoom offset)) = _ :=
    (execWrite_eq buffer hsize (by omega)).symm
  have hwrite : writeNand Foxtrot1.getDriver buffer offset size = _ :=
    execWrite_built Foxtrot1.onInstrs buffer h.1 (by have := h.2; omega)
  rw [hwrite, hfive, hfirst, execWrite_built _ buffer hsize (by omega)]

theorem readNand_foxtrot1 (buffer : Buffer) {offset size : UInt32} (h : Tester.InRange offset size) :
    readNand Foxtrot1.getDriver buffer offset size =
      readNand Alpha0.getDriver buffer offset (sizeThisPage size (firstRoom offset)) := by
  obtain ⟨hsize, hfit⟩ := inRange_cut h
  have hfive := onInstrs_appended cReadSetup (fun _ _ => rfl) addressesFit_readPage buffer h
  have hfirst : readNand Alpha0.getDriver buffer offset (sizeThisPage size (firstRoom offset)) = _ :=
    (execRead_eq buffer hsize (by omega)).symm
  have hread : readNand Foxtrot1.getDriver buffer offset size = _ :=
    execRead_built Foxtrot1.onInstrs buffer h.1 (by have := h.2; omega)
  rw [hread, hfive, hfirst, execRead_built _ buffer hsize (by omega)]

theorem through_foxtrot1 {call : Call} (h : call.InRange) (htransfer : call.IsTransfer) :
    call.through Foxtrot1.getDriver = call.cut.perform := by
  cases call with
  | write buffer offset size => rw [Call.through, writeNand_foxtrot1 buffer h, Call.cut, Call.perform]
  | read buffer offset size => rw [Call.through, readNand_foxtrot1 buffer h, Call.cut, Call.perform]
  | erase offset size => exact htransfer.elim

/-- Through foxtrot_1, writes and reads in range return 0, and do what they do through alpha_0 in the first
page of each: the rest is neither written nor read. -/
theorem foxtrot1_cuts {waiting : Waiting} (hwaits : WaitsReady waiting) (d₀ : Device) (ioregisters : UInt64)
    (clock : Clock) {calls : List Call} (hcalls : ∀ call ∈ calls, call.InRange)
    (htransfers : ∀ call ∈ calls, call.IsTransfer) :
    ∃ rets s buffers mirror,
      (run (env waiting) (allThrough Foxtrot1.getDriver calls) (boot d₀ ioregisters clock)).2 = some (rets, s) ∧
      mirrorAll (calls.map Call.cut) (fun _ => 0) = some (buffers, mirror) ∧ s.device.store.dataStore = mirror ∧
      rets.map Return.buffer = buffers ∧ ∀ ret ∈ rets, ret.value = 0 := by
  have hperform : allThrough Foxtrot1.getDriver calls = performAll (calls.map Call.cut) := by
    clear hwaits
    induction calls with
    | nil => rfl
    | cons call calls ih =>
      rw [allThrough, List.map_cons, performAll,
        through_foxtrot1 (hcalls call List.mem_cons_self) (htransfers call List.mem_cons_self),
        ih (fun c hc => hcalls c (List.mem_cons_of_mem _ hc)) fun c hc => htransfers c (List.mem_cons_of_mem _ hc)]
  have hcut : ∀ call ∈ calls.map Call.cut, call.InRange := by
    intro call hcall
    obtain ⟨c, hc, rfl⟩ := List.mem_map.1 hcall
    exact (hcalls c hc).cut
  obtain ⟨rets, s, hs, hend⟩ := performAll_mirrored hwaits d₀ ioregisters clock hcut
  exact ⟨rets, s, _, _, by rw [hperform, hs], hend.mirror, rfl, rfl, hend.values⟩

/-- A write into a page and the next, and a read of both. -/
theorem foxtrot1_cuts_two :
    ∃ rets s buffers mirror,
      (run (env waitUntilReady) (allThrough Foxtrot1.getDriver [.write (fun i => i.toUInt8) 250 300,
        .read (fun _ => 0) 0 512]) (boot blankDevice 0 tickingClock)).2 = some (rets, s) ∧
      mirrorAll (List.map Call.cut [.write (fun i => i.toUInt8) 250 300, .read (fun _ => 0) 0 512]) (fun _ => 0) =
        some (buffers, mirror) ∧ s.device.store.dataStore = mirror ∧
      rets.map Return.buffer = buffers ∧ ∀ ret ∈ rets, ret.value = 0 :=
  foxtrot1_cuts waitUntilReady_waitsReady blankDevice 0 tickingClock (by simp [Call.InRange, Tester.InRange])
    (by simp [Call.IsTransfer])

end NandRig.Stack
