/-
What the deterministic system test makes of the flawed drivers: it fails with the first byte that differs, or
does not return.
-/
import NandRig.Stack.FlawedLoops
import NandRig.Stack.FlawedReads
import NandRig.Stack.SystemTests

namespace NandRig.Stack

open Emulator Framework Driver Interact Tester

/-! ## The test, from the runs of its calls -/

section

variable {driver : NandDriver} {waiting : Waiting} {rig : Rig} {data dest : Buffer}

theorem rigEnv_write {buffer : Buffer} {offset size : UInt32} {result : Int} {s : Sys}
    (h : (run (env waiting) (writeNand driver buffer offset size) rig.sys).2 = some (result, s)) :
    ∃ l : List Trace, run (rigEnv driver waiting) (request (.writeNand buffer offset size)) rig =
      (l.map .machine, some (result, { rig with sys := s })) := by
  refine ⟨(run (env waiting) (writeNand driver buffer offset size) rig.sys).1, ?_⟩
  have hcall : run (rigEnv driver waiting) (request (.writeNand buffer offset size)) rig =
      onSys waiting (writeNand driver buffer offset size) rig := run_call ..
  rw [hcall, onSys, h]
  rfl

theorem rigEnv_read {buffer filled : Buffer} {offset size : UInt32} {result : Int} {s : Sys}
    (h : (run (env waiting) (readNand driver buffer offset size) rig.sys).2 = some ((filled, result), s)) :
    ∃ l : List Trace, run (rigEnv driver waiting) (request (.readNand buffer offset size)) rig =
      (l.map .machine, some ((filled, result), { rig with sys := s })) := by
  refine ⟨(run (env waiting) (readNand driver buffer offset size) rig.sys).1, ?_⟩
  have hcall : run (rigEnv driver waiting) (request (.readNand buffer offset size)) rig =
      onSys waiting (readNand driver buffer offset size) rig := run_call ..
  rw [hcall, onSys, h]
  rfl

/-- The test has failed: it has printed at which index the buffers differ, and nothing else, and returned -1. -/
def FailsAt (index : UInt32) (driver : NandDriver) (waiting : Waiting) (data dest : Buffer) (rig : Rig) : Prop :=
  ∃ (l : List Trace) (rig' : Rig), run (rigEnv driver waiting) (stDeterministic data dest) rig =
    (l.map .machine ++ [.printed (.failDiffers index)], some (-1, rig'))

theorem failsAt_of_runs {s₁ s₂ : Sys} {filled : Buffer} {index : UInt32}
    (hwrite : (run (env waiting) (writeNand driver (dataInit data dataSize) storageAddr dataSize) rig.sys).2 =
      some (0, s₁))
    (hread : (run (env waiting) (readNand driver dest storageAddr dataSize) s₁).2 = some ((filled, 0), s₂))
    (hindex : index < dataSize) (hdiffers : dataInit data dataSize index.toNat ≠ filled index.toNat)
    (hbefore : ∀ j < index.toNat, dataInit data dataSize j = filled j) :
    FailsAt index driver waiting data dest rig := by
  obtain ⟨l₁, hw⟩ := rigEnv_write hwrite
  obtain ⟨l₂, hr⟩ := @rigEnv_read driver waiting { rig with sys := s₁ } dest filled storageAddr dataSize 0 s₂ hread
  have hfirst : dataCompare (dataInit data dataSize) filled dataSize = index :=
    firstIndex_eq hindex (by simpa using hdiffers) fun j hj => by simpa using hbefore j hj
  have hne : dataSize ≠ index := by
    rintro rfl
    exact absurd hindex (UInt32.lt_irrefl _)
  refine ⟨l₁ ++ l₂, { rig with sys := s₂ }, ?_⟩
  rw [stDeterministic]
  dsimp only
  rw [run_bind_of hw, if_neg (not_not.2 rfl), run_bind_of hr]
  dsimp only
  rw [if_neg (not_not.2 rfl), hfirst, if_neg hne]
  have hprint : run (rigEnv driver waiting) (request (.printf (.failDiffers index))) { rig with sys := s₂ } =
      ([.printed (.failDiffers index)], some ((), { rig with sys := s₂ })) := run_call ..
  rw [run_bind_of hprint, run_pure, List.append_nil, List.map_append, List.append_assoc]

/-- What is written through alpha_0 is read back. -/
theorem run_roundTrip (hwaits : WaitsReady waiting) {I : Clock → Prop} {s : Sys} (h : Timely I s)
    (hidle : Idle s.device) (buffer out : Buffer) {offset size : UInt32} (hrange : Tester.InRange offset size)
    (hfit : offset.toNat % 256 + size.toNat ≤ deviceSize) :
    ∃ s₁ s₂, (run (env waiting) (writeNand Alpha0.getDriver buffer offset size) s).2 = some (0, s₁) ∧
      (run (env waiting) (readNand Alpha0.getDriver out offset size) s₁).2 =
        some ((fun i => if i < size.toNat then buffer i else out i, 0), s₂) := by
  obtain ⟨s₁, hwrite, htimely, hidle₁, hmirror⟩ := run_writeNand_alpha0 hwaits h hidle buffer hrange
  obtain ⟨s₂, hread⟩ := run_readNand_alpha0 hwaits htimely hidle₁ out hrange
  obtain ⟨mirror', hm, hwritten⟩ := writeMirror_written_pages hrange.1 hrange.endsBelowLastPage s.device.store.dataStore
  rw [hm] at hmirror
  cases hmirror
  have hmax : size.toNat ≤ 16777216 := by
    rw [deviceSize_eq] at hfit
    omega
  have hstores := (hwritten.stores hrange.1 hmax (.inl hfit)).read out
  exact ⟨s₁, s₂, hwrite, by rw [hread, hstores]⟩

/-- Where a call of the test never returns, the test does not. -/
theorem rigEnv_never (hwaits : WaitsReady waiting) (o : TestOp) {p : DriverM o.Res}
    (ho : rigEnv driver waiting o rig = onSys waiting p rig) (h : p.Ensures NoTimeout fun _ => False) {α : Type}
    (f : o.Res → TestM α) : (run (rigEnv driver waiting) (request o >>= f) rig).2 = none := by
  have hcall : run (rigEnv driver waiting) (request o) rig = onSys waiting p rig := (run_call o rig).trans ho
  refine run_bind_none f ?_
  rw [hcall, onSys]
  rcases hr : (run (env waiting) p rig.sys).2 with _ | ⟨a, s⟩
  · rfl
  · exact (h.run (env_noTimeout hwaits) hr).elim

end

/-! ## The verdicts -/

section

variable {waiting : Waiting} {rig : Rig} {data dest : Buffer}

theorem dataInit_ne_zero (data : Buffer) {i : Nat} (hi : i < dataSize.toNat) : dataInit data dataSize i ≠ 0 := by
  intro hzero
  have hletter := toPrintable_toNat i.toUInt32
  rw [← dataInit_apply data hi, hzero] at hletter
  have h0 := UInt8.toNat_zero
  omega

theorem dataSize_toNat : dataSize.toNat = 300 := rfl

theorem failsAt_alpha4 (hwaits : WaitsReady waiting) {I : Clock → Prop} (h : Timely I rig.sys)
    (hidle : Idle rig.sys.device) (hdest : ∀ i < dataSize.toNat, dest i = 0) :
    FailsAt 296 Alpha4.getDriver waiting data dest rig := by
  obtain ⟨s₁, s₂, hwrite, hread⟩ :=
    run_roundTrip hwaits h hidle (dataInit data dataSize) dest storage_inRange (by decide)
  obtain ⟨s₃, hfour⟩ := run_readNand_alpha4 dest rfl hread
  have hsame : writeNand Alpha4.getDriver (dataInit data dataSize) storageAddr dataSize =
      writeNand Alpha0.getDriver (dataInit data dataSize) storageAddr dataSize := writeNand_readBuffer ..
  rw [← hsame] at hwrite
  have hindex : (296 : UInt32).toNat = 296 := rfl
  have hsize := dataSize_toNat
  refine failsAt_of_runs hwrite hfour (by decide) ?_ fun j hj => ?_
  -- four bytes are left as they were, and no letter is 0
  · rw [hindex, if_neg (by omega), hdest 296 (by omega)]
    exact dataInit_ne_zero data (by omega)
  · rw [if_pos (by omega), if_pos (by omega)]

theorem failsAt_alpha6 (hwaits : WaitsReady waiting) {I : Clock → Prop} (h : Timely I rig.sys)
    (hidle : Idle rig.sys.device) :
    FailsAt 0 Alpha6.getDriver waiting data dest rig := by
  obtain ⟨s₁, s₂, hwrite, hread⟩ :=
    run_roundTrip hwaits h hidle (dataInit data dataSize) dest storage_inRange (by decide)
  have hsame : writeNand Alpha6.getDriver (dataInit data dataSize) storageAddr dataSize =
      writeNand Alpha0.getDriver (dataInit data dataSize) storageAddr dataSize := writeNand_readBuffer ..
  rw [← hsame] at hwrite
  have hturned := ((readNand_turned dest storageAddr dataSize).run (env waiting) s₁).2
  rw [hread] at hturned
  rcases hr : (run (env waiting) (readNand Alpha6.getDriver dest storageAddr dataSize) s₁).2 with
    _ | ⟨⟨filled, result⟩, s₃⟩ <;> rw [hr] at hturned
  · cases hturned
  · cases hturned with
    | some hx =>
      obtain ⟨⟨hvalue, hinside, -, -⟩, -⟩ := hx
      dsimp only at hvalue hinside
      subst hvalue
      have hsize := dataSize_toNat
      have hlast : turnedIndex (storageAddr.toNat % 256) dataSize.toNat 0 = 255 := by decide
      have hfilled : filled 0 = toPrintable (255 : Nat).toUInt32 := by
        rw [hinside rfl 0 le_rfl (by omega), hlast, if_pos (by omega), dataInit_apply data (by omega)]
      refine failsAt_of_runs hwrite hr (by decide) ?_ fun j hj => absurd hj (Nat.not_lt_zero j)
      have h0 := UInt32.toNat_zero
      rw [h0, hfilled, dataInit_apply data (by omega)]
      decide

theorem failsAt_foxtrot1 (hwaits : WaitsReady waiting) {I : Clock → Prop} (h : Timely I rig.sys)
    (hidle : Idle rig.sys.device) (hdest : ∀ i < dataSize.toNat, dest i = 0) :
    FailsAt 256 Foxtrot1.getDriver waiting data dest rig := by
  have hcut : sizeThisPage dataSize (firstRoom storageAddr) = 256 := by decide
  obtain ⟨s₁, s₂, hwrite, hread⟩ :=
    run_roundTrip hwaits h hidle (dataInit data dataSize) dest (inRange_cut storage_inRange) (by decide)
  rw [← writeNand_foxtrot1 _ storage_inRange] at hwrite
  rw [← readNand_foxtrot1 _ storage_inRange, hcut] at hread
  have hindex : (256 : UInt32).toNat = 256 := rfl
  have hsize := dataSize_toNat
  refine failsAt_of_runs hwrite hread (by decide) ?_ fun j hj => ?_
  · rw [hindex, if_neg (Nat.lt_irrefl 256), hdest 256 (by omega)]
    exact dataInit_ne_zero data (by omega)
  · rw [if_pos hj]

/-- The read of the test ends in the middle of an eight. -/
theorem never_alpha5 (hwaits : WaitsReady waiting) {I : Clock → Prop} (h : Timely I rig.sys)
    (hidle : Idle rig.sys.device) (n : Nat) :
    (run (rigEnv (Alpha5.getDriver n) waiting) (stDeterministic data dest) rig).2 = none := by
  obtain ⟨s₁, hwrite, -⟩ := run_writeNand_alpha0 hwaits h hidle (dataInit data dataSize) storage_inRange
  have hsame : writeNand (Alpha5.getDriver n) (dataInit data dataSize) storageAddr dataSize =
      writeNand Alpha0.getDriver (dataInit data dataSize) storageAddr dataSize := writeNand_readBuffer ..
  rw [← hsame] at hwrite
  obtain ⟨l, hw⟩ := rigEnv_write hwrite
  have heights : ¬ EightsOfPages dataSize.toNat (storageAddr.toNat % 256) := fun h8 => absurd h8.1 (by decide)
  rw [stDeterministic]
  dsimp only
  rw [run_bind_of hw, if_neg (not_not.2 rfl)]
  exact rigEnv_never hwaits (.readNand dest storageAddr dataSize) rfl (readNand_alpha5_never n dest heights) _

/-- The write of the test has eight instructions. -/
theorem never_foxtrot2 (hwaits : WaitsReady waiting) (n : Nat) :
    (run (rigEnv (Foxtrot2.getDriver n) waiting) (stDeterministic data dest) rig).2 = none := by
  have hnever : (writeNand (Foxtrot2.getDriver n) (dataInit data dataSize) storageAddr dataSize).Ensures NoTimeout
      fun _ => False := by
    have hwrite : writeNand (Foxtrot2.getDriver n) (dataInit data dataSize) storageAddr dataSize = _ :=
      execWrite_built (Foxtrot2.onInstrs n) _ storage_inRange.1 (by decide)
    have hlen : (appended cProgramSetup writePage storageAddr dataSize).length = _ :=
      appended_length_pageCount cProgramSetup storageAddr dataSize (fun _ _ => rfl) storage_inRange.1
    have hcount : pageCount storageAddr dataSize = 2 := by decide
    rw [hwrite]
    exact (Foxtrot2.onInstrs_never n _ (by rw [hlen, hcount])).bind fun _ hfalse => hfalse.elim
  exact rigEnv_never hwaits (.writeNand _ _ _) rfl hnever _

end

/-- The deterministic test catches five of the flawed drivers: on waits that end with the device ready it
prints the first index that differs and fails with alpha_4, alpha_6 and foxtrot_1, and with alpha_5 and foxtrot_2
it does not return, in however many rounds of their loops. -/
theorem deterministicTest_catches {waiting : Waiting} (hwaits : WaitsReady waiting) (d : Device) (ioregisters : UInt64)
    (clock : Clock) (memory : Nat → Buffer) (data : Buffer) {dest : Buffer}
    (hdest : ∀ i < dataSize.toNat, dest i = 0) :
    FailsAt 296 Alpha4.getDriver waiting data dest (bootRig d ioregisters clock memory) ∧
    FailsAt 0 Alpha6.getDriver waiting data dest (bootRig d ioregisters clock memory) ∧
    FailsAt 256 Foxtrot1.getDriver waiting data dest (bootRig d ioregisters clock memory) ∧
    ∀ n,
      (run (rigEnv (Alpha5.getDriver n) waiting) (stDeterministic data dest)
        (bootRig d ioregisters clock memory)).2 = none ∧
      (run (rigEnv (Foxtrot2.getDriver n) waiting) (stDeterministic data dest)
        (bootRig d ioregisters clock memory)).2 = none := by
  have htimely : Timely (fun _ => True) (bootRig d ioregisters clock memory).sys :=
    timely_boot d ioregisters trivial
  have hidle : Idle (bootRig d ioregisters clock memory).sys.device := idle_boot d ioregisters clock
  exact ⟨failsAt_alpha4 hwaits htimely hidle hdest, failsAt_alpha6 hwaits htimely hidle,
    failsAt_foxtrot1 hwaits htimely hidle hdest,
    fun n => ⟨never_alpha5 hwaits htimely hidle n, never_foxtrot2 hwaits n⟩⟩

theorem deterministicTest_catches_blank :
    FailsAt 296 Alpha4.getDriver waitUntilReady (fun _ => 0) (fun _ => 0)
      (bootRig blankDevice 0 tickingClock fun _ _ => 0) ∧
    FailsAt 0 Alpha6.getDriver waitUntilReady (fun _ => 0) (fun _ => 0)
      (bootRig blankDevice 0 tickingClock fun _ _ => 0) ∧
    FailsAt 256 Foxtrot1.getDriver waitUntilReady (fun _ => 0) (fun _ => 0)
      (bootRig blankDevice 0 tickingClock fun _ _ => 0) ∧
    ∀ n,
      (run (rigEnv (Alpha5.getDriver n) waitUntilReady) (stDeterministic (fun _ => 0) fun _ => 0)
        (bootRig blankDevice 0 tickingClock fun _ _ => 0)).2 = none ∧
      (run (rigEnv (Foxtrot2.getDriver n) waitUntilReady) (stDeterministic (fun _ => 0) fun _ => 0)
        (bootRig blankDevice 0 tickingClock fun _ _ => 0)).2 = none :=
  deterministicTest_catches waitUntilReady_waitsReady blankDevice 0 tickingClock _ _ fun _ _ => rfl

end NandRig.Stack
