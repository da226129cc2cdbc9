/-
The stack with any driver that makes of a call what alpha_0 makes of it: foxtrot_0 and kilo_0, by the
instructions the framework builds for their interpreter.
-/
import NandRig.Driver.KiloFamily
import NandRig.Lib.Transcript
import NandRig.Stack.Refinement

namespace NandRig.Stack

open Emulator Framework Driver Interact Tester

/-! ## Calls through any driver -/

/-- The call, with the driver the rig is built with. -/
def Call.through (driver : NandDriver) : Call → DriverM Return
  | .write buffer offset size => do
    let value ← writeNand driver buffer offset size
    pure ⟨value, none⟩
  | .read buffer offset size => do
    let filled ← readNand driver buffer offset size
    pure ⟨filled.2, some filled.1⟩
  | .erase offset size => do
    let value ← eraseNand driver offset size
    pure ⟨value, none⟩

/-- The calls one after the other, whatever they return. -/
def allThrough (driver : NandDriver) : List Call → DriverM (List Return)
  | [] => pure []
  | call :: calls => do
    let ret ← call.through driver
    let rets ← allThrough driver calls
    pure (ret :: rets)

/-- The driver makes of each call in range what alpha_0 makes of it. -/
def LikeAlpha0 (driver : NandDriver) : Prop := ∀ call : Call, call.InRange → call.through driver = call.perform

theorem likeAlpha0_alpha0 : LikeAlpha0 Alpha0.getDriver := by
  rintro (_ | _ | _) _ <;> rfl

theorem likeAlpha0_foxtrot0 : LikeAlpha0 Foxtrot0.getDriver := by
  rintro (⟨buffer, offset, size⟩ | ⟨buffer, offset, size⟩ | ⟨offset, size⟩) h
  · have hwrite : writeNand Foxtrot0.getDriver buffer offset size = writeNand Alpha0.getDriver buffer offset size :=
      execWrite_eq buffer h.1 (by have := h.2; omega)
    rw [Call.through, Call.perform, hwrite]
  · have hread : readNand Foxtrot0.getDriver buffer offset size = readNand Alpha0.getDriver buffer offset size :=
      execRead_eq buffer h.1 (by have := h.2; omega)
    rw [Call.through, Call.perform, hread]
  · have herase : eraseNand Foxtrot0.getDriver offset size = eraseNand Alpha0.getDriver offset size :=
      execErase_eq offset size
    rw [Call.through, Call.perform, herase]

theorem LikeAlpha0.allThrough_eq {driver : NandDriver} (h : LikeAlpha0 driver) {calls : List Call}
    (hcalls : ∀ call ∈ calls, call.InRange) : allThrough driver calls = performAll calls := by
  induction calls with
  | nil => rfl
  | cons call calls ih =>
    rw [allThrough, performAll, h call (hcalls call List.mem_cons_self),
      ih fun c hc => hcalls c (List.mem_cons_of_mem _ hc)]

/-- The drivers of the corpus without a flaw. -/
def SoundDriver (driver : NandDriver) : Prop :=
  driver = Alpha0.getDriver ∨ driver = Foxtrot0.getDriver ∨ driver = kiloGetDriver

theorem SoundDriver.likeAlpha0 {driver : NandDriver} (h : SoundDriver driver) : LikeAlpha0 driver := by
  rcases h with rfl | rfl | rfl
  · exact likeAlpha0_alpha0
  · exact likeAlpha0_foxtrot0
  -- kilo_0 repeats the interpreter of foxtrot_0
  · exact likeAlpha0_foxtrot0

/-- A call in range succeeds, with any such driver. -/
theorem yields_through {must : Prop} {waiting : Waiting} {I : Clock → Prop} {driver : NandDriver}
    (hdriver : LikeAlpha0 driver) (hlaw : WaitLaw waiting I) (hmust : must → WaitsReady waiting)
    (call : Call) (hcall : call.InRange) {s : Sys} (h : Timely I s) (hidle : Idle s.device) :
    Yields must (env waiting) (call.through driver) s fun ret s' => Performs I call s ret s' := by
  obtain ⟨haccepted, hresult⟩ := always_accepted hlaw call h hidle
  rw [hdriver call hcall]
  exact ⟨fun hm => (hmust hm).returns (noAbort_perform call) haccepted, hresult⟩

/-- A write through alpha_0 stores what the mirror stores. -/
theorem run_writeNand_alpha0 {waiting : Waiting} (hwaits : WaitsReady waiting) {I : Clock → Prop} {s : Sys}
    (h : Timely I s) (hidle : Idle s.device) (buffer : Buffer) {offset size : UInt32}
    (hrange : Tester.InRange offset size) :
    ∃ s', (run (env waiting) (writeNand Alpha0.getDriver buffer offset size) s).2 = some (0, s') ∧
      Timely (fun _ => True) s' ∧ Idle s'.device ∧
      writeMirror buffer offset size s.device.store.dataStore = some s'.device.store.dataStore := by
  have hcall : Yields True (env waiting) ((Call.write buffer offset size).through Alpha0.getDriver) s
      fun ret s' => Performs (fun _ => True) (.write buffer offset size) s ret s' :=
    yields_through likeAlpha0_alpha0 hwaits.law (fun _ => hwaits) (.write buffer offset size) hrange
      ⟨h.inStorage, trivial, h.ready⟩ hidle
  obtain ⟨hreturns, hresult⟩ := hcall.of_map
  obtain ⟨⟨value, s'⟩, hwrite⟩ := Option.isSome_iff_exists.1 (hreturns trivial)
  obtain ⟨htimely, hzero, hstate, hstorage, -⟩ := hresult value s' hwrite
  dsimp only at hzero
  subst hzero
  refine ⟨s', hwrite, htimely, .inr ⟨.program, hstate⟩, ?_⟩
  rw [writeMirror_written buffer hrange, hstorage]
  rfl

/-- A read through alpha_0 hands out what the storage holds. -/
theorem run_readNand_alpha0 {waiting : Waiting} (hwaits : WaitsReady waiting) {I : Clock → Prop} {s : Sys}
    (h : Timely I s) (hidle : Idle s.device) (buffer : Buffer) {offset size : UInt32}
    (hrange : Tester.InRange offset size) :
    ∃ s', (run (env waiting) (readNand Alpha0.getDriver buffer offset size) s).2 =
      some ((readMirror buffer offset size s.device.store.dataStore, 0), s') := by
  have hcall : Yields True (env waiting) ((Call.read buffer offset size).through Alpha0.getDriver) s
      fun ret s' => Performs (fun _ => True) (.read buffer offset size) s ret s' :=
    yields_through likeAlpha0_alpha0 hwaits.law (fun _ => hwaits) (.read buffer offset size) hrange
      ⟨h.inStorage, trivial, h.ready⟩ hidle
  obtain ⟨hreturns, hresult⟩ := hcall.of_map
  obtain ⟨⟨x, s'⟩, hread⟩ := Option.isSome_iff_exists.1 (hreturns trivial)
  have hperforms := hresult x s' hread
  have hbuffer : x.1 = readMirror buffer offset size s.device.store.dataStore := by
    rw [readMirror_eq]
    exact Option.some.inj hperforms.buffer
  exact ⟨s', by rw [hread, ← hbuffer, ← hperforms.value]⟩

/-- In range, the calls return, with device and mirror in step. -/
theorem performAll_mirrored {waiting : Waiting} (hwaits : WaitsReady waiting) (d₀ : Device) (ioregisters : UInt64)
    (clock : Clock) {calls : List Call} (hcalls : ∀ call ∈ calls, call.InRange) :
    ∃ rets s, (run (env waiting) (performAll calls) (boot d₀ ioregisters clock)).2 = some (rets, s) ∧
      Mirrored (fun _ => True) calls (fun _ => 0) rets s := by
  have h := always_mirrored hwaits.law hcalls (timely_boot d₀ ioregisters (c := clock) trivial)
    (idle_boot d₀ ioregisters clock)
  obtain ⟨⟨rets, s⟩, hs⟩ := Option.isSome_iff_exists.1 (hwaits.returns (noAbort_performAll calls) h.events)
  exact ⟨rets, s, hs, h.result rets s hs⟩

/-- Through the driver, the calls all return 0, and leave the storage and the buffers that the operations on
the mirror leave. -/
def RefinesMirror (waiting : Waiting) (driver : NandDriver) (start : Sys) (calls : List Call) : Prop :=
  ∃ rets s buffers mirror, (run (env waiting) (allThrough driver calls) start).2 = some (rets, s) ∧
    mirrorAll calls (fun _ => 0) = some (buffers, mirror) ∧ s.device.store.dataStore = mirror ∧
    rets.map Return.buffer = buffers ∧ ∀ ret ∈ rets, ret.value = 0

theorem refinesMirror_of_eq {waiting : Waiting} (hwaits : WaitsReady waiting) (d₀ : Device) (ioregisters : UInt64)
    (clock : Clock) {driver : NandDriver} {calls : List Call} (hcalls : ∀ call ∈ calls, call.InRange)
    (h : allThrough driver calls = performAll calls) :
    RefinesMirror waiting driver (boot d₀ ioregisters clock) calls := by
  obtain ⟨rets, s, hs, hend⟩ := performAll_mirrored hwaits d₀ ioregisters clock hcalls
  exact ⟨rets, s, _, _, by rw [h, hs], hend.mirror, rfl, rfl, hend.values⟩

/-- Storage refinement with any sound driver, in particular with the interpreters: every sequence of framework
calls in range returns, each call with 0; the storage of the device is then the mirror, and each read has
filled its buffer with the bytes the mirror hands out. -/
theorem soundDriver_refines_mirror {driver : NandDriver} (hdriver : SoundDriver driver) {waiting : Waiting}
    (hwaits : WaitsReady waiting) (d₀ : Device) (ioregisters : UInt64) (clock : Clock) {calls : List Call}
    (hcalls : ∀ call ∈ calls, call.InRange) :
    RefinesMirror waiting driver (boot d₀ ioregisters clock) calls :=
  refinesMirror_of_eq hwaits d₀ ioregisters clock hcalls (hdriver.likeAlpha0.allThrough_eq hcalls)

/-- Through the interpreter of kilo_0: a write that ends behind the device's last byte, and a read across its end. -/
theorem soundDriver_refines_mirror_kilo :
    RefinesMirror waitUntilReady kiloGetDriver (boot blankDevice 0 tickingClock)
      [.write (fun i => i.toUInt8) 16777000 300, .read (fun _ => 0) 16776960 400] :=
  soundDriver_refines_mirror (.inr (.inr rfl)) waitUntilReady_waitsReady blankDevice 0 tickingClock
    (by simp [Call.InRange, Tester.InRange])

end NandRig.Stack
