/-
The system tests on the stack: framework, a sound driver and the emulated device keep up with the mirror,
so that the tests pass.
-/
import NandRig.Stack.Drivers
import NandRig.Tester.Verdict

namespace NandRig.Stack

open Emulator Framework Driver Interact RingMem Tester

/-! ## The rig -/

/-- Framework, driver and device, and what `malloc()` is going to return. -/
structure Rig where
  sys : Sys
  heap : Nat → Option Buffer

inductive RigTrace
  | machine (e : Trace)
  | printed (report : Report)

/-- A framework call, made by the tester. -/
def onSys {α : Type} (waiting : Waiting) (p : DriverM α) (rig : Rig) : List RigTrace × Option (α × Rig) :=
  ((run (env waiting) p rig.sys).1.map .machine,
    (run (env waiting) p rig.sys).2.map fun x => (x.1, { rig with sys := x.2 }))

/-- What the tester asks, answered by the rig. -/
def rigEnv (driver : NandDriver) (waiting : Waiting) : Env TestOp TestOp.Res RigTrace Rig
  | .malloc _, rig => ([], some (rig.heap 0, { rig with heap := fun i => rig.heap (i + 1) }))
  | .writeNand buffer offset size, rig => onSys waiting (writeNand driver buffer offset size) rig
  | .readNand buffer offset size, rig => onSys waiting (readNand driver buffer offset size) rig
  | .eraseNand offset size, rig => onSys waiting (eraseNand driver offset size) rig
  | .printf report, rig => ([.printed report], some ((), rig))
  | .abort, _ => ([], none)

/-- The start of a run, with memory for all that is asked. -/
def bootRig (d : Device) (ioregisters : UInt64) (clock : Clock) (memory : Nat → Buffer) : Rig :=
  ⟨boot d ioregisters clock, fun i => some (memory i)⟩

/-- The device stands idle with the storage the mirror has. -/
structure InStep (I : Clock → Prop) (m : Mirror) (rig : Rig) : Prop where
  timely : Timely I rig.sys
  idle : Idle rig.sys.device
  storage : rig.sys.device.store.dataStore = m
  memory : ∀ i, (rig.heap i).isSome

theorem inStep_boot {I : Clock → Prop} (d : Device) (ioregisters : UInt64) {clock : Clock} (hclock : I clock)
    (memory : Nat → Buffer) : InStep I (fun _ => 0) (bootRig d ioregisters clock memory) :=
  ⟨timely_boot d ioregisters hclock, idle_boot d ioregisters clock, rfl, fun _ => rfl⟩

section

variable {must : Prop} {waiting : Waiting} {I : Clock → Prop} {driver : NandDriver}

theorem yields_onSys {o : TestOp} {p : DriverM o.Res} {rig : Rig} {Q : o.Res → Sys → Prop}
    (h : Yields must (env waiting) p rig.sys Q) (ho : rigEnv driver waiting o rig = onSys waiting p rig) :
    Yields must (rigEnv driver waiting) (request o) rig fun r rig' => Q r rig'.sys ∧ rig'.heap = rig.heap := by
  have hsys : (onSys waiting p rig).2 = (run (env waiting) p rig.sys).2.map fun x => (x.1, { rig with sys := x.2 }) :=
    rfl
  refine .call (fun hm => ?_) fun r rig' hr => ?_
  · rw [ho, hsys, Option.isSome_map]
    exact h.returns hm
  · rw [ho, hsys] at hr
    obtain ⟨⟨a, s⟩, hrun, hx⟩ := Option.map_eq_some_iff.1 hr
    cases hx
    exact ⟨h.result a s hrun, rfl⟩

/-- A call in range leaves the device in step with the mirror behind its operation. -/
theorem Performs.inStep {call : Call} {ret : Return} {rig rig' : Rig} {m m' : Mirror} {buffer : Option Buffer}
    (h : Performs I call rig.sys ret rig'.sys) (hheap : rig'.heap = rig.heap) (hcall : call.InRange)
    (hstep : InStep I m rig) (hm : call.onMirror m = some (buffer, m')) :
    ret.value = 0 ∧ ret.buffer = buffer ∧ InStep I m' rig' := by
  rw [onMirror_eq hcall] at hm
  cases hm
  refine ⟨h.value, ?_, h.timely, h.idle hcall.not_zeroRead, ?_, ?_⟩
  · rw [h.buffer, hstep.storage]
  · rw [h.storage, hstep.storage]
  · rw [hheap]
    exact hstep.memory

/-- The rig keeps up with the mirror, on waits that keep the law. -/
theorem keepsUp (hdriver : LikeAlpha0 driver) (hlaw : WaitLaw waiting I) (hmust : must → WaitsReady waiting) :
    KeepsUp must (rigEnv driver waiting) (InStep I) where
  malloc {m rig} size h := by
    refine .call (fun _ => rfl) fun memory rig' hr => ?_
    cases hr
    exact ⟨h.memory 0, h.timely, h.idle, h.storage, fun i => h.memory (i + 1)⟩
  printf {m rig} report h := by
    refine .call (fun _ => rfl) fun _ rig' hr => ?_
    cases hr
    exact h
  write {m m' rig offset size} buffer hrange h hm := by
    have hmirror : (Call.write buffer offset size).onMirror m = some (none, m') := by
      rw [Call.onMirror, hm]
      rfl
    have hcall := yields_through hdriver hlaw hmust (.write buffer offset size) hrange h.timely h.idle
    refine (yields_onSys hcall.of_map rfl).mono fun result rig' hr => ?_
    have hstep := hr.1.inStep hr.2 hrange h hmirror
    exact ⟨hstep.1, hstep.2.2⟩
  read {m rig offset size} buffer hrange h := by
    have hcall := yields_through hdriver hlaw hmust (.read buffer offset size) hrange h.timely h.idle
    refine (yields_onSys hcall.of_map rfl).mono fun result rig' hr => ?_
    obtain ⟨hzero, hbuffer, hstep⟩ := hr.1.inStep hr.2 hrange h rfl
    refine ⟨hzero, fun i hi => ?_, hstep⟩
    have hread : result.1 = readMirror buffer offset size m := Option.some.inj hbuffer
    rw [hread, readMirror_eq]
    exact if_pos hi
  erase {m m' rig offset size} hrange h hm := by
    have hmirror : (Call.erase offset size).onMirror m = some (none, m') := by
      rw [Call.onMirror, hm]
      rfl
    have hcall := yields_through hdriver hlaw hmust (.erase offset size) hrange h.timely h.idle
    refine (yields_onSys hcall.of_map rfl).mono fun result rig' hr => ?_
    have hstep := hr.1.inStep hr.2 hrange h hmirror
    exact ⟨hstep.1, hstep.2.2⟩

end

/-! ## The tests pass -/

/-- With alpha_0, foxtrot_0 or kilo_0, and waits that end with the device ready, both system tests return 0:
the deterministic one, which leaves the storage erased, and any number of stochastic ones whose draws fail no
assertion of the tests themselves. The storage of the device is then the mirror. -/
theorem systemTests_pass {driver : NandDriver} (hdriver : SoundDriver driver)
    {waiting : Waiting} (hwaits : WaitsReady waiting) (d : Device) (ioregisters : UInt64) (clock : Clock)
    (memory : Nat → Buffer) (data dest : Buffer) (numTests : Nat) (results : Results)
    (hinside : AllInside (numOps * numTests) results) :
    (∃ rig, (run (rigEnv driver waiting) (stDeterministic data dest) (bootRig d ioregisters clock memory)).2 =
      some (0, rig) ∧ rig.sys.device.store.dataStore = fun _ => 0) ∧
    ∃ st rig, (run (rigEnv driver waiting) (stStochastic numTests ⟨fun _ => 0, results⟩)
        (bootRig d ioregisters clock memory)).2 = some ((0, st), rig) ∧
      rig.sys.device.store.dataStore = st.mirror := by
  have hkeeps : KeepsUp True (rigEnv driver waiting) (InStep fun _ => True) :=
    keepsUp hdriver.likeAlpha0 hwaits.law fun _ => hwaits
  have hboot : InStep (fun _ => True) (fun _ => 0) (bootRig d ioregisters clock memory) :=
    inStep_boot d ioregisters trivial memory
  constructor
  · obtain ⟨hreturns, hresult⟩ := hkeeps.yields_stDeterministic hboot data dest
    obtain ⟨⟨result, rig⟩, hrun⟩ := Option.isSome_iff_exists.1 (hreturns trivial)
    obtain ⟨rfl, hstep⟩ := hresult result rig hrun
    exact ⟨rig, hrun, hstep.storage⟩
  · obtain ⟨hreturns, hresult⟩ := hkeeps.yields_stStochastic ⟨fun _ => 0, results⟩ hboot fun _ => hinside
    obtain ⟨⟨⟨result, st⟩, rig⟩, hrun⟩ := Option.isSome_iff_exists.1 (hreturns trivial)
    obtain ⟨hzero, hstep⟩ := hresult _ rig hrun
    dsimp only at hzero
    subst hzero
    exact ⟨st, rig, hrun, hstep.storage⟩

/-- Both tests with kilo_0, and the same numbers drawn over and over. -/
theorem systemTests_pass_kilo :
    (∃ rig, (run (rigEnv kiloGetDriver waitUntilReady) (stDeterministic (fun _ => 0) fun _ => 0)
      (bootRig blankDevice 0 tickingClock fun _ _ => 0)).2 = some (0, rig) ∧
        rig.sys.device.store.dataStore = fun _ => 0) ∧
    ∃ st rig, (run (rigEnv kiloGetDriver waitUntilReady) (stStochastic 100 ⟨fun _ => 0, fun _ => 5⟩)
        (bootRig blankDevice 0 tickingClock fun _ _ => 0)).2 = some ((0, st), rig) ∧
      rig.sys.device.store.dataStore = st.mirror :=
  systemTests_pass (.inr (.inr rfl)) waitUntilReady_waitsReady blankDevice 0 tickingClock _ _ _ 100 _
    fun _ _ => by decide

/-- On the waits of alpha_0 nothing is assumed but the clock and the memory: a test that returns returns 0. -/
theorem systemTests_never_fail {driver : NandDriver} (hdriver : SoundDriver driver)
    (fuel : Nat) (d : Device) (ioregisters : UInt64) {clock : Clock} (hclock : ClockOk clock)
    (memory : Nat → Buffer) (data dest : Buffer) (numTests : Nat) (results : Results) :
    (∀ result rig, (run (rigEnv driver (nandWait fuel)) (stDeterministic data dest)
        (bootRig d ioregisters clock memory)).2 = some (result, rig) →
      result = 0 ∧ rig.sys.device.store.dataStore = fun _ => 0) ∧
    ∀ result st rig, (run (rigEnv driver (nandWait fuel)) (stStochastic numTests ⟨fun _ => 0, results⟩)
        (bootRig d ioregisters clock memory)).2 = some ((result, st), rig) →
      result = 0 ∧ rig.sys.device.store.dataStore = st.mirror := by
  have hkeeps : KeepsUp False (rigEnv driver (nandWait fuel)) (InStep ClockOk) :=
    keepsUp hdriver.likeAlpha0 (nandWait_law fuel) False.elim
  have hboot := inStep_boot d ioregisters hclock memory
  constructor
  · intro result rig hrun
    obtain ⟨hzero, hstep⟩ := (hkeeps.yields_stDeterministic hboot data dest).result result rig hrun
    exact ⟨hzero, hstep.storage⟩
  · intro result st rig hrun
    obtain ⟨hzero, hstep⟩ :=
      (hkeeps.yields_stStochastic ⟨fun _ => 0, results⟩ hboot False.elim).result _ rig hrun
    exact ⟨hzero, hstep.storage⟩

theorem systemTests_never_fail_ticking :
    (∀ result rig, (run (rigEnv Alpha0.getDriver (nandWait 100)) (stDeterministic (fun _ => 0) fun _ => 0)
        (bootRig blankDevice 0 tickingClock fun _ _ => 0)).2 = some (result, rig) →
      result = 0 ∧ rig.sys.device.store.dataStore = fun _ => 0) ∧
    ∀ result st rig, (run (rigEnv Alpha0.getDriver (nandWait 100)) (stStochastic 3 ⟨fun _ => 0, fun _ => 5⟩)
        (bootRig blankDevice 0 tickingClock fun _ _ => 0)).2 = some ((result, st), rig) →
      result = 0 ∧ rig.sys.device.store.dataStore = st.mirror :=
  systemTests_never_fail (.inl rfl) 100 blankDevice 0 tickingClock_ok _ _ _ 3 _

end NandRig.Stack
