/-
The stack with the drivers whose waits are flawed. On the emulated device alpha_1 and alpha_7 wait as alpha_0
does, since what they leave out is sleep; alpha_2 and alpha_8 do not return but from a device that is ready. So the
system tests find none of these flaws, which are left to the unit test.
-/
import NandRig.Driver.FlawedWaits
import NandRig.Lib.Ghost
import NandRig.Stack.Polling
import NandRig.Stack.SystemTests

namespace NandRig.Stack

open Emulator Framework Driver Interact Tester Wait

/-! ## Waits on the device, call by call -/

section

variable (d : Device) (c : Clock)

theorem waited_pure (r : Int) : waited d (pure (some r)) c = some (r, c) := rfl

theorem waited_now (f : TimeUs → WaitM (Option Int)) : waited d (now >>= f) c = waited d (f (c 0)) (c.after 1) := by
  unfold waited
  rw [run_bind, now, run_call]
  rfl

theorem waited_usleep (us : UInt32) (f : Unit → WaitM (Option Int)) :
    waited d (usleep us >>= f) c = waited d (f ()) c := by
  unfold waited
  rw [run_bind, usleep, run_call]
  rfl

theorem waited_gpioGet (f : UInt32 → WaitM (Option Int)) :
    waited d (gpioGet pnStatus.toUInt32 >>= f) c =
      waited d (f (gpioGetStatus d pnStatus.toUInt32 (c 0))) (c.after 1) := by
  unfold waited
  rw [run_bind, gpioGet, run_call]
  rfl

theorem waited_lastPoll : waited d lastPoll c = some (if pollReady d (c 0) then 0 else -1, c.after 1) := by
  rw [lastPoll, waited_gpioGet, waited_pure]
  simp only [gpioGetStatus_ready]

end

/-! ## alpha_0, alpha_1 and alpha_7 -/

/-- A pause that takes no reading goes unnoticed. -/
theorem waited_pollLoop {d : Device} {pause : WaitM Unit}
    (hpause : ∀ c f, waited d (pause >>= f) c = waited d (f ()) c) (timeout : TimeUs) :
    ∀ (fuel : Nat) (c : Clock), waited d (pollLoop pause timeout fuel) c = nandWaitLoop d timeout fuel c
  | 0, _ => rfl
  | fuel + 1, c => by
    rw [pollLoop, nandWaitLoop, waited_gpioGet]
    by_cases h0 : pollReady d (c 0) = true
    · rw [if_pos h0, if_pos (gpioGetStatus_ready.2 h0), waited_pure]
    · rw [if_neg h0, if_neg (fun h => h0 (gpioGetStatus_ready.1 h)), hpause, waited_now]
      by_cases h1 : c 1 < timeout
      · rw [if_pos h1, if_pos (show c.after 1 0 < timeout from h1), Clock.after_after]
        exact waited_pollLoop hpause timeout fuel (c.after 2)
      · rw [if_neg h1, if_neg (show ¬ c.after 1 0 < timeout from h1), Clock.after_after, waited_lastPoll,
          Clock.after_after]
        rfl

theorem waited_pollWait {d : Device} {pause : WaitM Unit}
    (hpause : ∀ c f, waited d (pause >>= f) c = waited d (f ()) c) (fuel : Nat) (intervalUs : UInt32) (c : Clock) :
    waited d (pollWait pause fuel intervalUs) c = nandWait fuel intervalUs d c := by
  rw [pollWait, waited_now, waited_pollLoop hpause]
  rfl

/-- The wait of the composed system is the wait of the driver. -/
theorem waited_nandWait (d : Device) (fuel : Nat) (intervalUs : UInt32) (c : Clock) :
    waited d (Wait.nandWait fuel intervalUs) c = nandWait fuel intervalUs d c := by
  rw [← pollWait_usleep]
  exact waited_pollWait (fun c f => waited_usleep d c _ f) fuel intervalUs c

theorem waited_alpha1 (d : Device) (fuel : Nat) (intervalUs : UInt32) (c : Clock) :
    waited d (Alpha1.nandWait fuel intervalUs) c = nandWait fuel intervalUs d c :=
  waited_pollWait (fun _ _ => rfl) fuel intervalUs c

theorem waited_alpha7 (d : Device) (curCmd : UInt8) (fuel : Nat) (intervalUs : UInt32) (c : Clock) :
    waited d (Alpha7.nandWait curCmd fuel intervalUs) c = nandWait fuel intervalUs d c := by
  rw [Alpha7.nandWait]
  split_ifs
  · rw [pollWait_usleep]
    exact waited_nandWait d fuel intervalUs c
  · exact waited_alpha1 d fuel intervalUs c

/-! ## alpha_2 and alpha_8 -/

/-- A wait that has returned: with 0, and the device ready from now on. -/
abbrev LeavesReady (d : Device) (x : Option (Int × Clock)) : Prop :=
  ∀ r c, x = some (r, c) → r = 0 ∧ Ready d c ∧ ClockOk c

theorem leavesReady_now {d : Device} {c : Clock} (hc : ClockOk c) {n : Nat} (h : d.deadline.toNat ≤ (c n).toNat) :
    LeavesReady d (some (0, c.after (n + 1))) := by
  intro r c' hr
  cases hr
  exact ⟨rfl, hc.ready_of_le h (Nat.le_succ n), hc.after (n + 1)⟩

theorem alpha2_leavesReady (d : Device) (intervalUs : UInt32) :
    ∀ (fuel : Nat) {c : Clock}, ClockOk c → LeavesReady d (waited d (Alpha2.nandWait fuel intervalUs) c)
  | 0, _, _ => nofun
  | fuel + 1, c, hc => by
    rw [Alpha2.nandWait, waited_gpioGet]
    by_cases h0 : pollReady d (c 0) = true
    · rw [if_neg (fun h => h (gpioGetStatus_ready.2 h0)), waited_pure]
      exact leavesReady_now hc (pollReady_iff.1 h0)
    · rw [if_pos (fun h => h0 (gpioGetStatus_ready.1 h)), waited_usleep]
      exact alpha2_leavesReady d intervalUs fuel (hc.after 1)

theorem alpha8_eraseLoop_leavesReady (d : Device) : ∀ (fuel : Nat) {c : Clock} (t : TimeUs), ClockOk c →
    t.toNat ≤ (c 0).toNat →
    LeavesReady d (waited d (Alpha8.eraseLoop fuel (gpioGetStatus d pnStatus.toUInt32 t)) c)
  | 0, _, _, _, _ => nofun
  | fuel + 1, c, t, hc, ht => by
    rw [Alpha8.eraseLoop]
    by_cases h0 : pollReady d t = true
    · rw [if_neg (fun h => h (gpioGetStatus_ready.2 h0)), waited_pure]
      intro r c' hr
      cases hr
      have hready : Ready d (c.after 0) := hc.ready_of_le ((pollReady_iff.1 h0).trans ht) le_rfl
      exact ⟨rfl, fun i => Nat.zero_add i ▸ hready i, hc⟩
    · rw [if_pos (fun h => h0 (gpioGetStatus_ready.1 h)), waited_usleep, waited_gpioGet]
      exact alpha8_eraseLoop_leavesReady d fuel (c 0) (hc.after 1) (hc.mono (by omega))

/-- The loop ends on a ready device, when the deadline is not after the timeout or the first poll. -/
theorem alpha8_leavesReady (d : Device) (curCmd : UInt8) (timeout : TimeUs) : ∀ (fuel : Nat) {c : Clock}, ClockOk c →
    d.deadline.toNat ≤ timeout.toNat ∨ d.deadline.toNat ≤ (c 0).toNat →
    LeavesReady d (waited d (Alpha8.nandWaitLoop curCmd timeout fuel) c)
  | 0, _, _, _ => nofun
  | fuel + 1, c, hc, hd => by
    have h01 : (c 0).toNat ≤ (c 1).toNat := hc.mono (Nat.zero_le 1)
    have h12 : (c 1).toNat ≤ (c 2).toNat := hc.mono (by omega)
    have hsecond : c.after 1 0 = c 1 := rfl
    rw [Alpha8.nandWaitLoop, waited_now]
    by_cases ht : c 0 < timeout
    · rw [if_pos ht, waited_gpioGet, Clock.after_after, hsecond]
      by_cases hcmd : curCmd = cEraseExecute.toUInt8
      · rw [if_pos hcmd]
        exact alpha8_eraseLoop_leavesReady d fuel (c 1) (hc.after 2) h12
      · rw [if_neg hcmd]
        by_cases h0 : pollReady d (c 1) = true
        · rw [if_pos (gpioGetStatus_ready.2 h0), waited_pure]
          exact leavesReady_now hc (pollReady_iff.1 h0)
        · rw [if_neg (fun h => h0 (gpioGetStatus_ready.1 h)), waited_usleep]
          refine alpha8_leavesReady d curCmd timeout fuel (hc.after 2) (hd.imp_right fun hd => ?_)
          exact hd.trans (h01.trans h12)
    · -- the last poll is made at a reading behind the timeout
      rw [UInt64.lt_iff_toNat_lt] at ht
      have h1 : d.deadline.toNat ≤ (c 1).toNat := by omega
      rw [if_neg (by rwa [UInt64.lt_iff_toNat_lt]), waited_lastPoll, hsecond, if_pos (pollReady_iff.2 h1),
        Clock.after_after]
      exact leavesReady_now hc h1

/-! ## The law -/

theorem alpha2_law (fuel : Nat) : WaitLaw (fun us d c => waited d (Alpha2.nandWait fuel us) c) ClockOk where
  after n h := h.after n
  ready hc _ h := alpha2_leavesReady _ _ fuel hc _ _ h
  executed hc _ h := alpha2_leavesReady _ _ fuel (hc.after 2) _ _ h

/-- Whatever command the driver thinks of. -/
theorem alpha8_law (curCmd : UInt32 → UInt8) (fuel : Nat) :
    WaitLaw (fun us d c => waited d (Alpha8.nandWait (curCmd us) fuel us) c) ClockOk where
  after n h := h.after n
  ready {us d c r c'} hc hready h := by
    rw [Alpha8.nandWait, waited_now] at h
    have h1 : d.deadline.toNat ≤ (c.after 1 0).toNat := by
      rw [← beforeDeadline_eq_false]
      exact hready 1
    exact alpha8_leavesReady d _ _ fuel (hc.after 1) (.inr h1) _ _ h
  executed {k d c r c'} hc hd h := by
    rw [Alpha8.nandWait, waited_now] at h
    exact alpha8_leavesReady d _ _ fuel ((hc.after 2).after 1) (.inl (deadline_le_timeout hc hd)) _ _ h

/-! ## The last command -/

/-- The stack with a driver that keeps the last command it has written in `cur_cmd`, for its waits. -/
def commandEnv (waiting : UInt8 → Waiting) : Env Op Op.Res Trace (Sys × UInt8)
  | .store offset value, x =>
    let (l, r) := env (waiting x.2) (.store offset value) x.1
    (l, r.map fun y => (y.1, y.2, if offset = ioregCommand then value else x.2))
  | .load, x =>
    let (l, r) := env (waiting x.2) .load x.1
    (l, r.map fun y => (y.1, y.2, x.2))
  | .wait intervalUs, x =>
    let (l, r) := env (waiting x.2) (.wait intervalUs) x.1
    (l, r.map fun y => (y.1, y.2, x.2))
  | .abort, _ => ([], none)

/-- A wait comes with the EXECUTE of its kind as the last command. -/
def Announced (curCmd : UInt8) : Op → Prop
  | .wait intervalUs => ∃ k : Kind, intervalUs = timeoutOf k ∧ curCmd = k.execute.toUInt8
  | _ => True

def Recorded (curCmd : UInt8) (o : Op) (curCmd' : UInt8) : Prop :=
  match o with
  | .store offset value => curCmd' = if offset = ioregCommand then value else curCmd
  | _ => curCmd' = curCmd

abbrev Announces {α : Type} (p : DriverM α) (curCmd : UInt8) : Prop := p.Obeys Announced Recorded curCmd

theorem announces_store {α : Type} {offset value curCmd : UInt8} {f : Unit → DriverM α}
    (hf : ∀ curCmd', Announces (f ()) curCmd') : Announces (ask (.store offset value) >>= f) curCmd :=
  ⟨trivial, fun _ curCmd' _ => hf curCmd'⟩

/-- An EXECUTE and the wait behind it. -/
theorem announces_execute {α : Type} {curCmd : UInt8} (k : Kind) {f : Int → DriverM α}
    (hf : ∀ r curCmd', Announces (f r) curCmd') :
    Announces (ask (.store ioregCommand k.execute.toUInt8) >>= fun _ => ask (.wait (timeoutOf k)) >>= f) curCmd := by
  refine ⟨trivial, fun _ curCmd' hrecorded => ⟨⟨k, rfl, ?_⟩, fun r curCmd'' _ => hf r curCmd''⟩⟩
  exact hrecorded

theorem announces_ite {α : Type} {p : Prop} [Decidable p] {x y : DriverM α} {curCmd : UInt8} (hx : Announces x curCmd)
    (hy : Announces y curCmd) : Announces (if p then x else y) curCmd := by
  split_ifs
  · exact hx
  · exact hy

theorem announces_nandProgram (buffer : Buffer) (pos : Nat) (length : UInt32) (curCmd : UInt8) :
    Announces (Alpha0.nandProgram buffer pos length) curCmd := by
  induction pos, length using Alpha0.nandProgram.induct generalizing curCmd with
  | case1 pos =>
    rw [Alpha0.nandProgram, dif_pos rfl]
    trivial
  | case2 pos length hne ih =>
    rw [Alpha0.nandProgram, dif_neg hne]
    exact announces_store ih

theorem announces_nandRead (buffer : Buffer) (pos : Nat) (length : UInt32) (curCmd : UInt8) :
    Announces (Alpha0.nandRead buffer pos length) curCmd := by
  induction buffer, pos, length using Alpha0.nandRead.induct generalizing curCmd with
  | case1 buffer pos =>
    rw [Alpha0.nandRead, dif_pos rfl]
    trivial
  | case2 buffer pos length hne ih =>
    rw [Alpha0.nandRead, dif_neg hne]
    exact ⟨trivial, fun byte curCmd' _ => ih byte curCmd'⟩

theorem announces_jtWriteLoop (buffer : Buffer) (bytesLeft cursor : UInt32) (byteAddr curCmd : UInt8) :
    Announces (jtWriteLoop Alpha0.jumpTable buffer bytesLeft cursor byteAddr) curCmd := by
  induction bytesLeft, cursor, byteAddr using jtWriteLoop.induct generalizing curCmd with
  | case1 cursor byteAddr =>
    rw [jtWriteLoop, dif_pos rfl]
    trivial
  | case2 bytesLeft cursor byteAddr hne size ih =>
    rw [jtWriteLoop, dif_neg hne]
    refine (announces_nandProgram ..).bind fun _ curCmd' => ?_
    exact announces_execute .program fun r curCmd'' => announces_ite trivial (ih curCmd'')

theorem announces_jtReadLoop (buffer : Buffer) (bytesLeft cursor : UInt32) (byteAddr curCmd : UInt8) :
    Announces (jtReadLoop Alpha0.jumpTable buffer bytesLeft cursor byteAddr) curCmd := by
  induction buffer, bytesLeft, cursor, byteAddr using jtReadLoop.induct generalizing curCmd with
  | case1 buffer cursor byteAddr =>
    rw [jtReadLoop, dif_pos rfl]
    trivial
  | case2 buffer bytesLeft cursor byteAddr hne ih =>
    rw [jtReadLoop, dif_neg hne]
    refine announces_execute .read fun r curCmd' => announces_ite trivial ?_
    exact (announces_nandRead ..).bind ih

theorem announces_jtEraseLoop (numBlocks b : UInt32) (curCmd : UInt8) :
    Announces (jtEraseLoop Alpha0.jumpTable numBlocks b) curCmd := by
  induction b using jtEraseLoop.induct numBlocks generalizing curCmd with
  | case1 b hlt ih =>
    rw [jtEraseLoop, dif_pos hlt]
    exact announces_execute .erase fun r curCmd' => announces_ite trivial (ih curCmd')
  | case2 b hge =>
    rw [jtEraseLoop, dif_neg hge]
    trivial

theorem announces_writeNand (buffer : Buffer) (offset size : UInt32) (curCmd : UInt8) :
    Announces (writeNand Alpha0.getDriver buffer offset size) curCmd :=
  announces_store fun _ => announces_store fun _ => announces_store fun _ => announces_store fun _ =>
    announces_jtWriteLoop ..

theorem announces_readNand (buffer : Buffer) (offset size : UInt32) (curCmd : UInt8) :
    Announces (readNand Alpha0.getDriver buffer offset size) curCmd :=
  announces_store fun _ => announces_store fun _ => announces_store fun _ => announces_store fun _ =>
    announces_jtReadLoop ..

theorem announces_eraseNand (offset size : UInt32) (curCmd : UInt8) :
    Announces (eraseNand Alpha0.getDriver offset size) curCmd :=
  announces_store fun _ => announces_store fun _ => announces_jtEraseLoop ..

/-- The command that a wait is announced with. -/
def announcement (intervalUs : UInt32) : UInt8 :=
  if intervalUs = timeoutReadPageUs then cReadExecute.toUInt8
  else if intervalUs = timeoutWritePageUs then cProgramExecute.toUInt8
  else cEraseExecute.toUInt8

theorem announcement_timeoutOf (k : Kind) : announcement (timeoutOf k) = k.execute.toUInt8 := by
  cases k <;> decide

theorem commandEnv_haunts (waiting : UInt8 → Waiting) :
    Haunts (env fun us => waiting (announcement us) us) (commandEnv waiting) Announced Recorded where
  events {o s curCmd} ho := by
    cases o with
    | wait us =>
      obtain ⟨k, rfl, rfl⟩ := ho
      rw [← announcement_timeoutOf]
      rfl
    | store offset value => rfl
    | load => rfl
    | abort => rfl
  answer {o s curCmd} ho := by
    cases o with
    | wait us =>
      obtain ⟨k, rfl, rfl⟩ := ho
      rw [← announcement_timeoutOf]
      exact forget_map _ _
    | store offset value => exact forget_map _ _
    | load => exact forget_map _ _
    | abort => rfl
  moves {o s curCmd r s' curCmd'} _ h := by
    cases o with
    | abort => cases h
    | store offset value =>
      obtain ⟨y, -, hy⟩ := Option.map_eq_some_iff.1 h
      cases hy
      rfl
    | load =>
      obtain ⟨y, -, hy⟩ := Option.map_eq_some_iff.1 h
      cases hy
      rfl
    | wait us =>
      obtain ⟨y, -, hy⟩ := Option.map_eq_some_iff.1 h
      cases hy
      rfl

/-! ## The tests on the rig -/

/-- A framework call, made by the tester. -/
def onCommandSys {α : Type} (waiting : UInt8 → Waiting) (p : DriverM α) (x : Rig × UInt8) :
    List RigTrace × Option (α × Rig × UInt8) :=
  ((run (commandEnv waiting) p (x.1.sys, x.2)).1.map .machine,
    (run (commandEnv waiting) p (x.1.sys, x.2)).2.map fun y => (y.1, { x.1 with sys := y.2.1 }, y.2.2))

/-- The rig with a driver that keeps its last command. -/
def commandRigEnv (driver : NandDriver) (waiting : UInt8 → Waiting) : Env TestOp TestOp.Res RigTrace (Rig × UInt8)
  | .writeNand buffer offset size, x => onCommandSys waiting (writeNand driver buffer offset size) x
  | .readNand buffer offset size, x => onCommandSys waiting (readNand driver buffer offset size) x
  | .eraseNand offset size, x => onCommandSys waiting (eraseNand driver offset size) x
  | .malloc size, x =>
    let (l, r) := rigEnv driver (waiting x.2) (.malloc size) x.1
    (l, r.map fun y => (y.1, y.2, x.2))
  | .printf report, x =>
    let (l, r) := rigEnv driver (waiting x.2) (.printf report) x.1
    (l, r.map fun y => (y.1, y.2, x.2))
  | .abort, _ => ([], none)

theorem onCommandSys_eq {α : Type} (waiting : UInt8 → Waiting) {p : DriverM α} (hp : ∀ curCmd, Announces p curCmd)
    (rig : Rig) (curCmd : UInt8) :
    (onCommandSys waiting p (rig, curCmd)).1 = (onSys (fun us => waiting (announcement us) us) p rig).1 ∧
      forget (onCommandSys waiting p (rig, curCmd)).2 = (onSys (fun us => waiting (announcement us) us) p rig).2 := by
  obtain ⟨hevents, hresult⟩ := (commandEnv_haunts waiting).run (s := rig.sys) (hp curCmd)
  unfold onCommandSys onSys
  rw [← hevents, ← hresult]
  refine ⟨rfl, ?_⟩
  dsimp only
  cases (run (commandEnv waiting) p (rig.sys, curCmd)).2 <;> rfl

theorem commandRigEnv_haunts (waiting : UInt8 → Waiting) :
    Haunts (rigEnv Alpha0.getDriver fun us => waiting (announcement us) us) (commandRigEnv Alpha0.getDriver waiting)
      (fun _ _ => True) fun _ _ _ => True where
  events {o rig curCmd} _ := by
    cases o with
    | writeNand buffer offset size =>
      exact (onCommandSys_eq waiting (announces_writeNand buffer offset size) rig curCmd).1
    | readNand buffer offset size =>
      exact (onCommandSys_eq waiting (announces_readNand buffer offset size) rig curCmd).1
    | eraseNand offset size => exact (onCommandSys_eq waiting (announces_eraseNand offset size) rig curCmd).1
    | malloc size => rfl
    | printf report => rfl
    | abort => rfl
  answer {o rig curCmd} _ := by
    cases o with
    | writeNand buffer offset size =>
      exact (onCommandSys_eq waiting (announces_writeNand buffer offset size) rig curCmd).2
    | readNand buffer offset size =>
      exact (onCommandSys_eq waiting (announces_readNand buffer offset size) rig curCmd).2
    | eraseNand offset size => exact (onCommandSys_eq waiting (announces_eraseNand offset size) rig curCmd).2
    | malloc size => rfl
    | printf report => rfl
    | abort => rfl
  moves _ _ := trivial

/-- What a test returns, and the device it leaves. -/
theorem run_commandRigEnv {α : Type} (waiting : UInt8 → Waiting) (p : TestM α) {rig : Rig} {curCmd : UInt8} {a : α}
    {x : Rig × UInt8} (h : (run (commandRigEnv Alpha0.getDriver waiting) p (rig, curCmd)).2 = some (a, x)) :
    (run (rigEnv Alpha0.getDriver fun us => waiting (announcement us) us) p rig).2 = some (a, x.1) := by
  have hp : p.Obeys (fun (_ : UInt8) _ => True) (fun _ _ _ => True) curCmd :=
    .of_only (fun _ _ h => h) (.trivial p) curCmd
  rw [← ((commandRigEnv_haunts waiting).run (s := rig) hp).2, h]
  rfl

/-- The drivers that the system tests cannot tell from alpha_0, with their waits, which take the last command
where it matters. -/
inductive FlawedDriver : NandDriver → (UInt8 → (fuel : Nat) → (intervalUs : UInt32) → WaitM (Option Int)) → Prop
  | alpha1 : FlawedDriver Alpha1.getDriver fun _ => Alpha1.nandWait
  | alpha2 : FlawedDriver Alpha2.getDriver fun _ => Alpha2.nandWait
  | alpha7 : FlawedDriver Alpha7.getDriver Alpha7.nandWait
  | alpha8 : FlawedDriver Alpha8.getDriver Alpha8.nandWait

section

variable {driver : NandDriver} {wait : UInt8 → Nat → UInt32 → WaitM (Option Int)}

/-- But for the wait, each is the driver that alpha_0 is. -/
theorem FlawedDriver.eq_alpha0 (h : FlawedDriver driver wait) : driver = Alpha0.getDriver := by
  cases h with
  | alpha1 | alpha2 => rfl
  | alpha7 | alpha8 => exact congrArg NandDriver.jumpTable countingTable_eq

theorem FlawedDriver.law (h : FlawedDriver driver wait) (fuel : Nat) :
    WaitLaw (fun us d c => waited d (wait (announcement us) fuel us) c) ClockOk := by
  cases h with
  | alpha1 =>
    have halpha0 : (fun us d c => waited d (Alpha1.nandWait fuel us) c) = nandWait fuel := by
      funext us d c
      exact waited_alpha1 d fuel us c
    rw [halpha0]
    exact nandWait_law fuel
  | alpha2 => exact alpha2_law fuel
  | alpha7 =>
    have halpha0 : (fun us d c => waited d (Alpha7.nandWait (announcement us) fuel us) c) = nandWait fuel := by
      funext us d c
      exact waited_alpha7 d (announcement us) fuel us c
    rw [halpha0]
    exact nandWait_law fuel
  | alpha8 => exact alpha8_law announcement fuel

/-- With alpha_1, alpha_2, alpha_7 or alpha_8 nothing is assumed but the clock and the memory: a system test that
returns returns 0; the deterministic one leaves the storage erased, and the stochastic one the mirror. -/
theorem flawedWaits_pass (hdriver : FlawedDriver driver wait) (fuel : Nat)
    (d : Device) (ioregisters : UInt64) {clock : Clock} (hclock : ClockOk clock) (memory : Nat → Buffer)
    (curCmd : UInt8) (data dest : Buffer) (numTests : Nat) (results : Results) :
    (∀ result x, (run (commandRigEnv driver fun cmd us d c => waited d (wait cmd fuel us) c)
        (stDeterministic data dest) (bootRig d ioregisters clock memory, curCmd)).2 = some (result, x) →
      result = 0 ∧ x.1.sys.device.store.dataStore = fun _ => 0) ∧
    ∀ result st x, (run (commandRigEnv driver fun cmd us d c => waited d (wait cmd fuel us) c)
        (stStochastic numTests ⟨fun _ => 0, results⟩) (bootRig d ioregisters clock memory, curCmd)).2 =
          some ((result, st), x) →
      result = 0 ∧ x.1.sys.device.store.dataStore = st.mirror := by
  have hkeeps : KeepsUp False (rigEnv Alpha0.getDriver fun us d c => waited d (wait (announcement us) fuel us) c)
      (InStep ClockOk) := keepsUp likeAlpha0_alpha0 (hdriver.law fuel) False.elim
  have hboot := inStep_boot d ioregisters hclock memory
  rw [hdriver.eq_alpha0]
  constructor
  · intro result x hrun
    obtain ⟨hzero, hstep⟩ :=
      (hkeeps.yields_stDeterministic hboot data dest).result result x.1 (run_commandRigEnv _ _ hrun)
    exact ⟨hzero, hstep.storage⟩
  · intro result st x hrun
    obtain ⟨hzero, hstep⟩ := (hkeeps.yields_stStochastic ⟨fun _ => 0, results⟩ hboot False.elim).result _ x.1
      (run_commandRigEnv _ _ hrun)
    exact ⟨hzero, hstep.storage⟩

end

theorem flawedWaits_pass_alpha8 :
    (∀ result x, (run (commandRigEnv Alpha8.getDriver fun cmd us d c => waited d (Alpha8.nandWait cmd 100 us) c)
        (stDeterministic (fun _ => 0) fun _ => 0) (bootRig blankDevice 0 tickingClock fun _ _ => 0, 0)).2 =
          some (result, x) →
      result = 0 ∧ x.1.sys.device.store.dataStore = fun _ => 0) ∧
    ∀ result st x, (run (commandRigEnv Alpha8.getDriver fun cmd us d c => waited d (Alpha8.nandWait cmd 100 us) c)
        (stStochastic 3 ⟨fun _ => 0, fun _ => 5⟩) (bootRig blankDevice 0 tickingClock fun _ _ => 0, 0)).2 =
          some ((result, st), x) →
      result = 0 ∧ x.1.sys.device.store.dataStore = st.mirror :=
  flawedWaits_pass .alpha8 100 blankDevice 0 tickingClock_ok _ 0 _ _ 3 _

end NandRig.Stack
