/-
Waits and deadlines. The deadline of an EXECUTE is set from an earlier reading than the timeout of
the wait behind it, and the last poll of a wait comes after its last look at the clock; so a wait
that returns has seen the device ready, and every access of a framework call finds it ready.
-/
import NandRig.Stack.System
import NandRig.Device.Protocol

namespace NandRig.Stack

open Emulator Framework Driver Interact

/-! ## Clocks and waits -/

/-- The timeout the framework gives for an operation. -/
def timeoutOf : Kind → UInt32
  | .read => timeoutReadPageUs
  | .program => timeoutWritePageUs
  | .erase => timeoutEraseBlockUs

/-- The readings do not decrease, and no sum with a duration or a timeout overflows. -/
structure ClockOk (c : Clock) : Prop where
  mono : Monotone fun i => (c i).toNat
  bounded : ∀ i, (c i).toNat + timeoutEraseBlockUs.toNat < 2 ^ 64

/-- The device is not busy at any reading to come. -/
def Ready (d : Device) (c : Clock) : Prop := ∀ i, beforeDeadline d.deadline (c i) = false

/-- What is asked of waits on clocks with `I`: on a ready device, and behind an EXECUTE, a wait that
returns returns 0 and leaves the device ready. -/
structure WaitLaw (waiting : Waiting) (I : Clock → Prop) : Prop where
  after : ∀ {c : Clock} (n : Nat), I c → I (c.after n)
  ready : ∀ {us d c r c'}, I c → Ready d c → waiting us d c = some (r, c') → r = 0 ∧ Ready d c' ∧ I c'
  executed : ∀ {k : Kind} {d c r c'}, I c → d.deadline = setDeadline (c 1) k.duration →
    waiting (timeoutOf k) d (c.after 2) = some (r, c') → r = 0 ∧ Ready d c' ∧ I c'

theorem Ready.after {d : Device} {c : Clock} (h : Ready d c) (n : Nat) : Ready d (c.after n) := fun i => h (n + i)

theorem ClockOk.after {c : Clock} (h : ClockOk c) (n : Nat) : ClockOk (c.after n) where
  mono _ _ hij := h.mono (Nat.add_le_add_left hij n)
  bounded i := h.bounded (n + i)

theorem ClockOk.ready_of_le {c : Clock} (h : ClockOk c) {d : Device} {i : Nat} (hi : d.deadline.toNat ≤ (c i).toNat)
    {n : Nat} (hn : i ≤ n) : Ready d (c.after n) := by
  intro j
  have : (c i).toNat ≤ (c (n + j)).toNat := h.mono (by omega)
  rw [beforeDeadline_eq_false]
  exact hi.trans this

theorem pollReady_iff {d : Device} {t : TimeUs} : pollReady d t = true ↔ d.deadline.toNat ≤ t.toNat := by
  rw [← beforeDeadline_eq_false]
  cases h : beforeDeadline d.deadline t <;>
    simp [pollReady, handleBreakpointGpioGet, h, deviceReady, deviceBusy]

/-! ## The wait of alpha_0 -/

/-- When the deadline is not after the timeout, the loop ends on a ready device: the last poll is made
after the loop has seen the timeout pass. -/
theorem nandWaitLoop_ready {d : Device} {timeout : TimeUs} (hle : d.deadline.toNat ≤ timeout.toNat) {fuel : Nat}
    {c c' : Clock} {r : Int} (hc : ClockOk c) (h : nandWaitLoop d timeout fuel c = some (r, c')) :
    r = 0 ∧ Ready d c' ∧ ClockOk c' := by
  induction fuel generalizing c with
  | zero => cases h
  | succ fuel ih =>
    rw [nandWaitLoop] at h
    by_cases h0 : pollReady d (c 0) = true
    · rw [if_pos h0] at h
      cases h
      exact ⟨rfl, hc.ready_of_le (pollReady_iff.1 h0) (by omega), hc.after 1⟩
    · rw [if_neg h0] at h
      by_cases h1 : c 1 < timeout
      · rw [if_pos h1] at h
        exact ih (hc.after 2) h
      · rw [if_neg h1] at h
        -- the last poll is made at a reading behind the timeout, and so behind the deadline
        have hmono : (c 1).toNat ≤ (c 2).toNat := hc.mono (by omega)
        rw [UInt64.lt_iff_toNat_lt] at h1
        have h2 : d.deadline.toNat ≤ (c 2).toNat := by omega
        rw [if_pos (pollReady_iff.2 h2)] at h
        cases h
        exact ⟨rfl, hc.ready_of_le h2 (by omega), hc.after 3⟩

theorem timeoutOf_toNat (k : Kind) :
    (timeoutOf k).toUInt64.toNat = k.duration.toNat + 25 ∧ k.duration.toNat ≤ 2000 := by
  cases k <;> exact ⟨rfl, by decide⟩

/-- The deadline of an EXECUTE counts from an earlier reading than the timeout of the wait behind it, and is
25 microseconds shorter. -/
theorem deadline_le_timeout {d : Device} {k : Kind} {c : Clock} (hc : ClockOk c)
    (hd : d.deadline = setDeadline (c 1) k.duration) :
    d.deadline.toNat ≤ (c 2 + (timeoutOf k).toUInt64).toNat := by
  have hb : (c 2).toNat + 2025 < 2 ^ 64 := hc.bounded 2
  have hmono : (c 1).toNat ≤ (c 2).toNat := hc.mono (by omega)
  obtain ⟨htimeout, hduration⟩ := timeoutOf_toNat k
  rw [hd, setDeadline_toNat (by omega), UInt64.toNat_add, htimeout, Nat.mod_eq_of_lt (by omega)]
  omega

theorem nandWait_law (fuel : Nat) : WaitLaw (nandWait fuel) ClockOk where
  after n h := h.after n
  ready {us d c r c'} hc hready h := by
    unfold nandWait at h
    have h0 : pollReady d (c.after 1 0) = true := by
      rw [pollReady_iff, ← beforeDeadline_eq_false]
      exact hready 1
    cases fuel with
    | zero => cases h
    | succ fuel =>
      rw [nandWaitLoop, if_pos h0] at h
      cases h
      exact ⟨rfl, (hready.after 1).after 1, (hc.after 1).after 1⟩
  executed hc hd h := nandWaitLoop_ready (deadline_le_timeout hc hd) ((hc.after 2).after 1) h

/-! ## Accesses on time -/

/-- The access finds the device ready; the wait, if it returns, returns 0. -/
def Trace.OnTime : Trace → Prop
  | .access _ before _ timenow _ _ => beforeDeadline before.deadline timenow = false
  | .waited _ result => ∀ r, result = some r → r = 0

/-- Between two calls. -/
structure Timely (I : Clock → Prop) (s : Sys) : Prop where
  inStorage : InStorage s.device.store
  clock : I s.clock
  ready : Ready s.device s.clock

/-- Inside a call: no further access repeats an EXECUTE left in the tracee's variable. -/
structure Calm (I : Clock → Prop) (s : Sys) : Prop extends Timely I s where
  command : s.device.machineState = .bug ∨ ∀ k : Kind, commandOf s.ioregisters.toUInt32 ≠ k.execute

section Accesses

variable {waiting : Waiting} {I : Clock → Prop}

theorem trap_onTime {op : Op} {w : UInt64} {s : Sys} (h : Timely I s) : ∀ e ∈ (trap op w s).1, e.OnTime := by
  intro e he
  unfold trap at he
  rw [List.mem_singleton] at he
  subst he
  exact h.ready 0

/-- An access that is no EXECUTE leaves the deadline or clears it. -/
theorem trap_calm (hlaw : WaitLaw waiting I) {op : Op} {w : UInt64} {s s' : Sys} {r : Reply} (h : Timely I s)
    (hw : s.device.machineState ≠ .bug → ∀ k : Kind, commandOf w.toUInt32 ≠ k.execute)
    (htrap : (trap op w s).2 = some (r, s')) : Calm I s' := by
  obtain ⟨hr, rfl⟩ := trap_some htrap
  obtain ⟨hm, ⟨_, hmove⟩ | ⟨_, rfl⟩⟩ := handle_inv h.inStorage hr
  · refine ⟨⟨hmove.inStorage h.inStorage, hlaw.after 2 h.clock, ?_⟩, .inr fun k => ?_⟩
    · rcases hmove.deadline with ⟨k, hk, _⟩ | ⟨_, hd | hd⟩
      · exact absurd hk (hw hm k)
      · intro i
        dsimp only
        rw [hd]
        exact h.ready.after 2 i
      · intro i
        dsimp only
        rw [hd, beforeDeadline_clear]
    · cases hp : r.poke with
      | none => exact hw hm k
      | some w' =>
        dsimp only [Option.getD_some]
        rw [hmove.poke_command hp]
        exact k.dummy_ne_execute
  · exact ⟨⟨h.inStorage, hlaw.after 2 h.clock, h.ready.after 2⟩, .inl rfl⟩

/-- An EXECUTE is rejected, or sets the deadline the wait behind it is made for. -/
theorem trap_execute {op : Op} {w : UInt64} {s s' : Sys} {r : Reply} {k : Kind} (h : Timely I s)
    (hw : commandOf w.toUInt32 = k.execute) (htrap : (trap op w s).2 = some (r, s')) :
    InStorage s'.device.store ∧ s'.clock = s.clock.after 2 ∧
      (s'.device.machineState = .bug ∨ ∀ j : Kind, commandOf s'.ioregisters.toUInt32 ≠ j.execute) ∧
      (Ready s'.device s'.clock ∨ s'.device.deadline = setDeadline (s.clock 1) k.duration) := by
  obtain ⟨hr, rfl⟩ := trap_some htrap
  obtain ⟨_, ⟨_, hmove⟩ | ⟨_, rfl⟩⟩ := handle_inv h.inStorage hr
  · rcases hmove.deadline with ⟨j, hj, hd, _, hpoke⟩ | ⟨hne, _⟩
    · obtain rfl : j = k := Kind.execute_injective (hj.symm.trans hw)
      refine ⟨hmove.inStorage h.inStorage, rfl, .inr fun i => ?_, .inr hd⟩
      rw [hpoke, Option.getD_some, commandOf_dummyWord]
      exact i.dummy_ne_execute
    · exact absurd hw (hne k)
  · exact ⟨h.inStorage, rfl, .inl rfl, .inl (h.ready.after 2)⟩

/-! ## What a driver asks for, on time -/

theorem always_store (hlaw : WaitLaw waiting I) {offset value : UInt8} {s : Sys} (h : Timely I s)
    (hw : s.device.machineState ≠ .bug →
      ∀ k : Kind, commandOf (setByte s.ioregisters offset value).toUInt32 ≠ k.execute) :
    Always (env waiting) Trace.OnTime (ask (.store offset value)) s fun _ s' => Calm I s' := by
  refine Always.call (trap_onTime h) fun _ s' hs' => ?_
  obtain ⟨r, htrap⟩ := env_store_some hs'
  exact trap_calm hlaw h hw htrap

theorem always_setup (hlaw : WaitLaw waiting I) {s : Sys} (h : Timely I s) (k : Kind) :
    Always (env waiting) Trace.OnTime (ask (.store ioregCommand k.setup.toUInt8)) s fun _ s' => Calm I s' := by
  refine always_store hlaw h fun _ j => ?_
  rw [commandOf_setByte_command]
  cases k <;> cases j <;> decide

theorem always_address (hlaw : WaitLaw waiting I) {s : Sys} (h : Calm I s) (value : UInt8) :
    Always (env waiting) Trace.OnTime (ask (.store ioregAddress value)) s fun _ s' => Calm I s' := by
  refine always_store hlaw h.toTimely fun hm j => ?_
  rw [commandOf_setByte_address]
  exact h.command.resolve_left hm j

theorem always_data (hlaw : WaitLaw waiting I) {s : Sys} (h : Calm I s) (value : UInt8) :
    Always (env waiting) Trace.OnTime (ask (.store ioregData value)) s fun _ s' => Calm I s' := by
  refine always_store hlaw h.toTimely fun hm j => ?_
  rw [commandOf_setByte_data]
  exact h.command.resolve_left hm j

theorem always_load (hlaw : WaitLaw waiting I) {s : Sys} (h : Calm I s) :
    Always (env waiting) Trace.OnTime (ask .load) s fun _ s' => Calm I s' := by
  refine Always.call (trap_onTime h.toTimely) fun _ s' hs' => ?_
  obtain ⟨r, htrap, _⟩ := env_load_some hs'
  exact trap_calm hlaw h.toTimely h.command.resolve_left htrap

/-- An EXECUTE and the wait behind it: the program goes on with the result 0. -/
theorem always_execute (hlaw : WaitLaw waiting I) {α : Type} {s : Sys} (h : Timely I s) (k : Kind)
    {f : Int → DriverM α} {Q : α → Sys → Prop}
    (hf : ∀ s', Calm I s' → Always (env waiting) Trace.OnTime (f 0) s' Q) :
    Always (env waiting) Trace.OnTime
      (ask (.store ioregCommand k.execute.toUInt8) >>= fun _ => ask (.wait (timeoutOf k)) >>= f) s Q := by
  have hstore : Always (env waiting) Trace.OnTime (ask (.store ioregCommand k.execute.toUInt8)) s fun _ s' =>
      InStorage s'.device.store ∧ s'.clock = s.clock.after 2 ∧
        (s'.device.machineState = .bug ∨ ∀ j : Kind, commandOf s'.ioregisters.toUInt32 ≠ j.execute) ∧
        (Ready s'.device s'.clock ∨ s'.device.deadline = setDeadline (s.clock 1) k.duration) := by
    refine Always.call (trap_onTime h) fun _ s' hs' => ?_
    obtain ⟨r, htrap⟩ := env_store_some hs'
    refine trap_execute h ?_ htrap
    rw [commandOf_setByte_command]
    cases k <;> rfl
  refine hstore.bind fun _ s₁ ⟨hs₁, hclock, hcommand, hready⟩ => ?_
  have hanswer {r : Int} {c : Clock} (hw : waiting (timeoutOf k) s₁.device s₁.clock = some (r, c)) :
      r = 0 ∧ Ready s₁.device c ∧ I c := by
    rcases hready with hready | hd
    · exact hlaw.ready (hclock ▸ hlaw.after 2 h.clock) hready hw
    · rw [hclock] at hw
      exact hlaw.executed h.clock hd hw
  have hwait : Always (env waiting) Trace.OnTime (ask (.wait (timeoutOf k))) s₁ fun r s' => r = 0 ∧ Calm I s' := by
    refine Always.call (fun e he => ?_) fun r s' hs' => ?_
    · obtain rfl := List.mem_singleton.1 he
      intro r hr
      obtain ⟨⟨r', c⟩, hw, hx⟩ := Option.map_eq_some_iff.1 hr
      cases hx
      exact (hanswer hw).1
    · obtain ⟨c, hw, rfl⟩ := env_wait_some hs'
      obtain ⟨h0, hr, hc⟩ := hanswer hw
      exact ⟨h0, ⟨hs₁, hc, hr⟩, hcommand⟩
  refine hwait.bind fun r s₂ ⟨h0, hs₂⟩ => ?_
  rw [h0]
  exact hf s₂ hs₂

/-! ## Framework calls, on time -/

theorem always_nandProgram (hlaw : WaitLaw waiting I) (buffer : Buffer) (pos : Nat) (length : UInt32) {s : Sys}
    (h : Calm I s) :
    Always (env waiting) Trace.OnTime (Alpha0.nandProgram buffer pos length) s fun _ s' => Calm I s' := by
  induction pos, length using Alpha0.nandProgram.induct generalizing s with
  | case1 pos =>
    rw [Alpha0.nandProgram, dif_pos rfl]
    exact .pure h
  | case2 pos length hne ih =>
    rw [Alpha0.nandProgram, dif_neg hne]
    exact (always_data hlaw h _).bind fun _ s' hs' => ih hs'

theorem always_nandRead (hlaw : WaitLaw waiting I) (buffer : Buffer) (pos : Nat) (length : UInt32) {s : Sys}
    (h : Calm I s) :
    Always (env waiting) Trace.OnTime (Alpha0.nandRead buffer pos length) s fun _ s' => Calm I s' := by
  induction buffer, pos, length using Alpha0.nandRead.induct generalizing s with
  | case1 buffer pos =>
    rw [Alpha0.nandRead, dif_pos rfl]
    exact .pure h
  | case2 buffer pos length hne ih =>
    rw [Alpha0.nandRead, dif_neg hne]
    exact (always_load hlaw h).bind fun byte s' hs' => ih byte hs'

theorem always_jtWriteLoop (hlaw : WaitLaw waiting I) (buffer : Buffer) (bytesLeft cursor : UInt32)
    (byteAddr : UInt8) {s : Sys} (h : Calm I s) :
    Always (env waiting) Trace.OnTime (jtWriteLoop Alpha0.jumpTable buffer bytesLeft cursor byteAddr) s
      fun r s' => r = 0 ∧ Timely I s' := by
  induction bytesLeft, cursor, byteAddr using jtWriteLoop.induct generalizing s with
  | case1 cursor byteAddr =>
    rw [jtWriteLoop, dif_pos rfl]
    exact .pure ⟨rfl, h.toTimely⟩
  | case2 bytesLeft cursor byteAddr hne size =>
    rename_i ih
    rw [jtWriteLoop, dif_neg hne]
    refine (always_nandProgram hlaw buffer _ _ h).bind fun _ s₁ h₁ => ?_
    exact always_execute hlaw h₁.toTimely .program fun s₂ h₂ => ih h₂

theorem always_jtReadLoop (hlaw : WaitLaw waiting I) (buffer : Buffer) (bytesLeft cursor : UInt32)
    (byteAddr : UInt8) {s : Sys} (h : Calm I s) :
    Always (env waiting) Trace.OnTime (jtReadLoop Alpha0.jumpTable buffer bytesLeft cursor byteAddr) s
      fun r s' => r.2 = 0 ∧ Timely I s' := by
  induction buffer, bytesLeft, cursor, byteAddr using jtReadLoop.induct generalizing s with
  | case1 buffer cursor byteAddr =>
    rw [jtReadLoop, dif_pos rfl]
    exact .pure ⟨rfl, h.toTimely⟩
  | case2 buffer bytesLeft cursor byteAddr hne ih =>
    rw [jtReadLoop, dif_neg hne]
    refine always_execute hlaw h.toTimely .read fun s₁ h₁ => ?_
    exact (always_nandRead hlaw buffer _ _ h₁).bind fun buffer' s₂ h₂ => ih buffer' h₂

theorem always_jtEraseLoop (hlaw : WaitLaw waiting I) (numBlocks b : UInt32) {s : Sys} (h : Calm I s) :
    Always (env waiting) Trace.OnTime (jtEraseLoop Alpha0.jumpTable numBlocks b) s
      fun r s' => r = 0 ∧ Timely I s' := by
  induction b using jtEraseLoop.induct numBlocks generalizing s with
  | case1 b hlt ih =>
    rw [jtEraseLoop, dif_pos hlt]
    exact always_execute hlaw h.toTimely .erase fun s₁ h₁ => ih h₁
  | case2 b hge =>
    rw [jtEraseLoop, dif_neg hge]
    exact .pure ⟨rfl, h.toTimely⟩

/-- A SETUP and the three address bytes of a read or a write. -/
theorem always_addresses (hlaw : WaitLaw waiting I) {α : Type} {s : Sys} (h : Timely I s) (k : Kind)
    (block page byte : UInt8) {p : DriverM α} {Q : α → Sys → Prop}
    (hp : ∀ s', Calm I s' → Always (env waiting) Trace.OnTime p s' Q) :
    Always (env waiting) Trace.OnTime
      (ask (.store ioregCommand k.setup.toUInt8) >>= fun _ => ask (.store ioregAddress block) >>= fun _ =>
        ask (.store ioregAddress page) >>= fun _ => ask (.store ioregAddress byte) >>= fun _ => p) s Q :=
  (always_setup hlaw h k).bind fun _ _ h₁ => (always_address hlaw h₁ block).bind fun _ _ h₂ =>
    (always_address hlaw h₂ page).bind fun _ _ h₃ => (always_address hlaw h₃ byte).bind fun _ _ h₄ => hp _ h₄

theorem always_perform (hlaw : WaitLaw waiting I) (call : Call) {s : Sys} (h : Timely I s) :
    Always (env waiting) Trace.OnTime call.perform s fun ret s' => ret.value = 0 ∧ Timely I s' := by
  cases call with
  | write buffer offset size =>
    have hw : Always (env waiting) Trace.OnTime (writeNand Alpha0.getDriver buffer offset size) s
        fun r s' => r = 0 ∧ Timely I s' :=
      always_addresses hlaw h .program _ _ _ fun s' h' => always_jtWriteLoop hlaw buffer size 0 _ h'
    exact hw.bind fun r s' h' => .pure h'
  | read buffer offset size =>
    have hr : Always (env waiting) Trace.OnTime (readNand Alpha0.getDriver buffer offset size) s
        fun r s' => r.2 = 0 ∧ Timely I s' :=
      always_addresses hlaw h .read _ _ _ fun s' h' => always_jtReadLoop hlaw buffer size 0 _ h'
    exact hr.bind fun r s' h' => .pure h'
  | erase offset size =>
    have he : Always (env waiting) Trace.OnTime (eraseNand Alpha0.getDriver offset size) s
        fun r s' => r = 0 ∧ Timely I s' :=
      (always_setup hlaw h .erase).bind fun _ s₁ h₁ => (always_address hlaw h₁ _).bind fun _ s₂ h₂ =>
        always_jtEraseLoop hlaw (blocksToErase offset size) 0 h₂
    exact he.bind fun r s' h' => .pure h'

theorem always_performAll (hlaw : WaitLaw waiting I) (calls : List Call) {s : Sys} (h : Timely I s) :
    Always (env waiting) Trace.OnTime (performAll calls) s
      fun rets s' => (∀ ret ∈ rets, ret.value = 0) ∧ Timely I s' := by
  induction calls generalizing s with
  | nil => exact .pure ⟨by simp, h⟩
  | cons call calls ih =>
    refine (always_perform hlaw call h).bind fun ret s₁ h₁ => (ih h₁.2).bind fun rets s₂ h₂ => .pure ⟨?_, h₂.2⟩
    intro x hx
    rcases List.mem_cons.1 hx with rfl | hx
    · exact h₁.1
    · exact h₂.1 x hx

theorem timely_boot (d : Device) (w : UInt64) {c : Clock} (hc : I c) : Timely I (boot d w c) :=
  ⟨inStorage_init d, hc, fun _ => beforeDeadline_clear _⟩

end Accesses

/-- No spurious timeout and no access to a busy device: in every sequence of framework calls from
`parser_init()`, on every clock, every wait that returns returns 0, every access is made when the
device is not before its deadline, and every call that returns returns 0. -/
theorem no_spurious_timeout (d₀ : Device) (ioregisters : UInt64) (clock : Clock) (hclock : ClockOk clock)
    (fuel : Nat) (calls : List Call) :
    let out := run (env (nandWait fuel)) (performAll calls) (boot d₀ ioregisters clock)
    (∀ us r, Trace.waited us (some r) ∈ out.1 → r = 0) ∧
      (∀ op before w timenow settime outcome, Trace.access op before w timenow settime outcome ∈ out.1 →
        beforeDeadline before.deadline timenow = false) ∧
      ∀ rets s, out.2 = some (rets, s) → ∀ ret ∈ rets, ret.value = 0 := by
  have h := always_performAll (nandWait_law fuel) calls (timely_boot d₀ ioregisters hclock)
  refine ⟨?_, ?_, ?_⟩
  · intro us r he
    exact h.events _ he r rfl
  · intro op before w t t' outcome he
    exact h.events _ he
  · intro rets s hs
    exact (h.result rets s hs).1

/-- A clock that advances by a millisecond from one reading to the next. -/
def tickingClock (i : Nat) : TimeUs := (1000 * min i (10 ^ 12)).toUInt64

theorem tickingClock_ok : ClockOk tickingClock := by
  have h (i : Nat) : (tickingClock i).toNat = 1000 * min i (10 ^ 12) := by
    unfold tickingClock
    rw [Nat.toUInt64_eq, UInt64.toNat_ofNat']
    omega
  constructor
  · intro i j hij
    dsimp only
    rw [h, h]
    omega
  · intro i
    rw [h]
    show _ + 2025 < _
    omega

theorem no_spurious_timeout_ticking :
    (∀ us r, Trace.waited us (some r) ∈ (run (env (nandWait 10))
      (performAll [.write (fun i => i.toUInt8) 250 300, .erase 250 300]) (boot blankDevice 0 tickingClock)).1 →
      r = 0) ∧
    (run (env (nandWait 10)) (performAll [.write (fun i => i.toUInt8) 250 300, .erase 250 300])
      (boot blankDevice 0 tickingClock)).2.isSome :=
  ⟨(no_spurious_timeout blankDevice 0 tickingClock tickingClock_ok 10 _).1, by decide +kernel⟩

end NandRig.Stack
