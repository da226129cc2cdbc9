/-
Resetting the device in the middle of a call. The bytes of an unfinished page live in the cache, and
the reset clears everything but the storage; so the storage keeps the pages of the EXECUTEs made, and
the device goes on as a new one would. The exception is a call that meets the device wedged by a read
of no bytes: its second access makes the emulator exit before any reset.
-/
import NandRig.Stack.Conformance
import NandRig.Stack.Lockstep

namespace NandRig.Stack

open Emulator Framework Driver Interact

/-! ## The reset device -/

/-- A device initialized over the storage `f`. -/
def freshDevice (f : Nat → UInt8) : Device :=
  { parserInit blankDevice with store := { (parserInit blankDevice).store with dataStore := f } }

/-- The reset keeps the storage and nothing else. -/
theorem gpioSet_reset (d : Device) : handleBreakpointGpioSet d pnReset 1 = freshDevice d.store.dataStore := rfl

/-- Every sequence of calls goes the same way from both systems: the same accesses of the same devices
but for the words peeked, the same waits, the same values and buffers returned. -/
def BehavesAs (waiting : Waiting) (s t : Sys) : Prop :=
  ∀ calls, (run (env waiting) (performAll calls) s).1.map Trace.forgetWord =
      (run (env waiting) (performAll calls) t).1.map Trace.forgetWord ∧
    (run (env waiting) (performAll calls) s).2.map (fun x => (x.1, x.2.device, x.2.clock)) =
      (run (env waiting) (performAll calls) t).2.map fun x => (x.1, x.2.device, x.2.clock)

section

variable {waiting : Waiting}

theorem CallTwins.behavesAs {s t : Sys} (h : CallTwins s t) : BehavesAs waiting s t := by
  intro calls
  obtain ⟨hevents, hresult⟩ : Alike (env waiting) _ _ s t _ := h.performAll calls
  refine ⟨hevents, ?_⟩
  generalize (run (env waiting) (Stack.performAll calls) s).2 = x at hresult ⊢
  generalize (run (env waiting) (Stack.performAll calls) t).2 = y at hresult ⊢
  cases hresult with
  | none => rfl
  | some hxy =>
    obtain ⟨hret, htwins⟩ := hxy
    simp [hret, htwins.device, htwins.clock]

theorem freshDevice_behavesAs (f : Nat → UInt8) (w w' : UInt64) (c : Clock) :
    BehavesAs waiting ⟨freshDevice f, w, c⟩ ⟨freshDevice f, w', c⟩ :=
  CallTwins.behavesAs ⟨⟨rfl, rfl, inStorage_clear (freshDevice f), .inr trivial⟩, .inl rfl⟩

/-! ## Calls on a wedged device -/

/-- Every call starts with a SETUP and an address. -/
theorem perform_starts (call : Call) : ∃ (k : Kind) (address : UInt8) (rest : DriverM Return),
    call.perform = ask (.store ioregCommand k.setup.toUInt8) >>= fun _ =>
      ask (.store ioregAddress address) >>= fun _ => rest := by
  cases call with
  | write buffer offset size => exact ⟨.program, _, _, rfl⟩
  | read buffer offset size => exact ⟨.read, _, _, rfl⟩
  | erase offset size =>
    exact ⟨.erase, _, jtEraseLoop Alpha0.jumpTable (blocksToErase offset size) 0 >>= fun value =>
      pure ⟨value, none⟩, rfl⟩

theorem handle_wedged {d : Device} (hm : d.machineState = .readAwaitingExecute) {w : UInt64} {k : Kind}
    (hc : commandOf w.toUInt32 = k.setup) (t t' : TimeUs) :
    handleWatchpointIoregisters d w t t' = .ok { device := enter d .bug } := by
  have hne : k.setup ≠ cReadExecute := by cases k <;> decide
  simp [handleWatchpointIoregisters, hm, hc, hne]

/-- The first access of a call on a wedged device is rejected, and the second makes the emulator exit. -/
theorem run_wedged (waiting : Waiting) {s : Sys} (hm : s.device.machineState = .readAwaitingExecute) (call : Call) :
    ∃ op₁ op₂ w₁ w₂, run (env waiting) call.perform s =
      ([.access op₁ s.device w₁ (s.clock 0) (s.clock 1) (.ok { device := enter s.device .bug }),
        .access op₂ (enter s.device .bug) w₂ (s.clock 2) (s.clock 3) (.error (.exit 1))], none) ∧
      isExecute op₁ = false := by
  obtain ⟨k, address, rest, hperform⟩ := perform_starts call
  have hc : commandOf (setByte s.ioregisters ioregCommand k.setup.toUInt8).toUInt32 = k.setup := by
    rw [commandOf_setByte_command, setup_toUInt8_toUInt32]
  have h₁ := handle_wedged hm hc (s.clock 0) (s.clock 1)
  have h₂ (w : UInt64) : handleWatchpointIoregisters (enter s.device .bug) w (s.clock 2) (s.clock 3) =
      .error (.exit 1) := handle_bug rfl w _ _
  refine ⟨.store ioregCommand k.setup.toUInt8, .store ioregAddress address,
    setByte s.ioregisters ioregCommand k.setup.toUInt8,
    setByte (setByte s.ioregisters ioregCommand k.setup.toUInt8) ioregAddress address, ?_, isExecute_setup k⟩
  rw [hperform, run_bind]
  simp only [ask, run_call, env_store, trap, h₁, Except.toOption, Option.map_some]
  rw [run_bind, run_call, env_store]
  simp only [trap, Clock.after, Nat.add_zero, Option.getD_none, h₂, Except.toOption, Option.map_none]
  rfl

/-! ## The device that completed calls leave -/

/-- The last of the calls is a read of no bytes. -/
def EndsInZeroRead (calls : List Call) : Prop := ∃ call, calls.getLast? = some call ∧ call.IsZeroRead

/-- Completed calls, each access of them made when the device is ready, leave it idle, or wedged if the
last of them is a read of no bytes: no call behind such a read completes. -/
theorem completed_device {calls : List Call} {s₀ s : Sys} {rets : List Return} (hs₀ : InStorage s₀.device.store)
    (hidle : Idle s₀.device) (h : (run (env waiting) (performAll calls) s₀).2 = some (rets, s))
    (hready : ∀ e ∈ (run (env waiting) (performAll calls) s₀).1, e.Ready) :
    InStorage s.device.store ∧ (EndsInZeroRead calls → s.device.machineState = .readAwaitingExecute) ∧
      (¬ EndsInZeroRead calls → Idle s.device) := by
  induction calls using List.reverseRecOn generalizing rets s with
  | nil =>
    cases h
    exact ⟨hs₀, by simp [EndsInZeroRead], fun _ => hidle⟩
  | append_singleton calls call ih =>
    obtain ⟨rets₁, s₁, ret, h₁, h₂, hlog⟩ := performAll_snoc_some h
    rw [hlog] at hready
    obtain ⟨hs₁, hwedged, hidle₁⟩ := ih h₁ fun e he => hready e (List.mem_append_left _ he)
    have hlast : EndsInZeroRead (calls ++ [call]) ↔ call.IsZeroRead := by simp [EndsInZeroRead]
    by_cases hzero : EndsInZeroRead calls
    -- a call on the wedged device does not return
    · obtain ⟨_, _, _, _, hrun, _⟩ := run_wedged waiting (hwedged hzero) call
      rw [hrun] at h₂
      cases h₂
    · obtain ⟨⟨n, hat, hstate, _⟩, _⟩ := (meets_perform hs₁ (hidle₁ hzero) call).result ret s h₂
        fun e he => hready e (List.mem_append_right _ he)
      rw [hlast]
      refine ⟨hat.inStorage, fun hc => ?_, fun hc => ?_⟩
      · rw [hstate, endState_of_zeroRead hc]
      · obtain ⟨k, hk⟩ := endState_session hc
        exact .inr ⟨k, hstate.trans hk⟩

/-! ## Page atomicity -/

def Trace.isAccess : Trace → Bool
  | .access _ _ _ _ _ _ => true
  | .waited _ _ => false

/-- The number of ioregister accesses. -/
def accesses (l : List Trace) : Nat := l.countP Trace.isAccess

/-- A reset after the events `l` of a call made in `s`: the emulator is there to take it, the storage is
the one before the call with the pages or blocks of the EXECUTEs in `l` applied in full and nothing
else, and the device goes on as a new one over that storage, whatever the variable holds. -/
def PageAtomic (waiting : Waiting) (s : Sys) (call : Call) (l : List Trace) : Prop :=
  ∃ d, Machine.run Trace.step s.device l = .ok d ∧ executes l ≤ call.total ∧
    (handleBreakpointGpioSet d pnReset 1).store.dataStore = call.stored s.device.store.dataStore (executes l) ∧
    ∀ w w' c, BehavesAs waiting ⟨handleBreakpointGpioSet d pnReset 1, w, c⟩
      ⟨freshDevice (call.stored s.device.store.dataStore (executes l)), w', c⟩

theorem pageAtomic_of_progress {s : Sys} {call : Call} {l : List Trace}
    (h : Progress s.device (call.stored s.device.store.dataStore) call.total l) : PageAtomic waiting s call l := by
  obtain ⟨d, hrun, _, hstorage, hbound⟩ := h
  refine ⟨d, hrun, hbound, hstorage, fun w w' c => ?_⟩
  rw [gpioSet_reset, hstorage]
  exact freshDevice_behavesAs _ w w' c

theorem stored_zero (call : Call) (f : Nat → UInt8) : call.stored f 0 = f := by
  cases call <;> rfl

/-- Up to one access, a wedged device takes the reset. -/
theorem pageAtomic_wedged_iff {s : Sys} (hm : s.device.machineState = .readAwaitingExecute) (call : Call)
    {l : List Trace} (hl : l <+: (run (env waiting) call.perform s).1) :
    PageAtomic waiting s call l ↔ accesses l ≤ 1 := by
  obtain ⟨op₁, op₂, w₁, w₂, hrun, hexecute⟩ := run_wedged waiting hm call
  rw [hrun] at hl
  have hreset (d : Device) (hd : d.store = s.device.store) (l : List Trace)
      (hrun : Machine.run Trace.step s.device l = .ok d) (h0 : executes l = 0) : PageAtomic waiting s call l := by
    refine ⟨d, hrun, h0 ▸ Nat.zero_le _, ?_, fun w w' c => ?_⟩
    · rw [h0, stored_zero, gpioSet_reset, ← hd]
      rfl
    · rw [h0, stored_zero, gpioSet_reset, hd]
      exact freshDevice_behavesAs _ w w' c
  -- no access, the one that is rejected, or both
  rcases List.prefix_cons_iff.1 hl with rfl | ⟨l₁, rfl, hl₁⟩
  · exact ⟨fun _ => Nat.zero_le _, fun _ => hreset s.device rfl [] rfl rfl⟩
  rcases List.prefix_cons_iff.1 hl₁ with rfl | ⟨l₂, rfl, hl₂⟩
  · refine ⟨fun _ => le_refl _, fun _ => hreset (enter s.device .bug) rfl _ rfl ?_⟩
    simp [executes, Trace.isExecute, hexecute]
  · rw [List.prefix_nil] at hl₂
    subst hl₂
    constructor
    · rintro ⟨d, hd, _⟩
      cases hd
    · intro h
      exact absurd (show 2 ≤ 1 from h) (by decide)

/-- Interrupting a call with a reset is page-atomic, at every prefix of its accesses and whatever
completed before, unless a read of no bytes completed last and the call gets to its second access. -/
theorem reset_page_atomic_iff (d₀ : Device) (ioregisters : UInt64) (clock : Clock) (before : List Call)
    {rets : List Return} {s : Sys}
    (hbefore : (run (env waiting) (performAll before) (boot d₀ ioregisters clock)).2 = some (rets, s))
    (hready₀ : ∀ e ∈ (run (env waiting) (performAll before) (boot d₀ ioregisters clock)).1, e.Ready)
    (call : Call) (l : List Trace) (hl : l <+: (run (env waiting) call.perform s).1) (hready : ∀ e ∈ l, e.Ready) :
    PageAtomic waiting s call l ↔ ¬ EndsInZeroRead before ∨ accesses l ≤ 1 := by
  obtain ⟨hs, hwedged, hidle⟩ :=
    completed_device (inStorage_init d₀) (idle_boot d₀ ioregisters clock) hbefore hready₀
  by_cases hzero : EndsInZeroRead before
  · rw [pageAtomic_wedged_iff (hwedged hzero) call hl]
    simp [hzero]
  · simp only [hzero, not_false_eq_true, true_or, iff_true]
    exact pageAtomic_of_progress ((meets_perform hs (hidle hzero) call).events l hl hready)

end

/-- A write of three pages cut off after the first of them, on a device that has erased a block. -/
theorem reset_page_atomic_write :
    ∃ rets s, (run (env (nandWait 10)) (performAll [.erase 0 1]) (boot blankDevice 0 tickingClock)).2 =
        some (rets, s) ∧
      PageAtomic (nandWait 10) s (.write (fun i => i.toUInt8) 250 300)
        ((run (env (nandWait 10)) (Call.write (fun i => i.toUInt8) 250 300).perform s).1.take 12) := by
  have hlaw := nandWait_law 10
  have hreturns : (run (env (nandWait 10)) (performAll [.erase 0 1]) (boot blankDevice 0 tickingClock)).2.isSome := by
    decide +kernel
  obtain ⟨⟨rets, s⟩, hs⟩ := Option.isSome_iff_exists.1 hreturns
  obtain ⟨honTime, htimely⟩ := always_performAll hlaw [.erase 0 1] (timely_boot blankDevice 0 tickingClock_ok)
  have hcall := always_perform hlaw (.write (fun i => i.toUInt8) 250 300) (htimely rets s hs).2
  refine ⟨rets, s, hs, ?_⟩
  refine (reset_page_atomic_iff blankDevice 0 tickingClock [.erase 0 1] hs (fun e he => (honTime e he).ready) _ _
    (List.take_prefix 12 _) fun e he => (hcall.events e (List.mem_of_mem_take he)).ready).2 (.inl ?_)
  rintro ⟨call, hlast, buffer, offset, rfl⟩
  cases hlast

/-- A read of no bytes, and a write whose second access makes the emulator exit: no reset follows. -/
theorem zeroRead_then_write_exits :
    ∃ rets s l, (run (env (nandWait 10)) (performAll [.read (fun _ => 0) 0 0]) (boot blankDevice 0 tickingClock)).2 =
        some (rets, s) ∧
      (∀ e ∈ (run (env (nandWait 10)) (performAll [.read (fun _ => 0) 0 0]) (boot blankDevice 0 tickingClock)).1,
        e.Ready) ∧
      l <+: (run (env (nandWait 10)) (Call.write (fun _ => 0) 0 1).perform s).1 ∧ (∀ e ∈ l, e.Ready) ∧
      ¬ PageAtomic (nandWait 10) s (.write (fun _ => 0) 0 1) l := by
  have hlaw := nandWait_law 10
  have hreturns : (run (env (nandWait 10)) (performAll [.read (fun _ => 0) 0 0])
      (boot blankDevice 0 tickingClock)).2.map (fun x => x.2.device.machineState) = some .readAwaitingExecute := by
    decide +kernel
  obtain ⟨⟨rets, s⟩, hs, hm⟩ := Option.map_eq_some_iff.1 hreturns
  obtain ⟨honTime, htimely⟩ :=
    always_performAll hlaw [.read (fun _ => 0) 0 0] (timely_boot blankDevice 0 tickingClock_ok)
  have hcall := always_perform hlaw (.write (fun _ => 0) 0 1) (htimely rets s hs).2
  refine ⟨rets, s, _, hs, fun e he => (honTime e he).ready, List.prefix_rfl, fun e he => (hcall.events e he).ready, ?_⟩
  rw [pageAtomic_wedged_iff hm _ List.prefix_rfl]
  obtain ⟨_, _, _, _, hrun, _⟩ := run_wedged (nandWait 10) hm (.write (fun _ => 0) 0 1)
  rw [hrun]
  exact fun h => absurd (show 2 ≤ 1 from h) (by decide)

end NandRig.Stack
