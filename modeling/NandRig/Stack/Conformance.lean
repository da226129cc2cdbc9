/-
The framework and the parser speak one protocol, but for one degenerate request: a read of no bytes
sends the addresses of a read and no EXECUTE, and leaves the device in a state that accepts no SETUP.
-/
import NandRig.Stack.Timing
import NandRig.Stack.Transfer

namespace NandRig.Stack

open Emulator Framework Driver Interact

/-! ## Calls on an idle device -/

/-- The access is not rejected. -/
def Trace.Accepted : Trace → Prop
  | .access _ _ _ _ _ outcome => ∃ r, outcome = .ok r ∧ r.device.machineState ≠ .bug
  | .waited _ _ => True

/-- The state an access moves the device to. -/
def Trace.entered : Trace → Option MachineState
  | .access _ _ _ _ _ outcome => outcome.toOption.map fun r => r.device.machineState
  | .waited _ _ => none

theorem Trace.Accepted.entered {e : Trace} (h : e.Accepted) : e.entered ≠ some .bug := by
  cases e with
  | access op before w t t' outcome =>
    obtain ⟨r, rfl, hbug⟩ := h
    exact fun he => hbug (Option.some.inj he)
  | waited us result => simp [Trace.entered]

theorem Trace.OnTime.ready {e : Trace} (h : e.OnTime) : e.Ready := by
  cases e with
  | access op before w t t' outcome => exact h
  | waited us result => trivial

/-- Where every prefix makes progress, every access is accepted. -/
theorem accepted_of_progress {d₀ : Device} {stored : Nat → Nat → UInt8} {total : Nat} {l : List Trace}
    (h : ∀ l', l' <+: l → Progress d₀ stored total l') : ∀ e ∈ l, e.Accepted := by
  intro e he
  obtain ⟨pre, post, rfl⟩ := List.append_of_mem he
  obtain ⟨d, hrun, hbug, _⟩ := h (pre ++ [e]) ⟨post, by simp⟩
  obtain ⟨d', _, hstep⟩ := Machine.run_snoc_ok hrun
  cases e with
  | access op before w t t' outcome =>
    cases outcome with
    | error x => cases hstep
    | ok r => cases hstep; exact ⟨r, rfl, hbug⟩
  | waited us result => trivial

section

variable {waiting : Waiting} {I : Clock → Prop}

/-- What a call does to the device and hands back, between two states in which the device is ready. -/
structure Performs (I : Clock → Prop) (call : Call) (s : Sys) (ret : Return) (s' : Sys) : Prop where
  timely : Timely I s'
  value : ret.value = 0
  state : s'.device.machineState = call.endState
  storage : s'.device.store.dataStore = call.stored s.device.store.dataStore call.total
  buffer : ret.buffer = call.answer s.device.store.dataStore

/-- A call on an idle device succeeds, on waits that keep the law. -/
theorem always_accepted (hlaw : WaitLaw waiting I) (call : Call) {s : Sys} (h : Timely I s) (hidle : Idle s.device) :
    Always (env waiting) Trace.Accepted call.perform s fun ret s' => Performs I call s ret s' := by
  obtain ⟨honTime, hresult⟩ := always_perform hlaw call h
  obtain ⟨hprogress, hends⟩ := @meets_perform waiting s h.inStorage hidle call
  have hready : ∀ e ∈ (run (env waiting) call.perform s).1, e.Ready := fun e he => (honTime e he).ready
  refine ⟨accepted_of_progress fun l hl => hprogress l hl fun e he => hready e (hl.subset he), ?_⟩
  intro ret s' hs'
  obtain ⟨hvalue, htimely⟩ := hresult ret s' hs'
  obtain ⟨⟨n, hat, hstate, htotal⟩, hbuffer⟩ := hends ret s' hs' hready
  exact ⟨htimely, hvalue, hstate, htotal hvalue ▸ hat.storage, hbuffer hvalue⟩

theorem Performs.idle {call : Call} {s s' : Sys} {ret : Return} (h : Performs I call s ret s')
    (hcall : ¬ call.IsZeroRead) : Idle s'.device := by
  obtain ⟨k, hk⟩ := endState_session hcall
  exact .inr ⟨k, h.state.trans hk⟩

/-- Sequences of calls with no read of no bytes. -/
theorem always_accepted_all (hlaw : WaitLaw waiting I) {calls : List Call} (hcalls : ∀ call ∈ calls, ¬ call.IsZeroRead)
    {s : Sys} (h : Timely I s) (hidle : Idle s.device) :
    Always (env waiting) Trace.Accepted (performAll calls) s fun _ s' => Timely I s' ∧ Idle s'.device := by
  induction calls generalizing s with
  | nil => exact .pure ⟨h, hidle⟩
  | cons call calls ih =>
    refine (always_accepted hlaw call h hidle).bind fun ret s₁ h₁ => ?_
    have hidle₁ := h₁.idle (hcalls call List.mem_cons_self)
    exact (ih (fun c hc => hcalls c (List.mem_cons_of_mem _ hc)) h₁.timely hidle₁).bind fun rets s₂ h₂ => .pure h₂

theorem idle_boot (d : Device) (w : UInt64) (c : Clock) : Idle (boot d w c).device := .inl ⟨rfl, rfl⟩

end

/-! ## Reads of no bytes -/

/-- The requests of a call that neither waits nor aborts. -/
def OnlyStores {α : Type} (p : DriverM α) : Prop := p.Only fun o => ∃ offset value, o = .store offset value

theorem onlyStores_ask (offset value : UInt8) : OnlyStores (ask (.store offset value)) :=
  Prog.Only.call ⟨offset, value, rfl⟩

theorem onlyStores_zeroRead {call : Call} (h : call.IsZeroRead) : OnlyStores call.perform := by
  obtain ⟨buffer, offset, rfl⟩ := h
  have hloop : OnlyStores (jtReadLoop Alpha0.jumpTable buffer 0 0 (offset % numBytes).toUInt8) := by
    rw [jtReadLoop, dif_pos rfl]
    trivial
  have hr : OnlyStores (readNand Alpha0.getDriver buffer offset 0) :=
    (onlyStores_ask _ _).bind fun _ => (onlyStores_ask _ _).bind fun _ => (onlyStores_ask _ _).bind fun _ =>
      (onlyStores_ask _ _).bind fun _ => hloop
  exact hr.bind fun _ => trivial

section

variable {waiting : Waiting}

/-- An access without a reply is one the parser rejects. -/
theorem rejected_of_trap_none {op : Op} {w : UInt64} {s : Sys} (h : (trap op w s).2 = none) :
    ∃ e ∈ (trap op w s).1, ¬ e.Accepted := by
  refine ⟨_, List.mem_singleton_self _, ?_⟩
  rintro ⟨r, hr, _⟩
  unfold trap at h
  rw [hr] at h
  cases h

theorem rejected_of_store_none {offset value : UInt8} {s : Sys} (h : (env waiting (.store offset value) s).2 = none) :
    ∃ e ∈ (env waiting (.store offset value) s).1, ¬ e.Accepted := by
  rw [env_store, Option.map_eq_none_iff] at h
  exact rejected_of_trap_none h

theorem rejected_of_load_none {s : Sys} (h : (env waiting .load s).2 = none) :
    ∃ e ∈ (env waiting .load s).1, ¬ e.Accepted := by
  rw [env_load, Option.map_eq_none_iff] at h
  exact rejected_of_trap_none h

/-- Stores that are accepted are answered. -/
theorem returns_of_onlyStores {α : Type} {p : DriverM α} (hp : OnlyStores p) {s : Sys}
    (h : ∀ e ∈ (run (env waiting) p s).1, e.Accepted) : (run (env waiting) p s).2.isSome := by
  refine run_returns_of_events h hp ?_
  rintro _ s' ⟨offset, value, rfl⟩ hnone
  exact rejected_of_store_none hnone

/-- The calls of a sequence are those of its parts, one after the other. -/
theorem performAll_append (calls calls' : List Call) :
    performAll (calls ++ calls') = performAll calls >>= fun rets => performAll calls' >>= fun rets' =>
      pure (rets ++ rets') := by
  induction calls with
  | nil => simp [performAll]
  | cons call calls ih => simp [performAll, ih]

/-- A sequence that returns has run through each of its prefixes. -/
theorem returns_of_initial {calls pre : List Call} (hpre : pre <+: calls) {s : Sys}
    (h : (run (env waiting) (performAll calls) s).2.isSome) : (run (env waiting) (performAll pre) s).2.isSome := by
  obtain ⟨post, rfl⟩ := hpre
  rw [performAll_append, run_bind] at h
  rcases hr : run (env waiting) (performAll pre) s with ⟨l, _ | x⟩
  · rw [hr] at h
    exact h
  · rfl

/-- The last call of a sequence runs from where the others returned. -/
theorem run_performAll_snoc {calls : List Call} (call : Call) {s s' : Sys} {rets : List Return}
    (h : (run (env waiting) (performAll calls) s).2 = some (rets, s')) :
    run (env waiting) (performAll (calls ++ [call])) s =
      ((run (env waiting) (performAll calls) s).1 ++ (run (env waiting) call.perform s').1,
        (run (env waiting) call.perform s').2.map fun x => (rets ++ [x.1], x.2)) := by
  have hlast : performAll [call] >>= (fun rets' => pure (rets ++ rets')) =
      call.perform >>= fun ret => pure (rets ++ [ret]) := by
    simp [performAll]
  rcases hr : run (env waiting) (performAll calls) s with ⟨l, _ | ⟨rets', s₁⟩⟩
  · rw [hr] at h; cases h
  · rw [hr] at h; cases h
    rw [performAll_append, run_bind, hr]
    dsimp only
    rw [hlast, run_bind]
    rcases run (env waiting) call.perform s' with ⟨l', _ | ⟨ret, s₂⟩⟩
    · rfl
    · simp

theorem performAll_snoc_some {calls : List Call} {call : Call} {s s' : Sys} {rets : List Return}
    (h : (run (env waiting) (performAll (calls ++ [call])) s).2 = some (rets, s')) :
    ∃ rets₁ s₁ ret, (run (env waiting) (performAll calls) s).2 = some (rets₁, s₁) ∧
      (run (env waiting) call.perform s₁).2 = some (ret, s') ∧
      (run (env waiting) (performAll (calls ++ [call])) s).1 =
        (run (env waiting) (performAll calls) s).1 ++ (run (env waiting) call.perform s₁).1 := by
  have hpre : (run (env waiting) (performAll calls) s).2.isSome :=
    returns_of_initial (List.prefix_append calls [call]) (by rw [h]; rfl)
  obtain ⟨⟨rets₁, s₁⟩, h₁⟩ := Option.isSome_iff_exists.1 hpre
  have hlast := run_performAll_snoc call h₁
  rw [hlast] at h
  obtain ⟨⟨ret, s₂⟩, h₂, hx⟩ := Option.map_eq_some_iff.1 h
  cases hx
  exact ⟨rets₁, s₁, ret, h₁, h₂, by rw [hlast]⟩

end

/-! ## The framework and the parser agree, but for reads of no bytes -/

/-- The states from which every SETUP command is accepted. -/
def AcceptsSetup (m : MachineState) : Prop :=
  m = .initialState ∨ m = .readProvidingData ∨ m = .programAcceptingData ∨ m = .eraseAwaitingExecute

/-- No access of the calls moves the device to MS_BUG, and each call that returns leaves the device in
a state that accepts every SETUP. -/
def Conforms (waiting : Waiting) (calls : List Call) (s : Sys) : Prop :=
  (∀ e ∈ (run (env waiting) (performAll calls) s).1, e.entered ≠ some .bug) ∧
  ∀ pre, pre <+: calls → ∀ rets s', (run (env waiting) (performAll pre) s).2 = some (rets, s') →
    AcceptsSetup s'.device.machineState

theorem Idle.acceptsSetup {d : Device} (h : Idle d) : AcceptsSetup d.machineState := by
  rcases h with ⟨hm, _⟩ | ⟨k, hm⟩
  · exact .inl hm
  · rw [hm]
    cases k <;> simp [AcceptsSetup, Kind.session]

section

variable {waiting : Waiting} {I : Clock → Prop}

theorem conforms_of_no_zeroRead (hlaw : WaitLaw waiting I) {calls : List Call}
    (hcalls : ∀ call ∈ calls, ¬ call.IsZeroRead) {s : Sys} (h : Timely I s) (hidle : Idle s.device) :
    Conforms waiting calls s := by
  constructor
  · intro e he
    exact ((always_accepted_all hlaw hcalls h hidle).events e he).entered
  intro pre hpre rets s' hs'
  have hpre' : ∀ call ∈ pre, ¬ call.IsZeroRead := fun call hc => hcalls call (hpre.subset hc)
  exact ((always_accepted_all hlaw hpre' h hidle).result rets s' hs').2.acceptsSetup

/-- A read of no bytes behind calls of which none is one leaves a state that accepts no SETUP. -/
theorem zeroRead_wedges (hlaw : WaitLaw waiting I) {pre : List Call} (hpre : ∀ call ∈ pre, ¬ call.IsZeroRead)
    {call : Call} (hcall : call.IsZeroRead) {s : Sys} (h : Timely I s) (hidle : Idle s.device)
    (hreturns : (run (env waiting) (performAll pre) s).2.isSome) :
    ∃ rets s', (run (env waiting) (performAll (pre ++ [call])) s).2 = some (rets, s') ∧
      s'.device.machineState = .readAwaitingExecute := by
  obtain ⟨⟨rets, s₁⟩, hs₁⟩ := Option.isSome_iff_exists.1 hreturns
  obtain ⟨h₁, hidle₁⟩ := (always_accepted_all hlaw hpre h hidle).result rets s₁ hs₁
  obtain ⟨haccepted, hperforms⟩ := always_accepted hlaw call h₁ hidle₁
  obtain ⟨⟨ret, s₂⟩, hs₂⟩ := Option.isSome_iff_exists.1
    (returns_of_onlyStores (onlyStores_zeroRead hcall) haccepted)
  refine ⟨rets ++ [ret], s₂, ?_, ?_⟩
  · rw [run_performAll_snoc call hs₁, hs₂]
    rfl
  · rw [(hperforms ret s₂ hs₂).state, endState_of_zeroRead hcall]

end

/-- Framework calls keep to the parser's protocol exactly when none of them reads no bytes: for runs
from `parser_init()` in which every call is started, on every clock. -/
theorem calls_conform_iff (d₀ : Device) (ioregisters : UInt64) (clock : Clock) (hclock : ClockOk clock) (fuel : Nat)
    (calls : List Call)
    (hstarted : (run (env (nandWait fuel)) (performAll calls.dropLast) (boot d₀ ioregisters clock)).2.isSome) :
    Conforms (nandWait fuel) calls (boot d₀ ioregisters clock) ↔ ∀ call ∈ calls, ¬ call.IsZeroRead := by
  have hlaw := nandWait_law fuel
  have htimely := timely_boot d₀ ioregisters hclock
  have hidle := idle_boot d₀ ioregisters clock
  constructor
  · intro h call hcall hzero
    -- the first read of no bytes returns, and is where the calls stop conforming
    classical
    have hsome : (calls.find? fun call => decide call.IsZeroRead).isSome :=
      List.find?_isSome.2 ⟨call, hcall, decide_eq_true hzero⟩
    obtain ⟨call, hfind⟩ := Option.isSome_iff_exists.1 hsome
    obtain ⟨hzero, pre, post, rfl, hpre⟩ := List.find?_eq_some_iff_append.1 hfind
    simp only [decide_eq_true_eq, Bool.not_eq_true', decide_eq_false_iff_not] at hzero hpre
    have hpre_started : pre <+: (pre ++ call :: post).dropLast := by
      rw [List.dropLast_append_of_ne_nil (List.cons_ne_nil call post)]
      exact List.prefix_append _ _
    obtain ⟨rets, s, hs, hm⟩ := zeroRead_wedges hlaw hpre hzero htimely hidle (returns_of_initial hpre_started hstarted)
    have haccepts := h.2 (pre ++ [call]) ⟨post, by simp⟩ rets s hs
    rw [hm] at haccepts
    simp [AcceptsSetup] at haccepts
  · intro h
    exact conforms_of_no_zeroRead hlaw h htimely hidle

theorem calls_conform_readThenErase :
    Conforms (nandWait 10) [.read (fun _ => 0) 5 1, .erase 0 1] (boot blankDevice 0 tickingClock) :=
  (calls_conform_iff blankDevice 0 tickingClock tickingClock_ok 10 _ (by decide +kernel)).2 (by simp [Call.IsZeroRead])

/-- A read of no bytes, and an erase whose SETUP moves the device to MS_BUG. -/
theorem zeroRead_then_erase_bugs :
    ¬ Conforms (nandWait 10) [.read (fun _ => 0) 0 0, .erase 0 1] (boot blankDevice 0 tickingClock) := by
  have h : .bug ∈ (run (env (nandWait 10)) (performAll [.read (fun _ => 0) 0 0, .erase 0 1])
      (boot blankDevice 0 tickingClock)).1.filterMap Trace.entered := by decide +kernel
  obtain ⟨e, he, hbug⟩ := List.mem_filterMap.1 h
  intro hconf
  exact hconf.1 e he hbug

end NandRig.Stack
