/-
Leaving the bug state. A device that has entered it keeps its store, and a reset makes it a new device
over that storage; but the next access of `ioregisters` makes the emulator exit, so the reset comes in
time only for a driver that makes no access before it.
-/
import NandRig.Stack.Reset

namespace NandRig.Stack

open Emulator Machine

/-! ## Events around the bug state -/

def IsReset : Event → Prop
  | .gpioSet rdi rsi => rdi = pnReset ∧ rsi = 1
  | _ => False

def IsAccess : Event → Prop
  | .access _ _ _ => True
  | _ => False

/-- Every sequence of events goes the same way from both devices: the same steps with the same outputs,
and the same end. -/
def ServesAs (d d' : Device) : Prop :=
  ∀ es, transitions (react handleWatchpointIoregisters) d es = transitions (react handleWatchpointIoregisters) d' es ∧
    run step d es = run step d' es

/-- In the bug state, with the store of `d`: a reset makes it a new device over that storage. -/
structure HeldInBug (d d' : Device) : Prop where
  bug : d'.machineState = .bug
  store : d'.store = d.store
  reset : (handleBreakpointGpioSet d' pnReset 1).machineState = .initialState
  storage : (handleBreakpointGpioSet d' pnReset 1).store.dataStore = d.store.dataStore
  serves : ServesAs (handleBreakpointGpioSet d' pnReset 1) (freshDevice d.store.dataStore)

theorem heldInBug_of_bug {d d' : Device} (hbug : d'.machineState = .bug) (hstore : d'.store = d.store) :
    HeldInBug d d' := by
  have hreset := gpioSet_reset d'
  rw [hstore] at hreset
  refine ⟨hbug, hstore, rfl, ?_, ?_⟩
  · rw [hreset]
    rfl
  · intro es
    rw [hreset]
    exact ⟨rfl, rfl⟩

/-! ## Runs in the bug state -/

theorem step_access_in_bug {d : Device} (hm : d.machineState = .bug) {e : Event} (he : IsAccess e) :
    step d e = .error (.exit 1) := by
  cases e with
  | access w t t' => rw [step_access, handle_bug hm]; rfl
  | gpioSet rdi rsi => cases he
  | gpioGet rdi t => cases he

theorem step_other {d : Device} {e : Event} (he : ¬ IsAccess e) (hreset : ¬ IsReset e) : step d e = .ok d := by
  cases e with
  | access w t t' => exact absurd trivial he
  | gpioSet rdi rsi =>
    have hset : handleBreakpointGpioSet d rdi rsi = d := if_neg hreset
    rw [step, hset]
  | gpioGet rdi t => rfl

/-- Without a reset, the bug state lasts up to the first access. -/
theorem run_in_bug {d : Device} (hm : d.machineState = .bug) :
    ∀ {more : List Event}, (∀ e ∈ more, ¬ IsReset e) →
      ((∀ e ∈ more, ¬ IsAccess e) → run step d more = .ok d) ∧
      ((∃ e ∈ more, IsAccess e) → run step d more = .error (.exit 1))
  | [], _ => ⟨fun _ => rfl, fun ⟨_, he, _⟩ => absurd he List.not_mem_nil⟩
  | e :: more, hmore => by
    obtain ⟨he, hrest⟩ := List.forall_mem_cons.1 hmore
    obtain ⟨hquiet, hexit⟩ := run_in_bug hm hrest
    rw [run_cons, List.forall_mem_cons, List.exists_mem_cons_iff]
    by_cases hacc : IsAccess e
    · rw [step_access_in_bug hm hacc]
      exact ⟨fun h => absurd hacc h.1, fun _ => rfl⟩
    · rw [step_other hacc he]
      refine ⟨fun h => hquiet h.2, fun h => hexit ?_⟩
      rcases h with h | h
      · exact absurd h hacc
      · exact h

/-- An access that enters the bug state leaves the store as it is. -/
theorem enter_bug_store {d d' : Device} (hs : InStorage d.store) {w : UInt64} {t t' : TimeUs}
    (h : step d (.access w t t') = .ok d') (hbug : d'.machineState = .bug) : d'.store = d.store := by
  obtain ⟨r, hr, rfl⟩ := step_access_ok h
  obtain ⟨_, ⟨_, hmove⟩ | ⟨_, rfl⟩⟩ := handle_inv hs hr
  · exact absurd hbug hmove.not_bug
  · rfl

/-! ## Recovery -/

/-- After any run and any access that enters the bug state, the device is held in that state, with its
store and its way back, through the events `more` before the reset, exactly when none of them is an access. -/
theorem bug_held_until_reset_iff (d₀ : Device) (es : List Event) {d d' : Device}
    (hrun : run step (parserInit d₀) es = .ok d) {w : UInt64} {t t' : TimeUs}
    (hstep : step d (.access w t t') = .ok d') (hbug : d'.machineState = .bug) (more : List Event)
    (hmore : ∀ e ∈ more, ¬ IsReset e) :
    (∃ d'', run step d' more = .ok d'' ∧ HeldInBug d d'') ↔ ∀ e ∈ more, ¬ IsAccess e := by
  obtain ⟨hquiet, hexit⟩ := run_in_bug hbug hmore
  constructor
  · rintro ⟨d'', hd'', _⟩ e he hacc
    rw [hexit ⟨e, he, hacc⟩] at hd''
    cases hd''
  · intro hnone
    exact ⟨d', hquiet hnone,
      heldInBug_of_bug hbug (enter_bug_store (run_inStorage (inStorage_init d₀) hrun) hstep hbug)⟩

/-- A data byte given to a new device, and a driver that polls it and sets another pin. -/
theorem bug_held_until_reset_polled :
    ∃ d' d'', step (parserInit blankDevice) (.access 0x070011 0 0) = .ok d' ∧ d'.machineState = .bug ∧
      run step d' [.gpioGet pnStatus 25, .gpioSet pnStatus 1] = .ok d'' ∧ HeldInBug (parserInit blankDevice) d'' := by
  have hstep : step (parserInit blankDevice) (.access 0x070011 0 0) = .ok (enter (parserInit blankDevice) .bug) := rfl
  obtain ⟨d'', hrun, hheld⟩ := (bug_held_until_reset_iff blankDevice [] rfl hstep rfl
    [.gpioGet pnStatus 25, .gpioSet pnStatus 1] (by simp [IsReset, pnStatus, pnReset])).2 (by simp [IsAccess])
  exact ⟨_, d'', hstep, rfl, hrun, hheld⟩

/-- A data byte given to a new device, and another access: the emulator exits before any reset. -/
theorem access_in_bug_exits :
    ∃ d', step (parserInit blankDevice) (.access 0x070011 0 0) = .ok d' ∧ d'.machineState = .bug ∧
      run step d' [.access 0x010011 0 0] = .error (.exit 1) ∧
      ¬ ∃ d'', run step d' [.access 0x010011 0 0] = .ok d'' ∧ HeldInBug (parserInit blankDevice) d'' := by
  have hexit : run step (enter (parserInit blankDevice) .bug) [.access 0x010011 0 0] = .error (.exit 1) := rfl
  refine ⟨enter (parserInit blankDevice) .bug, rfl, rfl, hexit, ?_⟩
  rintro ⟨d'', hd'', _⟩
  rw [hexit] at hd''
  cases hd''

end NandRig.Stack
