/-
Where the device can be busy. The deadline is set only on the way into the three session states, and
every way out of them clears it or leads to the bug state: the eight states between a SETUP and a
session never meet a pending deadline, so the handler does the same without their tests.
-/
import NandRig.Device.Run

namespace NandRig.Emulator

open Machine

/-! ## The handler without the tests -/

/-- `handle_watchpoint_ioregisters()` without `before_deadline()` in the address states and in the state
that awaits C_READ_EXECUTE. -/
def handleUnchecked : Handler := fun d ioregisters timenow settime =>
  let peeked := ioregisters.toUInt32
  let command := commandOf peeked
  match d.machineState with
  | .readAwaitingBlockAddress =>
    if command != cReadSetup then .ok { device := enter d .bug }
    else .ok { device := { d with
      store := setCursorByte (addressOf peeked) cursorBlockShift d.store
      machineState := .readAwaitingPageAddress } }
  | .readAwaitingPageAddress =>
    if command != cReadSetup then .ok { device := enter d .bug }
    else .ok { device := { d with
      store := setCursorByte (addressOf peeked) cursorPageShift d.store
      machineState := .readAwaitingByteAddress } }
  | .readAwaitingByteAddress =>
    if command != cReadSetup then .ok { device := enter d .bug }
    else .ok { device := { d with
      store := setCursorByte (addressOf peeked) cursorByteShift d.store
      machineState := .readAwaitingExecute } }
  | .readAwaitingExecute =>
    if command != cReadExecute then .ok { device := enter d .bug }
    else withStore (storeCopyPageToCache d.store) fun s =>
      { device := ⟨.readProvidingData, setDeadline settime readPageDuration, s⟩
        poke := some dummyWord }
  | .programAwaitingBlockAddress =>
    if command != cProgramSetup then .ok { device := enter d .bug }
    else .ok { device := { d with
      store := setCursorByte (addressOf peeked) cursorBlockShift d.store
      machineState := .programAwaitingPageAddress } }
  | .programAwaitingPageAddress =>
    if command != cProgramSetup then .ok { device := enter d .bug }
    else .ok { device := { d with
      store := setCursorByte (addressOf peeked) cursorPageShift d.store
      machineState := .programAwaitingByteAddress } }
  | .programAwaitingByteAddress =>
    if command != cProgramSetup then .ok { device := enter d .bug }
    else .ok {
      device := { d with
        store := setCursorByte (addressOf peeked) cursorByteShift d.store
        machineState := .programAcceptingData }
      poke := some dummyWord }
  | .eraseAwaitingBlockAddress =>
    if command != cEraseSetup then .ok { device := enter d .bug }
    else .ok { device := { d with
      store := setCursorByte (addressOf peeked) cursorBlockShift d.store
      machineState := .eraseAwaitingExecute } }
  -- the other states test the deadline, or never did
  | _ => handleWatchpointIoregisters d ioregisters timenow settime

/-- With the deadline cleared the tests change nothing. -/
theorem handleUnchecked_eq_of_clear {d : Device} (h : d.deadline = deadlineClear) (w : UInt64) (t t' : TimeUs) :
    handleUnchecked d w t t' = handleWatchpointIoregisters d w t t' := by
  unfold handleUnchecked
  dsimp only
  split <;> rename_i hm <;> simp [handleWatchpointIoregisters, hm, h]

/-- Where the other states hold, the handler is the same. -/
theorem handleUnchecked_eq_of_session {d : Device}
    (h : (∃ k : Kind, d.machineState = k.session) ∨ d.machineState = .bug)
    (w : UInt64) (t t' : TimeUs) : handleUnchecked d w t t' = handleWatchpointIoregisters d w t t' := by
  unfold handleUnchecked
  rcases h with ⟨k, hm⟩ | hm
  · cases k <;> simp [hm, Kind.session]
  · simp [hm]

/-! ## Where the deadline is set -/

/-- A deadline is pending only in a session, or in the bug state a session was left for. -/
def DeadlineInSession (d : Device) : Prop :=
  d.deadline ≠ deadlineClear → (∃ k : Kind, d.machineState = k.session) ∨ d.machineState = .bug

theorem deadlineInSession_of_clear {d : Device} (h : d.deadline = deadlineClear) : DeadlineInSession d :=
  fun hne => absurd h hne

theorem DeadlineInSession.clear {d : Device} (h : DeadlineInSession d) (hm : ∀ k : Kind, d.machineState ≠ k.session)
    (hb : d.machineState ≠ .bug) : d.deadline = deadlineClear := by
  by_contra hne
  rcases h hne with ⟨k, hk⟩ | hbug
  · exact hm k hk
  · exact hb hbug

theorem Move.deadlineInSession {d : Device} (h : DeadlineInSession d) {peeked : UInt32} {settime : TimeUs} {r : Reply}
    (hmove : Move d peeked settime r) : DeadlineInSession r.device := by
  cases hmove with
  | opened k hm hc =>
    exact deadlineInSession_of_clear (h.clear (fun j => by cases j <;> simp [hm, Kind.session]) (by simp [hm]))
  | switched j k hm hc => exact deadlineInSession_of_clear rfl
  | address k shift next hm hc =>
    refine deadlineInSession_of_clear (h.clear (fun j hj => ?_) fun hj => ?_)
    · rw [hj] at hm
      cases j <;> cases hm
    · rw [hj] at hm
      cases hm
  | readExecute hm hc => exact fun _ => .inl ⟨.read, rfl⟩
  | readByte hm hc => exact fun _ => .inl ⟨.read, hm⟩
  | programByte hm hc => exact fun _ => .inl ⟨.program, hm⟩
  | programExecute hm hc => exact fun _ => .inl ⟨.program, hm⟩
  | eraseExecute hm hc => exact fun _ => .inl ⟨.erase, hm⟩

/-- What holds of every device reached: the cursor in storage, and no deadline outside sessions. -/
def ReadyInv (d : Device) : Prop := InStorage d.store ∧ DeadlineInSession d

theorem readyInv_init (d : Device) : ReadyInv (parserInit d) :=
  ⟨inStorage_init d, deadlineInSession_of_clear rfl⟩

theorem readyInv_step (d : Device) (e : Event) (d' : Device) (h : ReadyInv d) (hstep : step d e = .ok d') :
    ReadyInv d' := by
  refine ⟨step_inStorage d e d' h.1 hstep, ?_⟩
  cases e with
  | access w t t' =>
    obtain ⟨r, hr, rfl⟩ := step_access_ok hstep
    obtain ⟨_, ⟨_, hmove⟩ | ⟨_, rfl⟩⟩ := handle_inv h.1 hr
    · exact hmove.deadlineInSession h.2
    · exact fun _ => .inr rfl
  | gpioSet rdi rsi =>
    cases hstep
    unfold handleBreakpointGpioSet
    split_ifs
    · exact deadlineInSession_of_clear rfl
    · exact h.2
  | gpioGet rdi t => cases hstep; exact h.2

theorem ReadyInv.handleUnchecked_eq {d : Device} (h : ReadyInv d) (w : UInt64) (t t' : TimeUs) :
    handleUnchecked d w t t' = handleWatchpointIoregisters d w t t' := by
  by_cases hd : d.deadline = deadlineClear
  · exact handleUnchecked_eq_of_clear hd w t t'
  · exact handleUnchecked_eq_of_session (h.2 hd) w t t'

/-! ## The tests are redundant -/

/-- After every run a deadline is pending only in the three session states and the bug state, and the
initial state answers ready. So the handler without the tests of the eight states before a session takes
the steps of the handler with them: the same devices, pokes and pin answers, and the same end. -/
theorem busy_tests_redundant (d₀ : Device) (es : List Event) :
    (∀ d, run step (parserInit d₀) es = .ok d →
      (d.deadline ≠ 0 → d.machineState = .readProvidingData ∨ d.machineState = .programAcceptingData ∨
        d.machineState = .eraseAwaitingExecute ∨ d.machineState = .bug) ∧
      (d.machineState = .initialState → ∀ t, beforeDeadline d.deadline t = false ∧
        handleBreakpointGpioGet d pnStatus t = some deviceReady)) ∧
    transitions (react handleUnchecked) (parserInit d₀) es =
      transitions (react handleWatchpointIoregisters) (parserInit d₀) es ∧
    run (silent (react handleUnchecked)) (parserInit d₀) es = run step (parserInit d₀) es := by
  constructor
  · intro d hrun
    have h : ReadyInv d := run_inv readyInv_step (readyInv_init d₀) hrun
    constructor
    · intro hne
      rcases h.2 hne with ⟨k, hk⟩ | hb
      · cases k
        · exact .inl hk
        · exact .inr (.inl hk)
        · exact .inr (.inr (.inl hk))
      · exact .inr (.inr (.inr hb))
    · intro hm t
      have hclear := h.2.clear (fun k => by cases k <;> simp [hm, Kind.session]) (by simp [hm])
      simp [handleBreakpointGpioGet, hclear]
  · rw [← silent_react]
    refine transitions_congr (I := ReadyInv) (fun d e o d' hd h => ?_) (fun d e hd => ?_) es _ (readyInv_init d₀)
    · exact readyInv_step d e d' hd (react_step h)
    · cases e with
      | access w t t' => rw [react, react, hd.handleUnchecked_eq]
      | gpioSet rdi rsi => rfl
      | gpioGet rdi t => rfl

end NandRig.Emulator
