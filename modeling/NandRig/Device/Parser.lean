/-
The input message parser (`device/de_parser.c`) and the pins (`device/de_gpio.c`). A handler
runs once for each access of the tracee to `ioregisters`; the effects it has on the tracee are
its reply: the word it pokes into `ioregisters`, and the value it hands to
`update_tracee_cpu_registers()`.
-/
import NandRig.Device.Store

namespace NandRig.Emulator

/-! ## State -/

inductive MachineState
  | initialState
  | bug
  | readAwaitingBlockAddress
  | readAwaitingPageAddress
  | readAwaitingByteAddress
  | readAwaitingExecute
  | readProvidingData
  | programAwaitingBlockAddress
  | programAwaitingPageAddress
  | programAwaitingByteAddress
  | programAcceptingData
  | eraseAwaitingBlockAddress
  | eraseAwaitingExecute
  deriving DecidableEq, Repr

/-- The static variables of the emulator. -/
structure Device where
  machineState : MachineState
  deadline : TimeUs
  store : Store

/-- `clear_state()`. -/
def clearState (d : Device) : Device :=
  { d with deadline := deadlineClear, store := storeClearCache (storeClearCursor d.store) }

/-- `parser_reset()`. -/
def parserReset (d : Device) : Device := { clearState d with machineState := .initialState }

/-- `parser_init()`: a blank device, whatever the static variables held. -/
def parserInit (d : Device) : Device :=
  { machineState := .initialState, deadline := deadlineClear, store := storeInit d.store }

/-- The static variables before `parser_init()`. -/
def blankDevice : Device := ⟨.initialState, 0, ⟨0, fun _ => 0, fun _ => 0⟩⟩

/-! ## Replies -/

/-- What the handler leaves: the device, the word poked into `ioregisters` if any, and the value
given to `update_tracee_cpu_registers()` if any. -/
structure Reply where
  device : Device
  poke : Option UInt64 := none
  cpu : Option UInt32 := none

/-- The emulator stops: `exit(status)`, or an access outside one of its arrays. -/
inductive Halt
  | exit (status : Nat)
  | outOfBounds
  deriving DecidableEq, Repr

/-- Continue with a store, unless the access that made it left its array. -/
def withStore (s : Option Store) (k : Store → Reply) : Except Halt Reply :=
  match s with
  | some s => .ok (k s)
  | none => .error .outOfBounds

@[simp] theorem withStore_some (s : Store) (k : Store → Reply) : withStore (some s) k = .ok (k s) := rfl

def enter (d : Device) (machineState : MachineState) : Device := { d with machineState := machineState }

@[simp] theorem enter_machineState (d : Device) (m : MachineState) : (enter d m).machineState = m := rfl
@[simp] theorem enter_deadline (d : Device) (m : MachineState) : (enter d m).deadline = d.deadline := rfl
@[simp] theorem enter_store (d : Device) (m : MachineState) : (enter d m).store = d.store := rfl

/-- `C_DUMMY << COMMAND_SHIFT`, as `PTRACE_POKEDATA` writes it. -/
def dummyWord : UInt64 := (cDummy <<< commandShift).toUInt64

/-! ## The ioregisters watchpoint -/

/-- `handle_watchpoint_ioregisters()` on the tracee's word, with the readings of `now()` in
`before_deadline()` (`timenow`) and in `set_deadline()` (`settime`). -/
def handleWatchpointIoregisters (d : Device) (ioregisters : UInt64) (timenow settime : TimeUs) :
    Except Halt Reply :=
  let peeked := ioregisters.toUInt32
  let command := commandOf peeked
  let busy := beforeDeadline d.deadline timenow
  match d.machineState with
  | .initialState =>
    -- the one state that does not ask for the deadline
    if command = cReadSetup then .ok { device := enter d .readAwaitingBlockAddress }
    else if command = cProgramSetup then .ok { device := enter d .programAwaitingBlockAddress }
    else if command = cEraseSetup then .ok { device := enter d .eraseAwaitingBlockAddress }
    else .ok { device := enter d .bug }
  | .readAwaitingBlockAddress =>
    if busy || command != cReadSetup then .ok { device := enter d .bug }
    else .ok { device := { d with
      store := setCursorByte (addressOf peeked) cursorBlockShift d.store
      machineState := .readAwaitingPageAddress } }
  | .readAwaitingPageAddress =>
    if busy || command != cReadSetup then .ok { device := enter d .bug }
    else .ok { device := { d with
      store := setCursorByte (addressOf peeked) cursorPageShift d.store
      machineState := .readAwaitingByteAddress } }
  | .readAwaitingByteAddress =>
    if busy || command != cReadSetup then .ok { device := enter d .bug }
    else .ok { device := { d with
      store := setCursorByte (addressOf peeked) cursorByteShift d.store
      machineState := .readAwaitingExecute } }
  | .readAwaitingExecute =>
    if busy || command != cReadExecute then .ok { device := enter d .bug }
    else withStore (storeCopyPageToCache d.store) fun s =>
      { device := ⟨.readProvidingData, setDeadline settime readPageDuration, s⟩
        poke := some dummyWord }
  | .readProvidingData =>
    if busy then .ok { device := enter d .bug }
    else if command = cDummy then
      match storeGetCacheByte d.store with
      | none => .error .outOfBounds
      | some cacheByte =>
        let returnValue := (cDummy <<< commandShift) ||| cacheByte.toUInt32
        -- the tracee is made to believe that it has read this value
        .ok { device := { d with store := incrementCursor false d.store }
              poke := some returnValue.toUInt64
              cpu := some returnValue }
    else if command = cReadExecute then
      withStore (storeCopyPageToCache d.store) fun s =>
        { device := ⟨.readProvidingData, setDeadline settime readPageDuration, s⟩
          poke := some dummyWord }
    else if command = cReadSetup then .ok { device := enter (clearState d) .readAwaitingBlockAddress }
    else if command = cProgramSetup then .ok { device := enter (clearState d) .programAwaitingBlockAddress }
    else if command = cEraseSetup then .ok { device := enter (clearState d) .eraseAwaitingBlockAddress }
    else .ok { device := enter d .bug }
  | .programAwaitingBlockAddress =>
    if busy || command != cProgramSetup then .ok { device := enter d .bug }
    else .ok { device := { d with
      store := setCursorByte (addressOf peeked) cursorBlockShift d.store
      machineState := .programAwaitingPageAddress } }
  | .programAwaitingPageAddress =>
    if busy || command != cProgramSetup then .ok { device := enter d .bug }
    else .ok { device := { d with
      store := setCursorByte (addressOf peeked) cursorPageShift d.store
      machineState := .programAwaitingByteAddress } }
  | .programAwaitingByteAddress =>
    if busy || command != cProgramSetup then .ok { device := enter d .bug }
    else .ok {
      device := { d with
        store := setCursorByte (addressOf peeked) cursorByteShift d.store
        machineState := .programAcceptingData }
      -- the data bytes that follow come with this command
      poke := some dummyWord }
  | .programAcceptingData =>
    if busy then .ok { device := enter d .bug }
    else if command = cDummy then
      withStore (storeSetCacheByte (dataOf peeked) d.store) fun s =>
        { device := { d with store := incrementCursor true s } }
    else if command = cProgramExecute then
      -- the cache is blank again for the next page
      withStore (storeCopyPageFromCache d.store) fun s =>
        { device := { d with
            deadline := setDeadline settime writePageDuration
            store := incrementPage (storeClearCache s) }
          poke := some dummyWord }
    else if command = cReadSetup then .ok { device := enter (clearState d) .readAwaitingBlockAddress }
    else if command = cProgramSetup then .ok { device := enter (clearState d) .programAwaitingBlockAddress }
    else if command = cEraseSetup then .ok { device := enter (clearState d) .eraseAwaitingBlockAddress }
    else .ok { device := enter d .bug }
  | .eraseAwaitingBlockAddress =>
    if busy || command != cEraseSetup then .ok { device := enter d .bug }
    else .ok { device := { d with
      store := setCursorByte (addressOf peeked) cursorBlockShift d.store
      machineState := .eraseAwaitingExecute } }
  | .eraseAwaitingExecute =>
    if busy then .ok { device := enter d .bug }
    else if command = cEraseExecute then
      withStore (storeEraseBlock d.store) fun s =>
        { device := { d with
            deadline := setDeadline settime eraseBlockDuration
            store := incrementBlock s }
          poke := some dummyWord }
    else if command = cReadSetup then .ok { device := enter (clearState d) .readAwaitingBlockAddress }
    else if command = cProgramSetup then .ok { device := enter (clearState d) .programAwaitingBlockAddress }
    else if command = cEraseSetup then .ok { device := enter (clearState d) .eraseAwaitingBlockAddress }
    else .ok { device := enter d .bug }
  | .bug => .error (.exit 1)

/-! ## The pins -/

/-- `handle_breakpoint_gpio_set()`: the pin is in `rdi`, the value in `rsi`. -/
def handleBreakpointGpioSet (d : Device) (rdi rsi : UInt64) : Device :=
  if rdi = pnReset ∧ rsi = 1 then parserReset d else d

/-- `handle_breakpoint_gpio_get()`: the value poked into the result of the tracee's call, if any. -/
def handleBreakpointGpioGet (d : Device) (rdi : UInt64) (timenow : TimeUs) : Option UInt64 :=
  if rdi = pnStatus then some (if beforeDeadline d.deadline timenow then deviceBusy else deviceReady)
  else if rdi = pnReset then some 0
  else none

end NandRig.Emulator
