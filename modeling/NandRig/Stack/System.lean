/-
The composed system: alpha_0 driver programs on the emulated device. A store to or a load from
`ioregisters` traps to the emulator, which handles the access before the driver goes on; a wait
polls the device. Driver and device read one clock.

A handler takes the first reading it needs for `before_deadline()` and the second for
`set_deadline()`. Here every access takes both readings, also where the source takes fewer:
clocks are arbitrary sequences, so a reading nobody looks at changes nothing.
-/
import NandRig.Device.Run
import NandRig.Driver.Sound
import NandRig.Framework.ExecOp

namespace NandRig.Stack

open Emulator Framework Driver Interact

/-! ## State -/

/-- The readings of `now()` still to come. -/
abbrev Clock := Nat → TimeUs

def Clock.after (n : Nat) (c : Clock) : Clock := fun i => c (n + i)

structure Sys where
  device : Device
  /-- The tracee's variable. -/
  ioregisters : UInt64
  clock : Clock

/-- The start of a run: the device is initialized, the tracee's variable holds any word. -/
def boot (d : Device) (ioregisters : UInt64) (clock : Clock) : Sys := ⟨parserInit d, ioregisters, clock⟩

/-! ## Events -/

inductive Trace
  /-- An access made by `op`, with the device before it, the word the handler peeks, the readings
  it takes and what it does. -/
  | access (op : Op) (before : Device) (ioregisters : UInt64) (timenow settime : TimeUs)
      (outcome : Except Halt Reply)
  /-- A wait, with the value it returns if it does. -/
  | waited (intervalUs : UInt32) (result : Option Int)

/-- The access `op` with `ioregisters` holding `w`: the reply with the state after it, unless the
emulator exits. -/
def trap (op : Op) (w : UInt64) (s : Sys) : List Trace × Option (Reply × Sys) :=
  let outcome := handleWatchpointIoregisters s.device w (s.clock 0) (s.clock 1)
  ([.access op s.device w (s.clock 0) (s.clock 1) outcome],
    outcome.toOption.map fun r => (r, ⟨r.device, r.poke.getD w, s.clock.after 2⟩))

/-! ## The poll loop -/

/-- What a wait on the device returns and the readings it leaves, if it returns. -/
abbrev Waiting := UInt32 → Device → Clock → Option (Int × Clock)

/-- `gpio_get(PN_STATUS) == DEVICE_READY` at a reading: the handler pokes the value returned. -/
def pollReady (d : Device) (timenow : TimeUs) : Bool :=
  handleBreakpointGpioGet d pnStatus timenow == some deviceReady

/-- The loop of `nand_wait()`, for at most `fuel` rounds. -/
def nandWaitLoop (d : Device) (timeout : TimeUs) : (fuel : Nat) → Clock → Option (Int × Clock)
  | 0, _ => none
  | fuel + 1, c =>
    if pollReady d (c 0) then some (0, c.after 1)
    else if c 1 < timeout then nandWaitLoop d timeout fuel (c.after 2)
    else some (if pollReady d (c 2) then 0 else -1, c.after 3)

/-- `nand_wait(interval_us)` of alpha_0. -/
def nandWait (fuel : Nat) : Waiting := fun intervalUs d c =>
  nandWaitLoop d (c 0 + intervalUs.toUInt64) fuel (c.after 1)

/-! ## The environment of a driver program -/

/-- A load receives the byte the handler puts in the register, or the one in memory if it puts none. -/
def env (waiting : Waiting) : Env Op Op.Res Trace Sys
  | .store offset value, s =>
    let (l, r) := trap (.store offset value) (setByte s.ioregisters offset value) s
    (l, r.map fun x => ((), x.2))
  | .load, s =>
    let (l, r) := trap .load s.ioregisters s
    (l, r.map fun x => ((x.1.cpu.getD s.ioregisters.toUInt32).toUInt8, x.2))
  | .wait intervalUs, s =>
    let answer := waiting intervalUs s.device s.clock
    ([.waited intervalUs (answer.map Prod.fst)], answer.map fun x => (x.1, { s with clock := x.2 }))
  | .abort, _ => ([], none)

section

variable {waiting : Waiting}

theorem env_store (offset value : UInt8) (s : Sys) :
    env waiting (.store offset value) s =
      ((trap (.store offset value) (setByte s.ioregisters offset value) s).1,
        (trap (.store offset value) (setByte s.ioregisters offset value) s).2.map fun x => ((), x.2)) := rfl

theorem env_load (s : Sys) :
    env waiting .load s = ((trap .load s.ioregisters s).1,
      (trap .load s.ioregisters s).2.map fun x => ((x.1.cpu.getD s.ioregisters.toUInt32).toUInt8, x.2)) := rfl

theorem trap_some {op : Op} {w : UInt64} {s s' : Sys} {r : Reply} (h : (trap op w s).2 = some (r, s')) :
    handleWatchpointIoregisters s.device w (s.clock 0) (s.clock 1) = .ok r ∧
      s' = ⟨r.device, r.poke.getD w, s.clock.after 2⟩ := by
  unfold trap at h
  dsimp only at h
  cases ho : handleWatchpointIoregisters s.device w (s.clock 0) (s.clock 1) with
  | error x => rw [ho] at h; cases h
  | ok r' => rw [ho] at h; cases h; exact ⟨rfl, rfl⟩

theorem env_store_some {offset value : UInt8} {s s' : Sys} {a : Unit}
    (h : (env waiting (.store offset value) s).2 = some (a, s')) :
    ∃ r, (trap (.store offset value) (setByte s.ioregisters offset value) s).2 = some (r, s') := by
  rw [env_store, Option.map_eq_some_iff] at h
  obtain ⟨⟨r, s''⟩, htrap, hx⟩ := h
  cases hx
  exact ⟨r, htrap⟩

theorem env_load_some {s s' : Sys} {byte : UInt8} (h : (env waiting .load s).2 = some (byte, s')) :
    ∃ r, (trap .load s.ioregisters s).2 = some (r, s') ∧
      byte = (r.cpu.getD s.ioregisters.toUInt32).toUInt8 := by
  rw [env_load, Option.map_eq_some_iff] at h
  obtain ⟨⟨r, s''⟩, htrap, hx⟩ := h
  cases hx
  exact ⟨r, htrap, rfl⟩

theorem env_wait_some {us : UInt32} {s s' : Sys} {r : Int} (h : (env waiting (.wait us) s).2 = some (r, s')) :
    ∃ c, waiting us s.device s.clock = some (r, c) ∧ s' = { s with clock := c } := by
  obtain ⟨⟨r', c⟩, hw, hx⟩ := Option.map_eq_some_iff.1 h
  cases hx
  exact ⟨c, hw, rfl⟩

end

/-! ## Framework calls -/

inductive Call
  | write (buffer : Buffer) (offset size : UInt32)
  | read (buffer : Buffer) (offset size : UInt32)
  | erase (offset size : UInt32)

/-- The value a call returns, and the buffer a read has filled. -/
structure Return where
  value : Int
  buffer : Option Buffer

def Call.perform : Call → DriverM Return
  | .write buffer offset size => do
    let value ← writeNand Alpha0.getDriver buffer offset size
    pure ⟨value, none⟩
  | .read buffer offset size => do
    let (buffer, value) ← readNand Alpha0.getDriver buffer offset size
    pure ⟨value, some buffer⟩
  | .erase offset size => do
    let value ← eraseNand Alpha0.getDriver offset size
    pure ⟨value, none⟩

/-- The calls one after the other, whatever they return. -/
def performAll : List Call → DriverM (List Return)
  | [] => pure []
  | call :: calls => do
    let ret ← call.perform
    let rets ← performAll calls
    pure (ret :: rets)

end NandRig.Stack
