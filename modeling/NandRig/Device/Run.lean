/-
Runs of the emulator: any sequence of accesses, pin calls and clock readings from
`parser_init()`. The cursor addresses storage in every state reached, so no run leaves an array.
-/
import NandRig.Device.Moves
import NandRig.Lib.Machine

namespace NandRig.Emulator

open Machine

/-! ## Events -/

/-- What the tracee does, with the clock readings its handler takes. -/
inductive Event
  | access (ioregisters : UInt64) (timenow settime : TimeUs)
  | gpioSet (rdi rsi : UInt64)
  | gpioGet (rdi : UInt64) (timenow : TimeUs)

def step (d : Device) : Event → Except Halt Device
  | .access w timenow settime => (handleWatchpointIoregisters d w timenow settime).map Reply.device
  | .gpioSet rdi rsi => .ok (handleBreakpointGpioSet d rdi rsi)
  | .gpioGet _ _ => .ok d

theorem step_access (d : Device) (w : UInt64) (t t' : TimeUs) :
    step d (.access w t t') = (handleWatchpointIoregisters d w t t').map Reply.device := rfl

theorem step_access_ok {d d' : Device} {w : UInt64} {t t' : TimeUs} (h : step d (.access w t t') = .ok d') :
    ∃ r, handleWatchpointIoregisters d w t t' = .ok r ∧ r.device = d' := by
  rw [step_access] at h
  cases h1 : handleWatchpointIoregisters d w t t' with
  | error x => rw [h1] at h; cases h
  | ok r => rw [h1] at h; cases h; exact ⟨r, rfl, rfl⟩

/-! ## Outputs -/

/-- What an event shows the tracee: the word poked into `ioregisters`, the value given to
`update_tracee_cpu_registers()`, and the value read from a pin. -/
structure Output where
  poke : Option UInt64 := none
  cpu : Option UInt32 := none
  pin : Option UInt64 := none

abbrev Handler := Device → (ioregisters : UInt64) → (timenow settime : TimeUs) → Except Halt Reply

/-- The step with its output, for a handler of accesses. -/
def react (handler : Handler) (d : Device) : Event → Except Halt (Output × Device)
  | .access w timenow settime =>
    (handler d w timenow settime).map fun r => ({ poke := r.poke, cpu := r.cpu }, r.device)
  | .gpioSet rdi rsi => .ok ({}, handleBreakpointGpioSet d rdi rsi)
  | .gpioGet rdi timenow => .ok ({ pin := handleBreakpointGpioGet d rdi timenow }, d)

theorem silent_react : silent (react handleWatchpointIoregisters) = step := by
  funext d e
  cases e with
  | access w t t' =>
    unfold silent react step
    dsimp only
    cases handleWatchpointIoregisters d w t t' <;> rfl
  | gpioSet rdi rsi => rfl
  | gpioGet rdi t => rfl

theorem react_step {d d' : Device} {e : Event} {o : Output}
    (h : react handleWatchpointIoregisters d e = .ok (o, d')) : step d e = .ok d' := by
  rw [← silent_react, silent, h]
  rfl

/-- The command of an access, if it was accepted and left the device `d'`. -/
def accepted (e : Event) (d' : Device) : Option UInt32 :=
  match e with
  | .access w _ _ => if d'.machineState = .bug then none else some (commandOf w.toUInt32)
  | _ => none

theorem accepted_eq_some {c : UInt32} {e : Event} {d' : Device} :
    accepted e d' = some c ↔ ∃ w t t', e = .access w t t' ∧ commandOf w.toUInt32 = c ∧ d'.machineState ≠ .bug := by
  cases e with
  | access w t t' =>
    by_cases hb : d'.machineState = .bug <;> simp [accepted, hb]
  | gpioSet rdi rsi => simp [accepted]
  | gpioGet rdi t => simp [accepted]

/-! ## The cursor stays in storage -/

theorem inStorage_clear (d : Device) : InStorage (clearState d).store := by
  show (0 : UInt32).toNat < deviceSize
  rw [deviceSize_eq]; decide

theorem inStorage_init (d : Device) : InStorage (parserInit d).store := by
  show (0 : UInt32).toNat < deviceSize
  rw [deviceSize_eq]; decide

theorem inStorage_setCursorByte {s : Store} {v shift : UInt32} (hs : InStorage s) (hv : v.toNat < 256)
    (hshift : shift = cursorBlockShift ∨ shift = cursorPageShift ∨ shift = cursorByteShift) :
    InStorage (setCursorByte v shift s) := by
  unfold InStorage at hs ⊢
  rw [deviceSize_eq] at hs ⊢
  rcases hshift with rfl | rfl | rfl
  · rw [setCursorByte_block (by rw [InStorage, deviceSize_eq]; exact hs) hv]; omega
  · rw [setCursorByte_page hv]; omega
  · rw [setCursorByte_byte hv]; omega

theorem inStorage_incrementCursor {s : Store} (remain : Bool) (hs : InStorage s) :
    InStorage (incrementCursor remain s) := by
  cases remain with
  | false =>
    rw [InStorage, incrementCursor_free hs, deviceSize_eq]
    exact Nat.mod_lt _ (by norm_num)
  | true =>
    rw [InStorage, deviceSize_eq] at hs ⊢
    rw [incrementCursor_remain]; omega

theorem inStorage_incrementPage {s : Store} (hs : InStorage s) : InStorage (incrementPage s) := by
  rw [InStorage, incrementPage_cursor hs, deviceSize_eq]
  exact Nat.mod_lt _ (by norm_num)

theorem inStorage_incrementBlock {s : Store} (hs : InStorage s) : InStorage (incrementBlock s) := by
  rw [InStorage, incrementBlock_cursor hs, deviceSize_eq]
  exact Nat.mod_lt _ (by norm_num)

theorem addressStep_shift {m next : MachineState} {k : Kind} {shift : UInt32}
    (h : addressStep m = some (k, shift, next)) :
    shift = cursorBlockShift ∨ shift = cursorPageShift ∨ shift = cursorByteShift := by
  unfold addressStep at h
  split at h <;> cases h <;> simp

theorem Move.inStorage {d : Device} {peeked : UInt32} {settime : TimeUs} {r : Reply} (hs : InStorage d.store)
    (h : Move d peeked settime r) : InStorage r.device.store := by
  cases h with
  | opened k hm hc => exact hs
  | switched j k hm hc => exact inStorage_clear d
  | address k shift next hm hc =>
    exact inStorage_setCursorByte hs (addressOf_lt peeked) (addressStep_shift hm)
  | readExecute hm hc => exact hs
  | readByte hm hc => exact inStorage_incrementCursor false hs
  | programByte hm hc =>
    exact inStorage_incrementCursor true (s := { d.store with cache := _ }) hs
  | programExecute hm hc =>
    exact inStorage_incrementPage (s := storeClearCache { d.store with dataStore := _ }) hs
  | eraseExecute hm hc =>
    exact inStorage_incrementBlock (s := { d.store with dataStore := _ }) hs

/-- One step of the run keeps the cursor in storage. -/
theorem step_inStorage (d : Device) (e : Event) (d' : Device) (hs : InStorage d.store) (h : step d e = .ok d') :
    InStorage d'.store := by
  cases e with
  | access w t t' =>
    obtain ⟨r, hr, rfl⟩ := step_access_ok h
    obtain ⟨_, ⟨_, hmove⟩ | ⟨_, rfl⟩⟩ := handle_inv hs hr
    · exact hmove.inStorage hs
    · exact hs
  | gpioSet rdi rsi =>
    cases h
    unfold handleBreakpointGpioSet
    split_ifs
    · exact inStorage_clear d
    · exact hs
  | gpioGet rdi t => cases h; exact hs

/-- The only way one step halts is the exit of the bug state. -/
theorem step_error {d : Device} {e : Event} {x : Halt} (hs : InStorage d.store) (h : step d e = .error x) :
    d.machineState = .bug ∧ x = .exit 1 := by
  cases e with
  | access w t t' =>
    rw [step_access] at h
    by_cases hm : d.machineState = .bug
    · rw [handle_bug hm] at h; cases h; exact ⟨hm, rfl⟩
    · rcases handle_cases hs hm w t t' with ⟨r, _, _, hr⟩ | ⟨_, hr⟩ <;> rw [hr] at h <;> cases h
  | gpioSet rdi rsi => cases h
  | gpioGet rdi t => cases h

theorem run_inStorage {d d' : Device} {es : List Event} (hs : InStorage d.store) (h : run step d es = .ok d') :
    InStorage d'.store :=
  run_inv (I := fun d => InStorage d.store) step_inStorage hs h

/-- No run leaves an array. -/
theorem run_error {d : Device} {es : List Event} {x : Halt} (hs : InStorage d.store)
    (h : run step d es = .error x) : x = .exit 1 := by
  obtain ⟨d', e, hs', he⟩ := Machine.run_error (I := fun d => InStorage d.store) step_inStorage hs h
  exact (step_error hs' he).2

end NandRig.Emulator
