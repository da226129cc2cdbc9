/-
What a framework call does to an idle device, access by access. As long as every access finds the
device ready, none is rejected, and after any of them the storage is the one before the call with as
many whole pages or blocks applied as EXECUTE commands were made.
-/
import NandRig.Stack.System

namespace NandRig.Stack

open Emulator Framework Driver Interact RingMem

/-! ## Reading a log -/

/-- The access finds the device ready. -/
def Trace.Ready : Trace → Prop
  | .access _ before _ timenow _ _ => beforeDeadline before.deadline timenow = false
  | .waited _ _ => True

/-- The device after the event, unless the emulator exits. -/
def Trace.step (d : Device) : Trace → Except Halt Device
  | .access _ _ _ _ _ outcome => outcome.map Reply.device
  | .waited _ _ => .ok d

/-- The request is a store of an EXECUTE command. -/
def isExecute : Op → Bool
  | .store offset value => offset == ioregCommand &&
      (value == cReadExecute.toUInt8 || value == cProgramExecute.toUInt8 || value == cEraseExecute.toUInt8)
  | _ => false

def Trace.isExecute : Trace → Bool
  | .access op _ _ _ _ _ => Stack.isExecute op
  | .waited _ _ => false

/-- The number of EXECUTE commands. -/
def executes (l : List Trace) : Nat := l.countP Trace.isExecute

@[simp] theorem executes_nil : executes [] = 0 := rfl

theorem executes_snoc (l : List Trace) (e : Trace) : executes (l ++ [e]) = executes l + e.isExecute.toNat := by
  unfold executes
  rw [List.countP_append, List.countP_singleton]
  cases e.isExecute <;> rfl

/-! ## Progress -/

/-- A call on the device `d₀` that makes `total` EXECUTEs and whose first `n` make the storage
`stored n`: after the events `l` no access was rejected, and the storage is that of the EXECUTEs made. -/
def Progress (d₀ : Device) (stored : Nat → Nat → UInt8) (total : Nat) (l : List Trace) : Prop :=
  ∃ d, Machine.run Trace.step d₀ l = .ok d ∧ d.machineState ≠ .bug ∧
    d.store.dataStore = stored (executes l) ∧ executes l ≤ total

/-- Progress with the device of the system, `n` EXECUTEs in. -/
structure At (d₀ : Device) (stored : Nat → Nat → UInt8) (total : Nat) (l : List Trace) (d : Device) (n : Nat) :
    Prop where
  reaches : Machine.run Trace.step d₀ l = .ok d
  not_bug : d.machineState ≠ .bug
  inStorage : InStorage d.store
  executes : executes l = n
  storage : d.store.dataStore = stored n
  bound : n ≤ total

section

variable {waiting : Waiting} {d₀ : Device} {stored : Nat → Nat → UInt8} {total : Nat} {l : List Trace} {s : Sys}
  {n : Nat}

theorem At.progress {d : Device} (h : At d₀ stored total l d n) : Progress d₀ stored total l :=
  ⟨d, h.reaches, h.not_bug, by rw [h.storage, h.executes], h.executes ▸ h.bound⟩

/-- The request `op` makes the move to `r`, with the storage of the EXECUTEs then made. -/
structure Advances (stored : Nat → Nat → UInt8) (total : Nat) (op : Op) (w : UInt64) (s : Sys) (n : Nat) (r : Reply) :
    Prop where
  move : Move s.device w.toUInt32 (s.clock 1) r
  storage : r.device.store.dataStore = stored (n + (isExecute op).toNat)
  bound : n + (isExecute op).toNat ≤ total

theorem handle_of_advances (h : At d₀ stored total l s.device n) {op : Op} {w : UInt64} {r : Reply}
    (hr : Advances stored total op w s n r) (hready : beforeDeadline s.device.deadline (s.clock 0) = false) :
    handleWatchpointIoregisters s.device w (s.clock 0) (s.clock 1) = .ok r ∧
    At d₀ stored total (l ++ [.access op s.device w (s.clock 0) (s.clock 1) (.ok r)]) r.device
      (n + (isExecute op).toNat) := by
  have hbusy : ¬ Busy s.device (s.clock 0) := by
    rintro ⟨_, hb⟩
    rw [hb] at hready
    cases hready
  refine ⟨handle_of_move h.inStorage hbusy hr.move, ?_, hr.move.not_bug, hr.move.inStorage h.inStorage, ?_,
    hr.storage, hr.bound⟩
  · rw [Machine.run_snoc, h.reaches]
    rfl
  · rw [executes_snoc, h.executes]
    rfl

/-- A store that makes a move. -/
theorem At.store (h : At d₀ stored total l s.device n) {offset value : UInt8} {r : Reply}
    (hr : Advances stored total (.store offset value) (setByte s.ioregisters offset value) s n r) :
    Meets (env waiting) Trace.Ready (Progress d₀ stored total) (ask (.store offset value)) l s fun l' _ s' =>
      At d₀ stored total l' s'.device (n + (isExecute (.store offset value)).toNat) ∧ s'.device = r.device ∧
        s'.ioregisters = r.poke.getD (setByte s.ioregisters offset value) := by
  refine Meets.call (env_store offset value s) h.progress (fun hready => ?_) fun _ s' hs' hready => ?_
  all_goals
    obtain ⟨hhandle, hat⟩ := handle_of_advances h hr hready
    rw [hhandle]
  · exact hat.progress
  · obtain ⟨⟨r', s''⟩, htrap, hx⟩ := Option.map_eq_some_iff.1 hs'
    cases hx
    obtain ⟨hr', rfl⟩ := trap_some htrap
    rw [hhandle] at hr'
    cases hr'
    exact ⟨hat, rfl, rfl⟩

/-- A load that makes a move. -/
theorem At.load (h : At d₀ stored total l s.device n) {r : Reply}
    (hr : Advances stored total .load s.ioregisters s n r) :
    Meets (env waiting) Trace.Ready (Progress d₀ stored total) (ask .load) l s fun l' byte s' =>
      At d₀ stored total l' s'.device n ∧ s'.device = r.device ∧ s'.ioregisters = r.poke.getD s.ioregisters ∧
        byte = (r.cpu.getD s.ioregisters.toUInt32).toUInt8 := by
  refine Meets.call (env_load s) h.progress (fun hready => ?_) fun _ s' hs' hready => ?_
  all_goals
    obtain ⟨hhandle, hat⟩ := handle_of_advances h hr hready
    rw [hhandle]
  · exact hat.progress
  · obtain ⟨⟨r', s''⟩, htrap, hx⟩ := Option.map_eq_some_iff.1 hs'
    cases hx
    obtain ⟨hr', rfl⟩ := trap_some htrap
    rw [hhandle] at hr'
    cases hr'
    exact ⟨hat, rfl, rfl, rfl⟩

/-- A wait moves nothing. -/
theorem At.wait (h : At d₀ stored total l s.device n) (us : UInt32) :
    Meets (env waiting) Trace.Ready (Progress d₀ stored total) (ask (.wait us)) l s fun l' _ s' =>
      At d₀ stored total l' s'.device n ∧ s'.device = s.device ∧ s'.ioregisters = s.ioregisters := by
  have hat (result : Option Int) : At d₀ stored total (l ++ [.waited us result]) s.device n := by
    refine ⟨?_, h.not_bug, h.inStorage, ?_, h.storage, h.bound⟩
    · rw [Machine.run_snoc, h.reaches]
      rfl
    · rw [executes_snoc, h.executes]
      rfl
  refine Meets.call rfl h.progress (fun _ => (hat _).progress) fun r s' hs' _ => ?_
  obtain ⟨c, hw, rfl⟩ := env_wait_some hs'
  exact ⟨hat _, rfl, rfl⟩

end

end NandRig.Stack
