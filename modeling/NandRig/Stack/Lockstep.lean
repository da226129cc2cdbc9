/-
What the tracee's variable still holds from earlier does not matter: two systems that differ in it
alone go through the same calls in lockstep. A SETUP makes the command bytes agree, the first address
the address bytes, and the dummy word the handler pokes makes the variables equal.
-/
import NandRig.Stack.System
import NandRig.Device.Protocol

namespace NandRig.Stack

open Emulator Framework Driver Interact

/-! ## What the handler looks at -/

/-- The address matters in the address states only, the data only where a program takes data. -/
theorem handle_congr {d : Device} {w w' : UInt64} (hc : commandOf w.toUInt32 = commandOf w'.toUInt32)
    (ha : addressStep d.machineState ≠ none → addressOf w.toUInt32 = addressOf w'.toUInt32)
    (hd : commandOf w.toUInt32 = cDummy → dataOf w.toUInt32 = dataOf w'.toUInt32) (t t' : TimeUs) :
    handleWatchpointIoregisters d w t t' = handleWatchpointIoregisters d w' t t' := by
  -- with the dummy command all that is read agrees; without it no state reads the data
  by_cases hdummy : commandOf w'.toUInt32 = cDummy
  · cases hm : d.machineState <;>
      simp_all [handleWatchpointIoregisters, addressStep]
  · cases hm : d.machineState <;>
      simp_all [handleWatchpointIoregisters, addressStep]

/-! ## Twins -/

/-- The command bytes agree, and the data bytes where the command is the one data comes with. -/
structure SameCommand (w w' : UInt64) : Prop where
  command : commandOf w.toUInt32 = commandOf w'.toUInt32
  data : commandOf w.toUInt32 = cDummy → dataOf w.toUInt32 = dataOf w'.toUInt32

/-- All that the handler may look at agrees. -/
structure SameFields (w w' : UInt64) : Prop extends SameCommand w w' where
  address : addressOf w.toUInt32 = addressOf w'.toUInt32

/-- Two systems that differ in the tracee's variable alone, and there as `R` says unless the next
access stops the emulator. -/
structure Twins (R : UInt64 → UInt64 → Prop) (s t : Sys) : Prop where
  device : s.device = t.device
  clock : s.clock = t.clock
  inStorage : InStorage s.device.store
  words : s.device.machineState = .bug ∨ R s.ioregisters t.ioregisters

/-- Twins between two calls: no address byte left in the variable is looked at. -/
structure CallTwins (s t : Sys) : Prop extends Twins (fun _ _ => True) s t where
  address : addressStep s.device.machineState = none ∨
    addressOf s.ioregisters.toUInt32 = addressOf t.ioregisters.toUInt32

theorem SameCommand.refl (w : UInt64) : SameCommand w w := ⟨rfl, fun _ => rfl⟩

theorem SameFields.refl (w : UInt64) : SameFields w w := ⟨SameCommand.refl w, rfl⟩

theorem Twins.mono {R R' : UInt64 → UInt64 → Prop} {s t : Sys} (h : Twins R s t) (hR : ∀ w w', R w w' → R' w w') :
    Twins R' s t :=
  ⟨h.device, h.clock, h.inStorage, h.words.imp_right (hR _ _)⟩

theorem Twins.fields {s t : Sys} (h : Twins Eq s t) : Twins SameFields s t :=
  h.mono fun w _ hw => hw ▸ SameFields.refl w

theorem Twins.ended {s t : Sys} (h : Twins SameFields s t) : CallTwins s t := by
  refine ⟨h.mono fun _ _ _ => trivial, ?_⟩
  rcases h.words with hb | hw
  · rw [hb]
    exact .inl rfl
  · exact .inr hw.address

/-- The event without the word the handler peeks. -/
def Trace.forgetWord : Trace → Trace
  | .access op before _ timenow settime outcome => .access op before 0 timenow settime outcome
  | .waited intervalUs result => .waited intervalUs result

section

variable {waiting : Waiting} {R R' : UInt64 → UInt64 → Prop} {s t : Sys}

/-- What is asked of the words two twins peek: unless the emulator exits on both, it does the same on
both, and leaves words related by `R'`. -/
def Handled (R' : UInt64 → UInt64 → Prop) (d : Device) (w w' : UInt64) : Prop :=
  d.machineState ≠ .bug → ∀ timenow settime,
    handleWatchpointIoregisters d w timenow settime = handleWatchpointIoregisters d w' timenow settime ∧
      ∀ r, handleWatchpointIoregisters d w timenow settime = .ok r →
        r.device.machineState = .bug ∨ R' (r.poke.getD w) (r.poke.getD w')

theorem Twins.trap (h : Twins R s t) (op : Op) {w w' : UInt64} (hw : Handled R' s.device w w') :
    (Stack.trap op w s).1.map Trace.forgetWord = (Stack.trap op w' t).1.map Trace.forgetWord ∧
      Option.Rel (fun x y => x.1 = y.1 ∧ Twins R' x.2 y.2) (Stack.trap op w s).2 (Stack.trap op w' t).2 := by
  unfold Stack.trap
  rw [← h.device, ← h.clock]
  by_cases hb : s.device.machineState = .bug
  · rw [handle_bug hb, handle_bug hb]
    exact ⟨rfl, .none⟩
  · obtain ⟨hout, hwords⟩ := hw hb (s.clock 0) (s.clock 1)
    rw [← hout]
    refine ⟨rfl, ?_⟩
    cases hr : handleWatchpointIoregisters s.device w (s.clock 0) (s.clock 1) with
    | error x => exact .none
    | ok r =>
      refine .some ⟨rfl, rfl, rfl, ?_, hwords r hr⟩
      obtain ⟨_, ⟨_, hmove⟩ | ⟨_, rfl⟩⟩ := handle_inv h.inStorage hr
      · exact hmove.inStorage h.inStorage
      · exact h.inStorage

theorem Twins.store (h : Twins R s t) (offset value : UInt8)
    (hw : Handled R' s.device (setByte s.ioregisters offset value) (setByte t.ioregisters offset value)) :
    Alike (env waiting) Trace.forgetWord (ask (.store offset value)) s t fun _ => Twins R' := by
  obtain ⟨hevents, hresult⟩ := h.trap (.store offset value) hw
  refine Alike.call hevents ?_
  rw [env_store, env_store]
  generalize (Stack.trap _ _ s).2 = x at hresult ⊢
  generalize (Stack.trap _ _ t).2 = y at hresult ⊢
  cases hresult with
  | none => exact .none
  | some hxy => exact .some ⟨rfl, hxy.2⟩

/-- What agrees before an access agrees after it: the handler pokes the same word into both. -/
theorem getD_related (hrefl : ∀ w, R w w) {w w' : UInt64} (hw : R w w') (poke : Option UInt64) :
    R (poke.getD w) (poke.getD w') := by
  cases poke with
  | none => exact hw
  | some p => exact hrefl p

/-! ## What a driver asks for, in lockstep -/

theorem CallTwins.setup (h : CallTwins s t) (k : Kind) :
    Alike (env waiting) Trace.forgetWord (ask (.store ioregCommand k.setup.toUInt8)) s t
      fun _ => Twins SameCommand := by
  have hne : k.setup.toUInt8.toUInt32 ≠ cDummy := by cases k <;> decide
  have hw : SameCommand (setByte s.ioregisters ioregCommand k.setup.toUInt8)
      (setByte t.ioregisters ioregCommand k.setup.toUInt8) := by
    constructor
    · rw [commandOf_setByte_command, commandOf_setByte_command]
    · intro hc
      rw [commandOf_setByte_command] at hc
      exact absurd hc hne
  refine h.store ioregCommand _ fun _ _ _ =>
    ⟨handle_congr hw.command (fun haddr => ?_) hw.data _ _, fun r _ => .inr (getD_related SameCommand.refl hw r.poke)⟩
  rw [addressOf_setByte_command, addressOf_setByte_command]
  exact h.address.resolve_left haddr

/-- Words that agree in all fields stay so. -/
theorem handled_sameFields {d : Device} {w w' : UInt64} (h : d.machineState ≠ .bug → SameFields w w') :
    Handled SameFields d w w' := fun hb _ _ =>
  ⟨handle_congr (h hb).command (fun _ => (h hb).address) (h hb).data _ _,
    fun r _ => .inr (getD_related SameFields.refl (h hb) r.poke)⟩

theorem Twins.address (h : Twins SameCommand s t) (value : UInt8) :
    Alike (env waiting) Trace.forgetWord (ask (.store ioregAddress value)) s t fun _ => Twins SameFields := by
  refine h.store ioregAddress value (handled_sameFields fun hb => ⟨⟨?_, fun hc => ?_⟩, ?_⟩)
  · rw [commandOf_setByte_address, commandOf_setByte_address, (h.words.resolve_left hb).command]
  · rw [commandOf_setByte_address] at hc
    rw [dataOf_setByte_address, dataOf_setByte_address, (h.words.resolve_left hb).data hc]
  · rw [addressOf_setByte_address, addressOf_setByte_address]

theorem Twins.data (h : Twins SameFields s t) (value : UInt8) :
    Alike (env waiting) Trace.forgetWord (ask (.store ioregData value)) s t fun _ => Twins SameFields := by
  refine h.store ioregData value (handled_sameFields fun hb => ⟨⟨?_, fun _ => ?_⟩, ?_⟩)
  · rw [commandOf_setByte_data, commandOf_setByte_data, (h.words.resolve_left hb).command]
  · rw [dataOf_setByte_data, dataOf_setByte_data]
  · rw [addressOf_setByte_data, addressOf_setByte_data, (h.words.resolve_left hb).address]

/-- Behind an accepted EXECUTE the variables are equal: both hold the word the handler poked. -/
theorem Twins.execute (h : Twins SameFields s t) (k : Kind) :
    Alike (env waiting) Trace.forgetWord (ask (.store ioregCommand k.execute.toUInt8)) s t fun _ => Twins Eq := by
  have hexecute (w : UInt64) : commandOf (setByte w ioregCommand k.execute.toUInt8).toUInt32 = k.execute := by
    rw [commandOf_setByte_command]
    cases k <;> rfl
  refine h.store ioregCommand _ fun hb _ _ => ⟨handle_congr ?_ (fun _ => ?_) (fun hc => ?_) _ _, fun r hr => ?_⟩
  · rw [hexecute, hexecute]
  · rw [addressOf_setByte_command, addressOf_setByte_command, (h.words.resolve_left hb).address]
  · rw [hexecute] at hc
    exact absurd hc.symm k.dummy_ne_execute
  · obtain ⟨_, ⟨_, hmove⟩ | ⟨_, rfl⟩⟩ := handle_inv h.inStorage hr
    · rw [hmove.poke_of_execute (hexecute _)]
      exact .inr rfl
    · exact .inl rfl

theorem Twins.wait (h : Twins R s t) (us : UInt32) :
    Alike (env waiting) Trace.forgetWord (ask (.wait us)) s t fun _ => Twins R := by
  refine Alike.call ?_ ?_ <;> simp only [env] <;> rw [← h.device, ← h.clock]
  cases waiting us s.device s.clock with
  | none => exact .none
  | some x => exact .some ⟨rfl, rfl, rfl, h.inStorage, h.words⟩

theorem Twins.load (h : Twins Eq s t) :
    Alike (env waiting) Trace.forgetWord (ask .load) s t fun _ => Twins Eq := by
  have hw : Handled Eq s.device s.ioregisters t.ioregisters := fun hb _ _ => by
    rw [h.words.resolve_left hb]
    exact ⟨rfl, fun _ _ => .inr rfl⟩
  obtain ⟨hevents, hresult⟩ := h.trap .load hw
  refine Alike.call hevents ?_
  rw [env_load, env_load]
  generalize hx : (Stack.trap _ _ s).2 = x at hresult ⊢
  generalize (Stack.trap _ _ t).2 = y at hresult ⊢
  cases hresult with
  | none => exact .none
  | some hxy =>
    -- a load that is answered was not made in the bug state, so the variables were equal
    have hb := (handle_inv h.inStorage (trap_some hx).1).1
    rw [h.words.resolve_left hb]
    exact .some ⟨congrArg (fun r : Reply => (r.cpu.getD t.ioregisters.toUInt32).toUInt8) hxy.1, hxy.2⟩

/-! ## Calls in lockstep -/

theorem Twins.nandProgram (buffer : Buffer) (pos : Nat) (length : UInt32) (h : Twins SameFields s t) :
    Alike (env waiting) Trace.forgetWord (Alpha0.nandProgram buffer pos length) s t fun _ => Twins SameFields := by
  induction pos, length using Alpha0.nandProgram.induct generalizing s t with
  | case1 pos =>
    rw [Alpha0.nandProgram, dif_pos rfl]
    exact .pure h
  | case2 pos length hne ih =>
    rw [Alpha0.nandProgram, dif_neg hne]
    exact (h.data _).bind fun _ s' t' h' => ih h'

theorem Twins.nandRead (buffer : Buffer) (pos : Nat) (length : UInt32) (h : Twins Eq s t) :
    Alike (env waiting) Trace.forgetWord (Alpha0.nandRead buffer pos length) s t fun _ => Twins Eq := by
  induction buffer, pos, length using Alpha0.nandRead.induct generalizing s t with
  | case1 buffer pos =>
    rw [Alpha0.nandRead, dif_pos rfl]
    exact .pure h
  | case2 buffer pos length hne ih =>
    rw [Alpha0.nandRead, dif_neg hne]
    exact h.load.bind fun byte s' t' h' => ih byte h'

theorem Twins.jtWriteLoop (buffer : Buffer) (bytesLeft cursor : UInt32) (byteAddr : UInt8)
    (h : Twins SameFields s t) :
    Alike (env waiting) Trace.forgetWord (Framework.jtWriteLoop Alpha0.jumpTable buffer bytesLeft cursor byteAddr) s t
      fun _ => Twins SameFields := by
  induction bytesLeft, cursor, byteAddr using jtWriteLoop.induct generalizing s t with
  | case1 cursor byteAddr =>
    rw [Framework.jtWriteLoop, dif_pos rfl]
    exact .pure h
  | case2 bytesLeft cursor byteAddr hne size =>
    rename_i ih
    rw [Framework.jtWriteLoop, dif_neg hne]
    refine (h.nandProgram buffer _ size).bind fun _ s₁ t₁ h₁ => (h₁.execute .program).bind fun _ s₂ t₂ h₂ =>
      (h₂.wait _).bind fun r s₃ t₃ h₃ => ?_
    split_ifs with hr
    · exact .pure h₃.fields
    · exact ih h₃.fields

theorem Twins.jtReadLoop (buffer : Buffer) (bytesLeft cursor : UInt32) (byteAddr : UInt8)
    (h : Twins SameFields s t) :
    Alike (env waiting) Trace.forgetWord (Framework.jtReadLoop Alpha0.jumpTable buffer bytesLeft cursor byteAddr) s t
      fun _ => Twins SameFields := by
  induction buffer, bytesLeft, cursor, byteAddr using jtReadLoop.induct generalizing s t with
  | case1 buffer cursor byteAddr =>
    rw [Framework.jtReadLoop, dif_pos rfl]
    exact .pure h
  | case2 buffer bytesLeft cursor byteAddr hne ih =>
    rw [Framework.jtReadLoop, dif_neg hne]
    refine (h.execute .read).bind fun _ s₁ t₁ h₁ => (h₁.wait _).bind fun r s₂ t₂ h₂ => ?_
    split_ifs with hr
    · exact .pure h₂.fields
    · exact (h₂.nandRead buffer _ _).bind fun buffer' s₃ t₃ h₃ => ih buffer' h₃.fields

theorem Twins.jtEraseLoop (numBlocks b : UInt32) (h : Twins SameFields s t) :
    Alike (env waiting) Trace.forgetWord (Framework.jtEraseLoop Alpha0.jumpTable numBlocks b) s t
      fun _ => Twins SameFields := by
  induction b using jtEraseLoop.induct numBlocks generalizing s t with
  | case1 b hlt ih =>
    rw [Framework.jtEraseLoop, dif_pos hlt]
    refine (h.execute .erase).bind fun _ s₁ t₁ h₁ => (h₁.wait _).bind fun r s₂ t₂ h₂ => ?_
    split_ifs with hr
    · exact .pure h₂.fields
    · exact ih h₂.fields
  | case2 b hge =>
    rw [Framework.jtEraseLoop, dif_neg hge]
    exact .pure h

theorem CallTwins.addresses (h : CallTwins s t) (k : Kind) (block page byte : UInt8) {α : Type} {p : DriverM α}
    {Q : α → Sys → Sys → Prop}
    (hp : ∀ s' t', Twins SameFields s' t' → Alike (env waiting) Trace.forgetWord p s' t' Q) :
    Alike (env waiting) Trace.forgetWord
      (ask (.store ioregCommand k.setup.toUInt8) >>= fun _ => ask (.store ioregAddress block) >>= fun _ =>
        ask (.store ioregAddress page) >>= fun _ => ask (.store ioregAddress byte) >>= fun _ => p) s t Q :=
  (h.setup k).bind fun _ _ _ h₁ => (h₁.address block).bind fun _ _ _ h₂ =>
    ((h₂.mono fun _ _ hw => hw.toSameCommand).address page).bind fun _ _ _ h₃ =>
      ((h₃.mono fun _ _ hw => hw.toSameCommand).address byte).bind fun _ _ _ h₄ => hp _ _ h₄

theorem CallTwins.perform (call : Call) (h : CallTwins s t) :
    Alike (env waiting) Trace.forgetWord call.perform s t fun _ => CallTwins := by
  cases call with
  | write buffer offset size =>
    have hw : Alike (env waiting) Trace.forgetWord (writeNand Alpha0.getDriver buffer offset size) s t
        fun _ => Twins SameFields :=
      h.addresses .program _ _ _ fun _ _ h' => h'.jtWriteLoop buffer size 0 _
    exact hw.bind fun r _ _ h' => .pure h'.ended
  | read buffer offset size =>
    have hr : Alike (env waiting) Trace.forgetWord (readNand Alpha0.getDriver buffer offset size) s t
        fun _ => Twins SameFields :=
      h.addresses .read _ _ _ fun _ _ h' => h'.jtReadLoop buffer size 0 _
    exact hr.bind fun r _ _ h' => .pure h'.ended
  | erase offset size =>
    have he : Alike (env waiting) Trace.forgetWord (eraseNand Alpha0.getDriver offset size) s t
        fun _ => Twins SameFields :=
      (h.setup .erase).bind fun _ _ _ h₁ => (h₁.address _).bind fun _ _ _ h₂ =>
        h₂.jtEraseLoop (blocksToErase offset size) 0
    exact he.bind fun r _ _ h' => .pure h'.ended

/-- Twins stay twins through every sequence of calls, on every clock and whatever the waits return. -/
theorem CallTwins.performAll (calls : List Call) (h : CallTwins s t) :
    Alike (env waiting) Trace.forgetWord (Stack.performAll calls) s t fun _ => CallTwins := by
  induction calls generalizing s t with
  | nil => exact .pure h
  | cons call calls ih =>
    exact (h.perform call).bind fun ret _ _ h₁ => (ih h₁).bind fun rets _ _ h₂ => .pure h₂

end

end NandRig.Stack
