/-
What the storage holds. Only two accesses reach it: an accepted C_ERASE_EXECUTE zeroes the block its
session has come to, and an accepted C_PROGRAM_EXECUTE fills the page its session has come to. A history
of the accepted accesses keeps what each of them stores, so every byte of storage is the one given by
the last of them that covers its address.
-/
import NandRig.Device.Session

namespace NandRig.Emulator

open Machine RingMem

/-! ## The history of an erase session -/

/-- The address byte of the latest erase session, and the number of C_ERASE_EXECUTE accepted in it. -/
structure EraseSession where
  block : UInt32 := 0
  executes : Nat := 0
  deriving DecidableEq, Repr

namespace EraseSession

/-- An accepted access in state `m`. -/
def access (m : MachineState) (peeked : UInt32) (s : EraseSession) : EraseSession :=
  match m with
  | .eraseAwaitingBlockAddress => { block := addressOf peeked }
  | .eraseAwaitingExecute => if commandOf peeked = cEraseExecute then { s with executes := s.executes + 1 } else s
  | _ => s

/-- The block to erase next: `executes` blocks after the one addressed, around the end of storage. -/
def next (s : EraseSession) : Nat := (s.block.toNat + s.executes) % 256

end EraseSession

/-! ## The history of the storage -/

/-- The sessions, and what the accepted executes have stored. -/
structure History where
  program : Session := {}
  erase : EraseSession := {}
  executed : List (Segment UInt8) := []

namespace History

/-- What an accepted access stores: a page of a program session, or a zeroed block. -/
def stores (peeked : UInt32) (s : History) : List (Segment UInt8) :=
  if commandOf peeked = cProgramExecute then [⟨256, s.program.page, s.program.image⟩]
  else if commandOf peeked = cEraseExecute then [⟨65536, s.erase.next, fun _ => 0⟩]
  else []

/-- An accepted access in state `m`. -/
def access (m : MachineState) (peeked : UInt32) (s : History) : History where
  program := s.program.access m peeked
  erase := s.erase.access m peeked
  executed := s.executed ++ s.stores peeked

def record (d : Device) (e : Event) (d' : Device) (s : History) : History :=
  match e with
  | .access w _ _ => if d'.machineState = .bug then s else s.access d.machineState w.toUInt32
  | _ => s

theorem stores_of_ne {peeked : UInt32} (hp : commandOf peeked ≠ Kind.program.execute)
    (he : commandOf peeked ≠ Kind.erase.execute) (s : History) : s.stores peeked = [] :=
  (if_neg hp).trans (if_neg he)

end History

/-- A run from `parser_init()` with the history of the storage. -/
def storageRun (d : Device) (es : List Event) : Except Halt (Device × History) :=
  run (withHistory step History.record) (parserInit d, {}) es

/-- The history restricts no run. -/
theorem exists_storageRun_iff {d₀ d : Device} {es : List Event} :
    (∃ s, storageRun d₀ es = .ok (d, s)) ↔ run step (parserInit d₀) es = .ok d :=
  run_withHistory_iff

/-- An accepted EXECUTE command of a program or an erase session is made in that session. -/
theorem Move.session_of_execute {d : Device} {peeked : UInt32} {settime : TimeUs} {r : Reply}
    (h : Move d peeked settime r) {k : Kind} (hk : k ≠ .read) (hc : commandOf peeked = k.execute) :
    d.machineState = k.session := by
  cases h with
  | opened j hm hc' => exact absurd (hc'.symm.trans hc) (Kind.setup_ne_execute j k)
  | switched i j hm hc' => exact absurd (hc'.symm.trans hc) (Kind.setup_ne_execute j k)
  | address j shift next hm hc' => exact absurd (hc'.symm.trans hc) (Kind.setup_ne_execute j k)
  | readExecute hm hc' => exact absurd (Kind.execute_injective (j := .read) (hc'.symm.trans hc)) hk.symm
  | readByte hm hc' => exact absurd (hc'.symm.trans hc) (Kind.dummy_ne_execute k)
  | programByte hm hc' => exact absurd (hc'.symm.trans hc) (Kind.dummy_ne_execute k)
  | programExecute hm hc' =>
    obtain rfl := Kind.execute_injective (j := .program) (hc'.symm.trans hc)
    exact hm
  | eraseExecute hm hc' =>
    obtain rfl := Kind.execute_injective (j := .erase) (hc'.symm.trans hc)
    exact hm

/-! ## The invariant -/

structure HistoryInv (x : Device × History) : Prop where
  session : SessionInv (x.1, x.2.program)
  erase : x.1.machineState = .eraseAwaitingExecute → x.1.store.cursor.toNat / 65536 = x.2.erase.next
  storage : x.1.store.dataStore = storeSegments x.2.executed fun _ => 0

/-- What the history says an accepted access stores is what it stores. -/
theorem Move.dataStore {d : Device} {s : History} (h : HistoryInv (d, s)) {peeked : UInt32} {settime : TimeUs}
    {r : Reply} (hmove : Move d peeked settime r) :
    r.device.store.dataStore = storeSegments (s.stores peeked) d.store.dataStore := by
  have setup (k : Kind) (hc : commandOf peeked = k.setup) : s.stores peeked = [] :=
    History.stores_of_ne (hc ▸ Kind.setup_ne_execute k _) (hc ▸ Kind.setup_ne_execute k _) s
  have dummy (hc : commandOf peeked = cDummy) : s.stores peeked = [] :=
    History.stores_of_ne (hc ▸ Kind.dummy_ne_execute _) (hc ▸ Kind.dummy_ne_execute _) s
  cases hmove with
  | opened k hm hc => rw [setup k hc]; rfl
  | switched j k hm hc => rw [setup k hc]; rfl
  | address k shift next hm hc => rw [setup k hc]; rfl
  | readExecute hm hc =>
    have hne : cReadExecute ≠ cProgramExecute ∧ cReadExecute ≠ cEraseExecute := by decide
    rw [History.stores_of_ne (hc ▸ hne.1) (hc ▸ hne.2)]
    rfl
  | readByte hm hc =>
    rw [dummy hc]
    exact incrementCursor_dataStore false _
  | programByte hm hc =>
    rw [dummy hc]
    exact Store.putByte_dataStore _ _
  | programExecute hm hc =>
    unfold History.stores
    rw [if_pos hc]
    exact h.session.programPage hm
  | eraseExecute hm hc =>
    have hne : cEraseExecute ≠ cProgramExecute := by decide
    unfold History.stores
    rw [hc, if_neg hne, if_pos rfl, ← h.erase hm]
    rfl

/-- An accepted access leaves the cursor in the block to erase next. -/
theorem Move.eraseNext {d : Device} {s : History} (h : HistoryInv (d, s)) {peeked : UInt32} {settime : TimeUs}
    {r : Reply} (hmove : Move d peeked settime r) (hr : r.device.machineState = .eraseAwaitingExecute) :
    r.device.store.cursor.toNat / 65536 = (s.erase.access d.machineState peeked).next := by
  have hs : InStorage d.store := h.session.inStorage
  cases hmove with
  | opened k hm hc => cases k <;> cases hr
  | switched j k hm hc => cases k <;> cases hr
  | address k shift next hm hc =>
    dsimp only at hr
    subst hr
    have hv := addressOf_lt peeked
    cases hd : d.machineState with
    | eraseAwaitingBlockAddress =>
      rw [hd] at hm
      cases hm
      show _ = ((addressOf peeked).toNat + 0) % 256
      rw [setCursorByte_block hs hv]
      omega
    | _ => rw [hd] at hm; cases hm
  | readExecute hm hc => cases hr
  | readByte hm hc => rw [show d.machineState = _ from hr] at hm; cases hm
  | programByte hm hc => rw [show d.machineState = _ from hr] at hm; cases hm
  | programExecute hm hc => rw [show d.machineState = _ from hr] at hm; cases hm
  | eraseExecute hm hc =>
    have hcur : d.store.cursor.toNat / 65536 = (s.erase.block.toNat + s.erase.executes) % 256 := h.erase hm
    have hnext : (s.erase.access d.machineState peeked).next =
        (s.erase.block.toNat + (s.erase.executes + 1)) % 256 := by
      unfold EraseSession.access
      rw [hm]
      dsimp only
      rw [if_pos hc]
      rfl
    rw [hnext, Store.eraseBlock_cursor hs]
    omega

theorem historyInv_init (d : Device) : HistoryInv (parserInit d, {}) :=
  ⟨sessionInv_init d, fun h => (by cases h), rfl⟩

/-- One step of the run keeps the invariant. -/
theorem historyInv_step (x : Device × History) (e : Event) (y : Device × History) (h : HistoryInv x)
    (hstep : withHistory step History.record x e = .ok y) : HistoryInv y := by
  obtain ⟨d, s⟩ := x
  obtain ⟨d', s'⟩ := y
  obtain ⟨h1, h2⟩ := withHistory_ok hstep
  dsimp only at h1 h2
  subst h2
  have hsession := sessionInv_step _ e _ h.session (withHistory_of_ok h1 s.program)
  cases e with
  | access w t t' =>
    obtain ⟨r, hr, rfl⟩ := step_access_ok h1
    obtain ⟨_, ⟨_, hmove⟩ | ⟨_, rfl⟩⟩ := handle_inv h.session.inStorage hr
    · have hb : r.device.machineState ≠ .bug := hmove.not_bug
      simp only [Session.record, if_neg hb] at hsession
      simp only [History.record, if_neg hb]
      refine ⟨hsession, hmove.eraseNext h, ?_⟩
      rw [hmove.dataStore h, h.storage]
      exact (storeSegments_append _ _ _).symm
    · exact ⟨hsession, fun hm => (by cases hm), h.storage⟩
  | gpioSet rdi rsi =>
    cases h1
    refine ⟨hsession, ?_, ?_⟩
    · unfold handleBreakpointGpioSet
      split_ifs
      · intro hm
        cases hm
      · exact h.erase
    · unfold handleBreakpointGpioSet
      split_ifs <;> exact h.storage
  | gpioGet rdi t => cases h1; exact h

theorem storageRun_inv {d : Device} {es : List Event} {x : Device × History} (h : storageRun d es = .ok x) :
    HistoryInv x :=
  run_inv historyInv_step (historyInv_init d) h

/-! ## What one event does to storage -/

/-- An accepted access changes storage by what the history takes down for it. -/
theorem HistoryInv.accepted_dataStore {d : Device} {s : History} (h : HistoryInv (d, s)) {e : Event} {d' : Device}
    (hstep : step d e = .ok d') {c : UInt32} (hacc : accepted e d' = some c) :
    ∃ peeked, commandOf peeked = c ∧ d'.store.dataStore = storeSegments (s.stores peeked) d.store.dataStore := by
  obtain ⟨w, t, t', rfl, hc, hne⟩ := accepted_eq_some.1 hacc
  obtain ⟨r, hr, rfl⟩ := step_access_ok hstep
  obtain ⟨_, ⟨_, hmove⟩ | ⟨_, rfl⟩⟩ := handle_inv h.session.inStorage hr
  · exact ⟨w.toUInt32, hc, hmove.dataStore h⟩
  · exact absurd rfl hne

/-- No other event changes storage. -/
theorem step_dataStore_of_not_accepted {d : Device} (hs : InStorage d.store) {e : Event} {d' : Device}
    (hstep : step d e = .ok d') (hnone : accepted e d' = none) : d'.store.dataStore = d.store.dataStore := by
  cases e with
  | access w t t' =>
    obtain ⟨r, hr, rfl⟩ := step_access_ok hstep
    obtain ⟨_, ⟨_, hmove⟩ | ⟨_, rfl⟩⟩ := handle_inv hs hr
    · rw [accepted, if_neg hmove.not_bug] at hnone
      cases hnone
    · rfl
  | gpioSet rdi rsi =>
    cases hstep
    unfold handleBreakpointGpioSet
    split_ifs <;> rfl
  | gpioGet rdi t => cases hstep; rfl

/-- An accepted C_PROGRAM_EXECUTE is made in a session whose three addresses have been given. -/
theorem HistoryInv.program_addresses {d : Device} {s : History} (h : HistoryInv (d, s)) {e : Event} {d' : Device}
    (hstep : step d e = .ok d') (hacc : accepted e d' = some cProgramExecute) :
    ∃ b p y, s.program.addresses = [b, p, y] ∧
      s.program.page = (256 * b.toNat + p.toNat + s.program.executes) % 65536 := by
  obtain ⟨w, t, t', rfl, hc, hne⟩ := accepted_eq_some.1 hacc
  obtain ⟨r, hr, rfl⟩ := step_access_ok hstep
  obtain ⟨_, ⟨_, hmove⟩ | ⟨_, rfl⟩⟩ := handle_inv h.session.inStorage hr
  · have hm := hmove.session_of_execute (k := .program) (by decide) hc
    obtain ⟨b, p, y, ha, hpage, _⟩ := (h.session.filling hm).page_eq
    exact ⟨b, p, y, ha, hpage⟩
  · exact absurd rfl hne

/-- The storage after any run. An accepted C_ERASE_EXECUTE, the `executes`-th of its session, zeroes the
block that many blocks after the one addressed and nothing else; an accepted C_PROGRAM_EXECUTE leaves all
but one page; no other event changes a byte. Every byte is the one stored by the last accepted execute that
covers it, or zero. -/
theorem storage_after_run (d₀ : Device) (es : List Event) {d : Device} {s : History}
    (hrun : storageRun d₀ es = .ok (d, s)) :
    (∀ e d', step d e = .ok d' →
      (accepted e d' = some cEraseExecute → ∀ a, d'.store.dataStore a =
        if a / 65536 = (s.erase.block.toNat + s.erase.executes) % 256 then 0 else d.store.dataStore a) ∧
      (accepted e d' = some cProgramExecute → ∃ b p y, s.program.addresses = [b, p, y] ∧
        ∀ a, a / 256 ≠ (256 * b.toNat + p.toNat + s.program.executes) % 65536 →
          d'.store.dataStore a = d.store.dataStore a) ∧
      (accepted e d' ≠ some cEraseExecute → accepted e d' ≠ some cProgramExecute →
        d'.store.dataStore = d.store.dataStore)) ∧
    ∀ a, (∀ before w after, s.executed = before ++ w :: after → w.Covers a → (∀ v ∈ after, ¬ v.Covers a) →
        d.store.dataStore a = w.value a) ∧
      ((∀ w ∈ s.executed, ¬ w.Covers a) → d.store.dataStore a = 0) := by
  have h := storageRun_inv hrun
  refine ⟨fun e d' hstep => ⟨fun hacc a => ?_, fun hacc => ?_, fun herase hprogram => ?_⟩, fun a => ⟨?_, ?_⟩⟩
  · obtain ⟨peeked, hc, heq⟩ := h.accepted_dataStore hstep hacc
    have hne : cEraseExecute ≠ cProgramExecute := by decide
    rw [heq, History.stores, hc, if_neg hne, if_pos rfl]
    rfl
  · obtain ⟨peeked, hc, heq⟩ := h.accepted_dataStore hstep hacc
    obtain ⟨b, p, y, ha, hpage⟩ := h.program_addresses hstep hacc
    refine ⟨b, p, y, ha, fun a hne => ?_⟩
    rw [← hpage] at hne
    rw [heq, History.stores, hc, if_pos rfl]
    exact Segment.store_of_not_covers (w := ⟨256, s.program.page, s.program.image⟩) hne _
  · cases hacc : accepted e d' with
    | none => exact step_dataStore_of_not_accepted h.session.inStorage hstep hacc
    | some c =>
      obtain ⟨peeked, rfl, heq⟩ := h.accepted_dataStore hstep hacc
      rw [heq, History.stores_of_ne]
      · rfl
      · exact fun hc => hprogram (hacc.trans (congrArg some hc))
      · exact fun hc => herase (hacc.trans (congrArg some hc))
  · intro before w after hlog hw hlast
    rw [h.storage, hlog]
    exact storeSegments_of_last hw hlast _
  · intro hnone
    rw [h.storage]
    exact storeSegments_of_none hnone _

/-- A byte stored in block 0, and an erase session on the last block that has erased it. -/
def eraseAroundEnd : List Event :=
  [.access 0x030000 0 0, .access 0x030000 0 0, .access 0x030000 0 0, .access 0x030000 0 0,
    .access 0x070011 0 0, .access 0x040011 0 0, .access 0x050011 600 600, .access 0x05FF11 600 600,
    .access 0x06FF11 600 600]

/-- The next C_ERASE_EXECUTE of that session erases block 0. -/
theorem storage_after_run_around_end :
    ∃ d s d', storageRun blankDevice eraseAroundEnd = .ok (d, s) ∧ step d (.access 0x06FF11 2600 2600) = .ok d' ∧
      d.store.dataStore 0 = 0x11 ∧ d'.store.dataStore 0 = 0 := by
  have hend : (storageRun blankDevice eraseAroundEnd).toOption.map
      (fun x => (x.1.machineState, x.1.deadline, x.2.erase, x.1.store.dataStore 0)) =
        some (.eraseAwaitingExecute, 2600, ⟨255, 1⟩, 0x11) := by decide +kernel
  obtain ⟨⟨d, s⟩, hrun, hx⟩ := run_replay hend
  simp only [Prod.mk.injEq] at hx
  obtain ⟨hm, hdl, herase, h0⟩ := hx
  have hready : ¬ Busy d 2600 := by simp [Busy, hdl, beforeDeadline]
  have hr := handle_of_move (w := 0x06FF11) (storageRun_inv hrun).session.inStorage hready
    (.eraseExecute hm rfl : Move d _ 2600 _)
  have hstep : step d (.access 0x06FF11 2600 2600) = .ok _ := congrArg (Except.map Reply.device) hr
  refine ⟨d, s, _, hrun, hstep, h0, ?_⟩
  obtain ⟨hevent, _⟩ := storage_after_run blankDevice eraseAroundEnd hrun
  have hbyte := (hevent _ _ hstep).1 (accepted_eq_some.2 ⟨_, _, _, rfl, rfl, by simp [hm]⟩) 0
  rw [herase] at hbyte
  exact hbyte

end NandRig.Emulator
