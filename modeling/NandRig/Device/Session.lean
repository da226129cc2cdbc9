/-
Program sessions. A history of the accepted accesses alone (the addresses, the number of pages
executed and the bytes given since) says where a program session stands: which page it is
filling and what that page becomes when C_PROGRAM_EXECUTE is accepted. The cache is blank on every
way into a session, so nothing else reaches storage.
-/
import NandRig.Device.Run

namespace NandRig.Emulator

open Machine RingMem

/-! ## The history of a program session -/

/-- The address bytes of the latest program session, the number of C_PROGRAM_EXECUTE accepted in
it, and the bytes of the C_DUMMY accesses accepted since the addresses or the latest execute. -/
structure Session where
  addresses : List UInt32 := []
  executes : Nat := 0
  data : List UInt8 := []
  deriving DecidableEq, Repr

namespace Session

/-- An accepted access in state `m`. -/
def access (m : MachineState) (peeked : UInt32) (s : Session) : Session :=
  match m with
  | .programAwaitingBlockAddress => { addresses := [addressOf peeked] }
  | .programAwaitingPageAddress => { s with addresses := s.addresses ++ [addressOf peeked] }
  | .programAwaitingByteAddress => { s with addresses := s.addresses ++ [addressOf peeked] }
  | .programAcceptingData =>
    if commandOf peeked = cDummy then { s with data := s.data ++ [dataOf peeked] }
    else if commandOf peeked = cProgramExecute then { s with executes := s.executes + 1, data := [] }
    else s
  | _ => s

def record (d : Device) (e : Event) (d' : Device) (s : Session) : Session :=
  match e with
  | .access w _ _ => if d'.machineState = .bug then s else s.access d.machineState w.toUInt32
  | _ => s

/-- The page being filled: `executes` pages after the one addressed, around the end of storage. -/
def page (s : Session) : Nat :=
  (256 * (s.addresses.getD 0 0).toNat + (s.addresses.getD 1 0).toNat + s.executes) % 65536

/-- The first byte filled: the one addressed in the first page, then the first of each page. -/
def start (s : Session) : Nat := if s.executes = 0 then (s.addresses.getD 2 0).toNat else 0

/-- The page the data makes, filled from `start` on, around the end of the page. -/
def image (s : Session) : Nat → UInt8 :=
  writeRange 256 (fun k => s.data.getD k 0) s.start s.data.length fun _ => 0

end Session

/-- A run from `parser_init()` with the history of its program sessions. -/
def sessionRun (d : Device) (es : List Event) : Except Halt (Device × Session) :=
  run (withHistory step Session.record) (parserInit d, {}) es

/-- The history restricts no run. -/
theorem exists_sessionRun_iff {d₀ d : Device} {es : List Event} :
    (∃ s, sessionRun d₀ es = .ok (d, s)) ↔ run step (parserInit d₀) es = .ok d :=
  run_withHistory_iff

/-! ## The invariant -/

/-- The device is filling the page the history says, with the data it says. -/
structure Session.Filling (s : Session) (store : Store) : Prop where
  addressed : s.addresses.length = 3
  page : store.cursor.toNat / 256 = s.page
  byte : store.cursor.toNat % 256 = (s.start + s.data.length) % 256
  cache : store.cache = s.image

/-- What the history says in each state of a program session. -/
def Session.Agrees (s : Session) (d : Device) : Prop :=
  match d.machineState with
  | .programAwaitingPageAddress =>
    ∃ b, s = { addresses := [b] } ∧ b.toNat < 256 ∧ d.store.cursor.toNat / 65536 = b.toNat
  | .programAwaitingByteAddress =>
    ∃ b p, s = { addresses := [b, p] } ∧ b.toNat < 256 ∧ p.toNat < 256 ∧
      d.store.cursor.toNat / 256 = 256 * b.toNat + p.toNat
  | .programAcceptingData => s.Filling d.store
  | _ => True

/-- The states on the way into a program session. -/
def BeforeData (m : MachineState) : Prop :=
  m = .initialState ∨ m = .programAwaitingBlockAddress ∨ m = .programAwaitingPageAddress ∨
    m = .programAwaitingByteAddress

structure SessionInv (x : Device × Session) : Prop where
  inStorage : InStorage x.1.store
  blank : BeforeData x.1.machineState → x.1.store.cache = fun _ => 0
  agrees : x.2.Agrees x.1

theorem SessionInv.filling {d : Device} {s : Session} (h : SessionInv (d, s))
    (hm : d.machineState = .programAcceptingData) : s.Filling d.store := by
  have := h.agrees
  simpa only [Session.Agrees, hm] using this

/-- The invariant after an access that enters a state outside program sessions. -/
theorem sessionInv_of_outside {d : Device} {s : Session} (hs : InStorage d.store)
    (h1 : ¬ BeforeData d.machineState) (h2 : d.machineState ≠ .programAcceptingData) : SessionInv (d, s) := by
  refine ⟨hs, fun h => absurd h h1, ?_⟩
  unfold Session.Agrees
  dsimp only
  split
  · rename_i h; exact absurd (.inr (.inr (.inl h))) h1
  · rename_i h; exact absurd (.inr (.inr (.inr h))) h1
  · rename_i h; exact absurd h h2
  · trivial

/-- The invariant after an access that opens an operation with a blank cache. -/
theorem sessionInv_awaitingBlock {d : Device} {s : Session} (k : Kind) (hs : InStorage d.store)
    (hc : d.store.cache = fun _ => 0) : SessionInv (enter d k.awaitingBlock, s) := by
  refine ⟨hs, fun _ => hc, ?_⟩
  cases k <;> trivial

/-! ## What the accesses of a session do -/

section Access

variable {d : Device} {s : Session} {peeked : UInt32}

/-- Filling a page: one more byte. -/
theorem Session.Filling.putByte {store : Store} (h : s.Filling store) (byte : UInt8) :
    Session.Filling { s with data := s.data ++ [byte] } (store.putByte byte) := by
  have hcur := Store.putByte_cursor byte store
  refine ⟨h.addressed, ?_, ?_, ?_⟩
  · rw [hcur, show Session.page { s with data := s.data ++ [byte] } = s.page from rfl, ← h.page]
    omega
  · have hb := h.byte
    show _ = (s.start + (s.data ++ [byte]).length) % 256
    rw [hcur, List.length_append, List.length_singleton]
    omega
  · rw [Store.putByte_cache]
    dsimp only [Session.image]
    rw [List.length_append, List.length_singleton, writeRange_succ, h.cache, h.byte]
    congr 1
    · unfold Session.image
      apply writeRange_congr
      intro k hk
      simp [List.getD_eq_getElem?_getD, List.getElem?_append_left hk]
    · simp [List.getD_eq_getElem?_getD]

/-- Filling a page: the next page after C_PROGRAM_EXECUTE. -/
theorem Session.Filling.programPage {store : Store} (hs : InStorage store) (h : s.Filling store) :
    Session.Filling { s with executes := s.executes + 1, data := [] } store.programPage := by
  have hcur := Store.programPage_cursor hs
  have hp := h.page
  unfold Session.page at hp
  refine ⟨h.addressed, ?_, ?_, ?_⟩
  · rw [hcur]
    unfold Session.page
    dsimp only
    omega
  · rw [hcur]
    simp only [Session.start]
    rw [if_neg (by omega), List.length_nil]
    omega
  · rfl

/-- The third address byte opens the first page. -/
theorem Session.filling_of_byteAddress {store : Store} {b p y : UInt32} (hb : b.toNat < 256)
    (hp : p.toNat < 256) (hy : y.toNat < 256) (hc : store.cache = fun _ => 0)
    (hcur : store.cursor.toNat = (256 * b.toNat + p.toNat) * 256 + y.toNat) :
    Session.Filling { addresses := [b, p, y] } store := by
  refine ⟨rfl, ?_, ?_, hc⟩
  · simp only [Session.page, List.getD_cons_zero, List.getD_cons_succ]
    omega
  · simp only [Session.start, if_true, List.getD_cons_zero, List.getD_cons_succ, List.length_nil]
    omega

end Access

/-! ## Every step keeps the invariant -/

theorem sessionInv_init (d : Device) : SessionInv (parserInit d, {}) :=
  ⟨inStorage_init d, fun _ => rfl, trivial⟩

theorem sessionInv_clear (d : Device) (k : Kind) (s : Session) :
    SessionInv (enter (clearState d) k.awaitingBlock, s) :=
  sessionInv_awaitingBlock (d := clearState d) k (inStorage_clear d) rfl

/-- The address states of a session: the history takes the address the cursor takes. -/
theorem sessionInv_address {d : Device} {s : Session} (h : SessionInv (d, s)) {peeked : UInt32} {k : Kind}
    {shift : UInt32} {next : MachineState} (hm : addressStep d.machineState = some (k, shift, next)) :
    SessionInv ({ d with store := setCursorByte (addressOf peeked) shift d.store, machineState := next },
      s.access d.machineState peeked) := by
  obtain ⟨hs, hblank, hagree⟩ := h
  have hv := addressOf_lt peeked
  have hs' := inStorage_setCursorByte hs hv (addressStep_shift hm)
  cases hd : d.machineState with
  | readAwaitingBlockAddress | readAwaitingPageAddress | readAwaitingByteAddress | eraseAwaitingBlockAddress =>
    rw [hd] at hm
    cases hm
    exact sessionInv_of_outside hs' (by simp [BeforeData]) (by simp)
  | programAwaitingBlockAddress =>
    rw [hd] at hm
    cases hm
    -- a new session: whatever the history held of an earlier one is gone
    refine ⟨hs', fun _ => hblank (by simp [BeforeData, hd]), addressOf peeked, rfl, hv, ?_⟩
    dsimp only
    rw [setCursorByte_block hs hv]; omega
  | programAwaitingPageAddress =>
    rw [hd] at hm
    cases hm
    simp only [Session.Agrees, hd] at hagree
    obtain ⟨b, rfl, hb, hcur⟩ := hagree
    refine ⟨hs', fun _ => hblank (by simp [BeforeData, hd]), b, addressOf peeked, rfl, hb, hv, ?_⟩
    dsimp only
    rw [setCursorByte_page hv]; omega
  | programAwaitingByteAddress =>
    rw [hd] at hm
    cases hm
    simp only [Session.Agrees, hd] at hagree
    obtain ⟨b, p, rfl, hb, hp, hcur⟩ := hagree
    have hcache := hblank (by simp [BeforeData, hd])
    refine ⟨hs', fun h => by simp [BeforeData] at h, ?_⟩
    refine Session.filling_of_byteAddress hb hp hv hcache ?_
    dsimp only
    rw [setCursorByte_byte hv, hcur]
  | _ => rw [hd] at hm; cases hm

theorem Move.sessionInv {d : Device} {s : Session} (h : SessionInv (d, s)) {peeked : UInt32}
    {settime : TimeUs} {r : Reply} (hmove : Move d peeked settime r) :
    SessionInv (r.device, s.access d.machineState peeked) := by
  have hs := hmove.inStorage h.inStorage
  cases hmove with
  | opened k hm hc => exact sessionInv_awaitingBlock k h.inStorage (h.blank (.inl hm))
  | switched j k hm hc => exact sessionInv_clear d k _
  | address k shift next hm hc => exact sessionInv_address h hm
  | readExecute hm hc => exact sessionInv_of_outside hs (by simp [BeforeData]) (by simp)
  | readByte hm hc => exact sessionInv_of_outside hs (by simp [BeforeData, hm]) (by simp [hm])
  | programByte hm hc =>
    refine ⟨hs, fun hb => by simp [BeforeData, hm] at hb, ?_⟩
    simp only [Session.Agrees, Session.access, hm, hc, if_true]
    exact (h.filling hm).putByte (dataOf peeked)
  | programExecute hm hc =>
    refine ⟨hs, fun hb => by simp [BeforeData, hm] at hb, ?_⟩
    have hne : cProgramExecute ≠ cDummy := by decide
    simp only [Session.Agrees, Session.access, hm, hc, if_neg hne, if_true]
    exact (h.filling hm).programPage h.inStorage
  | eraseExecute hm hc => exact sessionInv_of_outside hs (by simp [BeforeData, hm]) (by simp [hm])

/-- One step of the run keeps the invariant. -/
theorem sessionInv_step (x : Device × Session) (e : Event) (y : Device × Session) (h : SessionInv x)
    (hstep : withHistory step Session.record x e = .ok y) : SessionInv y := by
  obtain ⟨d, s⟩ := x
  obtain ⟨d', s'⟩ := y
  obtain ⟨h1, h2⟩ := withHistory_ok hstep
  dsimp only at h1 h2
  subst h2
  cases e with
  | access w t t' =>
    obtain ⟨r, hr, rfl⟩ := step_access_ok h1
    obtain ⟨_, ⟨_, hmove⟩ | ⟨_, rfl⟩⟩ := handle_inv h.inStorage hr
    · have hb : r.device.machineState ≠ .bug := hmove.not_bug
      simp only [Session.record, if_neg hb]
      exact hmove.sessionInv h
    -- a rejected access leaves an unfinished page in the cache, but no state to execute it from
    · exact sessionInv_of_outside h.inStorage (by simp [BeforeData]) (by simp)
  | gpioSet rdi rsi =>
    cases h1
    unfold handleBreakpointGpioSet
    split_ifs
    · exact ⟨inStorage_clear d, fun _ => rfl, trivial⟩
    · exact h
  | gpioGet rdi t => cases h1; exact h

theorem sessionRun_inv {d : Device} {es : List Event} {x : Device × Session} (h : sessionRun d es = .ok x) :
    SessionInv x :=
  run_inv sessionInv_step (sessionInv_init d) h

/-! ## What is filled and what is stored -/

theorem Session.Filling.page_eq {s : Session} {store : Store} (h : s.Filling store) :
    ∃ b p y, s.addresses = [b, p, y] ∧
      s.page = (256 * b.toNat + p.toNat + s.executes) % 65536 ∧
      s.start = if s.executes = 0 then y.toNat else 0 := by
  obtain ⟨b, p, y, ha⟩ := List.length_eq_three.1 h.addressed
  refine ⟨b, p, y, ha, ?_, ?_⟩
  · simp [Session.page, ha]
  · simp [Session.start, ha]

/-- The byte of the image at `i` is the last one given for it. -/
theorem Session.image_of_last {s : Session} {i k : Nat} (hk : k < s.data.length)
    (hi : (s.start + k) % 256 = i) (hlast : ∀ j, k < j → j < s.data.length → (s.start + j) % 256 ≠ i) :
    s.image i = s.data[k] := by
  unfold Session.image
  rw [writeRange_of_last hk hi hlast]
  simp [List.getD_eq_getElem?_getD, hk]

/-- The image is zero where no byte was given. -/
theorem Session.image_of_none {s : Session} {i : Nat} (h : ∀ k < s.data.length, (s.start + k) % 256 ≠ i) :
    s.image i = 0 := by
  unfold Session.image
  rw [writeRange_of_forall_ne h]

/-- Executing stores the image in the page being filled, and nothing anywhere else. -/
theorem SessionInv.programPage {d : Device} {s : Session} (h : SessionInv (d, s))
    (hm : d.machineState = .programAcceptingData) :
    d.store.programPage.dataStore = setSegment 256 s.page s.image d.store.dataStore := by
  have hf := h.filling hm
  rw [Store.programPage_dataStore, hf.page, hf.cache]

/-- An accepted C_PROGRAM_EXECUTE is the move of that name. -/
theorem programExecute_accepted {d : Device} {w : UInt64} {t t' : TimeUs} {r : Reply} (hs : InStorage d.store)
    (hm : d.machineState = .programAcceptingData) (hc : commandOf w.toUInt32 = cProgramExecute)
    (hr : handleWatchpointIoregisters d w t t' = .ok r) (hacc : r.device.machineState ≠ .bug) :
    r.device.store = d.store.programPage := by
  obtain ⟨_, ⟨_, hmove⟩ | ⟨_, rfl⟩⟩ := handle_inv hs hr
  · rw [hmove.unique (.programExecute hm hc)]
  · exact absurd rfl hacc

/-- The page an accepted C_PROGRAM_EXECUTE stores, after any run: byte `i` is the last of the bytes
given for it since the addresses or the previous execute, and zero where none was given; no other
page changes. -/
theorem program_execute_stores_page (d₀ : Device) (es : List Event) {d : Device} {s : Session}
    (hrun : sessionRun d₀ es = .ok (d, s)) {w : UInt64} {t t' : TimeUs} {r : Reply}
    (hm : d.machineState = .programAcceptingData) (hc : commandOf w.toUInt32 = cProgramExecute)
    (hr : handleWatchpointIoregisters d w t t' = .ok r) (hacc : r.device.machineState ≠ .bug) :
    ∃ b p y, s.addresses = [b, p, y] ∧
      ∀ page start, page = (256 * b.toNat + p.toNat + s.executes) % 65536 →
        start = (if s.executes = 0 then y.toNat else 0) →
        (∀ i < 256, ∀ k, (hk : k < s.data.length) → (start + k) % 256 = i →
          (∀ j, k < j → j < s.data.length → (start + j) % 256 ≠ i) →
          r.device.store.dataStore (256 * page + i) = s.data[k]) ∧
        (∀ i < 256, (∀ k < s.data.length, (start + k) % 256 ≠ i) →
          r.device.store.dataStore (256 * page + i) = 0) ∧
        ∀ a, a / 256 ≠ page → r.device.store.dataStore a = d.store.dataStore a := by
  have hinv := sessionRun_inv hrun
  obtain ⟨b, p, y, ha, hpage, hstart⟩ := (hinv.filling hm).page_eq
  have hstore : r.device.store.dataStore = setSegment 256 s.page s.image d.store.dataStore := by
    rw [programExecute_accepted hinv.inStorage hm hc hr hacc, hinv.programPage hm]
  have hcell : ∀ i < 256, r.device.store.dataStore (256 * s.page + i) = s.image i := by
    intro i hi
    rw [hstore, setSegment, if_pos (by omega), Nat.mul_add_mod, Nat.mod_eq_of_lt hi]
  refine ⟨b, p, y, ha, ?_⟩
  rintro page start rfl rfl
  rw [← hpage, ← hstart]
  refine ⟨fun i hi k hk hki hlast => ?_, fun i hi hnone => ?_, fun a hne => ?_⟩
  · rw [hcell i hi, Session.image_of_last hk hki hlast]
  · rw [hcell i hi, Session.image_of_none hnone]
  · rw [hstore, setSegment, if_neg hne]

/-- A session on block 1, page 2 from byte 255 on, given two bytes: the second goes to byte 0. -/
def wrappingSession : List Event :=
  [.access 0x030000 0 0, .access 0x030100 0 0, .access 0x030200 0 0, .access 0x03FF00 0 0,
    .access 0x070011 0 0, .access 0x070022 0 0]

theorem program_execute_stores_page_wrapping :
    ∃ d s r, sessionRun blankDevice wrappingSession = .ok (d, s) ∧
      handleWatchpointIoregisters d 0x040022 0 0 = .ok r ∧
      r.device.store.dataStore 0x010200 = 0x22 := by
  have hend : (sessionRun blankDevice wrappingSession).toOption.map
      (fun x => (x.1.machineState, x.1.deadline, x.2)) =
        some (.programAcceptingData, 0, ⟨[1, 2, 255], 0, [0x11, 0x22]⟩) := by decide +kernel
  obtain ⟨⟨d, s⟩, hrun, hx⟩ := run_replay hend
  simp only [Prod.mk.injEq] at hx
  obtain ⟨hm, hdl, rfl⟩ := hx
  have hc : commandOf (0x040022 : UInt64).toUInt32 = cProgramExecute := by decide
  have hready : ¬ Busy d 0 := by simp [Busy, hdl, beforeDeadline]
  have hr := handle_of_move (sessionRun_inv hrun).inStorage hready (.programExecute hm hc : Move d _ 0 _)
  refine ⟨d, _, _, hrun, hr, ?_⟩
  obtain ⟨b, p, y, ha, h⟩ := program_execute_stores_page blankDevice wrappingSession hrun hm hc hr (by simp [hm])
  cases ha
  have hlast : ∀ j, 1 < j → j < 2 → (255 + j) % 256 ≠ 0 := by omega
  exact (h _ _ rfl rfl).1 0 (by decide) 1 (by decide) (by decide) hlast

/-! ## Index safety -/

/-- From a cursor in storage none of the array functions leaves its array. -/
theorem InStorage.arrays {s : Store} (hs : InStorage s) :
    (storeCopyPageToCache s).isSome ∧ (storeCopyPageFromCache s).isSome ∧ (storeEraseBlock s).isSome ∧
      (storeGetCacheByte s).isSome ∧ ∀ byte, (storeSetCacheByte byte s).isSome := by
  rw [storeCopyPageToCache_eq hs, storeCopyPageFromCache_eq hs, storeEraseBlock_eq hs, storeGetCacheByte_eq]
  refine ⟨rfl, rfl, rfl, rfl, fun byte => ?_⟩
  rw [storeSetCacheByte_eq]
  rfl

/-- Whatever the tracee does, the cursor addresses storage, every array access stays inside its
array, and while a session accepts data the cursor stays in the page being filled. -/
theorem device_indexes_in_bounds (d₀ : Device) (es : List Event) :
    run step (parserInit d₀) es ≠ .error .outOfBounds ∧
      ∀ d, run step (parserInit d₀) es = .ok d →
        d.store.cursor.toNat < 2 ^ 24 ∧
        ((storeCopyPageToCache d.store).isSome ∧ (storeCopyPageFromCache d.store).isSome ∧
          (storeEraseBlock d.store).isSome ∧ (storeGetCacheByte d.store).isSome ∧
          ∀ byte, (storeSetCacheByte byte d.store).isSome) ∧
        (d.machineState = .programAcceptingData →
          ∃ s b p y, sessionRun d₀ es = .ok (d, s) ∧ s.addresses = [b, p, y] ∧
            d.store.cursor.toNat / 256 = (256 * b.toNat + p.toNat + s.executes) % 65536) := by
  constructor
  · intro h
    have := run_error (inStorage_init d₀) h
    cases this
  · intro d h
    have hs := run_inStorage (inStorage_init d₀) h
    refine ⟨?_, hs.arrays, fun hm => ?_⟩
    · rwa [InStorage, deviceSize_eq] at hs
    · obtain ⟨s, hrun⟩ := exists_sessionRun_iff.2 h
      have hfilling := (sessionRun_inv hrun).filling hm
      obtain ⟨b, p, y, ha, hpage, _⟩ := hfilling.page_eq
      exact ⟨s, b, p, y, hrun, ha, hfilling.page.trans hpage⟩

end NandRig.Emulator
