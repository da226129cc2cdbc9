/-
An abstract chip behind the emulator: sessions with a page or a block at hand, in the place of a state machine
with a cursor, a cache and masks. Every run of the emulator answers its tracee as the chip does, and holds the
chip's storage. In one thing both differ from the manual, whose chip stays in its bug state until a reset: they
halt at an access in that state.
-/
import NandRig.Device.Run
import NandRig.Lib.Simulation

namespace NandRig.Emulator

open Machine RingMem

/-! ## The chip -/

/-- What the chip is doing. -/
inductive Mode
  | idle
  /-- A SETUP was given, and `count` address bytes, which make `number`. -/
  | addressed (k : Kind) (count number : Nat)
  /-- `page` was loaded, and the byte at `address` modulo the page is provided next. -/
  | providing (page address : Nat)
  /-- `image` is to become `page`; the next byte goes to `byte`. -/
  | accepting (page byte : Nat) (image : Nat → UInt8)
  /-- `block` is erased next. -/
  | erasing (block : Nat)
  | bug

structure Chip where
  storage : Nat → UInt8
  mode : Mode
  readyAt : TimeUs

namespace Chip

/-- A chip that has not been used. -/
def blank : Chip := ⟨fun _ => 0, .idle, 0⟩

/-- The operation that a SETUP command opens. -/
def opens (command : UInt32) : Option Kind :=
  if command = cReadSetup then some .read
  else if command = cProgramSetup then some .program
  else if command = cEraseSetup then some .erase
  else none

/-- A SETUP forgets the operation before, with whatever it did not execute. -/
def setup (c : Chip) (command : UInt32) : Option (Output × Chip) :=
  (opens command).map fun k => ({}, { c with mode := .addressed k 0 0, readyAt := 0 })

/-- One more address byte: three make the address of a byte, and one the number of a block to erase. -/
def give (c : Chip) (k : Kind) (count number : Nat) : Output × Chip :=
  if k = .program ∧ count = 3 then
    ({ poke := some dummyWord }, { c with mode := .accepting (number / 256) (number % 256) fun _ => 0 })
  else if k = .erase then ({}, { c with mode := .erasing number })
  else ({}, { c with mode := .addressed k count number })

/-- The page of the address is loaded. -/
def load (c : Chip) (address : Nat) (settime : TimeUs) : Output × Chip :=
  ({ poke := some dummyWord },
    { c with mode := .providing (address / 256) address, readyAt := settime + readPageDuration })

/-- What a ready chip does with a word, if the protocol has room for it. -/
def serve (c : Chip) (peeked : UInt32) (settime : TimeUs) : Option (Output × Chip) :=
  match c.mode with
  | .idle => c.setup (commandOf peeked)
  | .addressed k count number =>
    if k = .read ∧ count = 3 then
      if commandOf peeked = cReadExecute then some (c.load number settime) else none
    else if commandOf peeked = k.setup then some (c.give k (count + 1) (256 * number + (addressOf peeked).toNat))
    else none
  | .providing page address =>
    if commandOf peeked = cDummy then
      let answer := dataWord (c.storage (256 * page + address % 256))
      some ({ poke := some answer.toUInt64, cpu := some answer },
        { c with mode := .providing page ((address + 1) % 16777216) })
    else if commandOf peeked = cReadExecute then some (c.load address settime)
    else c.setup (commandOf peeked)
  | .accepting page byte image =>
    if commandOf peeked = cDummy then
      some ({}, { c with mode := .accepting page ((byte + 1) % 256) (Function.update image byte (dataOf peeked)) })
    else if commandOf peeked = cProgramExecute then
      some ({ poke := some dummyWord },
        ⟨setSegment 256 page image c.storage, .accepting ((page + 1) % 65536) 0 fun _ => 0,
          settime + writePageDuration⟩)
    else c.setup (commandOf peeked)
  | .erasing block =>
    if commandOf peeked = cEraseExecute then
      some ({ poke := some dummyWord },
        ⟨setSegment 65536 block (fun _ => 0) c.storage, .erasing ((block + 1) % 256), settime + eraseBlockDuration⟩)
    else c.setup (commandOf peeked)
  | .bug => none

/-- An access while the chip is busy, or against the protocol, is a bug of the driver, held until a reset; a further
access halts the chip, as it exits the emulator. -/
def react (c : Chip) : Event → Except Halt (Output × Chip)
  | .access w timenow settime =>
    match c.mode with
    | .bug => .error (.exit 1)
    | _ =>
      .ok (if timenow < c.readyAt then ({}, { c with mode := .bug })
        else (c.serve w.toUInt32 settime).getD ({}, { c with mode := .bug }))
  | .gpioSet rdi rsi => .ok ({}, if rdi = pnReset ∧ rsi = 1 then { c with mode := .idle, readyAt := 0 } else c)
  | .gpioGet rdi timenow =>
    .ok ({ pin :=
      if rdi = pnStatus then some (if timenow < c.readyAt then deviceBusy else deviceReady)
      else if rdi = pnReset then some 0 else none }, c)

end Chip

/-! ## What the chip serves -/

/-- The modes in which a SETUP is accepted. -/
def TakesSetup : Mode → Prop
  | .idle | .providing _ _ | .accepting _ _ _ | .erasing _ => True
  | .addressed _ _ _ | .bug => False

theorem TakesSetup.ne_bug {mode : Mode} (h : TakesSetup mode) : mode ≠ .bug := by
  rintro rfl
  exact h

namespace Chip

section Serve

variable {m : Nat → UInt8} {mode : Mode} {t settime : TimeUs} {peeked : UInt32}

theorem opens_setup (k : Kind) : opens k.setup = some k := by
  cases k <;> rfl

theorem serve_setup (hmode : TakesSetup mode) {k : Kind} (hc : commandOf peeked = k.setup) :
    (⟨m, mode, t⟩ : Chip).serve peeked settime = some ({}, ⟨m, .addressed k 0 0, 0⟩) := by
  obtain ⟨hdummy, hread, hprogram, herase⟩ : k.setup ≠ cDummy ∧ k.setup ≠ cReadExecute ∧
      k.setup ≠ cProgramExecute ∧ k.setup ≠ cEraseExecute := by cases k <;> decide
  unfold serve setup
  rw [hc, opens_setup]
  cases mode with
  | idle => rfl
  | providing page address =>
    dsimp only
    rw [if_neg hdummy, if_neg hread]
    rfl
  | accepting page byte image =>
    dsimp only
    rw [if_neg hdummy, if_neg hprogram]
    rfl
  | erasing block =>
    dsimp only
    rw [if_neg herase]
    rfl
  | addressed k count number => exact absurd hmode id
  | bug => exact absurd hmode id

theorem serve_give {k : Kind} {count number : Nat} (hcount : ¬ (k = .read ∧ count = 3))
    (hc : commandOf peeked = k.setup) :
    (⟨m, .addressed k count number, t⟩ : Chip).serve peeked settime =
      some (give ⟨m, .addressed k count number, t⟩ k (count + 1) (256 * number + (addressOf peeked).toNat)) := by
  unfold serve
  dsimp only
  rw [if_neg hcount, if_pos hc]

theorem serve_load {address : Nat} (hc : commandOf peeked = cReadExecute) :
    (⟨m, .addressed .read 3 address, t⟩ : Chip).serve peeked settime =
      some (load ⟨m, .addressed .read 3 address, t⟩ address settime) := by
  unfold serve
  dsimp only
  rw [if_pos ⟨rfl, rfl⟩, if_pos hc]

theorem serve_loadNext {page address : Nat} (hc : commandOf peeked = cReadExecute) :
    (⟨m, .providing page address, t⟩ : Chip).serve peeked settime =
      some (load ⟨m, .providing page address, t⟩ address settime) := by
  unfold serve
  dsimp only
  rw [if_neg (by rw [hc]; decide), if_pos hc]

theorem serve_provide {page address : Nat} (hc : commandOf peeked = cDummy) :
    (⟨m, .providing page address, t⟩ : Chip).serve peeked settime =
      some ({ poke := some (dataWord (m (256 * page + address % 256))).toUInt64,
              cpu := some (dataWord (m (256 * page + address % 256))) },
        ⟨m, .providing page ((address + 1) % 16777216), t⟩) := by
  unfold serve
  dsimp only
  rw [if_pos hc]

theorem serve_accept {page byte : Nat} {image : Nat → UInt8} (hc : commandOf peeked = cDummy) :
    (⟨m, .accepting page byte image, t⟩ : Chip).serve peeked settime =
      some ({}, ⟨m, .accepting page ((byte + 1) % 256) (Function.update image byte (dataOf peeked)), t⟩) := by
  unfold serve
  dsimp only
  rw [if_pos hc]

theorem serve_program {page byte : Nat} {image : Nat → UInt8} (hc : commandOf peeked = cProgramExecute) :
    (⟨m, .accepting page byte image, t⟩ : Chip).serve peeked settime =
      some ({ poke := some dummyWord },
        ⟨setSegment 256 page image m, .accepting ((page + 1) % 65536) 0 fun _ => 0, settime + writePageDuration⟩) := by
  unfold serve
  dsimp only
  rw [if_neg (by rw [hc]; decide), if_pos hc]

theorem serve_erase {block : Nat} (hc : commandOf peeked = cEraseExecute) :
    (⟨m, .erasing block, t⟩ : Chip).serve peeked settime =
      some ({ poke := some dummyWord },
        ⟨setSegment 65536 block (fun _ => 0) m, .erasing ((block + 1) % 256), settime + eraseBlockDuration⟩) := by
  unfold serve
  dsimp only
  rw [if_pos hc]

end Serve

end Chip

/-! ## The device as a chip -/

/-- The state in which an operation awaits its next address byte, or the read its EXECUTE. -/
def awaiting : Kind → (count : Nat) → Option MachineState
  | .read, 0 => some .readAwaitingBlockAddress
  | .read, 1 => some .readAwaitingPageAddress
  | .read, 2 => some .readAwaitingByteAddress
  | .read, 3 => some .readAwaitingExecute
  | .program, 0 => some .programAwaitingBlockAddress
  | .program, 1 => some .programAwaitingPageAddress
  | .program, 2 => some .programAwaitingByteAddress
  | .erase, 0 => some .eraseAwaitingBlockAddress
  | _, _ => none

/-- The state of the machine in a mode. -/
def Mode.state : Mode → Option MachineState
  | .idle => some .initialState
  | .addressed k count _ => awaiting k count
  | .providing _ _ => some .readProvidingData
  | .accepting _ _ _ => some .programAcceptingData
  | .erasing _ => some .eraseAwaitingExecute
  | .bug => some .bug

/-- What cursor and cache hold in a mode. -/
def Mode.Agrees (d : Device) : Mode → Prop
  | .idle => d.deadline = 0 ∧ d.store.cache = fun _ => 0
  | .addressed _ count number => d.store.cursor.toNat / 256 ^ (3 - count) = number ∧ d.store.cache = fun _ => 0
  | .providing page address =>
    d.store.cursor.toNat = address ∧ ∀ i < 256, d.store.cache i = d.store.dataStore (256 * page + i)
  | .accepting page byte image => d.store.cursor.toNat = 256 * page + byte ∧ byte < 256 ∧ d.store.cache = image
  | .erasing block => d.store.cursor.toNat / 65536 = block
  | .bug => True

/-- The device is the chip. -/
structure Represents (d : Device) (c : Chip) : Prop where
  inStorage : InStorage d.store
  storage : c.storage = d.store.dataStore
  readyAt : c.readyAt = d.deadline
  state : c.mode.state = some d.machineState
  agrees : c.mode.Agrees d

/-! ## The mode that a state shows -/

section Modes

variable {m : Mode} {s : MachineState}

/-- The states of `awaiting` are those with an address byte to come, and that of a read to execute. -/
theorem awaiting_some {k : Kind} {count : Nat} (h : awaiting k count = some s) :
    (∃ shift next, addressStep s = some (k, shift, next)) ∨ k = .read ∧ count = 3 ∧ s = .readAwaitingExecute := by
  unfold awaiting at h
  split at h <;> cases h <;> first | exact .inl ⟨_, _, rfl⟩ | exact .inr ⟨rfl, rfl, rfl⟩

/-- A mode other than that of an address is shown by its own state. -/
theorem mode_of_state (h : m.state = some s) (hstep : addressStep s = none) (hs : s ≠ .readAwaitingExecute) :
    ∀ k count number, m ≠ .addressed k count number := by
  rintro k count number rfl
  rcases awaiting_some h with ⟨shift, next, hnext⟩ | ⟨-, -, he⟩
  · rw [hstep] at hnext
    cases hnext
  · exact hs he

theorem mode_idle (h : m.state = some .initialState) : m = .idle := by
  have hne := mode_of_state h rfl (by decide)
  cases m with
  | idle => rfl
  | addressed k count number => exact absurd rfl (hne k count number)
  | _ => cases h

theorem mode_providing (h : m.state = some .readProvidingData) : ∃ page address, m = .providing page address := by
  have hne := mode_of_state h rfl (by decide)
  cases m with
  | providing page address => exact ⟨page, address, rfl⟩
  | addressed k count number => exact absurd rfl (hne k count number)
  | _ => cases h

theorem mode_accepting (h : m.state = some .programAcceptingData) :
    ∃ page byte image, m = .accepting page byte image := by
  have hne := mode_of_state h rfl (by decide)
  cases m with
  | accepting page byte image => exact ⟨page, byte, image, rfl⟩
  | addressed k count number => exact absurd rfl (hne k count number)
  | _ => cases h

theorem mode_erasing (h : m.state = some .eraseAwaitingExecute) : ∃ block, m = .erasing block := by
  have hne := mode_of_state h rfl (by decide)
  cases m with
  | erasing block => exact ⟨block, rfl⟩
  | addressed k count number => exact absurd rfl (hne k count number)
  | _ => cases h

/-- A SETUP is accepted in the state of a session. -/
theorem takesSetup_session {k : Kind} (h : m.state = some k.session) : TakesSetup m := by
  cases k with
  | read =>
    obtain ⟨page, address, rfl⟩ := mode_providing h
    exact True.intro
  | program =>
    obtain ⟨page, byte, image, rfl⟩ := mode_accepting h
    exact True.intro
  | erase =>
    obtain ⟨block, rfl⟩ := mode_erasing h
    exact True.intro

theorem mode_bug (h : m.state = some .bug) : m = .bug := by
  have hne := mode_of_state h rfl (by decide)
  cases m with
  | bug => rfl
  | addressed k count number => exact absurd rfl (hne k count number)
  | _ => cases h

/-- A state with an address byte to come, or a read to execute, is that of an address. -/
theorem mode_addressed (h : m.state = some s) (hs : addressStep s ≠ none ∨ s = .readAwaitingExecute) :
    ∃ k count number, m = .addressed k count number ∧ awaiting k count = some s := by
  cases m with
  | addressed k count number => exact ⟨k, count, number, rfl, h⟩
  | _ =>
    cases h
    rcases hs with hs | hs
    · exact absurd rfl hs
    · cases hs

/-- A read to execute has its address. -/
theorem mode_execute (h : m.state = some .readAwaitingExecute) : ∃ number, m = .addressed .read 3 number := by
  obtain ⟨k, count, number, rfl, hawait⟩ := mode_addressed h (.inr rfl)
  obtain ⟨shift, next, hstep⟩ | ⟨rfl, rfl, -⟩ := awaiting_some hawait
  · cases hstep
  · exact ⟨number, rfl⟩

end Modes

/-! ## Moves of the device are served by the chip -/

section Serve

variable {d : Device} {c : Chip} {peeked : UInt32} {m : Nat → UInt8} {t settime : TimeUs}

theorem opens_some {command : UInt32} {k : Kind} (h : Chip.opens command = some k) : command = k.setup := by
  unfold Chip.opens at h
  split_ifs at h with h1 h2 h3 <;> cases h
  · exact h1
  · exact h2
  · exact h3

theorem awaiting_zero (k : Kind) : awaiting k 0 = some k.awaitingBlock := by
  cases k <;> rfl

/-- A SETUP to an idle device. -/
theorem Represents.opened (h : Represents d ⟨m, .idle, t⟩) (k : Kind) :
    Represents (enter d k.awaitingBlock) ⟨m, .addressed k 0 0, 0⟩ := by
  obtain ⟨hdeadline, hcache⟩ := h.agrees
  refine ⟨h.inStorage, h.storage, hdeadline.symm, awaiting_zero k, ?_, hcache⟩
  exact Nat.div_eq_of_lt h.inStorage

/-- A SETUP that leaves another operation. -/
theorem Represents.switched (h : Represents d c) (k : Kind) :
    Represents (enter (clearState d) k.awaitingBlock) { c with mode := .addressed k 0 0, readyAt := 0 } :=
  ⟨inStorage_clear d, h.storage, rfl, awaiting_zero k, Nat.div_eq_of_lt (inStorage_clear d), rfl⟩

theorem setCursorByte_number {s : Store} {v : UInt32} (hs : InStorage s) (hv : v.toNat < 256) :
    (setCursorByte v cursorBlockShift s).cursor.toNat / 256 ^ 2 = 256 * (s.cursor.toNat / 256 ^ 3) + v.toNat ∧
      (setCursorByte v cursorPageShift s).cursor.toNat / 256 ^ 1 = 256 * (s.cursor.toNat / 256 ^ 2) + v.toNat ∧
      (setCursorByte v cursorByteShift s).cursor.toNat / 256 ^ 0 = 256 * (s.cursor.toNat / 256 ^ 1) + v.toNat := by
  have hs' : s.cursor.toNat < 16777216 := hs
  rw [setCursorByte_block hs hv, setCursorByte_page hv, setCursorByte_byte hv]
  refine ⟨?_, ?_, ?_⟩ <;> omega

/-- An address byte. -/
theorem Represents.address (h : Represents d c) {k : Kind} {shift : UInt32} {next : MachineState}
    (hm : addressStep d.machineState = some (k, shift, next)) (peeked : UInt32) :
    ∃ count number, c.mode = .addressed k count number ∧ ¬ (k = .read ∧ count = 3) ∧
      (c.give k (count + 1) (256 * number + (addressOf peeked).toNat)).1 =
        { poke := if next = .programAcceptingData then some dummyWord else none } ∧
      Represents { d with store := setCursorByte (addressOf peeked) shift d.store, machineState := next }
        (c.give k (count + 1) (256 * number + (addressOf peeked).toNat)).2 := by
  have hv := addressOf_lt peeked
  obtain ⟨hblock, hpage, hbyte⟩ := setCursorByte_number h.inStorage hv
  have hin : InStorage (setCursorByte (addressOf peeked) shift d.store) :=
    inStorage_setCursorByte h.inStorage hv (addressStep_shift hm)
  obtain ⟨j, count, number, hmode, hawait⟩ := mode_addressed h.state (.inl (by rw [hm]; exact Option.some_ne_none _))
  have hagrees := h.agrees
  rw [hmode] at hagrees
  obtain ⟨rfl, hcache⟩ := hagrees
  generalize hstate : d.machineState = m at hm hawait
  unfold awaiting at hawait
  split at hawait <;> cases hawait <;> cases hm
  -- the block, the page and the byte of a read
  · exact ⟨0, _, hmode, by decide, rfl, hin, h.storage, h.readyAt, rfl, hblock, hcache⟩
  · exact ⟨1, _, hmode, by decide, rfl, hin, h.storage, h.readyAt, rfl, hpage, hcache⟩
  · exact ⟨2, _, hmode, by decide, rfl, hin, h.storage, h.readyAt, rfl, hbyte, hcache⟩
  -- those of a write, the last of which begins a page
  · exact ⟨0, _, hmode, by decide, rfl, hin, h.storage, h.readyAt, rfl, hblock, hcache⟩
  · exact ⟨1, _, hmode, by decide, rfl, hin, h.storage, h.readyAt, rfl, hpage, hcache⟩
  · refine ⟨2, _, hmode, by decide, rfl, hin, h.storage, h.readyAt, rfl, ?_, Nat.mod_lt _ (by decide), hcache⟩
    have hnumber : (setCursorByte (addressOf peeked) cursorByteShift d.store).cursor.toNat =
        256 * (d.store.cursor.toNat / 256 ^ (3 - 2)) + (addressOf peeked).toNat := by
      rw [← hbyte, Nat.pow_zero, Nat.div_one]
    exact hnumber.trans (Nat.div_add_mod _ 256).symm
  -- the block of an erase
  · refine ⟨0, _, hmode, by decide, rfl, hin, h.storage, h.readyAt, rfl, ?_⟩
    exact hblock

/-- A page is loaded from where the cursor stands. -/
theorem Represents.load (h : Represents d c) (settime : TimeUs) :
    Represents ⟨.readProvidingData, setDeadline settime readPageDuration, d.store.loadPage⟩
      (c.load d.store.cursor.toNat settime).2 := by
  refine ⟨h.inStorage, h.storage, rfl, rfl, rfl, fun i hi => ?_⟩
  show (if i < 256 then _ else _) = d.store.dataStore (256 * (d.store.cursor.toNat / 256) + i)
  rw [if_pos hi, Nat.mul_comm]

/-- The byte at the cursor is provided, and the cursor moves on. -/
theorem Represents.provide {page address : Nat} (h : Represents d ⟨m, .providing page address, t⟩) :
    m (256 * page + address % 256) = d.store.cacheByte ∧
      Represents { d with store := incrementCursor false d.store }
        ⟨m, .providing page ((address + 1) % 16777216), t⟩ := by
  obtain ⟨rfl, hcache⟩ := h.agrees
  have hstorage : m = d.store.dataStore := h.storage
  constructor
  · rw [hstorage]
    exact (hcache _ (Nat.mod_lt _ (by decide))).symm
  · refine ⟨inStorage_incrementCursor false h.inStorage, ?_, h.readyAt, h.state, ?_, fun i hi => ?_⟩
    · exact hstorage.trans (incrementCursor_dataStore false _).symm
    · exact incrementCursor_free h.inStorage
    · dsimp only
      rw [incrementCursor_cache, incrementCursor_dataStore]
      exact hcache i hi

/-- A byte goes into the image at the cursor, which moves on around the page. -/
theorem Represents.accept {page byte : Nat} {image : Nat → UInt8} (h : Represents d ⟨m, .accepting page byte image, t⟩)
    (data : UInt8) :
    Represents { d with store := d.store.putByte data }
      ⟨m, .accepting page ((byte + 1) % 256) (Function.update image byte data), t⟩ := by
  obtain ⟨hcursor, hbyte, rfl⟩ := h.agrees
  have hmod : d.store.cursor.toNat % 256 = byte := by omega
  refine ⟨inStorage_incrementCursor true h.inStorage, ?_, h.readyAt, h.state, ?_, Nat.mod_lt _ (by decide), ?_⟩
  · exact h.storage.trans (Store.putByte_dataStore _ _).symm
  · dsimp only
    rw [Store.putByte_cursor]
    omega
  · dsimp only
    rw [Store.putByte_cache, hmod]

/-- The image becomes the page, and the next page begins. -/
theorem Represents.program {page byte : Nat} {image : Nat → UInt8}
    (h : Represents d ⟨m, .accepting page byte image, t⟩) (settime : TimeUs) :
    Represents { d with deadline := setDeadline settime writePageDuration, store := d.store.programPage }
      ⟨setSegment 256 page image m, .accepting ((page + 1) % 65536) 0 fun _ => 0, settime + writePageDuration⟩ := by
  obtain ⟨hcursor, hbyte, rfl⟩ := h.agrees
  have hpage : d.store.cursor.toNat / 256 = page := by omega
  have hin : d.store.cursor.toNat < 16777216 := h.inStorage
  have hstorage : m = d.store.dataStore := h.storage
  refine ⟨inStorage_incrementPage h.inStorage, ?_, rfl, h.state, ?_, by decide, rfl⟩
  · dsimp only
    rw [Store.programPage_dataStore, hpage, hstorage]
  · dsimp only
    rw [Store.programPage_cursor h.inStorage]
    omega

/-- The block is blank, and the next block is at hand. -/
theorem Represents.erase {block : Nat} (h : Represents d ⟨m, .erasing block, t⟩) (settime : TimeUs) :
    Represents { d with deadline := setDeadline settime eraseBlockDuration, store := d.store.eraseBlock }
      ⟨setSegment 65536 block (fun _ => 0) m, .erasing ((block + 1) % 256), settime + eraseBlockDuration⟩ := by
  have hblock : d.store.cursor.toNat / 65536 = block := h.agrees
  have hin : d.store.cursor.toNat < 16777216 := h.inStorage
  have hstorage : m = d.store.dataStore := h.storage
  refine ⟨inStorage_incrementBlock h.inStorage, ?_, rfl, h.state, ?_⟩
  · dsimp only
    rw [Store.eraseBlock_dataStore, hblock, hstorage]
  · show _ / 65536 = _
    dsimp only
    rw [Store.eraseBlock_cursor h.inStorage]
    omega

/-- The chip serves what the device accepts, with the same answer. -/
theorem Represents.serve (h : Represents d c) {r : Reply} (hr : Move d peeked settime r) :
    ∃ c', c.serve peeked settime = some ({ poke := r.poke, cpu := r.cpu }, c') ∧ Represents r.device c' := by
  obtain ⟨m, mode, t⟩ := c
  have hstate : mode.state = some d.machineState := h.state
  cases hr with
  | opened k hm hc =>
    rw [hm] at hstate
    obtain rfl := mode_idle hstate
    exact ⟨_, Chip.serve_setup (show TakesSetup .idle from True.intro) hc, h.opened k⟩
  | switched j k hm hc =>
    rw [hm] at hstate
    exact ⟨_, Chip.serve_setup (takesSetup_session hstate) hc, h.switched k⟩
  | address k shift next hm hc =>
    obtain ⟨count, number, rfl, hcount, houtput, hrep⟩ := h.address hm peeked
    exact ⟨_, by rw [Chip.serve_give hcount hc, ← houtput], hrep⟩
  | readExecute hm hc =>
    rcases hm with hm | hm
    · rw [hm] at hstate
      obtain ⟨number, rfl⟩ := mode_execute hstate
      obtain rfl : d.store.cursor.toNat = number := (Nat.div_one _).symm.trans h.agrees.1
      exact ⟨_, Chip.serve_load hc, h.load settime⟩
    · rw [hm] at hstate
      obtain ⟨page, address, rfl⟩ := mode_providing hstate
      obtain rfl : d.store.cursor.toNat = address := h.agrees.1
      exact ⟨_, Chip.serve_loadNext hc, h.load settime⟩
  | readByte hm hc =>
    rw [hm] at hstate
    obtain ⟨page, address, rfl⟩ := mode_providing hstate
    obtain ⟨hbyte, hrep⟩ := h.provide
    exact ⟨_, by rw [Chip.serve_provide hc, hbyte], hrep⟩
  | programByte hm hc =>
    rw [hm] at hstate
    obtain ⟨page, byte, image, rfl⟩ := mode_accepting hstate
    exact ⟨_, Chip.serve_accept hc, h.accept (dataOf peeked)⟩
  | programExecute hm hc =>
    rw [hm] at hstate
    obtain ⟨page, byte, image, rfl⟩ := mode_accepting hstate
    exact ⟨_, Chip.serve_program hc, h.program settime⟩
  | eraseExecute hm hc =>
    rw [hm] at hstate
    obtain ⟨block, rfl⟩ := mode_erasing hstate
    exact ⟨_, Chip.serve_erase hc, h.erase settime⟩

theorem setup_some {command : UInt32} {x : Output × Chip} (h : c.setup command = some x) :
    ∃ k : Kind, command = k.setup := by
  obtain ⟨k, hk, -⟩ := Option.map_eq_some_iff.1 h
  exact ⟨k, opens_some hk⟩

/-- A session is left by a SETUP. -/
theorem move_of_setup {j : Kind} (hm : d.machineState = j.session) {x : Output × Chip}
    (hx : c.setup (commandOf peeked) = some x) : ∃ r, Move d peeked settime r := by
  obtain ⟨k, hk⟩ := setup_some hx
  exact ⟨_, .switched j k hm hk⟩

/-- The chip serves nothing that the device does not accept. -/
theorem Represents.accepts (h : Represents d c) {x : Output × Chip} (hx : c.serve peeked settime = some x) :
    ∃ r, Move d peeked settime r := by
  have hstate := h.state
  unfold Chip.serve at hx
  cases hmode : c.mode with
  | idle =>
    rw [hmode] at hx hstate
    obtain ⟨k, hk⟩ := setup_some hx
    exact ⟨_, .opened k (Option.some.inj hstate).symm hk⟩
  | addressed k count number =>
    rw [hmode] at hx hstate
    dsimp only at hx
    split_ifs at hx with hcount hexecute hsetup
    · obtain ⟨rfl, rfl⟩ := hcount
      exact ⟨_, .readExecute (.inl (Option.some.inj hstate).symm) hexecute⟩
    · rcases awaiting_some hstate with ⟨shift, next, hstep⟩ | ⟨hk, hc, -⟩
      · exact ⟨_, .address k shift next hstep hsetup⟩
      · exact absurd ⟨hk, hc⟩ hcount
  | providing page address =>
    rw [hmode] at hx hstate
    have hm : d.machineState = .readProvidingData := (Option.some.inj hstate).symm
    dsimp only at hx
    split_ifs at hx with hdummy hexecute
    · exact ⟨_, .readByte hm hdummy⟩
    · exact ⟨_, .readExecute (.inr hm) hexecute⟩
    · exact move_of_setup (j := .read) hm hx
  | accepting page byte image =>
    rw [hmode] at hx hstate
    have hm : d.machineState = .programAcceptingData := (Option.some.inj hstate).symm
    dsimp only at hx
    split_ifs at hx with hdummy hexecute
    · exact ⟨_, .programByte hm hdummy⟩
    · exact ⟨_, .programExecute hm hexecute⟩
    · exact move_of_setup (j := .program) hm hx
  | erasing block =>
    rw [hmode] at hx hstate
    have hm : d.machineState = .eraseAwaitingExecute := (Option.some.inj hstate).symm
    dsimp only at hx
    split_ifs at hx with hexecute
    · exact ⟨_, .eraseExecute hm hexecute⟩
    · exact move_of_setup (j := .erase) hm hx
  | bug =>
    rw [hmode] at hx
    cases hx

end Serve

/-! ## Runs of the device are runs of the chip -/

section Runs

variable {d : Device} {c : Chip}

/-- An access that is rejected. -/
theorem Represents.rejected (h : Represents d c) : Represents (enter d .bug) { c with mode := .bug } :=
  ⟨h.inStorage, h.storage, h.readyAt, rfl, trivial⟩

/-- Only an idle chip is not asked whether it is busy, and it is not. -/
theorem Represents.busy_iff (h : Represents d c) (timenow : TimeUs) : Busy d timenow ↔ timenow < c.readyAt := by
  rw [h.readyAt]
  constructor
  · rintro ⟨-, hbusy⟩
    exact of_decide_eq_true hbusy
  · intro hlt
    refine ⟨fun hm => ?_, decide_eq_true hlt⟩
    have hstate := h.state
    rw [hm] at hstate
    have hagrees := h.agrees
    rw [mode_idle hstate] at hagrees
    rw [hagrees.1] at hlt
    exact absurd hlt (Nat.not_lt_zero _)

theorem Represents.access (h : Represents d c) (w : UInt64) (timenow settime : TimeUs) :
    SameStep Represents (react handleWatchpointIoregisters d (.access w timenow settime))
      (c.react (.access w timenow settime)) := by
  unfold react Chip.react
  by_cases hbug : d.machineState = .bug
  · have hstate := h.state
    rw [hbug] at hstate
    dsimp only
    rw [mode_bug hstate, handle_bug hbug]
    exact .halts _
  · have hmode : c.mode ≠ .bug := by
      intro hmode
      have hstate := h.state
      rw [hmode] at hstate
      exact hbug (Option.some.inj hstate).symm
    have hchip : c.react (.access w timenow settime) =
        .ok (if timenow < c.readyAt then ({}, { c with mode := .bug })
          else (c.serve w.toUInt32 settime).getD ({}, { c with mode := .bug })) := by
      unfold Chip.react
      dsimp only
      split
      · rename_i hb
        exact absurd hb hmode
      · rfl
    unfold Chip.react at hchip
    rw [hchip]
    dsimp only
    rcases handle_cases h.inStorage hbug w timenow settime with ⟨r, hready, hmove, hr⟩ | ⟨hreject, hr⟩
    · obtain ⟨c', hserve, hrep⟩ := h.serve hmove
      rw [hr, if_neg fun hlt => hready ((h.busy_iff timenow).2 hlt), hserve]
      exact .goes _ hrep
    · rw [hr]
      have hnone : (if timenow < c.readyAt then (({} : Output), { c with mode := .bug })
          else (c.serve w.toUInt32 settime).getD ({}, { c with mode := .bug })) = ({}, { c with mode := .bug }) := by
        split_ifs with hlt
        · rfl
        · cases hserve : c.serve w.toUInt32 settime with
          | none => rfl
          | some x =>
            obtain ⟨r, hmove⟩ := h.accepts hserve
            rcases hreject with hbusy | hno
            · exact absurd ((h.busy_iff timenow).1 hbusy) hlt
            · exact absurd hmove (hno r)
      rw [hnone]
      exact .goes _ h.rejected

theorem Represents.reset (h : Represents d c) :
    Represents (parserReset d) { c with mode := .idle, readyAt := 0 } :=
  ⟨inStorage_clear d, h.storage, rfl, rfl, rfl, rfl⟩

/-- Every event shows the tracee the same on both sides. -/
theorem Represents.step (h : Represents d c) (e : Event) :
    SameStep Represents (react handleWatchpointIoregisters d e) (c.react e) := by
  cases e with
  | access w timenow settime => exact h.access w timenow settime
  | gpioSet rdi rsi =>
    unfold react Chip.react handleBreakpointGpioSet
    dsimp only
    split_ifs
    · exact .goes _ h.reset
    · exact .goes _ h
  | gpioGet rdi timenow =>
    have hpin : handleBreakpointGpioGet d rdi timenow =
        if rdi = pnStatus then some (if timenow < c.readyAt then deviceBusy else deviceReady)
        else if rdi = pnReset then some 0 else none := by
      unfold handleBreakpointGpioGet beforeDeadline
      rw [h.readyAt]
      simp only [decide_eq_true_eq]
    unfold react Chip.react
    dsimp only
    rw [hpin]
    exact .goes _ h

theorem represents_init (d₀ : Device) : Represents (parserInit d₀) .blank :=
  ⟨inStorage_init d₀, rfl, rfl, rfl, rfl, rfl⟩

end Runs

/-- Whatever the driver does and the clock says, the emulator answers as the chip does, halts where it does,
and holds its storage. -/
theorem device_refines_chip (d₀ : Device) (es : List Event) :
    (trace (react handleWatchpointIoregisters) (parserInit d₀) es).1 = (trace Chip.react .blank es).1 ∧
      SameEnd (fun d c => d.store.dataStore = c.storage ∧ d.deadline = c.readyAt)
        (run step (parserInit d₀) es) (trace Chip.react .blank es).2 := by
  obtain ⟨houtputs, hend⟩ := trace_same (fun _ _ e h => Represents.step h e) es _ _ (represents_init d₀)
  rw [trace_end, silent_react] at hend
  refine ⟨houtputs, ?_⟩
  generalize run step (parserInit d₀) es = x at hend ⊢
  generalize (trace Chip.react .blank es).2 = y at hend ⊢
  cases hend with
  | halts x => exact .halts x
  | goes h => exact .goes ⟨h.storage.symm, h.readyAt.symm⟩

end NandRig.Emulator
