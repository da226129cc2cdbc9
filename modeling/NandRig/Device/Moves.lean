/-
What one ioregister access can do. From a device whose cursor is in storage the handler never
leaves an array: it exits in the bug state, it only enters the bug state, or it makes one of the
moves of the protocol; and it makes the move whenever the device is not busy and the command is
one the state accepts.
-/
import NandRig.Device.Parser
import NandRig.Device.Cursor

namespace NandRig.Emulator

open RingMem

/-! ## The three operations -/

inductive Kind | read | program | erase
  deriving DecidableEq, Repr

namespace Kind

def setup : Kind → UInt32
  | read => cReadSetup
  | program => cProgramSetup
  | erase => cEraseSetup

def execute : Kind → UInt32
  | read => cReadExecute
  | program => cProgramExecute
  | erase => cEraseExecute

def duration : Kind → TimeUs
  | read => readPageDuration
  | program => writePageDuration
  | erase => eraseBlockDuration

def awaitingBlock : Kind → MachineState
  | read => .readAwaitingBlockAddress
  | program => .programAwaitingBlockAddress
  | erase => .eraseAwaitingBlockAddress

/-- The state of an operation in which its EXECUTE command repeats and every SETUP is accepted. -/
def session : Kind → MachineState
  | read => .readProvidingData
  | program => .programAcceptingData
  | erase => .eraseAwaitingExecute

theorem execute_injective {j k : Kind} (h : j.execute = k.execute) : j = k := by
  revert h
  cases j <;> cases k <;> decide

theorem dummy_ne_execute (k : Kind) : cDummy ≠ k.execute := by
  cases k <;> decide

theorem setup_ne_execute (j k : Kind) : j.setup ≠ k.execute := by
  cases j <;> cases k <;> decide

end Kind

/-- The address states: the operation, the cursor byte they set, and the next state. -/
def addressStep : MachineState → Option (Kind × UInt32 × MachineState)
  | .readAwaitingBlockAddress => some (.read, cursorBlockShift, .readAwaitingPageAddress)
  | .readAwaitingPageAddress => some (.read, cursorPageShift, .readAwaitingByteAddress)
  | .readAwaitingByteAddress => some (.read, cursorByteShift, .readAwaitingExecute)
  | .programAwaitingBlockAddress => some (.program, cursorBlockShift, .programAwaitingPageAddress)
  | .programAwaitingPageAddress => some (.program, cursorPageShift, .programAwaitingByteAddress)
  | .programAwaitingByteAddress => some (.program, cursorByteShift, .programAcceptingData)
  | .eraseAwaitingBlockAddress => some (.erase, cursorBlockShift, .eraseAwaitingExecute)
  | _ => none

/-! ## The effects on the store -/

namespace Store

def loadPage (s : Store) : Store :=
  { s with cache := fun i => if i < 256 then s.dataStore (s.cursor.toNat / 256 * 256 + i) else s.cache i }

def putByte (byte : UInt8) (s : Store) : Store :=
  incrementCursor true { s with cache := Function.update s.cache (s.cursor.toNat % 256) byte }

def programPage (s : Store) : Store :=
  incrementPage (storeClearCache
    { s with dataStore := setSegment 256 (s.cursor.toNat / 256) s.cache s.dataStore })

def eraseBlock (s : Store) : Store :=
  incrementBlock { s with dataStore := setSegment 65536 (s.cursor.toNat / 65536) (fun _ => 0) s.dataStore }

theorem putByte_cursor (byte : UInt8) (s : Store) : (s.putByte byte).cursor.toNat =
    s.cursor.toNat / 256 * 256 + (s.cursor.toNat % 256 + 1) % 256 :=
  incrementCursor_remain _

@[simp] theorem putByte_cache (byte : UInt8) (s : Store) :
    (s.putByte byte).cache = Function.update s.cache (s.cursor.toNat % 256) byte :=
  incrementCursor_cache true _

@[simp] theorem putByte_dataStore (byte : UInt8) (s : Store) : (s.putByte byte).dataStore = s.dataStore :=
  incrementCursor_dataStore true _

theorem programPage_cursor {s : Store} (hs : InStorage s) :
    s.programPage.cursor.toNat = (s.cursor.toNat / 256 * 256 + 256) % 16777216 :=
  incrementPage_cursor (s := storeClearCache { s with dataStore := _ }) hs

@[simp] theorem programPage_cache (s : Store) : s.programPage.cache = fun _ => 0 := rfl

@[simp] theorem programPage_dataStore (s : Store) :
    s.programPage.dataStore = setSegment 256 (s.cursor.toNat / 256) s.cache s.dataStore := rfl

theorem eraseBlock_cursor {s : Store} (hs : InStorage s) :
    s.eraseBlock.cursor.toNat = (s.cursor.toNat / 65536 * 65536 + 65536) % 16777216 :=
  incrementBlock_cursor (s := { s with dataStore := _ }) hs

@[simp] theorem eraseBlock_dataStore (s : Store) :
    s.eraseBlock.dataStore = setSegment 65536 (s.cursor.toNat / 65536) (fun _ => 0) s.dataStore := rfl

/-- The byte a data read answers. -/
def cacheByte (s : Store) : UInt8 := s.cache (s.cursor.toNat % 256)

end Store

/-- The word a data read answers. -/
def dataWord (byte : UInt8) : UInt32 := (cDummy <<< commandShift) ||| byte.toUInt32

theorem commandOf_dataWord (byte : UInt8) : commandOf (dataWord byte).toUInt64.toUInt32 = cDummy := by
  apply UInt32.toBitVec_inj.mp
  ext i hi
  interval_cases i <;> simp [commandOf, dataWord]

theorem dataWord_toUInt8 (byte : UInt8) : (dataWord byte).toUInt8 = byte := by
  apply UInt8.toBitVec_inj.mp
  ext i hi
  interval_cases i <;> simp [dataWord]

theorem commandOf_dummyWord : commandOf dummyWord.toUInt32 = cDummy := by decide

/-! ## The moves -/

/-- The accepted accesses, by the word peeked and the reading the deadline is set from. -/
inductive Move (d : Device) (peeked : UInt32) (settime : TimeUs) : Reply → Prop
  | opened (k : Kind) (hm : d.machineState = .initialState) (hc : commandOf peeked = k.setup) :
      Move d peeked settime { device := enter d k.awaitingBlock }
  | switched (j k : Kind) (hm : d.machineState = j.session) (hc : commandOf peeked = k.setup) :
      Move d peeked settime { device := enter (clearState d) k.awaitingBlock }
  | address (k : Kind) (shift : UInt32) (next : MachineState)
      (hm : addressStep d.machineState = some (k, shift, next)) (hc : commandOf peeked = k.setup) :
      Move d peeked settime {
        device := { d with store := setCursorByte (addressOf peeked) shift d.store, machineState := next }
        poke := if next = .programAcceptingData then some dummyWord else none }
  | readExecute (hm : d.machineState = .readAwaitingExecute ∨ d.machineState = .readProvidingData)
      (hc : commandOf peeked = cReadExecute) :
      Move d peeked settime {
        device := ⟨.readProvidingData, setDeadline settime readPageDuration, d.store.loadPage⟩
        poke := some dummyWord }
  | readByte (hm : d.machineState = .readProvidingData) (hc : commandOf peeked = cDummy) :
      Move d peeked settime {
        device := { d with store := incrementCursor false d.store }
        poke := some (dataWord d.store.cacheByte).toUInt64
        cpu := some (dataWord d.store.cacheByte) }
  | programByte (hm : d.machineState = .programAcceptingData) (hc : commandOf peeked = cDummy) :
      Move d peeked settime { device := { d with store := d.store.putByte (dataOf peeked) } }
  | programExecute (hm : d.machineState = .programAcceptingData) (hc : commandOf peeked = cProgramExecute) :
      Move d peeked settime {
        device := { d with deadline := setDeadline settime writePageDuration, store := d.store.programPage }
        poke := some dummyWord }
  | eraseExecute (hm : d.machineState = .eraseAwaitingExecute) (hc : commandOf peeked = cEraseExecute) :
      Move d peeked settime {
        device := { d with deadline := setDeadline settime eraseBlockDuration, store := d.store.eraseBlock }
        poke := some dummyWord }

theorem Move.unique {d : Device} {peeked : UInt32} {settime : TimeUs} {r r' : Reply}
    (h : Move d peeked settime r) (h' : Move d peeked settime r') : r = r' := by
  cases h <;> cases h' <;> grind [Kind.session, Kind.setup, addressStep, Kind]

/-- An accepted access does not enter the bug state. -/
theorem Move.not_bug {d : Device} {peeked : UInt32} {settime : TimeUs} {r : Reply} (h : Move d peeked settime r) :
    r.device.machineState ≠ .bug := by
  cases h with
  | address k shift next hm hc =>
    intro hn
    dsimp only at hn
    subst hn
    unfold addressStep at hm
    split at hm <;> cases hm
  | opened k hm hc => cases k <;> simp [Kind.awaitingBlock]
  | switched j k hm hc => cases k <;> simp [Kind.awaitingBlock]
  | readExecute hm hc => simp
  | readByte hm hc => simp [hm]
  | programByte hm hc => simp [hm]
  | programExecute hm hc => simp [hm]
  | eraseExecute hm hc => simp [hm]

/-- The words the handler pokes hold the dummy command. -/
theorem Move.poke_command {d : Device} {peeked : UInt32} {settime : TimeUs} {r : Reply}
    (h : Move d peeked settime r) {w : UInt64} (hw : r.poke = some w) : commandOf w.toUInt32 = cDummy := by
  cases h with
  | opened k hm hc => cases hw
  | switched j k hm hc => cases hw
  | address k shift next hm hc =>
    dsimp only at hw
    split_ifs at hw
    cases hw
    exact commandOf_dummyWord
  | readExecute hm hc => cases hw; exact commandOf_dummyWord
  | readByte hm hc => cases hw; exact commandOf_dataWord _
  | programByte hm hc => cases hw
  | programExecute hm hc => cases hw; exact commandOf_dummyWord
  | eraseExecute hm hc => cases hw; exact commandOf_dummyWord

/-- The device is busy at the reading `timenow`; the initial state does not look at the deadline. -/
def Busy (d : Device) (timenow : TimeUs) : Prop :=
  d.machineState ≠ .initialState ∧ beforeDeadline d.deadline timenow = true

/-! ## The handler makes the moves and nothing else -/

theorem handle_bug {d : Device} (hm : d.machineState = .bug) (w : UInt64) (t t' : TimeUs) :
    handleWatchpointIoregisters d w t t' = .error (.exit 1) := by
  simp [handleWatchpointIoregisters, hm]

/-- A device that is not busy makes the move of its command. -/
theorem handle_of_move {d : Device} {w : UInt64} {t t' : TimeUs} {r : Reply} (hs : InStorage d.store)
    (hb : ¬ Busy d t) (h : Move d w.toUInt32 t' r) : handleWatchpointIoregisters d w t t' = .ok r := by
  have ready : d.machineState ≠ .initialState → beforeDeadline d.deadline t = false := by
    intro hm
    rw [← Bool.not_eq_true]
    intro h
    exact hb ⟨hm, h⟩
  cases h with
  | opened k hm hc =>
    cases k <;> simp [handleWatchpointIoregisters, hm, hc, Kind.setup, Kind.awaitingBlock, cReadSetup,
      cProgramSetup, cEraseSetup]
  | switched j k hm hc =>
    have hr := ready (by rw [hm]; cases j <;> simp [Kind.session])
    cases j <;> cases k <;> simp [handleWatchpointIoregisters, hm, hc, hr, Kind.setup, Kind.awaitingBlock,
      Kind.session, cReadSetup, cProgramSetup, cEraseSetup, cDummy, cReadExecute, cProgramExecute,
      cEraseExecute]
  | address k shift next hm hc =>
    have hr := ready (by intro e; simp [e, addressStep] at hm)
    unfold addressStep at hm
    split at hm <;> simp only [Option.some.injEq, Prod.mk.injEq, reduceCtorEq] at hm <;>
      obtain ⟨rfl, rfl, rfl⟩ := hm <;> rename_i hm' <;>
      simp [handleWatchpointIoregisters, hm', hc, hr, Kind.setup]
  | readExecute hm hc =>
    rcases hm with hm | hm <;> have hr := ready (by rw [hm]; simp) <;>
      simp [handleWatchpointIoregisters, hm, hc, hr, storeCopyPageToCache_eq hs, Store.loadPage,
        cReadExecute, cDummy]
  | readByte hm hc =>
    have hr := ready (by rw [hm]; simp)
    simp [handleWatchpointIoregisters, hm, hc, hr, storeGetCacheByte_eq, dataWord, Store.cacheByte]
  | programByte hm hc =>
    have hr := ready (by rw [hm]; simp)
    simp [handleWatchpointIoregisters, hm, hc, hr, storeSetCacheByte_eq, Store.putByte]
  | programExecute hm hc =>
    have hr := ready (by rw [hm]; simp)
    simp [handleWatchpointIoregisters, hm, hc, hr, storeCopyPageFromCache_eq hs, Store.programPage,
      cProgramExecute, cDummy]
  | eraseExecute hm hc =>
    have hr := ready (by rw [hm]; simp)
    simp [handleWatchpointIoregisters, hm, hc, hr, storeEraseBlock_eq hs, Store.eraseBlock]

/-- A busy device, and one whose state does not accept the command, only enters the bug state. -/
theorem handle_of_reject {d : Device} {w : UInt64} {t t' : TimeUs} (hm : d.machineState ≠ .bug)
    (h : Busy d t ∨ ∀ r, ¬ Move d w.toUInt32 t' r) :
    handleWatchpointIoregisters d w t t' = .ok { device := enter d .bug } := by
  rcases h with ⟨hi, hb⟩ | h
  · cases hd : d.machineState <;> simp_all [handleWatchpointIoregisters]
  -- no command of the state: each branch of the handler that remains enters the bug state
  · have address : ∀ k shift next, addressStep d.machineState = some (k, shift, next) →
        commandOf w.toUInt32 ≠ k.setup := fun k shift next hm hc => h _ (.address k shift next hm hc)
    have switch : ∀ j k : Kind, d.machineState = j.session → commandOf w.toUInt32 ≠ k.setup :=
      fun j k hm hc => h _ (.switched j k hm hc)
    cases hd : d.machineState with
    | bug => exact absurd hd hm
    | initialState =>
      have hc : ∀ k : Kind, commandOf w.toUInt32 ≠ k.setup := fun k hc => h _ (.opened k hd hc)
      simp [handleWatchpointIoregisters, hd, show _ ≠ cReadSetup from hc .read,
        show _ ≠ cProgramSetup from hc .program, show _ ≠ cEraseSetup from hc .erase]
    | readAwaitingBlockAddress | readAwaitingPageAddress | readAwaitingByteAddress =>
      have hc : commandOf w.toUInt32 ≠ cReadSetup := address .read _ _ (by rw [hd]; rfl)
      simp [handleWatchpointIoregisters, hd, hc]
    | programAwaitingBlockAddress | programAwaitingPageAddress | programAwaitingByteAddress =>
      have hc : commandOf w.toUInt32 ≠ cProgramSetup := address .program _ _ (by rw [hd]; rfl)
      simp [handleWatchpointIoregisters, hd, hc]
    | eraseAwaitingBlockAddress =>
      have hc : commandOf w.toUInt32 ≠ cEraseSetup := address .erase _ _ (by rw [hd]; rfl)
      simp [handleWatchpointIoregisters, hd, hc]
    | readAwaitingExecute =>
      have hc : commandOf w.toUInt32 ≠ cReadExecute := fun hc => h _ (.readExecute (.inl hd) hc)
      simp [handleWatchpointIoregisters, hd, hc]
    | readProvidingData =>
      have hd' : commandOf w.toUInt32 ≠ cDummy := fun hc => h _ (.readByte hd hc)
      have he : commandOf w.toUInt32 ≠ cReadExecute := fun hc => h _ (.readExecute (.inr hd) hc)
      simp [handleWatchpointIoregisters, hd, hd', he, show _ ≠ cReadSetup from switch .read .read hd,
        show _ ≠ cProgramSetup from switch .read .program hd, show _ ≠ cEraseSetup from switch .read .erase hd]
    | programAcceptingData =>
      have hd' : commandOf w.toUInt32 ≠ cDummy := fun hc => h _ (.programByte hd hc)
      have he : commandOf w.toUInt32 ≠ cProgramExecute := fun hc => h _ (.programExecute hd hc)
      simp [handleWatchpointIoregisters, hd, hd', he, show _ ≠ cReadSetup from switch .program .read hd,
        show _ ≠ cProgramSetup from switch .program .program hd,
        show _ ≠ cEraseSetup from switch .program .erase hd]
    | eraseAwaitingExecute =>
      have he : commandOf w.toUInt32 ≠ cEraseExecute := fun hc => h _ (.eraseExecute hd hc)
      simp [handleWatchpointIoregisters, hd, he, show _ ≠ cReadSetup from switch .erase .read hd,
        show _ ≠ cProgramSetup from switch .erase .program hd,
        show _ ≠ cEraseSetup from switch .erase .erase hd]

/-- Everything one access can do outside the bug state. -/
theorem handle_cases {d : Device} (hs : InStorage d.store) (hm : d.machineState ≠ .bug) (w : UInt64)
    (t t' : TimeUs) :
    (∃ r, ¬ Busy d t ∧ Move d w.toUInt32 t' r ∧ handleWatchpointIoregisters d w t t' = .ok r) ∨
    ((Busy d t ∨ ∀ r, ¬ Move d w.toUInt32 t' r) ∧
      handleWatchpointIoregisters d w t t' = .ok { device := enter d .bug }) := by
  by_cases h : Busy d t ∨ ∀ r, ¬ Move d w.toUInt32 t' r
  · exact .inr ⟨h, handle_of_reject hm h⟩
  · push Not at h
    obtain ⟨hb, r, hr⟩ := h
    exact .inl ⟨r, hb, hr, handle_of_move hs hb hr⟩

/-- The reply of an access: a move, or only the bug state. -/
theorem handle_inv {d : Device} (hs : InStorage d.store) {w : UInt64} {t t' : TimeUs} {r : Reply}
    (h : handleWatchpointIoregisters d w t t' = .ok r) :
    d.machineState ≠ .bug ∧ ((¬ Busy d t ∧ Move d w.toUInt32 t' r) ∨
      ((Busy d t ∨ ∀ r', ¬ Move d w.toUInt32 t' r') ∧ r = { device := enter d .bug })) := by
  have hm : d.machineState ≠ .bug := by
    intro hm
    rw [handle_bug hm] at h
    cases h
  refine ⟨hm, ?_⟩
  rcases handle_cases hs hm w t t' with ⟨r', hb, hmove, h'⟩ | ⟨hrej, h'⟩
  · rw [h'] at h; cases h; exact .inl ⟨hb, hmove⟩
  · rw [h'] at h; cases h; exact .inr ⟨hrej, rfl⟩

end NandRig.Emulator
