/-
The protocol of the parser: the sequences of command bytes it accepts, as the regular expression
of the interface tables, and the times at which it accepts them. The machine states are the
states of an automaton for the prefixes of that expression, each with the words it has left.
-/
import NandRig.Device.Run
import Mathlib.Computability.RegularExpressions

namespace NandRig.Emulator

open Machine RegularExpression Computability

/-! ## The words of the protocol -/

def readWord : RegularExpression UInt32 :=
  char cReadSetup * (char cReadSetup * (char cReadSetup * (char cReadSetup * (char cReadExecute *
    star (char cDummy + char cReadExecute)))))

def programWord : RegularExpression UInt32 :=
  char cProgramSetup * (char cProgramSetup * (char cProgramSetup * (char cProgramSetup *
    star (char cDummy + char cProgramExecute))))

def eraseWord : RegularExpression UInt32 :=
  char cEraseSetup * (char cEraseSetup * star (char cEraseExecute))

def protocol : RegularExpression UInt32 := star (readWord + programWord + eraseWord)

/-! ## The automaton -/

/-- The commands that open an operation. -/
def opening (command : UInt32) : Option MachineState :=
  if command = cReadSetup then some .readAwaitingBlockAddress
  else if command = cProgramSetup then some .programAwaitingBlockAddress
  else if command = cEraseSetup then some .eraseAwaitingBlockAddress
  else none

/-- The state after an accepted command. -/
def next (m : MachineState) (command : UInt32) : Option MachineState :=
  match m with
  | .initialState => opening command
  | .bug => none
  | .readAwaitingBlockAddress => if command = cReadSetup then some .readAwaitingPageAddress else none
  | .readAwaitingPageAddress => if command = cReadSetup then some .readAwaitingByteAddress else none
  | .readAwaitingByteAddress => if command = cReadSetup then some .readAwaitingExecute else none
  | .readAwaitingExecute => if command = cReadExecute then some .readProvidingData else none
  | .readProvidingData =>
    if command = cDummy ∨ command = cReadExecute then some .readProvidingData else opening command
  | .programAwaitingBlockAddress =>
    if command = cProgramSetup then some .programAwaitingPageAddress else none
  | .programAwaitingPageAddress =>
    if command = cProgramSetup then some .programAwaitingByteAddress else none
  | .programAwaitingByteAddress => if command = cProgramSetup then some .programAcceptingData else none
  | .programAcceptingData =>
    if command = cDummy ∨ command = cProgramExecute then some .programAcceptingData else opening command
  | .eraseAwaitingBlockAddress => if command = cEraseSetup then some .eraseAwaitingExecute else none
  | .eraseAwaitingExecute =>
    if command = cEraseExecute then some .eraseAwaitingExecute else opening command

theorem opening_setup (k : Kind) : opening k.setup = some k.awaitingBlock := by
  cases k <;> rfl

theorem opening_some {c : UInt32} {m : MachineState} (h : opening c = some m) :
    ∃ k : Kind, c = k.setup ∧ m = k.awaitingBlock := by
  unfold opening at h
  split_ifs at h with h1 h2 h3 <;> cases h
  · exact ⟨.read, h1, rfl⟩
  · exact ⟨.program, h2, rfl⟩
  · exact ⟨.erase, h3, rfl⟩

/-- The automaton goes where the accepted accesses go. -/
theorem Move.next {d : Device} {peeked : UInt32} {settime : TimeUs} {r : Reply} (h : Move d peeked settime r) :
    next d.machineState (commandOf peeked) = some r.device.machineState := by
  cases h with
  | opened k hm hc => rw [hm, hc]; exact opening_setup k
  | switched j k hm hc =>
    rw [hm, hc]
    cases j <;> cases k <;> rfl
  | address k shift next hm hc =>
    rw [hc]
    unfold addressStep at hm
    split at hm <;> simp only [Option.some.injEq, Prod.mk.injEq, reduceCtorEq] at hm <;>
      obtain ⟨rfl, rfl, rfl⟩ := hm <;> simp only [*] <;> rfl
  | readExecute hm hc => rcases hm with hm | hm <;> rw [hm, hc] <;> rfl
  | readByte hm hc => dsimp only; rw [hm, hc]; rfl
  | programByte hm hc => dsimp only; rw [hm, hc]; rfl
  | programExecute hm hc => dsimp only; rw [hm, hc]; rfl
  | eraseExecute hm hc => dsimp only; rw [hm, hc]; rfl

/-- Every command the automaton takes is an access the parser accepts. -/
theorem move_of_next {d : Device} {peeked : UInt32} {m : MachineState} (settime : TimeUs)
    (h : Emulator.next d.machineState (commandOf peeked) = some m) : ∃ r, Move d peeked settime r := by
  have switch (j : Kind) (hm : d.machineState = j.session) (ho : opening (commandOf peeked) = some m) :
      ∃ r, Move d peeked settime r := by
    obtain ⟨k, hc, _⟩ := opening_some ho
    exact ⟨_, .switched j k hm hc⟩
  have address (k : Kind) (shift : UInt32) (m' : MachineState)
      (hm : addressStep d.machineState = some (k, shift, m')) (hc : commandOf peeked = k.setup) :
      ∃ r, Move d peeked settime r := ⟨_, .address k shift m' hm hc⟩
  unfold Emulator.next at h
  -- the states in the order of their declaration, each with the commands it takes
  split at h <;> rename_i hm
  · obtain ⟨k, hc, _⟩ := opening_some h
    exact ⟨_, .opened k hm hc⟩
  · cases h
  all_goals split_ifs at h with hc
  · exact address .read _ _ (by rw [hm]; rfl) hc
  · exact address .read _ _ (by rw [hm]; rfl) hc
  · exact address .read _ _ (by rw [hm]; rfl) hc
  · exact ⟨_, .readExecute (.inl hm) hc⟩
  · rcases hc with hc | hc
    · exact ⟨_, .readByte hm hc⟩
    · exact ⟨_, .readExecute (.inr hm) hc⟩
  · exact switch .read hm h
  · exact address .program _ _ (by rw [hm]; rfl) hc
  · exact address .program _ _ (by rw [hm]; rfl) hc
  · exact address .program _ _ (by rw [hm]; rfl) hc
  · rcases hc with hc | hc
    · exact ⟨_, .programByte hm hc⟩
    · exact ⟨_, .programExecute hm hc⟩
  · exact switch .program hm h
  · exact address .erase _ _ (by rw [hm]; rfl) hc
  · exact ⟨_, .eraseExecute hm hc⟩
  · exact switch .erase hm h

/-! ## The words each state has left -/

/-- The rest of a session and all that may follow it. -/
def readLeft : Language UInt32 := ({[cDummy]} + {[cReadExecute]})∗ * protocol.matches'
def programLeft : Language UInt32 := ({[cDummy]} + {[cProgramExecute]})∗ * protocol.matches'
def eraseLeft : Language UInt32 := {[cEraseExecute]}∗ * protocol.matches'

def left : MachineState → Language UInt32
  | .initialState => protocol.matches'
  | .bug => 0
  | .readAwaitingBlockAddress => {[cReadSetup]} * ({[cReadSetup]} * ({[cReadSetup]} * ({[cReadExecute]} * readLeft)))
  | .readAwaitingPageAddress => {[cReadSetup]} * ({[cReadSetup]} * ({[cReadExecute]} * readLeft))
  | .readAwaitingByteAddress => {[cReadSetup]} * ({[cReadExecute]} * readLeft)
  | .readAwaitingExecute => {[cReadExecute]} * readLeft
  | .readProvidingData => readLeft
  | .programAwaitingBlockAddress => {[cProgramSetup]} * ({[cProgramSetup]} * ({[cProgramSetup]} * programLeft))
  | .programAwaitingPageAddress => {[cProgramSetup]} * ({[cProgramSetup]} * programLeft)
  | .programAwaitingByteAddress => {[cProgramSetup]} * programLeft
  | .programAcceptingData => programLeft
  | .eraseAwaitingBlockAddress => {[cEraseSetup]} * eraseLeft
  | .eraseAwaitingExecute => eraseLeft

/-- A word of the protocol opens one of the three operations. -/
theorem cons_mem_protocol {c : UInt32} {w : List UInt32} :
    c :: w ∈ protocol.matches' ↔ ∃ m, opening c = some m ∧ w ∈ left m := by
  have h : c :: w ∈ protocol.matches' ↔
      (c = cReadSetup ∧ w ∈ left .readAwaitingBlockAddress) ∨
      (c = cProgramSetup ∧ w ∈ left .programAwaitingBlockAddress) ∨
      (c = cEraseSetup ∧ w ∈ left .eraseAwaitingBlockAddress) := by
    have hp : protocol.matches' = (readWord.matches' + programWord.matches' + eraseWord.matches')∗ := rfl
    -- not the empty word, so it starts with a word of one of the three operations
    rw [hp, cons_mem_kstar, ← hp, add_mul, add_mul, Language.mem_add, Language.mem_add, or_assoc]
    simp only [readWord, programWord, eraseWord, matches'_mul, matches'_char, matches'_star, matches'_add,
      mul_assoc, cons_mem_letter_mul]
    rfl
  rw [h]
  constructor
  · rintro (⟨rfl, hw⟩ | ⟨rfl, hw⟩ | ⟨rfl, hw⟩)
    · exact ⟨_, opening_setup .read, hw⟩
    · exact ⟨_, opening_setup .program, hw⟩
    · exact ⟨_, opening_setup .erase, hw⟩
  · rintro ⟨m, hm, hw⟩
    obtain ⟨k, rfl, rfl⟩ := opening_some hm
    cases k
    · exact .inl ⟨rfl, hw⟩
    · exact .inr (.inl ⟨rfl, hw⟩)
    · exact .inr (.inr ⟨rfl, hw⟩)

/-- A state that takes a single command. -/
theorem cons_mem_left_of_letter {m : MachineState} (m' : MachineState) {a : UInt32} (hl : left m = {[a]} * left m')
    (hn : ∀ c, next m c = if c = a then some m' else none) (c : UInt32) (w : List UInt32) :
    c :: w ∈ left m ↔ ∃ m', next m c = some m' ∧ w ∈ left m' := by
  rw [hl, cons_mem_letter_mul, hn]
  by_cases h : c = a <;> simp [h]

/-- A session state: its own commands repeat, all others open an operation. -/
theorem cons_mem_left_of_session {m : MachineState} {A : Language UInt32} {p : UInt32 → Prop} [DecidablePred p]
    (hl : left m = A∗ * protocol.matches') (hA : ∀ u, u ∈ A ↔ ∃ c, u = [c] ∧ p c)
    (hn : ∀ c, next m c = if p c then some m else opening c) (hp : ∀ c, p c → opening c = none)
    (c : UInt32) (w : List UInt32) :
    c :: w ∈ left m ↔ ∃ m', next m c = some m' ∧ w ∈ left m' := by
  have hlen : ∀ u ∈ A, u.length = 1 := by
    intro u hu
    obtain ⟨b, rfl, _⟩ := (hA u).1 hu
    rfl
  have hc : [c] ∈ A ↔ p c := by
    rw [hA]
    constructor
    · rintro ⟨b, hb, h⟩
      cases hb
      exact h
    · intro h
      exact ⟨c, rfl, h⟩
  rw [hl, cons_mem_letters_mul hlen, ← hl, hc, hn, cons_mem_protocol]
  by_cases h : p c
  · simp [h, hp c h]
  · simp [h]

/-- The words left in a state start with the commands the automaton takes there. -/
theorem cons_mem_left : ∀ (m : MachineState) (c : UInt32) (w : List UInt32),
    c :: w ∈ left m ↔ ∃ m', next m c = some m' ∧ w ∈ left m'
  | .initialState => fun _ _ => cons_mem_protocol
  | .bug => fun _ _ => by simp [left, next]
  | .readAwaitingBlockAddress => cons_mem_left_of_letter .readAwaitingPageAddress rfl fun _ => rfl
  | .readAwaitingPageAddress => cons_mem_left_of_letter .readAwaitingByteAddress rfl fun _ => rfl
  | .readAwaitingByteAddress => cons_mem_left_of_letter .readAwaitingExecute rfl fun _ => rfl
  | .readAwaitingExecute => cons_mem_left_of_letter .readProvidingData rfl fun _ => rfl
  | .programAwaitingBlockAddress => cons_mem_left_of_letter .programAwaitingPageAddress rfl fun _ => rfl
  | .programAwaitingPageAddress => cons_mem_left_of_letter .programAwaitingByteAddress rfl fun _ => rfl
  | .programAwaitingByteAddress => cons_mem_left_of_letter .programAcceptingData rfl fun _ => rfl
  | .eraseAwaitingBlockAddress => cons_mem_left_of_letter .eraseAwaitingExecute rfl fun _ => rfl
  | .readProvidingData =>
    cons_mem_left_of_session (p := fun c => c = cDummy ∨ c = cReadExecute) rfl
      (fun _ => mem_letters)
      (fun _ => rfl) (by rintro c (rfl | rfl) <;> rfl)
  | .programAcceptingData =>
    cons_mem_left_of_session (p := fun c => c = cDummy ∨ c = cProgramExecute) rfl
      (fun _ => mem_letters)
      (fun _ => rfl) (by rintro c (rfl | rfl) <;> rfl)
  | .eraseAwaitingExecute =>
    cons_mem_left_of_session (p := fun c => c = cEraseExecute) rfl (fun _ => mem_letter)
      (fun _ => rfl) (by rintro c rfl; rfl)

/-- Every state but the bug state can finish the protocol. -/
theorem exists_mem_left {m : MachineState} (hm : m ≠ .bug) : ∃ w, w ∈ left m := by
  have hp : [] ∈ protocol.matches' := Language.nil_mem_kstar _
  have session (A : Language UInt32) : [] ∈ A∗ * protocol.matches' :=
    Language.mem_mul.2 ⟨[], Language.nil_mem_kstar A, [], hp, rfl⟩
  have letter {a : UInt32} {L : Language UInt32} (h : ∃ w, w ∈ L) : ∃ w, w ∈ ({[a]} : Language UInt32) * L := by
    obtain ⟨w, hw⟩ := h
    exact ⟨a :: w, cons_mem_letter_mul.2 ⟨rfl, hw⟩⟩
  cases m with
  | initialState => exact ⟨[], hp⟩
  | bug => exact absurd rfl hm
  | readAwaitingBlockAddress => exact letter (letter (letter (letter ⟨[], session _⟩)))
  | readAwaitingPageAddress => exact letter (letter (letter ⟨[], session _⟩))
  | readAwaitingByteAddress => exact letter (letter ⟨[], session _⟩)
  | readAwaitingExecute => exact letter ⟨[], session _⟩
  | programAwaitingBlockAddress => exact letter (letter (letter ⟨[], session _⟩))
  | programAwaitingPageAddress => exact letter (letter ⟨[], session _⟩)
  | programAwaitingByteAddress => exact letter ⟨[], session _⟩
  | eraseAwaitingBlockAddress => exact letter ⟨[], session _⟩
  | readProvidingData | programAcceptingData | eraseAwaitingExecute => exact ⟨[], session _⟩

theorem next_not_bug {m m' : MachineState} {c : UInt32} (h : next m c = some m') : m' ≠ .bug := by
  rintro rfl
  have opening_bug : opening c ≠ some .bug := by
    intro h
    obtain ⟨k, _, hk⟩ := opening_some h
    cases k <;> cases hk
  unfold next at h
  split at h
  · exact opening_bug h
  · cases h
  all_goals split_ifs at h
  all_goals first | exact opening_bug h | cases h

/-- The automaton takes exactly the prefixes of the words of the protocol. -/
theorem prefix_protocol_iff (cs : List UInt32) :
    (∃ word ∈ protocol.matches', cs <+: word) ↔ (cs.foldlM next .initialState).isSome = true :=
  prefix_iff_accepts cons_mem_left (fun _ _ _ h => exists_mem_left (next_not_bug h)) cs .initialState
    (exists_mem_left (by simp))

/-! ## Timed sequences of accesses -/

/-- An access with the two readings of the clock its handler may take. -/
structure Access where
  ioregisters : UInt64
  timenow : TimeUs
  settime : TimeUs

namespace Access

def event (a : Access) : Event := .access a.ioregisters a.timenow a.settime

def command (a : Access) : UInt32 := commandOf a.ioregisters.toUInt32

end Access

/-- The readings of a sequence of accesses, in the order they are taken. -/
def readings (as : List Access) : List TimeUs := as.flatMap fun a => [a.timenow, a.settime]

/-- The device that has taken the accesses is not in the bug state, nor has been. -/
def Survives (d : Device) (as : List Access) : Prop :=
  ∃ d', run step d (as.map Access.event) = .ok d' ∧ d'.machineState ≠ .bug

/-- The commands are a prefix of a word of the protocol. -/
def InProtocol (as : List Access) : Prop := ∃ word ∈ protocol.matches', as.map Access.command <+: word

/-- Every access after an accepted EXECUTE is made at its deadline or later. -/
def InTime (d : Device) (as : List Access) : Prop :=
  ∀ pre e mid a post, as = pre ++ e :: mid ++ a :: post → ∀ k : Kind, e.command = k.execute →
    Survives d (pre ++ [e]) → e.settime.toNat + k.duration.toNat ≤ a.timenow.toNat

/-! ## One more access -/

theorem run_access_snoc {d d' : Device} {as : List Access} {a : Access}
    (h : run step d ((as ++ [a]).map Access.event) = .ok d') :
    ∃ d₁ r, run step d (as.map Access.event) = .ok d₁ ∧
      handleWatchpointIoregisters d₁ a.ioregisters a.timenow a.settime = .ok r ∧ r.device = d' := by
  rw [List.map_append, List.map_singleton] at h
  obtain ⟨d₁, h1, h2⟩ := run_snoc_ok h
  obtain ⟨r, hr, hd⟩ := step_access_ok h2
  exact ⟨d₁, r, h1, hr, hd⟩

/-- Surviving one more access: the earlier ones are survived and the last is a move. -/
theorem survives_snoc {d : Device} (hs : InStorage d.store) {as : List Access} {a : Access} {d' : Device}
    (h : run step d ((as ++ [a]).map Access.event) = .ok d') (hb : d'.machineState ≠ .bug) :
    ∃ d₁ r, run step d (as.map Access.event) = .ok d₁ ∧ d₁.machineState ≠ .bug ∧ ¬ Busy d₁ a.timenow ∧
      Move d₁ a.ioregisters.toUInt32 a.settime r ∧ r.device = d' := by
  obtain ⟨d₁, r, h1, hr, rfl⟩ := run_access_snoc h
  obtain ⟨hm, ⟨hbusy, hmove⟩ | ⟨_, rfl⟩⟩ := handle_inv (run_inStorage hs h1) hr
  · exact ⟨d₁, r, h1, hm, hbusy, hmove, rfl⟩
  · exact absurd rfl hb

theorem run_of_move {d d₁ : Device} (hs : InStorage d.store) {as : List Access} {a : Access} {r : Reply}
    (h1 : run step d (as.map Access.event) = .ok d₁) (hbusy : ¬ Busy d₁ a.timenow)
    (hmove : Move d₁ a.ioregisters.toUInt32 a.settime r) :
    run step d ((as ++ [a]).map Access.event) = .ok r.device := by
  rw [List.map_append, List.map_singleton, run_snoc, h1]
  show step d₁ (.access _ _ _) = _
  rw [step_access, handle_of_move (run_inStorage hs h1) hbusy hmove]
  rfl

theorem Survives.of_append {d : Device} (hs : InStorage d.store) {as bs : List Access}
    (h : Survives d (as ++ bs)) : Survives d as := by
  induction bs using List.reverseRecOn with
  | nil => rwa [List.append_nil] at h
  | append_singleton bs b ih =>
    rw [← List.append_assoc] at h
    obtain ⟨d', h, hb⟩ := h
    obtain ⟨d₁, _, h1, hm, _⟩ := survives_snoc hs h hb
    exact ih ⟨d₁, h1, hm⟩

/-! ## The commands of the accesses survived -/

theorem commands_of_survives {d₀ : Device} {as : List Access} {d : Device}
    (h : run step (parserInit d₀) (as.map Access.event) = .ok d) (hb : d.machineState ≠ .bug) :
    (as.map Access.command).foldlM next .initialState = some d.machineState := by
  induction as using List.reverseRecOn generalizing d with
  | nil => cases h; rfl
  | append_singleton as a ih =>
    obtain ⟨d₁, r, h1, hm, _, hmove, rfl⟩ := survives_snoc (inStorage_init d₀) h hb
    rw [List.map_append, List.foldlM_append, ih h1 hm]
    show (next d₁.machineState a.command).bind _ = _
    rw [Access.command, hmove.next]
    rfl

/-! ## The deadlines of the accesses survived -/

/-- A move sets the deadline of its EXECUTE and enters its session, or keeps or clears the one there is. -/
theorem Move.deadline {d : Device} {peeked : UInt32} {settime : TimeUs} {r : Reply} (h : Move d peeked settime r) :
    (∃ k : Kind, commandOf peeked = k.execute ∧ r.device.deadline = setDeadline settime k.duration ∧
      r.device.machineState = k.session ∧ r.poke = some dummyWord) ∨
    ((∀ k : Kind, commandOf peeked ≠ k.execute) ∧
      (r.device.deadline = d.deadline ∨ r.device.deadline = deadlineClear)) := by
  cases h with
  | opened k hm hc => exact .inr ⟨fun j => hc ▸ Kind.setup_ne_execute k j, .inl rfl⟩
  | switched j k hm hc => exact .inr ⟨fun j => hc ▸ Kind.setup_ne_execute k j, .inr rfl⟩
  | address k shift next hm hc => exact .inr ⟨fun j => hc ▸ Kind.setup_ne_execute k j, .inl rfl⟩
  | readExecute hm hc => exact .inl ⟨.read, hc, rfl, rfl, rfl⟩
  | readByte hm hc => exact .inr ⟨fun j => hc ▸ Kind.dummy_ne_execute j, .inl rfl⟩
  | programByte hm hc => exact .inr ⟨fun j => hc ▸ Kind.dummy_ne_execute j, .inl rfl⟩
  | programExecute hm hc => exact .inl ⟨.program, hc, rfl, hm, rfl⟩
  | eraseExecute hm hc => exact .inl ⟨.erase, hc, rfl, hm, rfl⟩

/-- An accepted EXECUTE leaves the dummy word. -/
theorem Move.poke_of_execute {d : Device} {peeked : UInt32} {settime : TimeUs} {r : Reply}
    (h : Move d peeked settime r) {k : Kind} (hc : commandOf peeked = k.execute) : r.poke = some dummyWord := by
  rcases h.deadline with ⟨_, _, _, _, hpoke⟩ | ⟨hne, _⟩
  · exact hpoke
  · exact absurd hc (hne k)

/-- The deadline of a device is clear, or that of an EXECUTE it has accepted. -/
theorem deadline_of_survives {d₀ : Device} {as : List Access} {d : Device}
    (h : run step (parserInit d₀) (as.map Access.event) = .ok d) (hb : d.machineState ≠ .bug) :
    d.deadline = deadlineClear ∨ ∃ pre e mid, as = pre ++ e :: mid ∧ ∃ k : Kind, e.command = k.execute ∧
      Survives (parserInit d₀) (pre ++ [e]) ∧ d.deadline = setDeadline e.settime k.duration := by
  induction as using List.reverseRecOn generalizing d with
  | nil => cases h; exact .inl rfl
  | append_singleton as a ih =>
    obtain ⟨d₁, r, h1, hm, _, hmove, rfl⟩ := survives_snoc (inStorage_init d₀) h hb
    rcases hmove.deadline with ⟨k, hc, hd, _⟩ | ⟨_, hd | hd⟩
    · exact .inr ⟨as, a, [], rfl, k, hc, ⟨_, h, hb⟩, hd⟩
    · rw [hd]
      rcases ih h1 hm with h0 | ⟨pre, e, mid, rfl, hrest⟩
      · exact .inl h0
      · exact .inr ⟨pre, e, mid ++ [a], by simp, hrest⟩
    · exact .inl hd

/-- The readings of a sequence do not decrease from one access to a later one. -/
theorem readings_le (pre mid post : List Access) {b a : Access}
    (h : (readings (pre ++ b :: mid ++ a :: post)).Pairwise (· ≤ ·)) : b.timenow.toNat ≤ a.timenow.toNat := by
  unfold readings at h
  rw [List.append_assoc, List.flatMap_append, List.pairwise_append] at h
  have h1 := h.2.1
  rw [List.cons_append, List.flatMap_cons, List.pairwise_append] at h1
  have := h1.2.2 b.timenow (by simp) a.timenow (by simp)
  rwa [UInt64.le_iff_toNat_le] at this

/-- A device that survives is never accessed before the deadline of an EXECUTE it accepted. -/
theorem inTime_of_survives {d₀ : Device} {as : List Access} (hmono : (readings as).Pairwise (· ≤ ·))
    (hclock : ∀ a ∈ as, ∀ k : Kind, a.command = k.execute → a.settime.toNat + k.duration.toNat < 2 ^ 64)
    (h : Survives (parserInit d₀) as) : InTime (parserInit d₀) as := by
  rintro pre e mid a post rfl k hk -
  have hs := inStorage_init d₀
  -- the access right after the EXECUTE finds its deadline
  obtain ⟨b, rest, hb⟩ : ∃ b rest, mid ++ a :: post = b :: rest := by
    cases mid with
    | nil => exact ⟨a, post, rfl⟩
    | cons b mid => exact ⟨b, mid ++ a :: post, rfl⟩
  have hsplit : pre ++ e :: mid ++ a :: post = pre ++ [e] ++ [b] ++ rest := by
    simp [hb]
  have h2 : Survives (parserInit d₀) (pre ++ [e] ++ [b]) := (hsplit ▸ h).of_append hs
  obtain ⟨d₂, h2, hb2⟩ := h2
  obtain ⟨d₁, r₂, h1, hm1, hbusy, _, _⟩ := survives_snoc hs h2 hb2
  obtain ⟨d₀', r₁, _, _, _, hmove, hr₁⟩ := survives_snoc hs h1 hm1
  have hdl : d₁.deadline = setDeadline e.settime k.duration ∧ d₁.machineState ≠ .initialState := by
    rcases hmove.deadline with ⟨j, hj, hd, hsession, _⟩ | ⟨hne, _⟩
    · obtain rfl : j = k := Kind.execute_injective (hj.symm.trans hk)
      rw [← hr₁]
      refine ⟨hd, ?_⟩
      rw [hsession]
      cases j <;> simp [Kind.session]
    · exact absurd hk (hne k)
  have hov := hclock e (by simp) k hk
  have hready : (setDeadline e.settime k.duration).toNat ≤ b.timenow.toNat := by
    rw [← hdl.1, ← beforeDeadline_eq_false, ← Bool.not_eq_true]
    exact fun hbd => hbusy ⟨hdl.2, hbd⟩
  rw [setDeadline_toNat hov] at hready
  refine le_trans hready ?_
  cases mid with
  | nil =>
    rw [List.nil_append, List.cons.injEq] at hb
    rw [hb.1]
  | cons c mid =>
    rw [List.cons_append, List.cons.injEq] at hb
    rw [← hb.1]
    refine readings_le (pre ++ [e]) mid post ?_
    simpa using hmono

/-! ## The parser accepts exactly its protocol -/

theorem InProtocol.of_append {as bs : List Access} (h : InProtocol (as ++ bs)) : InProtocol as := by
  obtain ⟨word, hw, hp⟩ := h
  rw [List.map_append] at hp
  exact ⟨word, hw, (List.prefix_append _ _).trans hp⟩

theorem InTime.of_append {d : Device} {as bs : List Access} (h : InTime d (as ++ bs)) : InTime d as := by
  rintro pre e mid a post rfl
  exact h pre e mid a (post ++ bs) (by simp)

/-- A device that has survived the accesses survives one more that keeps protocol and time. -/
theorem move_of_conforming {d₀ : Device} {as : List Access} {a : Access} {d : Device}
    (hclock : ∀ a ∈ as, ∀ k : Kind, a.command = k.execute → a.settime.toNat + k.duration.toNat < 2 ^ 64)
    (h : run step (parserInit d₀) (as.map Access.event) = .ok d) (hb : d.machineState ≠ .bug)
    (hp : InProtocol (as ++ [a])) (ht : InTime (parserInit d₀) (as ++ [a])) :
    ¬ Busy d a.timenow ∧ ∃ r, Move d a.ioregisters.toUInt32 a.settime r := by
  constructor
  · rintro ⟨_, hbusy⟩
    rw [beforeDeadline_iff] at hbusy
    rcases deadline_of_survives h hb with h0 | ⟨pre, e, mid, rfl, k, hk, hsurv, hd⟩
    · rw [h0] at hbusy
      exact absurd hbusy (Nat.not_lt_zero _)
    · rw [hd, setDeadline_toNat (hclock e (by simp) k hk)] at hbusy
      have := ht pre e mid a [] (by simp) k hk hsurv
      omega
  · have hnext := (prefix_protocol_iff _).1 hp
    rw [List.map_append, List.foldlM_append, commands_of_survives h hb] at hnext
    obtain ⟨m, hm⟩ := Option.isSome_iff_exists.1 hnext
    have hm' : (next d.machineState a.command).bind pure = some m := hm
    rw [Option.bind_eq_some_iff] at hm'
    obtain ⟨m', hm', _⟩ := hm'
    exact move_of_next a.settime hm'

theorem survives_iff {d₀ : Device} {as : List Access} (hmono : (readings as).Pairwise (· ≤ ·))
    (hclock : ∀ a ∈ as, ∀ k : Kind, a.command = k.execute → a.settime.toNat + k.duration.toNat < 2 ^ 64) :
    Survives (parserInit d₀) as ↔ InProtocol as ∧ InTime (parserInit d₀) as := by
  constructor
  · intro h
    refine ⟨?_, inTime_of_survives hmono hclock h⟩
    obtain ⟨d, h, hb⟩ := h
    unfold InProtocol
    rw [prefix_protocol_iff, commands_of_survives h hb]
    rfl
  · rintro ⟨hp, ht⟩
    -- the accesses up to the last one are survived, and protocol and time admit the last
    clear hmono
    induction as using List.reverseRecOn with
    | nil => exact ⟨_, rfl, by simp [parserInit]⟩
    | append_singleton as a ih =>
      have hclock' := fun b hb => hclock b (List.mem_append_left [a] hb)
      obtain ⟨d, h, hb⟩ := ih hclock' hp.of_append ht.of_append
      obtain ⟨hbusy, r, hmove⟩ := move_of_conforming hclock' h hb hp ht
      exact ⟨_, run_of_move (inStorage_init d₀) h hbusy hmove, hmove.not_bug⟩

/-- The parser accepts exactly its protocol: it stays out of the bug state as long as the commands
are a prefix of a word of the protocol and no access comes before the deadline of an accepted
EXECUTE; and the first access that breaks this changes nothing but the machine state. -/
theorem parser_accepts_protocol (d₀ : Device) (as : List Access) (hmono : (readings as).Pairwise (· ≤ ·))
    (hclock : ∀ a ∈ as, ∀ k : Kind, a.command = k.execute → a.settime.toNat + k.duration.toNat < 2 ^ 64) :
    (Survives (parserInit d₀) as ↔ InProtocol as ∧ InTime (parserInit d₀) as) ∧
      ∀ pre a post, as = pre ++ a :: post → InProtocol pre ∧ InTime (parserInit d₀) pre →
        ¬ (InProtocol (pre ++ [a]) ∧ InTime (parserInit d₀) (pre ++ [a])) →
        ∃ d, run step (parserInit d₀) (pre.map Access.event) = .ok d ∧
          handleWatchpointIoregisters d a.ioregisters a.timenow a.settime =
            .ok { device := { d with machineState := .bug }, poke := none, cpu := none } := by
  refine ⟨survives_iff hmono hclock, ?_⟩
  rintro pre a post rfl hconf hviol
  have hsplit : pre ++ a :: post = pre ++ [a] ++ post := by simp
  rw [hsplit] at hmono hclock
  unfold readings at hmono
  rw [List.flatMap_append, List.pairwise_append] at hmono
  have hclock1 := fun b hb => hclock b (List.mem_append_left post hb)
  have hmono0 := hmono.1
  rw [List.flatMap_append, List.pairwise_append] at hmono0
  obtain ⟨d, h, hb⟩ := (survives_iff hmono0.1 fun b hb => hclock1 b (List.mem_append_left [a] hb)).2 hconf
  refine ⟨d, h, ?_⟩
  -- a move would be survived, and what is survived conforms
  rcases handle_cases (run_inStorage (inStorage_init d₀) h) hb a.ioregisters a.timenow a.settime with
    ⟨r, hbusy, hmove, _⟩ | ⟨_, hr⟩
  · exact absurd ((survives_iff hmono.1 hclock1).1
      ⟨_, run_of_move (inStorage_init d₀) h hbusy hmove, hmove.not_bug⟩) hviol
  · exact hr

/-- Two blocks erased, the second EXECUTE at the deadline of the first. -/
def eraseTwice : List Access :=
  [⟨0x050000, 10, 10⟩, ⟨0x050700, 10, 10⟩, ⟨0x060700, 11, 12⟩, ⟨0x060000, 2012, 2012⟩]

theorem parser_accepts_protocol_eraseTwice :
    InProtocol eraseTwice ∧ InTime (parserInit blankDevice) eraseTwice := by
  refine (parser_accepts_protocol blankDevice eraseTwice (by decide) fun a ha k => ?_).1.1 ⟨_, rfl, by decide⟩
  revert a
  cases k <;> decide

end NandRig.Emulator
