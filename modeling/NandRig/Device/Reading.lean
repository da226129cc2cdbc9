/-
Read sessions. The cursor is at once a device address, which goes on past the end of a page, and an index
into the cache, which comes around at the end of a page; the cache is loaded again by the next
C_READ_EXECUTE only. So the bytes read between two executes come around in the page executed, and a
session that reads each page to its end and then executes the next reads consecutive device bytes.
-/
import NandRig.Device.Run

namespace NandRig.Emulator

open Machine

/-! ## The accepted accesses of a run -/

/-- The command of a step that is an accepted access. -/
def command (x : Transition Device Event Output) : Option UInt32 := accepted x.event x.after

def acceptedSteps (d : Device) (es : List Event) : List (Transition Device Event Output) :=
  (transitions (react handleWatchpointIoregisters) d es).filter fun x => (command x).isSome

/-- The step is a move, made with the cursor in storage. -/
structure Served (x : Transition Device Event Output) (peeked : UInt32) (settime : TimeUs) (r : Reply) : Prop where
  inStorage : InStorage x.before.store
  command : command x = some (commandOf peeked)
  move : Move x.before peeked settime r
  output : x.output = { poke := r.poke, cpu := r.cpu }
  after : x.after = r.device

/-- The next accepted access is made in the state the one before left, or after a reset. -/
def Follows (x y : Transition Device Event Output) : Prop :=
  y.before = x.after ∨ y.before.machineState = .initialState

theorem Move.from_not_bug {d : Device} {peeked : UInt32} {settime : TimeUs} {r : Reply} (h : Move d peeked settime r) :
    d.machineState ≠ .bug := by
  intro hb
  cases h with
  | opened k hm hc => rw [hb] at hm; cases hm
  | switched j k hm hc => rw [hb] at hm; cases j <;> cases hm
  | address k shift next hm hc => rw [hb] at hm; cases hm
  | readExecute hm hc => rcases hm with hm | hm <;> rw [hb] at hm <;> cases hm
  | readByte hm hc => rw [hb] at hm; cases hm
  | programByte hm hc => rw [hb] at hm; cases hm
  | programExecute hm hc => rw [hb] at hm; cases hm
  | eraseExecute hm hc => rw [hb] at hm; cases hm

/-- In the initial state only a SETUP is accepted. -/
theorem Move.setup_of_initial {d : Device} {peeked : UInt32} {settime : TimeUs} {r : Reply}
    (h : Move d peeked settime r) (hi : d.machineState = .initialState) : ∃ k : Kind, commandOf peeked = k.setup := by
  cases h with
  | opened k hm hc => exact ⟨k, hc⟩
  | switched j k hm hc => exact ⟨k, hc⟩
  | address k shift next hm hc => exact ⟨k, hc⟩
  | readExecute hm hc => rcases hm with hm | hm <;> rw [hi] at hm <;> cases hm
  | readByte hm hc => rw [hi] at hm; cases hm
  | programByte hm hc => rw [hi] at hm; cases hm
  | programExecute hm hc => rw [hi] at hm; cases hm
  | eraseExecute hm hc => rw [hi] at hm; cases hm

theorem react_access_ok {d d' : Device} {w : UInt64} {t t' : TimeUs} {o : Output}
    (h : react handleWatchpointIoregisters d (.access w t t') = .ok (o, d')) :
    ∃ r, handleWatchpointIoregisters d w t t' = .ok r ∧ o = { poke := r.poke, cpu := r.cpu } ∧ d' = r.device := by
  rw [react] at h
  cases hr : handleWatchpointIoregisters d w t t' with
  | error x => rw [hr] at h; cases h
  | ok r => rw [hr] at h; cases h; exact ⟨r, rfl, rfl, rfl⟩

theorem served_of_accepted {d d' : Device} (hs : InStorage d.store) {e : Event} {o : Output}
    (h : react handleWatchpointIoregisters d e = .ok (o, d')) (hacc : (accepted e d').isSome) :
    ∃ peeked settime r, Served ⟨d, e, o, d'⟩ peeked settime r := by
  obtain ⟨c, hc⟩ := Option.isSome_iff_exists.1 hacc
  obtain ⟨w, t, t', rfl, hw, hne⟩ := accepted_eq_some.1 hc
  obtain ⟨r, hr, rfl, rfl⟩ := react_access_ok h
  obtain ⟨_, ⟨_, hmove⟩ | ⟨_, rfl⟩⟩ := handle_inv hs hr
  · exact ⟨w.toUInt32, t', r, hs, hc.trans (congrArg some hw.symm), hmove, rfl, rfl⟩
  · exact absurd rfl hne

/-- An event that is no accepted access keeps the device, resets it or enters the bug state. -/
theorem react_of_not_accepted {d d' : Device} {e : Event} {o : Output}
    (h : react handleWatchpointIoregisters d e = .ok (o, d')) (hacc : ¬ (accepted e d').isSome) :
    d' = d ∨ d'.machineState = .initialState ∨ d'.machineState = .bug := by
  cases e with
  | access w t t' =>
    obtain ⟨r, hr, rfl, rfl⟩ := react_access_ok h
    by_cases hb : r.device.machineState = .bug
    · exact .inr (.inr hb)
    · rw [accepted, if_neg hb] at hacc
      exact absurd rfl hacc
  | gpioSet rdi rsi =>
    cases h
    unfold handleBreakpointGpioSet
    split_ifs
    · exact .inr (.inl rfl)
    · exact .inl rfl
  | gpioGet rdi t => cases h; exact .inl rfl

theorem acceptedSteps_cons {d d' : Device} {e : Event} {o : Output}
    (h : react handleWatchpointIoregisters d e = .ok (o, d')) (es : List Event) :
    acceptedSteps d (e :: es) =
      if (accepted e d').isSome then ⟨d, e, o, d'⟩ :: acceptedSteps d' es else acceptedSteps d' es := by
  unfold acceptedSteps
  rw [transitions_cons_ok h, List.filter_cons]
  rfl

theorem acceptedSteps_served : ∀ (es : List Event) (d : Device), InStorage d.store → ∀ x ∈ acceptedSteps d es,
    ∃ peeked settime r, Served x peeked settime r
  | [], _, _, _, hx => by cases hx
  | e :: es, d, hs, x, hx => by
    cases h : react handleWatchpointIoregisters d e with
    | error y =>
      unfold acceptedSteps at hx
      rw [transitions_cons_error h] at hx
      cases hx
    | ok y =>
      obtain ⟨o, d'⟩ := y
      have hs' := step_inStorage d e d' hs (react_step h)
      rw [acceptedSteps_cons h] at hx
      split_ifs at hx with hacc
      · rcases List.mem_cons.1 hx with rfl | hx
        · exact served_of_accepted hs h hacc
        · exact acceptedSteps_served es d' hs' x hx
      · exact acceptedSteps_served es d' hs' x hx

/-- Between two accepted accesses the device stays as the first one left it, unless it is reset. -/
theorem acceptedSteps_follow : ∀ (es : List Event) (d : Device), InStorage d.store →
    (acceptedSteps d es).IsChain Follows ∧
      ∀ y ∈ (acceptedSteps d es).head?, y.before = d ∨ y.before.machineState = .initialState
  | [], _, _ => ⟨List.isChain_nil, fun y hy => by cases hy⟩
  | e :: es, d, hs => by
    cases h : react handleWatchpointIoregisters d e with
    | error x =>
      unfold acceptedSteps
      rw [transitions_cons_error h]
      exact ⟨List.isChain_nil, fun y hy => by cases hy⟩
    | ok x =>
      obtain ⟨o, d'⟩ := x
      have hs' := step_inStorage d e d' hs (react_step h)
      obtain ⟨hchain, hhead⟩ := acceptedSteps_follow es d' hs'
      rw [acceptedSteps_cons h]
      split_ifs with hacc
      · refine ⟨List.isChain_cons.2 ⟨hhead, hchain⟩, ?_⟩
        intro y hy
        cases hy
        exact .inl rfl
      · refine ⟨hchain, fun y hy => ?_⟩
        rcases hhead y hy with hy' | hinit
        · rcases react_of_not_accepted h hacc with rfl | hinit | hbug
          · exact .inl hy'
          · exact .inr (hy' ▸ hinit)
          -- no access is accepted in the bug state
          · obtain ⟨peeked, settime, r, hserved⟩ := acceptedSteps_served es d' hs' y (List.mem_of_mem_head? hy)
            exact absurd (hy' ▸ hbug) hserved.move.from_not_bug
        · exact .inr hinit

/-! ## A page being read -/

/-- The device provides the bytes of the page that held `c` when it was executed, from the storage `S`, and
`n` of them have been read. -/
structure Provides (S : Nat → UInt8) (c n : Nat) (d : Device) : Prop where
  state : d.machineState = .readProvidingData
  cursor : d.store.cursor.toNat = (c + n) % 16777216
  storage : d.store.dataStore = S
  cache : ∀ i < 256, d.store.cache i = S (c / 256 * 256 + i)

section Reads

variable {x y : Transition Device Event Output} {peeked : UInt32} {settime : TimeUs} {r : Reply}

/-- A data byte or an execute is no SETUP, so the access before it has left the device it meets. -/
theorem Served.before_eq (h : Served y peeked settime r) (hfollows : Follows x y)
    (hc : commandOf peeked = cDummy ∨ commandOf peeked = cReadExecute) : y.before = x.after := by
  rcases hfollows with heq | hinit
  · exact heq
  · obtain ⟨k, hk⟩ := h.move.setup_of_initial hinit
    rw [hk] at hc
    rcases hc with hc | hc <;> cases k <;> cases hc

theorem Served.provides (h : Served x peeked settime r) (hc : commandOf peeked = cReadExecute) :
    x.output.cpu = none ∧ Provides x.before.store.dataStore x.before.store.cursor.toNat 0 x.after := by
  have hs := h.inStorage
  rw [InStorage, deviceSize_eq] at hs
  have hmove := h.move
  rw [h.output, h.after]
  cases hmove with
  | readExecute hm hc' =>
    refine ⟨rfl, rfl, ?_, rfl, fun i hi => if_pos hi⟩
    exact (Nat.mod_eq_of_lt hs).symm
  | opened k hm hc' => rw [hc] at hc'; cases k <;> cases hc'
  | switched j k hm hc' => rw [hc] at hc'; cases k <;> cases hc'
  | address k shift next hm hc' => rw [hc] at hc'; cases k <;> cases hc'
  | readByte hm hc' => rw [hc] at hc'; cases hc'
  | programByte hm hc' => rw [hc] at hc'; cases hc'
  | programExecute hm hc' => rw [hc] at hc'; cases hc'
  | eraseExecute hm hc' => rw [hc] at hc'; cases hc'

variable {S : Nat → UInt8} {c n : Nat}

/-- One more byte: it comes from the page, around its end, and the cursor goes on in the device. -/
theorem Provides.read (h : Provides S c n x.after) (hfollows : Follows x y) (hy : Served y peeked settime r)
    (hc : commandOf peeked = cDummy) :
    y.output = { poke := some (dataWord (S (c / 256 * 256 + (c + n) % 256))).toUInt64
                 cpu := some (dataWord (S (c / 256 * 256 + (c + n) % 256))) } ∧
      Provides S c (n + 1) y.after := by
  have heq := hy.before_eq hfollows (.inl hc)
  obtain ⟨hs, _, hmove, houtput, hafter⟩ := hy
  rw [heq] at hs hmove
  have hmove' := hmove.unique (.readByte h.state hc)
  subst hmove'
  have hbyte : x.after.store.cacheByte = S (c / 256 * 256 + (c + n) % 256) := by
    unfold Store.cacheByte
    rw [h.cache _ (Nat.mod_lt _ (by norm_num)), h.cursor]
    congr 2
    omega
  rw [houtput, hafter, hbyte]
  refine ⟨rfl, h.state, ?_, ?_, ?_⟩
  · show (incrementCursor false x.after.store).cursor.toNat = _
    rw [incrementCursor_free hs, h.cursor]
    omega
  · exact (incrementCursor_dataStore false _).trans h.storage
  · intro i hi
    exact (congrFun (incrementCursor_cache false _) i).trans (h.cache i hi)

/-- The next execute: the page of the cursor the bytes read have left. -/
theorem Provides.execute (h : Provides S c n x.after) (hfollows : Follows x y) (hy : Served y peeked settime r)
    (hc : commandOf peeked = cReadExecute) :
    y.output.cpu = none ∧ Provides S ((c + n) % 16777216) 0 y.after := by
  have hprovides := hy.provides hc
  rw [hy.before_eq hfollows (.inr hc), h.cursor, h.storage] at hprovides
  exact hprovides

end Reads

/-! ## Sessions -/

/-- The commands of a read of `pages` pages from byte `start` of the first: each page is executed and read
to its end. -/
def pageReads : (start pages : Nat) → List UInt32
  | _, 0 => []
  | start, pages + 1 => cReadExecute :: (List.replicate (256 - start) cDummy ++ pageReads 0 pages)

section Session

variable {S : Nat → UInt8} {c : Nat}

/-- The reads behind an execute, up to the next access `y`. -/
theorem Provides.reads {y : Transition Device Event Output} {l₃ : List (Transition Device Event Output)} :
    ∀ {l₂ : List (Transition Device Event Output)} {x : Transition Device Event Output} {n : Nat},
      Provides S c n x.after → (x :: (l₂ ++ y :: l₃)).IsChain Follows →
      (∀ z ∈ l₂, ∃ peeked settime r, Served z peeked settime r) → (∀ z ∈ l₂, command z = some cDummy) →
      ∃ x', Follows x' y ∧ Provides S c (n + l₂.length) x'.after
  | [], x, n, h, hchain, _, _ => ⟨x, (List.isChain_cons_cons.1 hchain).1, h⟩
  | z :: l₂, x, n, h, hchain, hserved, hdummy => by
    obtain ⟨hfollows, hrest⟩ := List.isChain_cons_cons.1 hchain
    obtain ⟨peeked, settime, r, hz⟩ := hserved z List.mem_cons_self
    have hc : commandOf peeked = cDummy := by
      have := hz.command.symm.trans (hdummy z List.mem_cons_self)
      exact Option.some.inj this
    obtain ⟨_, hnext⟩ := h.read hfollows hz hc
    obtain ⟨x', hx', hprovides⟩ := hnext.reads hrest (fun v hv => hserved v (List.mem_cons_of_mem z hv))
      fun v hv => hdummy v (List.mem_cons_of_mem z hv)
    refine ⟨x', hx', ?_⟩
    rw [List.length_cons, Nat.add_comm l₂.length, ← Nat.add_assoc]
    exact hprovides

/-- Reading on, to the end of the page and then from the next pages, gives consecutive bytes. -/
theorem Provides.answers : ∀ {l : List (Transition Device Event Output)} {x : Transition Device Event Output}
    {c n pages : Nat}, Provides S c n x.after → c < 16777216 → c % 256 + n ≤ 256 → (x :: l).IsChain Follows →
      (∀ z ∈ l, ∃ peeked settime r, Served z peeked settime r) →
      l.map command <+: (List.replicate (256 - c % 256 - n) cDummy ++ pageReads 0 pages).map some →
      l.filterMap (fun z => z.output.cpu) =
        (List.range ((l.map command).count (some cDummy))).map fun k => dataWord (S ((c + n + k) % 16777216))
  | [], _, _, _, _, _, _, _, _, _, _ => rfl
  | y :: l, x, c, n, pages, h, hlt, hpage, hchain, hserved, hcommands => by
    obtain ⟨hfollows, hrest⟩ := List.isChain_cons_cons.1 hchain
    obtain ⟨peeked, settime, r, hy⟩ := hserved y List.mem_cons_self
    have hserved' := fun z hz => hserved z (List.mem_cons_of_mem y hz)
    by_cases hn : c % 256 + n = 256
    -- the page is read to its end: the next one is executed
    · rw [show 256 - c % 256 - n = 0 by omega] at hcommands
      cases pages with
      | zero => cases List.prefix_nil.1 hcommands
      | succ pages =>
        obtain ⟨hhead, htail⟩ := List.cons_prefix_cons.1 hcommands
        have hc : commandOf peeked = cReadExecute := Option.some.inj (hy.command.symm.trans hhead)
        obtain ⟨hcpu, hnext⟩ := h.execute hfollows hy hc
        have hcount : (some cReadExecute : Option UInt32) ≠ some cDummy := by decide
        have hanswers := hnext.answers (by omega) (by omega) hrest hserved' (by
          rw [show 256 - (c + n) % 16777216 % 256 - 0 = 256 - 0 by omega]
          exact htail)
        rw [List.filterMap_cons, hcpu, List.map_cons, hhead, List.count_cons_of_ne hcount, hanswers]
        refine List.map_congr_left fun k _ => ?_
        congr 2
        omega
    -- one more byte of the page
    · rw [show 256 - c % 256 - n = (256 - c % 256 - (n + 1)) + 1 by omega, List.replicate_succ] at hcommands
      obtain ⟨hhead, htail⟩ := List.cons_prefix_cons.1 hcommands
      have hc : commandOf peeked = cDummy := Option.some.inj (hy.command.symm.trans hhead)
      obtain ⟨houtput, hnext⟩ := h.read hfollows hy hc
      have hanswers := hnext.answers hlt (by omega) hrest hserved' htail
      have hindex : c / 256 * 256 + (c + n) % 256 = (c + n + 0) % 16777216 := by omega
      rw [List.filterMap_cons, houtput, hindex, List.map_cons, hhead, List.count_cons_self, hanswers,
        List.range_succ_eq_map, List.map_cons, List.map_map]
      refine congrArg _ (List.map_congr_left fun k _ => ?_)
      show _ = dataWord (S ((c + n + (k + 1)) % 16777216))
      congr 2
      omega

end Session

/-- What a read session answers. Behind an accepted C_READ_EXECUTE at the cursor `c` over the storage `S`,
the `n`-th C_DUMMY is answered with the byte of its page `n` bytes on, around the end of the page, and moves
the cursor on in the device; another C_READ_EXECUTE loads the page of that cursor. So a session that reads
each page to its end gives consecutive bytes of the device. -/
theorem read_session (d₀ : Device) (es : List Event) {l₁ l : List (Transition Device Event Output)}
    {x : Transition Device Event Output} (hsteps : acceptedSteps (parserInit d₀) es = l₁ ++ x :: l)
    (hx : command x = some cReadExecute) {c : Nat} {S : Nat → UInt8} (hc : x.before.store.cursor.toNat = c)
    (hS : x.before.store.dataStore = S) :
    (∀ l₂ y l₃ n, l = l₂ ++ y :: l₃ → (∀ z ∈ l₂, command z = some cDummy) → l₂.length = n →
      (command y = some cDummy →
        y.output.poke = some (dataWord (S (c - c % 256 + (c + n) % 256))).toUInt64 ∧
        y.output.cpu = some (dataWord (S (c - c % 256 + (c + n) % 256))) ∧
        y.after.store.cursor.toNat = (c + n + 1) % 2 ^ 24) ∧
      (command y = some cReadExecute →
        y.before.store.cursor.toNat = (c + n) % 2 ^ 24 ∧
        ∀ i < 256, y.after.store.cache i = S ((c + n) % 2 ^ 24 / 256 * 256 + i))) ∧
    ∀ pages l₂ l₃, l = l₂ ++ l₃ → (x :: l₂).map command <+: (pageReads (c % 256) pages).map some →
      l₂.filterMap (fun z => z.output.cpu) =
        (List.range ((l₂.map command).count (some cDummy))).map fun k => dataWord (S ((c + k) % 2 ^ 24)) := by
  have hs := inStorage_init d₀
  have hserved := acceptedSteps_served es _ hs
  have hchain := (acceptedSteps_follow es _ hs).1
  rw [hsteps] at hserved hchain
  have hsuffix : (x :: l).IsChain Follows := hchain.right_of_append
  obtain ⟨peeked, settime, r, hxs⟩ := hserved x (by simp)
  have hprovides := (hxs.provides (Option.some.inj (hxs.command.symm.trans hx))).2
  have hlt : c < 16777216 := hc ▸ hxs.inStorage
  rw [hc, hS] at hprovides
  simp only [Nat.reducePow]
  refine ⟨fun l₂ y l₃ n hl hdummy hn => ?_, fun pages l₂ l₃ hl hcommands => ?_⟩
  · subst hl hn
    obtain ⟨x', hfollows, hx'⟩ := hprovides.reads hsuffix (fun z hz => hserved z (by simp [hz])) hdummy
    obtain ⟨peeked', settime', r', hys⟩ := hserved y (by simp)
    rw [Nat.zero_add] at hx'
    have hindex : c - c % 256 = c / 256 * 256 := by omega
    refine ⟨fun hy => ?_, fun hy => ?_⟩
    · obtain ⟨houtput, hnext⟩ := hx'.read hfollows hys (Option.some.inj (hys.command.symm.trans hy))
      rw [houtput, hindex]
      exact ⟨rfl, rfl, hnext.cursor⟩
    · have hcommand := Option.some.inj (hys.command.symm.trans hy)
      refine ⟨?_, (hx'.execute hfollows hys hcommand).2.cache⟩
      rw [hys.before_eq hfollows (.inr hcommand)]
      exact hx'.cursor
  · subst hl
    cases pages with
    | zero => cases List.prefix_nil.1 hcommands
    | succ pages =>
      have hchain' : (x :: l₂).IsChain Follows := (List.isChain_append.1 (List.cons_append ▸ hsuffix)).1
      have hanswers := hprovides.answers hlt (by omega) hchain' (fun z hz => hserved z (by simp [hz]))
        (List.cons_prefix_cons.1 hcommands).2
      simpa only [Nat.add_zero] using hanswers

/-- A byte stored at the start of page 1, and a read from byte 254 of page 0 on into page 1. -/
def readAcrossPages : List Event :=
  [.access 0x030000 0 0, .access 0x030000 0 0, .access 0x030100 0 0, .access 0x030000 0 0,
    .access 0x070022 0 0, .access 0x040022 0 0,
    .access 0x010000 600 600, .access 0x010000 600 600, .access 0x010000 600 600, .access 0x01FE00 600 600,
    .access 0x02FE00 600 600, .access 0x070000 700 700, .gpioGet pnStatus 700, .access 0x070000 700 700,
    .access 0x020000 700 700, .access 0x070000 800 800]

theorem read_session_across_pages :
    ∃ l₁ x l, acceptedSteps (parserInit blankDevice) readAcrossPages = l₁ ++ x :: l ∧
      command x = some cReadExecute ∧
      l.filterMap (fun z => z.output.cpu) = [dataWord 0, dataWord 0, dataWord 0x22] := by
  have hlength : (acceptedSteps (parserInit blankDevice) readAcrossPages).length = 15 := by decide +kernel
  have hcommands : ((acceptedSteps (parserInit blankDevice) readAcrossPages).map command).drop 10 =
      [some cReadExecute, some cDummy, some cDummy, some cReadExecute, some cDummy] := by decide +kernel
  have hstart : ((acceptedSteps (parserInit blankDevice) readAcrossPages)[10]?).map
      (fun x => (x.before.store.cursor.toNat, x.before.store.dataStore 254, x.before.store.dataStore 255,
        x.before.store.dataStore 256)) = some (254, 0, 0, 0x22) := by decide +kernel
  have hsplit := (List.take_append_drop 10 (acceptedSteps (parserInit blankDevice) readAcrossPages)).symm
  rw [List.drop_eq_getElem_cons (by rw [hlength]; decide)] at hsplit
  rw [← List.map_drop, List.drop_eq_getElem_cons (by rw [hlength]; decide), List.map_cons] at hcommands
  obtain ⟨hx, hl⟩ := List.cons.inj hcommands
  rw [List.getElem?_eq_getElem (by rw [hlength]; decide)] at hstart
  simp only [Option.map_some, Option.some.injEq, Prod.mk.injEq] at hstart
  obtain ⟨hc, h254, h255, h256⟩ := hstart
  refine ⟨_, _, _, hsplit, hx, ?_⟩
  obtain ⟨_, hpages⟩ := read_session blankDevice readAcrossPages hsplit hx hc rfl
  rw [hpages 2 _ [] (List.append_nil _).symm (by rw [List.map_cons, hx, hl]; decide +kernel), hl]
  have hcount : [some cDummy, some cDummy, some cReadExecute, some cDummy].count (some cDummy) = 3 := by decide
  rw [hcount]
  simp [List.range_succ, h254, h255, h256]

end NandRig.Emulator
