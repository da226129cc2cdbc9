/-
The unit tests of the emulator, run on the emulator. Each part of a test is followed on the chip that the device
is, whose mode and storage say which accesses are accepted and which bytes are read.
-/
import NandRig.Device.Chip
import NandRig.Device.TestDevice
import NandRig.Stack.Timing
import NandRig.Stack.Polling

namespace NandRig.TestDevice

open Emulator Interact RingMem Stack

/-! ## The environment of a test -/

inductive Happening
  | access (outcome : Except Halt Reply)
  /-- A wait has returned, or is out of polls. -/
  | waited (returned : Bool)
  | printed (line : Line)
  /-- An assertion has failed, with the device as it stands. -/
  | failed (text : String) (d : Device)

/-- `wait_for_device()`, for at most `polls` calls of `gpio_get()`. -/
def waitForDevice (d : Device) : (polls : Nat) → Clock → Option Clock
  | 0, _ => none
  | polls + 1, c => if pollReady d (c 0) then some (c.after 1) else waitForDevice d polls (c.after 1)

/-- An access with `ioregisters` holding `w`: the answer is made of what is in the destination register. -/
def access {α : Type} (w : UInt64) (answer : UInt64 → α) (s : Sys) : List Happening × Option (α × Sys) :=
  let outcome := handleWatchpointIoregisters s.device w (s.clock 0) (s.clock 1)
  ([.access outcome], outcome.toOption.map fun r =>
    (answer ((r.cpu.map UInt32.toUInt64).getD w), ⟨r.device, r.poke.getD w, s.clock.after 2⟩))

/-- The local variable that `gpio_get()` returns is 0 unless the handler pokes it. -/
def testEnv (polls : Nat) : Env TraceeOp TraceeOp.Res Happening Sys
  | .store w, s => access w (fun _ => ()) s
  | .load, s => access s.ioregisters id s
  | .gpioSet pin value, s => ([], some ((), { s with device := handleBreakpointGpioSet s.device pin value }))
  | .gpioGet pin, s =>
    ([], some ((handleBreakpointGpioGet s.device pin (s.clock 0)).getD 0, { s with clock := s.clock.after 1 }))
  | .waitForDevice, s =>
    match waitForDevice s.device polls s.clock with
    | none => ([.waited false], none)
    | some c => ([.waited true], some ((), { s with clock := c }))
  | .printf line, s => ([.printed line], some ((), s))
  | .abort text, s => ([.failed text s.device], none)

theorem testEnv_store (polls : Nat) (w : UInt64) (s : Sys) :
    testEnv polls (.store w) s = access w (fun _ => ()) s := rfl

theorem testEnv_load (polls : Nat) (s : Sys) : testEnv polls .load s = access s.ioregisters id s := rfl

/-- What is asked of the events of a run leaves it free to make accesses that are accepted, and to wait. -/
structure Allows (P : Happening → Prop) : Prop where
  accepted : ∀ r : Reply, r.device.machineState ≠ .bug → P (.access (.ok r))
  waited : ∀ returned, P (.waited returned)

/-! ## What a test knows of the chip -/

/-- The device is a chip in `mode` with the storage `m`, and will not be found busy. -/
structure Stands (mode : Mode) (m : Nat → UInt8) (s : Sys) : Prop where
  chip : ∃ t, Represents s.device ⟨m, mode, t⟩
  clock : ClockOk s.clock
  ready : Ready s.device s.clock

/-- A page is provided, and the word in memory is one that a load can show. -/
structure Provides (page address : Nat) (m : Nat → UInt8) (s : Sys) : Prop extends
    Stands (.providing page address) m s where
  dummy : commandOf s.ioregisters.toUInt32 = cDummy

/-- The chip holds `m`, and takes a SETUP. -/
def Session (m : Nat → UInt8) (s : Sys) : Prop := ∃ mode, TakesSetup mode ∧ Stands mode m s

theorem Stands.session {mode : Mode} {m : Nat → UInt8} {s : Sys} (h : Stands mode m s) (hmode : TakesSetup mode) :
    Session m s := ⟨mode, hmode, h⟩

theorem Provides.session {page address : Nat} {m : Nat → UInt8} {s : Sys} (h : Provides page address m s) :
    Session m s := h.toStands.session True.intro

/-! ## Words -/

theorem word_toUInt32 (command : UInt32) (address data : UInt8) : (word command address data).toUInt32 =
    (command <<< commandShift) ||| (address.toUInt32 <<< addressShift) ||| data.toUInt32 :=
  UInt32.toUInt32_toUInt64 _

theorem commandOf_word (k address data : UInt8) :
    commandOf (word k.toUInt32 address data).toUInt32 = k.toUInt32 := by
  rw [word_toUInt32]
  apply UInt32.toBitVec_inj.mp
  ext i hi
  interval_cases i <;> simp [commandOf]

theorem addressOf_word (k address data : UInt8) :
    addressOf (word k.toUInt32 address data).toUInt32 = address.toUInt32 := by
  rw [word_toUInt32]
  apply UInt32.toBitVec_inj.mp
  ext i hi
  interval_cases i <;> simp [addressOf]

theorem dataOf_word (k address data : UInt8) :
    dataOf (word k.toUInt32 address data).toUInt32 = data := by
  rw [word_toUInt32]
  apply UInt8.toBitVec_inj.mp
  ext i hi
  interval_cases i <;> simp [dataOf]

theorem dataWord_masked (byte : UInt8) : (dataWord byte).toUInt64 &&& maskData.toUInt64 = byte.toUInt64 := by
  apply UInt64.toBitVec_inj.mp
  ext i hi
  interval_cases i <;> simp [dataWord]

/-! ## Accesses -/

/-- The device handles an access as the chip serves it. -/
theorem handled {d : Device} {c c' : Chip} {w : UInt64} {timenow settime : TimeUs} {o : Output}
    (h : Represents d c) (hmode : c.mode ≠ .bug) (hready : ¬ timenow < c.readyAt)
    (hserve : c.serve w.toUInt32 settime = some (o, c')) (hmode' : c'.mode ≠ .bug) :
    ∃ r, handleWatchpointIoregisters d w timenow settime = .ok r ∧ r.poke = o.poke ∧ r.cpu = o.cpu ∧
      Represents r.device c' ∧ r.device.machineState ≠ .bug := by
  have hchip : c.react (.access w timenow settime) = .ok (o, c') := by
    unfold Chip.react
    dsimp only
    split
    · rename_i hbug
      exact absurd hbug hmode
    · rw [if_neg hready, hserve]
      rfl
  have hstep := h.access w timenow settime
  rw [hchip] at hstep
  unfold react at hstep
  dsimp only at hstep
  cases hr : handleWatchpointIoregisters d w timenow settime with
  | error x =>
    rw [hr] at hstep
    cases hstep
  | ok r =>
    rw [hr] at hstep
    cases hstep with
    | goes _ hrep =>
      refine ⟨r, rfl, rfl, rfl, hrep, fun hbug => hmode' (mode_bug ?_)⟩
      rw [hrep.state, hbug]

section Rules

variable {polls : Nat} {P : Happening → Prop} {s : Sys} {m m' : Nat → UInt8} {mode mode' : Mode}

/-- An access that the chip serves in `mode`, busy until `next` from then on. -/
theorem always_access {o : TraceeOp} {w : UInt64} {answer : UInt64 → o.Res} {out : Output}
    (next : TimeUs → TimeUs → TimeUs) (ho : testEnv polls o s = access w answer s) (hP : Allows P)
    (h : Stands mode m s) (hmode : mode ≠ .bug) (hmode' : mode' ≠ .bug)
    (hserve : ∀ t settime, (⟨m, mode, t⟩ : Chip).serve w.toUInt32 settime =
      some (out, ⟨m', mode', next t settime⟩)) :
    Always (testEnv polls) P (ask o) s fun a s' => a = answer ((out.cpu.map UInt32.toUInt64).getD w) ∧
      s'.ioregisters = out.poke.getD w ∧ s'.clock = s.clock.after 2 ∧
      Represents s'.device ⟨m', mode', next s.device.deadline (s.clock 1)⟩ := by
  obtain ⟨t, hrep⟩ := h.chip
  have ht : t = s.device.deadline := hrep.readyAt
  subst ht
  have hready : ¬ s.clock 0 < s.device.deadline := of_decide_eq_false (h.ready 0)
  obtain ⟨r, hr, hpoke, hcpu, hrep', hbug⟩ := handled hrep hmode hready (hserve _ (s.clock 1)) hmode'
  have haccess : access w answer s = ([.access (.ok r)],
      some (answer ((out.cpu.map UInt32.toUInt64).getD w), ⟨r.device, out.poke.getD w, s.clock.after 2⟩)) := by
    unfold access
    rw [hr, ← hpoke, ← hcpu]
    rfl
  refine .call ?_ ?_
  · rw [ho, haccess]
    intro e he
    rw [List.mem_singleton.1 he]
    exact hP.accepted r hbug
  · rw [ho, haccess]
    intro a s' hs'
    cases hs'
    exact ⟨rfl, rfl, rfl, hrep'⟩

/-- A word for which the chip is not busy. -/
theorem always_store {w : UInt64} (out : Output) (next : TimeUs → TimeUs) (hP : Allows P) (h : Stands mode m s)
    (hmode : mode ≠ .bug) (hmode' : mode' ≠ .bug) (hnext : ∀ t, next t = t ∨ next t = 0)
    (hserve : ∀ t settime, (⟨m, mode, t⟩ : Chip).serve w.toUInt32 settime = some (out, ⟨m, mode', next t⟩)) :
    Always (testEnv polls) P (ask (.store w)) s fun _ s' => Stands mode' m s' := by
  refine (always_access (fun t _ => next t) (testEnv_store polls w s) hP h hmode hmode' hserve).mono ?_
  rintro _ s' ⟨-, -, hclock, hrep⟩
  refine ⟨⟨_, hrep⟩, hclock ▸ h.clock.after 2, fun i => ?_⟩
  have hdeadline : s'.device.deadline = next s.device.deadline := hrep.readyAt.symm
  rw [hdeadline, hclock]
  rcases hnext s.device.deadline with heq | heq <;> rw [heq]
  · exact h.ready (2 + i)
  · exact decide_eq_false (Nat.not_lt_zero _)

/-- The word in memory behind a load is the one it has shown. -/
theorem always_load {page address : Nat} (hP : Allows P) (h : Provides page address m s) :
    Always (testEnv polls) P (ask .load) s fun dataReg s' =>
      dataReg &&& maskData.toUInt64 = (m (256 * page + address % 256)).toUInt64 ∧
        Provides page ((address + 1) % 16777216) m s' := by
  have hmode (a : Nat) : Mode.providing page a ≠ .bug := TakesSetup.ne_bug True.intro
  refine (always_access (fun t _ => t) (testEnv_load polls s) hP h.toStands (hmode _) (hmode _)
    fun _ _ => Chip.serve_provide h.dummy).mono ?_
  rintro dataReg s' ⟨rfl, hword, hclock, hrep⟩
  have hdeadline : s'.device.deadline = s.device.deadline := hrep.readyAt.symm
  refine ⟨dataWord_masked _, ⟨⟨_, hrep⟩, hclock ▸ h.clock.after 2, fun i => ?_⟩, ?_⟩
  · rw [hdeadline, hclock]
    exact h.ready (2 + i)
  · rw [hword]
    exact commandOf_dataWord _

/-! ## Waits -/

theorem waitForDevice_some {d : Device} : ∀ {polls : Nat} {c c' : Clock}, ClockOk c →
    waitForDevice d polls c = some c' → Ready d c' ∧ ClockOk c'
  | polls + 1, c, c', hc, h => by
    rw [waitForDevice] at h
    split_ifs at h with hpoll
    · cases h
      exact ⟨hc.ready_of_le (pollReady_iff.1 hpoll) (Nat.zero_le 1), hc.after 1⟩
    · exact waitForDevice_some (hc.after 1) h

theorem always_wait (hP : Allows P) (hrep : ∃ t, Represents s.device ⟨m, mode, t⟩) (hclock : ClockOk s.clock) :
    Always (testEnv polls) P (ask .waitForDevice) s fun _ s' =>
      Stands mode m s' ∧ s'.ioregisters = s.ioregisters := by
  have henv : testEnv polls .waitForDevice s = match waitForDevice s.device polls s.clock with
      | none => ([.waited false], none)
      | some c => ([.waited true], some ((), { s with clock := c })) := rfl
  cases hwait : waitForDevice s.device polls s.clock with
  | none =>
    rw [hwait] at henv
    refine .call ?_ ?_ <;> rw [henv]
    · intro e he
      rw [List.mem_singleton.1 he]
      exact hP.waited false
    · rintro _ s' ⟨⟩
  | some c =>
    obtain ⟨hready, hc⟩ := waitForDevice_some hclock hwait
    rw [hwait] at henv
    refine .call ?_ ?_ <;> rw [henv]
    · intro e he
      rw [List.mem_singleton.1 he]
      exact hP.waited true
    · rintro _ s' ⟨⟩
      exact ⟨⟨hrep, hc, hready⟩, rfl⟩

/-- An EXECUTE leaves a word in memory that a load can show, and the chip is waited for. -/
theorem always_execute {command : UInt32} (duration : TimeUs) (hP : Allows P) (h : Stands mode m s)
    (hmode : mode ≠ .bug) (hmode' : mode' ≠ .bug)
    (hserve : ∀ t settime, (⟨m, mode, t⟩ : Chip).serve (word command 0 0).toUInt32 settime =
      some ({ poke := some dummyWord }, ⟨m', mode', settime + duration⟩)) :
    Always (testEnv polls) P (execute command) s fun _ s' =>
      Stands mode' m' s' ∧ commandOf s'.ioregisters.toUInt32 = cDummy := by
  refine (always_access (fun _ settime => settime + duration) (testEnv_store polls _ s) hP h hmode hmode'
    hserve).bind ?_
  rintro _ s₁ ⟨-, hword, hclock, hrep⟩
  refine (always_wait hP ⟨_, hrep⟩ (hclock ▸ h.clock.after 2)).mono ?_
  rintro _ s₂ ⟨hstands, hsame⟩
  refine ⟨hstands, ?_⟩
  rw [hsame, hword]
  exact commandOf_dummyWord

/-! ## SETUPs -/

theorem commandOf_setupWord (k : Kind) (address : UInt8) :
    commandOf (word k.setup address 0).toUInt32 = k.setup := by
  cases k with
  | read => exact commandOf_word 0x01 address 0
  | program => exact commandOf_word 0x03 address 0
  | erase => exact commandOf_word 0x05 address 0

theorem addressOf_setupWord (k : Kind) (address : UInt8) :
    (addressOf (word k.setup address 0).toUInt32).toNat = address.toNat := by
  have h : addressOf (word k.setup address 0).toUInt32 = address.toUInt32 := by
    cases k with
    | read => exact addressOf_word 0x01 address 0
    | program => exact addressOf_word 0x03 address 0
    | erase => exact addressOf_word 0x05 address 0
  rw [h, UInt8.toNat_toUInt32]

/-- The SETUP word itself. -/
theorem always_opens (hP : Allows P) (h : Session m s) (k : Kind) :
    Always (testEnv polls) P (ask (.store (word k.setup 0 0))) s fun _ s' => Stands (.addressed k 0 0) m s' := by
  obtain ⟨mode, hmode, hstands⟩ := h
  exact always_store {} (fun _ => 0) hP hstands hmode.ne_bug (fun h => by cases h) (fun _ => .inr rfl)
    fun _ _ => Chip.serve_setup hmode (commandOf_setupWord k 0)

/-- One more address byte. -/
theorem always_gives {k : Kind} {count number : Nat} (out : Output) (hP : Allows P)
    (h : Stands (.addressed k count number) m s) (hcount : count ≠ 3) (address : UInt8) (hmode' : mode' ≠ .bug)
    (hgive : ∀ t, (⟨m, .addressed k count number, t⟩ : Chip).give k (count + 1) (256 * number + address.toNat) =
      (out, ⟨m, mode', t⟩)) :
    Always (testEnv polls) P (ask (.store (word k.setup address 0))) s fun _ s' => Stands mode' m s' := by
  refine always_store out (fun t => t) hP h (fun h => by cases h) hmode' (fun _ => .inl rfl) fun t settime => ?_
  rw [Chip.serve_give (fun h => hcount h.2) (commandOf_setupWord k address), addressOf_setupWord, hgive]

/-- The number of the byte at an address. -/
def number (block page byte : UInt8) : Nat := 256 * (256 * block.toNat + page.toNat) + byte.toNat

theorem always_readSetup (hP : Allows P) (h : Session m s) (block page byte : UInt8) :
    Always (testEnv polls) P (setup cReadSetup block page byte) s fun _ s' =>
      Stands (.addressed .read 3 (number block page byte)) m s' := by
  refine (always_opens hP h .read).bind fun _ s₀ h₀ => ?_
  refine (always_gives {} hP h₀ (by decide) block (fun h => by cases h) fun _ => rfl).bind fun _ s₁ h₁ => ?_
  refine (always_gives {} hP h₁ (by decide) page (fun h => by cases h) fun _ => rfl).bind fun _ s₂ h₂ => ?_
  simp only [Nat.mul_zero, Nat.zero_add] at h₂
  exact always_gives {} hP h₂ (by decide) byte (fun h => by cases h) fun _ => rfl

theorem always_programSetup (hP : Allows P) (h : Session m s)
    (block page byte : UInt8) :
    Always (testEnv polls) P (setup cProgramSetup block page byte) s fun _ s' =>
      Stands (.accepting (256 * block.toNat + page.toNat) byte.toNat fun _ => 0) m s' := by
  refine (always_opens hP h .program).bind fun _ s₀ h₀ => ?_
  refine (always_gives {} hP h₀ (by decide) block (fun h => by cases h) fun _ => rfl).bind fun _ s₁ h₁ => ?_
  refine (always_gives {} hP h₁ (by decide) page (fun h => by cases h) fun _ => rfl).bind fun _ s₂ h₂ => ?_
  simp only [Nat.mul_zero, Nat.zero_add] at h₂
  refine always_gives { poke := some dummyWord } hP h₂ (by decide) byte (fun h => by cases h) fun t => ?_
  have hbyte := byte.toNat_lt
  unfold Chip.give
  rw [if_pos ⟨rfl, rfl⟩, Nat.mul_add_div (by decide), Nat.mul_add_mod, Nat.div_eq_of_lt hbyte, Nat.mod_eq_of_lt hbyte]
  rfl

theorem always_eraseSetup (hP : Allows P) (h : Session m s) (block : UInt8) :
    Always (testEnv polls) P (eraseSetup block) s fun _ s' => Stands (.erasing block.toNat) m s' := by
  refine (always_opens hP h .erase).bind fun _ s₀ h₀ => ?_
  refine always_gives {} hP h₀ (by decide) block (fun h => by cases h) fun t => ?_
  unfold Chip.give
  rw [if_neg fun h => absurd h.1 (by decide), if_pos rfl, Nat.mul_zero, Nat.zero_add]

/-! ## Sessions -/

/-- The image behind the first `n` bytes of `data`, which go to `byte` and behind it, around the page. -/
def sent (data : Nat → UInt8) (byte : Nat) (image : Nat → UInt8) : (n : Nat) → Nat → UInt8
  | 0 => image
  | n + 1 => Function.update (sent data byte image n) ((byte + n) % 256) (data n)

theorem sent_memset {v : UInt8} {byte i : Nat} {image : Nat → UInt8} (hbyte : byte < 256) (hi : i < 256) :
    ∀ n ≤ 256, sent (memset v) byte image n i = if (i + 256 - byte) % 256 < n then v else image i
  | 0, _ => rfl
  | n + 1, hn => by
    rw [sent]
    by_cases hlast : i = (byte + n) % 256
    · rw [hlast, Function.update_self, if_pos (by omega)]
      rfl
    · rw [Function.update_of_ne hlast, sent_memset hbyte hi n (by omega)]
      exact if_congr (by omega) rfl rfl

theorem always_sendData {page byte : Nat} {image : Nat → UInt8} (hP : Allows P)
    (h : Stands (.accepting page byte image) m s) (hbyte : byte < 256) (data : Nat → UInt8) (n : Nat) :
    Always (testEnv polls) P (sendData data n) s fun _ s' =>
      Stands (.accepting page ((byte + n) % 256) (sent data byte image n)) m s' := by
  have hstart : Stands (.accepting page ((byte + 0) % 256) (sent data byte image 0)) m s := by
    rw [Nat.add_zero, Nat.mod_eq_of_lt hbyte]
    exact h
  refine .upTo (I := fun i s => Stands (.accepting page ((byte + i) % 256) (sent data byte image i)) m s) hstart n ?_
  intro i s' _ hs'
  refine always_store {} (fun t => t) hP hs' (fun h => by cases h) (fun h => by cases h) (fun _ => .inl rfl) ?_
  intro t settime
  have hcommand : commandOf (word cDummy 0 (data i)).toUInt32 = cDummy := commandOf_word 0x07 0 (data i)
  have hdata : dataOf (word cDummy 0 (data i)).toUInt32 = data i := dataOf_word 0x07 0 (data i)
  rw [Chip.serve_accept hcommand, hdata, Nat.mod_add_mod, Nat.add_assoc]
  rfl

theorem always_programExecute {page byte : Nat} {image : Nat → UInt8} (hP : Allows P)
    (h : Stands (.accepting page byte image) m s) :
    Always (testEnv polls) P (execute cProgramExecute) s fun _ s' =>
      Stands (.accepting ((page + 1) % 65536) 0 fun _ => 0) (setSegment 256 page image m) s' :=
  (always_execute writePageDuration hP h (fun h => by cases h) (fun h => by cases h) fun _ _ => rfl).mono
    fun _ _ h₁ => h₁.1

theorem always_fillPage {page byte : Nat} {image : Nat → UInt8} (hP : Allows P)
    (h : Stands (.accepting page byte image) m s) (hbyte : byte < 256) (data : Nat → UInt8) (n : Nat) :
    Always (testEnv polls) P (fillPage data n) s fun _ s' =>
      Stands (.accepting ((page + 1) % 65536) 0 fun _ => 0) (setSegment 256 page (sent data byte image n) m) s' := by
  refine (always_sendData hP h hbyte data n).bind fun _ s₁ h₁ => ?_
  exact always_programExecute hP h₁

/-- A whole page, from any byte on. -/
theorem always_fillWhole {page byte : Nat} {image : Nat → UInt8} (hP : Allows P)
    (h : Stands (.accepting page byte image) m s) (hbyte : byte < 256) (v : UInt8) :
    Always (testEnv polls) P (fillPage (memset v) 256) s fun _ s' =>
      Stands (.accepting ((page + 1) % 65536) 0 fun _ => 0) (setSegment 256 page (fun _ => v) m) s' := by
  refine (always_fillPage hP h hbyte (memset v) 256).mono fun _ s' h' => ?_
  have himage : setSegment 256 page (sent (memset v) byte image 256) m = setSegment 256 page (fun _ => v) m :=
    setSegment_congr (by decide) (fun i hi => by
      rw [sent_memset hbyte hi 256 le_rfl, if_pos (Nat.mod_lt _ (by decide))]) m
  rwa [himage] at h'

theorem always_writePage (hP : Allows P) (h : Session m s) (block page : UInt8)
    (v : UInt8) :
    Always (testEnv polls) P (writePage block page 0 (memset v) 256) s fun _ s' =>
      Stands (.accepting ((256 * block.toNat + page.toNat + 1) % 65536) 0 fun _ => 0)
        (setSegment 256 (256 * block.toNat + page.toNat) (fun _ => v) m) s' :=
  (always_programSetup hP h block page 0).bind fun _ _ h₁ => always_fillWhole hP h₁ (by decide) v

/-- The page of the address is loaded. -/
theorem always_readExecute {address : Nat} (hP : Allows P) (h : Stands (.addressed .read 3 address) m s) :
    Always (testEnv polls) P (execute cReadExecute) s fun _ s' => Provides (address / 256) address m s' :=
  (always_execute readPageDuration hP h (fun h => by cases h) (fun h => by cases h) fun _ _ => rfl).mono
    fun _ _ h₁ => ⟨h₁.1, h₁.2⟩

theorem always_readPage (hP : Allows P) (h : Session m s) (block page byte : UInt8) :
    Always (testEnv polls) P (readPage block page byte) s fun _ s' =>
      Provides (256 * block.toNat + page.toNat) (number block page byte) m s' := by
  refine (always_readSetup hP h block page byte).bind fun _ s₁ h₁ => ?_
  have hpage : number block page byte / 256 = 256 * block.toNat + page.toNat := by
    have hbyte := byte.toNat_lt
    unfold number
    omega
  rw [← hpage]
  exact always_readExecute hP h₁

/-- And behind the page before, the one that the address has come to. -/
theorem always_readNext {page address : Nat} (hP : Allows P) (h : Provides page address m s) :
    Always (testEnv polls) P (execute cReadExecute) s fun _ s' => Provides (address / 256) address m s' :=
  (always_execute readPageDuration hP h.toStands (fun h => by cases h) (fun h => by cases h) fun _ _ => rfl).mono
    fun _ _ h₂ => ⟨h₂.1, h₂.2⟩

theorem always_eraseExecute {block : Nat} (hP : Allows P) (h : Stands (.erasing block) m s) :
    Always (testEnv polls) P (execute cEraseExecute) s fun _ s' =>
      Stands (.erasing ((block + 1) % 256)) (setSegment 65536 block (fun _ => 0) m) s' :=
  (always_execute eraseBlockDuration hP h (fun h => by cases h) (fun h => by cases h) fun _ _ => rfl).mono
    fun _ _ h₂ => h₂.1

/-- The bytes provided are those of the page, around its end. -/
theorem always_expectData {page address n : Nat} {v : UInt8} (hP : Allows P) (h : Provides page address m s)
    (haddress : address < 16777216) (hdata : ∀ i < n, m (256 * page + (address + i) % 256) = v) (text : String) :
    Always (testEnv polls) P (expectData n v text) s fun _ s' => Provides page ((address + n) % 16777216) m s' := by
  have hstart : Provides page ((address + 0) % 16777216) m s := by
    rw [Nat.add_zero, Nat.mod_eq_of_lt haddress]
    exact h
  refine .upTo (I := fun i s => Provides page ((address + i) % 16777216) m s) hstart n fun i s' hi hs' => ?_
  refine (always_load hP hs').bind fun dataReg s₁ h₁ => ?_
  have hv : dataReg &&& maskData.toUInt64 = v.toUInt64 := by
    rw [h₁.1, Nat.mod_mod_of_dvd _ (by decide), hdata i hi]
  rw [assert_true hv]
  have hnext := h₁.2
  rw [Nat.mod_add_mod, Nat.add_assoc] at hnext
  exact .pure hnext

/-! ## Pages -/

/-- The bytes of a page are all `v`. -/
def Holds (m : Nat → UInt8) (page : Nat) (v : UInt8) : Prop := ∀ i < 256, m (256 * page + i) = v

theorem holds_stored (page : Nat) (v : UInt8) (m : Nat → UInt8) :
    Holds (setSegment 256 page (fun _ => v) m) page v := by
  intro i hi
  unfold setSegment
  rw [if_pos (by omega)]

theorem Holds.stored {page q : Nat} {v : UInt8} (h : Holds m page v) (hne : page ≠ q) (image : Nat → UInt8) :
    Holds (setSegment 256 q image m) page v := by
  intro i hi
  unfold setSegment
  rw [if_neg (by omega)]
  exact h i hi

theorem holds_erased {page block : Nat} (hpage : page / 256 = block) (m : Nat → UInt8) :
    Holds (setSegment 65536 block (fun _ => 0) m) page 0 := by
  intro i hi
  unfold setSegment
  rw [if_pos (by omega)]

theorem Holds.erased {page block : Nat} {v : UInt8} (h : Holds m page v) (hne : page / 256 ≠ block) :
    Holds (setSegment 65536 block (fun _ => 0) m) page v := by
  intro i hi
  unfold setSegment
  rw [if_neg (by omega)]
  exact h i hi

theorem always_checkPage {block page v : UInt8} (hP : Allows P) (h : Session m s)
    (hholds : Holds m (256 * block.toNat + page.toNat) v) (text : String) :
    Always (testEnv polls) P (checkPage block page v text) s fun _ s' =>
      Provides (256 * block.toNat + page.toNat) ((number block page 0 + 256) % 16777216) m s' := by
  refine (always_readPage hP h block page 0).bind fun _ s₁ h₁ => ?_
  have hblock := block.toNat_lt
  have hpage := page.toNat_lt
  have hnumber : number block page 0 = 256 * (256 * block.toNat + page.toNat) := rfl
  refine always_expectData hP h₁ (by omega) (fun i hi => ?_) text
  rw [hnumber, Nat.mul_add_mod, Nat.mod_eq_of_lt hi]
  exact hholds i hi

end Rules

/-! ## Runs that return -/

/-- No access is rejected and no assertion fails. -/
def Happening.Fine : Happening → Prop
  | .access (.ok r) => r.device.machineState ≠ .bug
  | .access (.error _) | .failed _ _ => False
  | .waited _ | .printed _ => True

/-- In its first `n` readings, the clock advances by the longest operation within `k` more readings. -/
def Ticks (k n : Nat) (c : Clock) : Prop := ∀ i < n, (c i).toNat + 2000 ≤ (c (i + k)).toNat

/-- The device is not busy for longer than an operation takes. -/
structure Punctual (s : Sys) : Prop where
  inStorage : InStorage s.device.store
  clock : ClockOk s.clock
  deadline : s.device.deadline.toNat ≤ (s.clock 0).toNat + 2000

section Returns

variable {k n : Nat} {s : Sys}

theorem Ticks.mono {m : Nat} {c : Clock} (h : Ticks k n c) (hle : m ≤ n) : Ticks k m c := fun i hi => h i (by omega)

theorem Ticks.after {m : Nat} {c : Clock} (h : Ticks k (n + m) c) {j : Nat} (hj : j ≤ m) : Ticks k n (c.after j) := by
  intro i hi
  have hlater : c.after j (i + k) = c (j + i + k) := congrArg c (Nat.add_assoc j i k).symm
  rw [hlater]
  exact h (j + i) (by omega)

/-- A wait that is long enough returns, having taken a reading a poll. -/
theorem waitForDevice_returns {d : Device} : ∀ {k : Nat} {c : Clock}, d.deadline.toNat ≤ (c k).toNat →
    ∃ j ≤ k + 1, waitForDevice d (k + 1) c = some (c.after j)
  | k, c, h => by
    rw [waitForDevice]
    by_cases hpoll : pollReady d (c 0) = true
    · exact ⟨1, Nat.le_add_left 1 k, if_pos hpoll⟩
    · rw [if_neg hpoll]
      cases k with
      | zero => exact absurd (pollReady_iff.2 h) hpoll
      | succ k =>
        rw [Nat.add_comm] at h
        obtain ⟨j, hj, hwait⟩ := waitForDevice_returns (c := c.after 1) h
        exact ⟨1 + j, by omega, by rw [hwait, Clock.after_after]⟩

/-- An access that is not rejected. -/
theorem access_goes {α : Type} {w : UInt64} {answer : UInt64 → α} (h : Punctual s)
    (hfine : ∀ e ∈ (access w answer s).1, e.Fine) :
    ∃ a s', (access w answer s).2 = some (a, s') ∧ s'.clock = s.clock.after 2 ∧ Punctual s' := by
  unfold access at hfine ⊢
  cases hr : handleWatchpointIoregisters s.device w (s.clock 0) (s.clock 1) with
  | error x =>
    rw [hr] at hfine
    exact absurd (hfine _ (List.mem_singleton_self _)) id
  | ok r =>
    rw [hr] at hfine
    have hbug : r.device.machineState ≠ .bug := hfine _ (List.mem_singleton_self _)
    obtain ⟨-, ⟨-, hmove⟩ | ⟨-, rfl⟩⟩ := handle_inv h.inStorage hr
    · refine ⟨_, _, rfl, rfl, hmove.inStorage h.inStorage, h.clock.after 2, ?_⟩
      show r.device.deadline.toNat ≤ (s.clock 2).toNat + 2000
      have h01 : (s.clock 0).toNat ≤ (s.clock 2).toNat := h.clock.mono (by omega)
      have h12 : (s.clock 1).toNat ≤ (s.clock 2).toNat := h.clock.mono (by omega)
      have hdeadline := h.deadline
      rcases hmove.deadline with ⟨j, -, hset, -⟩ | ⟨-, hkept | hclear⟩
      · have hbounded : (s.clock 1).toNat + 2025 < 2 ^ 64 := h.clock.bounded 1
        obtain ⟨-, hduration⟩ := timeoutOf_toNat j
        rw [hset, setDeadline_toNat (by omega)]
        omega
      · rw [hkept]
        omega
      · rw [hclear]
        exact Nat.zero_le _
    · exact absurd rfl hbug

/-- A request is answered that is not an assertion. -/
theorem testEnv_goes (o : TraceeOp) (h : Punctual s) (hticks : Ticks k (n + (k + 2)) s.clock)
    (hfine : ∀ e ∈ (testEnv (k + 1) o s).1, e.Fine) :
    ∃ a s', (testEnv (k + 1) o s).2 = some (a, s') ∧ Punctual s' ∧ Ticks k n s'.clock := by
  have hlater (j : Nat) : (s.clock 0).toNat + 2000 ≤ (s.clock j).toNat + 2000 :=
    Nat.add_le_add_right (h.clock.mono (Nat.zero_le j)) 2000
  cases o with
  | store w =>
    obtain ⟨a, s', ha, hclock, hs'⟩ := access_goes h hfine
    exact ⟨a, s', ha, hs', hclock ▸ hticks.after (by omega)⟩
  | load =>
    obtain ⟨a, s', ha, hclock, hs'⟩ := access_goes h hfine
    exact ⟨a, s', ha, hs', hclock ▸ hticks.after (by omega)⟩
  | gpioSet pin value =>
    refine ⟨_, _, rfl, ?_, hticks.mono (Nat.le_add_right n _)⟩
    unfold handleBreakpointGpioSet
    split_ifs
    · exact ⟨inStorage_clear _, h.clock, Nat.zero_le _⟩
    · exact h
  | gpioGet pin =>
    exact ⟨_, _, rfl, ⟨h.inStorage, h.clock.after 1, h.deadline.trans (hlater 1)⟩, hticks.after (by omega)⟩
  | waitForDevice =>
    have hk : s.device.deadline.toNat ≤ (s.clock k).toNat := by
      have h0 := hticks 0 (by omega)
      rw [Nat.zero_add] at h0
      exact h.deadline.trans h0
    obtain ⟨j, hj, hwait⟩ := waitForDevice_returns hk
    refine ⟨(), { s with clock := s.clock.after j }, ?_,
      ⟨h.inStorage, h.clock.after j, h.deadline.trans (hlater j)⟩, hticks.after (by omega)⟩
    unfold testEnv
    dsimp only
    rw [hwait]
  | printf line => exact ⟨_, _, rfl, h, hticks.mono (Nat.le_add_right n _)⟩
  | abort text => exact absurd (hfine _ (List.mem_singleton_self _)) id

/-- A run whose requests are few enough for the clock returns, if no access is rejected and no assertion fails. -/
theorem returns_of_fine {α : Type} : ∀ {n : Nat} {p : TraceeM α} {s : Sys}, p.Within n → Punctual s →
    Ticks k (n * (k + 2)) s.clock → (∀ e ∈ (run (testEnv (k + 1)) p s).1, e.Fine) →
      (run (testEnv (k + 1)) p s).2.isSome
  | _, .ret _, _, _, _, _, _ => rfl
  | _, .op o f, s, hp, h, hticks, hfine => by
    obtain ⟨n, rfl, hnext⟩ := hp.op
    rw [Nat.succ_mul] at hticks
    rw [run] at hfine ⊢
    rcases henv : testEnv (k + 1) o s with ⟨l, _ | ⟨a, s'⟩⟩
    · rw [henv] at hfine
      have hrequest : ∀ e ∈ (testEnv (k + 1) o s).1, e.Fine := by
        rw [henv]
        exact hfine
      obtain ⟨a, s', ha, -⟩ := testEnv_goes o h hticks hrequest
      rw [henv] at ha
      cases ha
    · rw [henv] at hfine
      have hrequest : ∀ e ∈ (testEnv (k + 1) o s).1, e.Fine := by
        rw [henv]
        exact fun e he => hfine e (List.mem_append_left _ he)
      obtain ⟨a', s'', ha, hs', hticks'⟩ := testEnv_goes o h hticks hrequest
      rw [henv] at ha
      cases ha
      exact returns_of_fine (hnext a) hs' hticks' fun e he => hfine e (List.mem_append_right _ he)

theorem Session.punctual {m : Nat → UInt8} (h : Session m s) : Punctual s := by
  obtain ⟨mode, -, ⟨t, hrep⟩, hclock, hready⟩ := h
  exact ⟨hrep.inStorage, hclock, (beforeDeadline_eq_false.1 (hready 0)).trans (Nat.le_add_right _ 2000)⟩

end Returns

end NandRig.TestDevice
