/-
The emulated read of `ioregisters` (`device/de_ioregs.c`): the load that the tracee has made came too
early, so the emulator decodes it from the program text before RIP and patches its destination
register. What the load itself would have read from the word poked is in the second part.
-/
import NandRig.Device.Moves

namespace NandRig.Emulator

/-! ## Tracee registers -/

/-- The fields of `struct user_regs_struct`. -/
inductive Reg
  | r15 | r14 | r13 | r12 | rbp | rbx | r11 | r10 | r9 | r8 | rax | rcx | rdx | rsi | rdi | origRax
  | rip | cs | eflags | rsp | ss | fsBase | gsBase | ds | es | fs | gs
  deriving DecidableEq, Repr

abbrev Regs := Reg → UInt64

/-! ## Patterns -/

/-- The `n`th byte of `ul`. -/
def byte (ul n : UInt64) : UInt64 := (ul >>> (n * 8)) &&& 0xFF

abbrev modrmMovzbl : UInt64 := 7

def patternMovzbl (ul : UInt64) : Bool :=
  byte ul 5 == 0x0F && byte ul 6 == 0xB6 &&
    (byte ul modrmMovzbl == 0x00 || byte ul modrmMovzbl == 0x09 || byte ul modrmMovzbl == 0x12)

abbrev modrmMov : UInt64 := 3

def patternMov (ul : UInt64) : Bool :=
  byte ul 1 == 0x48 && byte ul 2 == 0x8B &&
    (byte ul modrmMov == 0x05 || byte ul modrmMov == 0x0D || byte ul modrmMov == 0x15)

/-! ## The decoder -/

/-- `error_dump(bytes, cause_s)`, after which the emulator exits. -/
structure ErrorDump where
  bytes : UInt64
  cause : String
  deriving DecidableEq, Repr

/-- The ModR/M byte of the load at the end of `bytes`. -/
def decodeModrm (bytes : UInt64) : Except ErrorDump UInt8 :=
  if patternMovzbl bytes && patternMov bytes then .error ⟨bytes, "ambiguous pattern"⟩
  else if patternMovzbl bytes then .ok (byte bytes modrmMovzbl).toUInt8
  else if patternMov bytes then .ok (byte bytes modrmMov).toUInt8
  else .error ⟨bytes, "unknown pattern"⟩

/-- `update_tracee_cpu_registers()`, on the tracee's text, by address, and its registers. -/
def updateTraceeCpuRegisters (text : UInt64 → UInt64) (regs : Regs) (value : UInt32) : Except ErrorDump Regs :=
  let bytes := text (regs .rip - 8)
  match decodeModrm bytes with
  | .error dump => .error dump
  | .ok modrm =>
    if modrm = 0x00 ∨ modrm = 0x05 then .ok (Function.update regs .rax value.toUInt64)
    else if modrm = 0x09 ∨ modrm = 0x0D then .ok (Function.update regs .rcx value.toUInt64)
    else if modrm = 0x12 ∨ modrm = 0x15 then .ok (Function.update regs .rdx value.toUInt64)
    else .error ⟨bytes, "unknown ModR/M byte"⟩

/-- The emulator stops in the handler, or in the decoder. -/
inductive Stop
  | halt (reason : Halt)
  | dump (dump : ErrorDump)
  deriving DecidableEq, Repr

/-- `handle_watchpoint_ioregisters()` with the registers of the tracee. -/
def handleWatchpointRegs (text : UInt64 → UInt64) (regs : Regs) (d : Device) (ioregisters : UInt64)
    (timenow settime : TimeUs) : Except Stop (Reply × Regs) :=
  match handleWatchpointIoregisters d ioregisters timenow settime with
  | .error reason => .error (.halt reason)
  | .ok reply =>
    match reply.cpu with
    | none => .ok (reply, regs)
    | some value =>
      match updateTraceeCpuRegisters text regs value with
      | .error dump => .error (.dump dump)
      | .ok regs => .ok (reply, regs)

/-! ## Loads

The loads that the decoder is to recognize, and what the processor makes of them. -/

/-- The scratch registers that a load may name. -/
inductive Scratch
  | ax | cx | dx
  deriving DecidableEq, Repr

namespace Scratch

def reg : Scratch → Reg
  | ax => .rax
  | cx => .rcx
  | dx => .rdx

/-- The ModR/M byte of a load into the register from an address relative to RIP. -/
def modrmRip : Scratch → UInt8
  | ax => 0x05
  | cx => 0x0D
  | dx => 0x15

/-- The ModR/M byte of a load into the register from the address in it. -/
def modrmSelf : Scratch → UInt8
  | ax => 0x00
  | cx => 0x09
  | dx => 0x12

end Scratch

/-- A load of `ioregisters` into a scratch register. -/
inductive Load
  /-- `movq disp32(%rip), %r`. -/
  | movq (dst : Scratch) (disp₀ disp₁ disp₂ disp₃ : UInt8)
  /-- `movzbl (%r), %r`, with the address in the register. -/
  | movzbl (dst : Scratch)
  deriving DecidableEq, Repr

namespace Load

/-- The machine code of the load. -/
def code : Load → List UInt8
  | movq dst disp₀ disp₁ disp₂ disp₃ => [0x48, 0x8B, dst.modrmRip, disp₀, disp₁, disp₂, disp₃]
  | movzbl dst => [0x0F, 0xB6, dst.modrmSelf]

def dst : Load → Scratch
  | movq dst _ _ _ _ => dst
  | movzbl dst => dst

/-- The quadword, or its lowest byte extended with zeros. -/
def loaded (word : UInt64) : Load → UInt64
  | movq _ _ _ _ _ => word
  | movzbl _ => word.toUInt8.toUInt64

/-- The registers behind the load, made with `word` in `ioregisters`. -/
def execute (word : UInt64) (load : Load) (regs : Regs) : Regs :=
  Function.update regs load.dst.reg (load.loaded word)

end Load

/-- The eight bytes of a word of text, as they stand in memory. -/
def textBytes (bytes : UInt64) : List UInt8 :=
  [bytes.toUInt8, (bytes >>> 8).toUInt8, (bytes >>> 16).toUInt8, (bytes >>> 24).toUInt8, (bytes >>> 32).toUInt8,
    (bytes >>> 40).toUInt8, (bytes >>> 48).toUInt8, (bytes >>> 56).toUInt8]

/-- The text before RIP ends in the load. -/
def Load.EndsIn (load : Load) (bytes : UInt64) : Prop := load.code <:+ textBytes bytes

/-- Both patterns match. -/
def Ambiguous (bytes : UInt64) : Prop := patternMovzbl bytes ∧ patternMov bytes

instance : DecidablePred Ambiguous := fun bytes => inferInstanceAs (Decidable (patternMovzbl bytes ∧ patternMov bytes))

/-! ## Decoding a load -/

theorem byte_eq_iff (ul n : UInt64) (c : UInt8) : byte ul n = c.toUInt64 ↔ (ul >>> (n * 8)).toUInt8 = c := by
  unfold byte
  generalize ul >>> (n * 8) = x
  have hand : x &&& 0xFF = x.toUInt8.toUInt64 := by
    rw [← UInt64.toNat_inj, UInt64.toNat_and, UInt8.toNat_toUInt64, UInt64.toNat_toUInt8]
    exact Nat.and_two_pow_sub_one_eq_mod x.toNat 8
  rw [hand]
  rw [← UInt64.toNat_inj, ← UInt8.toNat_inj, UInt8.toNat_toUInt64, UInt8.toNat_toUInt64]

/-- What the patterns look at, of a text that ends in a load from an address relative to RIP. -/
theorem bytes_of_movq {dst : Scratch} {d₀ d₁ d₂ d₃ : UInt8} {bytes : UInt64}
    (h : (Load.movq dst d₀ d₁ d₂ d₃).EndsIn bytes) :
    byte bytes 1 = 0x48 ∧ byte bytes 2 = 0x8B ∧ byte bytes modrmMov = dst.modrmRip.toUInt64 := by
  have hcode := List.suffix_iff_eq_drop.1 h
  obtain ⟨h₁, h₂, h₃, -⟩ : (0x48 : UInt8) = (bytes >>> 8).toUInt8 ∧ (0x8B : UInt8) = (bytes >>> 16).toUInt8 ∧
      dst.modrmRip = (bytes >>> 24).toUInt8 ∧ _ := by
    simpa [Load.code, textBytes] using hcode
  exact ⟨(byte_eq_iff bytes 1 0x48).2 h₁.symm, (byte_eq_iff bytes 2 0x8B).2 h₂.symm,
    (byte_eq_iff bytes 3 dst.modrmRip).2 h₃.symm⟩

theorem bytes_of_movzbl {dst : Scratch} {bytes : UInt64} (h : (Load.movzbl dst).EndsIn bytes) :
    byte bytes 5 = 0x0F ∧ byte bytes 6 = 0xB6 ∧ byte bytes modrmMovzbl = dst.modrmSelf.toUInt64 := by
  have hcode := List.suffix_iff_eq_drop.1 h
  obtain ⟨h₁, h₂, h₃⟩ : (0x0F : UInt8) = (bytes >>> 40).toUInt8 ∧ (0xB6 : UInt8) = (bytes >>> 48).toUInt8 ∧
      dst.modrmSelf = (bytes >>> 56).toUInt8 := by
    simpa [Load.code, textBytes] using hcode
  exact ⟨(byte_eq_iff bytes 5 0x0F).2 h₁.symm, (byte_eq_iff bytes 6 0xB6).2 h₂.symm,
    (byte_eq_iff bytes 7 dst.modrmSelf).2 h₃.symm⟩

theorem patternMov_of_movq {dst : Scratch} {d₀ d₁ d₂ d₃ : UInt8} {bytes : UInt64}
    (h : (Load.movq dst d₀ d₁ d₂ d₃).EndsIn bytes) : patternMov bytes := by
  obtain ⟨h₁, h₂, h₃⟩ := bytes_of_movq h
  unfold patternMov
  rw [h₁, h₂, h₃]
  cases dst <;> rfl

theorem patternMovzbl_of_movzbl {dst : Scratch} {bytes : UInt64} (h : (Load.movzbl dst).EndsIn bytes) :
    patternMovzbl bytes := by
  obtain ⟨h₁, h₂, h₃⟩ := bytes_of_movzbl h
  unfold patternMovzbl
  rw [h₁, h₂, h₃]
  cases dst <;> rfl

/-! ## Patching the destination -/

section Patch

variable {text : UInt64 → UInt64} {regs : Regs}

/-- The decoded byte names the destination. -/
theorem update_of_modrm {dst : Scratch} {modrm : UInt8} (hmodrm : modrm = dst.modrmRip ∨ modrm = dst.modrmSelf)
    (hdecode : decodeModrm (text (regs .rip - 8)) = .ok modrm) (value : UInt32) :
    updateTraceeCpuRegisters text regs value = .ok (Function.update regs dst.reg value.toUInt64) := by
  unfold updateTraceeCpuRegisters
  dsimp only
  rw [hdecode]
  rcases hmodrm with rfl | rfl <;> cases dst <;> rfl

/-- A recognized load has its destination patched, with the whole value whatever its width. -/
theorem update_of_endsIn {load : Load} (hends : load.EndsIn (text (regs .rip - 8))) (value : UInt32) :
    updateTraceeCpuRegisters text regs value =
      if Ambiguous (text (regs .rip - 8)) then .error ⟨text (regs .rip - 8), "ambiguous pattern"⟩
      else .ok (Function.update regs load.dst.reg value.toUInt64) := by
  split_ifs with hambiguous
  · have hdecode : decodeModrm (text (regs .rip - 8)) = .error _ :=
      if_pos (by rw [Bool.and_eq_true]; exact hambiguous)
    unfold updateTraceeCpuRegisters
    dsimp only
    rw [hdecode]
  · cases load with
    | movq dst d₀ d₁ d₂ d₃ =>
      have hmov := patternMov_of_movq hends
      have hmovzbl : ¬ patternMovzbl (text (regs .rip - 8)) := fun h => hambiguous ⟨h, hmov⟩
      have hdecode : decodeModrm (text (regs .rip - 8)) = .ok dst.modrmRip := by
        unfold decodeModrm
        rw [if_neg (by simp [hmovzbl]), if_neg hmovzbl, if_pos hmov, (bytes_of_movq hends).2.2,
          UInt8.toUInt8_toUInt64]
      exact update_of_modrm (.inl rfl) hdecode value
    | movzbl dst =>
      have hmovzbl := patternMovzbl_of_movzbl hends
      have hmov : ¬ patternMov (text (regs .rip - 8)) := fun h => hambiguous ⟨hmovzbl, h⟩
      have hdecode : decodeModrm (text (regs .rip - 8)) = .ok dst.modrmSelf := by
        unfold decodeModrm
        rw [if_neg (by simp [hmov]), if_pos hmovzbl, (bytes_of_movzbl hends).2.2, UInt8.toUInt8_toUInt64]
      exact update_of_modrm (.inr rfl) hdecode value

end Patch

/-! ## Reads of the data register -/

/-- The device answers the access with a byte of its cache. -/
structure Answers (d : Device) (ioregisters : UInt64) (timenow : TimeUs) : Prop where
  state : d.machineState = .readProvidingData
  ready : beforeDeadline d.deadline timenow = false
  command : commandOf ioregisters.toUInt32 = cDummy

/-- The decoder halts on an ambiguous text, or the tracee's registers are left as the load would have
left them, had it been made with the word just poked. -/
def Transparent (text : UInt64 → UInt64) (regs : Regs) (load : Load) (d : Device) (ioregisters : UInt64)
    (timenow settime : TimeUs) : Prop :=
  handleWatchpointRegs text regs d ioregisters timenow settime =
      .error (.dump ⟨text (regs .rip - 8), "ambiguous pattern"⟩) ∨
    ∃ reply word, handleWatchpointRegs text regs d ioregisters timenow settime =
      .ok (reply, load.execute word regs) ∧ reply.poke = some word

/-- The load fills the whole register. -/
def Load.Wide : Load → Prop
  | .movq _ _ _ _ _ => True
  | .movzbl _ => False

section Read

variable {text : UInt64 → UInt64} {regs : Regs} {load : Load} {d : Device} {ioregisters : UInt64} {timenow : TimeUs}

theorem Answers.handled (h : Answers d ioregisters timenow) (settime : TimeUs) :
    handleWatchpointIoregisters d ioregisters timenow settime = .ok {
      device := { d with store := incrementCursor false d.store }
      poke := some (dataWord d.store.cacheByte).toUInt64
      cpu := some (dataWord d.store.cacheByte) } := by
  simp [handleWatchpointIoregisters, h.state, h.ready, h.command, storeGetCacheByte_eq, dataWord, Store.cacheByte]

/-- The word has more than its data byte: the dummy command is in it. -/
theorem dataWord_le (byte : UInt8) : 256 ≤ (dataWord byte).toNat :=
  calc
    256 ≤ (cDummy <<< commandShift).toNat := by decide
    _ ≤ (dataWord byte).toNat := by
      rw [dataWord, UInt32.toNat_or]
      exact Nat.left_le_or

theorem loaded_dataWord_eq_iff (load : Load) (byte : UInt8) :
    (dataWord byte).toUInt64 = load.loaded (dataWord byte).toUInt64 ↔ load.Wide := by
  cases load with
  | movq => exact iff_of_true rfl trivial
  | movzbl =>
    refine iff_of_false ?_ id
    intro h
    have hle := dataWord_le byte
    have hlt := (dataWord byte).toUInt64.toUInt8.toNat_lt
    have hnat := congrArg UInt64.toNat h
    rw [Load.loaded, UInt32.toNat_toUInt64, UInt8.toNat_toUInt64] at hnat
    omega

/-- What the handler does with the registers of a tracee that reads a data byte. -/
theorem Answers.handledRegs (h : Answers d ioregisters timenow) (hends : load.EndsIn (text (regs .rip - 8)))
    (settime : TimeUs) :
    handleWatchpointRegs text regs d ioregisters timenow settime =
      if Ambiguous (text (regs .rip - 8)) then .error (.dump ⟨text (regs .rip - 8), "ambiguous pattern"⟩)
      else .ok ({
          device := { d with store := incrementCursor false d.store }
          poke := some (dataWord d.store.cacheByte).toUInt64
          cpu := some (dataWord d.store.cacheByte) },
        Function.update regs load.dst.reg (dataWord d.store.cacheByte).toUInt64) := by
  unfold handleWatchpointRegs
  rw [h.handled settime]
  dsimp only
  rw [update_of_endsIn hends]
  split_ifs <;> rfl

/-- Behind a load that is recognized, the registers are the load's if it fills its register. -/
theorem Answers.transparent_iff (h : Answers d ioregisters timenow) (settime : TimeUs)
    (hends : load.EndsIn (text (regs .rip - 8))) (hambiguous : ¬ Ambiguous (text (regs .rip - 8))) :
    Transparent text regs load d ioregisters timenow settime ↔ load.Wide := by
  unfold Transparent
  rw [h.handledRegs hends settime, if_neg hambiguous, ← loaded_dataWord_eq_iff load d.store.cacheByte]
  constructor
  · rintro (hdump | ⟨reply, word, hok, hpoke⟩)
    · cases hdump
    · obtain ⟨rfl, hregs⟩ := Prod.mk.inj (Except.ok.inj hok)
      cases hpoke
      have hdst := congrFun hregs load.dst.reg
      rwa [Load.execute, Function.update_self, Function.update_self] at hdst
  · intro hloaded
    exact .inr ⟨_, _, by rw [Load.execute, ← hloaded], rfl⟩

/-- Whatever its width, a load that is recognized gets the value of the reply, with the data byte lowest, and
only its register changes. -/
theorem Answers.patched (h : Answers d ioregisters timenow) {settime : TimeUs}
    (hends : load.EndsIn (text (regs .rip - 8))) {reply : Reply} {regs' : Regs}
    (hok : handleWatchpointRegs text regs d ioregisters timenow settime = .ok (reply, regs')) :
    reply.cpu = some (regs' load.dst.reg).toUInt32 ∧ (regs' load.dst.reg).toUInt8 = d.store.cacheByte ∧
      ∀ r, r ≠ load.dst.reg → regs' r = regs r := by
  rw [h.handledRegs hends settime] at hok
  split_ifs at hok
  cases hok
  refine ⟨?_, ?_, ?_⟩
  · rw [Function.update_self, UInt32.toUInt32_toUInt64]
  · rw [Function.update_self, UInt32.toUInt8_toUInt64, dataWord_toUInt8]
  · intro r hr
    exact Function.update_of_ne hr _ _

/-- An emulated read is transparent where the text is ambiguous, and where the load fills its register. -/
theorem read_transparent_iff (hanswers : Answers d ioregisters timenow) (settime : TimeUs)
    (hends : load.EndsIn (text (regs .rip - 8))) :
    Transparent text regs load d ioregisters timenow settime ↔ Ambiguous (text (regs .rip - 8)) ∨ load.Wide := by
  by_cases hambiguous : Ambiguous (text (regs .rip - 8))
  · have hdump := hanswers.handledRegs hends settime
    rw [if_pos hambiguous] at hdump
    exact iff_of_true (.inl hdump) (.inl hambiguous)
  · rw [hanswers.transparent_iff settime hends hambiguous, or_iff_right hambiguous]

end Read

/-- A device that has a page of ones in its cache. -/
def onesDevice : Device := ⟨.readProvidingData, 0, ⟨0, fun _ => 1, fun _ => 1⟩⟩

theorem onesDevice_answers : Answers onesDevice dummyWord 0 :=
  ⟨rfl, rfl, commandOf_dummyWord⟩

/-- `movq 0x2E7B(%rip), %rcx`. -/
theorem read_transparent_iff_movq :
    Transparent (fun _ => 0x00002E7B0D8B4890) (fun _ => 64) (.movq .cx 0x7B 0x2E 0x00 0x00) onesDevice dummyWord 0 0 :=
  (read_transparent_iff onesDevice_answers 0 (by unfold Load.EndsIn; decide)).2 (.inr True.intro)

/-- `movzbl (%rax), %eax`: the dummy command stays in the register, where the load reads one byte. -/
theorem movzbl_not_transparent :
    ¬ Transparent (fun _ => 0x00B60F9090909090) (fun _ => 64) (.movzbl .ax) onesDevice dummyWord 0 0 := by
  intro h
  exact (onesDevice_answers.transparent_iff 0 (by unfold Load.EndsIn; decide) (by decide)).1 h

end NandRig.Emulator
