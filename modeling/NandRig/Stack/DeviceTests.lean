/-
The unit tests of the emulator pass, from any storage and on any clock that does not run backwards. The one that
is not called would not.
-/
import NandRig.Stack.TraceeRules

namespace NandRig.TestDevice

open Emulator Interact RingMem Stack

section Tests

variable {polls : Nat} {P : Happening → Prop} {s : Sys} {m : Nat → UInt8}

/-! ## The tests pass -/

theorem always_wrPageTest (hP : Allows P) (h : Session m s) :
    Always (testEnv polls) P wrPageTest s fun _ s' => ∃ m', Session m' s' := by
  refine (always_writePage hP h 0 0 0xFF).bind fun _ s₁ h₁ => ?_
  exact (always_checkPage hP (h₁.session True.intro) (holds_stored _ _ _) _).mono fun _ _ h₂ => ⟨_, h₂.session⟩

theorem always_eraseBlockTest (hP : Allows P) (h : Session m s) :
    Always (testEnv polls) P eraseBlockTest s fun _ s' => ∃ m', Session m' s' := by
  refine (always_wrPageTest hP h).bind fun _ s₁ ⟨_, h₁⟩ => ?_
  refine (always_eraseSetup hP h₁ 0).bind fun _ s₂ h₂ => ?_
  refine (always_eraseExecute hP h₂).bind fun _ s₃ h₃ => ?_
  exact (always_checkPage hP (h₃.session True.intro) (holds_erased rfl _) _).mono fun _ _ h₄ => ⟨_, h₄.session⟩

/-- The bytes of the page that are not sent are blank. -/
theorem always_wrLessThanPageTest (hP : Allows P) (h : Session m s) :
    Always (testEnv polls) P wrLessThanPageTest s fun _ s' => ∃ m', Session m' s' := by
  refine (always_programSetup hP h 0 0 0x0A).bind fun _ s₁ h₁ => ?_
  refine (always_fillPage hP h₁ (by decide) (memset 0xFF) 10).bind fun _ s₂ h₂ => ?_
  have hbyte (i : Nat) (hi : i < 256) : setSegment 256 0 (sent (memset 0xFF) 10 (fun _ => 0) 10) m i =
      if (i + 256 - 10) % 256 < 10 then 0xFF else 0 := by
    unfold setSegment
    rw [if_pos (Nat.div_eq_of_lt hi), Nat.mod_eq_of_lt hi, sent_memset (by decide) hi 10 (by decide)]
  refine (always_readPage hP (h₂.session True.intro) 0 0 0).bind fun _ s₃ h₃ => ?_
  refine (always_expectData (v := 0x00) hP h₃ (by decide) (fun i hi => ?_) _).bind fun _ s₄ h₄ => ?_
  · refine (hbyte _ ?_).trans (if_neg ?_) <;> simp [number] <;> omega
  refine (always_expectData (v := 0xFF) hP h₄ (by decide) (fun i hi => ?_) _).bind fun _ s₅ h₅ => ?_
  · refine (hbyte _ ?_).trans (if_pos ?_) <;> simp [number] <;> omega
  refine (always_expectData (v := 0x00) hP h₅ (by decide) (fun i hi => ?_) _).mono fun _ s₆ h₆ => ⟨_, h₆.session⟩
  refine (hbyte _ ?_).trans (if_neg ?_) <;> simp [number] <;> omega

/-- Two pages behind one SETUP, each of which is checked behind a SETUP of its own. -/
theorem always_twoPages {block page block' page' v v' : UInt8} (hP : Allows P) (h : Session m s)
    (hnext : (256 * block.toNat + page.toNat + 1) % 65536 = 256 * block'.toNat + page'.toNat) (text : String) :
    Always (testEnv polls) P (do
      writePage block page 0 (memset v) 256
      fillPage (memset v') 256
      checkPage block page v text
      checkPage block' page' v' text) s fun _ s' => ∃ m', Session m' s' := by
  refine (always_writePage hP h block page v).bind fun _ s₁ h₁ => ?_
  refine (always_fillWhole hP h₁ (by decide) v').bind fun _ s₂ h₂ => ?_
  rw [hnext] at h₂
  have hne : 256 * block.toNat + page.toNat ≠ 256 * block'.toNat + page'.toNat := by omega
  refine (always_checkPage hP (h₂.session True.intro) ((holds_stored _ _ _).stored hne _) _).bind fun _ s₃ h₃ => ?_
  exact (always_checkPage hP h₃.session (holds_stored _ _ _) _).mono fun _ _ h₄ => ⟨_, h₄.session⟩

theorem always_writeTwoPagesTest (hP : Allows P) (h : Session m s) :
    Always (testEnv polls) P writeTwoPagesTest s fun _ s' => ∃ m', Session m' s' :=
  always_twoPages hP h (by decide) _

/-- The second page is the first of the storage. -/
theorem always_writeLastTwoPagesTest (hP : Allows P) (h : Session m s) :
    Always (testEnv polls) P writeLastTwoPagesTest s fun _ s' => ∃ m', Session m' s' :=
  always_twoPages hP h (by decide) _

/-- The second READ_EXECUTE finds the address at the second page. -/
theorem always_writeAndReadTwoPagesTest (hP : Allows P) (h : Session m s) :
    Always (testEnv polls) P writeAndReadTwoPagesTest s fun _ s' => ∃ m', Session m' s' := by
  refine (always_eraseBlockTest hP h).bind fun _ s₀ ⟨_, h₀⟩ => ?_
  refine (always_writePage hP h₀ 0 0 0xAA).bind fun _ s₁ h₁ => ?_
  refine (always_fillWhole hP h₁ (by decide) 0xBB).bind fun _ s₂ h₂ => ?_
  refine (always_checkPage hP (h₂.session True.intro) ((holds_stored _ _ _).stored (by decide) _) _).bind
    fun _ s₃ h₃ => ?_
  refine (always_readNext hP h₃).bind fun _ s₄ h₄ => ?_
  refine (always_expectData hP h₄ (by decide) (fun i hi => ?_) _).mono fun _ _ h₅ => ⟨_, h₅.session⟩
  exact holds_stored 1 0xBB _ _ (Nat.mod_lt _ (by decide))

/-- What two blocks hold is erased behind the SETUP of the first, where the second is the next one. -/
theorem always_eraseBlocks {first second : UInt8} (hP : Allows P) (h : Session m s)
    (hnext : (first.toNat + 1) % 256 = second.toNat) :
    Always (testEnv polls) P (eraseBlocks first second) s fun _ s' => ∃ m', Session m' s' := by
  have hfirst := first.toNat_lt
  refine (always_writePage hP h first 0 0xAA).bind fun _ s₁ h₁ => ?_
  refine (always_writePage hP (h₁.session True.intro) second 0 0xBB).bind fun _ s₂ h₂ => ?_
  refine (always_checkPage hP (h₂.session True.intro) ((holds_stored _ _ _).stored ?_ _) _).bind fun _ s₃ h₃ => ?_
  · rw [UInt8.toNat_zero]
    omega
  refine (always_checkPage hP h₃.session (holds_stored _ _ _) _).bind fun _ s₄ h₄ => ?_
  refine (always_eraseSetup hP h₄.session first).bind fun _ s₅ h₅ => ?_
  refine (always_eraseExecute hP h₅).bind fun _ s₆ h₆ => ?_
  refine (always_eraseExecute hP h₆).bind fun _ s₇ h₇ => ?_
  rw [hnext] at h₇
  have hblock (b : UInt8) : (256 * b.toNat + UInt8.toNat 0) / 256 = b.toNat := by
    rw [UInt8.toNat_zero]
    omega
  refine (always_checkPage hP (h₇.session True.intro) ((holds_erased (hblock first) _).erased ?_) _).bind
    fun _ s₈ h₈ => ?_
  · rw [hblock]
    omega
  exact (always_checkPage hP h₈.session (holds_erased (hblock second) _) _).mono fun _ _ h₉ => ⟨_, h₉.session⟩

/-- The bytes that come around the end of the page replace the first ones, and so does a byte read around it. -/
theorem always_overwritePageTest (hP : Allows P) (h : Session m s) :
    Always (testEnv polls) P overwritePageTest s fun _ s' => ∃ m', Session m' s' := by
  refine (always_eraseBlockTest hP h).bind fun _ s₀ ⟨_, h₀⟩ => ?_
  refine (always_programSetup hP h₀ 0 0 0).bind fun _ s₁ h₁ => ?_
  refine (always_sendData hP h₁ (by decide) (memset 0xAA) 128).bind fun _ s₂ h₂ => ?_
  refine (always_fillWhole hP h₂ (by decide) 0xDD).bind fun _ s₃ h₃ => ?_
  refine (always_readPage hP (h₃.session True.intro) 0 0 0).bind fun _ s₄ h₄ => ?_
  refine (always_load hP h₄).bind fun _ s₅ h₅ => ?_
  refine (always_expectData hP h₅.2 (by decide) (fun i hi => ?_) _).mono fun _ _ h₆ => ⟨_, h₆.session⟩
  exact holds_stored _ 0xDD _ _ (Nat.mod_lt _ (by decide))

/-- A reset drops what is not executed. -/
theorem always_resetTest (hP : Allows P) (h : Session m s) :
    Always (testEnv polls) P resetTest s fun _ s' => ∃ m', Session m' s' := by
  refine (always_programSetup hP h 0 0 0).bind fun _ s₁ h₁ => ?_
  refine (always_sendData hP h₁ (by decide) (memset 0xCC) 256).bind fun _ s₂ h₂ => ?_
  refine Always.bind (Q := fun _ s' => Session m s') (.call (fun e he => by cases he) ?_) fun _ s₃ h₃ =>
    always_eraseBlockTest hP h₃
  rintro _ s₃ ⟨⟩
  obtain ⟨t, hrep⟩ := h₂.chip
  exact ⟨.idle, trivial, ⟨_, hrep.reset⟩, h₂.clock, fun i => decide_eq_false (Nat.not_lt_zero _)⟩

theorem always_setStatusPinTest (hP : Allows P) (h : Session m s) :
    Always (testEnv polls) P setStatusPinTest s fun _ s' => ∃ m', Session m' s' := by
  refine Always.bind (Q := fun _ s' => Session m s') (.call (fun e he => by cases he) ?_) fun _ s₁ h₁ =>
    always_eraseBlockTest hP h₁
  rintro _ s₁ ⟨⟩
  exact h

theorem always_getResetPinTest (h : Session m s) :
    Always (testEnv polls) P getResetPinTest s fun _ s' => ∃ m', Session m' s' := by
  obtain ⟨mode, hmode, hstands⟩ := h
  refine Always.bind (Q := fun ret s' => ret = 0 ∧ Session m s') (.call (fun e he => by cases he) ?_) ?_
  · rintro _ s₁ ⟨⟩
    exact ⟨rfl, mode, hmode, hstands.chip, hstands.clock.after 1, hstands.ready.after 1⟩
  · rintro ret s₁ ⟨rfl, h₁⟩
    exact .pure ⟨m, h₁⟩

/-! ## Segments one after the other -/

/-- The first `count` segments of `n` hold `v`. -/
def filled (n count : Nat) (v : UInt8) (m : Nat → UInt8) : Nat → UInt8 := fun a => if a / n < count then v else m a

theorem filled_zero (n : Nat) (v : UInt8) (m : Nat → UInt8) : filled n 0 v m = m :=
  funext fun _ => if_neg (Nat.not_lt_zero _)

theorem filled_succ (n count : Nat) (v : UInt8) (m : Nat → UInt8) :
    setSegment n count (fun _ => v) (filled n count v m) = filled n (count + 1) v m := by
  funext a
  unfold setSegment filled
  by_cases hlast : a / n = count
  · rw [if_pos hlast, if_pos (by omega)]
  · rw [if_neg hlast]
    exact if_congr (by omega) rfl rfl

/-- 256 EXECUTEs behind the SETUP of the first block erase all of the storage. -/
theorem always_eraseAllBlocksTest (hP : Allows P) (h : Session m s) :
    Always (testEnv polls) P eraseAllBlocksTest s fun _ s' => ∃ m', Session m' s' ∧ ∀ a < deviceSize, m' a = 0 := by
  refine (always_writePage hP h 0xFF 0 0xAA).bind fun _ s₁ h₁ => ?_
  refine (always_writePage hP (h₁.session True.intro) 0 0 0xBB).bind fun _ s₂ h₂ => ?_
  refine (always_checkPage hP (h₂.session True.intro) ((holds_stored _ _ _).stored (by decide) _) _).bind
    fun _ s₃ h₃ => ?_
  refine (always_checkPage hP h₃.session (holds_stored _ _ _) _).bind fun _ s₄ h₄ => ?_
  refine (always_eraseSetup hP h₄.session 0).bind fun _ s₅ h₅ => ?_
  generalize setSegment 256 _ _ (setSegment 256 _ _ m) = m₁ at h₅
  rw [← filled_zero 65536 0 m₁] at h₅
  have hloop : Always (testEnv polls) P (Prog.upTo (fun _ => execute cEraseExecute) 256) s₅ fun _ s' =>
      Stands (.erasing (256 % 256)) (filled 65536 256 0 m₁) s' := by
    refine .upTo (I := fun i s => Stands (.erasing (i % 256)) (filled 65536 i 0 m₁) s) h₅ 256 fun i s hi hs => ?_
    have hstep := @always_eraseExecute polls P s _ _ hP hs
    rwa [Nat.mod_add_mod, Nat.mod_eq_of_lt hi, filled_succ] at hstep
  refine hloop.bind fun _ s₆ h₆ => ?_
  have hblank : ∀ a < deviceSize, filled 65536 256 0 m₁ a = 0 := by
    intro a ha
    rw [deviceSize_eq] at ha
    exact if_pos (by omega)
  have hpage : ∀ page < 65536, Holds (filled 65536 256 0 m₁) page 0 := by
    intro page hpage i hi
    refine hblank _ ?_
    rw [deviceSize_eq]
    omega
  refine (always_checkPage hP (h₆.session True.intro) (hpage _ (by decide)) _).bind fun _ s₇ h₇ => ?_
  exact (always_checkPage hP h₇.session (hpage _ (by decide)) _).mono fun _ _ h₈ => ⟨_, h₈.session, hblank⟩

theorem always_testerMain (hP : Allows P) (h : Session m s) :
    Always (testEnv polls) P testerMain s fun result s' =>
      result = 0 ∧ ∃ m', Session m' s' ∧ ∀ a < deviceSize, m' a = 0 := by
  refine (always_wrPageTest hP h).bind fun _ s₁ ⟨_, h₁⟩ => ?_
  refine (always_eraseBlockTest hP h₁).bind fun _ s₂ ⟨_, h₂⟩ => ?_
  refine (always_wrLessThanPageTest hP h₂).bind fun _ s₃ ⟨_, h₃⟩ => ?_
  refine (always_writeTwoPagesTest hP h₃).bind fun _ s₄ ⟨_, h₄⟩ => ?_
  refine (always_writeLastTwoPagesTest hP h₄).bind fun _ s₅ ⟨_, h₅⟩ => ?_
  refine (always_eraseBlocks hP h₅ (by decide)).bind fun _ s₆ ⟨_, h₆⟩ => ?_
  refine (always_eraseBlocks hP h₆ (by decide)).bind fun _ s₇ ⟨_, h₇⟩ => ?_
  refine (always_overwritePageTest hP h₇).bind fun _ s₈ ⟨_, h₈⟩ => ?_
  refine (always_writeAndReadTwoPagesTest hP h₈).bind fun _ s₉ ⟨_, h₉⟩ => ?_
  refine (always_resetTest hP h₉).bind fun _ s₁₀ ⟨_, h₁₀⟩ => ?_
  refine (always_setStatusPinTest hP h₁₀).bind fun _ s₁₁ ⟨_, h₁₁⟩ => ?_
  refine (always_getResetPinTest h₁₁).bind fun _ s₁₂ ⟨_, h₁₂⟩ => ?_
  exact (always_eraseAllBlocksTest hP h₁₂).bind fun _ s₁₃ h₁₃ => .pure ⟨rfl, h₁₃⟩

/-! ## The test that is not called -/

/-- The byte that a page should not hold stops the check of it. -/
theorem always_expectData_fails {page address n : Nat} {v : UInt8} {text : String} (hP : Allows P)
    (h : Provides page address m s) (hdata : m (256 * page + address % 256) ≠ v)
    (hfailed : ∀ d : Device, d.store.dataStore = m → P (.failed text d)) :
    Always (testEnv polls) P (expectData (n + 1) v text) s fun _ _ => False := by
  refine .upTo_stuck ?_ n
  refine (always_load hP h).bind ?_
  rintro dataReg s₁ ⟨hbyte, hprovides⟩
  obtain ⟨t, hrep⟩ := hprovides.chip
  have hv : dataReg &&& maskData.toUInt64 ≠ v.toUInt64 := by
    rw [hbyte]
    exact fun heq => hdata (UInt8.toUInt64_inj.1 heq)
  have hassert : assert (dataReg &&& maskData.toUInt64 = v.toUInt64) text = (do
      let e ← ask (.abort text)
      Empty.elim e) := if_neg hv
  rw [hassert]
  refine Always.bind (Q := fun _ _ => False) (.call (fun e he => ?_) fun _ _ hr => ?_) fun e => Empty.elim e
  · rw [List.mem_singleton.1 he]
    exact hfailed s₁.device hrep.storage.symm
  · cases hr

/-- The EXECUTE behind the last page has nothing to store but a blank page, which goes to the first. -/
theorem always_writeAllPages (hP : Allows P) (hprinted : ∀ block, P (.printed (.wrote block))) (h : Session m s) :
    Always (testEnv polls) P writeAllPages s fun _ s' =>
      Session (setSegment 256 0 (fun _ => 0) (filled 256 65536 0xEE m)) s' := by
  have hpages (i j : Nat) (s : Sys) (hi : 256 * i + j < 65536)
      (hs : Stands (.accepting ((256 * i + j) % 65536) 0 fun _ => 0) (filled 256 (256 * i + j) 0xEE m) s) :
      Always (testEnv polls) P (fillPage (memset 0xEE) 256) s fun _ s' =>
        Stands (.accepting ((256 * i + (j + 1)) % 65536) 0 fun _ => 0) (filled 256 (256 * i + (j + 1)) 0xEE m) s' := by
    have hstep := @always_fillWhole polls P s _ _ _ _ hP hs (by decide) 0xEE
    rwa [Nat.mod_add_mod, Nat.mod_eq_of_lt hi, filled_succ] at hstep
  refine (always_programSetup hP h 0 0 0).bind fun _ s₁ h₁ => ?_
  rw [← filled_zero 256 0xEE m] at h₁
  have hloop : Always (testEnv polls) P (Prog.upTo (fun i => do
      Prog.upTo (fun _ => fillPage (memset 0xEE) 256) 256
      ask (.printf (.wrote i))) 256) s₁ fun _ s' =>
        Stands (.accepting ((256 * 256) % 65536) 0 fun _ => 0) (filled 256 (256 * 256) 0xEE m) s' := by
    refine .upTo (I := fun i s => Stands (.accepting ((256 * i) % 65536) 0 fun _ => 0) (filled 256 (256 * i) 0xEE m) s)
      h₁ 256 fun i s hi hs => ?_
    have hblock := Always.upTo (I := fun j s => Stands (.accepting ((256 * i + j) % 65536) 0 fun _ => 0)
      (filled 256 (256 * i + j) 0xEE m) s) hs 256 fun j s hj => hpages i j s (by omega)
    refine hblock.bind fun _ s₂ h₂ => .call ?_ ?_
    · intro e he
      rw [List.mem_singleton.1 he]
      exact hprinted i
    · rintro _ s₃ ⟨⟩
      exact h₂
  refine hloop.bind fun _ s₂ h₂ => ?_
  exact (always_programExecute hP h₂).mono fun _ _ h₃ => h₃.session True.intro

/-- The check fails at the first byte of the first page. -/
theorem always_checkAllPages_fails (hP : Allows P) (h : Session m s) (hfirst : m 0 ≠ 0xEE)
    (hfailed : ∀ d : Device, d.store.dataStore = m → P (.failed (expected "0xEE") d)) :
    Always (testEnv polls) P checkAllPages s fun _ _ => False := by
  refine (always_readSetup hP h 0 0 0).bind fun _ s₁ h₁ => .upTo_stuck ?_ 255
  refine Always.bind (Q := fun _ _ => False) (.upTo_stuck ?_ 255) fun _ _ hstuck => hstuck.elim
  refine (always_readExecute hP h₁).bind fun _ s₂ h₂ => ?_
  exact always_expectData_fails hP h₂ hfirst hfailed

end Tests

/-! ## The length of the tests -/

section Lengths

open Prog

variable (command : UInt32) (block page byte value : UInt8) (data : Nat → UInt8) (n : Nat) (text : String)

-- the answer's type is left out of the index, since it depends on the request
instance (o : TraceeOp) : @Bounded _ _ (no_index o.Res) (ask o) := ⟨1, .call o⟩

instance {ι : Type} (w : ι → UInt64) : BoundedAll fun i => ask (.store (w i)) := ⟨1, fun _ => .call _⟩

instance {ι : Type} (line : ι → Line) : BoundedAll fun i => ask (.printf (line i)) := ⟨1, fun _ => .call _⟩

instance {ι : Type} (p : ι → Prop) [∀ i, Decidable (p i)] : BoundedAll fun i => assert (p i) text where
  bound := 1
  within i := by
    unfold assert
    split_ifs
    · exact .pure 1 ()
    · have habort : (ask (.abort text)).Within 1 := .call _
      exact habort.bind (b := 0) fun e => e.elim

instance : Bounded (setup command block page byte) := by delta setup; infer_instance
instance : Bounded (sendData data n) := by delta sendData; infer_instance
instance : Bounded (execute command) := by delta execute; infer_instance
instance : Bounded (fillPage data n) := by delta fillPage; infer_instance
instance : Bounded (writePage block page byte data n) := by delta writePage; infer_instance
instance : Bounded (readPage block page byte) := by delta readPage; infer_instance
instance : Bounded (eraseSetup block) := by delta eraseSetup; infer_instance
instance : Bounded (expectData n value text) := by delta expectData; infer_instance
instance : Bounded (checkPage block page value text) := by delta checkPage; infer_instance
instance : Bounded wrPageTest := by delta wrPageTest; infer_instance
instance : Bounded eraseBlockTest := by delta eraseBlockTest; infer_instance
instance : Bounded wrLessThanPageTest := by delta wrLessThanPageTest; infer_instance
instance : Bounded writeTwoPagesTest := by delta writeTwoPagesTest; infer_instance
instance : Bounded writeLastTwoPagesTest := by delta writeLastTwoPagesTest; infer_instance
instance : Bounded writeAndReadTwoPagesTest := by delta writeAndReadTwoPagesTest; infer_instance
instance : Bounded (eraseBlocks block page) := by delta eraseBlocks; infer_instance
instance : Bounded eraseTwoBlocksTest := by delta eraseTwoBlocksTest; infer_instance
instance : Bounded eraseLastTwoBlocksTest := by delta eraseLastTwoBlocksTest; infer_instance
instance : Bounded overwritePageTest := by delta overwritePageTest; infer_instance
instance : Bounded resetTest := by delta resetTest; infer_instance
instance : Bounded setStatusPinTest := by delta setStatusPinTest; infer_instance
instance : Bounded getResetPinTest := by delta getResetPinTest; infer_instance
instance : Bounded eraseAllBlocksTest := by delta eraseAllBlocksTest; infer_instance
instance : Bounded writeAllPages := by delta writeAllPages; infer_instance
instance : Bounded checkAllPages := by delta checkAllPages; infer_instance
instance : Bounded testerMain := by delta testerMain; infer_instance
instance : Bounded writeAndReadAllPagesTest := by delta writeAndReadAllPagesTest; infer_instance

end Lengths

/-! ## Whole runs -/

theorem session_boot (d : Device) (ioregisters : UInt64) {clock : Clock} (hclock : ClockOk clock) :
    Session (fun _ => 0) (boot d ioregisters clock) :=
  ⟨.idle, trivial, ⟨0, represents_init d⟩, hclock, fun _ => decide_eq_false (Nat.not_lt_zero _)⟩

/-- Whatever is stored before, no access of the unit tests is rejected and no assertion of theirs fails, however
long their waits are. Where the clock advances by the longest operation within the polls of a wait, the tests
return 0, with all of the storage erased. -/
theorem testerMain_passes {m : Nat → UInt8} {s : Sys} (h : Session m s) :
    (∀ polls, ∀ e ∈ (run (testEnv polls) testerMain s).1, e.Fine) ∧
      ∀ k, Ticks k (21523 * (k + 2)) s.clock → ∃ s',
        (run (testEnv (k + 1)) testerMain s).2 = some (0, s') ∧ ∀ a < deviceSize, s'.device.store.dataStore a = 0 := by
  have hP : Allows Happening.Fine := ⟨fun _ hbug => hbug, fun _ => trivial⟩
  have hfine (polls : Nat) := (@always_testerMain polls _ _ _ hP h).events
  refine ⟨hfine, fun k hticks => ?_⟩
  obtain ⟨⟨result, s'⟩, hrun⟩ :=
    Option.isSome_iff_exists.1 (returns_of_fine (Prog.within_of_bounded (by decide)) h.punctual hticks (hfine (k + 1)))
  obtain ⟨rfl, m', ⟨mode, -, ⟨t, hrep⟩, -, -⟩, hblank⟩ := (always_testerMain hP h).result result s' hrun
  exact ⟨s', hrun, fun a ha => hrep.storage ▸ hblank a ha⟩

theorem tickingClock_ticks {n : Nat} (hn : n ≤ 10 ^ 9) : Ticks 2 n tickingClock := by
  have h (i : Nat) : (tickingClock i).toNat = 1000 * min i (10 ^ 12) := by
    unfold tickingClock
    rw [Nat.toUInt64_eq, UInt64.toNat_ofNat']
    omega
  intro i hi
  rw [h, h]
  omega

/-- The tests on a device that has been initialized, with three polls a wait. -/
theorem testerMain_passes_boot : ∃ s',
    (run (testEnv 3) testerMain (boot blankDevice 0 tickingClock)).2 = some (0, s') ∧
      ∀ a < deviceSize, s'.device.store.dataStore a = 0 :=
  (testerMain_passes (session_boot blankDevice 0 tickingClock_ok)).2 2 (tickingClock_ticks (by decide))

/-- No access is rejected and no block is checked. An assertion that fails expects 0xEE, where all pages hold it
but the first, which is blank. -/
def Happening.FirstBlank : Happening → Prop
  | .access (.ok r) => r.device.machineState ≠ .bug
  | .access (.error _) => False
  | .waited _ => True
  | .printed line => ∃ block, line = .wrote block
  | .failed text d => text = expected "0xEE" ∧ ∀ a < deviceSize, d.store.dataStore a = if a < 256 then 0 else 0xEE

theorem Happening.FirstBlank.fine {e : Happening} (h : e.FirstBlank) (hfailed : ∀ d, e ≠ .failed (expected "0xEE") d) :
    e.Fine := by
  cases e with
  | access outcome =>
    cases outcome with
    | ok r => exact h
    | error x => exact h
  | waited returned => trivial
  | printed line => trivial
  | failed text d => exact hfailed d (h.1 ▸ rfl)

/-- `write_and_read_all_pages_test()` cannot pass. It writes every page, and one EXECUTE too many makes the first
page blank again: no run returns, and none reports a block as checked. Where the clock advances by the longest
operation within the polls of a wait, an assertion fails. -/
theorem writeAndReadAllPagesTest_fails {m : Nat → UInt8} {s : Sys} (h : Session m s) :
    (∀ polls, (run (testEnv polls) writeAndReadAllPagesTest s).2 = none ∧
      ∀ e ∈ (run (testEnv polls) writeAndReadAllPagesTest s).1, e.FirstBlank) ∧
      ∀ k, Ticks k (50594314 * (k + 2)) s.clock →
        ∃ d, .failed (expected "0xEE") d ∈ (run (testEnv (k + 1)) writeAndReadAllPagesTest s).1 := by
  have hP : Allows Happening.FirstBlank := ⟨fun _ hbug => hbug, fun _ => trivial⟩
  have hfirst : setSegment 256 0 (fun _ => 0) (filled 256 65536 0xEE m) 0 ≠ 0xEE := by
    show (0 : UInt8) ≠ 0xEE
    decide
  have hruns (polls : Nat) :
      Always (testEnv polls) Happening.FirstBlank writeAndReadAllPagesTest s fun _ _ => False := by
    refine (always_writeAllPages hP (fun block => ⟨block, rfl⟩) h).bind fun _ s₁ h₁ => ?_
    refine always_checkAllPages_fails hP h₁ hfirst fun d hd => ⟨rfl, fun a ha => ?_⟩
    rw [deviceSize_eq] at ha
    rw [hd]
    unfold setSegment filled
    by_cases hpage : a < 256
    · rw [if_pos (by omega), if_pos hpage]
    · rw [if_neg (by omega), if_pos (by omega), if_neg hpage]
  have hnone (polls : Nat) : (run (testEnv polls) writeAndReadAllPagesTest s).2 = none :=
    Option.eq_none_iff_forall_not_mem.2 fun x hx => (hruns polls).result x.1 x.2 hx
  refine ⟨fun polls => ⟨hnone polls, (hruns polls).events⟩, fun k hticks => ?_⟩
  by_contra hfailed
  have hsome : (run (testEnv (k + 1)) writeAndReadAllPagesTest s).2.isSome := by
    refine returns_of_fine (Prog.within_of_bounded (by decide)) h.punctual hticks fun e he => ?_
    refine ((hruns (k + 1)).events e he).fine ?_
    rintro d rfl
    exact hfailed ⟨d, he⟩
  rw [hnone] at hsome
  cases hsome

/-- The test on a device that has been initialized, with three polls a wait. -/
theorem writeAndReadAllPagesTest_fails_boot : ∃ d,
    .failed (expected "0xEE") d ∈ (run (testEnv 3) writeAndReadAllPagesTest (boot blankDevice 0 tickingClock)).1 :=
  (writeAndReadAllPagesTest_fails (session_boot blankDevice 0 tickingClock_ok)).2 2 (tickingClock_ticks (by decide))

end NandRig.TestDevice
