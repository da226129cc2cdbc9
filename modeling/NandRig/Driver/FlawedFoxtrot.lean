/-
Two flawed interpreters: foxtrot_1 copies an operation into an array of five instructions
(`driver/foxtrot/foxtrot_1.c`), and foxtrot_2 counts its instructions modulo eight
(`driver/foxtrot/foxtrot_2.c`). Their register, wait and transfer functions and the `switch` of
`exec_op()` are those of foxtrot_0.
-/
import NandRig.Driver.Interpreter
import NandRig.Lib.Rounds

namespace NandRig.Driver

open Emulator Framework Interact Interpreter

/-! ## foxtrot_1 -/

namespace Foxtrot1

abbrev instructionSize : UInt32 := 5

/-- The loop of `exec_op()`, from `i` on. -/
def execOpFrom (i : UInt32) (buffer : Buffer) (instructions : Vector Instr 5) : DriverM (Buffer × Int) :=
  if h : i < instructionSize then do
    let (buffer, returned) ← execInstr buffer (instructions.get ⟨i.toNat, UInt32.lt_iff_toNat_lt.1 h⟩)
    match returned with
    | some result => pure (buffer, result)
    | none => execOpFrom (i + 1) buffer instructions
  else pure (buffer, 0)
termination_by instructionSize.toNat - i.toNat
decreasing_by exact sub_succ_toNat_lt h

/-- The copy takes five instructions, however many there are. -/
def execOp (buffer : Buffer) (op : NandOperation) : DriverM (Buffer × Int) :=
  if h : 5 ≤ op.instrs.length then
    execOpFrom 0 buffer ⟨(op.instrs.take 5).toArray, by rw [List.size_toArray, List.length_take, Nat.min_eq_left h]⟩
  else outside

end Foxtrot1

/-! ## foxtrot_2 -/

namespace Foxtrot2

/-- One test of the loop condition of `exec_op()` and the round behind it, on the index and the memory. -/
def execOpRound (op : NandOperation) (s : UInt32 × Buffer) : DriverM ((UInt32 × Buffer) ⊕ (Buffer × Int)) :=
  if h : s.1 < op.ninstrs then do
    let (buffer, returned) ← execInstr s.2 (op.instrs.get ⟨s.1.toNat, NandOperation.lt_ninstrs_iff.1 h⟩)
    match returned with
    | some result => pure (.inr (buffer, result))
    | none => pure (.inl ((s.1 + 1) % 8, buffer))
  else pure (.inr (s.2, 0))

/-- The first `n` rounds of `exec_op()`. -/
def execOp (n : Nat) (buffer : Buffer) (op : NandOperation) : DriverM ((UInt32 × Buffer) ⊕ (Buffer × Int)) :=
  rounds (execOpRound op) n (0, buffer)

end Foxtrot2

/-! ## Agreement with foxtrot_0 -/

/-- Of a type that `enum nand_op_instr_type` names. -/
def Interpreter.Instr.Known : Instr → Prop
  | .unknown _ => False
  | _ => True

instance : DecidablePred Instr.Known
  | .unknown _ => .isFalse id
  | .cmd _ | .addr _ _ | .dataIn _ _ | .dataOut _ _ | .waitrdy _ => .isTrue trivial

/-- foxtrot_2 returns 0 in the end, having asked what foxtrot_0 asks of the machine. -/
def Foxtrot2.Matches (oracle : Oracle) (buffer : Buffer) (op : NandOperation) : Prop :=
  ∃ n log memory, performs oracle (Foxtrot2.execOp n buffer op) = (log, some (.inr (memory, 0))) ∧
    performs oracle (Interpreter.execOp buffer op) = (log, some (memory, 0))

/-- foxtrot_1 reads no instruction beyond the operation, asks what foxtrot_0 asks of the machine and returns
the same. -/
def Foxtrot1.Matches (oracle : Oracle) (buffer : Buffer) (op : NandOperation) : Prop :=
  ∃ log memory result, performs oracle (Foxtrot1.execOp buffer op) = (log, some (memory, result)) ∧
    performs oracle (Interpreter.execOp buffer op) = (log, some (memory, result))

/-! ## Short operations under foxtrot_0 -/

section Short

variable {oracle : Oracle} {buffer : Buffer} {op : NandOperation}

theorem not_overruns (hmax : op.instrs.length ≤ 8) : ¬ Overruns oracle buffer op.instrs := by
  rintro ⟨hlen, -⟩
  omega

theorem Passes.known {s : State} : ∀ {instr : Instr}, Passes oracle s instr → instr.Known
  | .cmd _, _ | .addr _ _, _ | .dataIn _ _, _ | .dataOut _ _, _ | .waitrdy _, _ => trivial

/-- Where its waits succeed, an operation is processed to its end exactly if all its instructions are known. -/
theorem Interpreter.Ends.eq_instrs_iff {done : List Instr} (h : Ends oracle buffer op.instrs done)
    (hready : AllReady oracle buffer op.instrs) : done = op.instrs ↔ ∀ instr ∈ op.instrs, instr.Known := by
  cases h with
  | timeout split passed late => exact absurd (hready _ _ _ split) late
  | @unknown _ _ type split passed =>
    refine iff_of_false (fun hdone => ?_) fun hknown => hknown (.unknown type) (by simp [split])
    rw [hdone] at split
    simp at split
  | last passed =>
    refine iff_of_true rfl fun instr hmem => ?_
    obtain ⟨init, tail, split⟩ := List.append_of_mem hmem
    exact Passes.known (passed init instr tail split)

/-- What foxtrot_0 does with a short operation. -/
theorem performs_execOp (hfits : ∀ instr ∈ op.instrs, instr.Fits) (hmax : op.instrs.length ≤ 8)
    (hready : AllReady oracle buffer op.instrs) :
    ∃ log memory result, performs oracle (Interpreter.execOp buffer op) = (log, some (memory, result)) ∧
      (result = 0 ↔ ∀ instr ∈ op.instrs, instr.Known) := by
  obtain ⟨done, l, result, hends, ⟨hzero, -⟩, hlog, hrun⟩ :=
    execOpFrom_completes hfits (not_overruns hmax) 0 (Nat.zero_le _) .nil ⟨[], buffer⟩ rfl
  refine ⟨l, (behind oracle buffer done).memory, result, ?_, ?_⟩
  · unfold Returns at hrun
    unfold performs Interpreter.execOp
    dsimp only at hrun
    rw [hrun]
    rfl
  · rw [hzero, and_iff_left hready]
    exact hends.eq_instrs_iff hready

end Short

/-! ## Five instructions -/

section Five

variable {buffer : Buffer} {op : NandOperation}

theorem Foxtrot1.execOpFrom_eq (hlen : op.instrs.length = 5) (instructions : Vector Instr 5)
    (hcopy : ∀ i, (hi : i < 5) → instructions.get ⟨i, hi⟩ = op.instrs[i]) :
    ∀ (i : UInt32) (buffer : Buffer), Foxtrot1.execOpFrom i buffer instructions = Interpreter.execOpFrom i buffer op
  | i, buffer => by
    have hlt_iff : i < instructionSize ↔ i < op.ninstrs := by
      rw [NandOperation.lt_ninstrs_iff, hlen, UInt32.lt_iff_toNat_lt]
      rfl
    rw [Foxtrot1.execOpFrom, Interpreter.execOpFrom]
    by_cases hlt : i < instructionSize
    · have hi : i.toNat < 5 := UInt32.lt_iff_toNat_lt.1 hlt
      rw [dif_pos hlt, dif_pos (hlt_iff.1 hlt), if_pos (by omega), hcopy i.toNat hi]
      congr 1
      funext x
      obtain ⟨buffer', returned⟩ := x
      cases returned with
      | some result => rfl
      | none => exact execOpFrom_eq hlen instructions hcopy (i + 1) buffer'
    · rw [dif_neg hlt, dif_neg fun h => hlt (hlt_iff.2 h)]
termination_by i => instructionSize.toNat - i.toNat
decreasing_by exact sub_succ_toNat_lt hlt

/-- On an operation of five instructions, foxtrot_1 is the program that foxtrot_0 is. -/
theorem Foxtrot1.execOp_eq (hlen : op.instrs.length = 5) :
    Foxtrot1.execOp buffer op = Interpreter.execOp buffer op := by
  unfold Foxtrot1.execOp Interpreter.execOp
  rw [dif_pos hlen.ge]
  apply Foxtrot1.execOpFrom_eq hlen
  intro i hi
  simp [Vector.get]

theorem Foxtrot1.matches_iff {oracle : Oracle} (hfits : ∀ instr ∈ op.instrs, instr.Fits)
    (hready : AllReady oracle buffer op.instrs) (hmax : op.instrs.length ≤ 5) :
    Foxtrot1.Matches oracle buffer op ↔ op.instrs.length = 5 := by
  constructor
  · rintro ⟨log, memory, result, hperforms, -⟩
    by_contra hlen
    have hrun : performs oracle (Foxtrot1.execOp buffer op) = ([], none) := by
      unfold performs Foxtrot1.execOp
      rw [dif_neg (by omega), run_outside]
      rfl
    rw [hrun] at hperforms
    cases hperforms
  · intro hlen
    obtain ⟨log, memory, result, hperforms, -⟩ := performs_execOp hfits (by omega) hready
    exact ⟨log, memory, result, by rw [Foxtrot1.execOp_eq hlen, hperforms], hperforms⟩

end Five

/-! ## Rounds of eight -/

section Rounds

variable {oracle : Oracle} {op : NandOperation} {i : UInt32}

/-- A round at an instruction: it goes on behind an instruction that is passed. -/
theorem Foxtrot2.run_execOpRound (oracle : Oracle) (hi : i.toNat < op.instrs.length) (s : State)
    (hfits : op.instrs[i.toNat].Fits) :
    run oracle.env (Foxtrot2.execOpRound op (i, s.memory)) s.log =
      (transfers oracle s op.instrs[i.toNat],
        some (if Passes oracle s op.instrs[i.toNat] then .inl ((i + 1) % 8, memory oracle s op.instrs[i.toNat])
          else .inr (memory oracle s op.instrs[i.toNat], -1), s.log ++ transfers oracle s op.instrs[i.toNat])) := by
  have hinstr := returns_execInstr oracle s hfits
  rw [Foxtrot2.execOpRound, dif_pos (NandOperation.lt_ninstrs_iff.2 hi)]
  refine (run_bind_of hinstr).trans ?_
  split_ifs with hpass <;> rw [run_pure, List.append_nil]

theorem succ_mod_eight (hi : i.toNat < 7) : (i + 1) % 8 = i + 1 := by
  have h1 := UInt32.toNat_one
  have h8 : (8 : UInt32).toNat = 8 := rfl
  rw [← UInt32.toNat_inj, UInt32.toNat_mod, add_toNat (by omega), h1, h8]
  omega

theorem succ_mod_eight_lt (i : UInt32) : ((i + 1) % 8).toNat < 8 := by
  rw [UInt32.toNat_mod]
  exact Nat.mod_lt _ (by decide)

/-- Up to seven instructions, the index does not wrap. -/
theorem Foxtrot2.rounds_eq (hlen : op.instrs.length < 8) : ∀ (n : Nat) (i : UInt32) (buffer : Buffer),
    i.toNat ≤ op.instrs.length → op.instrs.length < i.toNat + n →
      rounds (Foxtrot2.execOpRound op) n (i, buffer) = Interpreter.execOpFrom i buffer op >>= fun x => pure (.inr x)
  | 0, i, buffer, hle, hn => absurd hn (Nat.not_lt.2 hle)
  | n + 1, i, buffer, hle, hn => by
    rw [rounds, Foxtrot2.execOpRound, Interpreter.execOpFrom]
    dsimp only
    by_cases hlt : i < op.ninstrs
    · have hi := NandOperation.lt_ninstrs_iff.1 hlt
      have hsucc : (i + 1).toNat = i.toNat + 1 := succ_toNat hlt
      rw [dif_pos hlt, dif_pos hlt, if_pos (by omega), bind_assoc, bind_assoc]
      refine congrArg _ (funext fun x => ?_)
      obtain ⟨buffer', returned⟩ := x
      cases returned with
      | some result => rfl
      | none =>
        dsimp only
        rw [pure_bind, succ_mod_eight (by omega)]
        exact Foxtrot2.rounds_eq hlen n (i + 1) buffer' (by omega) (by omega)
    · rw [dif_neg hlt, dif_neg hlt, pure_bind, pure_bind]

/-- On up to seven instructions, foxtrot_2 is the program that foxtrot_0 is. -/
theorem Foxtrot2.execOp_eq {n : Nat} (hn : 8 ≤ n) (buffer : Buffer) (hlen : op.instrs.length < 8) :
    Foxtrot2.execOp n buffer op = Interpreter.execOp buffer op >>= fun x => pure (.inr x) := by
  have h0 := UInt32.toNat_zero
  exact Foxtrot2.rounds_eq hlen n 0 buffer (by omega) (by omega)

/-- Of eight known instructions the index wraps behind the last one, and the loop does not end with 0. -/
theorem Foxtrot2.not_zero (oracle : Oracle) (hfits : ∀ instr ∈ op.instrs, instr.Fits) (hlen : op.instrs.length = 8)
    (n : Nat) (buffer : Buffer) :
    Always oracle.env (fun _ => True) (Foxtrot2.execOp n buffer op) []
      fun x _ => Sum.elim (fun s : UInt32 × Buffer => s.1.toNat < 8) (fun r : Buffer × Int => r.2 ≠ 0) x := by
  refine Always.rounds (I := fun (s : UInt32 × Buffer) _ => s.1.toNat < 8)
    (Q := fun (r : Buffer × Int) _ => r.2 ≠ 0) ?_ n (0, buffer) []
    (by show 0 < 8; omega)
  rintro ⟨i, buffer⟩ h hi8
  have hi : i.toNat < op.instrs.length := by rw [hlen]; exact hi8
  have hround := Foxtrot2.run_execOpRound oracle hi ⟨h, buffer⟩ (hfits _ (List.getElem_mem hi))
  dsimp only at hround
  constructor
  · rintro e -
    trivial
  · intro x h' hx
    rw [hround] at hx
    obtain ⟨rfl, -⟩ := Prod.mk.inj (Option.some.inj hx)
    split_ifs
    · exact succ_mod_eight_lt i
    · show (-1 : Int) ≠ 0
      decide

theorem performs_map {α β : Type} {p : DriverM α} (f : α → β) {l : List Transfer} {a : α}
    (hp : performs oracle p = (l, some a)) : performs oracle (p >>= fun a => pure (f a)) = (l, some (f a)) := by
  unfold performs at hp ⊢
  obtain ⟨hlog, hresult⟩ := Prod.mk.inj hp
  obtain ⟨⟨a', h⟩, hreturns, rfl⟩ := Option.map_eq_some_iff.1 hresult
  rw [run_bind_of (Prod.ext hlog hreturns)]
  simp [run_pure]

theorem Foxtrot2.matches_iff {oracle : Oracle} {buffer : Buffer} (hfits : ∀ instr ∈ op.instrs, instr.Fits)
    (hready : AllReady oracle buffer op.instrs) (hmax : op.instrs.length ≤ 8) :
    Foxtrot2.Matches oracle buffer op ↔ op.instrs.length < 8 ∧ ∀ instr ∈ op.instrs, instr.Known := by
  obtain ⟨log, memory, result, hperforms, hzero⟩ := performs_execOp hfits hmax hready
  constructor
  · rintro ⟨n, log', memory', hrounds, hsame⟩
    rw [hperforms] at hsame
    cases hsame
    refine ⟨?_, hzero.1 rfl⟩
    by_contra hlen
    have hnever := (Foxtrot2.not_zero oracle hfits (le_antisymm hmax (Nat.not_lt.1 hlen)) n buffer).result
    unfold performs at hrounds
    obtain ⟨⟨x, h⟩, hrun, rfl⟩ := Option.map_eq_some_iff.1 (Prod.mk.inj hrounds).2
    exact hnever _ h hrun rfl
  · rintro ⟨hlen, hknown⟩
    obtain rfl : result = 0 := hzero.2 hknown
    refine ⟨8, log, memory, ?_, hperforms⟩
    rw [Foxtrot2.execOp_eq le_rfl buffer hlen]
    exact performs_map Sum.inr hperforms

end Rounds

/-! ## Where the flaws begin -/

/-- Where the waits of an operation succeed, foxtrot_2 does as foxtrot_0 and returns 0 with up to seven instructions,
all known, of up to eight; and foxtrot_1 does as foxtrot_0 with exactly five, of up to five. -/
theorem flawed_interpreters_match_iff (oracle : Oracle) (buffer : Buffer) (op : NandOperation)
    (hfits : ∀ instr ∈ op.instrs, instr.Fits) (hready : AllReady oracle buffer op.instrs) :
    (op.instrs.length ≤ 8 →
      (Foxtrot2.Matches oracle buffer op ↔ op.instrs.length < 8 ∧ ∀ instr ∈ op.instrs, instr.Known)) ∧
    (op.instrs.length ≤ 5 → (Foxtrot1.Matches oracle buffer op ↔ op.instrs.length = 5)) :=
  ⟨Foxtrot2.matches_iff hfits hready, Foxtrot1.matches_iff hfits hready⟩

/-- A page read. -/
def readOnePage : NandOperation where
  instrs := [.cmd cReadSetup.toUInt8, .addr 3 #v[1, 2, 3], .cmd cReadExecute.toUInt8, .waitrdy timeoutReadPageUs,
    .dataOut 253 0]
  fits := by decide

theorem flawed_interpreters_match_readOnePage :
    Foxtrot2.Matches ⟨fun _ => 7, fun _ _ => 0⟩ (fun _ => 0) readOnePage ∧
      Foxtrot1.Matches ⟨fun _ => 7, fun _ _ => 0⟩ (fun _ => 0) readOnePage := by
  have h := flawed_interpreters_match_iff ⟨fun _ => 7, fun _ _ => 0⟩ (fun _ => 0) readOnePage
    (by simp [readOnePage, Instr.Fits]) fun _ _ _ _ => rfl
  exact ⟨(h.1 (by decide)).2 ⟨by decide, by decide⟩, (h.2 (by decide)).2 rfl⟩

/-- Two pages written. -/
def writeTwoPages : NandOperation where
  instrs := [.cmd cProgramSetup.toUInt8, .addr 3 #v[1, 2, 3], .dataIn 253 0, .cmd cProgramExecute.toUInt8,
    .waitrdy timeoutWritePageUs, .dataIn 47 253, .cmd cProgramExecute.toUInt8, .waitrdy timeoutWritePageUs]
  fits := by decide

/-- A block erased. -/
def eraseOneBlock : NandOperation where
  instrs := [.cmd cEraseSetup.toUInt8, .addr 1 #v[1, 0, 0], .cmd cEraseExecute.toUInt8,
    .waitrdy timeoutEraseBlockUs]
  fits := by decide

/-- A write of two pages has eight instructions, which foxtrot_2 starts again; and the erasure of a block has
four, of which foxtrot_1 copies five. -/
theorem flawed_interpreters_differ :
    ¬ (writeTwoPages.instrs.length ≤ 8 → Foxtrot2.Matches ⟨fun _ => 0, fun _ _ => 0⟩ (fun _ => 0) writeTwoPages) ∧
      ¬ (eraseOneBlock.instrs.length ≤ 5 → Foxtrot1.Matches ⟨fun _ => 0, fun _ _ => 0⟩ (fun _ => 0) eraseOneBlock) := by
  constructor
  · intro h
    have hmatches := h (by decide)
    rw [Foxtrot2.matches_iff (by simp [writeTwoPages, Instr.Fits]) (fun _ _ _ _ => rfl) (by decide)] at hmatches
    exact absurd hmatches.1 (by decide)
  · intro h
    have hmatches := h (by decide)
    rw [Foxtrot1.matches_iff (by simp [eraseOneBlock, Instr.Fits]) (fun _ _ _ _ => rfl) (by decide)] at hmatches
    exact absurd hmatches (by decide)

end NandRig.Driver
