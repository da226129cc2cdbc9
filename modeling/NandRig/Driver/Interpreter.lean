/-
The interpreter of foxtrot_0 (`exec_op()` of `driver/foxtrot/foxtrot_0.c`) with the array, the
loop counters and the instruction types that the C code has, and the prefix of an operation that
it processes.
-/
import NandRig.Framework.Agreement

namespace NandRig.Driver.Interpreter

open Emulator Framework Interact Foxtrot0

/-! ## Operations (`framework/framework.h`) -/

/-- `struct nand_op_instr`. Its type may also be a number that `enum nand_op_instr_type` does not name. -/
inductive Instr
  | cmd (opcode : UInt8)
  | addr (naddrs : UInt32) (addrs : Vector UInt8 3)
  | dataIn (len : UInt32) (buf : Nat)
  | dataOut (len : UInt32) (buf : Nat)
  | waitrdy (timeoutMs : UInt32)
  | unknown (type : UInt32)
  deriving DecidableEq, Repr

/-- `struct nand_operation`, with as many cells in its array as it says. -/
structure NandOperation where
  instrs : List Instr
  fits : instrs.length < 2 ^ 32

def NandOperation.ninstrs (op : NandOperation) : UInt32 := op.instrs.length.toUInt32

theorem NandOperation.ninstrs_toNat (op : NandOperation) : op.ninstrs.toNat = op.instrs.length :=
  (UInt32.toNat_ofNat' ..).trans (Nat.mod_eq_of_lt op.fits)

theorem NandOperation.lt_ninstrs_iff {op : NandOperation} {i : UInt32} :
    i < op.ninstrs ↔ i.toNat < op.instrs.length := by
  rw [UInt32.lt_iff_toNat_lt, op.ninstrs_toNat]

/-! ## The interpreter -/

/-- An access outside an array. -/
def outside {α : Type} : DriverM α := do
  let e ← ask .abort
  nomatch e

/-- The loop over the addresses of an address instruction, from `j` on. -/
def setAddressesFrom (j naddrs : UInt32) (addrs : Vector UInt8 3) : DriverM Unit :=
  if h : j < naddrs then
    if hj : j.toNat < 3 then do
      nandSetRegister ioregAddress.toUInt32 addrs[j.toNat]
      setAddressesFrom (j + 1) naddrs addrs
    else outside
  else pure ()
termination_by naddrs.toNat - j.toNat
decreasing_by exact sub_succ_toNat_lt h

/-- The `switch` of `exec_op()`: the memory behind the buffers, and the value that it returns unless
it breaks. -/
def execInstr (buffer : Buffer) : Instr → DriverM (Buffer × Option Int)
  | .cmd opcode => do
    nandSetRegister ioregCommand.toUInt32 opcode
    pure (buffer, none)
  | .addr naddrs addrs => do
    setAddressesFrom 0 naddrs addrs
    pure (buffer, none)
  | .dataIn len buf => do
    nandProgram buffer buf len
    pure (buffer, none)
  | .dataOut len buf => do
    let buffer ← nandRead buffer buf len
    pure (buffer, none)
  | .waitrdy timeoutMs => do
    let result ← nandWait timeoutMs
    pure (buffer, if result ≠ 0 then some (-1) else none)
  | .unknown _ => pure (buffer, some (-1))

/-- The loop of `exec_op()`, from `i` on. The counter is an `int`, of which `i` has the bits: it is
compared as an `unsigned int`, and from `2 ^ 31` on `instrs[i]` lies before the array. -/
def execOpFrom (i : UInt32) (buffer : Buffer) (op : NandOperation) : DriverM (Buffer × Int) :=
  if h : i < op.ninstrs then
    if i.toNat < 2 ^ 31 then do
      let (buffer, returned) ← execInstr buffer
        (op.instrs.get ⟨i.toNat, NandOperation.lt_ninstrs_iff.1 h⟩)
      match returned with
      | some result => pure (buffer, result)
      | none => execOpFrom (i + 1) buffer op
    else outside
  else pure (buffer, 0)
termination_by op.ninstrs.toNat - i.toNat
decreasing_by exact sub_succ_toNat_lt h

def execOp (buffer : Buffer) (op : NandOperation) : DriverM (Buffer × Int) := execOpFrom 0 buffer op

/-! ## What an instruction asks for -/

/-- All transfers so far and the memory behind the buffers. -/
structure State where
  log : List Transfer
  memory : Buffer

/-- The bytes of `n` loads behind the transfers `log`. -/
def loads (oracle : Oracle) (log : List Transfer) : Nat → List UInt8
  | 0 => []
  | n + 1 => oracle.load log :: loads oracle (log ++ [.loaded (oracle.load log)]) n

/-- The memory with `bytes` from `pos` on. -/
def filled (memory : Buffer) (pos : Nat) (bytes : List UInt8) : Buffer := fun i =>
  if pos ≤ i then bytes[i - pos]?.getD (memory i) else memory i

/-- The register writes, data transfers and waits of one instruction. -/
def transfers (oracle : Oracle) (s : State) : Instr → List Transfer
  | .cmd opcode => [.stored ioregCommand opcode]
  | .addr naddrs addrs => (addrs.toList.take naddrs.toNat).map (.stored ioregAddress)
  | .dataIn len buf => (List.range len.toNat).map fun i => .stored ioregData (s.memory (buf + i))
  | .dataOut len _ => (loads oracle s.log len.toNat).map .loaded
  | .waitrdy timeoutMs => [.waited timeoutMs (oracle.wait s.log timeoutMs)]
  | .unknown _ => []

def memory (oracle : Oracle) (s : State) : Instr → Buffer
  | .dataOut len buf => filled s.memory buf (loads oracle s.log len.toNat)
  | _ => s.memory

def next (oracle : Oracle) (s : State) (instr : Instr) : State :=
  ⟨s.log ++ transfers oracle s instr, memory oracle s instr⟩

/-- The state behind the instructions `done`: their transfers one after the other. -/
def behind (oracle : Oracle) (buffer : Buffer) (done : List Instr) : State :=
  done.foldl (next oracle) ⟨[], buffer⟩

/-- An instruction that `exec_op()` goes on from: a known one, and no wait that times out. -/
def Passes (oracle : Oracle) (s : State) : Instr → Prop
  | .waitrdy timeoutMs => oracle.wait s.log timeoutMs = 0
  | .unknown _ => False
  | _ => True

instance (oracle : Oracle) (s : State) : DecidablePred (Passes oracle s)
  | .waitrdy timeoutMs => inferInstanceAs (Decidable (oracle.wait s.log timeoutMs = 0))
  | .unknown _ => .isFalse id
  | .cmd _ | .addr _ _ | .dataIn _ _ | .dataOut _ _ => .isTrue trivial

/-- All of `done` are known, and no wait among them times out. -/
def Passed (oracle : Oracle) (buffer : Buffer) (done : List Instr) : Prop :=
  ∀ init instr tail, done = init ++ instr :: tail → Passes oracle (behind oracle buffer init) instr

/-- The prefix `done` of an operation that is to be processed ends with the first wait that times out,
just before the first unknown instruction, or with the last instruction. -/
inductive Ends (oracle : Oracle) (buffer : Buffer) (instrs : List Instr) : (done : List Instr) → Prop
  | timeout {init rest : List Instr} {timeoutMs : UInt32} (split : instrs = init ++ .waitrdy timeoutMs :: rest)
    (passed : Passed oracle buffer init) (late : oracle.wait (behind oracle buffer init).log timeoutMs ≠ 0) :
    Ends oracle buffer instrs (init ++ [.waitrdy timeoutMs])
  | unknown {done rest : List Instr} {type : UInt32} (split : instrs = done ++ .unknown type :: rest)
    (passed : Passed oracle buffer done) : Ends oracle buffer instrs done
  | last (passed : Passed oracle buffer instrs) : Ends oracle buffer instrs instrs

/-- No wait of `instrs` times out. -/
def AllReady (oracle : Oracle) (buffer : Buffer) (instrs : List Instr) : Prop :=
  ∀ init timeoutMs tail, instrs = init ++ .waitrdy timeoutMs :: tail →
    oracle.wait (behind oracle buffer init).log timeoutMs = 0

/-- 0 if all instructions were processed and no wait timed out, and -1 otherwise. -/
def Reports (oracle : Oracle) (buffer : Buffer) (instrs done : List Instr) (result : Int) : Prop :=
  (result = 0 ↔ done = instrs ∧ AllReady oracle buffer instrs) ∧ (result ≠ 0 → result = -1)

/-- The right prefix has been processed, and reported: its transfers, and no others, and its memory. -/
def ProcessesPrefix (oracle : Oracle) (buffer : Buffer) (instrs : List Instr)
    (performed : List Transfer × Option (Buffer × Int)) : Prop :=
  ∃ done result, Ends oracle buffer instrs done ∧ Reports oracle buffer instrs done result ∧
    performed = ((behind oracle buffer done).log, some ((behind oracle buffer done).memory, result))

/-- There is an instruction behind the first `2 ^ 31`, and these are all passed. -/
def Overruns (oracle : Oracle) (buffer : Buffer) (instrs : List Instr) : Prop :=
  2 ^ 31 < instrs.length ∧ Passed oracle buffer (instrs.take (2 ^ 31))

/-! ## One instruction -/

section Run

variable {oracle : Oracle} {h : List Transfer}

/-- A run that leaves the transfers `l` behind `h` and returns. -/
def Returns {α : Type} (oracle : Oracle) (p : DriverM α) (h l : List Transfer) (a : α) : Prop :=
  run oracle.env p h = (l, some (a, h ++ l))

theorem Returns.pure {α : Type} (a : α) : Returns oracle (pure a) h [] a := by
  unfold Returns
  rw [List.append_nil]
  rfl

theorem Returns.bind {α β : Type} {p : DriverM α} {f : α → DriverM β} {l l' : List Transfer} {a : α} {b : β}
    (hp : Returns oracle p h l a) (hf : Returns oracle (f a) (h ++ l) l' b) :
    Returns oracle (p >>= f) h (l ++ l') b := by
  unfold Returns at hp hf ⊢
  rw [run_bind_of hp, hf, List.append_assoc]

theorem Returns.map {α β : Type} {p : DriverM α} {l : List Transfer} {a : α} (f : α → β)
    (hp : Returns oracle p h l a) : Returns oracle (p >>= fun a => Pure.pure (f a)) h l (f a) := by
  have := hp.bind (f := fun a => Pure.pure (f a)) (.pure (f a))
  rwa [List.append_nil] at this

theorem returns_store (offset value : UInt8) :
    Returns oracle (ask (.store offset value)) h [.stored offset value] () := rfl

theorem returns_load : Returns oracle (ask .load) h [.loaded (oracle.load h)] (oracle.load h) := rfl

theorem returns_wait (timeoutMs : UInt32) :
    Returns oracle (ask (.wait timeoutMs)) h [.waited timeoutMs (oracle.wait h timeoutMs)]
      (oracle.wait h timeoutMs) := rfl

theorem returns_setAddressesFrom {naddrs : UInt32} (hmax : naddrs ≤ 3) (addrs : Vector UInt8 3) :
    ∀ (j : UInt32) (h : List Transfer), Returns oracle (setAddressesFrom j naddrs addrs) h
      (((addrs.toList.take naddrs.toNat).drop j.toNat).map (.stored ioregAddress)) ()
  | j, h => by
    have hmax' : naddrs.toNat ≤ 3 := UInt32.le_iff_toNat_le.1 hmax
    rw [setAddressesFrom]
    split_ifs with hlt hj
    · have hlt' := UInt32.lt_iff_toNat_lt.1 hlt
      have hdrop : (addrs.toList.take naddrs.toNat).drop j.toNat =
          addrs[j.toNat] :: (addrs.toList.take naddrs.toNat).drop (j + 1).toNat := by
        rw [succ_toNat hlt, List.drop_eq_getElem_cons (by simp; omega)]
        simp
      rw [hdrop]
      exact (returns_store _ _).bind (returns_setAddressesFrom hmax addrs (j + 1) _)
    · have := UInt32.lt_iff_toNat_lt.1 hlt
      omega
    · have hge := UInt32.le_iff_toNat_le.1 (UInt32.not_lt.1 hlt)
      rw [List.drop_eq_nil_of_le (by simp; omega)]
      exact .pure ()
termination_by j => naddrs.toNat - j.toNat
decreasing_by exact sub_succ_toNat_lt hlt

theorem returns_nandProgramFrom (buffer : Buffer) (pos : Nat) (length : UInt32) :
    ∀ (i : UInt32) (h : List Transfer), Returns oracle (nandProgramFrom i buffer pos length) h
      ((List.range' i.toNat (length.toNat - i.toNat)).map fun k => .stored ioregData (buffer (pos + k))) ()
  | i, h => by
    rw [nandProgramFrom]
    split_ifs with hlt
    · have hlt' := UInt32.lt_iff_toNat_lt.1 hlt
      have hn : length.toNat - i.toNat = length.toNat - (i + 1).toNat + 1 := by rw [succ_toNat hlt]; omega
      rw [hn, List.range'_succ, ← succ_toNat hlt]
      exact (returns_store _ _).bind (returns_nandProgramFrom buffer pos length (i + 1) _)
    · have hge := UInt32.le_iff_toNat_le.1 (UInt32.not_lt.1 hlt)
      rw [Nat.sub_eq_zero_of_le hge]
      exact .pure ()
termination_by i => length.toNat - i.toNat
decreasing_by exact sub_succ_toNat_lt hlt

theorem filled_nil (memory : Buffer) (pos : Nat) : filled memory pos [] = memory := by
  funext i
  unfold filled
  simp

theorem filled_update (memory : Buffer) (pos : Nat) (byte : UInt8) (bytes : List UInt8) :
    filled (Function.update memory pos byte) (pos + 1) bytes = filled memory pos (byte :: bytes) := by
  funext i
  unfold filled
  rcases Nat.lt_trichotomy i pos with hi | rfl | hi
  · rw [if_neg (by omega), if_neg (by omega), Function.update_of_ne hi.ne]
  · rw [if_neg (by omega), if_pos le_rfl, Function.update_self, Nat.sub_self]
    rfl
  · obtain ⟨k, rfl⟩ := Nat.exists_eq_add_of_lt hi
    have hk : pos + k + 1 - pos = k + 1 := by omega
    have hk' : pos + k + 1 - (pos + 1) = k := by omega
    rw [if_pos (by omega), if_pos (by omega), hk, hk', Function.update_of_ne (by omega), List.getElem?_cons_succ]

theorem returns_nandReadFrom (pos : Nat) (length : UInt32) : ∀ (i : UInt32) (buffer : Buffer) (h : List Transfer),
    Returns oracle (nandReadFrom i buffer pos length) h
      ((loads oracle h (length.toNat - i.toNat)).map .loaded)
      (filled buffer (pos + i.toNat) (loads oracle h (length.toNat - i.toNat)))
  | i, buffer, h => by
    rw [nandReadFrom]
    split_ifs with hlt
    · have hlt' := UInt32.lt_iff_toNat_lt.1 hlt
      have hn : length.toNat - i.toNat = length.toNat - (i + 1).toNat + 1 := by rw [succ_toNat hlt]; omega
      rw [hn, loads, ← filled_update, Nat.add_assoc, ← succ_toNat hlt]
      exact returns_load.bind (returns_nandReadFrom pos length (i + 1) _ _)
    · have hge := UInt32.le_iff_toNat_le.1 (UInt32.not_lt.1 hlt)
      rw [Nat.sub_eq_zero_of_le hge, loads, filled_nil]
      exact .pure buffer
termination_by i => length.toNat - i.toNat
decreasing_by exact sub_succ_toNat_lt hlt

/-- An address instruction names at most the addresses that it holds. -/
def Instr.Fits : Instr → Prop
  | .addr naddrs _ => naddrs ≤ 3
  | _ => True

theorem returns_execInstr (oracle : Oracle) (s : State) : ∀ {instr : Instr}, instr.Fits →
    Returns oracle (execInstr s.memory instr) s.log (transfers oracle s instr)
      (memory oracle s instr, if Passes oracle s instr then none else some (-1))
  | .cmd opcode, _ => (returns_store _ _).map _
  | .addr naddrs addrs, hfits => (returns_setAddressesFrom hfits addrs 0 _).map _
  | .dataIn len buf, _ => by
    have hrange : List.range len.toNat = List.range' (0 : UInt32).toNat (len.toNat - (0 : UInt32).toNat) :=
      List.range_eq_range'
    rw [transfers, hrange]
    exact (returns_nandProgramFrom s.memory buf len 0 _).map _
  | .dataOut len buf, _ => (returns_nandReadFrom buf len 0 s.memory _).map _
  | .waitrdy timeoutMs, _ => by
    have hwait : Returns oracle (ask (.wait timeoutMs)) s.log _ _ := returns_wait timeoutMs
    have hr := hwait.map fun result => (s.memory, if result ≠ 0 then some (-1 : Int) else none)
    rw [ite_not] at hr
    exact hr
  | .unknown type, _ => .pure _

end Run

/-! ## The prefix -/

section Prefix

variable {oracle : Oracle} {buffer : Buffer} {instrs done : List Instr} {instr : Instr}

theorem behind_concat : behind oracle buffer (done ++ [instr]) = next oracle (behind oracle buffer done) instr :=
  List.foldl_concat ..

theorem Passed.nil : Passed oracle buffer [] := by
  intro init instr tail hsplit
  simp at hsplit

theorem Passed.concat (hdone : Passed oracle buffer done)
    (hinstr : Passes oracle (behind oracle buffer done) instr) : Passed oracle buffer (done ++ [instr]) := by
  intro init x tail hsplit
  rcases List.eq_nil_or_concat tail with rfl | ⟨tail, y, rfl⟩
  · obtain ⟨rfl, hx⟩ := List.append_inj' hsplit rfl
    cases hx
    exact hinstr
  · rw [List.concat_eq_append, ← List.cons_append, ← List.append_assoc] at hsplit
    exact hdone init x tail (List.append_inj_left' hsplit rfl)

theorem Passed.allReady (h : Passed oracle buffer instrs) : AllReady oracle buffer instrs :=
  fun init timeoutMs tail hsplit => h init (.waitrdy timeoutMs) tail hsplit

theorem reports_last (h : Passed oracle buffer instrs) : Reports oracle buffer instrs instrs 0 :=
  ⟨iff_of_true rfl ⟨rfl, h.allReady⟩, fun h0 => absurd rfl h0⟩

/-- The prefix that ends at an instruction that is not passed. -/
theorem ends_of_not_passes {rest : List Instr} (hsplit : instrs = done ++ instr :: rest)
    (hdone : Passed oracle buffer done) (hinstr : ¬ Passes oracle (behind oracle buffer done) instr) :
    ∃ done', Ends oracle buffer instrs done' ∧ Reports oracle buffer instrs done' (-1) ∧
      behind oracle buffer done' = next oracle (behind oracle buffer done) instr := by
  cases instr with
  | waitrdy timeoutMs =>
    refine ⟨done ++ [.waitrdy timeoutMs], .timeout hsplit hdone hinstr, ⟨?_, fun _ => rfl⟩, behind_concat⟩
    exact iff_of_false (by decide) fun h => hinstr (h.2 done timeoutMs rest hsplit)
  | unknown type =>
    refine ⟨done, .unknown hsplit hdone, ⟨?_, fun _ => rfl⟩, ?_⟩
    · refine iff_of_false (by decide) fun h => ?_
      rw [← h.1] at hsplit
      simp at hsplit
    · unfold next transfers memory
      rw [List.append_nil]
  | cmd | addr | dataIn | dataOut => exact absurd trivial hinstr

variable {op : NandOperation}

/-- One turn of the loop, at an instruction that it can read. -/
theorem execOpFrom_turn (oracle : Oracle) {i : UInt32} (hi : i.toNat < op.instrs.length) (hint : i.toNat < 2 ^ 31)
    (s : State) (hfits : op.instrs[i.toNat].Fits) :
    run oracle.env (execOpFrom i s.memory op) s.log =
      if Passes oracle s op.instrs[i.toNat] then
        let s' := next oracle s op.instrs[i.toNat]
        (transfers oracle s op.instrs[i.toNat] ++ (run oracle.env (execOpFrom (i + 1) s'.memory op) s'.log).1,
          (run oracle.env (execOpFrom (i + 1) s'.memory op) s'.log).2)
      else
        (transfers oracle s op.instrs[i.toNat],
          some ((memory oracle s op.instrs[i.toNat], -1), s.log ++ transfers oracle s op.instrs[i.toNat])) := by
  have hlt : i < op.ninstrs := NandOperation.lt_ninstrs_iff.2 hi
  have hinstr := returns_execInstr oracle s hfits
  rw [execOpFrom, dif_pos hlt, if_pos hint]
  refine (run_bind_of hinstr).trans ?_
  split_ifs with hpass
  · rfl
  · rw [run_pure, List.append_nil]

theorem run_outside {h : List Transfer} {α : Type} : run oracle.env (outside : DriverM α) h = ([], none) := rfl

/-- The instructions before the counter, one turn on. -/
theorem take_succ {i : UInt32} (hi : i.toNat < op.instrs.length) :
    op.instrs.take (i + 1).toNat = op.instrs.take i.toNat ++ [op.instrs[i.toNat]] := by
  rw [succ_toNat (NandOperation.lt_ninstrs_iff.2 hi), List.take_append_getElem hi]

theorem take_split {α : Type} {l : List α} {i n : Nat} (hi : i < l.length) (hn : i < n) :
    l.take n = l.take i ++ l[i] :: (l.take n).drop (i + 1) := by
  have hi' : i < (l.take n).length := by rw [List.length_take]; omega
  have htake : (l.take n).take i = l.take i := by rw [List.take_take, Nat.min_eq_left hn.le]
  have hget : (l.take n)[i] = l[i] := List.getElem_take
  rw [← htake, ← hget, ← List.drop_eq_getElem_cons hi', List.take_append_drop]

/-- Behind `2 ^ 31` passed instructions the loop reads outside the array. -/
theorem execOpFrom_overruns (hfits : ∀ instr ∈ op.instrs, instr.Fits) (hover : Overruns oracle buffer op.instrs) :
    ∀ (i : UInt32), i.toNat ≤ 2 ^ 31 → ∀ s, s = behind oracle buffer (op.instrs.take i.toNat) →
      (run oracle.env (execOpFrom i s.memory op) s.log).2 = none
  | i, hint, s, hs => by
    have hlen := hover.1
    have hi : i.toNat < op.instrs.length := by omega
    have hlt : i < op.ninstrs := NandOperation.lt_ninstrs_iff.2 hi
    by_cases hint' : i.toNat < 2 ^ 31
    · have hpass : Passes oracle s op.instrs[i.toNat] := by
        rw [hs]
        exact hover.2 _ _ _ (take_split hi hint')
      rw [execOpFrom_turn oracle hi hint' s (hfits _ (List.getElem_mem hi)), if_pos hpass]
      refine execOpFrom_overruns hfits hover (i + 1) ?_ _ ?_
      · rw [succ_toNat hlt]; omega
      · rw [take_succ hi, behind_concat, hs]
    · rw [execOpFrom, dif_pos hlt, if_neg hint', run_outside]
termination_by i => op.ninstrs.toNat - i.toNat
decreasing_by exact sub_succ_toNat_lt hlt

/-- From the state `s`, the loop does what is left of the right prefix, and reports it. -/
def Completes (oracle : Oracle) (buffer : Buffer) (op : NandOperation) (i : UInt32) (s : State) : Prop :=
  ∃ done l result, Ends oracle buffer op.instrs done ∧ Reports oracle buffer op.instrs done result ∧
    s.log ++ l = (behind oracle buffer done).log ∧
    Returns oracle (execOpFrom i s.memory op) s.log l ((behind oracle buffer done).memory, result)

variable {i : UInt32} {s : State}

theorem completes_of_end (hi : ¬ i.toNat < op.instrs.length) (hpassed : Passed oracle buffer op.instrs) :
    Completes oracle buffer op i (behind oracle buffer op.instrs) := by
  have hend : ¬ i < op.ninstrs := fun hlt => hi (NandOperation.lt_ninstrs_iff.1 hlt)
  refine ⟨op.instrs, [], 0, .last hpassed, reports_last hpassed, List.append_nil _, ?_⟩
  rw [execOpFrom, dif_neg hend]
  exact .pure _

theorem completes_of_stop (hi : i.toNat < op.instrs.length) (hint : i.toNat < 2 ^ 31)
    (hfits : op.instrs[i.toNat].Fits) (hpassed : Passed oracle buffer (op.instrs.take i.toNat))
    (hs : s = behind oracle buffer (op.instrs.take i.toNat)) (hstop : ¬ Passes oracle s op.instrs[i.toNat]) :
    Completes oracle buffer op i s := by
  have hturn := execOpFrom_turn oracle hi hint s hfits
  rw [if_neg hstop] at hturn
  have hsplit : op.instrs = op.instrs.take i.toNat ++ op.instrs[i.toNat] :: op.instrs.drop (i.toNat + 1) := by
    rw [← List.drop_eq_getElem_cons hi, List.take_append_drop]
  obtain ⟨done, hends, hreports, hbehind⟩ := ends_of_not_passes hsplit hpassed (hs ▸ hstop)
  refine ⟨done, transfers oracle s op.instrs[i.toNat], -1, hends, hreports, ?_, ?_⟩
  · rw [hbehind, hs]
    rfl
  · rw [hbehind, ← hs]
    exact hturn

theorem completes_of_pass (hi : i.toNat < op.instrs.length) (hint : i.toNat < 2 ^ 31)
    (hfits : op.instrs[i.toNat].Fits) (hpass : Passes oracle s op.instrs[i.toNat])
    (h : Completes oracle buffer op (i + 1) (next oracle s op.instrs[i.toNat])) :
    Completes oracle buffer op i s := by
  have hturn := execOpFrom_turn oracle hi hint s hfits
  rw [if_pos hpass] at hturn
  obtain ⟨done, l, result, hends, hreports, hlog, hrun⟩ := h
  refine ⟨done, transfers oracle s op.instrs[i.toNat] ++ l, result, hends, hreports, ?_, ?_⟩
  · rw [← hlog, ← List.append_assoc]
    rfl
  · unfold Returns at hrun ⊢
    rw [hturn]
    dsimp only
    rw [hrun, ← List.append_assoc]
    rfl

/-- From behind passed instructions, the loop processes the rest of the prefix. -/
theorem execOpFrom_completes (hfits : ∀ instr ∈ op.instrs, instr.Fits)
    (hover : ¬ Overruns oracle buffer op.instrs) :
    ∀ (i : UInt32), i.toNat ≤ 2 ^ 31 → Passed oracle buffer (op.instrs.take i.toNat) →
      ∀ s, s = behind oracle buffer (op.instrs.take i.toNat) → Completes oracle buffer op i s
  | i, hint, hpassed, s, hs => by
    by_cases hi : i.toNat < op.instrs.length
    · have hlt : i < op.ninstrs := NandOperation.lt_ninstrs_iff.2 hi
      have hint' : i.toNat < 2 ^ 31 := by
        refine lt_of_le_of_ne hint fun he => hover ⟨he ▸ hi, ?_⟩
        rwa [← he]
      have hfit := hfits _ (List.getElem_mem hi)
      by_cases hpass : Passes oracle s op.instrs[i.toNat]
      · refine completes_of_pass hi hint' hfit hpass (execOpFrom_completes hfits hover (i + 1) ?_ ?_ _ ?_)
        · rw [succ_toNat hlt]; omega
        · rw [take_succ hi]
          exact hpassed.concat (hs ▸ hpass)
        · rw [take_succ hi, behind_concat, hs]
      · exact completes_of_stop hi hint' hfit hpassed hs hpass
    · have hall : op.instrs.take i.toNat = op.instrs := List.take_of_length_le (Nat.not_lt.1 hi)
      rw [hall] at hpassed hs
      rw [hs]
      exact completes_of_end hi hpassed
termination_by i => op.ninstrs.toNat - i.toNat
decreasing_by exact sub_succ_toNat_lt hlt

end Prefix

/-! ## The interpreter over a list -/

/-- An instruction of the framework, its addresses at the head of the array. -/
def Instr.ofOp : NandOpInstr → Instr
  | .cmd opcode => .cmd opcode
  | .addr addrs => .addr addrs.length.toUInt32 #v[addrs.getD 0 0, addrs.getD 1 0, addrs.getD 2 0]
  | .dataIn len buf => .dataIn len buf
  | .dataOut len buf => .dataOut len buf
  | .waitrdy timeoutMs => .waitrdy timeoutMs

theorem setAddressesFrom_ofOp {addrs : List UInt8} (hmax : addrs.length ≤ 3) :
    setAddressesFrom 0 addrs.length.toUInt32 #v[addrs.getD 0 0, addrs.getD 1 0, addrs.getD 2 0] =
      setAddresses addrs := by
  match addrs, hmax with
  | [], _ => simp [setAddressesFrom, setAddresses]
  | [a], _ => simp [setAddressesFrom, setAddresses]
  | [a, b], _ => simp [setAddressesFrom, setAddresses]
  | [a, b, c], _ => simp [setAddressesFrom, setAddresses]

/-- Its addresses fit into the array. -/
def AddressesFit : NandOpInstr → Prop
  | .addr addrs => addrs.length ≤ 3
  | _ => True

/-- One instruction and the rest of the list. -/
theorem execInstr_ofOp (buffer : Buffer) {instr : NandOpInstr} (hfit : AddressesFit instr)
    (instrs : List NandOpInstr) :
    (execInstr buffer (.ofOp instr) >>= fun (buffer, returned) =>
      match returned with
      | some result => pure (buffer, result)
      | none => Foxtrot0.execOp buffer instrs) = Foxtrot0.execOp buffer (instr :: instrs) := by
  cases instr with
  | cmd opcode => rfl
  | addr addrs =>
    rw [Instr.ofOp, execInstr, setAddressesFrom_ofOp hfit, bind_assoc]
    rfl
  | dataIn len buf =>
    rw [Instr.ofOp, execInstr, bind_assoc]
    rfl
  | dataOut len buf =>
    rw [Instr.ofOp, execInstr, bind_assoc]
    rfl
  | waitrdy timeoutMs =>
    rw [Instr.ofOp, execInstr, bind_assoc, Foxtrot0.execOp]
    congr 1
    funext result
    rw [pure_bind]
    dsimp only
    split_ifs <;> rfl

theorem execOpFrom_ofOp {instrs : List NandOpInstr} (hfit : ∀ instr ∈ instrs, AddressesFit instr)
    (hlen : instrs.length ≤ 2 ^ 31) {op : NandOperation} (hop : op.instrs = instrs.map .ofOp) :
    ∀ (i : UInt32) (buffer : Buffer), execOpFrom i buffer op = Foxtrot0.execOp buffer (instrs.drop i.toNat)
  | i, buffer => by
    have hn : op.instrs.length = instrs.length := by rw [hop, List.length_map]
    rw [execOpFrom]
    split_ifs with hlt hint
    · have hi : i.toNat < instrs.length := hn ▸ NandOperation.lt_ninstrs_iff.1 hlt
      have hget : op.instrs.get ⟨i.toNat, NandOperation.lt_ninstrs_iff.1 hlt⟩ = .ofOp instrs[i.toNat] := by
        simp [hop]
      rw [List.drop_eq_getElem_cons hi, ← execInstr_ofOp buffer (hfit _ (List.getElem_mem hi)), hget]
      congr 1
      funext ⟨buffer', returned⟩
      cases returned with
      | some result => rfl
      | none =>
        dsimp only
        rw [execOpFrom_ofOp hfit hlen hop (i + 1) buffer', succ_toNat hlt]
    · have := NandOperation.lt_ninstrs_iff.1 hlt
      omega
    · have hge : instrs.length ≤ i.toNat := hn ▸ Nat.not_lt.1 fun hi => hlt (NandOperation.lt_ninstrs_iff.2 hi)
      rw [List.drop_eq_nil_of_le hge]
      rfl
termination_by i => op.ninstrs.toNat - i.toNat
decreasing_by exact sub_succ_toNat_lt hlt

/-- Over an operation of at most `2 ^ 31` instructions, the loop is the recursion over their list. -/
theorem execOp_ofOp {instrs : List NandOpInstr} (hfit : ∀ instr ∈ instrs, AddressesFit instr)
    (hlen : instrs.length ≤ 2 ^ 31) (buffer : Buffer) :
    execOp buffer ⟨instrs.map .ofOp, by rw [List.length_map]; omega⟩ = Foxtrot0.execOp buffer instrs :=
  execOpFrom_ofOp hfit hlen rfl 0 buffer

/-! ## The whole operation -/

theorem performs_execOp_overruns {oracle : Oracle} {buffer : Buffer} {op : NandOperation}
    (hfits : ∀ instr ∈ op.instrs, instr.Fits) (hover : Overruns oracle buffer op.instrs) :
    (performs oracle (execOp buffer op)).2 = none := by
  have hnone := execOpFrom_overruns hfits hover 0 (Nat.zero_le _) ⟨[], buffer⟩ rfl
  unfold performs execOp
  dsimp only at hnone ⊢
  rw [hnone]
  rfl

/-- For every operation and under every oracle, `exec_op()` processes the right prefix and reports it,
except where it goes on behind `2 ^ 31` instructions. -/
theorem execOp_processes_prefix_iff (oracle : Oracle) (buffer : Buffer) (op : NandOperation)
    (hfits : ∀ instr ∈ op.instrs, instr.Fits) :
    ProcessesPrefix oracle buffer op.instrs (performs oracle (execOp buffer op)) ↔
      ¬ Overruns oracle buffer op.instrs := by
  constructor
  · rintro ⟨done, result, -, -, hperforms⟩ hover
    have hnone := performs_execOp_overruns hfits hover
    rw [hperforms] at hnone
    cases hnone
  · intro hover
    obtain ⟨done, l, result, hends, hreports, hlog, hrun⟩ := execOpFrom_completes hfits hover 0 (Nat.zero_le _)
      .nil ⟨[], buffer⟩ rfl
    refine ⟨done, result, hends, hreports, ?_⟩
    unfold Returns at hrun
    unfold performs execOp
    dsimp only at hlog hrun
    rw [hrun, ← hlog]
    rfl

/-- A page is set up, a wait is passed, and the operation ends at an instruction of type 9. -/
theorem execOp_processes_prefix_iff_unknown :
    ProcessesPrefix ⟨fun _ => 0, fun _ _ => 0⟩ (fun _ => 0)
        [.cmd 1, .addr 3 #v[4, 2, 0], .dataIn 2 0, .waitrdy 225, .unknown 9, .cmd 2]
        (performs ⟨fun _ => 0, fun _ _ => 0⟩ (execOp (fun _ => 0)
          ⟨[.cmd 1, .addr 3 #v[4, 2, 0], .dataIn 2 0, .waitrdy 225, .unknown 9, .cmd 2], by decide⟩)) :=
  (execOp_processes_prefix_iff _ _ ⟨[.cmd 1, .addr 3 #v[4, 2, 0], .dataIn 2 0, .waitrdy 225, .unknown 9, .cmd 2],
    by decide⟩ (by simp [Instr.Fits])).2 fun hover => absurd hover.1 (by decide)

/-- An operation of `2 ^ 31 + 1` command instructions. -/
def commands : NandOperation where
  instrs := List.replicate (2 ^ 31 + 1) (.cmd 0)
  fits := by rw [List.length_replicate]; decide

theorem commands_overruns (oracle : Oracle) (buffer : Buffer) : Overruns oracle buffer commands.instrs := by
  have hcmd : ∀ instr ∈ commands.instrs, instr = .cmd 0 := fun instr h => List.eq_of_mem_replicate h
  constructor
  · unfold commands
    rw [List.length_replicate]
    exact Nat.lt_succ_self _
  · intro init instr tail hsplit
    have hmem : instr ∈ commands.instrs.take (2 ^ 31) := by rw [hsplit]; simp
    rw [hcmd instr (List.mem_of_mem_take hmem)]
    trivial

/-- It is not processed to its end: the counter becomes negative, and the array is left. -/
theorem execOp_leaves_array :
    ¬ ProcessesPrefix ⟨fun _ => 0, fun _ _ => 0⟩ (fun _ => 0) commands.instrs
      (performs ⟨fun _ => 0, fun _ _ => 0⟩ (execOp (fun _ => 0) commands)) := by
  rintro ⟨done, result, -, -, hperforms⟩
  have hcmd : ∀ instr ∈ commands.instrs, instr.Fits := fun instr h => by
    rw [List.eq_of_mem_replicate h]
    trivial
  have hnone := performs_execOp_overruns hcmd (commands_overruns ⟨fun _ => 0, fun _ _ => 0⟩ fun _ => 0)
  rw [hperforms] at hnone
  cases hnone

end NandRig.Driver.Interpreter
