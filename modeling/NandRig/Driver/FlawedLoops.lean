/-
Three flawed drivers behind the framework. The read loop of alpha_5 and the loop of foxtrot_2 over an
operation need not end: each is a driver here for every number of rounds that are run. foxtrot_1 processes
five instructions of an operation.
-/
import NandRig.Driver.FlawedFoxtrot
import NandRig.Driver.FlawedReads

namespace NandRig.Driver

open Emulator Framework Interact Interpreter

/-- The result of a loop that has ended. One that goes on has none. -/
def ended {σ ρ : Type} : σ ⊕ ρ → DriverM ρ
  | .inl _ => outside
  | .inr r => pure r

/-- The answers of a machine on which no wait times out. -/
def NoTimeout : (o : Op) → o.Res → Prop
  | .wait _, result => result = 0
  | _, _ => True

theorem outside_ensures {α : Type} (A : (o : Op) → o.Res → Prop) (Q : α → Prop) : outside.Ensures A Q :=
  fun e => nomatch e

/-! ## alpha_5 -/

namespace Alpha5

/-- `nand_read()`, where its loop ends within `n` rounds. -/
def readBuffer (n : Nat) (buffer : Buffer) (pos : Nat) (length : UInt32) : DriverM Buffer :=
  nandRead n buffer pos length >>= ended

def jumpTable (n : Nat) : NandJumpTable := { Alpha0.jumpTable with readBuffer := readBuffer n }

def getDriver (n : Nat) : NandDriver := .jumpTable (jumpTable n)

/-- Of a page, 32 rounds read the bytes, and one ends the loop. -/
theorem readBuffer_eq {n : Nat} (hn : 33 ≤ n) (buffer : Buffer) (pos : Nat) {length : UInt32}
    (hlen : length.toNat ≤ 256) (height : length.toNat % 8 = 0) :
    readBuffer n buffer pos length = Alpha0.nandRead buffer pos length := by
  obtain ⟨k, rfl⟩ : ∃ k, n = length.toNat / 8 + 1 + k := ⟨n - (length.toNat / 8 + 1), by omega⟩
  have hread := alpha5_nandRead_eq buffer pos (by omega) (Nat.dvd_of_mod_eq_zero height)
  unfold nandRead at hread
  rw [readBuffer, nandRead, rounds_add, hread, alpha0_nandRead_eq]
  simp only [bind_assoc, pure_bind, Sum.elim_inr, ended, bind_pure]

/-- The counter steps over a length that eight does not divide. -/
theorem readBuffer_never (A : (o : Op) → o.Res → Prop) (n : Nat) (buffer : Buffer) (pos : Nat) {length : UInt32}
    (height : length.toNat % 8 ≠ 0) : (readBuffer n buffer pos length).Ensures A fun _ => False := by
  have h0 : (0 : UInt32).toNat % 8 = 0 := rfl
  have hloop : (nandRead n buffer pos length).Ensures A
      (Sum.elim (fun s : UInt32 × Buffer => s.1.toNat % 8 = 0) fun _ => False) := by
    refine Prog.Ensures.rounds (fun s hs => ?_) n (0, buffer) h0
    have hne : s.1 ≠ length := fun he => height (he ▸ hs)
    rw [nandReadRound, if_pos hne]
    refine (Prog.Ensures.trivial A _).bind fun b _ => ?_
    have h8 : (8 : UInt32).toNat = 8 := rfl
    show (s.1 + 8).toNat % 8 = 0
    rw [UInt32.toNat_add, h8]
    omega
  refine hloop.bind ?_
  rintro (s | b) hx
  · exact outside_ensures A _
  · exact hx

end Alpha5

/-- A transfer of `left` bytes from the byte `byteAddr` of a page on takes whole eights of bytes from each page. -/
def EightsOfPages (left byteAddr : Nat) : Prop := left % 8 = 0 ∧ (byteAddr % 8 = 0 ∨ byteAddr + left ≤ 256)

theorem jtReadLoop_alpha5 {n : Nat} (hn : 33 ≤ n) (buffer : Buffer) (bytesLeft cursor : UInt32) (byteAddr : UInt8)
    (heights : EightsOfPages bytesLeft.toNat byteAddr.toNat) :
    jtReadLoop (Alpha5.jumpTable n) buffer bytesLeft cursor byteAddr =
      jtReadLoop Alpha0.jumpTable buffer bytesLeft cursor byteAddr := by
  induction buffer, bytesLeft, cursor, byteAddr using jtReadLoop.induct with
  | case1 buffer cursor byteAddr => rw [jtReadLoop, jtReadLoop, dif_pos rfl, dif_pos rfl]
  | case2 buffer bytesLeft cursor byteAddr hne ih =>
    unfold EightsOfPages at heights ih
    have hread := sizeInPage_toNat bytesLeft byteAddr
    have hrest := sub_sizeInPage_toNat bytesLeft byteAddr
    have hb := byteAddr.toNat_lt
    have h0 := UInt8.toNat_zero
    rw [jtReadLoop, dif_neg hne]
    conv_rhs => rw [jtReadLoop, dif_neg hne]
    generalize sizeInPage bytesLeft byteAddr = sizeToRead at hread hrest ih ⊢
    dsimp only at ih ⊢
    have hpage : (Alpha5.jumpTable n).readBuffer buffer cursor.toNat sizeToRead = _ :=
      Alpha5.readBuffer_eq hn buffer cursor.toNat (by omega) (by omega)
    rw [hpage]
    refine congrArg _ (funext fun _ => congrArg _ (funext fun result => ?_))
    refine ite_congr rfl (fun _ => rfl) fun _ => congrArg _ (funext fun b => ih b (by omega))

theorem jtReadLoop_alpha5_never (n : Nat) (buffer : Buffer) (bytesLeft cursor : UInt32) (byteAddr : UInt8)
    (heights : ¬ EightsOfPages bytesLeft.toNat byteAddr.toNat) :
    (jtReadLoop (Alpha5.jumpTable n) buffer bytesLeft cursor byteAddr).Ensures NoTimeout fun _ => False := by
  induction buffer, bytesLeft, cursor, byteAddr using jtReadLoop.induct with
  | case1 buffer cursor byteAddr =>
    have hb := byteAddr.toNat_lt
    exact absurd ⟨rfl, .inr (Nat.le_of_lt hb)⟩ heights
  | case2 buffer bytesLeft cursor byteAddr hne ih =>
    unfold EightsOfPages at heights ih
    have hread := sizeInPage_toNat bytesLeft byteAddr
    have hrest := sub_sizeInPage_toNat bytesLeft byteAddr
    have hb := byteAddr.toNat_lt
    have h0 := UInt8.toNat_zero
    rw [jtReadLoop, dif_neg hne]
    generalize sizeInPage bytesLeft byteAddr = sizeToRead at hread hrest ih ⊢
    refine fun _ _ => fun (result : Int) (hresult : result = 0) => ?_
    dsimp only at ih ⊢
    change Prog.Ensures NoTimeout _ (if result ≠ 0 then _ else _)
    rw [if_neg (not_not.2 hresult)]
    -- the loop of this page does not end, or that of a later one
    by_cases height : sizeToRead.toNat % 8 = 0
    · exact (Prog.Ensures.trivial NoTimeout _).bind fun b _ => ih b (by omega)
    · exact (Alpha5.readBuffer_never NoTimeout n buffer cursor.toNat height).bind fun _ hfalse => hfalse.elim

/-- A read through alpha_5 is one through alpha_0 where it takes whole eights of bytes from each page. -/
theorem readNand_alpha5 {n : Nat} (hn : 33 ≤ n) (buffer : Buffer) {offset size : UInt32}
    (heights : EightsOfPages size.toNat (offset.toNat % 256)) :
    readNand (Alpha5.getDriver n) buffer offset size = readNand Alpha0.getDriver buffer offset size := by
  have hloop := jtReadLoop_alpha5 hn buffer size 0 (offset % numBytes).toUInt8 (by rwa [byteAddr_toNat])
  show jtRead (Alpha5.jumpTable n) buffer offset size = jtRead Alpha0.jumpTable buffer offset size
  unfold jtRead
  dsimp only
  rw [hloop]
  rfl

/-- And elsewhere it does not return, unless a wait times out. -/
theorem readNand_alpha5_never (n : Nat) (buffer : Buffer) {offset size : UInt32}
    (heights : ¬ EightsOfPages size.toNat (offset.toNat % 256)) :
    (readNand (Alpha5.getDriver n) buffer offset size).Ensures NoTimeout fun _ => False :=
  fun _ _ => fun _ _ => fun _ _ => fun _ _ =>
    jtReadLoop_alpha5_never n buffer size 0 (offset % numBytes).toUInt8 (by rwa [byteAddr_toNat])

/-! ## The operations of the framework -/

/-- The addresses of all instructions built fit into the arrays. -/
theorem addressesFit_pageInstrs {page : (len : UInt32) → (buf : Nat) → List NandOpInstr}
    (hpage : ∀ len buf, ∀ instr ∈ page len buf, AddressesFit instr) (sizeRemaining : UInt32) (available : Room)
    (cursor : UInt32) : ∀ instr ∈ pageInstrs page sizeRemaining available cursor, AddressesFit instr := by
  induction sizeRemaining, available, cursor using pageInstrs.induct with
  | case1 sizeRemaining available cursor h ih =>
    rw [pageInstrs, dif_pos h]
    intro instr hinstr
    rcases List.mem_append.1 hinstr with hfirst | hrest
    · exact hpage _ _ instr hfirst
    · exact ih instr hrest
  | case2 sizeRemaining available cursor h =>
    rw [pageInstrs, dif_neg h]
    exact List.forall_mem_nil _

theorem addressesFit_appended {page : (len : UInt32) → (buf : Nat) → List NandOpInstr}
    (hpage : ∀ len buf, ∀ instr ∈ page len buf, AddressesFit instr) (setup offset size : UInt32) :
    ∀ instr ∈ appended setup page offset size, AddressesFit instr := by
  refine List.forall_mem_cons.2 ⟨trivial, List.forall_mem_cons.2 ⟨le_rfl, ?_⟩⟩
  exact addressesFit_pageInstrs hpage size (firstRoom offset) 0

theorem addressesFit_writePage (len : UInt32) (buf : Nat) : ∀ instr ∈ writePage len buf, AddressesFit instr := by
  simp [writePage, AddressesFit]

theorem addressesFit_readPage (len : UInt32) (buf : Nat) : ∀ instr ∈ readPage len buf, AddressesFit instr := by
  simp [readPage, AddressesFit]

theorem addressesFit_eraseInstrs (offset : UInt32) (k : Nat) : ∀ instr ∈ eraseInstrs offset k, AddressesFit instr := by
  have hblocks : ∀ instr ∈ blockInstrs k, AddressesFit instr := by
    induction k with
    | zero => exact List.forall_mem_nil _
    | succ k ih =>
      rw [blockInstrs_succ]
      exact List.forall_mem_cons.2 ⟨trivial, List.forall_mem_cons.2 ⟨trivial, ih⟩⟩
  exact List.forall_mem_cons.2 ⟨trivial, List.forall_mem_cons.2 ⟨Nat.le_of_ble_eq_true rfl, hblocks⟩⟩

theorem Instr.ofOp_known (instr : NandOpInstr) : (Instr.ofOp instr).Known := by
  cases instr <;> trivial

/-! ## foxtrot_2 -/

namespace Foxtrot2

/-- `exec_op()` on an operation of the framework, where its loop ends within `n` rounds. -/
def onInstrs (n : Nat) (buffer : Buffer) (instrs : List NandOpInstr) : DriverM (Buffer × Int) :=
  if h : (instrs.map Instr.ofOp).length < 2 ^ 32 then execOp n buffer ⟨instrs.map .ofOp, h⟩ >>= ended
  else outside

def getDriver (n : Nat) : NandDriver := .execOp (onInstrs n)

/-- On up to seven instructions, foxtrot_2 is the program that foxtrot_0 is. -/
theorem onInstrs_eq {n : Nat} (hn : 8 ≤ n) (buffer : Buffer) {instrs : List NandOpInstr}
    (hfit : ∀ instr ∈ instrs, AddressesFit instr) (hlen : instrs.length < 8) :
    onInstrs n buffer instrs = Foxtrot0.execOp buffer instrs := by
  have hmap : (instrs.map Instr.ofOp).length = instrs.length := List.length_map ..
  rw [onInstrs, dif_pos (by omega), execOp_eq hn buffer (by dsimp only; omega), bind_assoc]
  simp only [pure_bind, ended, bind_pure]
  exact execOp_ofOp hfit (by omega) buffer

/-- A known instruction is passed, unless it is a wait that times out. -/
theorem execInstr_ensures (buffer : Buffer) {instr : Instr} (h : instr.Known) :
    (execInstr buffer instr).Ensures NoTimeout fun x => x.2 = none := by
  cases instr with
  | cmd opcode => exact fun _ _ => rfl
  | addr naddrs addrs => exact (Prog.Ensures.trivial NoTimeout _).bind fun _ _ => rfl
  | dataIn len buf => exact (Prog.Ensures.trivial NoTimeout _).bind fun _ _ => rfl
  | dataOut len buf => exact (Prog.Ensures.trivial NoTimeout _).bind fun _ _ => rfl
  | waitrdy timeoutMs => exact fun (result : Int) (hresult : result = 0) => if_neg (not_not.2 hresult)
  | unknown type => exact h.elim

/-- From eight instructions on, the index starts again before it reaches their number. -/
theorem onInstrs_never (n : Nat) (buffer : Buffer) {instrs : List NandOpInstr} (hlen : 8 ≤ instrs.length) :
    (onInstrs n buffer instrs).Ensures NoTimeout fun _ => False := by
  unfold onInstrs
  split_ifs with hfits
  · have h0 : (0 : UInt32).toNat < 8 := by decide
    have hloop : (execOp n buffer ⟨instrs.map .ofOp, hfits⟩).Ensures NoTimeout
        (Sum.elim (fun s : UInt32 × Buffer => s.1.toNat < 8) fun _ => False) := by
      refine Prog.Ensures.rounds (fun s hs => ?_) n (0, buffer) h0
      have hi : s.1.toNat < (instrs.map Instr.ofOp).length := by
        rw [List.length_map]
        omega
      have hknown : ((instrs.map Instr.ofOp).get ⟨s.1.toNat, hi⟩).Known := by
        rw [List.get_eq_getElem, List.getElem_map]
        exact Instr.ofOp_known _
      rw [execOpRound, dif_pos (NandOperation.lt_ninstrs_iff.2 hi)]
      refine (execInstr_ensures s.2 hknown).bind fun x hx => ?_
      obtain ⟨buffer', returned⟩ := x
      obtain rfl : returned = none := hx
      exact succ_mod_eight_lt s.1
    refine hloop.bind ?_
    rintro (s | x) hx
    · exact outside_ensures NoTimeout _
    · exact hx
  · exact outside_ensures NoTimeout _

end Foxtrot2

/-! ## foxtrot_1 -/

namespace Foxtrot1

/-- `exec_op()` on an operation of the framework. -/
def onInstrs (buffer : Buffer) (instrs : List NandOpInstr) : DriverM (Buffer × Int) :=
  if h : (instrs.map Instr.ofOp).length < 2 ^ 32 then execOp buffer ⟨instrs.map .ofOp, h⟩ else outside

def getDriver : NandDriver := .execOp onInstrs

/-- From five instructions on, foxtrot_1 does what foxtrot_0 does with the first five. -/
theorem onInstrs_eq (buffer : Buffer) {instrs : List NandOpInstr} (hfit : ∀ instr ∈ instrs, AddressesFit instr)
    (hlen : 5 ≤ instrs.length) (hmax : instrs.length < 2 ^ 32) :
    onInstrs buffer instrs = Foxtrot0.execOp buffer (instrs.take 5) := by
  have hmap : (instrs.map Instr.ofOp).length = instrs.length := List.length_map ..
  have htake : ((instrs.take 5).map Instr.ofOp).length = 5 := by
    rw [List.length_map, List.length_take, Nat.min_eq_left hlen]
  have hfive : execOp buffer ⟨instrs.map .ofOp, by omega⟩ = execOp buffer ⟨(instrs.take 5).map .ofOp, by omega⟩ := by
    unfold execOp
    rw [dif_pos (by dsimp only; omega), dif_pos (by dsimp only; omega)]
    simp only [List.map_take, List.take_take, Nat.min_self]
  have hlast : (instrs.take 5).length ≤ 2 ^ 31 := by
    rw [List.length_take]
    omega
  rw [onInstrs, dif_pos (by omega), hfive, execOp_eq htake]
  exact execOp_ofOp (fun instr h => hfit instr (List.mem_of_mem_take h)) hlast buffer

end Foxtrot1

end NandRig.Driver
