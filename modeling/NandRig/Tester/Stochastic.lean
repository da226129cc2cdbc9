/-
The operations of the stochastic test (`tester/st_stochastic.c`): sizes and starts are drawn from the
results of `random()`, and assertions check them on the way.
-/
import NandRig.Tester.Mirror

namespace NandRig.Tester

open Emulator Framework

/-! ## Macros -/

/-- `DEVICE_SIZE`. -/
abbrev deviceBytes : UInt32 := blockSize * numBlocks

abbrev arenaSize : UInt32 := 4 * blockSize
abbrev arenaStart : UInt32 := deviceBytes - arenaSize / 2

abbrev oddsErase : Nat := 1
abbrev oddsWrite : Nat := oddsErase * 2
abbrev oddsRead : Nat := oddsWrite * 2
abbrev modulus : Nat := oddsErase + oddsWrite + oddsRead

def isErase (c : Nat) : Bool := c < oddsErase
def isWrite (c : Nat) : Bool := oddsErase ≤ c && c < oddsErase + oddsWrite

theorem arenaSize_toNat : arenaSize.toNat = 262144 := rfl
theorem arenaStart_toNat : arenaStart.toNat = 16646144 := rfl

/-! ## Draws -/

/-- The results of `random()` still to come, none of them negative. -/
abbrev Results := Nat → Nat

def Results.tail (rs : Results) : Results := fun i => rs (i + 1)

/-- A computation on them, which a failed assertion or a division by zero ends. -/
abbrev Draw := StateT Results Option

def random : Draw Nat := fun rs => some (rs 0, rs.tail)

def stop {α : Type} : Draw α := fun _ => none

def check (p : Prop) [Decidable p] : Draw Unit := if p then pure () else stop

/-! ## The functions -/

def randomSize : Draw UInt32 := do
  let r ← random
  let size := (1 + r % arenaSize.toNat).toUInt32
  check (1 < size)
  check (size ≤ arenaSize)
  pure size

def randomStart (size : UInt32) : Draw UInt32 := do
  let r ← random
  let range := arenaSize - size + 1
  check (range ≠ 0)
  let start := (r % range.toNat).toUInt32
  check (start + size < arenaSize)
  pure (start + arenaStart)

inductive Choice
  | erase | write | read
  deriving DecidableEq, Repr

/-- An operation of `do_test()`. -/
structure FuzzOp where
  choice : Choice
  start : UInt32
  size : UInt32
  deriving DecidableEq, Repr

def drawChoice : Draw Choice := do
  let r ← random
  let choice := r % modulus
  pure (if isErase choice then .erase else if isWrite choice then .write else .read)

/-- What one round of the loop of `do_test()` draws. -/
def drawOp : Draw FuzzOp := do
  let size ← randomSize
  let start ← randomStart size
  let choice ← drawChoice
  pure ⟨choice, start, size⟩

/-- What `n` rounds draw, as long as the operations drawn do not fail. -/
def drawOps : (n : Nat) → Draw (List FuzzOp)
  | 0 => pure []
  | n + 1 => do
    let op ← drawOp
    let ops ← drawOps n
    pure (op :: ops)

/-! ## Legal operations -/

/-- A region of at least one byte, within the arena. -/
structure Legal (start size : UInt32) : Prop where
  size_pos : 1 ≤ size.toNat
  size_le : size.toNat ≤ arenaSize.toNat
  start_le : arenaStart.toNat ≤ start.toNat
  end_le : start.toNat + size.toNat ≤ arenaStart.toNat + arenaSize.toNat

/-- `n` operations are drawn without a failed assertion, all of them legal. -/
def DrawsLegal (n : Nat) (rs : Results) : Prop :=
  ∃ ops rs', drawOps n rs = some (ops, rs') ∧ ops.length = n ∧ ∀ op ∈ ops, Legal op.start op.size

/-- Some results, in the range of `random()`, give this start and size. -/
def Producible (start size : UInt32) : Prop :=
  ∃ rs : Results, (∀ i, rs i < 2 ^ 31) ∧ ∃ op rs', drawOp rs = some (op, rs') ∧ op.start = start ∧ op.size = size

/-- The results neither give the size 1 nor the last start for the size that they give. -/
def Inside (r₁ r₂ : Nat) : Prop :=
  r₁ % 262144 ≠ 0 ∧ r₂ % (262144 - r₁ % 262144) ≠ 262144 - r₁ % 262144 - 1

instance (r₁ r₂ : Nat) : Decidable (Inside r₁ r₂) := inferInstanceAs (Decidable (_ ∧ _))

/-! ## What is drawn -/

theorem bind_run {α β : Type} (p : Draw α) (f : α → Draw β) (rs : Results) :
    (p >>= f) rs = (p rs).bind fun x => f x.1 x.2 := rfl

theorem random_bind {α : Type} (f : Nat → Draw α) (rs : Results) : (random >>= f) rs = f (rs 0) rs.tail := rfl

theorem check_bind {α : Type} {p : Prop} [Decidable p] (f : Unit → Draw α) (rs : Results) :
    (check p >>= f) rs = if p then f () rs else none := by
  unfold check
  split_ifs <;> rfl

theorem toUInt32_toNat {n : Nat} (h : n ≤ 262144) : n.toUInt32.toNat = n := by
  rw [Nat.toUInt32_eq, UInt32.toNat_ofNat']
  omega

theorem sizeDrawn_toNat (r : Nat) : (1 + r % 262144).toUInt32.toNat = 1 + r % 262144 := by
  have hlt : r % 262144 < 262144 := Nat.mod_lt r (by decide)
  exact toUInt32_toNat (by omega)

/-- The size 1 fails the assertion that is to exclude the size 0. -/
theorem randomSize_run (rs : Results) :
    randomSize rs = if rs 0 % 262144 = 0 then none else some ((1 + rs 0 % 262144).toUInt32, rs.tail) := by
  have hsize := sizeDrawn_toNat (rs 0)
  have hlt : rs 0 % 262144 < 262144 := Nat.mod_lt _ (by decide)
  have h1 := UInt32.toNat_one
  unfold randomSize
  rw [random_bind, check_bind, check_bind, arenaSize_toNat]
  split_ifs with hone hmax hzero hzero hzero <;> rw [UInt32.lt_iff_toNat_lt, h1, hsize] at hone
  · omega
  · rfl
  · rw [UInt32.le_iff_toNat_le, arenaSize_toNat, hsize] at hmax
    omega
  · omega

/-- The start whose region ends with the arena fails the assertion that is to exclude those that go past it. -/
theorem randomStart_run {size : UInt32} (hpos : 1 ≤ size.toNat) (hmax : size.toNat ≤ 262144) (rs : Results) :
    randomStart size rs =
      if rs 0 % (262145 - size.toNat) + size.toNat = 262144 then none
      else some ((rs 0 % (262145 - size.toNat)).toUInt32 + arenaStart, rs.tail) := by
  have h1 := UInt32.toNat_one
  have h0 := UInt32.toNat_zero
  have hrange : (arenaSize - size + 1).toNat = 262145 - size.toNat := by
    have hsub : (arenaSize - size).toNat = 262144 - size.toNat :=
      UInt32.toNat_sub_of_le _ _ (UInt32.le_iff_toNat_le.2 hmax)
    rw [add_toNat (by omega), hsub, h1]
    omega
  have hne : arenaSize - size + 1 ≠ 0 := by
    rw [ne_eq, ← UInt32.toNat_inj, hrange, h0]
    omega
  have hlt : rs 0 % (262145 - size.toNat) < 262145 - size.toNat := Nat.mod_lt _ (by omega)
  have hend : ((rs 0 % (262145 - size.toNat)).toUInt32 + size).toNat = rs 0 % (262145 - size.toNat) + size.toNat := by
    rw [add_toNat] <;> rw [toUInt32_toNat (by omega)]
    omega
  unfold randomStart
  rw [random_bind]
  dsimp only
  rw [check_bind, if_pos hne, check_bind, hrange]
  split_ifs with hinside hlast hlast <;> rw [UInt32.lt_iff_toNat_lt, arenaSize_toNat, hend] at hinside
  · omega
  · rfl
  · omega

/-- The size and the start of an operation that is drawn, before the arena is shifted to its place. -/
structure Drawn (r₁ r₂ : Nat) (op : FuzzOp) : Prop where
  size : op.size.toNat = 1 + r₁ % 262144
  start : op.start.toNat = r₂ % (262144 - r₁ % 262144) + 16646144

theorem drawOp_run (rs : Results) :
    (Inside (rs 0) (rs 1) ∧ ∃ op, Drawn (rs 0) (rs 1) op ∧ drawOp rs = some (op, rs.tail.tail.tail)) ∨
      (¬ Inside (rs 0) (rs 1) ∧ drawOp rs = none) := by
  have hmod : rs 0 % 262144 < 262144 := Nat.mod_lt _ (by decide)
  have hsize := sizeDrawn_toNat (rs 0)
  have hrange : 262145 - (1 + rs 0 % 262144) = 262144 - rs 0 % 262144 := by omega
  have hstart : rs 1 % (262144 - rs 0 % 262144) < 262144 - rs 0 % 262144 := Nat.mod_lt _ (by omega)
  unfold drawOp
  rw [bind_run, randomSize_run]
  by_cases hzero : rs 0 % 262144 = 0
  · refine .inr ⟨fun h => h.1 hzero, ?_⟩
    rw [if_pos hzero, Option.bind_none]
  have hrun₂ : randomStart (1 + rs 0 % 262144).toUInt32 rs.tail = _ := randomStart_run (by omega) (by omega) rs.tail
  have htail : rs.tail 0 = rs 1 := rfl
  rw [hsize, hrange, htail] at hrun₂
  rw [if_neg hzero, Option.bind_some, bind_run, hrun₂]
  split_ifs with hlast
  · refine .inr ⟨fun h => h.2 ?_, Option.bind_none _⟩
    omega
  · rw [Option.bind_some]
    refine .inl ⟨⟨hzero, by omega⟩, _, ⟨hsize, ?_⟩, rfl⟩
    have hstart' := toUInt32_toNat (n := rs 1 % (262144 - rs 0 % 262144)) (by omega)
    rw [add_toNat] <;> rw [hstart', arenaStart_toNat]
    omega

theorem Drawn.legal {r₁ r₂ : Nat} {op : FuzzOp} (h : Drawn r₁ r₂ op) : Legal op.start op.size := by
  obtain ⟨hsize, hstart⟩ := h
  have hmod : r₁ % 262144 < 262144 := Nat.mod_lt _ (by decide)
  have hlt : r₂ % (262144 - r₁ % 262144) < 262144 - r₁ % 262144 := Nat.mod_lt _ (by omega)
  have hA := arenaSize_toNat
  have hS := arenaStart_toNat
  constructor <;> omega

/-! ## Sequences of draws -/

theorem drawsLegal_zero (rs : Results) : DrawsLegal 0 rs := by
  refine ⟨[], rs, rfl, rfl, ?_⟩
  simp

theorem drawsLegal_succ {n : Nat} {rs : Results} :
    DrawsLegal (n + 1) rs ↔ Inside (rs 0) (rs 1) ∧ DrawsLegal n rs.tail.tail.tail := by
  have hrun : drawOps (n + 1) rs = (drawOp rs).bind fun x => (drawOps n x.2).bind fun y =>
      some (x.1 :: y.1, y.2) := by
    rw [drawOps, bind_run]
    rfl
  unfold DrawsLegal
  rw [hrun]
  rcases drawOp_run rs with ⟨hinside, op, hdrawn, hop⟩ | ⟨houtside, hop⟩ <;> rw [hop]
  · rw [Option.bind_some]
    constructor
    · rintro ⟨ops, rs', hops, hlen, hlegal⟩
      obtain ⟨⟨ops', rs''⟩, hops', hcons⟩ := Option.bind_eq_some_iff.1 hops
      cases hcons
      exact ⟨hinside, ops', rs'', hops', Nat.succ.inj hlen, fun op h => hlegal op (List.mem_cons_of_mem _ h)⟩
    · rintro ⟨-, ops, rs', hops, hlen, hlegal⟩
      refine ⟨op :: ops, rs', ?_, congrArg (· + 1) hlen, ?_⟩
      · dsimp only
        rw [hops]
        rfl
      · intro op' hop'
        rcases List.mem_cons.1 hop' with rfl | hop'
        · exact hdrawn.legal
        · exact hlegal op' hop'
  · refine iff_of_false ?_ fun h => houtside h.1
    rintro ⟨ops, rs', hops, -⟩
    cases hops

theorem drawsLegal_iff : ∀ (n : Nat) (rs : Results),
    DrawsLegal n rs ↔ ∀ o < n, Inside (rs (3 * o)) (rs (3 * o + 1))
  | 0, rs => iff_of_true (drawsLegal_zero rs) fun o ho => absurd ho (Nat.not_lt_zero o)
  | n + 1, rs => by
    rw [drawsLegal_succ, drawsLegal_iff n]
    constructor
    · rintro ⟨hfirst, hrest⟩ o ho
      cases o with
      | zero => exact hfirst
      | succ o => exact hrest o (by omega)
    · intro h
      exact ⟨h 0 (Nat.succ_pos n), fun o ho => h (o + 1) (by omega)⟩

/-! ## Every operation -/

/-- Results that give an operation of this start and size. -/
def resultsFor (start size : UInt32) : Results
  | 0 => size.toNat - 1
  | _ + 1 => start.toNat - 16646144

theorem producible_of {start size : UInt32} (h : Legal start size) (hone : 1 < size.toNat)
    (hend : start.toNat + size.toNat < 16646144 + 262144) : Producible start size := by
  have hmax : size.toNat ≤ 262144 := h.size_le
  have hstart : 16646144 ≤ start.toNat := h.start_le
  have h0 : resultsFor start size 0 = size.toNat - 1 := rfl
  have h1 : resultsFor start size 1 = start.toNat - 16646144 := rfl
  have hsize : (size.toNat - 1) % 262144 = size.toNat - 1 := Nat.mod_eq_of_lt (by omega)
  have hdraw : (start.toNat - 16646144) % (262144 - (size.toNat - 1)) = start.toNat - 16646144 :=
    Nat.mod_eq_of_lt (by omega)
  have hrun := drawOp_run (resultsFor start size)
  unfold Inside at hrun
  rw [h0, h1, hsize, hdraw] at hrun
  rcases hrun with ⟨-, op, hdrawn, hop⟩ | ⟨houtside, -⟩
  · have hsize' := hdrawn.size
    have hstart' := hdrawn.start
    rw [hsize] at hsize'
    rw [hsize, hdraw] at hstart'
    refine ⟨resultsFor start size, ?_, op, _, hop, UInt32.toNat_inj.1 ?_, UInt32.toNat_inj.1 ?_⟩
    · rintro (_ | i)
      · rw [h0]
        omega
      · have hi : resultsFor start size (i + 1) = start.toNat - 16646144 := rfl
        rw [hi]
        omega
    · omega
    · omega
  · omega

/-- Neither the size 1 nor a region that ends with the arena is ever produced. -/
theorem producible_iff (start size : UInt32) :
    Producible start size ↔ Legal start size ∧ 1 < size.toNat ∧
      start.toNat + size.toNat < arenaStart.toNat + arenaSize.toNat := by
  rw [arenaSize_toNat, arenaStart_toNat]
  constructor
  · rintro ⟨rs, -, op, rs', hrun, rfl, rfl⟩
    rcases drawOp_run rs with ⟨⟨hone, hlast⟩, op', hdrawn, hop⟩ | ⟨-, hop⟩
    · rw [hop] at hrun
      cases hrun
      have hsize := hdrawn.size
      have hstart := hdrawn.start
      have hmod : rs 0 % 262144 < 262144 := Nat.mod_lt _ (by decide)
      have hlt : rs 1 % (262144 - rs 0 % 262144) < 262144 - rs 0 % 262144 := Nat.mod_lt _ (by omega)
      exact ⟨hdrawn.legal, by omega, by omega⟩
    · rw [hop] at hrun
      cases hrun
  · rintro ⟨hlegal, hone, hend⟩
    exact producible_of hlegal hone hend

/-- All draws are legal unless the size 1 or a last start is drawn, and the other operations are all drawn. -/
theorem draws_legal_iff (n : Nat) (rs : Results) (start size : UInt32) :
    (DrawsLegal n rs ↔ ∀ o < n, Inside (rs (3 * o)) (rs (3 * o + 1))) ∧
      (Producible start size ↔ Legal start size ∧ 1 < size.toNat ∧
        start.toNat + size.toNat < arenaStart.toNat + arenaSize.toNat) :=
  ⟨drawsLegal_iff n rs, producible_iff start size⟩

/-- The result 0 gives the size 1, which is legal, and the assertion `size > 1` fails. Nor is a region that
ends with the arena produced, of any size. -/
theorem draw_of_size_one :
    ¬ DrawsLegal 1 (fun _ => 0) ∧ (Legal arenaStart 1 ∧ ¬ Producible arenaStart 1) ∧
      (Legal arenaStart arenaSize ∧ ¬ Producible arenaStart arenaSize) := by
  refine ⟨?_, ⟨by constructor <;> decide, ?_⟩, by constructor <;> decide, ?_⟩
  · rw [drawsLegal_iff]
    exact fun h => absurd (h 0 Nat.one_pos) (by decide)
  · rw [producible_iff]
    exact fun h => absurd h.2.1 (by decide)
  · rw [producible_iff]
    exact fun h => absurd h.2.2 (by decide)

/-- The stack is asked for nothing out of range. -/
theorem Legal.inRange {start size : UInt32} (h : Legal start size) : InRange start size := by
  have hend := h.end_le
  rw [arenaSize_toNat, arenaStart_toNat] at hend
  exact ⟨h.size_pos, by omega⟩

end NandRig.Tester
