/-
What the verdicts of the system tests mean. Against any stack: the stochastic test returns 0 exactly
where every answer it has seen is the one the mirror gives. On a stack that keeps up with the mirror,
both tests return, and return 0.
-/
import NandRig.Tester.Harness
import NandRig.Tester.Law

namespace NandRig.Tester

open Emulator Framework Interact RingMem

/-! ## The mirror as an answer key -/

/-- The mirror behind an exchange that goes as the mirror has it; a `malloc()` is to return memory. -/
def follow (x : Exchange TestOp TestOp.Res) (m : Mirror) : Option Mirror :=
  match x with
  | ⟨.malloc _, memory⟩ => if memory.isSome then some m else none
  | ⟨.writeNand buffer offset size, result⟩ => if result = 0 then writeMirror buffer offset size m else none
  | ⟨.readNand _ offset size, result⟩ =>
    if result.2 = 0 ∧ ∀ i < size.toNat, result.1 i = m ((offset.toNat + i) % deviceSize) then some m else none
  | ⟨.eraseNand offset size, result⟩ => if result = 0 then eraseMirror offset size m else none
  | ⟨.printf _, _⟩ => some m

/-- The mirror behind a transcript that goes as the mirror has it throughout. -/
def replay (l : List (Exchange TestOp TestOp.Res)) (m : Mirror) : Option Mirror :=
  l.foldlM (fun m x => follow x m) m

theorem replay_snoc (l : List (Exchange TestOp TestOp.Res)) (x : Exchange TestOp TestOp.Res) (m : Mirror) :
    replay (l ++ [x]) m = (replay l m).bind (follow x) := by
  unfold replay
  rw [List.foldlM_append]
  simp

/-- A transcript that has left the mirror does not come back to it. -/
theorem replay_append_none {l : List (Exchange TestOp TestOp.Res)} {m : Mirror} (h : replay l m = none)
    (l' : List (Exchange TestOp TestOp.Res)) : replay (l ++ l') m = none := by
  unfold replay at h ⊢
  rw [List.foldlM_append, h]
  rfl

/-- A verdict that is right: 0 with the mirror kept where the transcript goes as it has it, and -1 where
it does not. -/
def Judged (m₀ : Mirror) (l : List (Exchange TestOp TestOp.Res)) (result : Int) (m : Mirror) : Prop :=
  (result = 0 ∧ replay l m₀ = some m) ∨ (result = -1 ∧ replay l m₀ = none)

/-! ## The stochastic test is exact -/

section

variable {ε σ : Type} {env : Env TestOp TestOp.Res ε σ} {m₀ : Mirror} {l : List (Exchange TestOp TestOp.Res)} {s : σ}

theorem tells_none {α : Type} {p : TestM α} (h : replay l m₀ = none) :
    Tells env p l s fun l' _ _ => replay l' m₀ = none :=
  fun _ _ _ => replay_append_none h _

/-- A request, whatever it is answered. -/
theorem tells_request {o : TestOp} {α : Type} {f : o.Res → TestM α}
    {Q : List (Exchange TestOp TestOp.Res) → α → σ → Prop} (h : ∀ r s', Tells env (f r) (l ++ [⟨o, r⟩]) s' Q) :
    Tells env (request o >>= f) l s Q :=
  (Tells.call (Q := fun l' r _ => l' = l ++ [⟨o, r⟩]) fun _ _ _ => rfl).bind fun _ r s' hl' => hl' ▸ h r s'

theorem run_orAbort_none {β : Type} (s : σ) : (run env (orAbort (none : Option β)) s).2 = none := by
  unfold orAbort
  rw [dif_neg (by simp), run_bind]
  rcases run env (request .abort) s with ⟨l, _ | ⟨e, s'⟩⟩
  · rfl
  · nomatch e

theorem tells_orAbort {β α : Type} {x : Option β} {f : β → TestM α}
    {Q : List (Exchange TestOp TestOp.Res) → α → σ → Prop} (h : ∀ b, x = some b → Tells env (f b) l s Q) :
    Tells env (orAbort x >>= f) l s Q := by
  cases x with
  | none =>
    refine Tells.bind (Q := fun _ _ _ => False) (fun b s' hb => ?_) fun _ _ _ hfalse => hfalse.elim
    rw [run_orAbort_none] at hb
    cases hb
  | some b => rw [orAbort_some, pure_bind]; exact h b rfl

theorem replay_printf (report : Report) (r : Unit) : replay (l ++ [⟨.printf report, r⟩]) m₀ = replay l m₀ := by
  rw [replay_snoc]
  exact Option.bind_fun_some _

/-- A line of output before the verdict -1. -/
theorem tells_fail {report : Report} {st : Statics} (h : replay l m₀ = none) :
    Tells env (request (.printf report) >>= fun _ => pure ((-1 : Int), st)) l s
      fun l' x _ => Judged m₀ l' x.1 x.2.mirror :=
  tells_request fun r _ => .pure (.inr ⟨rfl, (replay_printf report r).trans h⟩)

theorem tells_doErase (start size : UInt32) {st : Statics} (h : replay l m₀ = some st.mirror) :
    Tells env (doErase start size st) l s fun l' x _ => Judged m₀ l' x.1 x.2.mirror := by
  unfold doErase
  refine tells_request fun r s₁ => tells_orAbort fun mirror hmirror => tells_request fun result s₂ => ?_
  have hreplay := replay_snoc (l ++ [⟨.printf (.op .erase start size), r⟩]) ⟨.eraseNand start size, result⟩ m₀
  rw [replay_printf, h, Option.bind_some] at hreplay
  unfold follow at hreplay
  dsimp only at hreplay ⊢
  split_ifs with hresult
  · rw [if_neg hresult] at hreplay
    exact tells_fail hreplay
  · rw [if_pos (not_not.1 hresult), hmirror] at hreplay
    exact .pure (.inl ⟨rfl, hreplay⟩)

theorem replay_malloc {size : UInt32} {memory : Option Buffer} (h : memory.isSome) :
    replay (l ++ [⟨.malloc size, memory⟩]) m₀ = replay l m₀ := by
  rw [replay_snoc]
  unfold follow
  simp only [if_pos h]
  exact Option.bind_fun_some _

theorem replay_malloc_none {size : UInt32} {memory : Option Buffer} (h : ¬ memory.isSome) :
    replay (l ++ [⟨.malloc size, memory⟩]) m₀ = none := by
  rw [replay_snoc]
  unfold follow
  simp only [if_neg h]
  exact Option.bind_fun_none _

theorem tells_doWrite (start size : UInt32) {st : Statics} (h : replay l m₀ = some st.mirror) :
    Tells env (doWrite start size st) l s fun l' x _ => Judged m₀ l' x.1 x.2.mirror := by
  unfold doWrite
  refine tells_request fun memory s₁ => ?_
  split_ifs with hmemory
  · refine tells_request fun r s₂ => tells_orAbort fun mirror hmirror => tells_request fun result s₃ => ?_
    have hreplay := replay_snoc (l ++ [⟨.malloc size, memory⟩] ++ [⟨.printf (.op .write start size), r⟩])
      ⟨.writeNand (dataInit (memory.get hmemory) size) start size, result⟩ m₀
    rw [replay_printf, replay_malloc hmemory, h, Option.bind_some] at hreplay
    unfold follow at hreplay
    dsimp only at hreplay ⊢
    split_ifs with hresult
    · rw [if_neg hresult] at hreplay
      exact tells_fail hreplay
    · rw [if_pos (not_not.1 hresult), hmirror] at hreplay
      exact .pure (.inl ⟨rfl, hreplay⟩)
  · exact tells_fail (replay_malloc_none hmemory)

/-- The bytes compared are those of the region. -/
theorem firstIndex_readMirror (fromDevice buffer : Buffer) (start size : UInt32) (m : Mirror) :
    (firstIndex (fun i => fromDevice i != readMirror buffer start size m i) size 0 < size) ↔
      ¬ ∀ i < size.toNat, fromDevice i = m ((start.toNat + i) % deviceSize) := by
  have hread : ∀ i < size.toNat, readMirror buffer start size m i = m ((start.toNat + i) % deviceSize) := by
    intro i hi
    rw [readMirror_eq]
    exact if_pos hi
  have hle := (firstIndex_zero (fun i => fromDevice i != readMirror buffer start size m i) size).le
  have hiff := firstIndex_eq_length_iff (fun i => fromDevice i != readMirror buffer start size m i) size
  have hlt : (firstIndex (fun i => fromDevice i != readMirror buffer start size m i) size 0 < size) ↔
      ¬ firstIndex (fun i => fromDevice i != readMirror buffer start size m i) size 0 = size := by
    rw [UInt32.lt_iff_toNat_lt, ← UInt32.toNat_inj]
    omega
  rw [hlt, hiff]
  simp only [bne_eq_false_iff_eq]
  refine not_congr (forall₂_congr fun i hi => ?_)
  rw [hread i hi]

theorem tells_doReadAndComparison (start size : UInt32) {st : Statics} (h : replay l m₀ = some st.mirror) :
    Tells env (doReadAndComparison start size st) l s fun l' x _ => Judged m₀ l' x.1 x.2.mirror := by
  unfold doReadAndComparison
  refine tells_request fun memory₁ s₁ => ?_
  split_ifs with hmemory₁
  · refine tells_request fun memory₂ s₂ => ?_
    split_ifs with hmemory₂
    · refine tells_request fun r s₃ => tells_request fun fromDevice s₄ => ?_
      have hreplay := replay_snoc (l ++ [⟨.malloc size, memory₁⟩] ++ [⟨.malloc size, memory₂⟩] ++
        [⟨.printf (.op .read start size), r⟩]) ⟨.readNand (memory₂.get hmemory₂) start size, fromDevice⟩ m₀
      rw [replay_printf, replay_malloc hmemory₂, replay_malloc hmemory₁, h, Option.bind_some] at hreplay
      unfold follow at hreplay
      dsimp only at hreplay ⊢
      split_ifs with hresult
      · rw [if_neg fun hall => hresult hall.1] at hreplay
        exact tells_fail hreplay
      -- both loops compare the same bytes: the one of the test, and the one of the answer key
      · unfold compareLoop
        dsimp only
        by_cases hdiffers : firstIndex (fun i => fromDevice.1 i !=
            readMirror (memory₁.get hmemory₁) start size st.mirror i) size 0 < size
        · rw [if_neg fun hall => (firstIndex_readMirror _ _ _ _ _).1 hdiffers hall.2] at hreplay
          rw [if_pos hdiffers, bind_assoc]
          exact tells_fail hreplay
        · rw [if_pos ⟨not_not.1 hresult, not_not.1 fun hn => hdiffers ((firstIndex_readMirror _ _ _ _ _).2 hn)⟩]
            at hreplay
          rw [if_neg hdiffers, pure_bind]
          exact .pure (.inl ⟨rfl, hreplay⟩)
    · exact tells_fail (replay_malloc_none hmemory₂)
  · exact tells_fail (replay_malloc_none hmemory₁)

theorem tells_doOp (op : FuzzOp) {st : Statics} (h : replay l m₀ = some st.mirror) :
    Tells env (doOp op st) l s fun l' x _ => Judged m₀ l' x.1 x.2.mirror := by
  unfold doOp
  rcases op with ⟨_ | _ | _, start, size⟩
  · exact tells_doErase start size h
  · exact tells_doWrite start size h
  · exact tells_doReadAndComparison start size h

/-- After a verdict, the program goes on where it is 0 and returns where it is -1. -/
theorem tells_judged {p : TestM (Int × Statics)} {f : Statics → TestM (Int × Statics)}
    (hp : Tells env p l s fun l' x _ => Judged m₀ l' x.1 x.2.mirror)
    (hf : ∀ l' st s', replay l' m₀ = some st.mirror →
      Tells env (f st) l' s' fun l' x _ => Judged m₀ l' x.1 x.2.mirror) :
    Tells env (p >>= fun x => if x.1 ≠ 0 then pure (-1, x.2) else f x.2) l s
      fun l' x _ => Judged m₀ l' x.1 x.2.mirror := by
  refine hp.bind fun l' x s' hx => ?_
  rcases hx with ⟨hzero, hreplay⟩ | ⟨hfail, hreplay⟩
  · rw [if_neg (not_not.2 hzero)]
    exact hf l' x.2 s' hreplay
  · rw [if_pos (by rw [hfail]; decide)]
    exact .pure (.inr ⟨rfl, hreplay⟩)

theorem tells_doOps (n : Nat) {l : List (Exchange TestOp TestOp.Res)} {s : σ} {st : Statics}
    (h : replay l m₀ = some st.mirror) :
    Tells env (doOps n st) l s fun l' x _ => Judged m₀ l' x.1 x.2.mirror := by
  induction n generalizing l s st with
  | zero => exact .pure (.inl ⟨rfl, h⟩)
  | succ n ih =>
    unfold doOps
    exact tells_orAbort fun drawn _ => tells_judged (tells_doOp drawn.1 h) fun l' st' s' h' => ih h'

theorem tells_doTest (start size : UInt32) {st : Statics} (h : replay l m₀ = some st.mirror) :
    Tells env (doTest start size st) l s fun l' x _ => Judged m₀ l' x.1 x.2.mirror := by
  unfold doTest
  exact tells_judged (tells_doErase start size h) fun l₁ st₁ s₁ h₁ =>
    tells_judged (tells_doOps numOps h₁) fun l₂ st₂ s₂ h₂ => tells_doReadAndComparison start size h₂

/-- After a test has failed, the others make no difference. -/
theorem tells_testLoop_failed (n : Nat) {l : List (Exchange TestOp TestOp.Res)} {s : σ} (st : Statics)
    (h : replay l m₀ = none) :
    Tells env (testLoop n (-1) st) l s fun l' x _ => Judged m₀ l' x.1 x.2.mirror := by
  induction n generalizing l s st with
  | zero => exact .pure (.inr ⟨rfl, h⟩)
  | succ n ih =>
    unfold testLoop
    refine (tells_none h).bind fun l' x s' h' => ?_
    split_ifs
    · exact tells_request fun r s'' => ih x.2 ((replay_printf _ r).trans h')
    · exact tells_request fun r s'' => ih x.2 ((replay_printf _ r).trans h')

theorem tells_testLoop (n : Nat) {l : List (Exchange TestOp TestOp.Res)} {s : σ} {st : Statics}
    (h : replay l m₀ = some st.mirror) :
    Tells env (testLoop n 0 st) l s fun l' x _ => Judged m₀ l' x.1 x.2.mirror := by
  induction n generalizing l s st with
  | zero => exact .pure (.inl ⟨rfl, h⟩)
  | succ n ih =>
    unfold testLoop
    refine (tells_doTest arenaStart arenaSize h).bind fun l' x s' hx => ?_
    rcases hx with ⟨hzero, hreplay⟩ | ⟨hfail, hreplay⟩
    · rw [if_neg (not_not.2 hzero)]
      exact tells_request fun r s'' => ih ((replay_printf _ r).trans hreplay)
    · rw [if_pos (by rw [hfail]; decide)]
      exact tells_request fun r s'' => tells_testLoop_failed n x.2 ((replay_printf _ r).trans hreplay)

end

/-- Against any stack, however many tests are run: where the stochastic test returns, it returns 0 with the
mirror kept if every call was answered as the mirror has it and no `malloc()` failed, and -1 otherwise. -/
theorem stochastic_exact {ε σ : Type} (env : Env TestOp TestOp.Res ε σ) (numTests : Nat) (st st' : Statics)
    (s s' : σ) (result : Int) (h : (run env (stStochastic numTests st) s).2 = some ((result, st'), s')) :
    (result = 0 ∧ replay (transcript env (stStochastic numTests st) s) st.mirror = some st'.mirror) ∨
      (result = -1 ∧ replay (transcript env (stStochastic numTests st) s) st.mirror = none) := by
  have htells : Tells env (stStochastic numTests st) [] s fun l' x _ => Judged st.mirror l' x.1 x.2.mirror := by
    unfold stStochastic
    refine (tells_testLoop numTests rfl).bind fun l' x s' hx => tells_request fun r s'' => .pure ?_
    unfold Judged
    rw [replay_printf]
    exact hx
  exact htells _ _ h

/-- A stack on which every call times out. -/
def timingOut : Env TestOp TestOp.Res Report Unit
  | .malloc _, _ => ([], some (some fun _ => 0, ()))
  | .writeNand _ _ _, _ => ([], some (-1, ()))
  | .readNand buffer _ _, _ => ([], some ((buffer, -1), ()))
  | .eraseNand _ _, _ => ([], some (-1, ()))
  | .printf report, _ => ([report], some ((), ()))
  | .abort, _ => ([], none)

theorem stochastic_exact_timingOut :
    (∃ st, (run timingOut (stStochastic 1 ⟨fun _ => 0, fun _ => 5⟩) ()).2 = some ((-1, st), ())) ∧
      replay (transcript timingOut (stStochastic 1 ⟨fun _ => 0, fun _ => 5⟩) ()) (fun _ => 0) = none := by
  obtain ⟨m, hm⟩ : ∃ m, eraseMirror arenaStart arenaSize (fun _ => 0) = some m := ⟨_, eraseMirror_eq (by decide) _⟩
  have hrun : (run timingOut (stStochastic 1 ⟨fun _ => 0, fun _ => 5⟩) ()).2 = some ((-1, ⟨m, fun _ => 5⟩), ()) := by
    unfold stStochastic testLoop doTest doErase
    rw [hm, orAbort_some]
    rfl
  refine ⟨⟨_, hrun⟩, ?_⟩
  rcases stochastic_exact timingOut 1 _ _ () () (-1) hrun with ⟨hzero, -⟩ | ⟨-, hreplay⟩
  · cases hzero
  · exact hreplay

/-! ## Both tests pass on a stack that keeps up -/

/-- A stack that keeps up with the mirror: from states in `Sync` with it, requests in range are answered as
the mirror has it, into states in `Sync` with the mirror behind them, and there is always memory. If it
must, the stack does answer. -/
structure KeepsUp (must : Prop) {ε σ : Type} (env : Env TestOp TestOp.Res ε σ) (Sync : Mirror → σ → Prop) : Prop where
  malloc {m : Mirror} {s : σ} (size : UInt32) (h : Sync m s) :
    Yields must env (request (.malloc size)) s fun memory s' => memory.isSome ∧ Sync m s'
  printf {m : Mirror} {s : σ} (report : Report) (h : Sync m s) :
    Yields must env (request (.printf report)) s fun _ s' => Sync m s'
  write {m m' : Mirror} {s : σ} {offset size : UInt32} (buffer : Buffer) (hrange : InRange offset size) (h : Sync m s)
    (hm : writeMirror buffer offset size m = some m') :
    Yields must env (request (.writeNand buffer offset size)) s fun result s' => result = 0 ∧ Sync m' s'
  read {m : Mirror} {s : σ} {offset size : UInt32} (buffer : Buffer) (hrange : InRange offset size) (h : Sync m s) :
    Yields must env (request (.readNand buffer offset size)) s fun result s' => result.2 = 0 ∧
      (∀ i < size.toNat, result.1 i = m ((offset.toNat + i) % deviceSize)) ∧ Sync m s'
  erase {m m' : Mirror} {s : σ} {offset size : UInt32} (hrange : InRange offset size) (h : Sync m s)
    (hm : eraseMirror offset size m = some m') :
    Yields must env (request (.eraseNand offset size)) s fun result s' => result = 0 ∧ Sync m' s'

section

variable {must : Prop} {ε σ : Type} {env : Env TestOp TestOp.Res ε σ} {Sync : Mirror → σ → Prop} {s : σ}
  {start size : UInt32}

/-- The verdict 0, with the mirror still in step and the results of `random()` as they are said to be. -/
def Passes (Sync : Mirror → σ → Prop) (rs : Results) (x : Int × Statics) (s : σ) : Prop :=
  x.1 = 0 ∧ Sync x.2.mirror s ∧ x.2.results = rs

theorem KeepsUp.yields_doErase (h : KeepsUp must env Sync) (hrange : InRange start size) {st : Statics}
    (hsync : Sync st.mirror s) : Yields must env (doErase start size st) s (Passes Sync st.results) := by
  obtain ⟨m, hm⟩ : ∃ m, eraseMirror start size st.mirror = some m := ⟨_, eraseMirror_eq hrange st.mirror⟩
  unfold doErase
  rw [hm, orAbort_some]
  refine (h.printf _ hsync).bind fun _ s₁ h₁ => ?_
  rw [pure_bind]
  refine (h.erase hrange h₁ hm).bind fun result s₂ h₂ => ?_
  rw [if_neg (not_not.2 h₂.1)]
  exact .pure ⟨rfl, h₂.2, rfl⟩

theorem KeepsUp.yields_doWrite (h : KeepsUp must env Sync) (hrange : InRange start size) {st : Statics}
    (hsync : Sync st.mirror s) : Yields must env (doWrite start size st) s (Passes Sync st.results) := by
  unfold doWrite
  refine (h.malloc size hsync).bind fun memory s₁ h₁ => ?_
  rw [dif_pos h₁.1]
  have hm := writeMirror_eq_pages (dataInit (memory.get h₁.1) size) hrange.1 hrange.endsBelowLastPage st.mirror
  dsimp only
  rw [hm, orAbort_some]
  refine (h.printf _ h₁.2).bind fun _ s₂ h₂ => ?_
  rw [pure_bind]
  refine (h.write _ hrange h₂ hm).bind fun result s₃ h₃ => ?_
  rw [if_neg (not_not.2 h₃.1)]
  exact .pure ⟨rfl, h₃.2, rfl⟩

theorem KeepsUp.yields_doReadAndComparison (h : KeepsUp must env Sync) (hrange : InRange start size) {st : Statics}
    (hsync : Sync st.mirror s) : Yields must env (doReadAndComparison start size st) s (Passes Sync st.results) := by
  unfold doReadAndComparison
  refine (h.malloc size hsync).bind fun memory₁ s₁ h₁ => ?_
  rw [dif_pos h₁.1]
  refine (h.malloc size h₁.2).bind fun memory₂ s₂ h₂ => ?_
  rw [dif_pos h₂.1]
  refine (h.printf _ h₂.2).bind fun _ s₃ h₃ => ?_
  refine (h.read _ hrange h₃).bind fun fromDevice s₄ h₄ => ?_
  obtain ⟨hzero, hbytes, h₄⟩ := h₄
  have hsame := mt (firstIndex_readMirror fromDevice.1 (memory₁.get h₁.1) start size st.mirror).1 (not_not.2 hbytes)
  rw [if_neg (not_not.2 hzero)]
  unfold compareLoop
  dsimp only
  rw [if_neg hsame, pure_bind]
  exact .pure ⟨rfl, h₄, rfl⟩

theorem KeepsUp.yields_doOp (h : KeepsUp must env Sync) {op : FuzzOp} (hlegal : Legal op.start op.size) (st : Statics)
    (hsync : Sync st.mirror s) : Yields must env (doOp op st) s (Passes Sync st.results) := by
  unfold doOp
  rcases op with ⟨_ | _ | _, start, size⟩
  · exact h.yields_doErase hlegal.inRange hsync
  · exact h.yields_doWrite hlegal.inRange hsync
  · exact h.yields_doReadAndComparison hlegal.inRange hsync

/-- The results behind `n` draws. -/
def Results.after (n : Nat) (rs : Results) : Results := fun i => rs (3 * n + i)

theorem Results.after_succ (n : Nat) (rs : Results) : rs.tail.tail.tail.after n = rs.after (n + 1) := by
  funext i
  show rs (3 * n + i + 1 + 1 + 1) = rs (3 * (n + 1) + i)
  congr 1
  omega

theorem Results.after_add (k n : Nat) (rs : Results) : (rs.after k).after n = rs.after (k + n) := by
  funext i
  show rs (3 * k + (3 * n + i)) = rs (3 * (k + n) + i)
  congr 1
  omega

/-- The results do not fail an assertion in the next `n` draws. -/
def AllInside (n : Nat) (rs : Results) : Prop := ∀ o < n, Inside (rs (3 * o)) (rs (3 * o + 1))

theorem AllInside.tail {n : Nat} {rs : Results} (h : AllInside (n + 1) rs) : AllInside n rs.tail.tail.tail := by
  intro o ho
  have hnext := h (o + 1) (by omega)
  have h0 : 3 * (o + 1) = 3 * o + 1 + 1 + 1 := by omega
  rw [h0] at hnext
  exact hnext

theorem AllInside.after {k n : Nat} {rs : Results} (h : AllInside (k + n) rs) : AllInside n (rs.after k) := by
  intro o ho
  have hlater := h (k + o) (by omega)
  rw [Nat.mul_add] at hlater
  exact hlater

/-- An operation that is not drawn fails an assertion of the test. -/
theorem yields_orAbort_none {β α : Type} {f : β → TestM α} {Q : α → σ → Prop} (hmust : ¬ must) :
    Yields must env (orAbort none >>= f) s Q := by
  refine Yields.bind (Q := fun _ _ => False) ⟨fun hm => absurd hm hmust, fun b s' hb => ?_⟩
    fun _ _ hfalse => hfalse.elim
  rw [run_orAbort_none] at hb
  cases hb

/-- If the test must return, the draws must not fail its assertions. -/
theorem KeepsUp.yields_doOps (h : KeepsUp must env Sync) (n : Nat) {st : Statics} {s : σ} (hsync : Sync st.mirror s)
    (hinside : must → AllInside n st.results) : Yields must env (doOps n st) s (Passes Sync (st.results.after n)) := by
  induction n generalizing st s with
  | zero =>
    refine .pure ⟨rfl, hsync, ?_⟩
    funext i
    show st.results i = st.results (3 * 0 + i)
    congr 1
    omega
  | succ n ih =>
    unfold doOps
    rcases drawOp_run st.results with ⟨-, op, hdrawn, hop⟩ | ⟨houtside, hop⟩ <;> rw [hop]
    · rw [orAbort_some, pure_bind]
      refine (h.yields_doOp hdrawn.legal ⟨st.mirror, st.results.tail.tail.tail⟩ hsync).bind fun x s₁ h₁ => ?_
      obtain ⟨hzero, hsync₁, hrs⟩ := h₁
      dsimp only at hrs
      rw [if_neg (not_not.2 hzero), ← Results.after_succ, ← hrs]
      exact ih hsync₁ fun hm => hrs ▸ (hinside hm).tail
    · exact yields_orAbort_none fun hm => houtside (hinside hm 0 (Nat.succ_pos n))

theorem arena_inRange : InRange arenaStart arenaSize := by decide

theorem KeepsUp.yields_doTest (h : KeepsUp must env Sync) {st : Statics} (hsync : Sync st.mirror s)
    (hinside : must → AllInside numOps st.results) :
    Yields must env (doTest arenaStart arenaSize st) s (Passes Sync (st.results.after numOps)) := by
  unfold doTest
  refine (h.yields_doErase arena_inRange hsync).bind fun x s₁ h₁ => ?_
  obtain ⟨hzero, hsync₁, hrs₁⟩ := h₁
  rw [if_neg (not_not.2 hzero)]
  refine (h.yields_doOps numOps hsync₁ fun hm => hrs₁ ▸ hinside hm).bind fun y s₂ h₂ => ?_
  obtain ⟨hzero₂, hsync₂, hrs₂⟩ := h₂
  rw [if_neg (not_not.2 hzero₂), ← hrs₁, ← hrs₂]
  exact h.yields_doReadAndComparison arena_inRange hsync₂

theorem KeepsUp.yields_testLoop (h : KeepsUp must env Sync) (n : Nat) {st : Statics} {s : σ} (hsync : Sync st.mirror s)
    (hinside : must → AllInside (numOps * n) st.results) :
    Yields must env (testLoop n 0 st) s (Passes Sync (st.results.after (numOps * n))) := by
  induction n generalizing st s with
  | zero =>
    refine .pure ⟨rfl, hsync, ?_⟩
    funext i
    show st.results i = st.results (3 * (8 * 0) + i)
    congr 1
    omega
  | succ n ih =>
    have hsplit : numOps * (n + 1) = numOps + numOps * n := by
      rw [Nat.mul_succ, Nat.add_comm]
    rw [hsplit] at hinside ⊢
    unfold testLoop
    refine (h.yields_doTest hsync fun hm o ho => hinside hm o (by omega)).bind fun x s₁ h₁ => ?_
    obtain ⟨hzero, hsync₁, hrs⟩ := h₁
    rw [if_neg (not_not.2 hzero)]
    refine (h.printf _ hsync₁).bind fun _ s₂ h₂ => ?_
    rw [← Results.after_add, ← hrs]
    exact ih h₂ fun hm => hrs ▸ (hinside hm).after

/-- Any number of tests passes, as long as the draws do not fail an assertion of the tests themselves. -/
theorem KeepsUp.yields_stStochastic (h : KeepsUp must env Sync) {numTests : Nat} (st : Statics)
    (hsync : Sync st.mirror s) (hinside : must → AllInside (numOps * numTests) st.results) :
    Yields must env (stStochastic numTests st) s fun x s' => x.1 = 0 ∧ Sync x.2.mirror s' := by
  unfold stStochastic
  refine (h.yields_testLoop numTests hsync hinside).bind fun x s₁ h₁ => ?_
  refine (h.printf _ h₁.2.1).bind fun _ s₂ h₂ => ?_
  exact .pure ⟨h₁.1, h₂⟩

theorem storage_inRange : InRange storageAddr dataSize := by decide

/-- A stack that is to be erased and read back hands out zeroes. -/
theorem KeepsUp.yields_eraseAndConfirm (h : KeepsUp must env Sync) {m m' : Mirror} (hsync : Sync m s)
    (hm : eraseMirror storageAddr dataSize m = some m') (dest : Buffer) :
    Yields must env (eraseAndConfirm dest) s fun result s' => result = 0 ∧ Sync m' s' := by
  unfold eraseAndConfirm
  refine (h.erase storage_inRange hsync hm).bind fun result s₁ h₁ => ?_
  rw [if_neg (not_not.2 h₁.1)]
  refine (h.read dest storage_inRange h₁.2).bind fun r s₂ h₂ => ?_
  obtain ⟨hzero, hbytes, hsync₂⟩ := h₂
  rw [if_neg (not_not.2 hzero)]
  have hall : dataConfirmZeroes r.1 dataSize = dataSize := by
    refine (dataConfirmZeroes_eq_length_iff r.1 dataSize).2 fun i hi => ?_
    have h0 : storageAddr.toNat = 0 := rfl
    have hi' : i < 300 := hi
    have hlen : i < (0 % 65536 + 300 + 65535) / 65536 * 65536 := by omega
    rw [eraseMirror_eq storage_inRange] at hm
    cases hm
    rw [hbytes i hi, h0, Nat.zero_div, Nat.zero_mul]
    exact writeRange_const 0 0 hlen m
  dsimp only
  rw [if_pos hall.symm]
  exact (h.printf _ hsync₂).bind fun _ s₃ h₃ => .pure ⟨rfl, h₃⟩

/-- What the test writes to a blank mirror, its erase takes away. -/
theorem eraseMirror_written_blank (buffer : Buffer) :
    ∃ m, writeMirror buffer storageAddr dataSize (fun _ => 0) = some m ∧
      eraseMirror storageAddr dataSize m = some fun _ => 0 := by
  have h0 : storageAddr.toNat = 0 := rfl
  have h300 : dataSize.toNat = 300 := rfl
  have hdevice := deviceSize_eq
  refine ⟨_, writeMirror_eq_pages buffer storage_inRange.1 storage_inRange.endsBelowLastPage _, ?_⟩
  rw [eraseMirror_eq storage_inRange, h0, h300]
  refine congrArg some (funext fun a => ?_)
  rw [writeRange_apply (by omega), writeRange_apply (by omega)]
  by_cases ha : a < 65536
  · rw [if_pos (by omega)]
  · rw [if_neg (by omega), if_neg (by omega)]

/-- The test passes from a blank mirror, and leaves a blank one. -/
theorem KeepsUp.yields_stDeterministic (h : KeepsUp must env Sync) (hsync : Sync (fun _ => 0) s)
    (data dest : Buffer) :
    Yields must env (stDeterministic data dest) s fun result s' => result = 0 ∧ Sync (fun _ => 0) s' := by
  obtain ⟨m', hm, hblank⟩ := eraseMirror_written_blank (dataInit data dataSize)
  obtain ⟨m'', hm', hwritten⟩ :=
    @writeMirror_written_pages (dataInit data dataSize) storageAddr dataSize storage_inRange.1
      storage_inRange.endsBelowLastPage fun _ => 0
  cases hm.symm.trans hm'
  unfold stDeterministic
  refine (h.write _ storage_inRange hsync hm).bind fun result s₁ h₁ => ?_
  rw [if_neg (not_not.2 h₁.1)]
  refine (h.read dest storage_inRange h₁.2).bind fun r s₂ h₂ => ?_
  obtain ⟨hzero, hbytes, hsync₂⟩ := h₂
  rw [if_neg (not_not.2 hzero)]
  have hall : dataCompare (dataInit data dataSize) r.1 dataSize = dataSize := by
    refine (dataCompare_eq_length_iff _ r.1 dataSize).2 fun i hi => ?_
    rw [hbytes i hi]
    exact (hwritten.read (by decide) (.inl (by decide)) hi).symm
  dsimp only
  rw [if_pos hall.symm]
  exact (h.printf _ hsync₂).bind fun _ s₃ h₃ => h.yields_eraseAndConfirm h₃ hblank r.1

end

end NandRig.Tester
