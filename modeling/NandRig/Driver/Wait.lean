/-
The poll loop `nand_wait()` of alpha_0, which foxtrot_0 and kilo_0 repeat. It asks for the time, the pin
and a sleep, and meets any answers; the proofs go over the log of what it asked. The clock bounds its
rounds, every round but the last ends with a sleep, and the value returned is that of the last poll.
-/
import NandRig.Framework.Interface

namespace NandRig.Driver.Wait

open Emulator Framework Interact

/-! ## The loop -/

inductive WaitOp
  | now
  | gpioGet (pin : UInt32)
  | usleep (us : UInt32)
  deriving DecidableEq, Repr

abbrev WaitOp.Res : WaitOp → Type
  | .now => TimeUs
  | .gpioGet _ => UInt32
  | .usleep _ => Unit

abbrev WaitM := Prog WaitOp WaitOp.Res

def now : WaitM TimeUs := Prog.call WaitOp.now
def gpioGet (pin : UInt32) : WaitM UInt32 := Prog.call (WaitOp.gpioGet pin)
def usleep (us : UInt32) : WaitM Unit := Prog.call (WaitOp.usleep us)

/-- The loop of `nand_wait()`, for at most `fuel` rounds; with none left it has not returned. -/
def nandWaitLoop (timeout : TimeUs) : (fuel : Nat) → WaitM (Option Int)
  | 0 => pure none
  | fuel + 1 => do
    let status ← gpioGet pnStatus.toUInt32
    if status = deviceReady.toUInt32 then pure (some 0)
    else do
      usleep nandPollIntervalUs
      let timenow ← now
      if timenow < timeout then nandWaitLoop timeout fuel
      else do
        let status ← gpioGet pnStatus.toUInt32
        pure (some (if status = deviceReady.toUInt32 then 0 else -1))

def nandWait (fuel : Nat) (intervalUs : UInt32) : WaitM (Option Int) := do
  let start ← now
  let timeout := start + intervalUs.toUInt64
  nandWaitLoop timeout fuel

/-! ## The world it runs in -/

/-- The time at which each of the calls is made, and the answer it gets if it asks for the pin. -/
structure World where
  time : Nat → TimeUs
  status : Nat → UInt32

/-- A call, with its time. -/
inductive Asked
  | now (time : TimeUs)
  | poll (time : TimeUs) (status : UInt32)
  | sleep (time : TimeUs) (us : UInt32)
  deriving DecidableEq, Repr

namespace Asked

def time : Asked → TimeUs
  | now t => t
  | poll t _ => t
  | sleep t _ => t

def isPoll : Asked → Bool
  | poll _ _ => true
  | _ => false

def isSleep : Asked → Bool
  | sleep _ _ => true
  | _ => false

/-- A poll answered DEVICE_READY. -/
def isReady : Asked → Bool
  | poll _ status => status == deviceReady.toUInt32
  | _ => false

/-- How long a call takes at least. -/
def duration : Asked → Nat
  | sleep _ us => us.toNat
  | _ => 0

/-- The clock does not decrease, and a sleep lasts as long as it was asked to. -/
def Before (e f : Asked) : Prop := e.time.toNat + e.duration ≤ f.time.toNat

instance : DecidableRel Before := fun e f => inferInstanceAs (Decidable (e.time.toNat + e.duration ≤ f.time.toNat))

end Asked

/-- The calls are answered in turn; the state counts them. -/
def env (w : World) : Env WaitOp WaitOp.Res Asked Nat
  | .now, k => ([.now (w.time k)], some (w.time k, k + 1))
  | .gpioGet _, k => ([.poll (w.time k) (w.status k)], some (w.status k, k + 1))
  | .usleep us, k => ([.sleep (w.time k) us], some ((), k + 1))

/-- The calls of `nand_wait(interval_us)`, in order. -/
def log (w : World) (fuel : Nat) (intervalUs : UInt32) : List Asked :=
  (run (env w) (nandWait fuel intervalUs) 0).1

/-- The value it returns, if it does. -/
def returned (w : World) (fuel : Nat) (intervalUs : UInt32) : Option Int :=
  (run (env w) (nandWait fuel intervalUs) 0).2.bind Prod.fst

/-! ## One round -/

section Round

variable (w : World) (timeout : TimeUs) (fuel k : Nat)

/-- The calls of a round that finds the device busy. -/
def busyRound : List Asked :=
  [.poll (w.time k) (w.status k), .sleep (w.time (k + 1)) nandPollIntervalUs, .now (w.time (k + 2))]

variable {w timeout fuel k}

theorem run_loop_ready (h : w.status k = deviceReady.toUInt32) :
    run (env w) (nandWaitLoop timeout (fuel + 1)) k = ([.poll (w.time k) (w.status k)], some (some 0, k + 1)) := by
  rw [nandWaitLoop, run_bind, gpioGet, run_call]
  simp only [env, h, if_true]
  rfl

theorem run_loop_again (h : w.status k ≠ deviceReady.toUInt32) (ht : w.time (k + 2) < timeout) :
    run (env w) (nandWaitLoop timeout (fuel + 1)) k =
      (busyRound w k ++ (run (env w) (nandWaitLoop timeout fuel) (k + 3)).1,
        (run (env w) (nandWaitLoop timeout fuel) (k + 3)).2) := by
  rw [nandWaitLoop, run_bind, gpioGet, run_call]
  simp only [env, h, if_false]
  rw [run_bind, usleep, run_call]
  simp only [env]
  rw [run_bind, now, run_call]
  simp only [env, ht, if_true]
  rfl

theorem run_loop_last (h : w.status k ≠ deviceReady.toUInt32) (ht : ¬ w.time (k + 2) < timeout) :
    run (env w) (nandWaitLoop timeout (fuel + 1)) k =
      (busyRound w k ++ [.poll (w.time (k + 3)) (w.status (k + 3))],
        some (some (if w.status (k + 3) = deviceReady.toUInt32 then 0 else -1), k + 4)) := by
  rw [nandWaitLoop, run_bind, gpioGet, run_call]
  simp only [env, h, if_false]
  rw [run_bind, usleep, run_call]
  simp only [env]
  rw [run_bind, now, run_call]
  simp only [env, ht, if_false]
  rw [run_bind, run_call]
  rfl

theorem run_nandWait (w : World) (fuel : Nat) (intervalUs : UInt32) :
    run (env w) (nandWait fuel intervalUs) 0 =
      (.now (w.time 0) :: (run (env w) (nandWaitLoop (w.time 0 + intervalUs.toUInt64) fuel) 1).1,
        (run (env w) (nandWaitLoop (w.time 0 + intervalUs.toUInt64) fuel) 1).2) := by
  rw [nandWait, run_bind, now, run_call]
  rfl

variable (w timeout fuel k) in
theorem loop_starts :
    ∃ l, (run (env w) (nandWaitLoop timeout (fuel + 1)) k).1 = .poll (w.time k) (w.status k) :: l := by
  by_cases h : w.status k = deviceReady.toUInt32
  · exact ⟨[], by rw [run_loop_ready h]⟩
  · by_cases ht : w.time (k + 2) < timeout
    · exact ⟨_, by rw [run_loop_again h ht]; rfl⟩
    · exact ⟨_, by rw [run_loop_last h ht]; rfl⟩

/-- A busy round takes the time of its sleep. -/
theorem busyRound_before {l : List Asked} (h : (busyRound w k ++ l).IsChain Asked.Before) :
    (w.time k).toNat + 25 ≤ (w.time (k + 2)).toNat ∧
      (∀ e ∈ l.head?, (w.time (k + 2)).toNat ≤ e.time.toNat) ∧ l.IsChain Asked.Before := by
  obtain ⟨hpoll, h⟩ := List.isChain_cons_cons.1 h
  obtain ⟨hsleep, h⟩ := List.isChain_cons_cons.1 h
  obtain ⟨hnow, h⟩ := List.isChain_cons.1 h
  have h1 : (w.time k).toNat + 0 ≤ (w.time (k + 1)).toNat := hpoll
  have h2 : (w.time (k + 1)).toNat + 25 ≤ (w.time (k + 2)).toNat := hsleep
  exact ⟨by omega, hnow, h⟩

end Round

/-! ## The loop returns in time -/

/-- From a time `a` on, `n` sleeps reach the timeout: the loop returns after at most `n` rounds. -/
theorem loop_returns {w : World} {timeout : TimeUs} {n fuel k a : Nat} (hn : 1 ≤ n) (hfuel : n ≤ fuel)
    (ha : a ≤ (w.time k).toNat) (hreach : timeout.toNat ≤ a + 25 * n)
    (hclock : (run (env w) (nandWaitLoop timeout fuel) k).1.IsChain Asked.Before) :
    ∃ r k', (run (env w) (nandWaitLoop timeout fuel) k).2 = some (some r, k') ∧
      (run (env w) (nandWaitLoop timeout fuel) k).1.countP Asked.isPoll ≤ n + 1 := by
  induction n generalizing fuel k a with
  | zero => omega
  | succ n ih =>
    obtain ⟨fuel, rfl⟩ := Nat.exists_eq_add_of_lt hfuel
    rw [show n + fuel + 1 = (n + fuel) + 1 from rfl] at hclock ⊢
    by_cases h : w.status k = deviceReady.toUInt32
    · rw [run_loop_ready h]
      exact ⟨0, k + 1, rfl, Nat.le_add_left 1 (n + 1)⟩
    · by_cases ht : w.time (k + 2) < timeout
      · rw [run_loop_again h ht] at hclock ⊢
        obtain ⟨hround, hnext, hrest⟩ := busyRound_before hclock
        rw [UInt64.lt_iff_toNat_lt] at ht
        -- a round that goes on leaves time for another one
        obtain ⟨m, rfl⟩ : ∃ m, n = m + 1 := ⟨n - 1, by omega⟩
        obtain ⟨l, hl⟩ := loop_starts w timeout (m + fuel) (k + 3)
        rw [show m + 1 + fuel = m + fuel + 1 by omega] at hnext hrest ⊢
        have hlater : (w.time (k + 2)).toNat ≤ (w.time (k + 3)).toNat :=
          hnext (.poll (w.time (k + 3)) (w.status (k + 3))) (by rw [hl]; rfl)
        obtain ⟨r, k', hr, hpolls⟩ := ih (a := a + 25) (by omega) (by omega) (by omega) (by omega) hrest
        refine ⟨r, k', hr, ?_⟩
        rw [List.countP_append]
        have hone : (busyRound w k).countP Asked.isPoll = 1 := rfl
        omega
      · rw [run_loop_last h ht]
        refine ⟨_, _, rfl, ?_⟩
        rw [List.countP_append]
        show 1 + 1 ≤ n + 1 + 1
        omega

/-! ## The value returned -/

/-- The value is that of the last poll; all earlier ones found the device busy. -/
theorem loop_value {w : World} {timeout : TimeUs} {fuel k k' : Nat} {r : Int}
    (h : (run (env w) (nandWaitLoop timeout fuel) k).2 = some (some r, k')) :
    ∃ earlier last, (run (env w) (nandWaitLoop timeout fuel) k).1.filter Asked.isPoll = earlier ++ [last] ∧
      (∀ e ∈ earlier, e.isReady = false) ∧ r = if last.isReady then 0 else -1 := by
  induction fuel generalizing k with
  | zero => cases h
  | succ fuel ih =>
    by_cases hready : w.status k = deviceReady.toUInt32
    · rw [run_loop_ready hready] at h ⊢
      cases h
      exact ⟨[], _, rfl, by simp, by simp [Asked.isReady, hready]⟩
    · have hbusy : (Asked.poll (w.time k) (w.status k)).isReady = false := beq_eq_false_iff_ne.2 hready
      have hround : (busyRound w k).filter Asked.isPoll = [.poll (w.time k) (w.status k)] := rfl
      by_cases ht : w.time (k + 2) < timeout
      · rw [run_loop_again hready ht] at h ⊢
        obtain ⟨earlier, last, hpolls, hearlier, hr⟩ := ih h
        refine ⟨.poll (w.time k) (w.status k) :: earlier, last, ?_, ?_, hr⟩
        · rw [List.filter_append, hround, hpolls]
          rfl
        · intro e he
          rcases List.mem_cons.1 he with rfl | he
          · exact hbusy
          · exact hearlier e he
      · rw [run_loop_last hready ht] at h ⊢
        cases h
        refine ⟨[.poll (w.time k) (w.status k)], .poll (w.time (k + 3)) (w.status (k + 3)), rfl, ?_, ?_⟩
        · intro e he
          rw [List.mem_singleton.1 he]
          exact hbusy
        · simp [Asked.isReady]

/-- The value is 0 exactly when the last poll is the first to find the device ready. -/
theorem zero_iff_last_ready {l earlier : List Asked} {last : Asked} {r : Int}
    (hfilter : l.filter Asked.isPoll = earlier ++ [last]) (hearlier : ∀ e ∈ earlier, e.isReady = false)
    (hvalue : r = if last.isReady then 0 else -1) :
    r = 0 ↔ ∃ earlier last, l.filter Asked.isPoll = earlier ++ [last] ∧ last.isReady = true ∧
      ∀ e ∈ earlier, e.isReady = false := by
  constructor
  · intro h0
    refine ⟨earlier, last, hfilter, ?_, hearlier⟩
    by_contra hbusy
    rw [if_neg hbusy] at hvalue
    omega
  · rintro ⟨earlier', last', hfilter', hready, -⟩
    have hlast := (List.append_inj' (hfilter.symm.trans hfilter') rfl).2
    rw [hvalue, List.head_eq_of_cons_eq hlast, if_pos hready]

/-- The loop gives up only on a poll behind the timeout that found the device busy. -/
theorem loop_late {w : World} {timeout : TimeUs} {fuel k k' : Nat}
    (hclock : (run (env w) (nandWaitLoop timeout fuel) k).1.IsChain Asked.Before)
    (h : (run (env w) (nandWaitLoop timeout fuel) k).2 = some (some (-1), k')) :
    ∃ e ∈ (run (env w) (nandWaitLoop timeout fuel) k).1, e.isPoll = true ∧ e.isReady = false ∧
      timeout.toNat ≤ e.time.toNat := by
  induction fuel generalizing k with
  | zero => cases h
  | succ fuel ih =>
    by_cases hready : w.status k = deviceReady.toUInt32
    · rw [run_loop_ready hready] at h
      cases h
    · by_cases ht : w.time (k + 2) < timeout
      · rw [run_loop_again hready ht] at h hclock ⊢
        obtain ⟨e, he, hlate⟩ := ih (busyRound_before hclock).2.2 h
        exact ⟨e, List.mem_append_right _ he, hlate⟩
      · rw [run_loop_last hready ht] at h hclock ⊢
        have hlast : (w.time (k + 2)).toNat ≤ (w.time (k + 3)).toNat := (busyRound_before hclock).2.1 _ rfl
        have hbusy : w.status (k + 3) ≠ deviceReady.toUInt32 := by
          intro hs
          rw [if_pos hs] at h
          cases h
        rw [UInt64.lt_iff_toNat_lt] at ht
        refine ⟨.poll (w.time (k + 3)) (w.status (k + 3)), by simp, rfl, beq_eq_false_iff_ne.2 hbusy, ?_⟩
        show timeout.toNat ≤ (w.time (k + 3)).toNat
        omega

/-! ## Sleeps -/

/-- The polls and the sleeps. -/
def isPause (e : Asked) : Bool := e.isPoll || e.isSleep

/-- One is a poll and the other is not. -/
def Alternate (e f : Asked) : Prop := e.isPoll ≠ f.isPoll

/-- Polls and sleeps take turns, beginning with a poll. -/
theorem loop_alternates (w : World) (timeout : TimeUs) (fuel k : Nat) :
    ((run (env w) (nandWaitLoop timeout fuel) k).1.filter isPause).IsChain Alternate ∧
      ∀ e ∈ ((run (env w) (nandWaitLoop timeout fuel) k).1.filter isPause).head?, e.isPoll = true := by
  induction fuel generalizing k with
  | zero => exact ⟨List.isChain_nil, fun e he => by cases he⟩
  | succ fuel ih =>
    have hround : (busyRound w k).filter isPause =
        [.poll (w.time k) (w.status k), .sleep (w.time (k + 1)) nandPollIntervalUs] := rfl
    have hpoll : Alternate (.poll (w.time k) (w.status k)) (.sleep (w.time (k + 1)) nandPollIntervalUs) :=
      Bool.noConfusion
    by_cases hready : w.status k = deviceReady.toUInt32
    · rw [run_loop_ready hready]
      refine ⟨List.isChain_singleton _, fun e he => ?_⟩
      cases he
      rfl
    · by_cases ht : w.time (k + 2) < timeout
      · obtain ⟨hchain, hhead⟩ := ih (k + 3)
        rw [run_loop_again hready ht, List.filter_append, hround]
        refine ⟨List.isChain_cons_cons.2 ⟨hpoll, List.isChain_cons.2 ⟨fun e he => ?_, hchain⟩⟩, fun e he => ?_⟩
        · unfold Alternate
          rw [hhead e he]
          exact Bool.noConfusion
        · cases he
          rfl
      · rw [run_loop_last hready ht, List.filter_append, hround]
        refine ⟨List.isChain_cons_cons.2 ⟨hpoll, List.isChain_cons_cons.2 ⟨Bool.noConfusion, List.isChain_singleton _⟩⟩,
          fun e he => ?_⟩
        cases he
        rfl

/-- Where polls and sleeps take turns, there is one sleep between a poll and the next. -/
theorem sleeps_between_polls {before between after : List Asked} {p q : Asked}
    (h : ((before ++ p :: between ++ q :: after).filter isPause).IsChain Alternate) (hp : p.isPoll = true)
    (hq : q.isPoll = true) (hnone : ∀ e ∈ between, e.isPoll = false) : between.countP Asked.isSleep = 1 := by
  have hsleeps : between.filter isPause = between.filter Asked.isSleep := by
    refine List.filter_congr fun e he => ?_
    rw [isPause, hnone e he, Bool.false_or]
  have hfilter : (before ++ p :: between ++ q :: after).filter isPause =
      before.filter isPause ++ (p :: (between.filter isPause ++ q :: after.filter isPause)) := by
    simp [isPause, hp, hq]
  rw [hfilter, hsleeps] at h
  have hchain := h.right_of_append
  rw [List.countP_eq_length_filter]
  have hmem : ∀ e ∈ between.filter Asked.isSleep, e.isPoll = false := fun e he => hnone e (List.mem_of_mem_filter he)
  generalize between.filter Asked.isSleep = sleeps at hchain hmem ⊢
  -- none, one, or two in a row
  rcases sleeps with _ | ⟨s, _ | ⟨s', rest⟩⟩
  · exact absurd (hp.trans hq.symm) (List.isChain_cons_cons.1 hchain).1
  · rfl
  · have htwo := (List.isChain_cons_cons.1 (List.isChain_cons_cons.1 hchain).2).1
    exact absurd ((hmem s (by simp)).trans (hmem s' (by simp)).symm) htwo

/-! ## The wait -/

/-- `nand_wait(interval_us)`, for any answers of the pin and any clock that keeps its order and its sleeps:
it returns after at most `max(1, ⌈interval_us / 25⌉) + 1` polls; it returns 0 exactly when the last poll, and
no earlier one, found the device ready, and -1 otherwise, which takes a poll at or after the timeout that
found it busy; and it sleeps once between a poll and the next. So a device that is ready from some time not
later than the timeout on makes it return 0. -/
theorem nand_wait_correct (w : World) (intervalUs : UInt32) (fuel : Nat)
    (hfit : (w.time 0).toNat + intervalUs.toNat < 2 ^ 64) (hclock : (log w fuel intervalUs).IsChain Asked.Before)
    (hfuel : max 1 ((intervalUs.toNat + 24) / 25) ≤ fuel) :
    ∃ r, returned w fuel intervalUs = some r ∧ (r = 0 ∨ r = -1) ∧
      (log w fuel intervalUs).countP Asked.isPoll ≤ max 1 ((intervalUs.toNat + 24) / 25) + 1 ∧
      (r = 0 ↔ ∃ earlier last, (log w fuel intervalUs).filter Asked.isPoll = earlier ++ [last] ∧
        last.isReady = true ∧ ∀ e ∈ earlier, e.isReady = false) ∧
      (r = -1 → ∃ e ∈ log w fuel intervalUs, e.isPoll = true ∧ e.isReady = false ∧
        (w.time 0).toNat + intervalUs.toNat ≤ e.time.toNat) ∧
      (∀ before p between q after, log w fuel intervalUs = before ++ p :: between ++ q :: after →
        p.isPoll = true → q.isPoll = true → (∀ e ∈ between, e.isPoll = false) → between.countP Asked.isSleep = 1) ∧
      ∀ T ≤ (w.time 0).toNat + intervalUs.toNat,
        (∀ e ∈ log w fuel intervalUs, e.isPoll = true → T ≤ e.time.toNat → e.isReady = true) → r = 0 := by
  have htimeout : (w.time 0 + intervalUs.toUInt64).toNat = (w.time 0).toNat + intervalUs.toNat := by
    rw [UInt64.toNat_add, UInt32.toNat_toUInt64, Nat.mod_eq_of_lt hfit]
  have hrun := run_nandWait w fuel intervalUs
  unfold log at hclock
  rw [hrun] at hclock
  obtain ⟨hstart, hloop⟩ := List.isChain_cons.1 hclock
  have hfirst : (w.time 0).toNat ≤ (w.time 1).toNat := by
    obtain ⟨m, rfl⟩ : ∃ m, fuel = m + 1 := ⟨fuel - 1, by omega⟩
    obtain ⟨l, hl⟩ := loop_starts w (w.time 0 + intervalUs.toUInt64) m 1
    exact hstart (.poll (w.time 1) (w.status 1)) (by rw [hl]; rfl)
  obtain ⟨r, k', hr, hpolls⟩ := loop_returns (a := (w.time 0).toNat) (le_max_left 1 ((intervalUs.toNat + 24) / 25))
    hfuel hfirst (by omega) hloop
  obtain ⟨earlier, last, hfilter, hearlier, hvalue⟩ := loop_value hr
  have halternates := (loop_alternates w (w.time 0 + intervalUs.toUInt64) fuel 1).1
  have hlate := fun hneg : r = -1 => loop_late hloop (hneg ▸ hr)
  rw [htimeout] at hlate
  have hor : r = 0 ∨ r = -1 := by
    rw [hvalue]
    split
    · exact .inl rfl
    · exact .inr rfl
  unfold log returned
  rw [hrun]
  refine ⟨r, by rw [hr]; rfl, hor, hpolls, ?_, ?_, ?_, ?_⟩
  · exact zero_iff_last_ready hfilter hearlier hvalue
  · intro hneg
    obtain ⟨e, he, hlate⟩ := hlate hneg
    exact ⟨e, List.mem_cons_of_mem _ he, hlate⟩
  · intro before p between q after hlog hp hq hnone
    have hwhole : ((before ++ p :: between ++ q :: after).filter isPause).IsChain Alternate := by
      rw [← hlog]
      exact halternates
    exact sleeps_between_polls hwhole hp hq hnone
  · intro T hT hready
    rcases hor with h0 | hneg
    · exact h0
    · obtain ⟨e, he, hpoll, hbusy, htime⟩ := hlate hneg
      have := hready e (List.mem_cons_of_mem _ he) hpoll (hT.trans htime)
      rw [hbusy] at this
      cases this

/-- A clock that a call moves on by 30, and a device that is ready from the time 100 on. -/
def slowWorld : World where
  time k := 30 * UInt64.ofNat k
  status k := if k < 4 then 1 else 0

theorem nand_wait_correct_slow : ∃ r, returned slowWorld 4 100 = some r ∧ r = 0 := by
  obtain ⟨r, hr, _, _, _, _, _, hready⟩ := nand_wait_correct slowWorld 100 4 (by decide) (by decide +kernel) (by decide)
  refine ⟨r, hr, hready 100 (by decide) ?_⟩
  decide +kernel

end NandRig.Driver.Wait
