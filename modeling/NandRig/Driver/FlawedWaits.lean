/-
The drivers with flawed waits, alpha_1, alpha_2, alpha_3, alpha_7 and alpha_8 (`driver/alpha/alpha_1.c` and on),
and what their unit test (`driver/test/test_wait.c`) makes of them on a device that is busy for ever. As for
alpha_0, loops are run for a number of rounds; with none left a wait has not returned. What the test computes
from the CPU time is left out: in its place stand the sleeps.
-/
import NandRig.Driver.Wait
import NandRig.Framework.Agreement
import NandRig.Lib.Coupling

namespace NandRig.Driver

open Emulator Framework Interact Wait

/-! ## The waits -/

/-- `return ((gpio_get(PN_STATUS) == DEVICE_READY) ? 0 : -1);` -/
def lastPoll : WaitM (Option Int) := do
  let status ← gpioGet pnStatus.toUInt32
  pure (some (if status = deviceReady.toUInt32 then 0 else -1))

/-- The loop that alpha_1 and alpha_7 have in common with alpha_0, but for what they do before they look at
the clock. -/
def pollLoop (pause : WaitM Unit) (timeout : TimeUs) : (fuel : Nat) → WaitM (Option Int)
  | 0 => pure none
  | fuel + 1 => do
    let status ← gpioGet pnStatus.toUInt32
    if status = deviceReady.toUInt32 then pure (some 0)
    else do
      pause
      let timenow ← now
      if timenow < timeout then pollLoop pause timeout fuel else lastPoll

def pollWait (pause : WaitM Unit) (fuel : Nat) (intervalUs : UInt32) : WaitM (Option Int) := do
  let start ← now
  pollLoop pause (start + intervalUs.toUInt64) fuel

/-- `usleep(NAND_POLL_INTERVAL_US)` is commented out. -/
def Alpha1.nandWait (fuel : Nat) (intervalUs : UInt32) : WaitM (Option Int) := pollWait (pure ()) fuel intervalUs

/-- It sleeps while a block is erased, and at no other time. -/
def Alpha7.nandWait (curCmd : UInt8) (fuel : Nat) (intervalUs : UInt32) : WaitM (Option Int) :=
  pollWait (if curCmd = cEraseExecute.toUInt8 then usleep nandPollIntervalUs else pure ()) fuel intervalUs

/-- The interval is not looked at. -/
def Alpha2.nandWait : (fuel : Nat) → (intervalUs : UInt32) → WaitM (Option Int)
  | 0, _ => pure none
  | fuel + 1, intervalUs => do
    let status ← gpioGet pnStatus.toUInt32
    if status ≠ deviceReady.toUInt32 then do
      usleep nandPollIntervalUs
      nandWait fuel intervalUs
    else pure (some 0)

namespace Alpha3

def nandWaitLoop (timeout : TimeUs) : (fuel : Nat) → WaitM (Option Int)
  | 0 => pure none
  | fuel + 1 => do
    usleep nandPollIntervalUs
    let status ← gpioGet pnStatus.toUInt32
    if status = deviceReady.toUInt32 then pure (some 0)
    else do
      let timenow ← now
      if timenow < timeout then nandWaitLoop timeout fuel else pure (some (-1))

/-- The timeout is a moment in the distant past. -/
def nandWait (fuel : Nat) (_intervalUs : UInt32) : WaitM (Option Int) :=
  nandWaitLoop nandPollIntervalUs.toUInt64 fuel

end Alpha3

namespace Alpha8

/-- The inner loop, and the `return 0` behind it. -/
def eraseLoop : (fuel : Nat) → (status : UInt32) → WaitM (Option Int)
  | 0, _ => pure none
  | fuel + 1, status =>
    if status ≠ deviceReady.toUInt32 then do
      usleep nandPollIntervalUs
      let status ← gpioGet pnStatus.toUInt32
      eraseLoop fuel status
    else pure (some 0)

def nandWaitLoop (curCmd : UInt8) (timeout : TimeUs) : (fuel : Nat) → WaitM (Option Int)
  | 0 => pure none
  | fuel + 1 => do
    let timenow ← now
    if timenow < timeout then do
      let status ← gpioGet pnStatus.toUInt32
      if curCmd = cEraseExecute.toUInt8 then eraseLoop fuel status
      else if status = deviceReady.toUInt32 then pure (some 0)
      else do
        usleep nandPollIntervalUs
        nandWaitLoop curCmd timeout fuel
    else lastPoll

def nandWait (curCmd : UInt8) (fuel : Nat) (intervalUs : UInt32) : WaitM (Option Int) := do
  let start ← now
  nandWaitLoop curCmd (start + intervalUs.toUInt64) fuel

end Alpha8

/-! ## The drivers

Their tables ask for a wait, as that of alpha_0 does, and are answered by one of the above. -/

def Alpha1.getDriver : NandDriver := Alpha0.getDriver
def Alpha2.getDriver : NandDriver := Alpha0.getDriver
def Alpha3.getDriver : NandDriver := Alpha0.getDriver

/-- The table of alpha_7 and alpha_8. `curCmd`, which `nand_set_register()` keeps, is an argument of their waits;
their other loops count up. -/
def countingTable : NandJumpTable where
  readBuffer := Foxtrot0.nandRead
  setRegister := Alpha0.nandSetRegister
  waitReady := Alpha0.nandWait
  writeBuffer := Foxtrot0.nandProgram

def Alpha7.getDriver : NandDriver := .jumpTable countingTable
def Alpha8.getDriver : NandDriver := .jumpTable countingTable

theorem countingTable_eq : countingTable = Alpha0.jumpTable := by
  unfold countingTable Alpha0.jumpTable
  congr
  · funext buffer pos length
    exact foxtrot_nandRead buffer pos length
  · funext buffer pos length
    exact foxtrot_nandProgram buffer pos length

/-- alpha_0 has the same loop, and sleeps. -/
theorem pollLoop_usleep (timeout : TimeUs) : ∀ fuel : Nat,
    pollLoop (usleep nandPollIntervalUs) timeout fuel = nandWaitLoop timeout fuel
  | 0 => rfl
  | fuel + 1 => by
    rw [pollLoop, nandWaitLoop, pollLoop_usleep timeout fuel]
    rfl

theorem pollWait_usleep (fuel : Nat) (intervalUs : UInt32) :
    pollWait (usleep nandPollIntervalUs) fuel intervalUs = nandWait fuel intervalUs := by
  unfold pollWait nandWait
  simp only [pollLoop_usleep]

/-! ## A device that is busy for ever -/

/-- The answers of a device that is busy for ever. -/
def Busy : (o : WaitOp) → o.Res → Prop
  | .gpioGet _, status => status = deviceBusy.toUInt32
  | _, _ => True

theorem alpha2_never : ∀ (fuel : Nat) (intervalUs : UInt32),
    (Alpha2.nandWait fuel intervalUs).Ensures Busy fun x => x = none
  | 0, _ => rfl
  | fuel + 1, intervalUs => by
    refine fun (status : UInt32) (hstatus : status = deviceBusy.toUInt32) => ?_
    subst hstatus
    exact fun _ _ => alpha2_never fuel intervalUs

theorem alpha8_eraseLoop_never : ∀ fuel : Nat,
    (Alpha8.eraseLoop fuel deviceBusy.toUInt32).Ensures Busy fun x => x = none
  | 0 => rfl
  | fuel + 1 => by
    refine fun _ _ => fun (status : UInt32) (hstatus : status = deviceBusy.toUInt32) => ?_
    subst hstatus
    exact alpha8_eraseLoop_never fuel

section

variable {w : World} {P : Asked → Prop} {timeout : TimeUs}

/-- The wait has not returned; or it has timed out, and the clock shows the timeout. -/
def TimedOut (w : World) (timeout : TimeUs) (x : Option Int) (k : Nat) : Prop :=
  ∀ r, x = some r → r = -1 ∧ timeout.toNat ≤ (w.time k).toNat

/-- The wait returns, if there are more rounds than calls before the clock shows the timeout. -/
def TimesOut (w : World) (timeout : TimeUs) (fuel k : Nat) (x : Option Int) (k' : Nat) : Prop :=
  k ≤ k' ∧ TimedOut w timeout x k' ∧ (x = none → ∀ n < fuel, (w.time (k + n)).toNat < timeout.toNat)

theorem always_now {Q : TimeUs → Nat → Prop} {k : Nat} (hP : ∀ t, P (.now t)) (hQ : Q (w.time k) (k + 1)) :
    Always (env w) P now k Q := by
  refine .call (fun e he => ?_) fun t k' h => ?_
  · rw [List.mem_singleton.1 he]
    exact hP _
  · cases h
    exact hQ

theorem always_poll (hbusy : ∀ k, w.status k = deviceBusy.toUInt32) {Q : UInt32 → Nat → Prop} {k : Nat} {pin : UInt32}
    (hP : ∀ t status, P (.poll t status)) (hQ : Q deviceBusy.toUInt32 (k + 1)) :
    Always (env w) P (gpioGet pin) k Q := by
  refine .call (fun e he => ?_) fun status k' h => ?_
  · rw [List.mem_singleton.1 he]
    exact hP _ _
  · cases h
    rw [hbusy k]
    exact hQ

theorem always_usleep {Q : Unit → Nat → Prop} {k : Nat} {us : UInt32} (hP : ∀ t us, P (.sleep t us))
    (hQ : Q () (k + 1)) :
    Always (env w) P (usleep us) k Q := by
  refine .call (fun e he => ?_) fun _ k' h => ?_
  · rw [List.mem_singleton.1 he]
    exact hP _ _
  · cases h
    exact hQ

variable (hbusy : ∀ k, w.status k = deviceBusy.toUInt32) (hmono : Monotone fun k => (w.time k).toNat)
  (hpolls : ∀ t status, P (.poll t status)) (hnows : ∀ t, P (.now t))

include hbusy hmono hpolls in
theorem always_lastPoll {k₀ fuel k : Nat} (hk : k₀ ≤ k) (hlate : timeout.toNat ≤ (w.time k).toNat) :
    Always (env w) P lastPoll k (TimesOut w timeout fuel k₀) := by
  refine (always_poll (Q := fun status k' => status = deviceBusy.toUInt32 ∧ k' = k + 1) hbusy hpolls ⟨rfl, rfl⟩).bind ?_
  rintro _ _ ⟨rfl, rfl⟩
  have hnext : (w.time k).toNat ≤ (w.time (k + 1)).toNat := hmono (Nat.le_succ k)
  refine .pure ⟨by omega, fun r hr => ?_, nofun⟩
  cases hr
  exact ⟨rfl, by omega⟩

include hbusy hmono hpolls hnows in
theorem always_pollLoop {pause : WaitM Unit} (hpause : ∀ k, Always (env w) P pause k fun _ k' => k ≤ k') :
    ∀ fuel k : Nat, Always (env w) P (pollLoop pause timeout fuel) k (TimesOut w timeout fuel k)
  | 0, k => .pure ⟨le_rfl, nofun, fun _ => nofun⟩
  | fuel + 1, k => by
    refine (always_poll (Q := fun status k' => status = deviceBusy.toUInt32 ∧ k' = k + 1) hbusy hpolls
      ⟨rfl, rfl⟩).bind ?_
    rintro _ _ ⟨rfl, rfl⟩
    refine (hpause (k + 1)).bind fun _ k₂ hk₂ => ?_
    refine (always_now (Q := fun t k' => t = w.time k₂ ∧ k' = k₂ + 1) hnows ⟨rfl, rfl⟩).bind ?_
    rintro _ _ ⟨rfl, rfl⟩
    by_cases ht : w.time k₂ < timeout
    · rw [if_pos ht]
      refine (always_pollLoop hpause fuel (k₂ + 1)).mono fun x k' hx => ?_
      obtain ⟨hk', htimed, hnone⟩ := hx
      refine ⟨by omega, htimed, fun hx n hn => ?_⟩
      -- the clock has been looked at in this round, and again in the rounds behind it
      rw [UInt64.lt_iff_toNat_lt] at ht
      rcases n with _ | n
      · have hle : (w.time (k + 0)).toNat ≤ (w.time k₂).toNat := hmono (by omega)
        omega
      · have hle : (w.time (k + (n + 1))).toNat ≤ (w.time (k₂ + 1 + n)).toNat := hmono (by omega)
        have hlt := hnone hx n (by omega)
        omega
    · rw [if_neg ht]
      rw [UInt64.lt_iff_toNat_lt] at ht
      have hnext : (w.time k₂).toNat ≤ (w.time (k₂ + 1)).toNat := hmono (Nat.le_succ k₂)
      exact always_lastPoll hbusy hmono hpolls (by omega) (by omega)

end

/-! ## alpha_8, when it does not erase -/

section

variable {w : World} {timeout : TimeUs} {curCmd : UInt8} (hcmd : curCmd ≠ cEraseExecute.toUInt8)
  (hbusy : ∀ k, w.status k = deviceBusy.toUInt32)

/-- The calls of a round of alpha_8 that finds the device busy. -/
def lookRound (w : World) (k : Nat) : List Asked :=
  [.now (w.time k), .poll (w.time (k + 1)) deviceBusy.toUInt32, .sleep (w.time (k + 2)) nandPollIntervalUs]

include hcmd hbusy in
theorem run_alpha8_again {fuel k : Nat} (ht : w.time k < timeout) :
    run (env w) (Alpha8.nandWaitLoop curCmd timeout (fuel + 1)) k =
      (lookRound w k ++ (run (env w) (Alpha8.nandWaitLoop curCmd timeout fuel) (k + 3)).1,
        (run (env w) (Alpha8.nandWaitLoop curCmd timeout fuel) (k + 3)).2) := by
  rw [Alpha8.nandWaitLoop, run_bind, now, run_call]
  simp only [env, ht, if_true]
  rw [run_bind, gpioGet, run_call]
  simp only [env, hbusy, hcmd, if_false]
  rw [if_neg (show deviceBusy.toUInt32 ≠ deviceReady.toUInt32 by decide), run_bind, usleep, run_call]
  rfl

include hbusy in
/-- Behind the timeout the command makes no difference. -/
theorem run_alpha8_last {fuel k : Nat} (ht : ¬ w.time k < timeout) :
    run (env w) (Alpha8.nandWaitLoop curCmd timeout (fuel + 1)) k =
      ([.now (w.time k), .poll (w.time (k + 1)) deviceBusy.toUInt32], some (some (-1), k + 2)) := by
  rw [Alpha8.nandWaitLoop, run_bind, now, run_call]
  simp only [env, ht, if_false]
  rw [lastPoll, run_bind, gpioGet, run_call]
  simp only [env, hbusy]
  rfl

variable (timeout) in
include hcmd hbusy in
theorem alpha8_timesOut (hmono : Monotone fun k => (w.time k).toNat) :
    ∀ fuel k : Nat, ∃ x k', (run (env w) (Alpha8.nandWaitLoop curCmd timeout fuel) k).2 = some (x, k') ∧
      TimesOut w timeout fuel k x k'
  | 0, k => ⟨none, k, rfl, le_rfl, nofun, fun _ => nofun⟩
  | fuel + 1, k => by
    by_cases ht : w.time k < timeout
    · obtain ⟨x, k', hr, hk', htimed, hnone⟩ := alpha8_timesOut hmono fuel (k + 3)
      rw [run_alpha8_again hcmd hbusy ht]
      refine ⟨x, k', hr, by omega, htimed, fun hx n hn => ?_⟩
      rw [UInt64.lt_iff_toNat_lt] at ht
      rcases n with _ | n
      · exact ht
      · have hle : (w.time (k + (n + 1))).toNat ≤ (w.time (k + 3 + n)).toNat := hmono (by omega)
        have hlt := hnone hx n (by omega)
        omega
    · rw [run_alpha8_last hbusy ht]
      rw [UInt64.lt_iff_toNat_lt] at ht
      have hle : (w.time k).toNat ≤ (w.time (k + 2)).toNat := hmono (by omega)
      refine ⟨_, _, rfl, by omega, fun r hr => ?_, nofun⟩
      cases hr
      exact ⟨rfl, by omega⟩

include hcmd hbusy in
theorem alpha8_alternates : ∀ fuel k : Nat,
    ((run (env w) (Alpha8.nandWaitLoop curCmd timeout fuel) k).1.filter isPause).IsChain Alternate ∧
      ∀ e ∈ ((run (env w) (Alpha8.nandWaitLoop curCmd timeout fuel) k).1.filter isPause).head?, e.isPoll = true
  | 0, _ => ⟨List.isChain_nil, nofun⟩
  | fuel + 1, k => by
    by_cases ht : w.time k < timeout
    · obtain ⟨hchain, hhead⟩ := alpha8_alternates fuel (k + 3)
      have hround : (lookRound w k).filter isPause =
          [.poll (w.time (k + 1)) deviceBusy.toUInt32, .sleep (w.time (k + 2)) nandPollIntervalUs] := rfl
      rw [run_alpha8_again hcmd hbusy ht, List.filter_append, hround]
      refine ⟨List.isChain_cons_cons.2 ⟨Bool.noConfusion, List.isChain_cons.2 ⟨fun e he => ?_, hchain⟩⟩, fun e he => ?_⟩
      · unfold Alternate
        rw [hhead e he]
        exact Bool.noConfusion
      · cases he
        rfl
    · rw [run_alpha8_last hbusy ht]
      refine ⟨List.isChain_singleton _, fun e he => ?_⟩
      cases he
      rfl

end

/-! ## The unit test -/

/-- What `test_wait()` measures: the value returned, and the time that has gone by. -/
def testWait (wait : UInt32 → WaitM (Option Int)) (timeoutUs : UInt32) : WaitM (Option (Int × TimeUs)) := do
  let timeStart ← now
  let retVal ← wait timeoutUs
  let timeEnd ← now
  pure (retVal.map fun r => (r, timeEnd - timeStart))

section

variable (w : World) (wait : UInt32 → WaitM (Option Int)) (timeoutUs : UInt32)

/-- What the test finds out; nothing, where it waits for ever. -/
def measured : Option (Int × TimeUs) := (run (env w) (testWait wait timeoutUs) 0).2.bind Prod.fst

/-- The calls that the wait makes in the test. -/
def waitCalls : List Asked := (run (env w) (wait timeoutUs) 1).1

/-- `timeout_pass` and `wait_pass` -/
def PassesTimeout : Prop := ∃ elapsed, measured w wait timeoutUs = some (-1, elapsed) ∧ timeoutUs.toUInt64 ≤ elapsed

/-- It sleeps between a poll and the next. -/
def Naps : Prop := ((waitCalls w wait timeoutUs).filter isPause).IsChain Alternate

def NeverSleeps : Prop := ∀ e ∈ waitCalls w wait timeoutUs, e.isSleep = false

end

section

variable {w : World} {wait : UInt32 → WaitM (Option Int)} {timeoutUs : UInt32}

theorem run_answered {α : Type} (w : World) (p : WaitM α) (k : Nat) : ∃ a k', (run (env w) p k).2 = some (a, k') := by
  have hsome : (run (env w) p k).2.isSome := by
    refine run_returns (P := fun _ => True) (fun o s _ => ?_) (.trivial p) k
    cases o <;> rfl
  obtain ⟨⟨a, k'⟩, h⟩ := Option.isSome_iff_exists.1 hsome
  exact ⟨a, k', h⟩

theorem measured_eq {x : Option Int} {k : Nat} (h : (run (env w) (wait timeoutUs) 1).2 = some (x, k)) :
    measured w wait timeoutUs = x.map fun r => (r, w.time k - w.time 0) := by
  unfold measured testWait
  rw [run_bind, now, run_call]
  simp only [env]
  rw [run_bind]
  rcases hr : run (env w) (wait timeoutUs) 1 with ⟨l, y⟩
  rw [hr] at h
  dsimp only at h
  subst h
  rfl

/-- A program that does not return on a device that is busy for ever. -/
theorem run_busy {p : WaitM (Option Int)} (hbusy : ∀ k, w.status k = deviceBusy.toUInt32)
    (h : p.Ensures Busy fun x => x = none) (k : Nat) : ∃ k', (run (env w) p k).2 = some (none, k') := by
  obtain ⟨x, k', hr⟩ := run_answered w p k
  have hnone : x = none := by
    refine h.run (fun o s r s' ho => ?_) hr
    cases o with
    | gpioGet pin =>
      cases ho
      exact hbusy s
    | now => trivial
    | usleep us => trivial
  exact ⟨k', by rw [hr, hnone]⟩

/-- A wait that begins with a look at the clock. -/
theorem run_start (loop : TimeUs → WaitM (Option Int)) :
    run (env w) (now >>= loop) 1 =
      (.now (w.time 1) :: (run (env w) (loop (w.time 1)) 2).1, (run (env w) (loop (w.time 1)) 2).2) := by
  rw [run_bind, now, run_call]
  rfl

variable (hmono : Monotone fun k => (w.time k).toNat) (hfit : (w.time 1).toNat + timeoutUs.toNat < 2 ^ 64)

include hmono hfit in
theorem passesTimeout_of_timesOut {fuel k : Nat} {x : Option Int}
    (hreach : ∃ n < fuel, (w.time 1).toNat + timeoutUs.toNat ≤ (w.time (2 + n)).toNat)
    (hr : (run (env w) (wait timeoutUs) 1).2 = some (x, k))
    (h : TimesOut w (w.time 1 + timeoutUs.toUInt64) fuel 2 x k) : PassesTimeout w wait timeoutUs := by
  have htimeout : (w.time 1 + timeoutUs.toUInt64).toNat = (w.time 1).toNat + timeoutUs.toNat := by
    rw [UInt64.toNat_add, UInt32.toNat_toUInt64, Nat.mod_eq_of_lt hfit]
  obtain ⟨hk, htimed, hnone⟩ := h
  cases x with
  | none =>
    obtain ⟨n, hn, hle⟩ := hreach
    have hlt := hnone rfl n hn
    omega
  | some r =>
    obtain ⟨rfl, hlate⟩ := htimed r rfl
    have hstart : (w.time 0).toNat ≤ (w.time 1).toNat := hmono (Nat.zero_le 1)
    refine ⟨w.time k - w.time 0, measured_eq hr, ?_⟩
    rw [UInt64.le_iff_toNat_le, UInt64.toNat_sub_of_le _ _ (UInt64.le_iff_toNat_le.2 (by omega)), UInt32.toNat_toUInt64]
    omega

variable (hbusy : ∀ k, w.status k = deviceBusy.toUInt32)

include hmono hfit hbusy in
theorem pollWait_passesTimeout {pause : WaitM Unit} {fuel : Nat}
    (hpause : ∀ k, Always (env w) (fun _ => True) pause k fun _ k' => k ≤ k')
    (hreach : ∃ n < fuel, (w.time 1).toNat + timeoutUs.toNat ≤ (w.time (2 + n)).toNat) :
    PassesTimeout w (pollWait pause fuel) timeoutUs := by
  obtain ⟨x, k, hr⟩ := run_answered w (pollWait pause fuel timeoutUs) 1
  refine passesTimeout_of_timesOut hmono hfit hreach hr ?_
  rw [pollWait, run_start] at hr
  exact (always_pollLoop hbusy hmono (fun _ _ => trivial) (fun _ => trivial) hpause fuel 2).result x k hr

include hmono hbusy in
theorem pollWait_neverSleeps (fuel : Nat) : NeverSleeps w (pollWait (pure ()) fuel) timeoutUs := by
  intro e he
  rw [waitCalls, pollWait, run_start] at he
  rcases List.mem_cons.1 he with rfl | he
  · rfl
  · exact (always_pollLoop (P := fun e => e.isSleep = false) hbusy hmono (fun _ _ => rfl) (fun _ => rfl)
      (fun _ => .pure le_rfl) fuel 2).events e he

theorem nandWait_naps (fuel : Nat) : Naps w (nandWait fuel) timeoutUs := by
  unfold Naps waitCalls nandWait
  rw [run_start]
  exact (loop_alternates w _ fuel 2).1

include hmono hfit hbusy in
theorem alpha8_passes {curCmd : UInt8} (hcmd : curCmd ≠ cEraseExecute.toUInt8) {fuel : Nat}
    (hreach : ∃ n < fuel, (w.time 1).toNat + timeoutUs.toNat ≤ (w.time (2 + n)).toNat) :
    PassesTimeout w (Alpha8.nandWait curCmd fuel) timeoutUs ∧ Naps w (Alpha8.nandWait curCmd fuel) timeoutUs := by
  constructor
  · obtain ⟨x, k, hr, htimes⟩ := alpha8_timesOut (w.time 1 + timeoutUs.toUInt64) hcmd hbusy hmono fuel 2
    refine passesTimeout_of_timesOut hmono hfit hreach ?_ htimes
    rw [Alpha8.nandWait, run_start]
    exact hr
  · unfold Naps waitCalls Alpha8.nandWait
    rw [run_start]
    exact (alpha8_alternates hcmd hbusy fuel 2).1

include hmono hfit hbusy in
/-- At a timeout that has passed at the first look at the clock, there is one more poll. -/
theorem alpha8_late {curCmd : UInt8} (hfirst : ¬ w.time 2 < w.time 1 + timeoutUs.toUInt64) {fuel : Nat}
    (hreach : ∃ n < fuel, (w.time 1).toNat + timeoutUs.toNat ≤ (w.time (2 + n)).toNat) :
    PassesTimeout w (Alpha8.nandWait curCmd fuel) timeoutUs ∧ Naps w (Alpha8.nandWait curCmd fuel) timeoutUs := by
  obtain ⟨fuel, rfl⟩ : ∃ m, fuel = m + 1 := by
    obtain ⟨n, hn, -⟩ := hreach
    exact ⟨fuel - 1, by omega⟩
  have hrun : run (env w) (Alpha8.nandWait curCmd (fuel + 1) timeoutUs) 1 =
      ([.now (w.time 1), .now (w.time 2), .poll (w.time 3) deviceBusy.toUInt32], some (some (-1), 4)) := by
    rw [Alpha8.nandWait, run_start, run_alpha8_last hbusy hfirst]
  have hle : (w.time 2).toNat ≤ (w.time 4).toNat := hmono (by omega)
  rw [UInt64.lt_iff_toNat_lt] at hfirst
  constructor
  · refine passesTimeout_of_timesOut hmono hfit hreach (congrArg Prod.snd hrun) ⟨by omega, fun r hr => ?_, nofun⟩
    cases hr
    exact ⟨rfl, by omega⟩
  · rw [Naps, waitCalls, hrun]
    exact List.isChain_singleton _

include hbusy in
theorem alpha8_hangs (hfirst : w.time 2 < w.time 1 + timeoutUs.toUInt64) (fuel : Nat) :
    measured w (Alpha8.nandWait cEraseExecute.toUInt8 fuel) timeoutUs = none := by
  have hrun : ∃ k, (run (env w) (Alpha8.nandWait cEraseExecute.toUInt8 fuel timeoutUs) 1).2 = some (none, k) := by
    rw [Alpha8.nandWait, run_start]
    cases fuel with
    | zero => exact ⟨2, rfl⟩
    | succ fuel =>
      obtain ⟨k, hk⟩ := run_busy hbusy (alpha8_eraseLoop_never fuel) 4
      refine ⟨k, ?_⟩
      rw [Alpha8.nandWaitLoop, run_bind, now, run_call]
      simp only [env, hfirst, if_true]
      rw [run_bind, gpioGet, run_call]
      simp only [env, hbusy]
      exact hk
  obtain ⟨k, hk⟩ := hrun
  rw [measured_eq hk]
  rfl

variable (timeoutUs) in
include hbusy in
theorem alpha3_measured (hlate : 25 ≤ (w.time 3).toNat) (fuel : Nat) :
    measured w (Alpha3.nandWait (fuel + 1)) timeoutUs = some (-1, w.time 4 - w.time 0) ∧
      waitCalls w (Alpha3.nandWait (fuel + 1)) timeoutUs =
        [.sleep (w.time 1) nandPollIntervalUs, .poll (w.time 2) deviceBusy.toUInt32, .now (w.time 3)] := by
  have hrun : run (env w) (Alpha3.nandWait (fuel + 1) timeoutUs) 1 =
      ([.sleep (w.time 1) nandPollIntervalUs, .poll (w.time 2) deviceBusy.toUInt32, .now (w.time 3)],
        some (some (-1), 4)) := by
    rw [Alpha3.nandWait, Alpha3.nandWaitLoop, run_bind, usleep, run_call]
    simp only [env]
    rw [run_bind, gpioGet, run_call]
    simp only [env, hbusy]
    rw [if_neg (show deviceBusy.toUInt32 ≠ deviceReady.toUInt32 by decide), run_bind, now, run_call]
    simp only [env]
    have hnot : ¬ w.time 3 < nandPollIntervalUs.toUInt64 := by
      rw [UInt64.lt_iff_toNat_lt]
      show ¬ (w.time 3).toNat < 25
      omega
    rw [if_neg hnot]
    rfl
  refine ⟨measured_eq (by rw [hrun]), ?_⟩
  rw [waitCalls, hrun]

end

theorem always_usleep_le {us : UInt32} (w : World) (k : Nat) :
    Always (env w) (fun _ => True) (usleep us) k fun _ k' => k ≤ k' :=
  always_usleep (fun _ _ => trivial) (Nat.le_succ k)

/-- On a device that is busy for ever, with a clock that shows the timeout before the rounds end: alpha_0 times out
and sleeps between polls; alpha_1 times out and never sleeps; alpha_7 is like alpha_0 when it erases, and like
alpha_1 when it does not; alpha_2 waits for ever; alpha_3 returns behind one poll, so that the timeout has passed
only if it is as short as that; and alpha_8 waits for ever when it erases and finds at its first look at the clock
that the timeout is still to come, and is like alpha_0 otherwise. -/
theorem testWait_verdicts {w : World} (hbusy : ∀ k, w.status k = deviceBusy.toUInt32)
    (hmono : Monotone fun k => (w.time k).toNat) {timeoutUs : UInt32}
    (hfit : (w.time 1).toNat + timeoutUs.toNat < 2 ^ 64) {fuel : Nat}
    (hreach : ∃ n < fuel, (w.time 1).toNat + timeoutUs.toNat ≤ (w.time (2 + n)).toNat) :
    (PassesTimeout w (nandWait fuel) timeoutUs ∧ Naps w (nandWait fuel) timeoutUs) ∧
    (PassesTimeout w (Alpha1.nandWait fuel) timeoutUs ∧ NeverSleeps w (Alpha1.nandWait fuel) timeoutUs) ∧
    (∀ n, measured w (Alpha2.nandWait n) timeoutUs = none) ∧
    (25 ≤ (w.time 3).toNat → Naps w (Alpha3.nandWait fuel) timeoutUs ∧
      (PassesTimeout w (Alpha3.nandWait fuel) timeoutUs ↔ timeoutUs.toUInt64 ≤ w.time 4 - w.time 0)) ∧
    (∀ curCmd, PassesTimeout w (Alpha7.nandWait curCmd fuel) timeoutUs ∧
      if curCmd = cEraseExecute.toUInt8 then Naps w (Alpha7.nandWait curCmd fuel) timeoutUs
      else NeverSleeps w (Alpha7.nandWait curCmd fuel) timeoutUs) ∧
    ∀ curCmd, if curCmd = cEraseExecute.toUInt8 ∧ w.time 2 < w.time 1 + timeoutUs.toUInt64 then
        ∀ n, measured w (Alpha8.nandWait curCmd n) timeoutUs = none
      else PassesTimeout w (Alpha8.nandWait curCmd fuel) timeoutUs ∧
        Naps w (Alpha8.nandWait curCmd fuel) timeoutUs := by
  have hsleeping : PassesTimeout w (pollWait (usleep nandPollIntervalUs) fuel) timeoutUs :=
    pollWait_passesTimeout hmono hfit hbusy (always_usleep_le w) hreach
  have hspinning : PassesTimeout w (pollWait (pure ()) fuel) timeoutUs :=
    pollWait_passesTimeout hmono hfit hbusy (fun _ => .pure le_rfl) hreach
  have halpha0 : pollWait (usleep nandPollIntervalUs) fuel = nandWait fuel := funext (pollWait_usleep fuel)
  refine ⟨⟨halpha0 ▸ hsleeping, nandWait_naps fuel⟩, ⟨hspinning, pollWait_neverSleeps hmono hbusy fuel⟩,
    fun n => ?_, fun hlate => ?_, fun curCmd => ?_, fun curCmd => ?_⟩
  · obtain ⟨k, hk⟩ := run_busy hbusy (alpha2_never n timeoutUs) 1
    rw [measured_eq hk]
    rfl
  · obtain ⟨fuel, rfl⟩ : ∃ m, fuel = m + 1 := by
      obtain ⟨n, hn, -⟩ := hreach
      exact ⟨fuel - 1, by omega⟩
    obtain ⟨hmeasured, hcalls⟩ := alpha3_measured timeoutUs hbusy hlate fuel
    refine ⟨?_, ?_⟩
    · rw [Naps, hcalls]
      exact List.isChain_cons_cons.2 ⟨Bool.noConfusion, List.isChain_singleton _⟩
    · rw [PassesTimeout, hmeasured]
      constructor
      · rintro ⟨elapsed, h, hle⟩
        cases h
        exact hle
      · exact fun hle => ⟨_, rfl, hle⟩
  · by_cases hcmd : curCmd = cEraseExecute.toUInt8
    · have halpha7 : Alpha7.nandWait curCmd fuel = nandWait fuel := by
        rw [← halpha0]
        funext us
        rw [Alpha7.nandWait, if_pos hcmd]
      rw [if_pos hcmd, halpha7]
      exact ⟨halpha0 ▸ hsleeping, nandWait_naps fuel⟩
    · have halpha7 : Alpha7.nandWait curCmd fuel = pollWait (pure ()) fuel := by
        funext us
        rw [Alpha7.nandWait, if_neg hcmd]
      rw [if_neg hcmd, halpha7]
      exact ⟨hspinning, pollWait_neverSleeps hmono hbusy fuel⟩
  · by_cases hhangs : curCmd = cEraseExecute.toUInt8 ∧ w.time 2 < w.time 1 + timeoutUs.toUInt64
    · rw [if_pos hhangs, hhangs.1]
      exact alpha8_hangs hbusy hhangs.2
    · rw [if_neg hhangs]
      by_cases hcmd : curCmd = cEraseExecute.toUInt8
      · exact alpha8_late hmono hfit hbusy (fun hfirst => hhangs ⟨hcmd, hfirst⟩) hreach
      · exact alpha8_passes hmono hfit hbusy hcmd hreach

/-- A clock that each call moves on by 30, for a while, and a device that is busy. -/
def busyWorld : World where
  time k := UInt64.ofNat (min (30 * k) 9000)
  status _ := deviceBusy.toUInt32

theorem busyWorld_time (k : Nat) : (busyWorld.time k).toNat = min (30 * k) 9000 :=
  UInt64.toNat_ofNat_of_lt' (show min (30 * k) 9000 < 2 ^ 64 by omega)

theorem testWait_verdicts_busy :
    (PassesTimeout busyWorld (nandWait 7) 200 ∧ Naps busyWorld (nandWait 7) 200) ∧
    (PassesTimeout busyWorld (Alpha1.nandWait 7) 200 ∧ NeverSleeps busyWorld (Alpha1.nandWait 7) 200) ∧
    (∀ n, measured busyWorld (Alpha2.nandWait n) 200 = none) ∧
    ¬ PassesTimeout busyWorld (Alpha3.nandWait 7) 200 ∧
    (Naps busyWorld (Alpha7.nandWait cEraseExecute.toUInt8 7) 200 ∧
      NeverSleeps busyWorld (Alpha7.nandWait cReadExecute.toUInt8 7) 200) ∧
    (∀ n, measured busyWorld (Alpha8.nandWait cEraseExecute.toUInt8 n) 200 = none) ∧
    PassesTimeout busyWorld (Alpha8.nandWait cReadExecute.toUInt8 7) 200 := by
  have hmono : Monotone fun k => (busyWorld.time k).toNat := by
    intro i j hij
    dsimp only
    rw [busyWorld_time, busyWorld_time]
    omega
  obtain ⟨halpha0, halpha1, halpha2, halpha3, halpha7, halpha8⟩ :=
    @testWait_verdicts busyWorld (fun _ => rfl) hmono 200 (by decide) 7 ⟨6, by decide, by decide⟩
  refine ⟨halpha0, halpha1, halpha2, fun h => absurd ((halpha3 (by decide)).2.1 h) (by decide), ?_, ?_, ?_⟩
  · exact ⟨(halpha7 cEraseExecute.toUInt8).2, (halpha7 cReadExecute.toUInt8).2⟩
  · have h := halpha8 cEraseExecute.toUInt8
    rwa [if_pos (by decide)] at h
  · have h := halpha8 cReadExecute.toUInt8
    rw [if_neg (by decide)] at h
    exact h.1

end NandRig.Driver
