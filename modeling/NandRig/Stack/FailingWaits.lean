/-
The stack with waits that can fail. Where a wait that returns 0 has seen the device ready, no access comes too
early, and a call that gives up has stored the pages or blocks of its first EXECUTEs and no others. The wait of
alpha_3, whose timeout has always passed, fails behind the first EXECUTE if that takes longer than a poll.
-/
import NandRig.Stack.FlawedTests
import NandRig.Stack.FlawedWaits

namespace NandRig.Stack

open Emulator Framework Driver Interact Wait
open Tester hiding blockSize

/-! ## Honest waits -/

/-- What is asked of waits on clocks with `I`: one that returns 0 leaves the device ready. -/
structure HonestWaits (waiting : Waiting) (I : Clock → Prop) : Prop where
  after : ∀ {c : Clock} (n : Nat), I c → I (c.after n)
  zero : ∀ {us d c c'}, I c → waiting us d c = some (0, c') → Ready d c' ∧ I c'

/-- The program makes no request to wait. -/
abbrev NoWait {α : Type} (p : DriverM α) : Prop := p.Only fun o => ∀ us, o ≠ .wait us

theorem noWait_nandRead (buffer : Buffer) (pos : Nat) (length : UInt32) :
    NoWait (Alpha0.nandRead buffer pos length) := by
  induction buffer, pos, length using Alpha0.nandRead.induct with
  | case1 buffer pos =>
    rw [Alpha0.nandRead, dif_pos rfl]
    trivial
  | case2 buffer pos length hne ih =>
    rw [Alpha0.nandRead, dif_neg hne]
    exact Prog.Only.bind (Prog.Only.call fun us h => by cases h) ih

/-- The requests in front of an EXECUTE. -/
def Prepares {α : Type} (p : DriverM α) : Prop :=
  p.Only fun o => ∃ offset value, o = .store offset value ∧ isExecute o = false

theorem prepares_setup (k : Kind) : Prepares (ask (.store ioregCommand k.setup.toUInt8)) :=
  Prog.Only.call ⟨_, _, rfl, isExecute_setup k⟩

theorem prepares_address (value : UInt8) : Prepares (ask (.store ioregAddress value)) :=
  Prog.Only.call ⟨_, _, rfl, rfl⟩

theorem prepares_nandProgram (buffer : Buffer) (pos : Nat) (length : UInt32) :
    Prepares (Alpha0.nandProgram buffer pos length) := by
  induction pos, length using Alpha0.nandProgram.induct with
  | case1 pos =>
    rw [Alpha0.nandProgram, dif_pos rfl]
    trivial
  | case2 pos length hne ih =>
    rw [Alpha0.nandProgram, dif_neg hne]
    exact Prog.Only.bind (Prog.Only.call ⟨_, _, rfl, rfl⟩) fun _ => ih

theorem Prepares.noWait {α : Type} {p : DriverM α} (h : Prepares p) : NoWait p := by
  refine h.mono fun o ho us => ?_
  obtain ⟨offset, value, rfl, -⟩ := ho
  exact nofun

section

variable {waiting : Waiting} {I : Clock → Prop}

/-- Waits that never return keep the law. -/
theorem neverWaits_law (hafter : ∀ {c : Clock} (n : Nat), I c → I (c.after n)) :
    WaitLaw (fun _ _ _ => none) I where
  after := hafter
  ready _ _ := nofun
  executed _ _ := nofun

/-- What holds on waits that never return holds on any, where nothing waits. -/
theorem always_of_noWait {α : Type} {p : DriverM α} (hp : NoWait p) {s : Sys} {Q : α → Sys → Prop}
    (h : Always (env fun _ _ _ => none) Trace.OnTime p s Q) : Always (env waiting) Trace.Ready p s Q := by
  have hrun : run (env waiting) p s = run (env fun _ _ _ => none) p s := by
    refine run_congr (fun o s ho => ?_) hp s
    cases o with
    | wait us => exact absurd rfl (ho us)
    | store offset value => rfl
    | load => rfl
    | abort => rfl
  constructor <;> rw [hrun]
  · exact fun e he => (h.events e he).ready
  · exact h.result

/-- An EXECUTE and the wait behind it: the program goes on behind the result 0, and gives up behind any other. -/
theorem HonestWaits.execute (hwaits : HonestWaits waiting I) {α : Type} {s : Sys} (h : Timely I s) (k : Kind) {x : α}
    {p : DriverM α} {Q : α → Sys → Prop} (hp : ∀ s', Calm I s' → Always (env waiting) Trace.Ready p s' Q)
    (hx : ∀ s', Q x s') :
    Always (env waiting) Trace.Ready
      (ask (.store ioregCommand k.execute.toUInt8) >>= fun _ => ask (.wait (timeoutOf k)) >>= fun r =>
        if r ≠ 0 then pure x else p) s Q := by
  have hstore : Always (env waiting) Trace.Ready (ask (.store ioregCommand k.execute.toUInt8)) s fun _ s' =>
      InStorage s'.device.store ∧ I s'.clock ∧
        (s'.device.machineState = .bug ∨ ∀ j : Kind, commandOf s'.ioregisters.toUInt32 ≠ j.execute) := by
    refine Always.call (fun e he => (trap_onTime h e he).ready) fun _ s' hs' => ?_
    obtain ⟨r, htrap⟩ := env_store_some hs'
    have hcommand : commandOf (setByte s.ioregisters ioregCommand k.execute.toUInt8).toUInt32 = k.execute := by
      rw [commandOf_setByte_command]
      cases k <;> rfl
    obtain ⟨hs, hclock, hcalm, -⟩ := trap_execute h hcommand htrap
    exact ⟨hs, hclock ▸ hwaits.after 2 h.clock, hcalm⟩
  refine hstore.bind fun _ s₁ ⟨hs₁, hclock₁, hcommand₁⟩ => ?_
  have hwait : Always (env waiting) Trace.Ready (ask (.wait (timeoutOf k))) s₁ fun r s' => r = 0 → Calm I s' := by
    refine Always.call (fun e he => ?_) fun r s' hs' => ?_
    · obtain rfl := List.mem_singleton.1 he
      trivial
    · obtain ⟨c, hw, rfl⟩ := env_wait_some hs'
      rintro rfl
      obtain ⟨hready, hc⟩ := hwaits.zero hclock₁ hw
      exact ⟨⟨hs₁, hc, hready⟩, hcommand₁⟩
  refine hwait.bind fun r s₂ hcalm => ?_
  by_cases hr : r = 0
  · rw [if_neg (not_not.2 hr)]
    exact hp s₂ (hcalm hr)
  · rw [if_pos hr]
    exact .pure (hx s₂)

/-! ## Framework calls -/

/-- The value is 0, with the device ready, or -1. -/
def Concludes (I : Clock → Prop) (value : Int) (s : Sys) : Prop := value = 0 ∧ Timely I s ∨ value = -1

theorem HonestWaits.jtWriteLoop (hwaits : HonestWaits waiting I) (buffer : Buffer) (bytesLeft cursor : UInt32)
    (byteAddr : UInt8) {s : Sys} (h : Calm I s) :
    Always (env waiting) Trace.Ready (jtWriteLoop Alpha0.jumpTable buffer bytesLeft cursor byteAddr) s
      (Concludes I) := by
  induction bytesLeft, cursor, byteAddr using jtWriteLoop.induct generalizing s with
  | case1 cursor byteAddr =>
    rw [Framework.jtWriteLoop, dif_pos rfl]
    exact .pure (.inl ⟨rfl, h.toTimely⟩)
  | case2 bytesLeft cursor byteAddr hne size =>
    rename_i ih
    rw [Framework.jtWriteLoop, dif_neg hne]
    refine (always_of_noWait (prepares_nandProgram ..).noWait
      (always_nandProgram (neverWaits_law (I := I) hwaits.after) buffer _ _ h)).bind fun _ s₁ h₁ => ?_
    exact hwaits.execute h₁.toTimely .program (fun s₂ h₂ => ih h₂) fun _ => .inr rfl

theorem HonestWaits.jtReadLoop (hwaits : HonestWaits waiting I) (buffer : Buffer) (bytesLeft cursor : UInt32)
    (byteAddr : UInt8) {s : Sys} (h : Calm I s) :
    Always (env waiting) Trace.Ready (jtReadLoop Alpha0.jumpTable buffer bytesLeft cursor byteAddr) s
      fun r s' => Concludes I r.2 s' := by
  induction buffer, bytesLeft, cursor, byteAddr using jtReadLoop.induct generalizing s with
  | case1 buffer cursor byteAddr =>
    rw [Framework.jtReadLoop, dif_pos rfl]
    exact .pure (.inl ⟨rfl, h.toTimely⟩)
  | case2 buffer bytesLeft cursor byteAddr hne ih =>
    rw [Framework.jtReadLoop, dif_neg hne]
    refine hwaits.execute h.toTimely .read (fun s₁ h₁ => ?_) fun _ => .inr rfl
    exact (always_of_noWait (noWait_nandRead ..)
      (always_nandRead (neverWaits_law (I := I) hwaits.after) buffer _ _ h₁)).bind fun buffer' s₂ h₂ => ih buffer' h₂

theorem HonestWaits.jtEraseLoop (hwaits : HonestWaits waiting I) (numBlocks b : UInt32) {s : Sys} (h : Calm I s) :
    Always (env waiting) Trace.Ready (jtEraseLoop Alpha0.jumpTable numBlocks b) s (Concludes I) := by
  induction b using jtEraseLoop.induct numBlocks generalizing s with
  | case1 b hlt ih =>
    rw [Framework.jtEraseLoop, dif_pos hlt]
    exact hwaits.execute h.toTimely .erase (fun s₁ h₁ => ih h₁) fun _ => .inr rfl
  | case2 b hge =>
    rw [Framework.jtEraseLoop, dif_neg hge]
    exact .pure (.inl ⟨rfl, h.toTimely⟩)

/-- The SETUP and the three address bytes of a read or a write. -/
def pageAddresses (setup : UInt8) (offset : UInt32) : DriverM Unit := do
  ask (.store ioregCommand setup)
  ask (.store ioregAddress (offset / blockSize).toUInt8)
  ask (.store ioregAddress (offset / numPages).toUInt8)
  ask (.store ioregAddress (offset % numBytes).toUInt8)

/-- The SETUP and the addresses of a call. -/
def Call.addresses : Call → DriverM Unit
  | .write _ offset _ => pageAddresses cProgramSetup.toUInt8 offset
  | .read _ offset _ => pageAddresses cReadSetup.toUInt8 offset
  | .erase offset _ => do
    ask (.store ioregCommand cEraseSetup.toUInt8)
    ask (.store ioregAddress (offset / blockSize).toUInt8)

theorem prepares_addresses (call : Call) : Prepares call.addresses := by
  have hpage (k : Kind) (offset : UInt32) : Prepares (pageAddresses k.setup.toUInt8 offset) :=
    (prepares_setup k).bind fun _ => (prepares_address _).bind fun _ => (prepares_address _).bind fun _ =>
      prepares_address _
  cases call with
  | write buffer offset size => exact hpage .program offset
  | read buffer offset size => exact hpage .read offset
  | erase offset size => exact (prepares_setup .erase).bind fun _ => prepares_address _

theorem HonestWaits.addresses (hwaits : HonestWaits waiting I) (call : Call) {s : Sys} (h : Timely I s) :
    Always (env waiting) Trace.Ready call.addresses s fun _ s' => Calm I s' := by
  have hlaw := neverWaits_law (I := I) hwaits.after
  refine always_of_noWait (prepares_addresses call).noWait ?_
  have hpage (k : Kind) (offset : UInt32) : Always (env fun _ _ _ => none) Trace.OnTime
      (pageAddresses k.setup.toUInt8 offset) s fun _ s' => Calm I s' :=
    (always_setup hlaw h k).bind fun _ _ h₁ => (always_address hlaw h₁ _).bind fun _ _ h₂ =>
      (always_address hlaw h₂ _).bind fun _ _ h₃ => always_address hlaw h₃ _
  cases call with
  | write buffer offset size => exact hpage .program offset
  | read buffer offset size => exact hpage .read offset
  | erase offset size => exact (always_setup hlaw h .erase).bind fun _ _ h₁ => always_address hlaw h₁ _

theorem HonestWaits.perform (hwaits : HonestWaits waiting I) (call : Call) {s : Sys} (h : Timely I s) :
    Always (env waiting) Trace.Ready call.perform s fun ret s' => Concludes I ret.value s' := by
  cases call with
  | write buffer offset size =>
    have hw : Always (env waiting) Trace.Ready (writeNand Alpha0.getDriver buffer offset size) s (Concludes I) :=
      (hwaits.addresses (.write buffer offset size) h).bind fun _ s₁ h₁ => hwaits.jtWriteLoop buffer size 0 _ h₁
    exact hw.bind fun r s' h' => .pure h'
  | read buffer offset size =>
    have hr : Always (env waiting) Trace.Ready (readNand Alpha0.getDriver buffer offset size) s
        fun r s' => Concludes I r.2 s' :=
      (hwaits.addresses (.read buffer offset size) h).bind fun _ s₁ h₁ => hwaits.jtReadLoop buffer size 0 _ h₁
    exact hr.bind fun r s' h' => .pure h'
  | erase offset size =>
    have he : Always (env waiting) Trace.Ready (eraseNand Alpha0.getDriver offset size) s (Concludes I) :=
      (hwaits.addresses (.erase offset size) h).bind fun _ s₁ h₁ => hwaits.jtEraseLoop (blocksToErase offset size) 0 h₁
    exact he.bind fun r s' h' => .pure h'

/-- What a call leaves that may have failed: the work of its first `n` EXECUTEs, and of all the `units` if it
returns 0. -/
structure GivesUp (I : Clock → Prop) (call : Call) (s : Sys) (units n : Nat) (ret : Return) (s' : Sys) : Prop where
  value : ret.value = 0 ∨ ret.value = -1
  bound : n ≤ units
  storage : s'.device.store.dataStore = call.stored s.device.store.dataStore n
  success : ret.value = 0 → Timely I s' ∧ n = units ∧ ret.buffer = call.answer s.device.store.dataStore

/-- Of the EXECUTEs that the call counts. -/
theorem HonestWaits.givesUp (hwaits : HonestWaits waiting I) (call : Call) {s : Sys} (h : Timely I s)
    (hidle : Idle s.device) :
    (∀ e ∈ (run (env waiting) call.perform s).1, e.Accepted) ∧
    ∀ ret s', (run (env waiting) call.perform s).2 = some (ret, s') →
      GivesUp I call s call.total (executes (run (env waiting) call.perform s).1) ret s' := by
  obtain ⟨hready, hresult⟩ := hwaits.perform call h
  obtain ⟨hprogress, hends⟩ := @meets_perform waiting s h.inStorage hidle call
  refine ⟨accepted_of_progress fun l hl => hprogress l hl fun e he => hready e (hl.subset he), fun ret s' hs' => ?_⟩
  obtain ⟨⟨n, hat, -, htotal⟩, hbuffer⟩ := hends ret s' hs' hready
  have hn := hat.executes
  rw [List.nil_append] at hn
  rw [hn]
  refine ⟨?_, hat.bound, hat.storage, fun hzero => ?_⟩
  · exact (hresult ret s' hs').imp And.left id
  · rcases hresult ret s' hs' with ⟨-, htimely⟩ | hfailed
    · exact ⟨htimely, htotal hzero, hbuffer hzero⟩
    · rw [hzero] at hfailed
      cases hfailed

namespace Call

/-- The pages of the region of a transfer, or the blocks of that of an erase. -/
def units : Call → Nat
  | write _ offset size | read _ offset size => pageCount offset size
  | erase offset size => (offset.toNat % 65536 + size.toNat + 65535) / 65536

/-- An erase of no bytes may take a block, and the sum that counts the blocks must not overflow. -/
def Counted : Call → Prop
  | write _ _ _ | read _ _ _ => True
  | erase offset size => 1 ≤ size.toNat ∧ offset.toNat % 65536 + size.toNat < 2 ^ 32

theorem total_eq_units {call : Call} (h : call.Counted) : call.total = call.units := by
  cases call with
  | write buffer offset size => rfl
  | read buffer offset size => rfl
  | erase offset size => exact blocksToErase_toNat h.2

end Call

/-- On honest waits no access is rejected, and a call that fails has done a part of its work, and nothing else. -/
theorem honestWaits_giveUp (hwaits : HonestWaits waiting I) {call : Call} (hcounted : call.Counted) {s : Sys}
    (h : Timely I s) (hidle : Idle s.device) :
    (∀ e ∈ (run (env waiting) call.perform s).1, e.Accepted) ∧
    ∀ ret s', (run (env waiting) call.perform s).2 = some (ret, s') →
      GivesUp I call s call.units (executes (run (env waiting) call.perform s).1) ret s' := by
  rw [← Call.total_eq_units hcounted]
  exact hwaits.givesUp call h hidle

/-! ## A first wait that fails -/

namespace Call

def kind : Call → Kind
  | write _ _ _ => .program
  | read _ _ _ => .read
  | erase _ _ => .erase

/-- What a call asks in front of its first EXECUTE. -/
def opening : Call → DriverM Unit
  | write buffer offset size => do
    pageAddresses cProgramSetup.toUInt8 offset
    Alpha0.nandProgram buffer 0 (sizeInPage size (offset % numBytes).toUInt8)
  | call => call.addresses

theorem prepares_opening (call : Call) : Prepares call.opening := by
  cases call with
  | write buffer offset size =>
    exact Prog.Only.bind (prepares_addresses (.write buffer offset size)) fun _ => prepares_nandProgram ..
  | read buffer offset size => exact prepares_addresses (.read buffer offset size)
  | erase offset size => exact prepares_addresses (.erase offset size)

/-- A call, up to the wait behind its first EXECUTE. -/
theorem perform_eq {call : Call} (htotal : 1 ≤ call.total) : ∃ f : Int → DriverM Return,
    call.perform = (call.opening >>= fun _ => ask (.store ioregCommand call.kind.execute.toUInt8) >>= fun _ =>
      ask (.wait (timeoutOf call.kind)) >>= f) ∧ ∃ buffer, ∀ r, r ≠ 0 → f r = pure ⟨-1, buffer⟩ := by
  cases call with
  | write buffer offset size =>
    have hne : size ≠ 0 := fun h0 => absurd (pageCount_eq_zero.2 h0) (Nat.one_le_iff_ne_zero.1 htotal)
    let written := sizeInPage size (offset % numBytes).toUInt8
    refine ⟨fun r => (if r ≠ 0 then pure (-1)
      else jtWriteLoop Alpha0.jumpTable buffer (size - written) (0 + written) 0) >>= fun value => pure ⟨value, none⟩,
      ?_, none, fun r hr => ?_⟩
    · have hwrite : writeNand Alpha0.getDriver buffer offset size =
          pageAddresses cProgramSetup.toUInt8 offset >>= fun _ =>
            jtWriteLoop Alpha0.jumpTable buffer size 0 (offset % numBytes).toUInt8 := rfl
      rw [perform, hwrite, jtWriteLoop, dif_neg hne]
      simp only [bind_assoc, opening]
      rfl
    · dsimp only
      rw [if_pos hr]
      rfl
  | read buffer offset size =>
    have hne : size ≠ 0 := fun h0 => absurd (pageCount_eq_zero.2 h0) (Nat.one_le_iff_ne_zero.1 htotal)
    let toRead := sizeInPage size (offset % numBytes).toUInt8
    refine ⟨fun r => (if r ≠ 0 then pure (buffer, -1)
      else do
        let buffer ← Alpha0.nandRead buffer 0 toRead
        jtReadLoop Alpha0.jumpTable buffer (size - toRead) (0 + toRead) 0) >>= fun x => pure ⟨x.2, some x.1⟩,
      ?_, some buffer, fun r hr => ?_⟩
    · have hread : readNand Alpha0.getDriver buffer offset size =
          pageAddresses cReadSetup.toUInt8 offset >>= fun _ =>
            jtReadLoop Alpha0.jumpTable buffer size 0 (offset % numBytes).toUInt8 := rfl
      rw [perform, hread, jtReadLoop, dif_neg hne]
      simp only [bind_assoc]
      rfl
    · dsimp only
      rw [if_pos hr]
      rfl
  | erase offset size =>
    have hlt : 0 < blocksToErase offset size := by
      rw [UInt32.lt_iff_toNat_lt]
      exact htotal
    refine ⟨fun r => (if r ≠ 0 then pure (-1)
      else jtEraseLoop Alpha0.jumpTable (blocksToErase offset size) (0 + 1)) >>= fun value => pure ⟨value, none⟩,
      ?_, none, fun r hr => ?_⟩
    · have herase : eraseNand Alpha0.getDriver offset size =
          Call.addresses (.erase offset size) >>= fun _ =>
            jtEraseLoop Alpha0.jumpTable (blocksToErase offset size) 0 := rfl
      rw [perform, herase, jtEraseLoop, dif_pos hlt]
      simp only [bind_assoc]
      rfl
    · dsimp only
      rw [if_pos hr]
      rfl

end Call

theorem HonestWaits.opening (hwaits : HonestWaits waiting I) (call : Call) {s : Sys} (h : Timely I s) :
    Always (env waiting) Trace.Ready call.opening s fun _ s' => Timely I s' := by
  cases call with
  | write buffer offset size =>
    refine (hwaits.addresses (.write buffer offset size) h).bind fun _ s₁ h₁ => ?_
    refine (always_of_noWait (prepares_nandProgram ..).noWait
      (always_nandProgram (neverWaits_law (I := I) hwaits.after) buffer _ _ h₁)).mono fun _ s₂ h₂ => h₂.toTimely
  | read buffer offset size => exact (hwaits.addresses (.read buffer offset size) h).mono fun _ s₁ h₁ => h₁.toTimely
  | erase offset size => exact (hwaits.addresses (.erase offset size) h).mono fun _ s₁ h₁ => h₁.toTimely

theorem executes_prepares {α : Type} {p : DriverM α} (hp : Prepares p) (s : Sys) :
    executes (run (env waiting) p s).1 = 0 := by
  refine List.countP_eq_zero.2 (run_events (P := fun e : Trace => ¬ e.isExecute) (fun o s ho e he => ?_) hp s)
  obtain ⟨offset, value, rfl, hnot⟩ := ho
  rw [env_store, trap, List.mem_singleton] at he
  subst he
  exact Bool.eq_false_iff.1 hnot

/-- An EXECUTE that is accepted sets the deadline. -/
theorem trap_accepted {op : Op} {w : UInt64} {s s' : Sys} {r : Reply} {k : Kind} (h : Timely I s)
    (hw : commandOf w.toUInt32 = k.execute) (htrap : (trap op w s).2 = some (r, s'))
    (haccepted : ∀ e ∈ (trap op w s).1, e.Accepted) :
    s'.clock = s.clock.after 2 ∧ s'.device.deadline = setDeadline (s.clock 1) k.duration := by
  obtain ⟨hr, rfl⟩ := trap_some htrap
  obtain ⟨r', hr', hbug⟩ := haccepted _ (List.mem_singleton_self _)
  rw [hr] at hr'
  cases hr'
  refine ⟨rfl, ?_⟩
  rcases (handle_inv h.inStorage hr).2 with ⟨-, hmove⟩ | ⟨-, rfl⟩
  · rcases hmove.deadline with ⟨j, hj, hd, -⟩ | ⟨hne, -⟩
    · obtain rfl : j = k := Kind.execute_injective (hj.symm.trans hw)
      exact hd
    · exact absurd hw (hne k)
  · exact absurd rfl hbug

theorem env_wait (us : UInt32) (s : Sys) :
    env waiting (.wait us) s = ([.waited us ((waiting us s.device s.clock).map Prod.fst)],
      (waiting us s.device s.clock).map fun x => (x.1, { s with clock := x.2 })) := rfl

/-- An EXECUTE and the wait behind it, where it is accepted and the wait fails. -/
theorem run_execute_fails {k : Kind} (hfails : ∀ {d c}, I c → d.deadline = setDeadline (c 1) k.duration →
      ∃ r c', waiting (timeoutOf k) d (c.after 2) = some (r, c') ∧ r ≠ 0)
    {α : Type} {x : α} {f : Int → DriverM α} (hf : ∀ r, r ≠ 0 → f r = pure x) {s : Sys} (h : Timely I s)
    (haccepted : ∀ e ∈ (run (env waiting) (ask (.store ioregCommand k.execute.toUInt8) >>= fun _ =>
      ask (.wait (timeoutOf k)) >>= f) s).1, e.Accepted) :
    ∃ l s', run (env waiting) (ask (.store ioregCommand k.execute.toUInt8) >>= fun _ =>
      ask (.wait (timeoutOf k)) >>= f) s = (l, some (x, s')) ∧ executes l = 1 := by
  have hstore : run (env waiting) (ask (.store ioregCommand k.execute.toUInt8)) s =
      ((trap (.store ioregCommand k.execute.toUInt8) (setByte s.ioregisters ioregCommand k.execute.toUInt8) s).1,
        (trap (.store ioregCommand k.execute.toUInt8)
          (setByte s.ioregisters ioregCommand k.execute.toUInt8) s).2.map fun y => ((), y.2)) := by
    rw [ask, run_call, env_store]
  have hfirst : ∀ e ∈ (trap (.store ioregCommand k.execute.toUInt8)
      (setByte s.ioregisters ioregCommand k.execute.toUInt8) s).1, e.Accepted :=
    fun e he => haccepted e (mem_run_bind _ (by rwa [hstore]))
  have hcommand : commandOf (setByte s.ioregisters ioregCommand k.execute.toUInt8).toUInt32 = k.execute := by
    rw [commandOf_setByte_command, execute_toUInt8_toUInt32]
  have hone : executes (trap (.store ioregCommand k.execute.toUInt8)
      (setByte s.ioregisters ioregCommand k.execute.toUInt8) s).1 = 1 := by
    cases k <;> rfl
  rcases htrap : (trap (.store ioregCommand k.execute.toUInt8)
      (setByte s.ioregisters ioregCommand k.execute.toUInt8) s).2 with _ | ⟨r, s₁⟩
  · obtain ⟨e, he, hrejected⟩ := rejected_of_trap_none htrap
    exact absurd (hfirst e he) hrejected
  · obtain ⟨hclock, hdeadline⟩ := trap_accepted h hcommand htrap hfirst
    obtain ⟨v, c, hw, hv⟩ := hfails h.clock hdeadline
    rw [← hclock] at hw
    rw [htrap] at hstore
    have hwait : run (env waiting) (ask (.wait (timeoutOf k))) s₁ =
        ([.waited (timeoutOf k) (some v)], some (v, { s₁ with clock := c })) := by
      rw [ask, run_call, env_wait, hw]
      rfl
    have hrest : run (env waiting) (ask (.wait (timeoutOf k)) >>= f) s₁ =
        ([.waited (timeoutOf k) (some v)], some (x, { s₁ with clock := c })) := by
      rw [run_bind_of hwait, hf v hv]
      rfl
    refine ⟨_, { s₁ with clock := c }, (run_bind_of hstore).trans (by rw [hrest]), ?_⟩
    unfold executes at hone ⊢
    rw [List.countP_append, hone]
    rfl

/-- Where the wait behind an EXECUTE fails, a call that makes one returns -1 behind its first page or block, which
it has stored or erased. -/
theorem firstWait_fails (hwaits : HonestWaits waiting I) {call : Call}
    (hfails : ∀ {d c}, I c → d.deadline = setDeadline (c 1) call.kind.duration →
      ∃ r c', waiting (timeoutOf call.kind) d (c.after 2) = some (r, c') ∧ r ≠ 0)
    (htotal : 1 ≤ call.total) {s : Sys} (h : Timely I s) (hidle : Idle s.device) :
    ∃ ret s', (run (env waiting) call.perform s).2 = some (ret, s') ∧ ret.value = -1 ∧
      s'.device.store.dataStore = call.stored s.device.store.dataStore 1 := by
  obtain ⟨haccepted, hgives⟩ := hwaits.givesUp call h hidle
  obtain ⟨f, hperform, buffer, hf⟩ := call.perform_eq htotal
  rw [hperform] at haccepted hgives ⊢
  -- the stores in front of the EXECUTE are answered
  have hopening : (run (env waiting) call.opening s).2.isSome := by
    refine returns_of_onlyStores (call.prepares_opening.mono fun o ho => ?_) fun e he => haccepted e (mem_run_bind _ he)
    obtain ⟨offset, value, rfl, -⟩ := ho
    exact ⟨offset, value, rfl⟩
  obtain ⟨⟨⟨⟩, s₁⟩, hs₁⟩ := Option.isSome_iff_exists.1 hopening
  have hstart := (hwaits.opening call h).result _ s₁ hs₁
  have hnone : executes (run (env waiting) call.opening s).1 = 0 := executes_prepares call.prepares_opening s
  rcases hr : run (env waiting) call.opening s with ⟨l₁, x⟩
  rw [hr] at hs₁ hnone
  dsimp only at hs₁ hnone
  subst hs₁
  rw [run_bind_of hr] at haccepted hgives ⊢
  obtain ⟨l₂, s₂, hrun, hone⟩ := run_execute_fails hfails hf hstart
    fun e he => haccepted e (List.mem_append_right l₁ he)
  rw [hrun] at hgives ⊢
  have hgives := hgives _ s₂ rfl
  refine ⟨_, s₂, rfl, rfl, ?_⟩
  have hcount : executes (l₁ ++ l₂) = 1 := by
    unfold executes at hnone hone ⊢
    rw [List.countP_append, hnone, hone]
  rw [hgives.storage, hcount]

end

/-! ## alpha_3 -/

/-- The wait of alpha_3 on the device. -/
def alpha3Waiting (fuel : Nat) : Waiting := fun us d c => waited d (Alpha3.nandWait fuel us) c

theorem waited_alpha3 {d : Device} {c : Clock} (hlate : 25 ≤ (c 1).toNat) (fuel : Nat) (us : UInt32) :
    alpha3Waiting (fuel + 1) us d c = if pollReady d (c 0) then some (0, c.after 1) else some (-1, c.after 2) := by
  have hpassed : ¬ c.after 1 0 < nandPollIntervalUs.toUInt64 := by
    rw [UInt64.lt_iff_toNat_lt]
    show ¬ (c 1).toNat < 25
    omega
  rw [alpha3Waiting, Alpha3.nandWait, Alpha3.nandWaitLoop, waited_usleep, waited_gpioGet]
  by_cases h0 : pollReady d (c 0) = true
  · rw [if_pos h0, if_pos (gpioGetStatus_ready.2 h0), waited_pure]
  · rw [if_neg h0, if_neg (fun h => h0 (gpioGetStatus_ready.1 h)), waited_now, if_neg hpassed, waited_pure,
      Clock.after_after]

/-- The readings are not those of the first moments, and an operation of kind `k` takes longer than from one to the
next. -/
structure FastClock (k : Kind) (c : Clock) : Prop extends ClockOk c where
  late : ∀ i, 25 ≤ (c i).toNat
  close : ∀ i, (c (i + 1)).toNat < (c i).toNat + k.duration.toNat

theorem FastClock.after {k : Kind} {c : Clock} (h : FastClock k c) (n : Nat) : FastClock k (c.after n) where
  toClockOk := h.toClockOk.after n
  late i := h.late (n + i)
  close i := h.close (n + i)

theorem alpha3_honest (fuel : Nat) (k : Kind) : HonestWaits (alpha3Waiting (fuel + 1)) (FastClock k) where
  after n h := h.after n
  zero {us d c c'} hc h := by
    rw [waited_alpha3 (hc.late 1)] at h
    split_ifs at h with h0
    · cases h
      exact ⟨hc.ready_of_le (pollReady_iff.1 h0) (Nat.zero_le 1), hc.after 1⟩
    · cases h

/-- The first poll comes before the deadline. -/
theorem alpha3_fails (fuel : Nat) {k : Kind} {d : Device} {c : Clock} (hc : FastClock k c)
    (hd : d.deadline = setDeadline (c 1) k.duration) :
    ∃ r c', alpha3Waiting (fuel + 1) (timeoutOf k) d (c.after 2) = some (r, c') ∧ r ≠ 0 := by
  have hb : (c 1).toNat + 2025 < 2 ^ 64 := hc.bounded 1
  have hclose : (c 2).toNat < (c 1).toNat + k.duration.toNat := hc.close 1
  obtain ⟨-, hduration⟩ := timeoutOf_toNat k
  have hbusy : ¬ pollReady d (c.after 2 0) = true := by
    rw [pollReady_iff, hd, setDeadline_toNat (by omega)]
    show ¬ _ ≤ (c 2).toNat
    omega
  refine ⟨-1, (c.after 2).after 2, ?_, by decide⟩
  rw [waited_alpha3 ((hc.after 2).late 1), if_neg hbusy]

/-- The wait behind the first EXECUTE gives up. -/
theorem alpha3_giveUp (fuel : Nat) {call : Call} (htotal : 1 ≤ call.total) {s : Sys}
    (h : Timely (FastClock call.kind) s) (hidle : Idle s.device) :
    ∃ ret s', (run (env (alpha3Waiting (fuel + 1))) call.perform s).2 = some (ret, s') ∧ ret.value = -1 ∧
      s'.device.store.dataStore = call.stored s.device.store.dataStore 1 :=
  firstWait_fails (alpha3_honest fuel call.kind) (alpha3_fails fuel) htotal h hidle

/-- The test has failed: it has printed that it could not write, and nothing else, and returned -1. -/
def FailsToWrite (driver : NandDriver) (waiting : Waiting) (data dest : Buffer) (rig : Rig) : Prop :=
  ∃ (l : List Trace) (rig' : Rig), run (rigEnv driver waiting) (stDeterministic data dest) rig =
    (l.map .machine ++ [.printed (.failedTo .write dataSize storageAddr)], some (-1, rig'))

theorem failsToWrite_of_run {driver : NandDriver} {waiting : Waiting} {rig : Rig} {data dest : Buffer} {value : Int}
    {s : Sys} (hvalue : value ≠ 0)
    (hwrite : (run (env waiting) (writeNand driver (dataInit data dataSize) storageAddr dataSize) rig.sys).2 =
      some (value, s)) : FailsToWrite driver waiting data dest rig := by
  obtain ⟨l, hw⟩ := rigEnv_write hwrite
  refine ⟨l, { rig with sys := s }, ?_⟩
  rw [stDeterministic]
  dsimp only
  rw [run_bind_of hw, if_pos hvalue]
  rfl

theorem Call.through_alpha3 (call : Call) : call.through Alpha3.getDriver = call.perform := by
  cases call <;> rfl

/-- With alpha_3, on a clock that an operation of its kind outlasts from one reading to the next, each call of a page
or a block at least returns -1, having stored or erased the first of them and no other; and the deterministic test
fails to write. -/
theorem alpha3_caught (fuel : Nat) :
    (∀ {call : Call} {s : Sys}, 1 ≤ call.total → Timely (FastClock call.kind) s → Idle s.device →
      ∃ ret s', (run (env (alpha3Waiting (fuel + 1))) (call.through Alpha3.getDriver) s).2 = some (ret, s') ∧
        ret.value = -1 ∧ s'.device.store.dataStore = call.stored s.device.store.dataStore 1) ∧
    ∀ (d : Device) (ioregisters : UInt64) {clock : Clock}, FastClock .program clock → ∀ (memory : Nat → Buffer)
      (data dest : Buffer), FailsToWrite Alpha3.getDriver (alpha3Waiting (fuel + 1)) data dest
        (bootRig d ioregisters clock memory) := by
  refine ⟨fun {call} _ htotal h hidle => call.through_alpha3 ▸ alpha3_giveUp fuel htotal h hidle, ?_⟩
  intro d ioregisters clock hclock memory data dest
  obtain ⟨ret, s, hs, hvalue, -⟩ := @alpha3_giveUp fuel (.write (dataInit data dataSize) storageAddr dataSize)
    (show 1 ≤ pageCount storageAddr dataSize by decide)
    (boot d ioregisters clock) (timely_boot d ioregisters hclock) (idle_boot d ioregisters clock)
  have hcall : Yields True (env (alpha3Waiting (fuel + 1)))
      (writeNand Alpha0.getDriver (dataInit data dataSize) storageAddr dataSize >>= fun value => pure ⟨value, none⟩)
      (boot d ioregisters clock) fun (ret : Return) _ => ret.value = -1 := by
    refine ⟨fun _ => Option.isSome_of_eq_some hs, fun ret' s' hs' => ?_⟩
    cases hs.symm.trans hs'
    exact hvalue
  obtain ⟨hreturns, hresult⟩ := hcall.of_map
  obtain ⟨⟨value, s'⟩, hwrite⟩ := Option.isSome_iff_exists.1 (hreturns trivial)
  have hfailed : value = -1 := hresult value s' hwrite
  exact failsToWrite_of_run (by rw [hfailed]; decide) hwrite

/-- A clock that moves on by 30 microseconds from one reading to the next. -/
def fastClock (i : Nat) : TimeUs := (25 + 30 * min i (10 ^ 12)).toUInt64

theorem fastClock_fast (k : Kind) : FastClock k fastClock := by
  have h (i : Nat) : (fastClock i).toNat = 25 + 30 * min i (10 ^ 12) := by
    unfold fastClock
    rw [Nat.toUInt64_eq, UInt64.toNat_ofNat']
    omega
  refine ⟨⟨fun i j hij => ?_, fun i => ?_⟩, fun i => ?_, fun i => ?_⟩
  · dsimp only
    rw [h, h]
    omega
  · rw [h]
    show _ + 2025 < _
    omega
  · rw [h]
    omega
  · have hlong : 100 ≤ k.duration.toNat := by cases k <;> decide
    rw [h, h]
    omega

theorem alpha3_caught_fast :
    (∃ ret s', (run (env (alpha3Waiting 1)) ((Call.erase 5 200000).through Alpha3.getDriver)
        (boot blankDevice 0 fastClock)).2 = some (ret, s') ∧ ret.value = -1 ∧
      s'.device.store.dataStore = Call.stored (fun _ => 0) (.erase 5 200000) 1) ∧
    FailsToWrite Alpha3.getDriver (alpha3Waiting 1) (fun _ => 0) (fun _ => 0)
      (bootRig blankDevice 0 fastClock fun _ _ => 0) :=
  ⟨(alpha3_caught 0).1 (by decide) (timely_boot blankDevice 0 (fastClock_fast .erase))
      (idle_boot blankDevice 0 fastClock),
    (alpha3_caught 0).2 blankDevice 0 (fastClock_fast .program) _ _ _⟩

/-- A write over three pages with the wait of alpha_3, which gives up behind the first. -/
theorem honestWaits_giveUp_alpha3 :
    (∀ e ∈ (run (env (alpha3Waiting 1)) (Call.perform (.write (fun i => i.toUInt8) 250 300))
      (boot blankDevice 0 fastClock)).1, e.Accepted) ∧
    ∀ ret s', (run (env (alpha3Waiting 1)) (Call.perform (.write (fun i => i.toUInt8) 250 300))
        (boot blankDevice 0 fastClock)).2 = some (ret, s') →
      GivesUp (FastClock .program) (.write (fun i => i.toUInt8) 250 300) (boot blankDevice 0 fastClock) 3
        (executes (run (env (alpha3Waiting 1)) (Call.perform (.write (fun i => i.toUInt8) 250 300))
          (boot blankDevice 0 fastClock)).1) ret s' :=
  @honestWaits_giveUp _ _ (alpha3_honest 0 .program) (.write (fun i => i.toUInt8) 250 300) True.intro _
    (timely_boot blankDevice 0 (fastClock_fast .program)) (idle_boot blankDevice 0 fastClock)

end NandRig.Stack
