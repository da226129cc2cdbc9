/-
The stack with the flawed read functions of alpha_6 and alpha_4: the device keeps the storage of the
mirror, and the reads hand out something else.
-/
import NandRig.Driver.FlawedReads
import NandRig.Stack.Drivers

namespace NandRig.Stack

open Emulator Framework Driver Interact Tester

/-! ## alpha_6 -/

/-- What a call through alpha_6 hands back where one through alpha_0 hands back `answer`. -/
def Call.turned : Call → (answer : Option Buffer) → Option Buffer
  | .read _ offset size, some filled =>
    some fun i => if i < size.toNat then filled (turnedIndex (offset.toNat % 256) size.toNat i) else filled i
  | _, answer => answer

/-- What alpha_6 returns of a call where alpha_0 returns `ret`. -/
structure ReturnsTurned (call : Call) (ret ret' : Return) : Prop where
  value : ret'.value = ret.value
  buffer : ret.value = 0 → ret'.buffer = call.turned ret.buffer

theorem through_alpha6 (call : Call) : Coupled (ReturnsTurned call) call.perform (call.through Alpha6.getDriver) := by
  cases call with
  | write buffer offset size =>
    have hwrite : writeNand Alpha6.getDriver buffer offset size = writeNand Alpha0.getDriver buffer offset size :=
      writeNand_readBuffer ..
    rw [Call.through, hwrite]
    exact .refl _ (ReturnsTurned _) fun _ => ⟨rfl, fun _ => rfl⟩
  | erase offset size =>
    have herase : eraseNand Alpha6.getDriver offset size = eraseNand Alpha0.getDriver offset size :=
      eraseNand_readBuffer ..
    rw [Call.through, herase]
    exact .refl _ (ReturnsTurned _) fun _ => ⟨rfl, fun _ => rfl⟩
  | read buffer offset size =>
    refine (readNand_turned buffer offset size).bind fun x y h => .pure ⟨h.value.symm, fun hzero => ?_⟩
    refine congrArg some (funext fun i => ?_)
    by_cases hi : i < size.toNat
    · rw [if_pos hi]
      exact h.inside hzero i (Nat.zero_le i) hi
    · rw [if_neg hi, h.outside i (.inr (Nat.not_lt.1 hi)), h.outside' i (.inr (Nat.not_lt.1 hi))]

/-- What alpha_6 returns of calls that all succeed. -/
structure AllTurned (calls : List Call) (rets rets' : List Return) : Prop where
  values : (∀ ret ∈ rets, ret.value = 0) → ∀ ret ∈ rets', ret.value = 0
  buffers : (∀ ret ∈ rets, ret.value = 0) →
    rets'.map Return.buffer = List.zipWith Call.turned calls (rets.map Return.buffer)

theorem allThrough_alpha6 (calls : List Call) :
    Coupled (AllTurned calls) (performAll calls) (allThrough Alpha6.getDriver calls) := by
  induction calls with
  | nil => exact .pure ⟨fun h => h, fun _ => rfl⟩
  | cons call calls ih =>
    refine (through_alpha6 call).bind fun ret ret' hret => ih.bind fun rets rets' hrets => .pure ⟨?_, ?_⟩
    · intro h x hx
      obtain ⟨hfirst, hrest⟩ := List.forall_mem_cons.1 h
      rcases List.mem_cons.1 hx with rfl | hx
      · exact hret.value.trans hfirst
      · exact hrets.values hrest x hx
    · intro h
      obtain ⟨hfirst, hrest⟩ := List.forall_mem_cons.1 h
      rw [List.map_cons, List.map_cons, List.zipWith_cons_cons, hret.buffer hfirst, hrets.buffers hrest]

/-- Through alpha_6, in every sequence of framework calls in range: all calls return 0, after each the storage
of the device is the mirror, and a read hands out what the mirror does with the bytes of each page turned
around. -/
theorem alpha6_turns_pages {waiting : Waiting} (hwaits : WaitsReady waiting) (d₀ : Device) (ioregisters : UInt64)
    (clock : Clock) {calls : List Call} (hcalls : ∀ call ∈ calls, call.InRange) (pre : List Call)
    (hpre : pre <+: calls) :
    ∃ rets s buffers mirror,
      (run (env waiting) (allThrough Alpha6.getDriver pre) (boot d₀ ioregisters clock)).2 = some (rets, s) ∧
      mirrorAll pre (fun _ => 0) = some (buffers, mirror) ∧ s.device.store.dataStore = mirror ∧
      rets.map Return.buffer = List.zipWith Call.turned pre buffers ∧ ∀ ret ∈ rets, ret.value = 0 := by
  obtain ⟨rets, s, hs, hend⟩ := performAll_mirrored hwaits d₀ ioregisters clock fun c hc => hcalls c (hpre.subset hc)
  have hrel := ((allThrough_alpha6 pre).run (env waiting) (boot d₀ ioregisters clock)).2
  rw [hs] at hrel
  rcases hr : (run (env waiting) (allThrough Alpha6.getDriver pre) (boot d₀ ioregisters clock)).2 with
    _ | ⟨rets', s'⟩ <;> rw [hr] at hrel
  · cases hrel
  · cases hrel with
    | some h =>
      obtain ⟨hturned, hstate⟩ := h
      dsimp only at hstate
      subst hstate
      exact ⟨rets', s, _, _, rfl, hend.mirror, rfl, hturned.buffers hend.values, hturned.values hend.values⟩

/-- A write, and a read that ends in the third page it touches. -/
theorem alpha6_turns_pages_three :
    ∃ rets s buffers mirror,
      (run (env waitUntilReady) (allThrough Alpha6.getDriver [.write (fun i => i.toUInt8) 200 400,
        .read (fun _ => 0) 250 300]) (boot blankDevice 0 tickingClock)).2 = some (rets, s) ∧
      mirrorAll [.write (fun i => i.toUInt8) 200 400, .read (fun _ => 0) 250 300] (fun _ => 0) =
        some (buffers, mirror) ∧ s.device.store.dataStore = mirror ∧
      rets.map Return.buffer = List.zipWith Call.turned [.write (fun i => i.toUInt8) 200 400,
        .read (fun _ => 0) 250 300] buffers ∧ ∀ ret ∈ rets, ret.value = 0 :=
  alpha6_turns_pages waitUntilReady_waitsReady blankDevice 0 tickingClock (by simp [Call.InRange, Tester.InRange]) _
    (List.prefix_refl _)

/-! ## alpha_4 -/

/-- A read that takes whole eights of bytes from an eighth byte on; or no read. -/
def Call.InEights : Call → Prop
  | .read _ offset size => offset.toNat % 8 = 0 ∧ size.toNat % 8 = 0
  | _ => True

theorem through_alpha4 {call : Call} (h : call.InEights) : call.through Alpha4.getDriver = call.perform := by
  cases call with
  | write buffer offset size =>
    have hwrite : writeNand Alpha4.getDriver buffer offset size = writeNand Alpha0.getDriver buffer offset size :=
      writeNand_readBuffer ..
    rw [Call.through, Call.perform, hwrite]
  | erase offset size =>
    have herase : eraseNand Alpha4.getDriver offset size = eraseNand Alpha0.getDriver offset size :=
      eraseNand_readBuffer ..
    rw [Call.through, Call.perform, herase]
  | read buffer offset size =>
    have hrest : restRead (size.toNat % 8) (size.toNat - size.toNat % 8) = pure := by
      funext x
      rw [restRead, h.2, readBytes, pure_bind]
      split_ifs with hzero
      · rw [← hzero]
      · rfl
    have hread := readNand_alpha4 buffer size h.1
    rw [hrest, bind_pure] at hread
    rw [Call.through, Call.perform, hread]

theorem allThrough_alpha4 {calls : List Call} (h : ∀ call ∈ calls, call.InEights) :
    allThrough Alpha4.getDriver calls = performAll calls := by
  induction calls with
  | nil => rfl
  | cons call calls ih =>
    rw [allThrough, performAll, through_alpha4 (h call List.mem_cons_self),
      ih fun c hc => h c (List.mem_cons_of_mem _ hc)]

/-- A read from an eighth byte on, where alpha_0 would read: alpha_4 returns 0, and stores what alpha_0 would
but for the bytes behind the last whole eight. -/
theorem run_readNand_alpha4 {waiting : Waiting} (buffer : Buffer) {offset size : UInt32} {s s₀ : Sys} {filled : Buffer}
    (height : offset.toNat % 8 = 0)
    (hzero : (run (env waiting) (readNand Alpha0.getDriver buffer offset size) s).2 = some ((filled, 0), s₀)) :
    ∃ s', (run (env waiting) (readNand Alpha4.getDriver buffer offset size) s).2 =
      some ((fun i => if i < size.toNat - size.toNat % 8 then filled i else buffer i, 0), s') := by
  rw [readNand_alpha4 buffer size height, run_bind] at hzero
  rcases hfour : run (env waiting) (readNand Alpha4.getDriver buffer offset size) s with ⟨l, _ | ⟨x, s'⟩⟩ <;>
    rw [hfour] at hzero
  · cases hzero
  · have hany : ∀ (o : Op) (t : Sys) (r : o.Res) (t' : Sys), (env waiting o t).2 = some (r, t') → True :=
      fun _ _ _ _ _ => trivial
    obtain ⟨hvalue, hbefore⟩ := (restRead_ensures _ _ _ x).run hany hzero
    have hbehind := (readNand_alpha4_ensures _ buffer size height).run hany (congrArg Prod.snd hfour)
    refine ⟨s', congrArg (fun y => some (y, s')) (Prod.ext (funext fun i => ?_) hvalue.symm)⟩
    dsimp only
    split_ifs with hi
    · exact (hbefore i hi).symm
    · exact hbehind i (Nat.not_lt.1 hi)

/-- Through alpha_4, behind framework calls in range whose reads take whole eights of bytes from an eighth byte
on: these did what they do through alpha_0; and a read from an eighth byte on returns 0 too, and hands out
what the mirror does but for the bytes behind the last whole eight, which it leaves. -/
theorem alpha4_leaves_rest {waiting : Waiting} (hwaits : WaitsReady waiting) (d₀ : Device) (ioregisters : UInt64)
    (clock : Clock) {calls : List Call} (hcalls : ∀ call ∈ calls, call.InRange)
    (heights : ∀ call ∈ calls, call.InEights) (buffer : Buffer) {offset size : UInt32}
    (hrange : Tester.InRange offset size) (height : offset.toNat % 8 = 0) :
    ∃ rets s buffers mirror s',
      (run (env waiting) (allThrough Alpha4.getDriver calls) (boot d₀ ioregisters clock)).2 = some (rets, s) ∧
      mirrorAll calls (fun _ => 0) = some (buffers, mirror) ∧ s.device.store.dataStore = mirror ∧
      rets.map Return.buffer = buffers ∧ (∀ ret ∈ rets, ret.value = 0) ∧
      (run (env waiting) (readNand Alpha4.getDriver buffer offset size) s).2 =
        some ((fun i => if i < size.toNat - size.toNat % 8 then readMirror buffer offset size mirror i
          else buffer i, 0), s') := by
  obtain ⟨rets, s, hs, hend⟩ := performAll_mirrored hwaits d₀ ioregisters clock hcalls
  rw [allThrough_alpha4 heights]
  obtain ⟨s₀, hread⟩ := run_readNand_alpha0 hwaits hend.timely hend.idle buffer hrange
  obtain ⟨s', hfour⟩ := run_readNand_alpha4 buffer height hread
  exact ⟨rets, s, _, _, s', hs, hend.mirror, rfl, rfl, hend.values, hfour⟩

/-- A write, a read of 256 bytes, and one of 300 of which alpha_4 leaves out four. -/
theorem alpha4_leaves_rest_four :
    ∃ rets s buffers mirror s',
      (run (env waitUntilReady) (allThrough Alpha4.getDriver [.write (fun i => i.toUInt8) 5 500,
        .read (fun _ => 0) 16 256]) (boot blankDevice 0 tickingClock)).2 = some (rets, s) ∧
      mirrorAll [.write (fun i => i.toUInt8) 5 500, .read (fun _ => 0) 16 256] (fun _ => 0) = some (buffers, mirror) ∧
      s.device.store.dataStore = mirror ∧ rets.map Return.buffer = buffers ∧ (∀ ret ∈ rets, ret.value = 0) ∧
      (run (env waitUntilReady) (readNand Alpha4.getDriver (fun _ => 7) 0 300) s).2 =
        some ((fun i => if i < (300 : UInt32).toNat - (300 : UInt32).toNat % 8 then
          readMirror (fun _ => 7) 0 300 mirror i else 7, 0), s') :=
  alpha4_leaves_rest waitUntilReady_waitsReady blankDevice 0 tickingClock (by simp [Call.InRange, Tester.InRange])
    (by simp [Call.InEights]) (fun _ => 7) (by decide) rfl

end NandRig.Stack
