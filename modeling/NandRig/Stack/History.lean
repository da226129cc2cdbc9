/-
What the storage means: a byte is what the last call has left there that stored its page or erased its block,
and zero if none has. So what is written is read back, whatever is done to other pages and blocks in between.
-/
import NandRig.Stack.Drivers
import NandRig.Tester.Law

namespace NandRig.Stack

open Emulator Framework Driver Interact RingMem
open Tester hiding blockSize

/-! ## Histories -/

/-- What the call stores, a page or a block at a time. -/
def Call.segments : Call → List (Segment UInt8)
  | .write buffer offset size => (List.range (pageCount offset size)).map fun j =>
    ⟨256, (offset.toNat / 256 + j) % 65536, pageImage buffer offset size j⟩
  | .read _ _ _ => []
  | .erase offset size => (List.range (blocksToErase offset size).toNat).map fun j =>
    ⟨65536, (offset.toNat / 65536 + j) % 256, fun _ => 0⟩

/-- The byte at an address behind the calls, from a device that stores zeros: the last page or block decides that
covers it. -/
def contents (calls : List Call) (a : Nat) : UInt8 :=
  (lastCover (calls.flatMap Call.segments) a).elim 0 fun w => w.value a

theorem contents_eq (calls : List Call) : contents calls = storeSegments (calls.flatMap Call.segments) fun _ => 0 := by
  funext a
  exact (storeSegments_apply (calls.flatMap Call.segments) (fun _ => 0) a).symm

theorem stored_eq_segments (f : Nat → UInt8) (call : Call) :
    call.stored f call.total = storeSegments call.segments f := by
  cases call with
  | write buffer offset size => exact setSegments_eq_store ..
  | read buffer offset size => rfl
  | erase offset size => exact setSegments_eq_store ..

/-! ## The mirror, by its history -/

theorem mirrorAll_cons {call : Call} (h : call.InRange) (calls : List Call) (m : Mirror) :
    mirrorAll (call :: calls) m =
      (mirrorAll calls (storeSegments call.segments m)).map fun x => (call.answer m :: x.1, x.2) := by
  rw [mirrorAll, onMirror_eq h, stored_eq_segments]
  rcases hrest : mirrorAll calls (storeSegments call.segments m) with _ | ⟨buffers, m'⟩ <;> simp [hrest]

theorem mirrorAll_storage {calls : List Call} (hcalls : ∀ call ∈ calls, call.InRange) {m m' : Mirror}
    {buffers : List (Option Buffer)} (h : mirrorAll calls m = some (buffers, m')) :
    m' = storeSegments (calls.flatMap Call.segments) m := by
  induction calls generalizing m buffers with
  | nil =>
    cases h
    rfl
  | cons call calls ih =>
    rw [mirrorAll_cons (hcalls call List.mem_cons_self)] at h
    obtain ⟨⟨rest, m₁⟩, hrest, hx⟩ := Option.map_eq_some_iff.1 h
    cases hx
    rw [List.flatMap_cons, storeSegments_append]
    exact ih (fun c hc => hcalls c (List.mem_cons_of_mem _ hc)) hrest

/-- The buffer of a call is the answer to the calls in front of it. -/
theorem mirrorAll_buffer {pre : List Call} {call : Call} {post : List Call}
    (hcalls : ∀ c ∈ pre ++ call :: post, c.InRange) {m m' : Mirror} {buffers : List (Option Buffer)}
    (h : mirrorAll (pre ++ call :: post) m = some (buffers, m')) :
    buffers[pre.length]? = some (call.answer (storeSegments (pre.flatMap Call.segments) m)) := by
  induction pre generalizing m buffers with
  | nil =>
    rw [List.nil_append, mirrorAll_cons (hcalls call List.mem_cons_self)] at h
    obtain ⟨⟨rest, m₁⟩, -, hx⟩ := Option.map_eq_some_iff.1 h
    cases hx
    rfl
  | cons first pre ih =>
    rw [List.cons_append, mirrorAll_cons (hcalls first List.mem_cons_self)] at h
    obtain ⟨⟨rest, m₁⟩, hrest, hx⟩ := Option.map_eq_some_iff.1 h
    cases hx
    rw [List.length_cons, List.getElem?_cons_succ, List.flatMap_cons, storeSegments_append]
    exact ih (fun c hc => hcalls c (List.mem_cons_of_mem _ hc)) hrest

/-! ## The stack, by its history -/

/-- Through the driver the calls all return 0, the storage is what the history says, and each read has filled its
buffer with what the history in front of it says. -/
def FollowsHistory (waiting : Waiting) (driver : NandDriver) (start : Sys) (calls : List Call) : Prop :=
  ∃ rets s, (run (env waiting) (allThrough driver calls) start).2 = some (rets, s) ∧
    (∀ ret ∈ rets, ret.value = 0) ∧ s.device.store.dataStore = contents calls ∧
    ∀ pre buffer offset size post, calls = pre ++ .read buffer offset size :: post →
      ∃ ret, rets[pre.length]? = some ret ∧ ret.buffer = some fun j =>
        if j < size.toNat then contents pre ((offset.toNat + j) % deviceSize) else buffer j

theorem RefinesMirror.followsHistory {waiting : Waiting} {driver : NandDriver} {start : Sys} {calls : List Call}
    (h : RefinesMirror waiting driver start calls) (hcalls : ∀ call ∈ calls, call.InRange) :
    FollowsHistory waiting driver start calls := by
  obtain ⟨rets, s, buffers, mirror, hrun, hmirror, hstorage, hbuffers, hzero⟩ := h
  refine ⟨rets, s, hrun, hzero, ?_, ?_⟩
  · rw [hstorage, contents_eq]
    exact mirrorAll_storage hcalls hmirror
  · rintro pre buffer offset size post rfl
    have hbuffer := mirrorAll_buffer hcalls hmirror
    rw [← hbuffers, List.getElem?_map] at hbuffer
    obtain ⟨ret, hret, hanswer⟩ := Option.map_eq_some_iff.1 hbuffer
    refine ⟨ret, hret, hanswer.trans (congrArg some ?_)⟩
    rw [contents_eq, deviceSize_eq]
    rfl

/-- Through any sound driver the stack is what its history says: each byte of the storage is what the last call has
left there that stored its page or erased its block, and a read hands out the bytes that the calls in front of it
have left. -/
theorem storage_follows_history {driver : NandDriver} (hdriver : SoundDriver driver) {waiting : Waiting}
    (hwaits : WaitsReady waiting) (d₀ : Device) (ioregisters : UInt64) (clock : Clock) {calls : List Call}
    (hcalls : ∀ call ∈ calls, call.InRange) : FollowsHistory waiting driver (boot d₀ ioregisters clock) calls :=
  (refinesMirror_of_eq hwaits d₀ ioregisters clock hcalls
    (hdriver.likeAlpha0.allThrough_eq hcalls)).followsHistory hcalls

/-- A write across the end of the device, an erase of its first block, and a read of both. -/
theorem storage_follows_history_wrapping :
    FollowsHistory waitUntilReady Foxtrot0.getDriver (boot blankDevice 0 tickingClock)
      [.write (fun i => i.toUInt8) 16777000 300, .erase 7 1, .read (fun _ => 0) 16776960 400] :=
  storage_follows_history (.inr (.inl rfl)) waitUntilReady_waitsReady blankDevice 0 tickingClock
    (by simp [Call.InRange, Tester.InRange])

/-! ## Reading back -/

/-- No page or block that the calls store has a byte of the region. -/
def Spares (calls : List Call) (offset size : UInt32) : Prop :=
  ∀ call ∈ calls, ∀ w ∈ call.segments, ∀ k < size.toNat, ¬ w.Covers ((offset.toNat + k) % deviceSize)

/-- Behind a write that does not come round to its first page, and calls that spare a part of its region, the part
holds what was written. -/
theorem contents_write {buffer : Buffer} {offset size : UInt32} (hrange : Tester.InRange offset size)
    (hfit : offset.toNat % 256 + size.toNat ≤ deviceSize) (pre mid : List Call) {offset' size' : UInt32}
    (hspares : Spares mid offset' size') (hle : offset.toNat ≤ offset'.toNat)
    (hend : offset'.toNat + size'.toNat ≤ offset.toNat + size.toNat) {j : Nat} (hj : j < size'.toNat) :
    contents (pre ++ .write buffer offset size :: mid) ((offset'.toNat + j) % deviceSize) =
      buffer (offset'.toNat - offset.toNat + j) := by
  have hnone : ∀ w ∈ mid.flatMap Call.segments, ¬ w.Covers ((offset'.toNat + j) % deviceSize) := by
    intro w hw
    obtain ⟨call, hcall, hmem⟩ := List.mem_flatMap.1 hw
    exact hspares call hcall w hmem j hj
  rw [contents_eq, List.flatMap_append, List.flatMap_cons, storeSegments_append, storeSegments_append,
    storeSegments_of_none hnone, ← stored_eq_segments]
  -- the mirror stores the same, and its law says what is read there
  obtain ⟨m', hm, hwritten⟩ := @writeMirror_written_pages buffer offset size hrange.1 hrange.endsBelowLastPage
    (storeSegments (pre.flatMap Call.segments) fun _ => 0)
  rw [writeMirror_written buffer hrange] at hm
  have hsame : Call.stored (storeSegments (pre.flatMap Call.segments) fun _ => 0) (.write buffer offset size)
      (Call.write buffer offset size).total = m' := Option.some.inj hm
  have hmax : size.toNat ≤ 16777216 := by
    rw [deviceSize_eq] at hfit
    omega
  have hbyte := hwritten.read hmax (.inl hfit) (k := offset'.toNat - offset.toNat + j) (by omega)
  have haddr : offset.toNat + (offset'.toNat - offset.toNat + j) = offset'.toNat + j := by omega
  rw [hsame, ← haddr, hbyte]

/-- Through any sound driver, what is written is read back: behind a write, and calls that spare the region, a read
of the region or of a part of it fills its buffer with the bytes written. -/
theorem written_is_readBack {driver : NandDriver} (hdriver : SoundDriver driver) {waiting : Waiting}
    (hwaits : WaitsReady waiting) (d₀ : Device) (ioregisters : UInt64) (clock : Clock) {pre mid post : List Call}
    {buffer out : Buffer} {offset size offset' size' : UInt32}
    (hcalls : ∀ call ∈ pre ++ .write buffer offset size :: mid ++ .read out offset' size' :: post, call.InRange)
    (hfit : offset.toNat % 256 + size.toNat ≤ deviceSize) (hspares : Spares mid offset' size')
    (hle : offset.toNat ≤ offset'.toNat) (hend : offset'.toNat + size'.toNat ≤ offset.toNat + size.toNat) :
    ∃ rets s ret, (run (env waiting) (allThrough driver
        (pre ++ .write buffer offset size :: mid ++ .read out offset' size' :: post))
        (boot d₀ ioregisters clock)).2 = some (rets, s) ∧
      rets[(pre ++ .write buffer offset size :: mid).length]? = some ret ∧ ret.value = 0 ∧
      ret.buffer = some fun j => if j < size'.toNat then buffer (offset'.toNat - offset.toNat + j) else out j := by
  obtain ⟨rets, s, hrun, hzero, -, hreads⟩ :=
    (refinesMirror_of_eq hwaits d₀ ioregisters clock hcalls (hdriver.likeAlpha0.allThrough_eq hcalls)).followsHistory
      hcalls
  obtain ⟨ret, hret, hbuffer⟩ := hreads _ out offset' size' post rfl
  have hrange : (Call.write buffer offset size).InRange := hcalls _ (by simp)
  refine ⟨rets, s, ret, hrun, hret, hzero ret (List.mem_of_getElem? hret), hbuffer.trans (congrArg some ?_)⟩
  funext j
  exact ite_congr rfl (fun hj => contents_write hrange hfit pre mid hspares hle hend hj) fun _ => rfl

/-- A write of 300 bytes, a write to the page behind them, and a read of 100 of the bytes. -/
theorem written_is_readBack_behind :
    ∃ rets s ret, (run (env waitUntilReady) (allThrough kiloGetDriver
        ([] ++ .write (fun i => i.toUInt8) 1000 300 :: [.write (fun _ => 7) 1536 5] ++
          .read (fun _ => 0) 1100 100 :: []))
        (boot blankDevice 0 tickingClock)).2 = some (rets, s) ∧
      rets[([] ++ Call.write (fun i => i.toUInt8) 1000 300 :: [.write (fun _ => 7) 1536 5]).length]? = some ret ∧
      ret.value = 0 ∧
      ret.buffer = some fun j => if j < (100 : UInt32).toNat then
        (fun i : Nat => i.toUInt8) ((1100 : UInt32).toNat - (1000 : UInt32).toNat + j) else 0 := by
  refine written_is_readBack (.inr (.inr rfl)) waitUntilReady_waitsReady blankDevice 0 tickingClock ?_ (by decide) ?_
    (by decide) (by decide)
  · simp [Call.InRange, Tester.InRange]
  · unfold Spares
    decide +kernel

end NandRig.Stack
