/-
The stack refines the mirror: framework, driver and device, through every split into pages and every
truncation of an address, keep the storage the mirror keeps, and a read fetches the bytes the mirror
hands out.
-/
import NandRig.Stack.Conformance
import NandRig.Framework.Agreement
import NandRig.Tester.Mirror

namespace NandRig.Stack

open Emulator Framework Interact RingMem Tester

/-! ## The mirror in the place of the stack -/

/-- The operation of a call, done on the mirror: the buffer a read fills, and the mirror after it. -/
def Call.onMirror : Call → Mirror → Option (Option Buffer × Mirror)
  | .write buffer offset size, m => (writeMirror buffer offset size m).map fun m' => (none, m')
  | .read buffer offset size, m => some (some (readMirror buffer offset size m), m)
  | .erase offset size, m => (eraseMirror offset size m).map fun m' => (none, m')

/-- The operations of a sequence of calls, done on the mirror one after the other. -/
def mirrorAll : List Call → Mirror → Option (List (Option Buffer) × Mirror)
  | [], m => some ([], m)
  | call :: calls, m => do
    let (buffer, m) ← call.onMirror m
    let (buffers, m) ← mirrorAll calls m
    pure (buffer :: buffers, m)

/-- The region of the call is in range, for framework and mirror alike. -/
def Call.InRange : Call → Prop
  | .write _ offset size => Tester.InRange offset size
  | .read _ offset size => Tester.InRange offset size
  | .erase offset size => Tester.InRange offset size

theorem Call.InRange.not_zeroRead {call : Call} (h : call.InRange) : ¬ call.IsZeroRead := by
  rintro ⟨buffer, offset, rfl⟩
  exact absurd h.1 (by decide)

/-! ## One call -/

/-- The pages a write programs are those the mirror fills byte by byte. -/
theorem writeMirror_written (buffer : Buffer) {offset size : UInt32} (h : Tester.InRange offset size) (m : Mirror) :
    writeMirror buffer offset size m = some (written buffer offset size m (pageCount offset size)) := by
  have hcount : pageCount offset size = (offset.toNat % 256 + size.toNat + 255) / 256 :=
    pageCount_eq (by have := h.1; omega)
  -- cell `i` of page `j` is byte `256 * j + i` of the range the mirror fills
  have hpages := writeRange_segments (n := 256) (P := 65536) (by omega) (by omega) (offset.toNat / 256)
    (pagesImage buffer offset size) m (pageCount offset size)
  rw [writeMirror_eq_pages buffer h.1 h.endsBelowLastPage, ← hcount, written]
  refine congrArg some (hpages.trans (setSegments_congr (by omega) (fun j _ i _ => ?_) m))
  rw [Nat.mul_comm j 256]
  rfl

/-- The blocks an erase clears are those the mirror zeroes byte by byte. -/
theorem eraseMirror_erased {offset size : UInt32} (h : Tester.InRange offset size) (m : Mirror) :
    eraseMirror offset size m = some (erased offset m (blocksToErase offset size).toNat) := by
  have hblocks := writeRange_segments (n := 65536) (P := 256) (by omega) (by omega) (offset.toNat / 65536)
    (fun _ => (0 : UInt8)) m (blocksToErase offset size).toNat
  have hcount : (blocksToErase offset size).toNat = (offset.toNat % 65536 + size.toNat + 65535) / 65536 :=
    blocksToErase_toNat (by have := h.2; omega)
  rw [eraseMirror_eq h, ← hcount, erased]
  exact congrArg some hblocks

/-- On equal contents, a call that succeeds on the device and its operation on the mirror store the
same bytes and hand back the same buffer. -/
theorem onMirror_eq {call : Call} (h : call.InRange) (m : Mirror) :
    call.onMirror m = some (call.answer m, call.stored m call.total) := by
  cases call with
  | write buffer offset size =>
    rw [Call.onMirror, writeMirror_written buffer h]
    rfl
  | read buffer offset size =>
    rw [Call.onMirror, readMirror_eq]
    rfl
  | erase offset size =>
    rw [Call.onMirror, eraseMirror_erased h]
    rfl

/-! ## Sequences of calls -/

section

variable {waiting : Waiting} {I : Clock → Prop}

/-- What sequences of calls do to device and mirror: the calls succeed, and where they return, the
device holds what the mirror holds. -/
structure Mirrored (I : Clock → Prop) (calls : List Call) (m : Mirror) (rets : List Return) (s : Sys) : Prop where
  timely : Timely I s
  idle : Idle s.device
  values : ∀ ret ∈ rets, ret.value = 0
  mirror : mirrorAll calls m = some (rets.map Return.buffer, s.device.store.dataStore)

theorem always_mirrored (hlaw : WaitLaw waiting I) {calls : List Call} (hcalls : ∀ call ∈ calls, call.InRange)
    {s : Sys} (h : Timely I s) (hidle : Idle s.device) :
    Always (env waiting) Trace.Accepted (performAll calls) s (Mirrored I calls s.device.store.dataStore) := by
  induction calls generalizing s with
  | nil => exact .pure ⟨h, hidle, by simp, rfl⟩
  | cons call calls ih =>
    have hcall := hcalls call List.mem_cons_self
    refine (always_accepted hlaw call h hidle).bind fun ret s₁ h₁ => ?_
    refine (ih (fun c hc => hcalls c (List.mem_cons_of_mem _ hc)) h₁.timely (h₁.idle hcall.not_zeroRead)).bind
      fun rets s₂ h₂ => .pure ⟨h₂.timely, h₂.idle, ?_, ?_⟩
    · intro x hx
      rcases List.mem_cons.1 hx with rfl | hx
      · exact h₁.value
      · exact h₂.values x hx
    -- the rest starts from the storage the call leaves, which is what the mirror then holds
    · have hrest := h₂.mirror
      rw [h₁.storage] at hrest
      simp [mirrorAll, onMirror_eq hcall, hrest, h₁.buffer]

end

/-! ## Waits as they are assumed -/

/-- Every wait returns 0, with the device ready from then on. -/
def WaitsReady (waiting : Waiting) : Prop :=
  ∀ us d c, ∃ c', waiting us d c = some (0, c') ∧ Ready d c'

variable {waiting : Waiting}

theorem WaitsReady.law (h : WaitsReady waiting) : WaitLaw waiting fun _ => True := by
  have hwait : ∀ {us d c r c'}, waiting us d c = some (r, c') → r = 0 ∧ Ready d c' ∧ True := by
    intro us d c r c' hw
    obtain ⟨c₁, hc₁, hready⟩ := h us d c
    cases hc₁.symm.trans hw
    exact ⟨rfl, hready, trivial⟩
  exact ⟨fun _ _ => trivial, fun _ _ => hwait, fun _ _ => hwait⟩

theorem noAbort_perform (call : Call) : NoAbort call.perform := by
  cases call with
  | write buffer offset size => exact Prog.Only.bind (noAbort_jtWrite buffer offset size) fun _ => trivial
  | read buffer offset size => exact Prog.Only.bind (noAbort_jtRead buffer offset size) fun _ => trivial
  | erase offset size => exact Prog.Only.bind (noAbort_jtErase offset size) fun _ => trivial

theorem noAbort_performAll (calls : List Call) : NoAbort (performAll calls) := by
  induction calls with
  | nil => trivial
  | cons call calls ih => exact (noAbort_perform call).bind fun _ => ih.bind fun _ => trivial

/-- Where no access is rejected, the run returns. -/
theorem WaitsReady.returns {α : Type} (h : WaitsReady waiting) {p : DriverM α} (hp : NoAbort p) {s : Sys}
    (haccepted : ∀ e ∈ (run (env waiting) p s).1, e.Accepted) : (run (env waiting) p s).2.isSome := by
  refine run_returns_of_events haccepted hp fun o s' ho hnone => ?_
  cases o with
  | store offset value => exact rejected_of_store_none hnone
  | load => exact rejected_of_load_none hnone
  | wait us =>
    obtain ⟨c', hw, _⟩ := h us s'.device s'.clock
    have hmap := Option.map_eq_none_iff.1 hnone
    rw [hw] at hmap
    cases hmap
  | abort => exact absurd rfl ho

/-- Storage refinement: in every sequence of framework calls in range, done side by side on the
mirror, after every call the storage of the device is the mirror, each call has returned 0, and each
read has filled its buffer with the bytes the mirror hands out. -/
theorem dataStore_refines_mirror (hwaits : WaitsReady waiting) (d₀ : Device) (ioregisters : UInt64) (clock : Clock)
    {calls : List Call} (hcalls : ∀ call ∈ calls, call.InRange) (pre : List Call) (hpre : pre <+: calls) :
    ∃ rets s buffers mirror,
      (run (env waiting) (performAll pre) (boot d₀ ioregisters clock)).2 = some (rets, s) ∧
      mirrorAll pre (fun _ => 0) = some (buffers, mirror) ∧
      s.device.store.dataStore = mirror ∧ rets.map Return.buffer = buffers ∧ ∀ ret ∈ rets, ret.value = 0 := by
  have h := always_mirrored hwaits.law (fun c hc => hcalls c (hpre.subset hc))
    (timely_boot d₀ ioregisters (c := clock) trivial) (idle_boot d₀ ioregisters clock)
  obtain ⟨⟨rets, s⟩, hs⟩ := Option.isSome_iff_exists.1 (hwaits.returns (noAbort_performAll pre) h.events)
  have hend := h.result rets s hs
  exact ⟨rets, s, _, _, hs, hend.mirror, rfl, rfl, hend.values⟩

/-- A wait that lasts until the deadline of the device. -/
def waitUntilReady : Waiting := fun _ d c => some (0, fun i => if c i < d.deadline then d.deadline else c i)

theorem waitUntilReady_waitsReady : WaitsReady waitUntilReady := by
  refine fun us d c => ⟨_, rfl, fun i => ?_⟩
  rw [beforeDeadline_eq_false]
  split_ifs with h
  · exact le_refl _
  · exact UInt64.le_iff_toNat_le.1 (UInt64.not_lt.1 h)

/-- A write over three pages that ends behind the device's last byte, a read across its end, and an erase. -/
theorem dataStore_refines_mirror_wrapping :
    ∃ rets s buffers mirror,
      (run (env waitUntilReady) (performAll [.write (fun i => i.toUInt8) 16777000 300,
        .read (fun _ => 0) 16776960 400, .erase 16777000 300]) (boot blankDevice 0 tickingClock)).2 = some (rets, s) ∧
      mirrorAll [.write (fun i => i.toUInt8) 16777000 300, .read (fun _ => 0) 16776960 400, .erase 16777000 300]
        (fun _ => 0) = some (buffers, mirror) ∧
      s.device.store.dataStore = mirror ∧ rets.map Return.buffer = buffers ∧ ∀ ret ∈ rets, ret.value = 0 :=
  dataStore_refines_mirror waitUntilReady_waitsReady blankDevice 0 tickingClock
    (by simp [Call.InRange, Tester.InRange]) _ (List.prefix_refl _)

/-- On the waits of alpha_0 nothing is assumed but the clock: where the calls return, the storage is the mirror. -/
theorem nandWait_refines_mirror (d₀ : Device) (ioregisters : UInt64) {clock : Clock} (hclock : ClockOk clock)
    (fuel : Nat) {calls : List Call} (hcalls : ∀ call ∈ calls, call.InRange) {rets : List Return} {s : Sys}
    (hs : (run (env (nandWait fuel)) (performAll calls) (boot d₀ ioregisters clock)).2 = some (rets, s)) :
    mirrorAll calls (fun _ => 0) = some (rets.map Return.buffer, s.device.store.dataStore) :=
  ((always_mirrored (nandWait_law fuel) hcalls (timely_boot d₀ ioregisters hclock)
    (idle_boot d₀ ioregisters clock)).result rets s hs).mirror

end NandRig.Stack
