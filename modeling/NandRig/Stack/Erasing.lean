/-
What an erase covers: `jt_erase()` and `exec_erase()` on the device and `erase_mirror()` on the mirror
widen a region to whole blocks in two ways, which differ near the greatest `unsigned int`.
-/
import NandRig.Stack.Refinement

namespace NandRig.Stack

open Emulator Framework Driver Interact RingMem Tester

/-! ## The blocks of a region -/

/-- Block `b` has one of the addresses `offset`, `offset + 1`, …, `offset + size - 1`, modulo the size of
the device. -/
def Touches (offset size : UInt32) (b : Nat) : Prop :=
  ∃ k < size.toNat, (offset.toNat + k) % deviceSize / 65536 = b

instance (offset size : UInt32) : DecidablePred (Touches offset size) := fun b =>
  inferInstanceAs (Decidable (∃ k < size.toNat, (offset.toNat + k) % deviceSize / 65536 = b))

/-- The contents with the touched blocks zeroed, and no other byte changed. -/
def blocksZeroed (offset size : UInt32) (f : Nat → UInt8) : Nat → UInt8 := fun a =>
  if Touches offset size (a / 65536) then 0 else f a

theorem touches_iff {offset size : UInt32} (hsize : 1 ≤ size.toNat) (b : Nat) :
    Touches offset size b ↔
      ∃ j < (offset.toNat % 65536 + size.toNat + 65535) / 65536, (offset.toNat / 65536 + j) % 256 = b := by
  unfold Touches
  rw [deviceSize_eq]
  constructor
  · rintro ⟨k, hk, rfl⟩
    exact ⟨(offset.toNat % 65536 + k) / 65536, by omega, by omega⟩
  · rintro ⟨j, hj, rfl⟩
    -- the first address of the region in its `j`-th block
    exact ⟨j * 65536 - offset.toNat % 65536, by omega, by omega⟩

/-- The block behind that of `offset`, where the region goes on to it. -/
theorem touches_next {offset size : UInt32} (h : (offset.toNat / 65536 + 1) * 65536 < offset.toNat + size.toNat) :
    Touches offset size ((offset.toNat / 65536 + 1) % 256) := by
  unfold Touches
  rw [deviceSize_eq]
  exact ⟨(offset.toNat / 65536 + 1) * 65536 - offset.toNat, by omega, by omega⟩

/-! ## On the device -/

theorem erased_apply (offset : UInt32) (f : Nat → UInt8) (k a : Nat) :
    erased offset f k a = if ∃ j < k, (offset.toNat / 65536 + j) % 256 = a / 65536 then 0 else f a :=
  setSegments_const 65536 256 0 (offset.toNat / 65536) f a k

theorem erased_eq_blocksZeroed {offset size : UInt32} (hsize : 1 ≤ size.toNat)
    (hfit : offset.toNat % 65536 + size.toNat < 2 ^ 32) (f : Nat → UInt8) :
    erased offset f (blocksToErase offset size).toNat = blocksZeroed offset size f := by
  funext a
  rw [erased_apply, blocksToErase_toNat hfit]
  exact if_congr (touches_iff hsize _).symm rfl rfl

/-- Where waits succeed, the program returns 0 on every idle device that is ready, whatever it stores, and
has zeroed exactly the touched blocks. -/
def ErasesRegion (p : DriverM Int) (offset size : UInt32) : Prop :=
  ∀ waiting, WaitsReady waiting → ∀ s : Sys, Timely (fun _ => True) s → Idle s.device →
    ∃ s', (run (env waiting) p s).2 = some (0, s') ∧
      s'.device.store.dataStore = blocksZeroed offset size s.device.store.dataStore

/-- The call is the erase with its value packed. -/
theorem run_perform_erase (waiting : Waiting) (offset size : UInt32) (s : Sys) :
    (run (env waiting) (Call.perform (.erase offset size)) s).2 =
      (run (env waiting) (jtErase Alpha0.jumpTable offset size) s).2.map fun x => (⟨x.1, none⟩, x.2) := by
  refine (congrArg Prod.snd (run_bind (jtErase Alpha0.jumpTable offset size) _ s)).trans ?_
  rcases run (env waiting) (jtErase Alpha0.jumpTable offset size) s with ⟨l, _ | ⟨value, s'⟩⟩ <;> rfl

/-- What `jt_erase()` does on an idle device, where it returns. -/
theorem jtErase_returned {waiting : Waiting} {I : Clock → Prop} (hlaw : WaitLaw waiting I) {offset size : UInt32}
    {s s' : Sys} {value : Int} (htimely : Timely I s) (hidle : Idle s.device)
    (hs' : (run (env waiting) (jtErase Alpha0.jumpTable offset size) s).2 = some (value, s')) :
    value = 0 ∧
      s'.device.store.dataStore = erased offset s.device.store.dataStore (blocksToErase offset size).toNat := by
  have h := (always_accepted hlaw (.erase offset size) htimely hidle).result ⟨value, none⟩ s' <| by
    rw [run_perform_erase, hs']
    rfl
  exact ⟨h.value, h.storage⟩

/-- Where waits succeed, it returns. -/
theorem run_jtErase {waiting : Waiting} (hwaits : WaitsReady waiting) (offset size : UInt32) {s : Sys}
    (htimely : Timely (fun _ => True) s) (hidle : Idle s.device) :
    ∃ s', (run (env waiting) (jtErase Alpha0.jumpTable offset size) s).2 = some (0, s') ∧
      s'.device.store.dataStore = erased offset s.device.store.dataStore (blocksToErase offset size).toNat := by
  have haccepted := (always_accepted hwaits.law (.erase offset size) htimely hidle).events
  have hreturns := hwaits.returns (noAbort_perform _) haccepted
  rw [run_perform_erase, Option.isSome_map] at hreturns
  obtain ⟨⟨value, s'⟩, hs'⟩ := Option.isSome_iff_exists.1 hreturns
  obtain ⟨rfl, herased⟩ := jtErase_returned hwaits.law htimely hidle hs'
  exact ⟨s', hs', herased⟩

/-- A ready device that stores ones. -/
def onesSys : Sys :=
  ⟨{ parserInit blankDevice with store := { (parserInit blankDevice).store with dataStore := fun _ => 1 } }, 0,
    tickingClock⟩

theorem onesSys_timely : Timely (fun _ => True) onesSys :=
  ⟨(timely_boot blankDevice 0 (I := fun _ => True) (c := tickingClock) trivial).inStorage, trivial,
    (timely_boot blankDevice 0 (I := fun _ => True) (c := tickingClock) trivial).ready⟩

theorem jtErase_erasesRegion_iff {offset size : UInt32} (hsize : 1 ≤ size.toNat) :
    ErasesRegion (jtErase Alpha0.jumpTable offset size) offset size ↔
      offset.toNat % 65536 + size.toNat < 2 ^ 32 := by
  constructor
  · intro h
    by_contra hwrap
    have hwrap := Nat.not_lt.1 hwrap
    obtain ⟨s', hs', hzeroed⟩ := h _ waitUntilReady_waitsReady onesSys onesSys_timely (.inl ⟨rfl, rfl⟩)
    obtain ⟨s'', hs'', herased⟩ := run_jtErase waitUntilReady_waitsReady offset size onesSys_timely (.inl ⟨rfl, rfl⟩)
    cases hs'.symm.trans hs''
    -- the block behind the first one is touched, and keeps its ones
    have hone := blocksToErase_toNat_le_one hwrap
    have hlt := offset.toNat_lt
    have htouched : Touches offset size _ := touches_next (by omega)
    have hcell := congrFun (hzeroed.symm.trans herased) ((offset.toNat / 65536 + 1) % 256 * 65536)
    rw [blocksZeroed, Nat.mul_div_cancel _ (by decide), if_pos htouched, erased_apply,
      Nat.mul_div_cancel _ (by decide), if_neg] at hcell
    · cases hcell
    · rintro ⟨j, hj, hblock⟩
      omega
  · intro hfit waiting hwaits s htimely hidle
    obtain ⟨s', hs', herased⟩ := run_jtErase hwaits offset size htimely hidle
    exact ⟨s', hs', herased.trans (erased_eq_blocksZeroed hsize hfit _)⟩

/-! ## On the mirror -/

/-- `erase_mirror()` ends and has zeroed exactly the touched blocks, whatever the mirror held. -/
def MirrorErasesRegion (offset size : UInt32) : Prop :=
  ∀ mirror, eraseMirror offset size mirror = some (blocksZeroed offset size mirror)

theorem eraseMirror_erasesRegion_iff {offset size : UInt32} (hsize : 1 ≤ size.toNat) :
    MirrorErasesRegion offset size ↔ offset.toNat + size.toNat ≤ 2 ^ 32 - 65536 := by
  constructor
  · intro h
    by_contra hrange
    have hones := h fun _ => 1
    have hoffset := offset.toNat_lt
    have hsize' := size.toNat_lt
    have hstart := blockStart_toNat offset
    have hend := blockEnd_toNat (offset + size - 1)
    rw [lastOffset_toNat_mod hsize] at hend
    rw [eraseMirror] at hones
    rcases Nat.lt_or_ge (2 ^ 32) (offset.toNat + size.toNat) with hwrap | hle
    -- the bound has wrapped: the loop stays in the first block, and the region does not
    · have hframe := zeroLoop_frame (a := (offset.toNat / 65536 + 1) % 256 * 65536) hones fun j hj hj' => by
        rw [hstart] at hj
        rw [hend] at hj'
        rw [deviceSize_eq]
        omega
      rw [blocksZeroed, Nat.mul_div_cancel _ (by decide), if_pos (touches_next (by omega))] at hframe
      cases hframe
    · rw [zeroThrough, zeroLoop_greatest (by omega)] at hones
      cases hones
  · intro hfit mirror
    rw [eraseMirror_erased ⟨hsize, hfit⟩, erased_eq_blocksZeroed hsize (by omega)]

/-! ## The three together -/

/-- `jt_erase()`, `exec_erase()` and `erase_mirror()` all cover exactly the blocks of the region when it
ends a block below the greatest offset. -/
theorem erase_covers_region_iff {offset size : UInt32} (hsize : 1 ≤ size.toNat) :
    (ErasesRegion (jtErase Alpha0.jumpTable offset size) offset size ∧
      ErasesRegion (execErase Foxtrot0.execOp offset size) offset size ∧
      MirrorErasesRegion offset size) ↔ offset.toNat + size.toNat ≤ 2 ^ 32 - 65536 := by
  rw [execErase_eq, jtErase_erasesRegion_iff hsize, eraseMirror_erasesRegion_iff hsize]
  constructor
  · rintro ⟨-, -, hmirror⟩
    exact hmirror
  · intro hmirror
    exact ⟨by omega, by omega, hmirror⟩

theorem erase_covers_region_iff_wrapping :
    ErasesRegion (jtErase Alpha0.jumpTable 16777000 300) 16777000 300 ∧
      ErasesRegion (execErase Foxtrot0.execOp 16777000 300) 16777000 300 ∧ MirrorErasesRegion 16777000 300 :=
  (erase_covers_region_iff (by decide)).2 (by decide)

/-- One byte in the last block that an offset can name: the loop over the mirror does not end. -/
theorem erase_of_last_block :
    ¬ (ErasesRegion (jtErase Alpha0.jumpTable 4294901760 1) 4294901760 1 ∧
      ErasesRegion (execErase Foxtrot0.execOp 4294901760 1) 4294901760 1 ∧
      MirrorErasesRegion 4294901760 1) := by
  rintro ⟨-, -, hmirror⟩
  exact absurd ((eraseMirror_erasesRegion_iff (by decide)).1 hmirror) (by decide)

end NandRig.Stack
