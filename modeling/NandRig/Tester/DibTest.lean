/-
The test of the driver information base (`tester/st_dib.c`): `main()` runs it on the DIB that it gave
to the driver and the DIB that it got back, when these are not the same.
-/
import NandRig.Driver.Kilo0

namespace NandRig.Tester

open Framework Driver Chain

/-! ## The test -/

/-- `st_dib_test(dib_old, dib_new)`: the value returned, if no pointer led nowhere. -/
def stDibTest (h : Heap) (dibOld dibNew : Option Addr) : Option Int :=
  match verifyDib h dibNew with
  | none => none
  | some v =>
    if v ≠ 0 then some (-1)
    else
      match dibNew.bind h.device with
      | none => none
      | some device => if device.nextDevice = none ∨ device.nextDevice ≠ dibOld then some (-1) else some 0

/-! ## What the test is for -/

/-- The new DIB is well-formed and has one device more than the old one, in front of it. -/
def Extends (h : Heap) (dibOld dibNew : Option Addr) : Prop :=
  verifyDib h dibNew = some 0 ∧ ∃ d, dibNew = some d ∧ h.nextDevice d = some dibOld

/-- The test ends, and accepts exactly the DIBs that extend the old one. -/
def Exact (h : Heap) (dibOld dibNew : Option Addr) : Prop :=
  ∃ v, stDibTest h dibOld dibNew = some v ∧ (v = 0 ↔ Extends h dibOld dibNew)

/-! ## The outcomes -/

section Outcomes

variable {h : Heap} {dibOld dibNew : Option Addr}

theorem stDibTest_rejected (hver : verifyDib h dibNew = some (-1)) : stDibTest h dibOld dibNew = some (-1) := by
  unfold stDibTest
  rw [hver]
  rfl

/-- An empty DIB is well-formed, and has no first device to look at. -/
theorem stDibTest_null (h : Heap) (dibOld : Option Addr) : stDibTest h dibOld none = none := by
  have hver : verifyDib h none = some 0 := by
    unfold verifyDib
    rw [walk]
  unfold stDibTest
  rw [hver]
  rfl

theorem stDibTest_accepted {d : Addr} {device : NandDevice} (hver : verifyDib h (some d) = some 0)
    (hd : h.device d = some device) :
    stDibTest h dibOld (some d) =
      if device.nextDevice = none ∨ device.nextDevice ≠ dibOld then some (-1) else some 0 := by
  unfold stDibTest
  rw [hver, Option.bind_some, hd]
  rfl

theorem stDibTest_zero : stDibTest h dibOld dibNew = some 0 ↔ dibOld ≠ none ∧ Extends h dibOld dibNew := by
  constructor
  · intro htest
    unfold stDibTest at htest
    split at htest
    · cases htest
    rename_i v hver
    split_ifs at htest with hv
    · exact absurd htest (by decide)
    rw [ne_eq, not_not] at hv
    subst hv
    split at htest
    · cases htest
    rename_i device hdevice
    obtain ⟨d, rfl, hd⟩ := Option.bind_eq_some_iff.1 hdevice
    split_ifs at htest with hnext
    · exact absurd htest (by decide)
    push Not at hnext
    obtain ⟨hne, rfl⟩ := hnext
    exact ⟨hne, hver, d, rfl, by rw [Heap.nextDevice, hd, Option.map_some]⟩
  · rintro ⟨hold, hver, d, rfl, hnext⟩
    obtain ⟨device, hd, rfl⟩ := Option.map_eq_some_iff.1 hnext
    rw [stDibTest_accepted hver hd, if_neg]
    rintro (hnull | hother)
    · exact hold hnull
    · exact hother rfl

/-- On allocated nodes the test ends, except for an empty new DIB. -/
theorem stDibTest_ends (dibOld : Option Addr) (hclosed : h.Closed) {d : Addr} (hnew : (h.device d).isSome) :
    stDibTest h dibOld (some d) = some 0 ∨ stDibTest h dibOld (some d) = some (-1) := by
  obtain ⟨device, hd⟩ := Option.isSome_iff_exists.1 hnew
  have hver : verifyDib h (some d) = some 0 ∨ verifyDib h (some d) = some (-1) := by
    apply verifyDib_no_fault hclosed
    intro e he
    cases he
    exact hnew
  rcases hver with hver | hver
  · rw [stDibTest_accepted hver hd]
    split_ifs
    · exact .inr rfl
    · exact .inl rfl
  · exact .inr (stDibTest_rejected hver)

end Outcomes

/-! ## When the test is exact -/

/-- A well-formed DIB of one device. -/
def Single (h : Heap) (dib : Option Addr) : Prop := Extends h none dib

/-- On every graph of allocated nodes the test is exact, except for an empty new DIB, and for one of a single
device that extends an empty old DIB. -/
theorem stDibTest_exact_iff (h : Heap) (hclosed : h.Closed) (dibOld dibNew : Option Addr)
    (hnew : ∀ d ∈ dibNew, (h.device d).isSome) :
    Exact h dibOld dibNew ↔ dibNew ≠ none ∧ ¬ (dibOld = none ∧ Single h dibNew) := by
  constructor
  · rintro ⟨v, htest, hv⟩
    constructor
    · rintro rfl
      rw [stDibTest_null] at htest
      cases htest
    · rintro ⟨rfl, hsingle⟩
      rw [hv.2 hsingle] at htest
      exact (stDibTest_zero.1 htest).1 rfl
  · rintro ⟨hne, hsingle⟩
    obtain ⟨d, rfl⟩ := Option.ne_none_iff_exists'.1 hne
    rcases stDibTest_ends dibOld hclosed (hnew d rfl) with htest | htest
    · exact ⟨0, htest, iff_of_true rfl (stDibTest_zero.1 htest).2⟩
    · refine ⟨-1, htest, iff_of_false (by decide) fun hext => ?_⟩
      have hold : dibOld ≠ none := by
        rintro rfl
        exact hsingle ⟨rfl, hext⟩
      rw [stDibTest_zero.2 ⟨hold, hext⟩] at htest
      exact absurd htest (by decide)

/-- The second of two devices is the old DIB. -/
theorem stDibTest_exact_row : Exact (rowHeap 2) (some 1) (rowDib 2) :=
  (stDibTest_exact_iff (rowHeap 2) (rowHeap_closed 2) (some 1) (rowDib 2) (by simp [rowDib, rowHeap])).2
    ⟨by decide, fun h => nomatch h.1⟩

/-! ## Behind the driver's registration -/

/-- Behind registration the test passes if the old DIB was accepted, is not empty, and was not full. -/
theorem stDibTest_register_iff {k : KiloNodes} {h h' : Heap} {dibOld dibNew : Option Addr} (hk : k.Built h)
    (hout : Outside k h dibOld) (hreg : registerNandDevice k h dibOld = some (dibNew, h')) :
    stDibTest h' dibOld dibNew = some 0 ↔ dibOld ≠ none ∧ verifyDib h dibOld = some 0 ∧ ¬ Full h dibOld := by
  unfold registerNandDevice at hreg
  split at hreg
  · cases hreg
  rename_i v hver
  split_ifs at hreg with hv
  -- rejected: no DIB is returned, and the test faults
  · cases hreg
    rw [stDibTest_null]
    refine iff_of_false (by simp) fun h => hv ?_
    rw [hver] at h
    exact Option.some.inj h.2.1
  · rw [ne_eq, not_not] at hv
    subst hv
    cases hreg
    rw [stDibTest_zero, ← keepsWellFormed_iff hk hout]
    refine and_congr_right fun _ => ?_
    constructor
    · rintro ⟨hver', -⟩
      refine ⟨hver, fun hrej => ?_, fun _ => .inr ⟨_, registerNandDevice_accepted hver, hver', hk.nextDevice dibOld,
        linkNodes_kept k h dibOld⟩⟩
      rw [hver] at hrej
      exact absurd hrej (by decide)
    · rintro ⟨-, hkeeps⟩
      rcases hkeeps.2 hver with hnone | ⟨h', hreg, hver', hnext, -⟩
      · rw [registerNandDevice_accepted hver] at hnone
        cases hnone
      · rw [registerNandDevice_accepted hver] at hreg
        cases hreg
        exact ⟨hver', _, rfl, hnext⟩

/-- A device without a controller and, at the next address, the driver's nodes as they are built. -/
def strayHeap : Heap where
  storage a := if a = 1 then some { nextStorage := none, controller := none, refCount := 1 } else none
  controller a :=
    if a = 1 then some { nstorage := 1, firstStorage := some 1, lastStorage := some 1, refCount := 1 } else none
  device a :=
    if a = 0 then some { controller := none, nextDevice := none, refCount := 0 }
    else if a = 1 then some { controller := some 1, nextDevice := none, refCount := 2 }
    else none

theorem strayHeap_closed : strayHeap.Closed := by
  constructor <;> intro a v hv b hb <;> simp only [strayHeap] at hv ⊢ <;> grind

/-- The driver rejects the malformed DIB and returns none, in which the test looks for a first device. -/
theorem rejected_dib_faults :
    strayHeap.Closed ∧ (rowKilo 1).Built strayHeap ∧
      registerNandDevice (rowKilo 1) strayHeap (some 0) = some (none, strayHeap) ∧
      stDibTest strayHeap (some 0) none = none ∧ ¬ Exact strayHeap (some 0) none := by
  refine ⟨strayHeap_closed, ⟨⟨none, rfl⟩, rfl, ⟨none, rfl⟩⟩, registerNandDevice_rejected ?_, stDibTest_null _ _, ?_⟩
  · have hvisit : visitDevice strayHeap 0 = .error .malformed := rfl
    unfold verifyDib
    rw [walk, if_neg (by decide), hvisit]
  · rintro ⟨v, htest, -⟩
    rw [stDibTest_null] at htest
    cases htest

end NandRig.Tester
