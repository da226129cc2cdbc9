/-
What the rig makes of the kilo drivers before any system test (`main/main.c`): the child gives the DIB
of `st_dib_init()` to the driver, tests the DIB it gets back, and exits if the test fails.
-/
import NandRig.Tester.DibTest

namespace NandRig.Tester

open Framework Driver Chain

/-! ## The check of `main()` -/

/-- The test behind registration: 0 where the child goes on, if no pointer led nowhere. -/
def checkDib (make : KiloMake) (k : KiloNodes) (h : Heap) (dibOld : Option Addr) : Option Int :=
  (make.registerNandDevice k h dibOld).bind fun x =>
    if dibOld ≠ x.1 then stDibTest x.2 dibOld x.1 else some 0

section

variable {make : KiloMake} {k : KiloNodes} {h : Heap} {dibOld : Option Addr}

/-- An accepted DIB leads to a node that is not the driver's. -/
theorem outside_ne_device (hout : Outside k h dibOld) (hver : verifyDib h dibOld = some 0) :
    dibOld ≠ some k.device := by
  rintro rfl
  obtain ⟨devices, hl, _, _⟩ := verifyDib_zero.1 hver
  cases hl with
  | cons hn hl' => exact hout.device _ (.cons hn hl') List.mem_cons_self

theorem accepted_allocated (hver : verifyDib h dibOld = some 0) : ∀ a ∈ dibOld, (h.device a).isSome := by
  rintro a rfl
  obtain ⟨devices, hl, _, _⟩ := verifyDib_zero.1 hver
  cases hl with
  | cons hn hl' =>
    obtain ⟨device, hd, _⟩ := Option.map_eq_some_iff.1 hn
    rw [hd]
    rfl

theorem checkDib_accepted (hout : Outside k h dibOld) (hver : verifyDib h dibOld = some 0) :
    checkDib make k h dibOld = stDibTest (make.linkNodes k h dibOld) dibOld (some k.device) := by
  unfold checkDib
  rw [KiloMake.registerNandDevice_accepted hver, Option.bind_some]
  exact if_pos (outside_ne_device hout hver)

theorem checkDib_zero_iff (hk : make.Built k h) (hout : Outside k h dibOld) (hver : verifyDib h dibOld = some 0) :
    checkDib make k h dibOld = some 0 ↔
      (make.Sound ∧ make.linksOld = true) ∧ dibOld ≠ none ∧ ¬ Full h dibOld := by
  obtain ⟨devices, hl, hmax, hdevices⟩ := verifyDib_zero.1 hver
  have hnext : (make.linkNodes k h dibOld).nextDevice k.device =
      some (if make.linksOld then dibOld else none) := by
    rw [Heap.nextDevice, (hk.registered dibOld).device]
    rfl
  have hwell (hlinks : make.linksOld = true) :=
    (hk.registered dibOld).wellFormed_iff (make.linkNodes_kept k h dibOld) hout hlinks hl hdevices
  have hfull : Full h dibOld ↔ devices.length = maxNandDevices := by
    constructor
    · rintro ⟨_, devices', hl', hlen⟩
      rwa [hl.unique hl']
    · exact fun hlen => ⟨hver, devices, hl, hlen⟩
  rw [checkDib_accepted hout hver, stDibTest_zero, hfull]
  constructor
  · rintro ⟨hold, hver', d, hd, hnext'⟩
    cases hd
    rw [hnext, Option.some.injEq] at hnext'
    -- a driver that loses the old DIB links NULL, which the old one is not
    have hlinks : make.linksOld = true := by
      by_contra hlost
      rw [if_neg hlost] at hnext'
      exact hold hnext'.symm
    obtain ⟨hsound, hlen⟩ := (hwell hlinks).1 (verifyDib_zero.1 hver')
    exact ⟨⟨hsound, hlinks⟩, hold, by omega⟩
  · rintro ⟨⟨hsound, hlinks⟩, hold, hlen⟩
    refine ⟨hold, verifyDib_zero.2 ?_, k.device, rfl, ?_⟩
    · exact (hwell hlinks).2 ⟨hsound, by omega⟩
    · rw [hnext, if_pos hlinks]

theorem checkDib_ends (hk : make.Built k h) (hclosed : h.Closed) (hout : Outside k h dibOld)
    (hver : verifyDib h dibOld = some 0) :
    checkDib make k h dibOld = some 0 ∨ checkDib make k h dibOld = some (-1) := by
  rw [checkDib_accepted hout hver]
  refine stDibTest_ends dibOld (hk.closed hclosed (accepted_allocated hver)) ?_
  rw [(hk.registered dibOld).device]
  rfl

end

/-- Of the six drivers, kilo_0 alone builds and links its nodes soundly. -/
theorem kiloFamily_sound_iff {make : KiloMake} (hmake : make ∈ kiloFamily) :
    (make.Sound ∧ make.linksOld = true) ↔ make = kilo0 := by
  constructor
  · rintro ⟨⟨⟨hsrefs, hrefs, hdrefs⟩, ⟨hfirst, hlast, hcontroller⟩, hchip⟩, hold⟩
    cases make
    simp_all [kilo0]
  · rintro rfl
    exact ⟨kilo0_sound, rfl⟩

/-- Given any well-formed DIB without the driver's nodes, the child goes on or exits, without a fault: it
goes on exactly where the driver's nodes are sound and keep the old DIB, which has a device and is not
full. Of the six drivers, that is kilo_0. -/
theorem checkDib_finds_flaws (make : KiloMake) (k : KiloNodes) (h : Heap) (hk : make.Built k h) (hclosed : h.Closed)
    (dibOld : Option Addr) (hout : Outside k h dibOld) (hver : verifyDib h dibOld = some 0) :
    (checkDib make k h dibOld = some 0 ∨ checkDib make k h dibOld = some (-1)) ∧
      (checkDib make k h dibOld = some 0 ↔
        (make.Sound ∧ make.linksOld = true) ∧ dibOld ≠ none ∧ ¬ Full h dibOld) ∧
      (make ∈ kiloFamily →
        (checkDib make k h dibOld = some 0 ↔ make = kilo0 ∧ dibOld ≠ none ∧ ¬ Full h dibOld)) := by
  have hiff := checkDib_zero_iff hk hout hver
  refine ⟨checkDib_ends hk hclosed hout hver, hiff, fun hmake => ?_⟩
  rw [hiff, kiloFamily_sound_iff hmake]

/-! ## The DIB of `st_dib_init()` -/

/-- The nodes of `st_dib_init()` and, at the next address, those of the driver. -/
def startHeap (make : KiloMake) : Heap where
  storage a :=
    if a = 1 then some { nextStorage := none, controller := none, refCount := make.storageRefCount }
    else (rowHeap 1).storage a
  controller a :=
    if a = 1 then some {
      nstorage := 1, firstStorage := setIf make.setsFirst 1, lastStorage := setIf make.setsLast 1,
      refCount := make.controllerRefCount }
    else (rowHeap 1).controller a
  device a :=
    if a = 1 then some {
      controller := setIf make.setsController 1, nextDevice := none, refCount := make.deviceRefCount }
    else (rowHeap 1).device a

theorem startHeap_built (make : KiloMake) : make.Built (rowKilo 1) (startHeap make) where
  storageChip := rfl
  controllerChip := rfl
  device := rfl

theorem startHeap_closed (make : KiloMake) : (startHeap make).Closed := by
  constructor <;> intro a v hv b hb <;> simp only [startHeap, rowHeap, setIf] at hv ⊢ <;> grind

theorem startHeap_devices (make : KiloMake) : Linked (startHeap make).nextDevice (some 0) [0] := .cons rfl .nil

theorem startHeap_deviceOk (make : KiloMake) : DeviceOk (startHeap make) 0 0 [0] := by
  refine ⟨⟨⟨le_refl 1, by simp⟩, ⟨_, rfl, .cons rfl .nil, rfl, rfl, rfl⟩, fun i hi => ?_⟩, _, rfl, rfl, rfl⟩
  obtain rfl : i = 0 := by simpa using hi
  exact ⟨_, rfl, rfl, rfl⟩

theorem startHeap_accepted (make : KiloMake) : verifyDib (startHeap make) (some 0) = some 0 := by
  refine verifyDib_zero.2 ⟨_, startHeap_devices make, by simp, fun d hd => ?_⟩
  rw [List.mem_singleton.1 hd]
  exact ⟨0, [0], startHeap_deviceOk make⟩

theorem startHeap_outside (make : KiloMake) : Outside (rowKilo 1) (startHeap make) (some 0) := by
  have honly : ∀ devices, Linked (startHeap make).nextDevice (some 0) devices → devices = [0] := fun devices hl =>
    hl.unique (startHeap_devices make)
  constructor
  · intro devices hl hd
    rw [honly devices hl] at hd
    exact absurd hd (by decide)
  · intro devices hl d hd device hdev hc
    rw [honly devices hl, List.mem_singleton] at hd
    subst hd
    cases hdev
    exact absurd hc (by decide)
  · intro devices hl d hd device hdev c controller hc hctl chips hchips hs
    rw [honly devices hl, List.mem_singleton] at hd
    subst hd
    obtain ⟨_, rfl⟩ := (startHeap_deviceOk make).chips_eq hdev hc hctl hchips
    exact absurd hs (by decide)

/-- The DIB of `st_dib_init()` has one device: kilo_0 is accepted and the others are not. -/
theorem checkDib_finds_flaws_start :
    checkDib kilo0 (rowKilo 1) (startHeap kilo0) (some 0) = some 0 ∧
      ∀ make ∈ kiloFamily, make ≠ kilo0 → checkDib make (rowKilo 1) (startHeap make) (some 0) = some (-1) := by
  have hfinds (make : KiloMake) := checkDib_finds_flaws make (rowKilo 1) (startHeap make) (startHeap_built make)
    (startHeap_closed make) (some 0) (startHeap_outside make) (startHeap_accepted make)
  constructor
  · refine ((hfinds kilo0).2.2 (by decide)).2 ⟨rfl, by decide, ?_⟩
    rintro ⟨_, devices, hl, hlen⟩
    rw [hl.unique (startHeap_devices kilo0)] at hlen
    exact absurd hlen (by decide)
  · intro make hmake hne
    refine (hfinds make).1.resolve_left fun hzero => hne ?_
    exact (((hfinds make).2.2 hmake).1 hzero).1

end NandRig.Tester
