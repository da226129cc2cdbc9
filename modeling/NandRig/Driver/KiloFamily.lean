/-
The kilo drivers (`driver/kilo/kilo_0.c` to `kilo_5.c`). All repeat the interpreter of foxtrot_0, and link the
three nodes they are built with in front of the DIB they are given, once `verify_dib()` has accepted that DIB. All
but kilo_0 get one thing wrong in how the nodes are built or linked.
-/
import NandRig.Driver.Sound
import NandRig.Framework.Dib

namespace NandRig.Driver

open Framework Chain

/-! ## The drivers -/

/-- What the drivers of the family do in their own ways. -/
structure KiloMake where
  storageRefCount : UInt32
  controllerRefCount : UInt32
  deviceRefCount : UInt32
  /-- `.first_storage = &kilo_storage_chip`, else NULL. -/
  setsFirst : Bool
  setsLast : Bool
  /-- `.controller = &kilo_controller_chip` of the device, else NULL. -/
  setsController : Bool
  /-- `kilo_storage_chip.controller = &kilo_controller_chip;` at registration. -/
  linksChip : Bool
  /-- `kilo_device.next_device = old_dib;` at registration, else NULL. -/
  linksOld : Bool
  deriving DecidableEq, Repr

def kilo0 : KiloMake where
  storageRefCount := 1
  controllerRefCount := 1
  deviceRefCount := 2
  setsFirst := true
  setsLast := true
  setsController := true
  linksChip := true
  linksOld := true

/-- Loses the old DIB. -/
def kilo1 : KiloMake := { kilo0 with linksOld := false }
/-- The device has no controller. -/
def kilo2 : KiloMake := { kilo0 with setsController := false }
/-- The controller has no storage chips. -/
def kilo3 : KiloMake := { kilo0 with setsFirst := false, setsLast := false }
/-- No reference is counted. -/
def kilo4 : KiloMake := { kilo0 with storageRefCount := 0, controllerRefCount := 0, deviceRefCount := 0 }
/-- The controller has a first storage chip but no last one, and the chip has no controller. -/
def kilo5 : KiloMake := { kilo0 with setsLast := false, linksChip := false }

def kiloFamily : List KiloMake := [kilo0, kilo1, kilo2, kilo3, kilo4, kilo5]

/-- `get_driver()` of all of them: the interpreter of their controller. -/
def kiloGetDriver : NandDriver := .execOp Foxtrot0.execOp

/-! ## The nodes of a driver -/

/-- Where `kilo_storage_chip`, `kilo_controller_chip` and `kilo_device` lie. -/
structure KiloNodes where
  storageChip : Addr
  controllerChip : Addr
  device : Addr

/-- The old DIB has none of the driver's nodes. -/
structure Outside (k : KiloNodes) (h : Heap) (dib : Option Addr) : Prop where
  device : ∀ devices, Linked h.nextDevice dib devices → k.device ∉ devices
  controller : ∀ devices, Linked h.nextDevice dib devices → ∀ d ∈ devices, ∀ device, h.device d = some device →
    device.controller ≠ some k.controllerChip
  storage : ∀ devices, Linked h.nextDevice dib devices → ∀ d ∈ devices, ∀ device, h.device d = some device →
    ∀ c controller, device.controller = some c → h.controller c = some controller →
    ∀ chips, Linked h.nextStorage controller.firstStorage chips → k.storageChip ∉ chips

/-- Every node of the old heap but the driver's own is as it was. -/
structure OldNodesKept (k : KiloNodes) (h h' : Heap) : Prop where
  storage : ∀ a, a ≠ k.storageChip → h'.storage a = h.storage a
  controller : ∀ a, h'.controller a = h.controller a
  device : ∀ a, a ≠ k.device → h'.device a = h.device a

/-! ## Registration -/

/-- `&node`, or NULL where the driver does not set the pointer. -/
def setIf (set : Bool) (node : Addr) : Option Addr := if set then some node else none

namespace KiloMake

variable (make : KiloMake) (k : KiloNodes) (h : Heap) (oldDib : Option Addr)

/-- The nodes as the driver defines them. -/
structure Built : Prop where
  storageChip : h.storage k.storageChip =
    some { nextStorage := none, controller := none, refCount := make.storageRefCount }
  controllerChip : h.controller k.controllerChip = some {
    nstorage := 1, firstStorage := setIf make.setsFirst k.storageChip,
    lastStorage := setIf make.setsLast k.storageChip, refCount := make.controllerRefCount }
  device : h.device k.device = some {
    controller := setIf make.setsController k.controllerChip, nextDevice := none,
    refCount := make.deviceRefCount }

def linkNodes : Heap :=
  { h with
    storage := if make.linksChip then
        Function.update h.storage k.storageChip
          ((h.storage k.storageChip).map fun s => { s with controller := some k.controllerChip })
      else h.storage
    device := Function.update h.device k.device
      ((h.device k.device).map fun d => { d with nextDevice := if make.linksOld then oldDib else none }) }

/-- `register_nand_device(old_dib)`: the pointer returned and the heap left, if no pointer led nowhere. -/
def registerNandDevice : Option (Option Addr × Heap) :=
  (verifyDib h oldDib).map fun v =>
    if v ≠ 0 then (none, h) else (some k.device, make.linkNodes k h oldDib)

/-- The nodes are built and linked as a DIB wants them. -/
structure Sound : Prop where
  counts : make.storageRefCount = 1 ∧ make.controllerRefCount = 1 ∧ make.deviceRefCount = 2
  sets : make.setsFirst = true ∧ make.setsLast = true ∧ make.setsController = true
  links : make.linksChip = true

end KiloMake

theorem kilo0_sound : kilo0.Sound := ⟨⟨rfl, rfl, rfl⟩, ⟨rfl, rfl, rfl⟩, rfl⟩

/-! ## The nodes behind registration -/

section

variable {make : KiloMake} {k : KiloNodes} {h : Heap}

theorem KiloMake.linkNodes_kept (make : KiloMake) (k : KiloNodes) (h : Heap) (oldDib : Option Addr) :
    OldNodesKept k h (make.linkNodes k h oldDib) where
  storage a ha := by
    unfold linkNodes
    dsimp only
    split_ifs
    · exact Function.update_of_ne ha _ _
    · rfl
  controller _ := rfl
  device _ ha := Function.update_of_ne ha _ _

/-- The nodes in the heap `h` as registration in front of `oldDib` leaves them. -/
structure KiloMake.Registered (make : KiloMake) (k : KiloNodes) (oldDib : Option Addr) (h : Heap) : Prop where
  storageChip : h.storage k.storageChip = some {
    nextStorage := none, controller := setIf make.linksChip k.controllerChip, refCount := make.storageRefCount }
  controllerChip : h.controller k.controllerChip = some {
    nstorage := 1, firstStorage := setIf make.setsFirst k.storageChip,
    lastStorage := setIf make.setsLast k.storageChip, refCount := make.controllerRefCount }
  device : h.device k.device = some {
    controller := setIf make.setsController k.controllerChip,
    nextDevice := if make.linksOld then oldDib else none, refCount := make.deviceRefCount }

theorem KiloMake.Built.registered (hk : make.Built k h) (oldDib : Option Addr) :
    make.Registered k oldDib (make.linkNodes k h oldDib) where
  storageChip := by
    unfold linkNodes setIf
    dsimp only
    split_ifs
    · rw [Function.update_self, hk.storageChip]
      rfl
    · exact hk.storageChip
  controllerChip := hk.controllerChip
  device := by
    unfold linkNodes
    dsimp only
    rw [Function.update_self, hk.device]
    rfl

theorem KiloMake.registerNandDevice_rejected {oldDib : Option Addr} (hver : verifyDib h oldDib = some (-1)) :
    make.registerNandDevice k h oldDib = some (none, h) := by
  unfold registerNandDevice
  rw [hver]
  rfl

theorem KiloMake.registerNandDevice_accepted {oldDib : Option Addr} (hver : verifyDib h oldDib = some 0) :
    make.registerNandDevice k h oldDib = some (some k.device, make.linkNodes k h oldDib) := by
  unfold registerNandDevice
  rw [hver]
  rfl

theorem setIf_eq_some {set : Bool} {node a : Addr} : setIf set node = some a ↔ set = true ∧ node = a := by
  unfold setIf
  cases set <;> simp

/-- The device is as a device must be exactly where its nodes are sound. -/
theorem KiloMake.Registered.deviceOk_iff {oldDib : Option Addr} (hk : make.Registered k oldDib h) :
    (∃ c chips, DeviceOk h k.device c chips) ↔ make.Sound := by
  have hstorage := hk.storageChip
  have hdevice := hk.device
  constructor
  · rintro ⟨c, chips, ⟨_, ⟨controller, hc, hlinked, hlast, hrefs, hcount⟩, hchip⟩, device, hd, hdc, hdrefs⟩
    rw [hdevice] at hd
    cases hd
    obtain ⟨hsetsController, rfl⟩ := setIf_eq_some.1 hdc
    rw [hk.controllerChip] at hc
    cases hc
    have hone : chips.length = 1 := hcount.symm
    obtain ⟨s, rfl⟩ := List.length_eq_one_iff.1 hone
    -- the one chip is the driver's, so that both pointers to it are set
    obtain ⟨hsetsFirst, rfl⟩ := setIf_eq_some.1 hlinked.head?.symm
    obtain ⟨hsetsLast, -⟩ := setIf_eq_some.1 hlast
    obtain ⟨storage, hs, hsrefs, hsc⟩ := hchip 0 Nat.one_pos
    rw [List.getElem_cons_zero, hstorage] at hs
    cases hs
    obtain ⟨hlinksChip, -⟩ := setIf_eq_some.1 hsc
    exact ⟨⟨hsrefs, UInt32.toNat_inj.1 hrefs, UInt32.toNat_inj.1 hdrefs⟩,
      ⟨hsetsFirst, hsetsLast, hsetsController⟩, hlinksChip⟩
  · rintro ⟨⟨hsrefs, hrefs, hdrefs⟩, ⟨hsetsFirst, hsetsLast, hsetsController⟩, hlinksChip⟩
    have hcontroller := hk.controllerChip
    rw [hlinksChip, hsrefs] at hstorage
    rw [hsetsController, hdrefs] at hdevice
    rw [hsetsFirst, hsetsLast, hrefs] at hcontroller
    refine ⟨k.controllerChip, [k.storageChip], ⟨⟨le_refl 1, by simp⟩,
      ⟨_, hcontroller, .cons ?_ .nil, rfl, rfl, rfl⟩, fun i hi => ?_⟩, _, hdevice, rfl, rfl⟩
    · rw [Heap.nextStorage, hstorage]
      rfl
    · obtain rfl : i = 0 := by simpa using hi
      exact ⟨_, hstorage, rfl, rfl⟩

/-- A device whose nodes are all kept is as it was. -/
theorem DeviceOk.kept {k : KiloNodes} {h h' : Heap} (hkept : OldNodesKept k h h') {d c : Addr} {chips : List Addr}
    (hok : DeviceOk h d c chips) (hd : d ≠ k.device) (hs : k.storageChip ∉ chips) : DeviceOk h' d c chips := by
  obtain ⟨⟨hcount, ⟨controller, hc, hl, hrest⟩, hchip⟩, device, hdev, hdrest⟩ := hok
  have hst : ∀ s ∈ chips, h'.storage s = h.storage s := fun s hs' =>
    hkept.storage s fun e => hs (e ▸ hs')
  refine ⟨⟨hcount, ⟨controller, (hkept.controller c).trans hc, hl.congr fun s hs' => ?_, hrest⟩, fun i hi => ?_⟩,
    device, (hkept.device d hd).trans hdev, hdrest⟩
  · rw [Heap.nextStorage, Heap.nextStorage, hst s hs']
  · rw [hst _ (List.getElem_mem hi)]
    exact hchip i hi

/-- In front of a well-formed DIB, sound nodes make a well-formed DIB if that is not too long. -/
theorem KiloMake.Registered.wellFormed_iff {h' : Heap} {oldDib : Option Addr} (hk : make.Registered k oldDib h')
    (hkept : OldNodesKept k h h') (hout : Outside k h oldDib) (hlinks : make.linksOld = true) {devices : List Addr}
    (hl : Linked h.nextDevice oldDib devices) (hdevices : ∀ d ∈ devices, ∃ c chips, DeviceOk h d c chips) :
    WellFormed h' (some k.device) ↔ make.Sound ∧ devices.length + 1 ≤ maxNandDevices := by
  have hne : ∀ d ∈ devices, d ≠ k.device := fun d hd e => hout.device devices hl (e ▸ hd)
  have hnew : Linked h'.nextDevice (some k.device) (k.device :: devices) := by
    refine .cons ?_ (hl.congr fun d hd => ?_)
    · rw [Heap.nextDevice, hk.device, hlinks]
      rfl
    · rw [Heap.nextDevice, Heap.nextDevice, hkept.device d (hne d hd)]
  constructor
  · rintro ⟨devices', hl', hmax, hall⟩
    rw [hl'.unique hnew] at hmax hall
    exact ⟨hk.deviceOk_iff.1 (hall k.device List.mem_cons_self), hmax⟩
  · rintro ⟨hsound, hmax⟩
    refine ⟨_, hnew, hmax, fun d hd => ?_⟩
    rcases List.mem_cons.1 hd with rfl | hd
    · exact hk.deviceOk_iff.2 hsound
    · obtain ⟨c, chips, hok⟩ := hdevices d hd
      refine ⟨c, chips, DeviceOk.kept hkept hok (hne d hd) ?_⟩
      obtain ⟨⟨_, ⟨controller, hc, hlc, _⟩, _⟩, device, hdev, hdc, _⟩ := hok
      exact hout.storage devices hl d hd device hdev c controller hdc hc chips hlc

/-- Registration leaves pointers to nodes, or NULL. -/
theorem KiloMake.Built.closed (hk : make.Built k h) (hclosed : h.Closed) {oldDib : Option Addr}
    (hold : ∀ a ∈ oldDib, (h.device a).isSome) : (make.linkNodes k h oldDib).Closed := by
  obtain ⟨hstorage, -, hdevice⟩ := hk.registered oldDib
  have hkept := make.linkNodes_kept k h oldDib
  have hstorages : ∀ a, (h.storage a).isSome → ((make.linkNodes k h oldDib).storage a).isSome := by
    intro a ha
    by_cases hak : a = k.storageChip
    · rw [hak, hstorage]
      rfl
    · rwa [hkept.storage a hak]
  have hdevicesSome : ∀ a, (h.device a).isSome → ((make.linkNodes k h oldDib).device a).isSome := by
    intro a ha
    by_cases hak : a = k.device
    · rw [hak, hdevice]
      rfl
    · rwa [hkept.device a hak]
  constructor
  · intro a s hs b hb
    by_cases hak : a = k.storageChip
    · rw [hak, hstorage] at hs
      cases hs
      cases hb
    · rw [hkept.storage a hak] at hs
      exact hstorages b (hclosed.storage a s hs b hb)
  · intro a c hc b hb
    exact hstorages b (hclosed.first a c hc b hb)
  · intro a d hd b hb
    by_cases hak : a = k.device
    · rw [hak, hdevice] at hd
      cases hd
      dsimp only at hb
      split_ifs at hb
      · exact hdevicesSome b (hold b hb)
      · cases hb
    · rw [hkept.device a hak] at hd
      exact hdevicesSome b (hclosed.device a d hd b hb)
  · intro a d hd b hb
    by_cases hak : a = k.device
    · rw [hak, hdevice] at hd
      cases hd
      obtain ⟨-, rfl⟩ := setIf_eq_some.1 hb
      rw [hkept.controller, hk.controllerChip]
      rfl
    · rw [hkept.device a hak] at hd
      exact hclosed.controller a d hd b hb

end

end NandRig.Driver
