/-
The registration of the kilo_0 driver (`driver/kilo/kilo_0.c`), the sound one of its family, and what it makes of
the DIB it is given.
-/
import NandRig.Driver.KiloFamily

namespace NandRig.Driver

open Framework Chain

/-! ## The driver's nodes -/

/-- The nodes as the driver defines them; registration sets the other two pointers. -/
structure KiloNodes.Built (k : KiloNodes) (h : Heap) : Prop where
  storageChip : ∃ controller, h.storage k.storageChip =
    some { nextStorage := none, controller := controller, refCount := 1 }
  controllerChip : h.controller k.controllerChip =
    some { nstorage := 1, firstStorage := some k.storageChip, lastStorage := some k.storageChip, refCount := 1 }
  device : ∃ nextDevice, h.device k.device =
    some { controller := some k.controllerChip, nextDevice := nextDevice, refCount := 2 }

/-! ## Registration -/

/-- `kilo_storage_chip.controller = &kilo_controller_chip; kilo_device.next_device = old_dib;` -/
def linkNodes (k : KiloNodes) (h : Heap) (oldDib : Option Addr) : Heap :=
  { h with
    storage := Function.update h.storage k.storageChip
      ((h.storage k.storageChip).map fun s => { s with controller := some k.controllerChip })
    device := Function.update h.device k.device
      ((h.device k.device).map fun d => { d with nextDevice := oldDib }) }

/-- `register_nand_device(old_dib)`: the pointer returned and the heap left, if no pointer led nowhere. -/
def registerNandDevice (k : KiloNodes) (h : Heap) (oldDib : Option Addr) : Option (Option Addr × Heap) :=
  match verifyDib h oldDib with
  | none => none
  | some v => if v ≠ 0 then some (none, h) else some (some k.device, linkNodes k h oldDib)

/-! ## The contract -/

/-- A rejected DIB is left alone; an accepted one is left alone or becomes the tail of a well-formed
DIB that starts with the driver's device. -/
def KeepsWellFormed (k : KiloNodes) (h : Heap) (oldDib : Option Addr) : Prop :=
  (verifyDib h oldDib = some (-1) → registerNandDevice k h oldDib = some (none, h)) ∧
  (verifyDib h oldDib = some 0 → registerNandDevice k h oldDib = some (none, h) ∨
    ∃ h', registerNandDevice k h oldDib = some (some k.device, h') ∧ verifyDib h' (some k.device) = some 0 ∧
      h'.nextDevice k.device = some oldDib ∧ OldNodesKept k h h')

/-! ## The driver in its family -/

theorem linkNodes_kilo0 (k : KiloNodes) (h : Heap) (oldDib : Option Addr) :
    kilo0.linkNodes k h oldDib = linkNodes k h oldDib := rfl

theorem kilo0_registerNandDevice (k : KiloNodes) (h : Heap) (oldDib : Option Addr) :
    kilo0.registerNandDevice k h oldDib = registerNandDevice k h oldDib := by
  unfold KiloMake.registerNandDevice registerNandDevice
  cases verifyDib h oldDib with
  | none => rfl
  | some v =>
    dsimp only [Option.map_some]
    split_ifs <;> rfl

section

variable {k : KiloNodes} {h : Heap} {oldDib : Option Addr}

/-- Whatever the pointers were that registration sets. -/
theorem KiloNodes.Built.registered (hk : k.Built h) (oldDib : Option Addr) :
    kilo0.Registered k oldDib (linkNodes k h oldDib) := by
  obtain ⟨controller, hs⟩ := hk.storageChip
  obtain ⟨nextDevice, hd⟩ := hk.device
  constructor
  · simp [linkNodes, hs, kilo0, setIf]
  · exact hk.controllerChip
  · simp [linkNodes, hd, kilo0, setIf]

theorem KiloNodes.Built.nextDevice (hk : k.Built h) (oldDib : Option Addr) :
    (linkNodes k h oldDib).nextDevice k.device = some oldDib := by
  rw [Heap.nextDevice, (hk.registered oldDib).device]
  rfl

theorem linkNodes_kept (k : KiloNodes) (h : Heap) (oldDib : Option Addr) : OldNodesKept k h (linkNodes k h oldDib) :=
  kilo0.linkNodes_kept k h oldDib

/-- In front of a well-formed DIB of `n` devices, the driver's device makes a list of `n + 1`, well-formed
when that is not too long. -/
theorem linkNodes_wellFormed (hk : k.Built h) (hout : Outside k h oldDib) {devices : List Addr}
    (hl : Linked h.nextDevice oldDib devices) (hdevices : ∀ d ∈ devices, ∃ c chips, DeviceOk h d c chips) :
    WellFormed (linkNodes k h oldDib) (some k.device) ↔ devices.length + 1 ≤ maxNandDevices := by
  rw [(hk.registered oldDib).wellFormed_iff (linkNodes_kept k h oldDib) hout rfl hl hdevices]
  exact and_iff_right kilo0_sound

theorem registerNandDevice_rejected (hver : verifyDib h oldDib = some (-1)) :
    registerNandDevice k h oldDib = some (none, h) := by
  rw [← kilo0_registerNandDevice, KiloMake.registerNandDevice_rejected hver]

theorem registerNandDevice_accepted (hver : verifyDib h oldDib = some 0) :
    registerNandDevice k h oldDib = some (some k.device, linkNodes k h oldDib) := by
  rw [← kilo0_registerNandDevice, KiloMake.registerNandDevice_accepted hver, linkNodes_kilo0]

end

/-! ## When registration keeps the DIB well-formed -/

/-- An accepted DIB with a full device list, the one that registration makes too long. -/
def Full (h : Heap) (oldDib : Option Addr) : Prop :=
  verifyDib h oldDib = some 0 ∧
    ∃ devices, Linked h.nextDevice oldDib devices ∧ devices.length = maxNandDevices

theorem keepsWellFormed_iff {k : KiloNodes} {h : Heap} (hk : k.Built h) {oldDib : Option Addr}
    (hout : Outside k h oldDib) : KeepsWellFormed k h oldDib ↔ ¬ Full h oldDib := by
  constructor
  · rintro ⟨_, hacc⟩ ⟨hver, devices, hl, hlen⟩
    obtain ⟨devices', hl', _, hdevices⟩ := verifyDib_zero.1 hver
    cases hl.unique hl'
    rcases hacc hver with h1 | ⟨h', h1, hver', _⟩
    · rw [registerNandDevice_accepted hver] at h1; cases h1
    · rw [registerNandDevice_accepted hver] at h1
      cases h1
      have := (linkNodes_wellFormed hk hout hl hdevices).1 (verifyDib_zero.1 hver')
      omega
  · intro hfull
    refine ⟨registerNandDevice_rejected, fun hver => .inr ⟨_, registerNandDevice_accepted hver, ?_,
      hk.nextDevice oldDib, linkNodes_kept k h oldDib⟩⟩
    obtain ⟨devices, hl, hmax, hdevices⟩ := verifyDib_zero.1 hver
    rw [verifyDib_zero, linkNodes_wellFormed hk hout hl hdevices]
    have hne : devices.length ≠ maxNandDevices := by
      intro hlen
      exact hfull ⟨hver, devices, hl, hlen⟩
    omega

/-- Registration keeps the DIB well-formed unless the old one already has 64 devices. -/
theorem registerNandDevice_keepsWellFormed_iff (k : KiloNodes) (h : Heap) (hk : k.Built h) (oldDib : Option Addr)
    (hout : Outside k h oldDib) :
    KeepsWellFormed k h oldDib ↔
      ¬ (verifyDib h oldDib = some 0 ∧
        ∃ devices, Linked h.nextDevice oldDib devices ∧ devices.length = maxNandDevices) :=
  keepsWellFormed_iff hk hout

/-! ## Registration behind a row of devices -/

/-- A row of `n` devices and, at the next address, the driver's nodes as they are built. -/
def rowKiloHeap (n : Nat) : Heap where
  storage a :=
    if a = n then some { nextStorage := none, controller := none, refCount := 1 } else (rowHeap n).storage a
  controller a :=
    if a = n then some { nstorage := 1, firstStorage := some n, lastStorage := some n, refCount := 1 }
    else (rowHeap n).controller a
  device a :=
    if a = n then some { controller := some n, nextDevice := none, refCount := 2 } else (rowHeap n).device a

def rowKilo (n : Nat) : KiloNodes := ⟨n, n, n⟩

theorem rowKilo_built (n : Nat) : (rowKilo n).Built (rowKiloHeap n) where
  storageChip := ⟨none, if_pos rfl⟩
  controllerChip := if_pos rfl
  device := ⟨none, if_pos rfl⟩

theorem rowKilo_devices (n : Nat) : Linked (rowKiloHeap n).nextDevice (rowDib n) (List.range n) := by
  refine (rowHeap_devices n).congr fun d hd => ?_
  have hne : d ≠ n := Nat.ne_of_lt (List.mem_range.1 hd)
  simp [Heap.nextDevice, rowKiloHeap, hne]

theorem rowKilo_deviceOk {n a : Nat} (ha : a < n) : DeviceOk (rowKiloHeap n) a a [a] := by
  have hne : a ≠ n := by omega
  refine ⟨⟨⟨le_refl 1, by simp⟩, ⟨_, (if_neg hne).trans (if_pos ha), .cons ?_ .nil, rfl, rfl, rfl⟩, fun i hi => ?_⟩,
    _, (if_neg hne).trans (if_pos ha), rfl, rfl⟩
  · simp [Heap.nextStorage, rowKiloHeap, rowHeap, ha, hne]
  · obtain rfl : i = 0 := by simpa using hi
    exact ⟨_, (if_neg hne).trans (if_pos ha), rfl, rfl⟩

theorem rowKilo_outside (n : Nat) : Outside (rowKilo n) (rowKiloHeap n) (rowDib n) := by
  have hlt : ∀ devices, Linked (rowKiloHeap n).nextDevice (rowDib n) devices → ∀ d ∈ devices, d < n := by
    intro devices hl d hd
    rw [hl.unique (rowKilo_devices n)] at hd
    exact List.mem_range.1 hd
  constructor
  · intro devices hl hd
    exact lt_irrefl n (hlt devices hl n hd)
  · intro devices hl d hd device hdev hc
    have hd := hlt devices hl d hd
    obtain ⟨_, device', hdev', hc', _⟩ := rowKilo_deviceOk hd
    rw [hdev] at hdev'
    cases hdev'
    rw [hc] at hc'
    cases hc'
    exact lt_irrefl n hd
  · intro devices hl d hd device hdev c controller hc hctl chips hchips hs
    have hd := hlt devices hl d hd
    obtain ⟨_, rfl⟩ := (rowKilo_deviceOk hd).chips_eq hdev hc hctl hchips
    exact Nat.ne_of_gt hd (List.mem_singleton.1 hs)

theorem rowKilo_accepted {n : Nat} (hn : n ≤ maxNandDevices) : verifyDib (rowKiloHeap n) (rowDib n) = some 0 := by
  refine verifyDib_zero.2 ⟨_, rowKilo_devices n, ?_, fun d hd => ⟨d, [d], rowKilo_deviceOk (List.mem_range.1 hd)⟩⟩
  rwa [List.length_range]

/-- Behind 63 devices registration keeps the DIB well-formed. -/
theorem registerNandDevice_keepsWellFormed_row : KeepsWellFormed (rowKilo 63) (rowKiloHeap 63) (rowDib 63) := by
  refine (registerNandDevice_keepsWellFormed_iff _ _ (rowKilo_built 63) _ (rowKilo_outside 63)).2 ?_
  rintro ⟨_, devices, hl, hlen⟩
  rw [hl.unique (rowKilo_devices 63), List.length_range] at hlen
  cases hlen

/-- Behind 64 devices, which `verify_dib()` accepts, registration returns a DIB of 65. -/
theorem registerNandDevice_full :
    (rowKilo 64).Built (rowKiloHeap 64) ∧ Outside (rowKilo 64) (rowKiloHeap 64) (rowDib 64) ∧
      verifyDib (rowKiloHeap 64) (rowDib 64) = some 0 ∧
      (∃ h', registerNandDevice (rowKilo 64) (rowKiloHeap 64) (rowDib 64) = some (some 64, h') ∧
        verifyDib h' (some 64) ≠ some 0) ∧
      ¬ KeepsWellFormed (rowKilo 64) (rowKiloHeap 64) (rowDib 64) := by
  have hver := rowKilo_accepted (n := 64) (le_refl _)
  have hdevices : ∀ d ∈ List.range 64, ∃ c chips, DeviceOk (rowKiloHeap 64) d c chips := fun d hd =>
    ⟨d, [d], rowKilo_deviceOk (List.mem_range.1 hd)⟩
  refine ⟨rowKilo_built 64, rowKilo_outside 64, hver, ⟨_, registerNandDevice_accepted hver, ?_⟩, ?_⟩
  · have hiff := linkNodes_wellFormed (rowKilo_built 64) (rowKilo_outside 64) (rowKilo_devices 64) hdevices
    rw [List.length_range] at hiff
    exact fun h => absurd (hiff.1 (verifyDib_zero.1 h)) (by decide)
  · rw [keepsWellFormed_iff (rowKilo_built 64) (rowKilo_outside 64)]
    exact fun h => h ⟨hver, _, rowKilo_devices 64, List.length_range⟩

end NandRig.Driver
