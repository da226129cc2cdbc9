/-
The driver information base (`framework/fw_dib.c`): devices, controllers and storage chips linked
by pointers, and the checks of `verify_dib()`. A node is read only if it is allocated; reading
through any other pointer is a fault. The checks decide a well-formedness that is stated on the
lists the links make.
-/
import NandRig.Lib.Chain

namespace NandRig.Framework

open Chain

/-! ## Nodes (`framework/framework.h`) -/

abbrev maxNandDevices : Nat := 64
abbrev maxStorageChips : Nat := 8

abbrev Addr := Nat

structure NandStorageChip where
  nextStorage : Option Addr
  controller : Option Addr
  refCount : UInt32
  deriving DecidableEq, Repr

structure NandControllerChip where
  nstorage : UInt32
  firstStorage : Option Addr
  lastStorage : Option Addr
  refCount : UInt32
  deriving DecidableEq, Repr

structure NandDevice where
  controller : Option Addr
  nextDevice : Option Addr
  refCount : UInt32
  deriving DecidableEq, Repr

/-- The allocated nodes of each type. -/
structure Heap where
  storage : Addr → Option NandStorageChip
  controller : Addr → Option NandControllerChip
  device : Addr → Option NandDevice

/-- Why a check ends early: `return -1`, or a pointer to no node. -/
inductive Stop
  | malformed
  | fault
  deriving DecidableEq, Repr

def deref {ν : Type} (cell : Option ν) : Except Stop ν :=
  match cell with
  | some v => .ok v
  | none => .error .fault

/-! ## The checks -/

def verifyStorage (h : Heap) (pController pStorage : Addr) : Except Stop Unit := do
  let controller ← deref (h.controller pController)
  let storage ← deref (h.storage pStorage)
  if controller.firstStorage = some pStorage ∨ controller.lastStorage = some pStorage then
    if storage.controller ≠ some pController then .error .malformed
    else if storage.refCount ≠ 1 then .error .malformed else .ok ()
  else
    if storage.controller ≠ none then .error .malformed
    else if storage.refCount ≠ 1 then .error .malformed else .ok ()

/-- One round of the loop of `verify_controller()`: check the chip, move on to the next. -/
def visitStorage (h : Heap) (pController pStorage : Addr) : Except Stop (Option Addr) := do
  verifyStorage h pController pStorage
  let storage ← deref (h.storage pStorage)
  .ok storage.nextStorage

def verifyController (h : Heap) (pController : Addr) : Except Stop Unit := do
  let controller ← deref (h.controller pController)
  if controller.firstStorage = none then .error .malformed
  else do
    let (scCount, pLast) ←
      walk maxStorageChips .malformed (visitStorage h pController) controller.firstStorage 0 none
    if controller.lastStorage ≠ pLast then .error .malformed
    else if controller.refCount ≠ controller.nstorage ∨ controller.nstorage.toNat ≠ scCount then
      .error .malformed
    else .ok ()

def verifyDevice (h : Heap) (pDevice : Addr) : Except Stop Unit := do
  let device ← deref (h.device pDevice)
  match device.controller with
  | none => .error .malformed
  | some pController =>
    verifyController h pController
    let controller ← deref (h.controller pController)
    if device.refCount ≠ controller.refCount + 1 then .error .malformed else .ok ()

/-- One round of the loop of `verify_dib()`, whose message is left out. -/
def visitDevice (h : Heap) (pDevice : Addr) : Except Stop (Option Addr) := do
  verifyDevice h pDevice
  let device ← deref (h.device pDevice)
  .ok device.nextDevice

/-- `verify_dib(dib)`: the value returned, if no pointer led nowhere. -/
def verifyDib (h : Heap) (dib : Option Addr) : Option Int :=
  match walk maxNandDevices .malformed (visitDevice h) dib 0 none with
  | .ok _ => some 0
  | .error .malformed => some (-1)
  | .error .fault => none

/-! ## Well-formedness -/

def Heap.nextStorage (h : Heap) (s : Addr) : Option (Option Addr) := (h.storage s).map (·.nextStorage)
def Heap.nextDevice (h : Heap) (d : Addr) : Option (Option Addr) := (h.device d).map (·.nextDevice)

/-- A controller with these chips, in list order: the first and the last chip point back to it, the
ones between to no controller, and the counts are right. -/
structure ControllerOk (h : Heap) (pController : Addr) (chips : List Addr) : Prop where
  count : 1 ≤ chips.length ∧ chips.length ≤ maxStorageChips
  node : ∃ controller, h.controller pController = some controller ∧
    Linked h.nextStorage controller.firstStorage chips ∧
    controller.lastStorage = chips.getLast? ∧
    controller.refCount.toNat = chips.length ∧ controller.nstorage.toNat = chips.length
  chip : ∀ i, (hi : i < chips.length) → ∃ storage, h.storage chips[i] = some storage ∧
    storage.refCount = 1 ∧
    storage.controller = if i = 0 ∨ i + 1 = chips.length then some pController else none

/-- A device with a controller, which has these chips. -/
def DeviceOk (h : Heap) (pDevice pController : Addr) (chips : List Addr) : Prop :=
  ControllerOk h pController chips ∧
    ∃ device, h.device pDevice = some device ∧ device.controller = some pController ∧
      device.refCount.toNat = chips.length + 1

/-- At most 64 devices up to NULL, each with its controller and chips. -/
def WellFormed (h : Heap) (dib : Option Addr) : Prop :=
  ∃ devices, Linked h.nextDevice dib devices ∧ devices.length ≤ maxNandDevices ∧
    ∀ d ∈ devices, ∃ c chips, DeviceOk h d c chips

/-- Pointers that are not NULL lead to nodes. -/
structure Heap.Closed (h : Heap) : Prop where
  storage : ∀ a s, h.storage a = some s → ∀ b ∈ s.nextStorage, (h.storage b).isSome
  first : ∀ a c, h.controller a = some c → ∀ b ∈ c.firstStorage, (h.storage b).isSome
  device : ∀ a d, h.device a = some d → ∀ b ∈ d.nextDevice, (h.device b).isSome
  controller : ∀ a d, h.device a = some d → ∀ b ∈ d.controller, (h.controller b).isSome

/-! ## What each check accepts -/

theorem deref_ok {ν : Type} {cell : Option ν} {v : ν} : deref cell = .ok v ↔ cell = some v := by
  cases cell <;> simp [deref]

theorem bind_ok {β γ : Type} {x : Except Stop β} {f : β → Except Stop γ} {c : γ} :
    (x >>= f) = .ok c ↔ ∃ b, x = .ok b ∧ f b = .ok c := by
  cases x <;> simp [bind, Except.bind]

theorem check_ok {β : Type} {x : Except Stop Unit} {f : Unit → Except Stop β} {b : β} :
    (x >>= f) = .ok b ↔ x = .ok () ∧ f () = .ok b := by
  rw [bind_ok]
  exact Unique.exists_iff

theorem reject_ok {p : Prop} [Decidable p] {e : Stop} {β : Type} {k : Except Stop β} {b : β} :
    (if p then .error e else k) = .ok b ↔ ¬ p ∧ k = .ok b := by
  split_ifs with h <;> simp [h]

theorem verifyStorage_ok {h : Heap} {c s : Addr} :
    verifyStorage h c s = .ok () ↔ ∃ controller storage, h.controller c = some controller ∧
      h.storage s = some storage ∧ storage.refCount = 1 ∧
      storage.controller =
        if controller.firstStorage = some s ∨ controller.lastStorage = some s then some c else none := by
  unfold verifyStorage
  simp only [bind_ok, deref_ok, ← exists_and_left]
  refine exists_congr fun controller => exists_congr fun storage => ?_
  split_ifs <;> simp_all

theorem visitStorage_ok {h : Heap} {c s : Addr} {q : Option Addr} :
    visitStorage h c s = .ok q ↔ verifyStorage h c s = .ok () ∧ h.nextStorage s = some q := by
  unfold visitStorage Heap.nextStorage
  rw [check_ok]
  simp [bind_ok, deref_ok]

theorem visitDevice_ok {h : Heap} {d : Addr} {q : Option Addr} :
    visitDevice h d = .ok q ↔ verifyDevice h d = .ok () ∧ h.nextDevice d = some q := by
  unfold visitDevice Heap.nextDevice
  rw [check_ok]
  simp [bind_ok, deref_ok]

/-- The lists a walk goes through: lists of the heap whose nodes pass the check. -/
theorem linked_visit_iff {next : Addr → Option (Option Addr)} {visit : Addr → Except Stop (Option Addr)}
    {check : Addr → Except Stop Unit}
    (hv : ∀ a q, visit a = .ok q ↔ check a = .ok () ∧ next a = some q) {p : Option Addr} {l : List Addr} :
    Linked (fun a => (visit a).toOption) p l ↔ Linked next p l ∧ ∀ a ∈ l, check a = .ok () := by
  have hopt : ∀ a q, (visit a).toOption = some q ↔ visit a = .ok q := by
    intro a q
    cases visit a <;> simp [Except.toOption]
  constructor
  · intro h
    induction h with
    | nil => exact ⟨.nil, by simp⟩
    | @cons a p l hn t ih =>
      obtain ⟨hc, hnext⟩ := (hv a p).1 ((hopt a p).1 hn)
      exact ⟨.cons hnext ih.1, by simpa using ⟨hc, ih.2⟩⟩
  · rintro ⟨h, hc⟩
    induction h with
    | nil => exact .nil
    | @cons a p l hn t ih =>
      refine .cons ((hopt a p).2 ((hv a p).2 ⟨hc a (by simp), hn⟩)) (ih fun b hb => hc b (by simp [hb]))

/-- Comparing with the first and the last pointer is comparing positions. -/
theorem chip_iff {h : Heap} {c : Addr} {controller : NandControllerChip} {chips : List Addr}
    (hc : h.controller c = some controller) (hl : Linked h.nextStorage controller.firstStorage chips)
    (hlast : controller.lastStorage = chips.getLast?) :
    (∀ s ∈ chips, verifyStorage h c s = .ok ()) ↔
      ∀ i, (hi : i < chips.length) → ∃ storage, h.storage chips[i] = some storage ∧ storage.refCount = 1 ∧
        storage.controller = if i = 0 ∨ i + 1 = chips.length then some c else none := by
  have hpos : ∀ i, (hi : i < chips.length) →
      (controller.firstStorage = some chips[i] ∨ controller.lastStorage = some chips[i] ↔
        i = 0 ∨ i + 1 = chips.length) := by
    intro i hi
    obtain ⟨h1, h2⟩ := hl.getElem_eq_iff hi
    rw [h1, hlast, h2]
  rw [List.forall_mem_iff_forall_getElem]
  refine forall₂_congr fun i hi => ?_
  rw [verifyStorage_ok]
  simp only [hc, Option.some.injEq, ↓existsAndEq, true_and, hpos i hi]

theorem verifyController_ok {h : Heap} {c : Addr} :
    verifyController h c = .ok () ↔ ∃ chips, ControllerOk h c chips := by
  have hwalk : ∀ (first : Option Addr) (n : Nat) (z : Option Addr),
      walk maxStorageChips Stop.malformed (visitStorage h c) first 0 none = .ok (n, z) ↔
        ∃ chips, Linked h.nextStorage first chips ∧ (∀ s ∈ chips, verifyStorage h c s = .ok ()) ∧
          n = chips.length ∧ n ≤ maxStorageChips ∧ z = chips.getLast? := by
    intro first n z
    rw [walk_ok_iff (Nat.zero_le _)]
    simp only [linked_visit_iff fun a q => visitStorage_ok, Nat.zero_add, Option.or_none, and_assoc]
  unfold verifyController
  simp only [bind_ok, deref_ok, reject_ok, Prod.exists, hwalk, ne_eq, Decidable.not_not, not_or]
  constructor
  · rintro ⟨controller, hc, hfirst, n, z, ⟨chips, hl, hcheck, rfl, hmax, rfl⟩, hlast, ⟨href, hn⟩, -⟩
    refine ⟨chips, ⟨?_, hmax⟩, ⟨controller, hc, hl, hlast, by rw [href, hn], hn⟩, (chip_iff hc hl hlast).1 hcheck⟩
    -- the check for a NULL first pointer excludes the empty list
    cases chips with
    | nil => exact absurd hl.head?.symm hfirst
    | cons a l => simp
  · rintro ⟨chips, ⟨hmin, hmax⟩, ⟨controller, hc, hl, hlast, href, hn⟩, hchip⟩
    refine ⟨controller, hc, ?_, chips.length, chips.getLast?,
      ⟨chips, hl, (chip_iff hc hl hlast).2 hchip, rfl, hmax, rfl⟩, hlast, ⟨?_, hn⟩, trivial⟩
    · intro hfirst
      rw [hfirst] at hl
      cases hl
      simp at hmin
    · exact UInt32.toNat_inj.1 (href.trans hn.symm)

theorem verifyDevice_ok {h : Heap} {d : Addr} :
    verifyDevice h d = .ok () ↔ ∃ c chips, DeviceOk h d c chips := by
  unfold verifyDevice
  simp only [bind_ok, deref_ok]
  -- the counts are small, so that adding one to the reference count does not wrap
  have hsucc : ∀ {n : Nat} {r : UInt32}, n ≤ maxStorageChips → r.toNat = n → (r + 1).toNat = n + 1 := by
    intro n r hn hr
    rw [UInt32.toNat_add, hr]
    exact Nat.mod_eq_of_lt (by simp only [maxStorageChips, UInt32.reduceToNat] at *; omega)
  constructor
  · rintro ⟨device, hd, hok⟩
    cases hc : device.controller with
    | none => rw [hc] at hok; cases hok
    | some c =>
      rw [hc] at hok
      simp only [bind_ok, deref_ok, reject_ok, ne_eq, Decidable.not_not, and_true] at hok
      obtain ⟨_, hver, controller, hctl, href⟩ := hok
      obtain ⟨chips, hchips⟩ := verifyController_ok.1 hver
      obtain ⟨controller', hctl', _, _, href', _⟩ := hchips.node
      rw [hctl] at hctl'
      cases hctl'
      exact ⟨c, chips, hchips, device, hd, hc, by rw [href, hsucc hchips.count.2 href']⟩
  · rintro ⟨c, chips, hchips, device, hd, hc, href⟩
    obtain ⟨controller, hctl, _, _, href', _⟩ := hchips.node
    refine ⟨device, hd, ?_⟩
    rw [hc]
    simp only [bind_ok, deref_ok, reject_ok, ne_eq, Decidable.not_not, and_true]
    refine ⟨(), verifyController_ok.2 ⟨chips, hchips⟩, controller, hctl, ?_⟩
    exact UInt32.toNat_inj.1 (href.trans (hsucc hchips.count.2 href').symm)

/-! ## What `verify_dib()` decides -/

theorem verifyDib_zero {h : Heap} {dib : Option Addr} : verifyDib h dib = some 0 ↔ WellFormed h dib := by
  have hok : verifyDib h dib = some 0 ↔
      ∃ n z, walk maxNandDevices Stop.malformed (visitDevice h) dib 0 none = .ok (n, z) := by
    unfold verifyDib
    split
    · rename_i x hx
      exact ⟨fun _ => ⟨x.1, x.2, hx⟩, fun _ => rfl⟩
    all_goals rename_i hx; rw [hx]; simp
  rw [hok]
  simp only [walk_ok_iff (Nat.zero_le _), linked_visit_iff fun a q => visitDevice_ok, Nat.zero_add,
    verifyDevice_ok, Option.or_none]
  constructor
  · rintro ⟨n, z, devices, ⟨hl, hd⟩, rfl, hmax, rfl⟩
    exact ⟨devices, hl, hmax, hd⟩
  · rintro ⟨devices, hl, hmax, hd⟩
    exact ⟨_, _, devices, ⟨hl, hd⟩, rfl, hmax, rfl⟩

/-! ## No check leaves the allocated nodes -/

theorem deref_of_isSome {ν : Type} {cell : Option ν} (h : cell.isSome) : ∃ v, cell = some v ∧ deref cell = .ok v := by
  obtain ⟨v, rfl⟩ := Option.isSome_iff_exists.1 h
  exact ⟨v, rfl, rfl⟩

theorem verifyStorage_no_fault {h : Heap} {c s : Addr} (hc : (h.controller c).isSome) (hs : (h.storage s).isSome) :
    verifyStorage h c s ≠ .error .fault := by
  obtain ⟨controller, _, hc⟩ := deref_of_isSome hc
  obtain ⟨storage, _, hs⟩ := deref_of_isSome hs
  unfold verifyStorage
  rw [hc, hs]
  simp only [bind, Except.bind]
  split_ifs <;> simp

theorem bind_fault {β γ : Type} {x : Except Stop β} {f : β → Except Stop γ} (hx : x ≠ .error .fault)
    (hf : ∀ b, x = .ok b → f b ≠ .error .fault) : (x >>= f) ≠ .error .fault := by
  cases x with
  | error e =>
    intro h
    cases h
    exact hx rfl
  | ok b => exact hf b rfl

theorem deref_no_fault {ν : Type} {cell : Option ν} (h : cell.isSome) : deref cell ≠ .error .fault := by
  obtain ⟨v, rfl⟩ := Option.isSome_iff_exists.1 h
  intro h
  cases h

/-- A walk from an allocated node, along links to allocated nodes, does not fault. -/
theorem walk_no_fault {I : Addr → Prop} {max : Nat} {visit : Addr → Except Stop (Option Addr)}
    (hlink : ∀ a q, I a → visit a = .ok q → ∀ b ∈ q, I b) (hvisit : ∀ a, I a → visit a ≠ .error .fault)
    {p : Option Addr} (hp : ∀ a ∈ p, I a) : walk max Stop.malformed visit p 0 none ≠ .error .fault := by
  intro h
  rcases walk_error hlink hp h with h | ⟨a, ha, h⟩
  · cases h
  · exact hvisit a ha h

theorem verifyController_no_fault {h : Heap} (hclosed : h.Closed) {c : Addr} (hc : (h.controller c).isSome) :
    verifyController h c ≠ .error .fault := by
  unfold verifyController
  refine bind_fault (deref_no_fault hc) fun controller hctl => ?_
  rw [deref_ok] at hctl
  split_ifs
  · simp
  · refine bind_fault ?_ fun x _ => ?_
    · refine walk_no_fault (I := fun s => (h.storage s).isSome) (fun s q _ hok => ?_) (fun s hs => ?_)
        (hclosed.first c controller hctl)
      · obtain ⟨_, hnext⟩ := visitStorage_ok.1 hok
        obtain ⟨storage, hst, rfl⟩ := Option.map_eq_some_iff.1 hnext
        exact hclosed.storage s storage hst
      · exact bind_fault (verifyStorage_no_fault hc hs) fun _ _ => bind_fault (deref_no_fault hs) fun _ _ h => nomatch h
    · dsimp only
      split_ifs <;> simp

theorem verifyDevice_no_fault {h : Heap} (hclosed : h.Closed) {d : Addr} (hd : (h.device d).isSome) :
    verifyDevice h d ≠ .error .fault := by
  unfold verifyDevice
  refine bind_fault (deref_no_fault hd) fun device hdev => ?_
  rw [deref_ok] at hdev
  cases hc : device.controller with
  | none => exact fun h => nomatch h
  | some c =>
    have hctl := hclosed.controller d device hdev c hc
    refine bind_fault (verifyController_no_fault hclosed hctl) fun _ _ => bind_fault (deref_no_fault hctl) fun _ _ => ?_
    split_ifs <;> simp

theorem verifyDib_no_fault {h : Heap} (hclosed : h.Closed) {dib : Option Addr}
    (hdib : ∀ d ∈ dib, (h.device d).isSome) : verifyDib h dib = some 0 ∨ verifyDib h dib = some (-1) := by
  have hwalk : walk maxNandDevices Stop.malformed (visitDevice h) dib 0 none ≠ .error .fault := by
    refine walk_no_fault (I := fun d => (h.device d).isSome) (fun d q _ hok => ?_) (fun d hd => ?_) hdib
    · obtain ⟨_, hnext⟩ := visitDevice_ok.1 hok
      obtain ⟨device, hdev, rfl⟩ := Option.map_eq_some_iff.1 hnext
      exact hclosed.device d device hdev
    · exact bind_fault (verifyDevice_no_fault hclosed hd) fun _ _ =>
        bind_fault (deref_no_fault hd) fun _ _ h => nomatch h
  unfold verifyDib
  split
  · exact .inl rfl
  · exact .inr rfl
  · rename_i hx; exact absurd hx hwalk

/-! ## Chips have one controller -/

/-- The last chip of a list points back to its controller, so two controllers share no chip. -/
theorem ControllerOk.disjoint {h : Heap} {c₁ c₂ : Addr} {chips₁ chips₂ : List Addr}
    (h₁ : ControllerOk h c₁ chips₁) (h₂ : ControllerOk h c₂ chips₂) (hne : c₁ ≠ c₂) :
    chips₁.Disjoint chips₂ := by
  intro s hs₁ hs₂
  obtain ⟨_, _, hl₁, _⟩ := h₁.node
  obtain ⟨_, _, hl₂, _⟩ := h₂.node
  -- lists that share a chip share their last one, which has one controller field
  have hlast := hl₁.getLast?_eq hl₂ hs₁ hs₂
  have back : ∀ {c chips}, ControllerOk h c chips → ∀ a, chips.getLast? = some a →
      ∃ storage, h.storage a = some storage ∧ storage.controller = some c := by
    intro c chips hok a ha
    have hn := hok.count.1
    obtain ⟨storage, hst, _, hctl⟩ := hok.chip (chips.length - 1) (by omega)
    rw [List.getLast?_eq_getElem?, List.getElem?_eq_getElem (by omega), Option.some.injEq] at ha
    rw [if_pos (.inr (by omega))] at hctl
    exact ⟨storage, ha ▸ hst, hctl⟩
  obtain ⟨a, ha⟩ : ∃ a, chips₁.getLast? = some a :=
    ⟨_, List.getLast?_eq_some_getLast (List.ne_nil_of_mem hs₁)⟩
  obtain ⟨st₁, hst₁, hc₁⟩ := back h₁ a ha
  obtain ⟨st₂, hst₂, hc₂⟩ := back h₂ a (hlast ▸ ha)
  rw [hst₁] at hst₂
  cases hst₂
  rw [hc₁] at hc₂
  exact hne (Option.some.inj hc₂)

/-- The chips of a device are those its links lead to. -/
theorem DeviceOk.chips_eq {h : Heap} {d c c' : Addr} {chips chips' : List Addr} {device : NandDevice}
    {controller : NandControllerChip} (hok : DeviceOk h d c chips) (hd : h.device d = some device)
    (hc : device.controller = some c') (hctl : h.controller c' = some controller)
    (hl : Linked h.nextStorage controller.firstStorage chips') : c = c' ∧ chips = chips' := by
  obtain ⟨⟨_, ⟨controller', hctl', hl', _⟩, _⟩, device', hd', hc', _⟩ := hok
  rw [hd] at hd'
  cases hd'
  rw [hc] at hc'
  cases hc'
  rw [hctl] at hctl'
  cases hctl'
  exact ⟨rfl, hl'.unique hl⟩

/-- `verify_dib()` ends on every graph of allocated nodes, cyclic or shared, and accepts exactly the
well-formed ones; two controllers of an accepted DIB share no chip. -/
theorem verifyDib_decides_wellFormed (h : Heap) (hclosed : h.Closed) (dib : Option Addr)
    (hdib : ∀ d ∈ dib, (h.device d).isSome) :
    (verifyDib h dib = some 0 ∨ verifyDib h dib = some (-1)) ∧
      (verifyDib h dib = some 0 ↔ WellFormed h dib) ∧
      (verifyDib h dib = some 0 → ∀ devices, Linked h.nextDevice dib devices →
        ∀ d₁ ∈ devices, ∀ d₂ ∈ devices, ∀ device₁ device₂, h.device d₁ = some device₁ →
        h.device d₂ = some device₂ → ∀ c₁ c₂, device₁.controller = some c₁ → device₂.controller = some c₂ →
        c₁ ≠ c₂ → ∀ controller₁ controller₂, h.controller c₁ = some controller₁ →
        h.controller c₂ = some controller₂ → ∀ chips₁ chips₂,
        Linked h.nextStorage controller₁.firstStorage chips₁ →
        Linked h.nextStorage controller₂.firstStorage chips₂ → chips₁.Disjoint chips₂) := by
  refine ⟨verifyDib_no_fault hclosed hdib, verifyDib_zero, ?_⟩
  intro hok devices hl
  obtain ⟨devices', hl', _, hdevices⟩ := verifyDib_zero.1 hok
  cases hl.unique hl'
  intro d₁ hd₁ d₂ hd₂ device₁ device₂ hdev₁ hdev₂ c₁ c₂ hc₁ hc₂ hne controller₁ controller₂ hctl₁ hctl₂
    chips₁ chips₂ hchips₁ hchips₂
  obtain ⟨_, _, hok₁⟩ := hdevices d₁ hd₁
  obtain ⟨_, _, hok₂⟩ := hdevices d₂ hd₂
  obtain ⟨rfl, rfl⟩ := hok₁.chips_eq hdev₁ hc₁ hctl₁ hchips₁
  obtain ⟨rfl, rfl⟩ := hok₂.chips_eq hdev₂ hc₂ hctl₂ hchips₂
  exact hok₁.1.disjoint hok₂.1 hne

/-! ## A row of devices -/

/-- `n` devices in a row, each with a controller and one chip of its own at the same address. -/
def rowHeap (n : Nat) : Heap where
  storage a := if a < n then some { nextStorage := none, controller := some a, refCount := 1 } else none
  controller a :=
    if a < n then some { nstorage := 1, firstStorage := some a, lastStorage := some a, refCount := 1 } else none
  device a :=
    if a < n then
      some { controller := some a, nextDevice := if a + 1 < n then some (a + 1) else none, refCount := 2 }
    else none

/-- The first device of a row that has one. -/
def rowDib (n : Nat) : Option Addr := if 0 < n then some 0 else none

theorem rowHeap_closed (n : Nat) : (rowHeap n).Closed := by
  constructor <;> intro a v hv b hb <;> simp only [rowHeap] at hv ⊢ <;> grind

theorem rowHeap_linked (n : Nat) : ∀ k, k ≤ n →
    Linked (rowHeap n).nextDevice (if n - k < n then some (n - k) else none) (List.range' (n - k) k)
  | 0, _ => by
    rw [if_neg (by omega)]
    exact .nil
  | k + 1, hk => by
    rw [if_pos (by omega), List.range'_succ]
    have e : n - (k + 1) + 1 = n - k := by omega
    rw [e]
    refine .cons ?_ (rowHeap_linked n k (by omega))
    have ha : n - (k + 1) < n := by omega
    simp [Heap.nextDevice, rowHeap, ha, e]

theorem rowHeap_deviceOk {n a : Nat} (ha : a < n) : DeviceOk (rowHeap n) a a [a] := by
  refine ⟨⟨⟨le_refl 1, by simp⟩, ⟨_, if_pos ha, .cons ?_ .nil, rfl, rfl, rfl⟩, fun i hi => ?_⟩, _, if_pos ha, rfl, rfl⟩
  · simp [Heap.nextStorage, rowHeap, ha]
  · obtain rfl : i = 0 := by simpa using hi
    exact ⟨_, if_pos ha, rfl, rfl⟩

theorem rowHeap_devices (n : Nat) : Linked (rowHeap n).nextDevice (rowDib n) (List.range n) := by
  have h := rowHeap_linked n n (le_refl n)
  rw [Nat.sub_self] at h
  rw [List.range_eq_range']
  exact h

/-- Rows of at most 64 devices are well-formed. -/
theorem rowHeap_wellFormed {n : Nat} (hn : n ≤ maxNandDevices) : WellFormed (rowHeap n) (rowDib n) := by
  refine ⟨_, rowHeap_devices n, ?_, fun d hd => ⟨d, [d], rowHeap_deviceOk (List.mem_range.1 hd)⟩⟩
  rwa [List.length_range]

theorem verifyDib_decides_rowHeap : verifyDib (rowHeap 2) (rowDib 2) = some 0 :=
  (verifyDib_decides_wellFormed (rowHeap 2) (rowHeap_closed 2) (rowDib 2) (by simp [rowDib, rowHeap])).2.1.2
    (rowHeap_wellFormed (by decide))

end NandRig.Framework
