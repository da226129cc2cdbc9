/-
The read loops of alpha_0, alpha_4 and alpha_5 on a device that provides data: each load takes the next byte
of the device's cache and moves its cursor on.
-/
import NandRig.Device.Ioregs
import NandRig.Driver.FlawedAlpha
import NandRig.Stack.System

namespace NandRig.Stack

open Emulator Framework Driver Interact

/-! ## A device that provides data -/

/-- The device is in `MS_READ_PROVIDING_DATA` and is ready, at this and at all later readings of the clock;
the command byte holds `C_DUMMY`. -/
structure Providing (s : Sys) : Prop where
  state : s.device.machineState = .readProvidingData
  ready : ∀ i, beforeDeadline s.device.deadline (s.clock i) = false
  command : commandOf s.ioregisters.toUInt32 = cDummy

/-- On a clock that does not go back, the device stays ready. -/
theorem Providing.of_ready {s : Sys} (hstate : s.device.machineState = .readProvidingData)
    (hmono : Monotone fun i => (s.clock i).toNat) (hready : beforeDeadline s.device.deadline (s.clock 0) = false)
    (hcommand : commandOf s.ioregisters.toUInt32 = cDummy) : Providing s where
  state := hstate
  ready i := by
    rw [beforeDeadline_eq_false] at hready ⊢
    exact hready.trans (hmono (Nat.zero_le i))
  command := hcommand

/-- What the emulator does at a load of the data byte. -/
def loadReply (s : Sys) : Reply where
  device := { s.device with store := incrementCursor false s.device.store }
  poke := some (dataWord s.device.store.cacheByte).toUInt64
  cpu := some (dataWord s.device.store.cacheByte)

/-- The state behind the load. -/
def load (s : Sys) : Sys :=
  ⟨(loadReply s).device, (dataWord s.device.store.cacheByte).toUInt64, s.clock.after 2⟩

/-- The access that the load makes. -/
def loadEvent (s : Sys) : Trace :=
  .access .load s.device s.ioregisters (s.clock 0) (s.clock 1) (.ok (loadReply s))

/-- The accesses of `n` loads, one after the other. -/
def loadEvents (n : Nat) (s : Sys) : List Trace := (List.range n).map fun i => loadEvent (load^[i] s)

/-- The `i`-th byte that the device provides. -/
def byteAt (s : Sys) (i : Nat) : UInt8 := (load^[i] s).device.store.cacheByte

/-- The buffer with the first `n` of these bytes from `pos` on. -/
def received (n : Nat) (s : Sys) (buffer : Buffer) (pos : Nat) : Buffer := fun a =>
  if pos ≤ a ∧ a < pos + n then byteAt s (a - pos) else buffer a

/-- The run that makes `n` loads and no other access, and stores the bytes from `pos` on. -/
def reads (n : Nat) (s : Sys) (buffer : Buffer) (pos : Nat) : List Trace × Option (Buffer × Sys) :=
  (loadEvents n s, some (received n s buffer pos, load^[n] s))

/-! ## Loads -/

section Loads

variable {waiting : Waiting} {s : Sys}

theorem Providing.next (h : Providing s) : Providing (load s) where
  state := h.state
  ready i := h.ready (2 + i)
  command := commandOf_dataWord _

theorem run_load (h : Providing s) :
    run (env waiting) (ask .load) s = ([loadEvent s], some (s.device.store.cacheByte, load s)) := by
  have hanswers : Answers s.device s.ioregisters (s.clock 0) := ⟨h.state, h.ready 0, h.command⟩
  have htrap : trap .load s.ioregisters s = ([loadEvent s], some (loadReply s, load s)) := by
    unfold trap
    rw [hanswers.handled]
    rfl
  refine (run_call _ _).trans ?_
  rw [env_load, htrap, Option.map_some, loadReply, Option.getD_some, dataWord_toUInt8]

theorem loadEvents_succ (n : Nat) (s : Sys) : loadEvents (n + 1) s = loadEvent s :: loadEvents n (load s) := by
  unfold loadEvents
  rw [List.range_succ_eq_map, List.map_cons, List.map_map]
  rfl

theorem loadEvents_add (n : Nat) : ∀ (m : Nat) (s : Sys),
    loadEvents (m + n) s = loadEvents m s ++ loadEvents n (load^[m] s)
  | 0, s => by
    rw [Nat.zero_add]
    rfl
  | m + 1, s => by
    have hmn : m + 1 + n = m + n + 1 := by omega
    rw [hmn, loadEvents_succ, loadEvents_add n m, loadEvents_succ, Function.iterate_succ_apply, List.cons_append]

/-- The first byte, and the others behind it. -/
theorem received_succ (n : Nat) (s : Sys) (buffer : Buffer) (pos : Nat) :
    received n (load s) (Function.update buffer pos s.device.store.cacheByte) (pos + 1) =
      received (n + 1) s buffer pos := by
  funext a
  unfold received
  rcases Nat.lt_trichotomy a pos with ha | rfl | ha
  · rw [if_neg (by omega), if_neg (by omega), Function.update_of_ne ha.ne]
  · rw [if_neg (by omega), if_pos (by omega), Function.update_self, Nat.sub_self]
    rfl
  · obtain ⟨k, rfl⟩ := Nat.exists_eq_add_of_lt ha
    have hk : pos + k + 1 - pos = k + 1 := by omega
    have hk' : pos + k + 1 - (pos + 1) = k := by omega
    rw [Function.update_of_ne (by omega), hk, hk']
    exact if_congr (by omega) rfl rfl

/-- Loads of a number of bytes, on any device that provides data. -/
theorem run_readBytes : ∀ (n : Nat) {s : Sys} (buffer : Buffer) (pos : Nat), Providing s →
    run (env waiting) (readBytes n buffer pos) s = reads n s buffer pos
  | 0, s, buffer, pos, _ => by
    have hbuffer : received 0 s buffer pos = buffer := by
      funext a
      exact if_neg (by omega)
    unfold reads
    rw [hbuffer]
    rfl
  | n + 1, s, buffer, pos, h => by
    rw [readBytes, run_bind_of (run_load h), run_readBytes n _ _ h.next]
    unfold reads
    rw [loadEvents_succ, received_succ]
    rfl

end Loads

/-! ## The bytes provided -/

section Bytes

variable {s : Sys}

theorem Providing.iterate (h : Providing s) : ∀ n : Nat, Providing (load^[n] s)
  | 0 => h
  | n + 1 => by
    rw [Function.iterate_succ_apply']
    exact (h.iterate n).next

/-- Loads leave the storage and the cache as they are, so also the bytes that have not been read. -/
theorem iterate_load_store (s : Sys) : ∀ n : Nat,
    (load^[n] s).device.store.dataStore = s.device.store.dataStore ∧
      (load^[n] s).device.store.cache = s.device.store.cache
  | 0 => ⟨rfl, rfl⟩
  | n + 1 => by
    rw [Function.iterate_succ_apply']
    obtain ⟨hdata, hcache⟩ := iterate_load_store s n
    exact ⟨(incrementCursor_dataStore _ _).trans hdata, (incrementCursor_cache _ _).trans hcache⟩

theorem iterate_load_cursor (hs : InStorage s.device.store) : ∀ n : Nat,
    (load^[n] s).device.store.cursor.toNat = (s.device.store.cursor.toNat + n) % 16777216
  | 0 => (Nat.mod_eq_of_lt hs).symm
  | n + 1 => by
    have hcursor := iterate_load_cursor hs n
    have hin : InStorage (load^[n] s).device.store := by
      unfold InStorage
      rw [hcursor]
      exact Nat.mod_lt _ (by decide)
    rw [Function.iterate_succ_apply']
    refine (incrementCursor_free hin).trans ?_
    rw [hcursor]
    omega

/-- The bytes are those of the cache from the cursor on, and around its end. -/
theorem byteAt_eq (hs : InStorage s.device.store) (i : Nat) :
    byteAt s i = s.device.store.cache ((s.device.store.cursor.toNat + i) % 256) := by
  unfold byteAt Store.cacheByte
  rw [(iterate_load_store s i).2, iterate_load_cursor hs]
  congr 1
  omega

end Bytes

/-! ## The inner loop, wherever it stores -/

section Rounds

variable {waiting : Waiting} {s : Sys}

theorem run_readEightFrom (pos : Nat) (base : UInt32) : ∀ (j : Nat) {s : Sys} (buffer : Buffer), Providing s →
    ∃ buffer', run (env waiting) (readEightFrom j buffer pos base) s =
      (loadEvents (8 - j) s, some (buffer', load^[8 - j] s))
  | j, s, buffer, h => by
    rw [readEightFrom]
    split_ifs with hj
    · have hn : 8 - j = 8 - (j + 1) + 1 := by omega
      obtain ⟨buffer', hrest⟩ := run_readEightFrom pos base (j + 1)
        (storeAt buffer (pos + signed base + j) s.device.store.cacheByte) h.next
      refine ⟨buffer', ?_⟩
      rw [run_bind_of (run_load h), hrest, hn, loadEvents_succ]
      rfl
    · have hn : 8 - j = 0 := by omega
      rw [hn]
      exact ⟨buffer, rfl⟩
termination_by j => 8 - j

/-- The counter is a multiple of eight and stays one when it wraps. -/
theorem add_eight_mod {i : UInt32} (hi : i.toNat % 8 = 0) : (i + 8).toNat % 8 = 0 := by
  have h8 : (8 : UInt32).toNat = 8 := rfl
  rw [UInt32.toNat_add, h8]
  omega

/-- Where eight does not divide the length, each round of alpha_5 reads eight bytes and goes on. -/
theorem run_alpha5_rounds {length : UInt32} (hdvd : ¬ 8 ∣ length.toNat) (pos : Nat) :
    ∀ (n : Nat) {s : Sys} (i : UInt32) (buffer : Buffer), Providing s → i.toNat % 8 = 0 →
      ∃ i' buffer', i' ≠ length ∧ run (env waiting) (rounds (Alpha5.nandReadRound pos length) n (i, buffer)) s =
        (loadEvents (8 * n) s, some (.inl (i', buffer'), load^[8 * n] s))
  | 0, s, i, buffer, _, hi => by
    refine ⟨i, buffer, ?_, rfl⟩
    rintro rfl
    exact hdvd (Nat.dvd_of_mod_eq_zero hi)
  | n + 1, s, i, buffer, h, hi => by
    have hne : i ≠ length := by
      rintro rfl
      exact hdvd (Nat.dvd_of_mod_eq_zero hi)
    have hn : 8 * (n + 1) = 8 + 8 * n := by omega
    obtain ⟨buffer₁, height⟩ := run_readEightFrom pos i 0 buffer h
    have hround : run (env waiting) (Alpha5.nandReadRound pos length (i, buffer)) s =
        (loadEvents 8 s, some (.inl (i + 8, buffer₁), load^[8] s)) := by
      rw [Alpha5.nandReadRound, if_pos hne]
      refine (run_bind_of height).trans ?_
      rw [run_pure, List.append_nil]
    obtain ⟨i', buffer', hguard, hrest⟩ :=
      run_alpha5_rounds hdvd pos n (i + 8) buffer₁ (h.iterate 8) (add_eight_mod hi)
    refine ⟨i', buffer', hguard, ?_⟩
    rw [run_rounds_goes hround, hrest, hn, loadEvents_add, Nat.add_comm 8, Function.iterate_add_apply]

end Rounds

/-! ## The three loops -/

/-- On a device that provides data, alpha_0 makes as many loads as it is to and stores their bytes. So do
alpha_4 and alpha_5 where eight divides the length. Elsewhere alpha_4 leaves out the bytes behind the last
multiple of eight, and alpha_5, whatever the number of rounds, goes on. -/
theorem read_loops (waiting : Waiting) (s : Sys) (hs : Providing s) (buffer : Buffer) (pos : Nat) (length : UInt32)
    (hlen : length.toNat < 2 ^ 31) :
    run (env waiting) (Alpha0.nandRead buffer pos length) s = reads length.toNat s buffer pos ∧
    (8 ∣ length.toNat →
      run (env waiting) (Alpha4.nandRead buffer pos length) s =
        run (env waiting) (Alpha0.nandRead buffer pos length) s ∧
      ∃ n, run (env waiting) (Alpha5.nandRead n buffer pos length) s =
        ((run (env waiting) (Alpha0.nandRead buffer pos length) s).1,
          (run (env waiting) (Alpha0.nandRead buffer pos length) s).2.map fun x => (.inr x.1, x.2))) ∧
    (¬ 8 ∣ length.toNat →
      run (env waiting) (Alpha4.nandRead buffer pos length) s = reads (8 * (length.toNat / 8)) s buffer pos ∧
      ∀ n, ∃ i buffer', i ≠ length ∧ run (env waiting) (Alpha5.nandRead n buffer pos length) s =
        (loadEvents (8 * n) s, some (.inl (i, buffer'), load^[8 * n] s))) := by
  have hread : run (env waiting) (readBytes length.toNat buffer pos) s = reads length.toNat s buffer pos :=
    run_readBytes length.toNat buffer pos hs
  refine ⟨?_, fun hdvd => ⟨?_, length.toNat / 8 + 1, ?_⟩, fun hdvd => ⟨?_, fun n => ?_⟩⟩
  · rw [alpha0_nandRead_eq, hread]
  · rw [alpha4_nandRead_eq buffer pos hlen, Nat.mul_div_cancel' hdvd, alpha0_nandRead_eq]
  · rw [alpha5_nandRead_eq buffer pos hlen hdvd, alpha0_nandRead_eq]
    refine (run_bind_of hread).trans ?_
    rw [hread, run_pure, List.append_nil]
    rfl
  · rw [alpha4_nandRead_eq buffer pos hlen]
    exact run_readBytes _ buffer pos hs
  · exact run_alpha5_rounds hdvd pos n 0 buffer hs rfl

/-- A page of ones is provided. -/
def onesProvided : Sys := ⟨onesDevice, dummyWord, fun _ => 0⟩

/-- Of 35 bytes alpha_4 reads 32, and alpha_5 goes on. -/
theorem read_loops_of_35 :
    run (env fun _ _ _ => none) (Alpha0.nandRead (fun _ => 0) 0 35) onesProvided =
        reads 35 onesProvided (fun _ => 0) 0 ∧
      run (env fun _ _ _ => none) (Alpha4.nandRead (fun _ => 0) 0 35) onesProvided =
        reads 32 onesProvided (fun _ => 0) 0 := by
  have hproviding : Providing onesProvided := .of_ready rfl monotone_const rfl commandOf_dummyWord
  have h := read_loops (fun _ _ _ => none) onesProvided hproviding (fun _ => 0) 0 35 (by decide)
  exact ⟨h.1, (h.2.2 (by decide)).1⟩

end NandRig.Stack
