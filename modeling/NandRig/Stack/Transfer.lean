/-
The three operations, access by access: the jump-table functions over alpha_0 on an idle, ready
device. The byte-truncated addresses, the widened block counts and the page splitting of the
framework meet the cursor and the cache of the device here.
-/
import NandRig.Stack.Progress

namespace NandRig.Stack

open Emulator Framework Driver Interact RingMem

/-! ## Opening an operation -/

/-- The device accepts every SETUP command, and its cache is blank when it does. -/
def Idle (d : Device) : Prop :=
  (d.machineState = .initialState ∧ d.store.cache = fun _ => 0) ∨ ∃ k : Kind, d.machineState = k.session

/-- The state behind the addresses of an operation. -/
def addressed : Kind → MachineState
  | .read => .readAwaitingExecute
  | .program => .programAcceptingData
  | .erase => .eraseAwaitingExecute

theorem isExecute_setup (k : Kind) : isExecute (.store ioregCommand k.setup.toUInt8) = false := by
  cases k <;> rfl

theorem isExecute_execute (k : Kind) : isExecute (.store ioregCommand k.execute.toUInt8) = true := by
  cases k <;> rfl

theorem setup_toUInt8_toUInt32 (k : Kind) : k.setup.toUInt8.toUInt32 = k.setup := by
  cases k <;> rfl

theorem execute_toUInt8_toUInt32 (k : Kind) : k.execute.toUInt8.toUInt32 = k.execute := by
  cases k <;> rfl

/-- An idle device moves to the block address of the operation, over the same storage. -/
theorem Idle.setup {d : Device} (h : Idle d) (k : Kind) {peeked : UInt32} (hc : commandOf peeked = k.setup)
    (settime : TimeUs) :
    ∃ r, Move d peeked settime r ∧ r.device.machineState = k.awaitingBlock ∧ r.poke = none ∧
      r.device.store.dataStore = d.store.dataStore ∧ r.device.store.cache = fun _ => 0 := by
  rcases h with ⟨hm, hcache⟩ | ⟨j, hm⟩
  · exact ⟨_, .opened k hm hc, rfl, rfl, rfl, hcache⟩
  · exact ⟨_, .switched j k hm hc, rfl, rfl, rfl, rfl⟩

section

variable {waiting : Waiting} {d₀ : Device} {stored : Nat → Nat → UInt8} {total : Nat} {l : List Trace} {s : Sys}
  {n : Nat}

/-- The state, the cache and the command byte while an operation takes its addresses. -/
structure Opening (m : MachineState) (command : UInt32) (s : Sys) : Prop where
  state : s.device.machineState = m
  cache : s.device.store.cache = fun _ => 0
  command : commandOf s.ioregisters.toUInt32 = command

theorem At.setup (h : At d₀ stored total l s.device n) (hidle : Idle s.device) (k : Kind) :
    Meets (env waiting) Trace.Ready (Progress d₀ stored total) (ask (.store ioregCommand k.setup.toUInt8)) l s
      fun l' _ s' => At d₀ stored total l' s'.device n ∧ Opening k.awaitingBlock k.setup s' := by
  have hc : commandOf (setByte s.ioregisters ioregCommand k.setup.toUInt8).toUInt32 = k.setup := by
    rw [commandOf_setByte_command, setup_toUInt8_toUInt32]
  obtain ⟨r, hmove, hm, hpoke, hstore, hcache⟩ := hidle.setup k hc (s.clock 1)
  have hadv : Advances stored total (.store ioregCommand k.setup.toUInt8)
      (setByte s.ioregisters ioregCommand k.setup.toUInt8) s n r := by
    refine ⟨hmove, ?_, ?_⟩ <;> rw [isExecute_setup]
    · exact hstore.trans h.storage
    · exact h.bound
  refine (h.store hadv).mono fun l' _ s' ⟨hat, hdev, hw⟩ => ?_
  rw [isExecute_setup] at hat
  rw [hpoke, Option.getD_none] at hw
  exact ⟨hat, by rw [hdev, hm], by rw [hdev, hcache], by rw [hw, hc]⟩

/-- One address byte: it replaces its byte of the cursor. -/
theorem At.address (h : At d₀ stored total l s.device n) {k : Kind} {m next : MachineState} {shift : UInt32}
    (ho : Opening m k.setup s) (hm : addressStep m = some (k, shift, next)) (value : UInt8) :
    Meets (env waiting) Trace.Ready (Progress d₀ stored total) (ask (.store ioregAddress value)) l s
      fun l' _ s' => At d₀ stored total l' s'.device n ∧
        Opening next (if next = .programAcceptingData then cDummy else k.setup) s' ∧
        s'.device.store.cursor = (setCursorByte value.toUInt32 shift s.device.store).cursor := by
  have hc : commandOf (setByte s.ioregisters ioregAddress value).toUInt32 = k.setup := by
    rw [commandOf_setByte_address, ho.command]
  have hadv : Advances stored total (.store ioregAddress value) (setByte s.ioregisters ioregAddress value) s n _ :=
    ⟨.address k shift next (ho.state ▸ hm) hc, h.storage, h.bound⟩
  refine (h.store hadv).mono fun l' _ s' ⟨hat, hdev, hw⟩ => ⟨hat, ⟨?_, ?_, ?_⟩, ?_⟩
  · rw [hdev]
  · rw [hdev]
    exact ho.cache
  · rw [hw]
    split_ifs with hn
    · exact commandOf_dummyWord
    · exact hc
  · rw [hdev, addressOf_setByte_address]

/-- SETUP and the three address bytes of a read or a write: the cursor is the device address. -/
theorem At.addresses (h : At d₀ stored total l s.device n) (hidle : Idle s.device) {k : Kind} (hk : k ≠ .erase)
    (block page byte : UInt8) {α : Type} {p : DriverM α} {Q : List Trace → α → Sys → Prop}
    (hp : ∀ l' s', At d₀ stored total l' s'.device n →
      Opening (addressed k) (if k = .program then cDummy else k.setup) s' →
      s'.device.store.cursor.toNat = block.toNat * 65536 + page.toNat * 256 + byte.toNat →
      Meets (env waiting) Trace.Ready (Progress d₀ stored total) p l' s' Q) :
    Meets (env waiting) Trace.Ready (Progress d₀ stored total)
      (ask (.store ioregCommand k.setup.toUInt8) >>= fun _ => ask (.store ioregAddress block) >>= fun _ =>
        ask (.store ioregAddress page) >>= fun _ => ask (.store ioregAddress byte) >>= fun _ => p) l s Q := by
  -- the address states of the two operations go the same way
  obtain ⟨m₁, m₂, h₁, h₂, h₃, hn₁, hn₂, hn₃⟩ : ∃ m₁ m₂, addressStep k.awaitingBlock = some (k, cursorBlockShift, m₁) ∧
      addressStep m₁ = some (k, cursorPageShift, m₂) ∧ addressStep m₂ = some (k, cursorByteShift, addressed k) ∧
      m₁ ≠ .programAcceptingData ∧ m₂ ≠ .programAcceptingData ∧
      (addressed k = .programAcceptingData ↔ k = .program) := by
    cases k with
    | read => exact ⟨_, _, rfl, rfl, rfl, by simp, by simp, by simp [addressed]⟩
    | program => exact ⟨_, _, rfl, rfl, rfl, by simp, by simp, by simp [addressed]⟩
    | erase => exact absurd rfl hk
  refine (h.setup hidle k).bind fun l₁ _ s₁ ⟨hat₁, ho₁⟩ => ?_
  refine (hat₁.address ho₁ h₁ block).bind fun l₂ _ s₂ ⟨hat₂, ho₂, hc₂⟩ => ?_
  rw [if_neg hn₁] at ho₂
  refine (hat₂.address ho₂ h₂ page).bind fun l₃ _ s₃ ⟨hat₃, ho₃, hc₃⟩ => ?_
  rw [if_neg hn₂] at ho₃
  refine (hat₃.address ho₃ h₃ byte).bind fun l₄ _ s₄ ⟨hat₄, ho₄, hc₄⟩ => ?_
  simp only [hn₃] at ho₄
  refine hp l₄ s₄ hat₄ ho₄ ?_
  have hb : block.toUInt32.toNat < 256 := block.toNat_lt
  have hp : page.toUInt32.toNat < 256 := page.toNat_lt
  have hy : byte.toUInt32.toNat < 256 := byte.toNat_lt
  have e₂ := setCursorByte_block hat₁.inStorage hb
  have e₃ := setCursorByte_page (s := s₂.device.store) hp
  have e₄ := setCursorByte_byte (s := s₃.device.store) hy
  rw [← hc₂, UInt8.toNat_toUInt32] at e₂
  rw [← hc₃, UInt8.toNat_toUInt32] at e₃
  rw [← hc₄, UInt8.toNat_toUInt32] at e₄
  rw [UInt8.toNat_toUInt32] at hb hp hy
  have d₂ : s₂.device.store.cursor.toNat / 65536 = block.toNat := by
    rw [e₂]; omega
  have d₃ : s₃.device.store.cursor.toNat / 256 = block.toNat * 256 + page.toNat := by
    rw [e₃, d₂]; omega
  rw [e₄, d₃]
  ring

end

/-! ## The pages of a transfer -/

/-- The number of pages a transfer touches. -/
def pageCount (offset size : UInt32) : Nat :=
  if size = 0 then 0 else (offset.toNat % 256 + size.toNat + 255) / 256

/-- Byte `i` of the `j`-th page a write stores: the data where the region reaches, zeros around it. -/
def pageImage (buffer : Buffer) (offset size : UInt32) (j i : Nat) : UInt8 :=
  if offset.toNat % 256 ≤ 256 * j + i ∧ 256 * j + i < offset.toNat % 256 + size.toNat then
    buffer (256 * j + i - offset.toNat % 256)
  else 0

theorem pageCount_eq {offset size : UInt32} (h : size.toNat ≠ 0) :
    pageCount offset size = (offset.toNat % 256 + size.toNat + 255) / 256 := by
  refine if_neg ?_
  rintro rfl
  exact h rfl

theorem pageAddr_toNat (offset : UInt32) : (offset / numPages).toUInt8.toNat = offset.toNat / 256 % 256 := by
  rw [UInt32.toNat_toUInt8, UInt32.toNat_div, numPages_toNat]

theorem blockAddr_toNat (offset : UInt32) : (offset / blockSize).toUInt8.toNat = offset.toNat / 65536 % 256 := by
  rw [UInt32.toNat_toUInt8, UInt32.toNat_div, blockSize_toNat]

/-- The loop variables of a transfer at the head of the loop, `n` pages in. -/
structure Position (offset size bytesLeft cursor : UInt32) (byteAddr : UInt8) (n : Nat) : Prop where
  left : cursor.toNat + bytesLeft.toNat = size.toNat
  page : bytesLeft ≠ 0 → offset.toNat % 256 + cursor.toNat = 256 * n + byteAddr.toNat
  done : bytesLeft = 0 → n = pageCount offset size
  aligned : byteAddr.toNat = 0 ∨ cursor.toNat = 0

theorem Position.start (offset size : UInt32) :
    Position offset size size 0 (offset % numBytes).toUInt8 0 := by
  have h0 := UInt32.toNat_zero
  refine ⟨by rw [h0, Nat.zero_add], fun _ => ?_, fun h => ?_, .inr h0⟩
  · rw [byteAddr_toNat, h0]
    omega
  · rw [pageCount, if_pos h]

/-- One page further: the rest of the page at hand, or the rest of the transfer. -/
theorem Position.next {offset size bytesLeft cursor : UInt32} {byteAddr : UInt8} {n : Nat}
    (h : Position offset size bytesLeft cursor byteAddr n) (hne : bytesLeft ≠ 0) :
    n + 1 ≤ pageCount offset size ∧
      Position offset size (bytesLeft - sizeInPage bytesLeft byteAddr) (cursor + sizeInPage bytesLeft byteAddr) 0
        (n + 1) := by
  have hpos := toNat_ne_zero hne
  have hsize := sizeInPage_toNat bytesLeft byteAddr
  have hrest := sub_sizeInPage_toNat bytesLeft byteAddr
  have hleft := h.left
  have hpage := h.page hne
  have hb : byteAddr.toNat < 256 := byteAddr.toNat_lt
  have hlt := size.toNat_lt
  have h0 := UInt8.toNat_zero
  have hcount : pageCount offset size = (offset.toNat % 256 + size.toNat + 255) / 256 :=
    pageCount_eq (by omega)
  have hcursor : (cursor + sizeInPage bytesLeft byteAddr).toNat =
      cursor.toNat + min bytesLeft.toNat (256 - byteAddr.toNat) := by
    rw [add_toNat (by omega), hsize]
  rw [hcount]
  refine ⟨by omega, ?_, fun hrest0 => ?_, fun hrest0 => ?_, .inl h0⟩
  · rw [hcursor, hrest]
    omega
  · have := toNat_ne_zero hrest0
    rw [hrest] at this
    rw [hcursor, h0]
    omega
  · have : (bytesLeft - sizeInPage bytesLeft byteAddr).toNat = 0 := by rw [hrest0]; rfl
    rw [hrest] at this
    rw [hcount]
    omega

section

variable {waiting : Waiting} {d₀ : Device} {stored : Nat → Nat → UInt8} {total : Nat} {l : List Trace} {s : Sys}
  {n : Nat}

/-- What a call leaves: the device in state `m`, and unless it failed all `total` EXECUTEs made. -/
def Ends (d₀ : Device) (stored : Nat → Nat → UInt8) (total : Nat) (m : MachineState) (l : List Trace) (value : Int)
    (s : Sys) : Prop :=
  ∃ n, At d₀ stored total l s.device n ∧ s.device.machineState = m ∧ (value = 0 → n = total)

theorem Ends.progress {m : MachineState} {value : Int} (h : Ends d₀ stored total m l value s) :
    Progress d₀ stored total l := by
  obtain ⟨n, hat, _⟩ := h
  exact hat.progress

/-- An EXECUTE and the wait behind it, whatever that returns: the dummy command is left behind. -/
theorem At.execute (h : At d₀ stored total l s.device n) (k : Kind) {r : Reply}
    (hmove : ∀ peeked, commandOf peeked = k.execute → Move s.device peeked (s.clock 1) r)
    (hstored : r.device.store.dataStore = stored (n + 1)) (hbound : n + 1 ≤ total)
    (hpoke : r.poke = some dummyWord) (us : UInt32) {α : Type} {f : Int → DriverM α}
    {Q : List Trace → α → Sys → Prop}
    (hf : ∀ l' value s', At d₀ stored total l' s'.device (n + 1) → s'.device = r.device →
      commandOf s'.ioregisters.toUInt32 = cDummy →
      Meets (env waiting) Trace.Ready (Progress d₀ stored total) (f value) l' s' Q) :
    Meets (env waiting) Trace.Ready (Progress d₀ stored total)
      (ask (.store ioregCommand k.execute.toUInt8) >>= fun _ => ask (.wait us) >>= f) l s Q := by
  have hadv : Advances stored total (.store ioregCommand k.execute.toUInt8)
      (setByte s.ioregisters ioregCommand k.execute.toUInt8) s n r := by
    refine ⟨hmove _ ?_, ?_, ?_⟩
    · rw [commandOf_setByte_command, execute_toUInt8_toUInt32]
    · rw [isExecute_execute]
      exact hstored
    · rw [isExecute_execute]
      exact hbound
  refine (h.store hadv).bind fun l₁ _ s₁ ⟨hat₁, hdev₁, hw₁⟩ => ?_
  rw [isExecute_execute] at hat₁
  refine (hat₁.wait us).bind fun l₂ value s₂ ⟨hat₂, hdev₂, hw₂⟩ => ?_
  refine hf l₂ value s₂ hat₂ (hdev₂.trans hdev₁) ?_
  rw [hw₂, hw₁, hpoke]
  exact commandOf_dummyWord

/-! ## Writing -/

/-- The data bytes of a page fill the cache from the cursor on, around the end of the page. -/
theorem At.nandProgram (h : At d₀ stored total l s.device n) (hm : s.device.machineState = .programAcceptingData)
    (hc : commandOf s.ioregisters.toUInt32 = cDummy) (buffer : Buffer) (pos : Nat) (length : UInt32) :
    Meets (env waiting) Trace.Ready (Progress d₀ stored total) (Alpha0.nandProgram buffer pos length) l s
      fun l' _ s' => At d₀ stored total l' s'.device n ∧ s'.device.machineState = .programAcceptingData ∧
        s'.device.store.cursor.toNat / 256 = s.device.store.cursor.toNat / 256 ∧
        s'.device.store.cache = writeRange 256 (fun k => buffer (pos + k)) (s.device.store.cursor.toNat % 256)
          length.toNat s.device.store.cache := by
  induction pos, length using Alpha0.nandProgram.induct generalizing l s with
  | case1 pos =>
    rw [Alpha0.nandProgram, dif_pos rfl]
    exact .pure h.progress ⟨h, hm, rfl, rfl⟩
  | case2 pos length hne ih =>
    rw [Alpha0.nandProgram, dif_neg hne]
    have hc' : commandOf (setByte s.ioregisters ioregData (buffer pos)).toUInt32 = cDummy := by
      rw [commandOf_setByte_data, hc]
    have hadv : Advances stored total (.store ioregData (buffer pos)) (setByte s.ioregisters ioregData (buffer pos))
        s n _ := ⟨.programByte hm hc', by rw [Store.putByte_dataStore]; exact h.storage, h.bound⟩
    refine (h.store hadv).bind fun l₁ _ s₁ ⟨hat₁, hdev, hw⟩ => ?_
    have hstore : s₁.device.store = s.device.store.putByte (buffer pos) := by
      rw [hdev, dataOf_setByte_data]
    have hcursor := s.device.store.putByte_cursor (buffer pos)
    refine (ih hat₁ (by rw [hdev]; exact hm) (by rw [hw]; exact hc')).mono
      fun l' _ s' ⟨hat', hm', hpage', hcache'⟩ => ⟨hat', hm', ?_, ?_⟩
    · rw [hpage', hstore, hcursor]
      omega
    · have hlen : length.toNat = 1 + (length - 1).toNat := by
        have := toNat_ne_zero hne
        rw [pred_toNat hne]
        omega
      rw [hcache', hlen, writeRange_add, hstore, Store.putByte_cache, writeRange_succ, writeRange_zero]
      simp only [Nat.add_zero, Nat.mod_mod, Nat.add_assoc]
      refine writeRange_mod _ ?_ _ _
      rw [hcursor]
      omega

/-- The cache a page of the transfer leaves is the image of that page. -/
theorem Position.image {offset size bytesLeft cursor : UInt32} {byteAddr : UInt8} {n : Nat}
    (h : Position offset size bytesLeft cursor byteAddr n) (hne : bytesLeft ≠ 0) (buffer : Buffer) (i : Nat)
    (hi : i < 256) :
    writeRange 256 (fun k => buffer (cursor.toNat + k)) byteAddr.toNat (sizeInPage bytesLeft byteAddr).toNat
      (fun _ => 0) i = pageImage buffer offset size n i := by
  have hsize := sizeInPage_toNat bytesLeft byteAddr
  have hleft := h.left
  have hpage := h.page hne
  have hb : byteAddr.toNat < 256 := byteAddr.toNat_lt
  rw [writeRange_apply (by omega), hsize]
  unfold pageImage
  -- before the data of the first page, and behind that of the last, the page is zero
  by_cases hin : byteAddr.toNat ≤ i ∧ i < byteAddr.toNat + min bytesLeft.toNat (256 - byteAddr.toNat)
  · rw [if_pos hin, if_pos (by omega)]
    congr 1
    omega
  · rw [if_neg hin, if_neg ?_]
    rcases h.aligned with h0 | h0 <;> omega

/-- The storage after the first `k` pages of a write. -/
def written (buffer : Buffer) (offset size : UInt32) (f : Nat → UInt8) (k : Nat) : Nat → UInt8 :=
  setSegments 256 65536 (pageImage buffer offset size) (offset.toNat / 256) k f

theorem At.jtWriteLoop {buffer : Buffer} {offset size : UInt32} {f : Nat → UInt8} (bytesLeft cursor : UInt32)
    (byteAddr : UInt8) (h : At d₀ (written buffer offset size f) (pageCount offset size) l s.device n)
    (ho : Opening .programAcceptingData cDummy s) (hpos : Position offset size bytesLeft cursor byteAddr n)
    (hcursor : s.device.store.cursor.toNat = (offset.toNat / 256 + n) % 65536 * 256 + byteAddr.toNat) :
    Meets (env waiting) Trace.Ready (Progress d₀ (written buffer offset size f) (pageCount offset size))
      (Framework.jtWriteLoop Alpha0.jumpTable buffer bytesLeft cursor byteAddr) l s
      (Ends d₀ (written buffer offset size f) (pageCount offset size) .programAcceptingData) := by
  induction bytesLeft, cursor, byteAddr using jtWriteLoop.induct generalizing l s n with
  | case1 cursor byteAddr =>
    rw [Framework.jtWriteLoop, dif_pos rfl]
    exact .pure h.progress ⟨n, h, ho.state, fun _ => hpos.done rfl⟩
  | case2 bytesLeft cursor byteAddr hne size' =>
    rename_i ih
    rw [Framework.jtWriteLoop, dif_neg hne]
    obtain ⟨hbound, hnext⟩ := hpos.next hne
    have hb : byteAddr.toNat < 256 := byteAddr.toNat_lt
    have hpage : s.device.store.cursor.toNat / 256 = (offset.toNat / 256 + n) % 65536 := by
      rw [hcursor]; omega
    have hbyte : s.device.store.cursor.toNat % 256 = byteAddr.toNat := by
      rw [hcursor]; omega
    refine (h.nandProgram ho.state ho.command buffer cursor.toNat size').bind
      fun l₁ _ s₁ ⟨hat₁, hm₁, hpage₁, hcache₁⟩ => ?_
    -- the cache was blank, so the page is the data and nothing else
    rw [hbyte, ho.cache] at hcache₁
    rw [hpage] at hpage₁
    have hstored : s₁.device.store.programPage.dataStore = written buffer offset size f (n + 1) := by
      rw [Store.programPage_dataStore, hpage₁, hat₁.storage, hcache₁,
        setSegment_congr (by norm_num) (hpos.image hne buffer)]
      rfl
    refine hat₁.execute .program (fun _ hc => .programExecute hm₁ hc) hstored hbound rfl _
      fun l₂ r s₂ hat₂ hdev₂ hc₂ => ?_
    have hm₂ : s₂.device.machineState = .programAcceptingData := by
      rw [hdev₂]
      exact hm₁
    split_ifs with hr
    · exact .pure hat₂.progress ⟨n + 1, hat₂, hm₂, fun h0 => absurd h0 (by decide)⟩
    · refine ih hat₂ ⟨hm₂, ?_, hc₂⟩ hnext ?_
      · rw [hdev₂]
        exact Store.programPage_cache _
      -- the cursor is at the start of the next page, around the end of storage
      · rw [hdev₂]
        refine (Store.programPage_cursor hat₁.inStorage).trans ?_
        have h0 := UInt8.toNat_zero
        rw [hpage₁, h0]
        omega

/-! ## Reading -/

/-- The bytes of a page are loaded from the cache, the cursor moving on by one each. -/
theorem At.nandRead (h : At d₀ stored total l s.device n) (hm : s.device.machineState = .readProvidingData)
    (hc : commandOf s.ioregisters.toUInt32 = cDummy) (buffer : Buffer) (pos : Nat) (length : UInt32)
    (hfit : s.device.store.cursor.toNat % 256 + length.toNat ≤ 256) :
    Meets (env waiting) Trace.Ready (Progress d₀ stored total) (Alpha0.nandRead buffer pos length) l s
      fun l' buffer' s' => At d₀ stored total l' s'.device n ∧ s'.device.machineState = .readProvidingData ∧
        s'.device.store.cursor.toNat = (s.device.store.cursor.toNat + length.toNat) % 16777216 ∧
        ∀ i, buffer' i = if pos ≤ i ∧ i < pos + length.toNat then
          s.device.store.cache (s.device.store.cursor.toNat % 256 + (i - pos)) else buffer i := by
  have hs : s.device.store.cursor.toNat < 16777216 := h.inStorage
  induction buffer, pos, length using Alpha0.nandRead.induct generalizing l s with
  | case1 buffer pos =>
    rw [Alpha0.nandRead, dif_pos rfl]
    have h0 := UInt32.toNat_zero
    refine .pure h.progress ⟨h, hm, ?_, fun i => ?_⟩
    · rw [h0]
      omega
    · rw [h0, if_neg (by omega)]
  | case2 buffer pos length hne ih =>
    rw [Alpha0.nandRead, dif_neg hne]
    have hadv : Advances stored total .load s.ioregisters s n _ :=
      ⟨.readByte hm hc, by rw [incrementCursor_dataStore]; exact h.storage, h.bound⟩
    refine h.load hadv |>.bind fun l₁ byte s₁ ⟨hat₁, hdev, hw, hbyte⟩ => ?_
    rw [Option.getD_some, dataWord_toUInt8] at hbyte
    have hcursor : s₁.device.store.cursor.toNat = (s.device.store.cursor.toNat + 1) % 16777216 := by
      rw [hdev]
      exact incrementCursor_free h.inStorage
    have hcache : s₁.device.store.cache = s.device.store.cache := by
      rw [hdev]
      exact incrementCursor_cache false s.device.store
    have hlen : length.toNat = (length - 1).toNat + 1 := by
      have := toNat_ne_zero hne
      rw [pred_toNat hne]
      omega
    have hc₁ : commandOf s₁.ioregisters.toUInt32 = cDummy := by
      rw [hw]
      exact commandOf_dataWord _
    refine (ih byte hat₁ (by rw [hdev]; exact hm) hc₁ (by omega) hat₁.inStorage).mono
      fun l' buffer' s' ⟨hat', hm', hcursor', hbuffer'⟩ => ⟨hat', hm', ?_, fun i => ?_⟩
    · rw [hcursor', hcursor]
      omega
    · rw [hbuffer', hcache, hcursor]
      by_cases hi : i = pos
      · subst hi
        rw [if_neg (by omega), if_pos (by omega), Function.update_self, hbyte, Nat.sub_self]
        rfl
      · rw [Function.update_of_ne hi]
        by_cases hin : pos + 1 ≤ i ∧ i < pos + 1 + (length - 1).toNat
        · rw [if_pos hin, if_pos (by omega)]
          congr 1
          omega
        · rw [if_neg hin, if_neg (by omega)]

/-- The buffer after the first `k` bytes of a read. -/
def fetched (f : Nat → UInt8) (offset : UInt32) (k : Nat) (buffer : Buffer) : Buffer := fun i =>
  if i < k then f ((offset.toNat + i) % 16777216) else buffer i

/-- The bytes `page` of a page behind those fetched with earlier pages. -/
theorem fetched_add {f page : Nat → UInt8} {offset : UInt32} {c n : Nat} {buffer : Buffer}
    (hpage : ∀ k < n, page k = f ((offset.toNat + c + k) % 16777216)) :
    (fun i => if c ≤ i ∧ i < c + n then page (i - c) else fetched f offset c buffer i) =
      fetched f offset (c + n) buffer := by
  funext i
  unfold fetched
  by_cases hi : c ≤ i ∧ i < c + n
  · have hsum : offset.toNat + c + (i - c) = offset.toNat + i := by omega
    rw [if_pos hi, if_pos hi.2, hpage _ (by omega), hsum]
  · rw [if_neg hi]
    by_cases hlo : i < c
    · rw [if_pos hlo, if_pos (by omega)]
    · rw [if_neg hlo, if_neg (by omega)]

/-- A read of no bytes ends before the device has provided any page. -/
def readEnd (n : Nat) : MachineState := if n = 0 then .readAwaitingExecute else .readProvidingData

theorem At.jtReadLoop {offset size : UInt32} {f : Nat → UInt8} {buffer₀ : Buffer} (buffer : Buffer)
    (bytesLeft cursor : UInt32) (byteAddr : UInt8) (h : At d₀ (fun _ => f) (pageCount offset size) l s.device n)
    (hm : s.device.machineState = readEnd n) (hpos : Position offset size bytesLeft cursor byteAddr n)
    (hcursor : s.device.store.cursor.toNat = (offset.toNat + cursor.toNat) % 16777216)
    (hbuffer : buffer = fetched f offset cursor.toNat buffer₀) :
    Meets (env waiting) Trace.Ready (Progress d₀ (fun _ => f) (pageCount offset size))
      (Framework.jtReadLoop Alpha0.jumpTable buffer bytesLeft cursor byteAddr) l s fun l' r s' =>
        Ends d₀ (fun _ => f) (pageCount offset size) (readEnd (pageCount offset size)) l' r.2 s' ∧
          (r.2 = 0 → r.1 = fetched f offset size.toNat buffer₀) := by
  induction buffer, bytesLeft, cursor, byteAddr using jtReadLoop.induct generalizing l s n with
  | case1 buffer cursor byteAddr =>
    rw [Framework.jtReadLoop, dif_pos rfl]
    have hleft := hpos.left
    have h0 := UInt32.toNat_zero
    refine .pure h.progress ⟨⟨n, h, ?_, fun _ => hpos.done rfl⟩, fun _ => ?_⟩
    · rw [hm, hpos.done rfl]
    · rw [hbuffer, ← hleft, h0, Nat.add_zero]
  | case2 buffer bytesLeft cursor byteAddr hne ih =>
    rw [Framework.jtReadLoop, dif_neg hne]
    obtain ⟨hbound, hnext⟩ := hpos.next hne
    have hend : readEnd (pageCount offset size) = .readProvidingData := if_neg (by omega)
    have hm' : s.device.machineState = .readAwaitingExecute ∨ s.device.machineState = .readProvidingData := by
      rw [hm, readEnd]
      split_ifs
      · exact .inl rfl
      · exact .inr rfl
    refine h.execute .read (fun _ hc => .readExecute hm' hc) h.storage hbound rfl _
      fun l₁ r s₁ hat₁ hdev₁ hc₁ => ?_
    have hm₁ : s₁.device.machineState = .readProvidingData := by rw [hdev₁]
    have failed : ¬ (-1 : Int) = 0 := by decide
    split_ifs with hr
    · exact .pure hat₁.progress ⟨⟨n + 1, hat₁, by rw [hm₁, hend], fun h0 => absurd h0 failed⟩,
        fun h0 => absurd h0 failed⟩
    · have hsize := sizeInPage_toNat bytesLeft byteAddr
      have hleft := hpos.left
      have hpage := hpos.page hne
      have hb : byteAddr.toNat < 256 := byteAddr.toNat_lt
      have hlt := size.toNat_lt
      have hcursor₁ : s₁.device.store.cursor.toNat = (offset.toNat + cursor.toNat) % 16777216 := by
        rw [hdev₁]
        exact hcursor
      have hcache₁ : ∀ i < 256, s₁.device.store.cache i = f (s₁.device.store.cursor.toNat / 256 * 256 + i) := by
        intro i hi
        rw [hdev₁]
        show (if i < 256 then s.device.store.dataStore _ else _) = _
        rw [if_pos hi, h.storage]
        rfl
      have hnextCursor : (cursor + sizeInPage bytesLeft byteAddr).toNat =
          cursor.toNat + (sizeInPage bytesLeft byteAddr).toNat := by
        exact add_toNat (by omega)
      refine (hat₁.nandRead hm₁ hc₁ buffer cursor.toNat (sizeInPage bytesLeft byteAddr) (by omega)).bind
        fun l₂ buffer' s₂ ⟨hat₂, hm₂, hcursor₂, hbuffer₂⟩ => ?_
      refine ih buffer' hat₂ ?_ hnext ?_ ?_
      · rw [hm₂]
        rfl
      · rw [hcursor₂, hcursor₁, hnextCursor]
        omega
      · have hfetch : ∀ k < (sizeInPage bytesLeft byteAddr).toNat,
            s₁.device.store.cache (s₁.device.store.cursor.toNat % 256 + k) =
              f ((offset.toNat + cursor.toNat + k) % 16777216) := by
          intro k hk
          rw [hcache₁ _ (by omega)]
          congr 1
          omega
        rw [hnextCursor, ← fetched_add hfetch, ← hbuffer]
        exact funext hbuffer₂

/-! ## Erasing -/

/-- The storage after the first `k` blocks of an erase. -/
def erased (offset : UInt32) (f : Nat → UInt8) (k : Nat) : Nat → UInt8 :=
  setSegments 65536 256 (fun _ _ => 0) (offset.toNat / 65536) k f

theorem At.jtEraseLoop {offset numBlocks : UInt32} {f : Nat → UInt8} (b : UInt32) (hb : b ≤ numBlocks)
    (h : At d₀ (erased offset f) numBlocks.toNat l s.device b.toNat)
    (hm : s.device.machineState = .eraseAwaitingExecute)
    (hcursor : s.device.store.cursor.toNat / 65536 = (offset.toNat / 65536 + b.toNat) % 256) :
    Meets (env waiting) Trace.Ready (Progress d₀ (erased offset f) numBlocks.toNat)
      (Framework.jtEraseLoop Alpha0.jumpTable numBlocks b) l s
      (Ends d₀ (erased offset f) numBlocks.toNat .eraseAwaitingExecute) := by
  induction b using jtEraseLoop.induct numBlocks generalizing l s with
  | case1 b hlt ih =>
    rw [Framework.jtEraseLoop, dif_pos hlt]
    have hsucc := succ_toNat hlt
    have hlt' := UInt32.lt_iff_toNat_lt.1 hlt
    have hstored : s.device.store.eraseBlock.dataStore = erased offset f (b.toNat + 1) := by
      rw [Store.eraseBlock_dataStore, hcursor, h.storage]
      rfl
    refine h.execute .erase (fun _ hc => .eraseExecute hm hc) hstored hlt' rfl _
      fun l₁ r s₁ hat₁ hdev₁ _ => ?_
    have hm₁ : s₁.device.machineState = .eraseAwaitingExecute := by
      rw [hdev₁]
      exact hm
    split_ifs with hr
    · exact .pure hat₁.progress ⟨_, hat₁, hm₁, fun h0 => absurd h0 (by decide)⟩
    · refine ih (UInt32.le_iff_toNat_le.2 (by omega)) (hsucc ▸ hat₁) hm₁ ?_
      rw [hdev₁, hsucc]
      refine (congrArg (· / 65536) (Store.eraseBlock_cursor h.inStorage)).trans ?_
      omega
  | case2 b hge =>
    rw [Framework.jtEraseLoop, dif_neg hge]
    have he : b = numBlocks := UInt32.le_antisymm hb (UInt32.not_lt.1 hge)
    exact .pure h.progress ⟨_, h, hm, fun _ => by rw [he]⟩

end

/-! ## Calls -/

namespace Call

/-- The number of EXECUTEs of a call that does not fail: its pages or blocks. -/
def total : Call → Nat
  | write _ offset size => pageCount offset size
  | read _ offset size => pageCount offset size
  | erase offset size => (blocksToErase offset size).toNat

/-- The storage after the first `k` EXECUTEs of a call on the storage `f`. -/
def stored (f : Nat → UInt8) : Call → (k : Nat) → Nat → UInt8
  | write buffer offset size => written buffer offset size f
  | read _ _ _ => fun _ => f
  | erase offset _ => erased offset f

/-- The state a call leaves an idle device in. -/
def endState : Call → MachineState
  | write _ _ _ => .programAcceptingData
  | read _ offset size => readEnd (pageCount offset size)
  | erase _ _ => .eraseAwaitingExecute

/-- What a call that succeeds on the storage `f` hands back in its buffer. -/
def answer (f : Nat → UInt8) : Call → Option Buffer
  | read buffer offset size => some (fetched f offset size.toNat buffer)
  | _ => none

/-- `read_nand()` of no bytes. -/
def IsZeroRead (call : Call) : Prop := ∃ buffer offset, call = read buffer offset 0

end Call

theorem pageCount_eq_zero {offset size : UInt32} : pageCount offset size = 0 ↔ size = 0 := by
  by_cases h : size = 0
  · simp [pageCount, h]
  · have := toNat_ne_zero h
    rw [pageCount_eq this]
    simp only [h, iff_false]
    omega

theorem endState_of_zeroRead {call : Call} (h : call.IsZeroRead) : call.endState = .readAwaitingExecute := by
  obtain ⟨buffer, offset, rfl⟩ := h
  rfl

/-- Every call but a read of no bytes ends in a state that accepts every SETUP. -/
theorem endState_session {call : Call} (h : ¬ call.IsZeroRead) : ∃ k : Kind, call.endState = k.session := by
  cases call with
  | write buffer offset size => exact ⟨.program, rfl⟩
  | erase offset size => exact ⟨.erase, rfl⟩
  | read buffer offset size =>
    refine ⟨.read, if_neg fun h0 => h ?_⟩
    rw [pageCount_eq_zero] at h0
    exact ⟨buffer, offset, by rw [h0]⟩

theorem Idle.not_bug {d : Device} (h : Idle d) : d.machineState ≠ .bug := by
  rcases h with ⟨hm, _⟩ | ⟨k, hm⟩ <;> rw [hm]
  · simp
  · cases k <;> simp [Kind.session]

section

variable {waiting : Waiting} {s : Sys}

theorem at_start (hs : InStorage s.device.store) (hidle : Idle s.device) (call : Call) :
    At s.device (call.stored s.device.store.dataStore) call.total [] s.device 0 :=
  ⟨rfl, hidle.not_bug, hs, rfl, by cases call <;> rfl, Nat.zero_le _⟩

/-- A call on an idle device, as long as every access finds the device ready: no access is rejected,
after each of them the storage is that of the EXECUTEs made, and a call that succeeds has made them all. -/
theorem meets_perform (hs : InStorage s.device.store) (hidle : Idle s.device) (call : Call) :
    Meets (env waiting) Trace.Ready (Progress s.device (call.stored s.device.store.dataStore) call.total)
      call.perform [] s fun l ret s' =>
        Ends s.device (call.stored s.device.store.dataStore) call.total call.endState l ret.value s' ∧
          (ret.value = 0 → ret.buffer = call.answer s.device.store.dataStore) := by
  have hstart := at_start hs hidle call
  cases call with
  | write buffer offset size =>
    have hw : Meets (env waiting) Trace.Ready
        (Progress s.device (written buffer offset size s.device.store.dataStore) (pageCount offset size))
        (writeNand Alpha0.getDriver buffer offset size) [] s
        (Ends s.device (written buffer offset size s.device.store.dataStore) (pageCount offset size)
          .programAcceptingData) := by
      refine hstart.addresses hidle (k := .program) nofun _ _ _ fun l₁ s₁ hat₁ ho₁ hcursor₁ => ?_
      refine At.jtWriteLoop size 0 _ hat₁ ho₁ (Position.start offset size) ?_
      rw [hcursor₁, blockAddr_toNat, pageAddr_toNat]
      omega
    exact hw.bind fun l₁ r s₁ h₁ => .pure h₁.progress ⟨h₁, fun _ => rfl⟩
  | read buffer offset size =>
    have hr : Meets (env waiting) Trace.Ready
        (Progress s.device (fun _ => s.device.store.dataStore) (pageCount offset size))
        (readNand Alpha0.getDriver buffer offset size) [] s fun l r s' =>
          Ends s.device (fun _ => s.device.store.dataStore) (pageCount offset size)
            (readEnd (pageCount offset size)) l r.2 s' ∧
          (r.2 = 0 → r.1 = fetched s.device.store.dataStore offset size.toNat buffer) := by
      refine hstart.addresses hidle (k := .read) nofun _ _ _ fun l₁ s₁ hat₁ ho₁ hcursor₁ => ?_
      have h0 := UInt32.toNat_zero
      refine At.jtReadLoop buffer size 0 _ hat₁ ho₁.state (Position.start offset size) ?_ ?_
      · rw [hcursor₁, blockAddr_toNat, pageAddr_toNat, byteAddr_toNat, h0]
        omega
      · rw [h0]
        funext i
        rw [fetched, if_neg (Nat.not_lt_zero i)]
    exact hr.bind fun l₁ r s₁ ⟨hend, hbuffer⟩ =>
      .pure hend.progress ⟨hend, fun h0 => congrArg some (hbuffer h0)⟩
  | erase offset size =>
    have he : Meets (env waiting) Trace.Ready
        (Progress s.device (erased offset s.device.store.dataStore) (blocksToErase offset size).toNat)
        (eraseNand Alpha0.getDriver offset size) [] s
        (Ends s.device (erased offset s.device.store.dataStore) (blocksToErase offset size).toNat
          .eraseAwaitingExecute) := by
      refine (hstart.setup hidle .erase).bind fun l₁ _ s₁ ⟨hat₁, ho₁⟩ => ?_
      refine (hat₁.address ho₁ rfl _).bind fun l₂ _ s₂ ⟨hat₂, ho₂, hcursor₂⟩ => ?_
      refine At.jtEraseLoop 0 (UInt32.le_iff_toNat_le.2 (Nat.zero_le _)) hat₂ ho₂.state ?_
      have hb : (offset / blockSize).toUInt8.toUInt32.toNat < 256 := UInt8.toNat_lt _
      have h0 := UInt32.toNat_zero
      rw [hcursor₂, setCursorByte_block hat₁.inStorage hb, UInt8.toNat_toUInt32, blockAddr_toNat, h0]
      omega
    exact he.bind fun l₁ r s₁ h₁ => .pure h₁.progress ⟨h₁, fun _ => rfl⟩

end

end NandRig.Stack
