/-
What the flawed read functions make of `read_nand()`: alpha_6 (`driver/alpha/alpha_6.c`) stores the bytes
of each page backwards, and alpha_4 leaves out the last bytes of a page that is not read to a multiple of
eight. Both on whatever machine: these are facts about the requests and what is made of the answers.
-/
import NandRig.Driver.FlawedAlpha
import NandRig.Framework.ExecOp
import NandRig.Lib.Coupling

namespace NandRig.Driver

open Emulator Framework Interact

namespace Alpha6

/-- `while (length--) *(buffer + length) = data;` -/
def nandRead (buffer : Buffer) (pos : Nat) (length : UInt32) : DriverM Buffer :=
  if h : length = 0 then pure buffer
  else do
    let byte ← ask .load
    nandRead (Function.update buffer (pos + (length - 1).toNat) byte) pos (length - 1)
termination_by length.toNat
decreasing_by exact pred_toNat_lt h

def jumpTable : NandJumpTable := { Alpha0.jumpTable with readBuffer := nandRead }

def getDriver : NandDriver := .jumpTable jumpTable

end Alpha6

namespace Alpha4

def jumpTable : NandJumpTable := { Alpha0.jumpTable with readBuffer := nandRead }

def getDriver : NandDriver := .jumpTable jumpTable

end Alpha4

/-! ## What the read function has no part in -/

section

variable (table : NandJumpTable) (readBuffer : Buffer → (pos : Nat) → (length : UInt32) → DriverM Buffer)

theorem jtWriteLoop_readBuffer (buffer : Buffer) (bytesLeft cursor : UInt32) (byteAddr : UInt8) :
    jtWriteLoop { table with readBuffer := readBuffer } buffer bytesLeft cursor byteAddr =
      jtWriteLoop table buffer bytesLeft cursor byteAddr := by
  induction bytesLeft, cursor, byteAddr using jtWriteLoop.induct with
  | case1 cursor byteAddr => rw [jtWriteLoop, jtWriteLoop, dif_pos rfl, dif_pos rfl]
  | case2 bytesLeft cursor byteAddr hne size ih =>
    rw [jtWriteLoop, jtWriteLoop, dif_neg hne, dif_neg hne]
    simp only [size] at ih
    simp only [ih]

theorem jtEraseLoop_readBuffer (numBlocks b : UInt32) :
    jtEraseLoop { table with readBuffer := readBuffer } numBlocks b = jtEraseLoop table numBlocks b := by
  induction b using jtEraseLoop.induct numBlocks with
  | case1 b hlt ih =>
    rw [jtEraseLoop, dif_pos hlt]
    conv_rhs => rw [jtEraseLoop, dif_pos hlt]
    simp only [ih]
  | case2 b hge => rw [jtEraseLoop, dif_neg hge, jtEraseLoop, dif_neg hge]

theorem writeNand_readBuffer (buffer : Buffer) (offset size : UInt32) :
    writeNand (.jumpTable { table with readBuffer := readBuffer }) buffer offset size =
      writeNand (.jumpTable table) buffer offset size := by
  show jtWrite _ buffer offset size = jtWrite table buffer offset size
  unfold jtWrite
  simp only [jtWriteLoop_readBuffer]

theorem eraseNand_readBuffer (offset size : UInt32) :
    eraseNand (.jumpTable { table with readBuffer := readBuffer }) offset size =
      eraseNand (.jumpTable table) offset size := by
  show jtErase _ offset size = jtErase table offset size
  unfold jtErase
  simp only [jtEraseLoop_readBuffer]

end

/-! ## Backwards within a page -/

/-- Where a byte of a transfer lies when the part of each page that is read is turned around: `i` is the
index of the byte, and `base` the first byte read of the first page. -/
def turnedIndex (base size i : Nat) : Nat :=
  let page := (base + i) / 256
  (256 * page - base) + (min (256 * page + 256) (base + size) - base) - 1 - i

/-- Within the part read of one page, `m` bytes from the byte `c` on. -/
theorem turnedIndex_eq {base size c m b i : Nat} (hpage : (base + c) % 256 = b) (haligned : b = 0 ∨ c = 0)
    (hm : m = min (size - c) (256 - b)) (hi : c ≤ i) (hi' : i < c + m) :
    turnedIndex base size i = c + (m - 1 - (i - c)) := by
  have hn : (base + i) / 256 = (base + c) / 256 := by omega
  have hstart : 256 * ((base + c) / 256) - base = c := by omega
  have hend : min (256 * ((base + c) / 256) + 256) (base + size) - base = c + m := by omega
  unfold turnedIndex
  dsimp only
  rw [hn, hstart, hend]
  omega

/-- One buffer has `n` bytes backwards from `pos'` on that the other has from `pos` on; around them both are
as they were. -/
structure Reversed (pos pos' n : Nat) (b₀ b₀' b b' : Buffer) : Prop where
  inside : ∀ j < n, b' (pos' + j) = b (pos + (n - 1 - j))
  outside : ∀ a, a < pos ∨ pos + n ≤ a → b a = b₀ a
  outside' : ∀ a, a < pos' ∨ pos' + n ≤ a → b' a = b₀' a

/-- alpha_6 stores backwards what alpha_0 stores. -/
theorem nandRead_coupled (n : Nat) : ∀ {length : UInt32} (buffer buffer' : Buffer) (pos pos' : Nat), length.toNat = n →
    Coupled (Reversed pos pos' n buffer buffer') (Alpha0.nandRead buffer pos length)
      (Alpha6.nandRead buffer' pos' length) := by
  induction n with
  | zero =>
    intro length buffer buffer' pos pos' hlen
    obtain rfl : length = 0 := UInt32.toNat_inj.1 hlen
    rw [Alpha0.nandRead, Alpha6.nandRead, dif_pos rfl, dif_pos rfl]
    exact .pure ⟨fun j hj => absurd hj (Nat.not_lt_zero j), fun _ _ => rfl, fun _ _ => rfl⟩
  | succ n ih =>
    intro length buffer buffer' pos pos' hlen
    have hne : length ≠ 0 := by
      rintro rfl
      cases hlen
    have hpred : (length - 1).toNat = n := by
      rw [pred_toNat hne]
      omega
    rw [Alpha0.nandRead, Alpha6.nandRead, dif_neg hne, dif_neg hne, hpred]
    refine Coupled.call _ fun byte => (ih (Function.update buffer pos byte)
      (Function.update buffer' (pos' + n) byte) (pos + 1) pos' hpred).mono fun b b' hb => ?_
    obtain ⟨hin, hout, hout'⟩ := hb
    refine ⟨fun j hj => ?_, fun a ha => ?_, fun a ha => ?_⟩
    -- the byte read here is the first of alpha_0 and the last of alpha_6
    · by_cases hjn : j = n
      · subst hjn
        have hzero : pos + (j + 1 - 1 - j) = pos := by omega
        rw [hzero, hout' _ (.inr le_rfl), hout _ (.inl (by omega)), Function.update_self, Function.update_self]
      · have hpos : pos + 1 + (n - 1 - j) = pos + (n + 1 - 1 - j) := by omega
        rw [hin j (by omega), hpos]
    · rw [hout a (by omega), Function.update_of_ne (by omega)]
    · rw [hout' a (by omega), Function.update_of_ne (by omega)]

/-- What a read leaves in the two buffers, from the byte `cursor` on. -/
structure Turned (base size cursor : Nat) (b₀ b₀' : Buffer) (x y : Buffer × Int) : Prop where
  value : x.2 = y.2
  inside : x.2 = 0 → ∀ i, cursor ≤ i → i < size → y.1 i = x.1 (turnedIndex base size i)
  outside : ∀ a, a < cursor ∨ size ≤ a → x.1 a = b₀ a
  outside' : ∀ a, a < cursor ∨ size ≤ a → y.1 a = b₀' a

theorem jtReadLoop_turned {base : Nat} {size : UInt32} (bytesLeft cursor : UInt32) (byteAddr : UInt8)
    (buffer buffer' : Buffer) (hleft : cursor.toNat + bytesLeft.toNat = size.toNat)
    (hpage : bytesLeft ≠ 0 → (base + cursor.toNat) % 256 = byteAddr.toNat)
    (haligned : byteAddr.toNat = 0 ∨ cursor.toNat = 0) :
    Coupled (Turned base size.toNat cursor.toNat buffer buffer')
      (jtReadLoop Alpha0.jumpTable buffer bytesLeft cursor byteAddr)
      (jtReadLoop Alpha6.jumpTable buffer' bytesLeft cursor byteAddr) := by
  induction buffer, bytesLeft, cursor, byteAddr using jtReadLoop.induct generalizing buffer' with
  | case1 buffer cursor byteAddr =>
    have h0 := UInt32.toNat_zero
    rw [jtReadLoop, jtReadLoop, dif_pos rfl, dif_pos rfl]
    exact .pure ⟨rfl, fun _ i h₁ h₂ => by omega, fun _ _ => rfl, fun _ _ => rfl⟩
  | case2 buffer bytesLeft cursor byteAddr hne ih =>
    rw [jtReadLoop, jtReadLoop, dif_neg hne, dif_neg hne]
    refine Coupled.call _ fun _ => Coupled.call _ fun result => ?_
    by_cases hresult : result ≠ 0
    · rw [if_pos hresult, if_pos hresult]
      exact .pure ⟨rfl, fun h => absurd h (show ¬ (-1 : Int) = 0 by decide), fun _ _ => rfl, fun _ _ => rfl⟩
    rw [if_neg hresult, if_neg hresult]
    have hread := sizeInPage_toNat bytesLeft byteAddr
    have hrest := sub_sizeInPage_toNat bytesLeft byteAddr
    have hlt := size.toNat_lt
    have hb := byteAddr.toNat_lt
    have h0 := UInt8.toNat_zero
    have hstart := hpage hne
    generalize sizeInPage bytesLeft byteAddr = sizeToRead at hread hrest ih ⊢
    have hcursor : (cursor + sizeToRead).toNat = cursor.toNat + sizeToRead.toNat := add_toNat (by omega)
    refine (nandRead_coupled sizeToRead.toNat buffer buffer' cursor.toNat cursor.toNat rfl).bind fun b b' hb => ?_
    refine (ih b b' (by omega) (fun hne' => ?_) (.inl h0)).mono fun x y hxy => ?_
    · have := toNat_ne_zero hne'
      omega
    obtain ⟨hin, hout, hout'⟩ := hb
    obtain ⟨hvalue, hinside, houtside, houtside'⟩ := hxy
    rw [hcursor] at hinside houtside houtside'
    refine ⟨hvalue, fun hzero i hi hi' => ?_, fun a ha => ?_, fun a ha => ?_⟩
    · by_cases hpart : i < cursor.toNat + sizeToRead.toNat
      -- the part of this page that has just been read
      · have hindex : turnedIndex base size.toNat i = _ := turnedIndex_eq hstart haligned (by omega) hi hpart
        have hj := hin (i - cursor.toNat) (by omega)
        have hi'' : cursor.toNat + (i - cursor.toNat) = i := by omega
        rw [hi''] at hj
        rw [houtside' i (.inl hpart), hj, hindex, houtside _ (.inl (by omega))]
      · exact hinside hzero i (by omega) hi'
    · rw [houtside a (by omega), hout a (by omega)]
    · rw [houtside' a (by omega), hout' a (by omega)]

/-- A read through alpha_6 makes the requests of a read through alpha_0, and turns each page around. -/
theorem readNand_turned (buffer : Buffer) (offset size : UInt32) :
    Coupled (Turned (offset.toNat % 256) size.toNat 0 buffer buffer) (readNand Alpha0.getDriver buffer offset size)
      (readNand Alpha6.getDriver buffer offset size) := by
  have h0 := UInt32.toNat_zero
  have hbyte := byteAddr_toNat offset
  have hloop : Coupled (Turned (offset.toNat % 256) size.toNat (0 : UInt32).toNat buffer buffer) _ _ :=
    jtReadLoop_turned size 0 (offset % numBytes).toUInt8 buffer buffer (by omega) (fun _ => by omega) (.inr h0)
  rw [h0] at hloop
  exact .call _ fun _ => .call _ fun _ => .call _ fun _ => .call _ fun _ => hloop

/-! ## Short of a multiple of eight -/

section

variable (A : (o : Op) → o.Res → Prop)

theorem readBytes_ensures : ∀ (n : Nat) (buffer : Buffer) (pos : Nat),
    (readBytes n buffer pos).Ensures A fun b => ∀ a, a < pos ∨ pos + n ≤ a → b a = buffer a
  | 0, _, _ => fun _ _ => rfl
  | n + 1, buffer, pos => fun byte _ =>
    (readBytes_ensures n (Function.update buffer pos byte) (pos + 1)).mono fun b hb a ha => by
      rw [hb a (by omega), Function.update_of_ne (by omega)]

/-- The bytes behind what alpha_4 reads of a transfer, all in its last page. -/
def restRead (last : Nat) (behind : Nat) (x : Buffer × Int) : DriverM (Buffer × Int) :=
  if x.2 = 0 then do
    let buffer ← readBytes last x.1 behind
    pure (buffer, 0)
  else pure x

theorem restRead_ensures (last behind : Nat) (x : Buffer × Int) :
    (restRead last behind x).Ensures A fun y => y.2 = x.2 ∧ ∀ a < behind, y.1 a = x.1 a := by
  unfold restRead
  split_ifs with hzero
  · exact (readBytes_ensures A last x.1 behind).bind fun b hb => ⟨hzero.symm, fun a ha => hb a (.inl ha)⟩
  · exact ⟨rfl, fun _ _ => rfl⟩

/-- From a byte whose distance from its page is a multiple of eight, alpha_0 reads what alpha_4 reads and then
the rest. -/
theorem jtReadLoop_alpha4 (buffer : Buffer) (bytesLeft cursor : UInt32) (byteAddr : UInt8)
    (height : byteAddr.toNat % 8 = 0) (hfit : cursor.toNat + bytesLeft.toNat < 2 ^ 32) :
    jtReadLoop Alpha0.jumpTable buffer bytesLeft cursor byteAddr =
      jtReadLoop Alpha4.jumpTable buffer bytesLeft cursor byteAddr >>=
        restRead (bytesLeft.toNat % 8) (cursor.toNat + bytesLeft.toNat - bytesLeft.toNat % 8) := by
  induction buffer, bytesLeft, cursor, byteAddr using jtReadLoop.induct with
  | case1 buffer cursor byteAddr =>
    rw [jtReadLoop, jtReadLoop, dif_pos rfl, dif_pos rfl, pure_bind]
    rfl
  | case2 buffer bytesLeft cursor byteAddr hne ih =>
    have hread := sizeInPage_toNat bytesLeft byteAddr
    have hrest := sub_sizeInPage_toNat bytesLeft byteAddr
    have hb := byteAddr.toNat_lt
    have h0 := UInt8.toNat_zero
    rw [jtReadLoop, jtReadLoop, dif_neg hne, dif_neg hne]
    generalize sizeInPage bytesLeft byteAddr = sizeToRead at hread hrest ih ⊢
    have hcursor : (cursor + sizeToRead).toNat = cursor.toNat + sizeToRead.toNat := add_toNat (by omega)
    dsimp only at ih ⊢
    rw [hcursor] at ih
    rw [bind_assoc]
    refine congrArg _ (funext fun _ => ?_)
    rw [bind_assoc]
    refine congrArg _ (funext fun result => ?_)
    by_cases hresult : result ≠ 0
    · rw [if_pos hresult, if_pos hresult, pure_bind]
      rfl
    rw [if_neg hresult, if_neg hresult, bind_assoc]
    have hfour : Alpha4.jumpTable.readBuffer buffer cursor.toNat sizeToRead =
        readBytes (8 * (sizeToRead.toNat / 8)) buffer cursor.toNat := alpha4_nandRead_eq buffer _ (by omega)
    have hzero : Alpha0.jumpTable.readBuffer buffer cursor.toNat sizeToRead =
        readBytes sizeToRead.toNat buffer cursor.toNat := alpha0_nandRead_eq buffer _ _
    rw [hfour, hzero]
    by_cases hlast : sizeToRead.toNat = bytesLeft.toNat
    -- the last page, of which alpha_4 reads a multiple of eight
    · have hdone : bytesLeft - sizeToRead = 0 := by
        rw [← UInt32.toNat_inj, hrest]
        show _ = 0
        omega
      have hsplit : sizeToRead.toNat = 8 * (sizeToRead.toNat / 8) + bytesLeft.toNat % 8 := by omega
      have hbehind : cursor.toNat + bytesLeft.toNat - bytesLeft.toNat % 8 =
          cursor.toNat + 8 * (sizeToRead.toNat / 8) := by omega
      rw [hbehind, hdone]
      conv_lhs => rw [hsplit, readBytes_add, bind_assoc]
      refine congrArg _ (funext fun b => ?_)
      rw [jtReadLoop, dif_pos rfl, pure_bind, restRead, if_pos rfl]
      refine congrArg _ (funext fun b' => ?_)
      rw [jtReadLoop, dif_pos rfl]
    -- a page read to its end, a multiple of eight further on
    · have hwhole : 8 * (sizeToRead.toNat / 8) = sizeToRead.toNat := by omega
      have hmod : (bytesLeft - sizeToRead).toNat % 8 = bytesLeft.toNat % 8 := by omega
      have hbehind : cursor.toNat + sizeToRead.toNat + (bytesLeft - sizeToRead).toNat =
          cursor.toNat + bytesLeft.toNat := by omega
      rw [hmod, hbehind] at ih
      rw [hwhole]
      refine congrArg _ (funext fun b => ?_)
      exact ih b (by omega) (by omega)

/-- Of a read from a multiple of eight on, alpha_4 leaves out the bytes behind the last one. -/
theorem readNand_alpha4 (buffer : Buffer) {offset : UInt32} (size : UInt32) (height : offset.toNat % 8 = 0) :
    readNand Alpha0.getDriver buffer offset size =
      readNand Alpha4.getDriver buffer offset size >>= restRead (size.toNat % 8) (size.toNat - size.toNat % 8) := by
  have h0 := UInt32.toNat_zero
  have hlt := size.toNat_lt
  have hbyte : (offset % numBytes).toUInt8.toNat % 8 = 0 := by
    rw [byteAddr_toNat]
    omega
  have hloop := jtReadLoop_alpha4 buffer size 0 (offset % numBytes).toUInt8 hbyte (by omega)
  rw [h0, Nat.zero_add] at hloop
  have hzero : readNand Alpha0.getDriver buffer offset size = jtRead Alpha0.jumpTable buffer offset size := rfl
  have hfour : readNand Alpha4.getDriver buffer offset size = jtRead Alpha4.jumpTable buffer offset size := rfl
  rw [hzero, hfour]
  unfold jtRead
  dsimp only
  rw [hloop]
  simp only [bind_assoc]
  rfl

/-- alpha_4 stores nothing there. -/
theorem jtReadLoop_alpha4_ensures (buffer : Buffer) (bytesLeft cursor : UInt32) (byteAddr : UInt8)
    (height : byteAddr.toNat % 8 = 0) (hfit : cursor.toNat + bytesLeft.toNat < 2 ^ 32) :
    (jtReadLoop Alpha4.jumpTable buffer bytesLeft cursor byteAddr).Ensures A fun x =>
      ∀ a, a < cursor.toNat ∨ cursor.toNat + bytesLeft.toNat - bytesLeft.toNat % 8 ≤ a → x.1 a = buffer a := by
  induction buffer, bytesLeft, cursor, byteAddr using jtReadLoop.induct with
  | case1 buffer cursor byteAddr =>
    rw [jtReadLoop, dif_pos rfl]
    exact fun _ _ => rfl
  | case2 buffer bytesLeft cursor byteAddr hne ih =>
    have hread := sizeInPage_toNat bytesLeft byteAddr
    have hrest := sub_sizeInPage_toNat bytesLeft byteAddr
    have hb := byteAddr.toNat_lt
    have h0 := UInt8.toNat_zero
    rw [jtReadLoop, dif_neg hne]
    generalize sizeInPage bytesLeft byteAddr = sizeToRead at hread hrest ih ⊢
    have hcursor : (cursor + sizeToRead).toNat = cursor.toNat + sizeToRead.toNat := add_toNat (by omega)
    have hfour : Alpha4.jumpTable.readBuffer buffer cursor.toNat sizeToRead =
        readBytes (8 * (sizeToRead.toNat / 8)) buffer cursor.toNat := alpha4_nandRead_eq buffer _ (by omega)
    refine fun _ _ => fun result _ => ?_
    dsimp only at ih ⊢
    rw [hfour]
    change Prog.Ensures _ _ (if result ≠ 0 then _ else _)
    by_cases hresult : result ≠ 0
    · rw [if_pos hresult]
      exact fun _ _ => rfl
    rw [if_neg hresult]
    refine (readBytes_ensures A _ _ _).bind fun b hb => ?_
    by_cases hlast : sizeToRead.toNat = bytesLeft.toNat
    · have hdone : bytesLeft - sizeToRead = 0 := by
        rw [← UInt32.toNat_inj, hrest]
        show _ = 0
        omega
      rw [hdone, jtReadLoop, dif_pos rfl]
      exact fun a ha => hb a (by omega)
    · refine (ih b (by omega) (by omega)).mono fun x hx a ha => ?_
      rw [hx a (by omega), hb a (by omega)]

theorem readNand_alpha4_ensures (buffer : Buffer) {offset : UInt32} (size : UInt32) (height : offset.toNat % 8 = 0) :
    (readNand Alpha4.getDriver buffer offset size).Ensures A fun x =>
      ∀ a, size.toNat - size.toNat % 8 ≤ a → x.1 a = buffer a := by
  have h0 := UInt32.toNat_zero
  have hlt := size.toNat_lt
  have hbyte : (offset % numBytes).toUInt8.toNat % 8 = 0 := by
    rw [byteAddr_toNat]
    omega
  have hloop := jtReadLoop_alpha4_ensures A buffer size 0 (offset % numBytes).toUInt8 hbyte (by omega)
  rw [h0, Nat.zero_add] at hloop
  exact fun _ _ => fun _ _ => fun _ _ => fun _ _ => hloop.mono fun x hx a ha => hx a (.inr ha)

end

end NandRig.Driver
