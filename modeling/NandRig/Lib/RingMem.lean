/-
Sequential writes to a memory that wraps around: `writeRange N f start len m` stores
`f 0 … f (len - 1)` one after the other at `start, start + 1, …` modulo `N`, later values over
earlier ones. Consecutive writes compose, a write that covers one aligned segment replaces that
segment as a whole, and the value left at an index is the last one stored there.
-/
import Mathlib.Tactic

namespace RingMem

variable {α : Type*}

/-! ## Definitions -/

/-- Store `f 0 … f (len - 1)` at consecutive indices from `start` on, modulo `N`. -/
def writeRange (N : Nat) (f : Nat → α) (start : Nat) : (len : Nat) → (Nat → α) → Nat → α
  | 0, m => m
  | len + 1, m => Function.update (writeRange N f start len m) ((start + len) % N) (f len)

/-- Replace segment `p` of the segments of `n` cells by `img`. -/
def setSegment (n p : Nat) (img : Nat → α) (m : Nat → α) : Nat → α :=
  fun a => if a / n = p then img (a % n) else m a

/-- Replace the segments `p, p + 1, …, p + k - 1` modulo `P`, in this order. -/
def setSegments (n P : Nat) (img : Nat → Nat → α) (p : Nat) : (k : Nat) → (Nat → α) → Nat → α
  | 0, m => m
  | k + 1, m => setSegment n ((p + k) % P) (img k) (setSegments n P img p k m)

/-! ## Composition -/

@[simp] theorem writeRange_zero (N : Nat) (f : Nat → α) (start : Nat) (m : Nat → α) :
    writeRange N f start 0 m = m := rfl

theorem writeRange_succ (N : Nat) (f : Nat → α) (start len : Nat) (m : Nat → α) :
    writeRange N f start (len + 1) m =
      Function.update (writeRange N f start len m) ((start + len) % N) (f len) := rfl

theorem writeRange_add (N : Nat) (f : Nat → α) (start a b : Nat) (m : Nat → α) :
    writeRange N f start (a + b) m =
      writeRange N (fun k => f (a + k)) (start + a) b (writeRange N f start a m) := by
  induction b with
  | zero => rfl
  | succ b ih => rw [← Nat.add_assoc, writeRange_succ, ih, writeRange_succ, Nat.add_assoc start]

theorem writeRange_congr {N : Nat} {f g : Nat → α} {start len : Nat} (h : ∀ k < len, f k = g k)
    (m : Nat → α) : writeRange N f start len m = writeRange N g start len m := by
  induction len with
  | zero => rfl
  | succ len ih =>
    rw [writeRange_succ, writeRange_succ, ih fun k hk => h k (by omega), h len (by omega)]

/-- A write behind another one is one write. -/
theorem writeRange_glue (N : Nat) (f g : Nat → α) (start a b : Nat) (m : Nat → α) :
    writeRange N g (start + a) b (writeRange N f start a m) =
      writeRange N (fun k => if k < a then f k else g (k - a)) start (a + b) m := by
  rw [writeRange_add]
  have htail : writeRange N (fun k => if a + k < a then f (a + k) else g (a + k - a)) (start + a) b =
      writeRange N g (start + a) b := by
    funext m'
    refine writeRange_congr (fun k _ => ?_) m'
    rw [if_neg (by omega), Nat.add_sub_cancel_left]
  have hhead : writeRange N (fun k => if k < a then f k else g (k - a)) start a m = writeRange N f start a m :=
    writeRange_congr (fun k hk => if_pos hk) m
  rw [hhead, htail]

/-- Only the start modulo `N` matters. -/
theorem writeRange_mod {N : Nat} (f : Nat → α) {s s' : Nat} (h : s % N = s' % N) (len : Nat) (m : Nat → α) :
    writeRange N f s len m = writeRange N f s' len m := by
  induction len with
  | zero => rfl
  | succ len ih =>
    rw [writeRange_succ, writeRange_succ, ih, Nat.add_mod s, h, ← Nat.add_mod]

/-! ## The value left at an index -/

/-- An index no write hits keeps its value. -/
theorem writeRange_of_forall_ne {N : Nat} {f : Nat → α} {start len : Nat} {m : Nat → α} {i : Nat}
    (h : ∀ k < len, (start + k) % N ≠ i) : writeRange N f start len m i = m i := by
  induction len with
  | zero => rfl
  | succ len ih =>
    rw [writeRange_succ, Function.update_of_ne (h len (by omega)).symm]
    exact ih fun k hk => h k (by omega)

/-- An index holds the last value stored there. -/
theorem writeRange_of_last {N : Nat} {f : Nat → α} {start len : Nat} {m : Nat → α} {i k : Nat}
    (hk : k < len) (hi : (start + k) % N = i) (hlast : ∀ j, k < j → j < len → (start + j) % N ≠ i) :
    writeRange N f start len m i = f k := by
  induction len with
  | zero => omega
  | succ len ih =>
    rw [writeRange_succ]
    by_cases h : k = len
    · subst h; rw [← hi, Function.update_self]
    · rw [Function.update_of_ne (hlast len (by omega) (by omega)).symm]
      exact ih (by omega) fun j h1 h2 => hlast j h1 (by omega)

/-- The last round of writes is the one that stays. -/
theorem writeRange_last_round {N : Nat} (f : Nat → α) (start : Nat) {len k : Nat} (hk : k < len) (hlast : len ≤ k + N)
    (m : Nat → α) : writeRange N f start len m ((start + k) % N) = f k := by
  refine writeRange_of_last hk rfl fun j hkj hj hsame => ?_
  have hdvd : N ∣ (start + j) - (start + k) := Nat.dvd_of_mod_eq_zero (Nat.sub_mod_eq_zero_of_mod_eq hsame)
  have hle := Nat.le_of_dvd (by omega) hdvd
  omega

/-- One value stored throughout a range is found everywhere in it. -/
theorem writeRange_const {N : Nat} (c : α) (start : Nat) {len k : Nat} (hk : k < len) (m : Nat → α) :
    writeRange N (fun _ => c) start len m ((start + k) % N) = c := by
  induction len with
  | zero => omega
  | succ len ih =>
    rw [writeRange_succ]
    by_cases h : (start + k) % N = (start + len) % N
    · rw [h, Function.update_self]
    · rw [Function.update_of_ne h]
      refine ih (lt_of_le_of_ne (by omega) ?_)
      rintro rfl
      exact h rfl

/-- A range that does not wrap holds the values stored there. -/
theorem writeRange_apply {N start len : Nat} (hfit : start + len ≤ N) (f : Nat → α) (m : Nat → α) (i : Nat) :
    writeRange N f start len m i = if start ≤ i ∧ i < start + len then f (i - start) else m i := by
  by_cases hi : start ≤ i ∧ i < start + len
  · rw [if_pos hi]
    refine writeRange_of_last (by omega) ?_ fun j h1 h2 => ?_
    · rw [Nat.mod_eq_of_lt (by omega)]; omega
    · rw [Nat.mod_eq_of_lt (by omega)]; omega
  · rw [if_neg hi]
    refine writeRange_of_forall_ne fun k hk => ?_
    rw [Nat.mod_eq_of_lt (by omega)]; omega

/-! ## Whole segments -/

/-- Filling the first `len` cells of an aligned segment, one cell at a time. -/
theorem writeRange_segment_prefix {N n p : Nat} (hn : 0 < n) (hN : p * n + n ≤ N) (f : Nat → α) (m : Nat → α) :
    ∀ len, len ≤ n → writeRange N f (p * n) len m =
      fun a => if a / n = p ∧ a % n < len then f (a % n) else m a
  | 0, _ => by simp
  | len + 1, h => by
    rw [writeRange_succ, writeRange_segment_prefix hn hN f m len (by omega),
      Nat.mod_eq_of_lt (by omega : p * n + len < N)]
    funext a
    have hda : a / n * n + a % n = a := Nat.div_add_mod' a n
    -- the cell just stored, another cell of the segment, or one outside
    by_cases ha : a = p * n + len
    · subst ha
      have h1 : (p * n + len) / n = p := by
        rw [Nat.add_comm, Nat.add_mul_div_right _ _ hn, Nat.div_eq_of_lt (by omega), Nat.zero_add]
      have h2 : (p * n + len) % n = len := by
        rw [Nat.mul_add_mod', Nat.mod_eq_of_lt (by omega)]
      simp [h1, h2]
    · rw [Function.update_of_ne ha]
      by_cases hp : a / n = p
      · have : a % n ≠ len := fun e => ha (by rw [← hda, hp, e])
        have : (a % n < len) ↔ (a % n < len + 1) := by omega
        simp [hp, this]
      · simp [hp]

/-- Filling an aligned segment cell by cell replaces it. -/
theorem writeRange_segment {n P : Nat} (hn : 0 < n) (hP : 0 < P) (p : Nat) (f : Nat → α) (m : Nat → α) :
    writeRange (P * n) f (p * n) n m = setSegment n (p % P) f m := by
  have hp : p % P < P := Nat.mod_lt p hP
  have hN : p % P * n + n ≤ P * n := by
    calc p % P * n + n = (p % P + 1) * n := by ring
      _ ≤ P * n := Nat.mul_le_mul_right n hp
  have hmod : p * n % (P * n) = p % P * n % (P * n) := by
    rw [Nat.mul_mod_mul_right, Nat.mul_mod_mul_right, Nat.mod_mod]
  rw [writeRange_mod f hmod, writeRange_segment_prefix hn hN f m n (le_refl n)]
  funext a
  simp [setSegment, Nat.mod_lt a hn]

/-- Filling consecutive aligned segments replaces them in order. -/
theorem writeRange_segments {n P : Nat} (hn : 0 < n) (hP : 0 < P) (p : Nat) (f : Nat → α) (m : Nat → α) :
    ∀ k, writeRange (P * n) f (p * n) (k * n) m = setSegments n P (fun j i => f (j * n + i)) p k m
  | 0 => by simp [setSegments]
  | k + 1 => by
    rw [Nat.succ_mul, writeRange_add, writeRange_segments hn hP p f m k, ← Nat.add_mul,
      writeRange_segment hn hP]
    rfl

/-- Only the first `n` cells of an image matter. -/
theorem setSegment_congr {n p : Nat} {img img' : Nat → α} (hn : 0 < n) (h : ∀ i < n, img i = img' i)
    (m : Nat → α) : setSegment n p img m = setSegment n p img' m := by
  funext a
  simp only [setSegment]
  rw [h _ (Nat.mod_lt a hn)]

/-- The images of the segments beyond the `k`-th do not matter, nor do their cells beyond `n`. -/
theorem setSegments_congr {n P : Nat} {img img' : Nat → Nat → α} {p : Nat} (hn : 0 < n) {k : Nat}
    (h : ∀ j < k, ∀ i < n, img j i = img' j i) (m : Nat → α) :
    setSegments n P img p k m = setSegments n P img' p k m := by
  induction k with
  | zero => rfl
  | succ k ih =>
    simp only [setSegments]
    rw [ih fun j hj => h j (by omega), setSegment_congr hn (h k (by omega))]

/-- What consecutive segments filled with one value leave at an index. -/
theorem setSegments_const (n P : Nat) (c : α) (p : Nat) (m : Nat → α) (a : Nat) : ∀ k,
    setSegments n P (fun _ _ => c) p k m a = if ∃ j < k, (p + j) % P = a / n then c else m a
  | 0 => by simp [setSegments]
  | k + 1 => by
    rw [setSegments, setSegment, setSegments_const n P c p m a k]
    by_cases hk : a / n = (p + k) % P
    · rw [if_pos hk, if_pos ⟨k, Nat.lt_succ_self k, hk.symm⟩]
    · rw [if_neg hk]
      refine if_congr ⟨?_, ?_⟩ rfl rfl
      · rintro ⟨j, hj, ha⟩
        exact ⟨j, Nat.lt_succ_of_lt hj, ha⟩
      · rintro ⟨j, hj, ha⟩
        rcases Nat.lt_succ_iff_lt_or_eq.1 hj with hj | rfl
        · exact ⟨j, hj, ha⟩
        · exact absurd ha.symm hk

/-! ## Stores of segments -/

/-- An aligned segment, by its length and number, and what is stored in it. -/
structure Segment (α : Type*) where
  size : Nat
  index : Nat
  image : Nat → α

namespace Segment

def store (w : Segment α) (m : Nat → α) : Nat → α := setSegment w.size w.index w.image m

def Covers (w : Segment α) (a : Nat) : Prop := a / w.size = w.index

instance (w : Segment α) : DecidablePred w.Covers := fun a => inferInstanceAs (Decidable (a / w.size = w.index))

/-- What is stored at a cell it covers. -/
def value (w : Segment α) (a : Nat) : α := w.image (a % w.size)

theorem store_of_covers {w : Segment α} {a : Nat} (h : w.Covers a) (m : Nat → α) : w.store m a = w.value a :=
  if_pos h

theorem store_of_not_covers {w : Segment α} {a : Nat} (h : ¬ w.Covers a) (m : Nat → α) : w.store m a = m a :=
  if_neg h

end Segment

/-- Store segments, possibly of different sizes, one after the other. -/
def storeSegments (ws : List (Segment α)) (m : Nat → α) : Nat → α := ws.foldl (fun m w => w.store m) m

@[simp] theorem storeSegments_nil (m : Nat → α) : storeSegments [] m = m := rfl

theorem storeSegments_cons (w : Segment α) (ws : List (Segment α)) (m : Nat → α) :
    storeSegments (w :: ws) m = storeSegments ws (w.store m) := rfl

theorem storeSegments_append (ws vs : List (Segment α)) (m : Nat → α) :
    storeSegments (ws ++ vs) m = storeSegments vs (storeSegments ws m) :=
  List.foldl_append

/-- Consecutive segments, as a list of stores. -/
theorem setSegments_eq_store (n P : Nat) (img : Nat → Nat → α) (p : Nat) (m : Nat → α) : ∀ k,
    setSegments n P img p k m = storeSegments ((List.range k).map fun j => ⟨n, (p + j) % P, img j⟩) m
  | 0 => rfl
  | k + 1 => by
    rw [setSegments, setSegments_eq_store n P img p m k, List.range_succ, List.map_append, storeSegments_append]
    rfl

/-- A cell no segment covers keeps its value. -/
theorem storeSegments_of_none {ws : List (Segment α)} {a : Nat} (h : ∀ w ∈ ws, ¬ w.Covers a) (m : Nat → α) :
    storeSegments ws m a = m a := by
  induction ws generalizing m with
  | nil => rfl
  | cons w ws ih =>
    rw [storeSegments_cons, ih fun v hv => h v (List.mem_cons_of_mem w hv)]
    exact Segment.store_of_not_covers (h w List.mem_cons_self) m

/-- A cell holds what the last segment that covers it stores there. -/
theorem storeSegments_of_last {ws vs : List (Segment α)} {w : Segment α} {a : Nat} (hw : w.Covers a)
    (hlast : ∀ v ∈ vs, ¬ v.Covers a) (m : Nat → α) : storeSegments (ws ++ w :: vs) m a = w.value a := by
  rw [storeSegments_append, storeSegments_cons, storeSegments_of_none hlast]
  exact Segment.store_of_covers hw _

/-- The last of the segments that covers the cell. -/
def lastCover (ws : List (Segment α)) (a : Nat) : Option (Segment α) := ws.reverse.find? fun w => decide (w.Covers a)

/-- A cell holds what the last segment that covers it stores there, or what it held. -/
theorem storeSegments_apply (ws : List (Segment α)) (m : Nat → α) (a : Nat) :
    storeSegments ws m a = (lastCover ws a).elim (m a) fun w => w.value a := by
  rcases h : lastCover ws a with _ | w
  · refine storeSegments_of_none (fun w hw hcovers => ?_) m
    exact absurd (decide_eq_true hcovers) (List.find?_eq_none.1 h w (List.mem_reverse.2 hw))
  · obtain ⟨hcovers, vs, us, hws, hvs⟩ := List.find?_eq_some_iff_append.1 h
    rw [List.reverse_eq_append_iff, List.reverse_cons, List.append_assoc] at hws
    rw [hws]
    refine storeSegments_of_last (of_decide_eq_true hcovers) (fun v hv hcovers' => ?_) m
    have hnot := hvs v (List.mem_reverse.1 hv)
    rw [decide_eq_true hcovers'] at hnot
    cases hnot

end RingMem
