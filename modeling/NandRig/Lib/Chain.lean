/-
Linked lists in a heap: `Linked next p l` says that the nodes from the pointer `p` to NULL are
`l`. Such a list is determined by its pointer, never repeats a node, and shares all that follows
with any list it shares a node with. `walk` is the loop that visits the nodes of a list under a
bound on their number, so that it ends on cyclic graphs too.
-/
import Mathlib.Tactic

namespace Chain

variable {α χ : Type*}

/-! ## Lists of nodes -/

/-- The nodes from a pointer to NULL, in order; `next a` is the pointer stored in node `a`, if
there is such a node. -/
inductive Linked (next : α → Option (Option α)) : Option α → List α → Prop
  | nil : Linked next none []
  | cons {a : α} {p : Option α} {l : List α} (h : next a = some p) (t : Linked next p l) :
      Linked next (some a) (a :: l)

variable {next next' : α → Option (Option α)} {p q : Option α} {l l' : List α}

theorem Linked.unique (h : Linked next p l) (h' : Linked next p l') : l = l' := by
  induction h generalizing l' with
  | nil => cases h'; rfl
  | cons hn _ ih =>
    cases h' with
    | cons hn' t' =>
      rw [hn] at hn'
      cases hn'
      rw [ih t']

/-- A node of the list heads a list itself. -/
theorem Linked.suffix {l₁ l₂ : List α} {a : α} (h : Linked next p (l₁ ++ a :: l₂)) :
    Linked next (some a) (a :: l₂) := by
  induction l₁ generalizing p with
  | nil => cases h with | cons hn t => exact .cons hn t
  | cons b l₁ ih => cases h with | cons hn t => exact ih t

theorem Linked.nodup (h : Linked next p l) : l.Nodup := by
  induction h with
  | nil => exact List.nodup_nil
  | @cons a p l hn t ih =>
    refine List.nodup_cons.2 ⟨?_, ih⟩
    intro ha
    -- a node met again would head two lists of different lengths
    obtain ⟨l₁, l₂, rfl⟩ := List.append_of_mem ha
    have := t.suffix.unique (.cons hn t)
    have := congrArg List.length this
    simp only [List.length_cons, List.length_append] at this
    omega

/-- Two lists with a node in common end in the same node. -/
theorem Linked.getLast?_eq (h : Linked next p l) (h' : Linked next q l') {a : α} (ha : a ∈ l) (ha' : a ∈ l') :
    l.getLast? = l'.getLast? := by
  obtain ⟨l₁, l₂, rfl⟩ := List.append_of_mem ha
  obtain ⟨l₁', l₂', rfl⟩ := List.append_of_mem ha'
  have := h.suffix.unique h'.suffix
  rw [List.getLast?_append, List.getLast?_append, this, List.getLast?_cons]
  rfl

/-- Only the links of the nodes in the list matter. -/
theorem Linked.congr (h : Linked next p l) (hn : ∀ a ∈ l, next' a = next a) : Linked next' p l := by
  induction h with
  | nil => exact .nil
  | @cons a p l hna t ih =>
    exact .cons ((hn a (by simp)).trans hna) (ih fun b hb => hn b (by simp [hb]))

theorem Linked.head? (h : Linked next p l) : l.head? = p := by
  cases h <;> rfl

/-- The `i`-th node is the first one only for `i = 0`, and the last one only at the end. -/
theorem Linked.getElem_eq_iff (h : Linked next p l) {i : Nat} (hi : i < l.length) :
    (p = some l[i] ↔ i = 0) ∧ (l.getLast? = some l[i] ↔ i + 1 = l.length) := by
  have hnd := h.nodup
  constructor
  · rw [← h.head?, List.head?_eq_getElem?, List.getElem?_eq_getElem (by omega), Option.some.injEq,
      hnd.getElem_inj_iff]
    omega
  · rw [List.getLast?_eq_getElem?, List.getElem?_eq_getElem (by omega), Option.some.injEq, hnd.getElem_inj_iff]
    omega

/-! ## The bounded walk -/

/-- `for (p = first; p != NULL; p = next) { if (++count > max) fail; visit p; last = p; }`, where
a visit fails or finds the next pointer: the count and the last node at the end. -/
def walk (max : Nat) (limit : χ) (visit : α → Except χ (Option α)) :
    (p : Option α) → (count : Nat) → (last : Option α) → Except χ (Nat × Option α)
  | none, count, last => .ok (count, last)
  | some a, count, _ =>
    if count + 1 > max then .error limit
    else match visit a with
      | .error x => .error x
      | .ok p => walk max limit visit p (count + 1) (some a)
termination_by _ count => max - count

variable {max : Nat} {limit : χ} {visit : α → Except χ (Option α)}

/-- The walk ends well exactly when the pointer heads a list within the bound whose nodes all pass. -/
theorem walk_ok_iff {count n : Nat} {last z : Option α} (hc : count ≤ max) :
    walk max limit visit p count last = .ok (n, z) ↔
      ∃ l, Linked (fun a => (visit a).toOption) p l ∧ n = count + l.length ∧ n ≤ max ∧
        z = l.getLast?.or last := by
  induction p, count, last using walk.induct max visit with
  | case1 count last =>
    rw [walk, Except.ok.injEq, Prod.mk.injEq]
    constructor
    · rintro ⟨rfl, rfl⟩
      exact ⟨[], .nil, rfl, hc, rfl⟩
    · rintro ⟨l, hl, hn, _, hz⟩
      cases hl
      exact ⟨hn.symm, hz.symm⟩
  | case2 last a count hgt =>
    rw [walk, if_pos hgt]
    constructor
    · intro h
      cases h
    · rintro ⟨l, hl, rfl, hmax, _⟩
      cases hl with
      | cons hn t => simp only [List.length_cons] at hmax; omega
  | case3 last a count hgt x hx =>
    rw [walk, if_neg hgt, hx]
    constructor
    · intro h
      cases h
    · rintro ⟨l, hl, _⟩
      cases hl with
      | cons hn t => rw [hx] at hn; cases hn
  | case4 last a count hgt p hp ih =>
    rw [walk, if_neg hgt, hp]
    dsimp only
    rw [ih (by omega)]
    constructor
    · rintro ⟨l, hl, hn, hmax, rfl⟩
      refine ⟨a :: l, .cons (by rw [hp]; rfl) hl, by rw [List.length_cons]; omega, hmax, ?_⟩
      cases l <;> simp [List.getLast?_cons]
    · rintro ⟨l, hl, hn, hmax, rfl⟩
      cases hl with
      | @cons _ p' l hna t =>
        rw [hp] at hna
        cases hna
        refine ⟨l, t, by rw [hn, List.length_cons]; omega, hmax, ?_⟩
        cases l <;> simp [List.getLast?_cons]

/-- The walk fails by its bound or by one of the visits, at a node the links lead to. -/
theorem walk_error {I : α → Prop} (hvisit : ∀ a q, I a → visit a = .ok q → ∀ b ∈ q, I b) {x : χ}
    {count : Nat} {last : Option α} (hp : ∀ a ∈ p, I a) (h : walk max limit visit p count last = .error x) :
    x = limit ∨ ∃ a, I a ∧ visit a = .error x := by
  induction p, count, last using walk.induct max visit with
  | case1 count last => rw [walk] at h; cases h
  | case2 last a count hgt => rw [walk, if_pos hgt] at h; cases h; exact .inl rfl
  | case3 last a count hgt y hy =>
    rw [walk, if_neg hgt, hy] at h
    cases h
    exact .inr ⟨a, hp a rfl, hy⟩
  | case4 last a count hgt q hq ih =>
    rw [walk, if_neg hgt, hq] at h
    exact ih (hvisit a q (hp a rfl) hq) h

end Chain
