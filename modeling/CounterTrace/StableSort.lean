/-!
# Stable sorting

Items are sorted by inserting them one by one, each before the first item it does not
exceed.  Items that do not exceed each other keep their order, which is what makes the
sort stable.
-/

namespace CounterTrace

variable {α : Type}

/-- Puts an item before the first item of a list that it does not exceed. -/
def insertBy (le : α → α → Bool) (x : α) : List α → List α
  | [] => [x]
  | y :: ys => if le x y then x :: y :: ys else y :: insertBy le x ys

/-- The items of a list in ascending order, items of equal rank in the order of the list. -/
def sortBy (le : α → α → Bool) (l : List α) : List α :=
  l.foldr (insertBy le) []

@[simp] theorem sortBy_nil (le : α → α → Bool) : sortBy le [] = [] := rfl

@[simp] theorem sortBy_cons (le : α → α → Bool) (x : α) (l : List α) :
    sortBy le (x :: l) = insertBy le x (sortBy le l) := rfl

theorem insertBy_perm (le : α → α → Bool) (x : α) (l : List α) :
    (insertBy le x l).Perm (x :: l) := by
  induction l with
  | nil => exact .refl _
  | cons y ys ih =>
    unfold insertBy
    split
    · exact .refl _
    · exact (ih.cons y).trans (.swap x y ys)

/-- Sorting keeps every item, and as often as it was there. -/
theorem sortBy_perm (le : α → α → Bool) (l : List α) : (sortBy le l).Perm l := by
  induction l with
  | nil => exact .refl _
  | cons x l ih => exact (insertBy_perm le x _).trans (ih.cons x)

@[simp] theorem mem_sortBy {le : α → α → Bool} {x : α} {l : List α} : x ∈ sortBy le l ↔ x ∈ l :=
  (sortBy_perm le l).mem_iff

@[simp] theorem length_sortBy (le : α → α → Bool) (l : List α) :
    (sortBy le l).length = l.length :=
  (sortBy_perm le l).length_eq

theorem pairwise_insertBy {le : α → α → Bool}
    (trans : ∀ a b c, le a b = true → le b c = true → le a c = true)
    (total : ∀ a b, le a b = true ∨ le b a = true) {x : α} {l : List α}
    (h : l.Pairwise fun a b => le a b = true) :
    (insertBy le x l).Pairwise fun a b => le a b = true := by
  induction l with
  | nil => simp [insertBy]
  | cons y ys ih =>
    rw [List.pairwise_cons] at h
    unfold insertBy
    split
    · rename_i hxy
      refine List.pairwise_cons.2 ⟨fun z hz => ?_, List.pairwise_cons.2 h⟩
      rcases List.mem_cons.1 hz with rfl | hz
      · exact hxy
      · exact trans _ _ _ hxy (h.1 z hz)
    · rename_i hxy
      refine List.pairwise_cons.2 ⟨fun z hz => ?_, ih h.2⟩
      rcases List.mem_cons.1 ((insertBy_perm le x ys).mem_iff.1 hz) with rfl | hz
      · exact (total z y).resolve_left hxy
      · exact h.1 z hz

/-- Sorting by a total order puts the items in order. -/
theorem pairwise_sortBy {le : α → α → Bool}
    (trans : ∀ a b c, le a b = true → le b c = true → le a c = true)
    (total : ∀ a b, le a b = true ∨ le b a = true) (l : List α) :
    (sortBy le l).Pairwise fun a b => le a b = true := by
  induction l with
  | nil => exact .nil
  | cons x l ih => exact pairwise_insertBy trans total ih

/-- A list that is in order already is left alone. -/
theorem sortBy_eq_self {le : α → α → Bool} {l : List α}
    (h : l.Pairwise fun a b => le a b = true) : sortBy le l = l := by
  induction l with
  | nil => rfl
  | cons x l ih =>
    rw [List.pairwise_cons] at h
    rw [sortBy_cons, ih h.2]
    cases l with
    | nil => rfl
    | cons y ys => simp [insertBy, h.1 y (by simp)]

theorem filter_insertBy {le : α → α → Bool} (p : α → Bool)
    (trans : ∀ a b c, le a b = true → le b c = true → le a c = true) {x : α} {l : List α}
    (h : l.Pairwise fun a b => le a b = true) :
    (insertBy le x l).filter p =
      if p x then insertBy le x (l.filter p) else l.filter p := by
  induction l with
  | nil => by_cases hx : p x <;> simp [insertBy, hx]
  | cons y ys ih =>
    have hy := List.pairwise_cons.1 h
    by_cases hxy : le x y = true
    · have front : ∀ l' : List α, (∀ z ∈ l', le x z = true) → insertBy le x l' = x :: l' := by
        intro l' hl'
        cases l' with
        | nil => rfl
        | cons z zs => simp [insertBy, hl' z (by simp)]
      have below : ∀ z ∈ (y :: ys).filter p, le x z = true := by
        intro z hz
        rcases List.mem_cons.1 (List.mem_filter.1 hz).1 with rfl | hz
        · exact hxy
        · exact trans _ _ _ hxy (hy.1 z hz)
      rw [insertBy, if_pos hxy, front _ below, List.filter_cons]
    · by_cases py : p y = true <;> by_cases px : p x = true <;>
        simp [insertBy, hxy, py, px, ih hy.2]

/-- Sorting commutes with leaving items out.  For the items of one rank this says that they
keep their order. -/
theorem filter_sortBy {le : α → α → Bool} (p : α → Bool)
    (trans : ∀ a b c, le a b = true → le b c = true → le a c = true)
    (total : ∀ a b, le a b = true ∨ le b a = true) (l : List α) :
    (sortBy le l).filter p = sortBy le (l.filter p) := by
  induction l with
  | nil => rfl
  | cons x l ih =>
    rw [sortBy_cons, filter_insertBy p trans (pairwise_sortBy trans total l), ih,
      List.filter_cons]
    split <;> rfl

/-- The second list has the items of the first in ascending rank, and those of one rank in the
order that they have there. -/
structure IsStableSort (rank : α → Nat) (l sorted : List α) : Prop where
  perm : sorted.Perm l
  ascending : sorted.Pairwise fun a b => rank a ≤ rank b
  tied : ∀ n, sorted.filter (fun a => decide (rank a = n)) = l.filter fun a => decide (rank a = n)

/-- Leaving items out before or after sorting by a rank is the same. -/
theorem filter_sortBy_rank (rank : α → Nat) (p : α → Bool) (l : List α) :
    (sortBy (fun a b => decide (rank a ≤ rank b)) l).filter p
      = sortBy (fun a b => decide (rank a ≤ rank b)) (l.filter p) :=
  filter_sortBy p (by simp; omega) (by simp; omega) l

/-- **Sorting by a rank is stable.** -/
theorem isStableSort_sortBy (rank : α → Nat) (l : List α) :
    IsStableSort rank l (sortBy (fun a b => decide (rank a ≤ rank b)) l) where
  perm := sortBy_perm _ l
  ascending := by
    have ordered : (sortBy (fun a b => decide (rank a ≤ rank b)) l).Pairwise
        fun a b => decide (rank a ≤ rank b) = true :=
      pairwise_sortBy (by simp; omega) (by simp; omega) l
    exact ordered.imp of_decide_eq_true
  tied n := by
    rw [filter_sortBy_rank]
    refine sortBy_eq_self (List.pairwise_of_forall_mem_list fun a ha b hb => ?_)
    have rank_a := of_decide_eq_true (List.mem_filter.1 ha).2
    have rank_b := of_decide_eq_true (List.mem_filter.1 hb).2
    simp [rank_a, rank_b]

section Reordering

variable {rank : α → Nat} {l l' sorted sorted' : List α}

/-- The ranks come out in one order, whatever the order of the items. -/
theorem IsStableSort.map_rank_eq (h : IsStableSort rank l sorted)
    (h' : IsStableSort rank l' sorted') (same : l.Perm l') :
    sorted.map rank = sorted'.map rank := by
  have perm : (sorted.map rank).Perm (sorted'.map rank) :=
    ((h.perm.trans same).trans h'.perm.symm).map rank
  have ascending : (sorted.map rank).Pairwise (· ≤ ·) := List.pairwise_map.2 h.ascending
  have ascending' : (sorted'.map rank).Pairwise (· ≤ ·) := List.pairwise_map.2 h'.ascending
  apply List.Perm.eq_of_pairwise _ ascending ascending' perm
  intro m n _ _ le ge
  exact Nat.le_antisymm le ge

/-- Items of distinct ranks come out in one order, whatever the order in which they are given. -/
theorem IsStableSort.eq_of_distinct (h : IsStableSort rank l sorted)
    (h' : IsStableSort rank l' sorted') (same : l.Perm l')
    (distinct : l.Pairwise fun a b => rank a ≠ rank b) : sorted = sorted' := by
  have perm : sorted.Perm sorted' := (h.perm.trans same).trans h'.perm.symm
  have apart : sorted.Pairwise fun a b => rank a ≠ rank b :=
    h.perm.symm.pairwise distinct fun ne => ne.symm
  have apart' : sorted'.Pairwise fun a b => rank a ≠ rank b :=
    perm.pairwise apart fun ne => ne.symm
  -- Both lists are in strictly ascending order, so no two items are in the way of each other.
  have strict : sorted.Pairwise fun a b => rank a < rank b :=
    h.ascending.imp₂ (fun _ _ le ne => Nat.lt_of_le_of_ne le ne) apart
  have strict' : sorted'.Pairwise fun a b => rank a < rank b :=
    h'.ascending.imp₂ (fun _ _ le ne => Nat.lt_of_le_of_ne le ne) apart'
  apply List.Perm.eq_of_pairwise _ strict strict' perm
  intro a b _ _ less greater
  exact absurd less (Nat.lt_asymm greater)

end Reordering

end CounterTrace
