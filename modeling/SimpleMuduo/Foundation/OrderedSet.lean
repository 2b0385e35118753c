import Mathlib.Data.List.Sort
import Mathlib.Order.Defs.LinearOrder
import Mathlib.Tactic.Lemma

/-!
# Ordered sets

A finite set over a linear order, kept as the list of its elements in increasing order, which is
also the order in which an iterator visits them.  `before x` and `notBefore x` are the two halves
into which the lower bound of `x` cuts the set.
-/

namespace SimpleMuduo

/-- A finite set with its elements in increasing order. -/
structure OrderedSet (α : Type*) [LinearOrder α] where
  toList : List α
  sorted : toList.Pairwise (· ≤ ·)
  nodup : toList.Nodup

namespace OrderedSet

variable {α : Type*} [LinearOrder α]

instance : Membership α (OrderedSet α) := ⟨fun s x => x ∈ s.toList⟩

instance (x : α) (s : OrderedSet α) : Decidable (x ∈ s) :=
  inferInstanceAs (Decidable (x ∈ s.toList))

lemma mem_toList {x : α} {s : OrderedSet α} : x ∈ s.toList ↔ x ∈ s := Iff.rfl

/-- The empty set. -/
def empty : OrderedSet α := ⟨[], List.Pairwise.nil, List.nodup_nil⟩

lemma notMem_empty (x : α) : x ∉ (empty : OrderedSet α) := List.not_mem_nil

/-- The number of elements. -/
def size (s : OrderedSet α) : ℕ := s.toList.length

/-- The set with the element `x`, which it may have already. -/
def insert (x : α) (s : OrderedSet α) : OrderedSet α :=
  if h : x ∈ s then s
  else
    ⟨s.toList.orderedInsert (· ≤ ·) x, s.sorted.orderedInsert x _,
      (List.perm_orderedInsert _ x _).nodup_iff.mpr (List.nodup_cons.mpr ⟨h, s.nodup⟩)⟩

/-- The set without the element `x`. -/
def erase (s : OrderedSet α) (x : α) : OrderedSet α :=
  ⟨s.toList.erase x, s.sorted.sublist List.erase_sublist, s.nodup.erase x⟩

/-- The elements less than `x`. -/
def before (s : OrderedSet α) (x : α) : List α := s.toList.takeWhile (· < x)

/-- The set of the elements from the first one on that is not less than `x`. -/
def notBefore (s : OrderedSet α) (x : α) : OrderedSet α :=
  ⟨s.toList.dropWhile (· < x), s.sorted.sublist (List.dropWhile_sublist _),
    s.nodup.sublist (List.dropWhile_sublist _)⟩

variable {s : OrderedSet α} {x y : α}

/-- Inserting a new element adds it to the list. -/
lemma insert_perm (h : x ∉ s) : (s.insert x).toList.Perm (x :: s.toList) := by
  rw [insert, dif_neg h]
  exact List.perm_orderedInsert _ x _

lemma mem_insert : y ∈ s.insert x ↔ y = x ∨ y ∈ s := by
  by_cases h : x ∈ s
  · rw [insert, dif_pos h]
    constructor
    · exact Or.inr
    · rintro (rfl | hy)
      · exact h
      · exact hy
  · rw [← mem_toList, (insert_perm h).mem_iff, List.mem_cons, mem_toList]

/-- Erasing an element takes it from the list. -/
lemma erase_perm (h : x ∈ s) : s.toList.Perm (x :: (s.erase x).toList) := List.perm_cons_erase h

lemma mem_erase : y ∈ s.erase x ↔ y ≠ x ∧ y ∈ s := s.nodup.mem_erase_iff

/-- The lower bound cuts the list into two. -/
lemma before_append_notBefore (s : OrderedSet α) (x : α) :
    s.before x ++ (s.notBefore x).toList = s.toList := List.takeWhile_append_dropWhile

lemma mem_before_or_mem_notBefore (x : α) (h : y ∈ s) : y ∈ s.before x ∨ y ∈ s.notBefore x := by
  rw [← mem_toList, ← s.before_append_notBefore x] at h
  exact List.mem_append.mp h

lemma notMem_notBefore_of_mem_before (h : y ∈ s.before x) : y ∉ s.notBefore x := by
  have hnodup := s.nodup
  rw [← s.before_append_notBefore x] at hnodup
  exact List.disjoint_of_nodup_append hnodup h

/-- In an increasing list the elements less than `x` come first, by induction on the list. -/
lemma cut_eq_filter {l : List α} (h : l.Pairwise (· ≤ ·)) (x : α) :
    l.takeWhile (· < x) = l.filter (· < x) ∧ l.dropWhile (· < x) = l.filter (x ≤ ·) := by
  induction l with
  | nil => exact ⟨rfl, rfl⟩
  | cons y l ih =>
    obtain ⟨hy, hl⟩ := List.pairwise_cons.mp h
    obtain ⟨htake, hdrop⟩ := ih hl
    by_cases hlt : y < x
    · have hnot : ¬ x ≤ y := not_le.mpr hlt
      simp [hlt, hnot, htake, hdrop]
    · have hle : x ≤ y := not_lt.mp hlt
      have hrest : ∀ z ∈ l, x ≤ z := fun z hz => hle.trans (hy z hz)
      have hnone : l.filter (· < x) = [] := List.filter_eq_nil_iff.mpr fun z hz => by
        simpa using hrest z hz
      have hall : l.filter (x ≤ ·) = l := List.filter_eq_self.mpr fun z hz => by
        simpa using hrest z hz
      simp [hlt, hle, hnone, hall]

lemma before_eq_filter (s : OrderedSet α) (x : α) : s.before x = s.toList.filter (· < x) :=
  (cut_eq_filter s.sorted x).1

lemma notBefore_eq_filter (s : OrderedSet α) (x : α) :
    (s.notBefore x).toList = s.toList.filter (x ≤ ·) := (cut_eq_filter s.sorted x).2

lemma mem_of_mem_notBefore (h : y ∈ s.notBefore x) : y ∈ s := by
  rw [← mem_toList, ← s.before_append_notBefore x]
  exact List.mem_append_right _ h

lemma mem_of_mem_before (h : y ∈ s.before x) : y ∈ s := by
  rw [← mem_toList, ← s.before_append_notBefore x]
  exact List.mem_append_left _ h

end OrderedSet

end SimpleMuduo
