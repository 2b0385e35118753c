import Mathlib.Data.List.Basic
import Mathlib.Tactic.Lemma

/-!
# Slot tables

A table with a fixed number of slots, each of which is free or holds an object, as a list of
options.  Objects are put into the first free slot.  The number of used slots changes by one when
an object is put into a free slot, or taken out of the slot it is in.
-/

namespace SimpleMuduo

namespace SlotTable

variable {α : Type*} {t : List (Option α)} {n : ℕ} {a : α}

/-- The first free slot. -/
def firstFree (t : List (Option α)) : Option ℕ := t.findIdx? Option.isNone

/-- The number of used slots. -/
def used (t : List (Option α)) : ℕ := t.countP Option.isSome

/-- The slot is free. -/
def FreeAt (t : List (Option α)) (n : ℕ) : Prop := t[n]? = some none

lemma FreeAt.lt (h : FreeAt t n) : n < t.length := (List.getElem?_eq_some_iff.mp h).1

/-- The first free slot is free. -/
lemma freeAt_of_firstFree (h : firstFree t = some n) : FreeAt t n := by
  obtain ⟨hlt, hnone, -⟩ := List.findIdx?_eq_some_iff_getElem.mp h
  rw [FreeAt, List.getElem?_eq_getElem hlt, Option.isNone_iff_eq_none.mp hnone]

/-- Where a slot is free there is a first one. -/
lemma exists_firstFree (h : FreeAt t n) : ∃ m, firstFree t = some m ∧ FreeAt t m := by
  cases hfirst : firstFree t with
  | none =>
    have hfull := List.findIdx?_eq_none_iff.mp hfirst none (List.mem_of_getElem? h)
    cases hfull
  | some m => exact ⟨m, rfl, freeAt_of_firstFree hfirst⟩

/-- A table is full when all its slots are used. -/
lemma firstFree_eq_none_iff : firstFree t = none ↔ used t = t.length := by
  rw [firstFree, List.findIdx?_eq_none_iff, used, List.countP_eq_length]
  refine forall₂_congr fun o _ => ?_
  cases o <;> simp

/-- A table with a free slot is not full. -/
lemma used_lt (h : FreeAt t n) : used t < t.length := by
  refine Nat.lt_of_le_of_ne List.countP_le_length fun heq => ?_
  obtain ⟨m, hfirst, -⟩ := exists_firstFree h
  rw [firstFree_eq_none_iff.mpr heq] at hfirst
  cases hfirst

/-- An object is put into a free slot. -/
lemma used_put (h : FreeAt t n) (a : α) : used (t.set n (some a)) = used t + 1 := by
  obtain ⟨hlt, hnone⟩ := List.getElem?_eq_some_iff.mp h
  rw [used, List.countP_set hlt, hnone]
  simp [used]

/-- The object in a slot is taken out. -/
lemma used_release (h : t[n]? = some (some a)) : used (t.set n none) + 1 = used t := by
  obtain ⟨hlt, hsome⟩ := List.getElem?_eq_some_iff.mp h
  have hpos : 0 < used t := List.countP_pos_iff.mpr ⟨some a, List.mem_of_getElem? h, rfl⟩
  rw [used, List.countP_set hlt, hsome]
  simp only [Option.isSome_some, if_true, Option.isSome_none, Bool.false_eq_true, if_false]
  rw [used] at hpos
  rw [used]
  omega

end SlotTable

end SimpleMuduo
