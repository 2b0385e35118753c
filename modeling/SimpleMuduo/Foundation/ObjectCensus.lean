import Mathlib.Data.List.Count
import Mathlib.Data.List.Perm.Basic
import Mathlib.Data.List.Nodup
import Mathlib.Logic.Function.Basic
import Mathlib.Tactic.Lemma

/-!
# A census of numbered objects

Objects of type `ο` live at addresses of a heap `π → Option ο`, and a program holds their addresses
in several places.  Every object has a number, numbers are issued one after the other, and a number
may be reserved for some time before its object is created.  `Census` says that every number that
has been issued is accounted for exactly once: it is reserved, or one of the held addresses is the
address of its object, or its object has been deleted.

The rules below say how the census changes when a number is reserved, and when an object is created,
deleted, or replaced by one with the same number.  Moving an address from one place to another
permutes the held addresses.
-/

namespace SimpleMuduo

variable {π ο : Type*} {number : ο → ℕ}

/-- The numbers of the objects at the given addresses. -/
def numbersAt (number : ο → ℕ) (heap : π → Option ο) (held : List π) : List ℕ :=
  held.filterMap fun p => (heap p).map number

/-- Every number below `issued` is accounted for exactly once, and the held addresses are the
addresses of objects. -/
structure Census (number : ο → ℕ) (issued : ℕ) (reserved : List ℕ) (heap : π → Option ο)
    (held : List π) (deleted : List ℕ) : Prop where
  live : ∀ p ∈ held, ∃ o, heap p = some o
  count : ∀ n, reserved.count n + (numbersAt number heap held).count n + deleted.count n =
    if n < issued then 1 else 0

section NumbersAt

variable {heap heap' : π → Option ο} {held held' : List π} {p : π} {o : ο} {n : ℕ}

lemma numbersAt_append :
    numbersAt number heap (held ++ held') =
      numbersAt number heap held ++ numbersAt number heap held' := List.filterMap_append

lemma numbersAt_cons (h : heap p = some o) :
    numbersAt number heap (p :: held) = number o :: numbersAt number heap held := by
  rw [numbersAt, List.filterMap_cons_some (by rw [h, Option.map_some])]
  rfl

lemma numbersAt_perm (h : held.Perm held') :
    (numbersAt number heap held).Perm (numbersAt number heap held') := h.filterMap _

lemma mem_numbersAt :
    n ∈ numbersAt number heap held ↔ ∃ p ∈ held, ∃ o, heap p = some o ∧ number o = n := by
  simp only [numbersAt, List.mem_filterMap, Option.map_eq_some_iff]

/-- Only the numbers at the held addresses matter. -/
lemma numbersAt_congr (h : ∀ p ∈ held, (heap' p).map number = (heap p).map number) :
    numbersAt number heap' held = numbersAt number heap held := List.filterMap_congr h

end NumbersAt

namespace Census

variable {issued : ℕ} {reserved deleted : List ℕ} {heap heap' : π → Option ο} {held held' : List π}
  {p q : π} {o o' : ο} {n : ℕ}

/-- Before the first number has been issued. -/
lemma empty (heap : π → Option ο) : Census number 0 [] heap [] [] := by
  constructor
  · intro p hp
    exact absurd hp List.not_mem_nil
  · intro n
    simp [numbersAt]

/-- The order of the held addresses does not matter. -/
lemma perm (h : Census number issued reserved heap held deleted) (hperm : held.Perm held') :
    Census number issued reserved heap held' deleted := by
  constructor
  · intro p hp
    exact h.live p (hperm.mem_iff.mpr hp)
  · intro n
    rw [← (numbersAt_perm hperm).count_eq]
    exact h.count n

/-- The addresses of two objects differ. -/
lemma nodup (h : Census number issued reserved heap held deleted) : held.Nodup := by
  have hnumbers : (numbersAt number heap held).Nodup := by
    refine List.nodup_iff_count_le_one.mpr fun n => ?_
    have hcount := h.count n
    split_ifs at hcount <;> omega
  have hlive := h.live
  clear h
  induction held with
  | nil => exact List.nodup_nil
  | cons p held ih =>
    obtain ⟨o, ho⟩ := hlive p List.mem_cons_self
    rw [numbersAt_cons ho, List.nodup_cons] at hnumbers
    refine List.nodup_cons.mpr ⟨fun hp => hnumbers.1 ?_, ?_⟩
    · exact mem_numbersAt.mpr ⟨p, hp, o, ho, rfl⟩
    · exact ih hnumbers.2 fun q hq => hlive q (List.mem_cons_of_mem p hq)

lemma count_pos (number : ο → ℕ) (hp : p ∈ held) (ho : heap p = some o) :
    0 < (numbersAt number heap held).count (number o) :=
  List.count_pos_iff.mpr (mem_numbersAt.mpr ⟨p, hp, o, ho, rfl⟩)

lemma number_lt (h : Census number issued reserved heap held deleted) (hp : p ∈ held)
    (ho : heap p = some o) : number o < issued := by
  have hcount := h.count (number o)
  have hpos := count_pos number hp ho
  split_ifs at hcount with hlt
  · exact hlt
  · omega

lemma reserved_lt (h : Census number issued reserved heap held deleted) (hn : n ∈ reserved) :
    n < issued := by
  have hcount := h.count n
  have hpos := List.count_pos_iff.mpr hn
  split_ifs at hcount with hlt
  · exact hlt
  · omega

/-- The object at a held address has not been deleted. -/
lemma not_deleted (h : Census number issued reserved heap held deleted) (hp : p ∈ held)
    (ho : heap p = some o) : number o ∉ deleted := by
  intro hdeleted
  have hcount := h.count (number o)
  have hpos := count_pos number hp ho
  have hpos' := List.count_pos_iff.mpr hdeleted
  split_ifs at hcount <;> omega

/-- The number of an object at a held address is not reserved any more. -/
lemma not_reserved (h : Census number issued reserved heap held deleted) (hp : p ∈ held)
    (ho : heap p = some o) : number o ∉ reserved := by
  intro hreserved
  have hcount := h.count (number o)
  have hpos := count_pos number hp ho
  have hpos' := List.count_pos_iff.mpr hreserved
  split_ifs at hcount <;> omega

/-- An object is held at one address. -/
lemma eq_of_number_eq (h : Census number issued reserved heap held deleted) (hp : p ∈ held)
    (hq : q ∈ held) (ho : heap p = some o) (ho' : heap q = some o') (heq : number o = number o') :
    p = q := by
  classical
  by_contra hne
  have hperm := List.perm_cons_erase hp
  have hq' : q ∈ held.erase p := (List.mem_erase_of_ne (Ne.symm hne)).mpr hq
  have hcount := (h.perm hperm).count (number o)
  have hpos := count_pos number hq' ho'
  rw [numbersAt_cons ho, List.count_cons_self] at hcount
  rw [heq] at hcount
  split_ifs at hcount <;> omega

/-- The next number is issued, and reserved. -/
lemma reserve (h : Census number issued reserved heap held deleted) :
    Census number (issued + 1) (issued :: reserved) heap held deleted := by
  constructor
  · exact h.live
  · intro n
    have hcount := h.count n
    rw [List.count_cons]
    by_cases hn : n = issued
    · subst hn
      rw [if_neg (Nat.lt_irrefl n)] at hcount
      rw [if_pos (Nat.lt_succ_self n), beq_self_eq_true, if_pos rfl]
      omega
    · have hbeq : (issued == n) = false := beq_eq_false_iff_ne.mpr (Ne.symm hn)
      have hlt : n < issued + 1 ↔ n < issued := by omega
      simp only [hbeq, hlt] at hcount ⊢
      exact hcount

/-- The order of the reserved numbers does not matter. -/
lemma reserved_perm {reserved' : List ℕ} (h : Census number issued reserved heap held deleted)
    (hperm : reserved.Perm reserved') : Census number issued reserved' heap held deleted := by
  constructor
  · exact h.live
  · intro n
    rw [← hperm.count_eq]
    exact h.count n

/-- The address of an object is not free. -/
lemma ne_of_free (h : Census number issued reserved heap held deleted) (hp : heap p = none)
    (hq : q ∈ held) : q ≠ p := by
  rintro rfl
  obtain ⟨o, ho⟩ := h.live q hq
  rw [hp] at ho
  cases ho

/-- The object of a reserved number is created at a free address. -/
lemma create [DecidableEq π] (h : Census number issued (number o :: reserved) heap held deleted)
    (hp : heap p = none) :
    Census number issued reserved (Function.update heap p (some o)) (p :: held) deleted := by
  constructor
  · intro q hq
    rcases List.mem_cons.mp hq with rfl | hq
    · exact ⟨o, Function.update_self ..⟩
    · rw [Function.update_of_ne (h.ne_of_free hp hq)]
      exact h.live q hq
  · intro n
    have hcount := h.count n
    rw [List.count_cons] at hcount
    rw [numbersAt_cons (Function.update_self ..),
      numbersAt_congr fun q hq => by rw [Function.update_of_ne (h.ne_of_free hp hq)],
      List.count_cons]
    omega

/-- The object at a held address is deleted. -/
lemma delete [DecidableEq π] (h : Census number issued reserved heap (p :: held) deleted)
    (ho : heap p = some o) :
    Census number issued reserved (Function.update heap p none) held (number o :: deleted) := by
  have hnot : ∀ q ∈ held, q ≠ p := by
    rintro q hq rfl
    exact (List.nodup_cons.mp h.nodup).1 hq
  constructor
  · intro q hq
    rw [Function.update_of_ne (hnot q hq)]
    exact h.live q (List.mem_cons_of_mem p hq)
  · intro n
    have hcount := h.count n
    rw [numbersAt_cons ho, List.count_cons] at hcount
    rw [numbersAt_congr fun q hq => by rw [Function.update_of_ne (hnot q hq)], List.count_cons]
    omega

/-- The object at an address is replaced by one with the same number. -/
lemma replace [DecidableEq π] (h : Census number issued reserved heap held deleted)
    (ho : heap p = some o) (hnumber : number o' = number o) :
    Census number issued reserved (Function.update heap p (some o')) held deleted := by
  constructor
  · intro q hq
    by_cases heq : q = p
    · subst heq
      exact ⟨o', Function.update_self ..⟩
    · rw [Function.update_of_ne heq]
      exact h.live q hq
  · intro n
    rw [numbersAt_congr fun q _ => ?_]
    · exact h.count n
    · by_cases heq : q = p
      · subst heq
        rw [Function.update_self, ho, Option.map_some, Option.map_some, hnumber]
      · rw [Function.update_of_ne heq]

end Census

end SimpleMuduo
