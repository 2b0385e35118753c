import Mathlib.Data.List.Basic
import Mathlib.Order.Nat
import Mathlib.Tactic.Lemma

/-!
# Copying inside a sequence

The two element copies of a dynamic array: `overwrite` stores elements that live outside the
array, and `copyWithin` moves a range of the array itself, one element at a time from the front,
so that an overlapping copy towards the front reads every element before it is overwritten.
`slice` is the range both are described by.
-/

namespace SimpleMuduo

variable {α : Type*}

/-- The `n` elements of `v` from index `i` on. -/
def slice (v : List α) (i n : ℕ) : List α := (v.drop i).take n

/-- Store `src` in `v` from index `pos` on. -/
def overwrite (v : List α) (pos : ℕ) (src : List α) : List α :=
  v.take pos ++ src ++ v.drop (pos + src.length)

/-- Copy one element of `v` from index `i` to index `j`. -/
def copyElement (v : List α) (i j : ℕ) : List α :=
  match v[i]? with
  | some x => v.set j x
  | none => v

/-- Copy `n` elements of `v` from index `first` to index `dest`, front to back. -/
def copyWithin (v : List α) (first dest : ℕ) : ℕ → List α
  | 0 => v
  | n + 1 => copyWithin (copyElement v first dest) (first + 1) (dest + 1) n

/-! ### Slices -/

/-- Reading a slice by index. -/
lemma slice_getElem? (v : List α) (i n k : ℕ) :
    (slice v i n)[k]? = if k < n then v[i + k]? else none := by
  rw [slice, List.getElem?_take]
  split <;> simp [*]

/-- A slice inside the array has the length asked for. -/
lemma slice_length {v : List α} {i n : ℕ} (h : i + n ≤ v.length) : (slice v i n).length = n := by
  rw [slice, List.length_take, List.length_drop]
  omega

/-- An empty slice. -/
@[simp] lemma slice_zero (v : List α) (i : ℕ) : slice v i 0 = [] := by simp [slice]

/-- A slice splits at every position inside it. -/
lemma slice_add (v : List α) (i m n : ℕ) :
    slice v i (m + n) = slice v i m ++ slice v (i + m) n := by
  simp only [slice, List.take_add, List.drop_drop]

/-- Dropping elements of a slice moves its start. -/
lemma slice_drop (v : List α) (i n k : ℕ) :
    (slice v i n).drop k = slice v (i + k) (n - k) := by
  simp only [slice, List.drop_take, List.drop_drop]

/-- A slice that ends inside the first of two arrays does not see the second. -/
lemma slice_append_left {v w : List α} {i n : ℕ} (h : i + n ≤ v.length) :
    slice (v ++ w) i n = slice v i n := by
  rw [slice, slice, List.drop_append_of_le_length (by omega),
    List.take_append_of_le_length (by rw [List.length_drop]; omega)]

/-! ### Storing elements from outside -/

/-- Storing inside the array keeps its length. -/
lemma overwrite_length {v src : List α} {pos : ℕ} (h : pos + src.length ≤ v.length) :
    (overwrite v pos src).length = v.length := by
  simp only [overwrite, List.length_append, List.length_take, List.length_drop]
  omega

/-- The stored elements are where they were stored. -/
lemma slice_overwrite_self {v src : List α} {pos : ℕ} (h : pos ≤ v.length) :
    slice (overwrite v pos src) pos src.length = src := by
  have hlen : (v.take pos).length = pos := by rw [List.length_take]; omega
  rw [slice, overwrite, List.append_assoc, List.drop_append_of_le_length hlen.ge,
    List.drop_of_length_le hlen.le, List.nil_append, List.take_left]

/-- Elements before the place of a store are unchanged. -/
lemma slice_overwrite_of_le {v src : List α} {pos i n : ℕ} (hi : i + n ≤ pos)
    (h : pos ≤ v.length) : slice (overwrite v pos src) i n = slice v i n := by
  have hlen : (v.take pos).length = pos := by rw [List.length_take]; omega
  calc slice (overwrite v pos src) i n
      = slice (v.take pos) i n := by
        rw [overwrite, List.append_assoc, slice_append_left (by omega)]
    _ = slice (v.take pos ++ v.drop pos) i n := (slice_append_left (by omega)).symm
    _ = slice v i n := by rw [List.take_append_drop]

/-- A range that ends where elements are stored is extended by them. -/
lemma slice_overwrite_append {v src : List α} {pos i n : ℕ} (hi : i + n = pos)
    (h : pos ≤ v.length) :
    slice (overwrite v pos src) i (n + src.length) = slice v i n ++ src := by
  rw [slice_add, slice_overwrite_of_le hi.le h, hi, slice_overwrite_self h]

/-- Elements behind the place of a store are unchanged. -/
lemma slice_overwrite_of_ge {v src : List α} {pos i n : ℕ} (hi : pos + src.length ≤ i)
    (h : pos + src.length ≤ v.length) : slice (overwrite v pos src) i n = slice v i n := by
  have hlen : (v.take pos ++ src).length = pos + src.length := by
    rw [List.length_append, List.length_take]
    omega
  rw [slice, slice, overwrite, List.drop_append, List.drop_of_length_le (by omega),
    List.nil_append, List.drop_drop, hlen]
  congr 2
  omega

/-- A range that starts behind the place of a store is extended by it. -/
lemma slice_overwrite_prepend {v src : List α} {pos n : ℕ} (h : pos + src.length ≤ v.length) :
    slice (overwrite v pos src) pos (src.length + n) = src ++ slice v (pos + src.length) n := by
  rw [slice_add, slice_overwrite_self (by omega), slice_overwrite_of_ge le_rfl h]

/-! ### Moving elements inside the array -/

/-- Copying one element keeps the length. -/
@[simp] lemma copyElement_length (v : List α) (i j : ℕ) :
    (copyElement v i j).length = v.length := by
  unfold copyElement
  split <;> simp

/-- Copying a range keeps the length. -/
@[simp] lemma copyWithin_length (v : List α) (first dest n : ℕ) :
    (copyWithin v first dest n).length = v.length := by
  induction n generalizing v first dest with
  | zero => rfl
  | succ n ih => simp [copyWithin, ih]

/-- Copying one element changes its destination only. -/
lemma copyElement_getElem? {v : List α} {i j : ℕ} (hi : i < v.length) (hj : j < v.length)
    (k : ℕ) : (copyElement v i j)[k]? = if k = j then v[i]? else v[k]? := by
  unfold copyElement
  rw [List.getElem?_eq_getElem hi]
  by_cases hk : k = j
  · rw [if_pos hk, hk, List.getElem?_set_self hj]
  · rw [if_neg hk, List.getElem?_set_ne (Ne.symm hk)]

/-- A copy towards the front stores the old elements of the source range, whether or not the two
ranges overlap. -/
theorem copyWithin_getElem? {v : List α} {first dest n : ℕ} (hdest : dest ≤ first)
    (hfirst : first + n ≤ v.length) (k : ℕ) :
    (copyWithin v first dest n)[k]? =
      if dest ≤ k ∧ k < dest + n then v[first + (k - dest)]? else v[k]? := by
  induction n generalizing v first dest with
  | zero =>
    have : ¬ (dest ≤ k ∧ k < dest + 0) := by omega
    rw [if_neg this]
    rfl
  | succ n ih =>
    have hlt : first < v.length := by omega
    -- the remaining source elements lie behind the one just written, so they are still the old ones
    rw [copyWithin, ih (by omega) (by rw [copyElement_length]; omega)]
    have hset := copyElement_getElem? hlt (by omega : dest < v.length)
    by_cases hin : dest + 1 ≤ k ∧ k < dest + 1 + n
    · have hidx : first + 1 + (k - (dest + 1)) = first + (k - dest) := by omega
      rw [if_pos hin, if_pos (by omega), hset, if_neg (by omega), hidx]
    · rw [if_neg hin, hset]
      by_cases hk : k = dest
      · rw [if_pos hk, if_pos (by omega), hk, Nat.sub_self, Nat.add_zero]
      · rw [if_neg hk, if_neg (by omega)]

/-- After a copy towards the front the destination range holds what the source range held. -/
theorem slice_copyWithin {v : List α} {first dest n : ℕ} (hdest : dest ≤ first)
    (hfirst : first + n ≤ v.length) :
    slice (copyWithin v first dest n) dest n = slice v first n := by
  apply List.ext_getElem?
  intro k
  simp only [slice_getElem?, copyWithin_getElem? hdest hfirst]
  by_cases hk : k < n
  · rw [if_pos hk, if_pos hk, if_pos (by omega), Nat.add_sub_cancel_left]
  · rw [if_neg hk, if_neg hk]

end SimpleMuduo
