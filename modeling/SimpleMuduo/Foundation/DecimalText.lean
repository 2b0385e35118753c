import Mathlib.Data.Nat.Digits.Lemmas
import Mathlib.Tactic.Lemma

/-!
# Decimal rendering

The text that `printf` writes for an integer, as a list of character codes.  The number can be read
back from it, so different integers have different texts, and a number below `10 ^ k` needs at most
`k` characters.
-/

namespace SimpleMuduo

/-- The digits of `n`, the most significant one first. -/
def decimalDigits (n : ℕ) : List UInt8 :=
  if n = 0 then [48] else (Nat.digits 10 n).reverse.map fun d => UInt8.ofNat (48 + d)

/-- What the conversion specifier `%d` writes for `z`. -/
def decimalText (z : ℤ) : List UInt8 :=
  if z < 0 then 45 :: decimalDigits z.natAbs else decimalDigits z.natAbs

/-- The number that a text of digits stands for. -/
def decimalValue (text : List UInt8) : ℕ :=
  Nat.ofDigits 10 (text.map fun c => c.toNat - 48).reverse

/-- A character that stands for a digit. -/
lemma toNat_digit {d : ℕ} (hd : d < 10) : (UInt8.ofNat (48 + d)).toNat = 48 + d :=
  UInt8.toNat_ofNat_of_lt (by change 48 + d < 256; omega)

/-- Reading a rendered number gives it back. -/
theorem decimalValue_decimalDigits (n : ℕ) : decimalValue (decimalDigits n) = n := by
  by_cases hn : n = 0
  · subst hn
    rfl
  · have hread : ∀ d ∈ Nat.digits 10 n, (UInt8.ofNat (48 + d)).toNat - 48 = d := by
      intro d hd
      rw [toNat_digit (Nat.digits_lt_base (by decide) hd)]
      omega
    calc decimalValue (decimalDigits n)
        = Nat.ofDigits 10 ((Nat.digits 10 n).map
            fun d => (UInt8.ofNat (48 + d)).toNat - 48) := by
          simp [decimalValue, decimalDigits, hn, Function.comp_def]
      _ = Nat.ofDigits 10 (Nat.digits 10 n) := by rw [List.map_congr_left hread, List.map_id']
      _ = n := Nat.ofDigits_digits 10 n

/-- The digits of a number are digits. -/
lemma toNat_of_mem_decimalDigits {n : ℕ} {c : UInt8} (h : c ∈ decimalDigits n) :
    48 ≤ c.toNat ∧ c.toNat < 58 := by
  unfold decimalDigits at h
  split_ifs at h with hn
  · obtain rfl := List.mem_singleton.mp h
    decide
  · obtain ⟨d, hd, rfl⟩ := List.mem_map.mp h
    have hlt : d < 10 := Nat.digits_lt_base (by decide) (List.mem_reverse.mp hd)
    rw [toNat_digit hlt]
    omega

/-- The digits of a number contain no sign. -/
lemma minus_notMem_decimalDigits (n : ℕ) : (45 : UInt8) ∉ decimalDigits n := by
  unfold decimalDigits
  split_ifs with hn
  · decide
  · intro hmem
    obtain ⟨d, hd, heq⟩ := List.mem_map.mp hmem
    have hlt : d < 10 := Nat.digits_lt_base (by decide) (List.mem_reverse.mp hd)
    have hcode : (48 + d) = 45 := by
      rw [← toNat_digit hlt, heq]
      rfl
    omega

/-- Different integers are rendered differently. -/
theorem decimalText_injective : Function.Injective decimalText := by
  intro x y h
  unfold decimalText at h
  have habs {a b : ℕ} (hab : decimalDigits a = decimalDigits b) : a = b := by
    rw [← decimalValue_decimalDigits a, hab, decimalValue_decimalDigits]
  split_ifs at h with hx hy hy
  · have := habs (List.cons.inj h).2
    omega
  · exact absurd (h ▸ List.mem_cons_self) (minus_notMem_decimalDigits y.natAbs)
  · exact absurd (h ▸ List.mem_cons_self) (minus_notMem_decimalDigits x.natAbs)
  · have := habs h
    omega

/-- A number below `10 ^ k` has at most `k` digits. -/
theorem length_decimalText_le {n k : ℕ} (hk : 0 < k) (hn : n < 10 ^ k) :
    (decimalText n).length ≤ k := by
  have hpos : ¬ ((n : ℤ) < 0) := by omega
  rw [decimalText, if_neg hpos, Int.natAbs_natCast, decimalDigits]
  split_ifs
  · exact hk
  · rw [List.length_map, List.length_reverse]
    exact (Nat.digits_length_le_iff (by decide) n).mpr hn

/-- The same for the digits alone. -/
lemma length_decimalDigits_le {n k : ℕ} (hk : 0 < k) (hn : n < 10 ^ k) :
    (decimalDigits n).length ≤ k := by
  have htext : decimalText n = decimalDigits n := by simp [decimalText]
  exact htext ▸ length_decimalText_le hk hn

end SimpleMuduo
