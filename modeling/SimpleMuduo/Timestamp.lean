import Mathlib.Algebra.Order.Field.Power
import Mathlib.Algebra.Order.Ring.Int
import Mathlib.Algebra.Order.Ring.Rat
import Mathlib.Tactic.Positivity

/-!
# Points in time

`Timestamp` of `Timestamp.h`, an `int64_t` number of microseconds.  Seconds are a `double`, which is
a rational number here.  `operator+` multiplies it twice by 1000, rounding each product to the
nearest `double`, converts the result to an `int64_t` and adds it to another.  A conversion out of
range and a sum out of range are undefined in C++; here they are what an x86-64 makes of them.

The differences that `timeDiff` forms are exact.
-/

namespace SimpleMuduo

/-- `simple_muduo::Timestamp`: `m_microSecond`. -/
abbrev Timestamp := ℤ

namespace Timestamp

/-- `Timestamp::invalid()`. -/
def invalid : Timestamp := 0

/-- `valid()`. -/
def valid (t : Timestamp) : Prop := 0 < t

instance (t : Timestamp) : Decidable t.valid := inferInstanceAs (Decidable ((0 : ℤ) < t))

/-- `timeDiff(end, start)`, in seconds. -/
def timeDiff (later start : Timestamp) : ℚ := (later - start : ℤ) / (1000 * 1000)

end Timestamp

/-! ## Adding seconds -/

/-- The distance from one `double` to the next around `x`: with 53 significant bits, `2 ^ (e - 52)`
between `2 ^ e` and `2 ^ (e + 1)`.  The limits of the exponent are left out: the products below
that come near them are out of the range of an `int64_t`, or are converted to 0. -/
def ulp (x : ℚ) : ℚ :=
  let e : ℤ := (Nat.log2 x.num.natAbs : ℤ) - Nat.log2 x.den
  if |x| < 2 ^ e then 2 ^ (e - 53) else 2 ^ (e - 52)

/-- The nearest integer, the even one of two. -/
def roundEven (x : ℚ) : ℤ :=
  let below := x.floor
  let rest := x - below
  if rest < 1 / 2 then below
  else if 1 / 2 < rest then below + 1
  else if below % 2 = 0 then below else below + 1

/-- The `double` nearest to `x`. -/
def toDouble (x : ℚ) : ℚ := ulp x * roundEven (x / ulp x)

/-- The `int64_t` that a `double` is converted to: its integer part, where an `int64_t` can hold it,
and `INT64_MIN` otherwise. -/
def toInt64 (x : ℚ) : ℤ :=
  let n := x.num.tdiv x.den
  if -2 ^ 63 ≤ n ∧ n < 2 ^ 63 then n else -2 ^ 63

namespace Timestamp

/-- `seconds * 1000 * 1000`. -/
def microseconds (seconds : ℚ) : ℚ := toDouble (toDouble (seconds * 1000) * 1000)

/-- The local variable `delta` of `operator+`. -/
def delta (seconds : ℚ) : ℤ := toInt64 (microseconds seconds)

/-- `operator+(const Timestamp& lhs, double seconds)`. -/
def addSeconds (lhs : Timestamp) (seconds : ℚ) : Timestamp :=
  Int.bmod (lhs + delta seconds) (2 ^ 64)

/-- The `double` for 0.7 is a little less, but its product is rounded up. -/
example : delta (3152519739159347 / 2 ^ 52) = 700000 := by decide +kernel

/-- `operator+` does not overflow: the conversion is in range, and so is the sum. -/
def AddsInRange (lhs : Timestamp) (seconds : ℚ) : Prop :=
  microseconds seconds < 2 ^ 63 ∧ -2 ^ 63 ≤ lhs + delta seconds ∧ lhs + delta seconds < 2 ^ 63

instance (lhs : Timestamp) (seconds : ℚ) : Decidable (AddsInRange lhs seconds) :=
  inferInstanceAs (Decidable (_ ∧ _ ∧ _))

end Timestamp

lemma ulp_pos (x : ℚ) : 0 < ulp x := by
  simp only [ulp]
  split_ifs <;> positivity

/-- Rounding to an integer does not change the sign. -/
lemma roundEven_nonneg {x : ℚ} (h : 0 ≤ x) : 0 ≤ roundEven x := by
  have hbelow : 0 ≤ x.floor := Rat.le_floor_iff.mpr (by simpa using h)
  simp only [roundEven]
  split_ifs <;> omega

/-- Rounding to a `double` does not change the sign. -/
lemma toDouble_nonneg {x : ℚ} (h : 0 ≤ x) : 0 ≤ toDouble x := by
  have hrounded : 0 ≤ roundEven (x / ulp x) := roundEven_nonneg (div_nonneg h (ulp_pos x).le)
  exact mul_nonneg (ulp_pos x).le (Int.cast_nonneg hrounded)

namespace Timestamp

/-- Where nothing overflows, a positive number of seconds adds an amount that is not negative. -/
lemma delta_nonneg {seconds : ℚ} (hpos : 0 < seconds) (hrange : microseconds seconds < 2 ^ 63) :
    0 ≤ delta seconds := by
  have hproduct : 0 ≤ toDouble (seconds * 1000) := toDouble_nonneg (by positivity)
  have hnonneg : 0 ≤ microseconds seconds := toDouble_nonneg (by positivity)
  have hpart : 0 ≤ (microseconds seconds).num.tdiv (microseconds seconds).den :=
    Int.tdiv_nonneg (Rat.num_nonneg.mpr hnonneg) (Int.natCast_nonneg _)
  have hlt : (microseconds seconds).num.tdiv (microseconds seconds).den < 2 ^ 63 := by
    rw [Int.tdiv_eq_ediv_of_nonneg (Rat.num_nonneg.mpr hnonneg)]
    have hnum : (microseconds seconds).num < 2 ^ 63 * (microseconds seconds).den := by
      have hden : (0 : ℚ) < (microseconds seconds).den := Nat.cast_pos.mpr (Rat.den_pos _)
      have hquot := (Rat.num_div_den (microseconds seconds)).symm ▸ hrange
      exact_mod_cast (div_lt_iff₀ hden).mp hquot
    exact Int.ediv_lt_of_lt_mul (Int.natCast_pos.mpr (Rat.den_pos _)) hnum
  rw [delta, toInt64, if_pos ⟨by omega, hlt⟩]
  exact hpart

/-- Where nothing overflows, `operator+` adds. -/
lemma AddsInRange.addSeconds_eq {lhs : Timestamp} {seconds : ℚ} (h : AddsInRange lhs seconds) :
    lhs.addSeconds seconds = lhs + delta seconds := by
  have hfits (n : ℤ) (hlower : -2 ^ 63 ≤ n) (hupper : n < 2 ^ 63) : Int.bmod n (2 ^ 64) = n :=
    Int.bmod_eq_of_le_mul_two (by omega) (by omega)
  exact hfits _ h.2.1 h.2.2

end Timestamp

/-- The `int` that a floating-point number is converted to: its integer part, where an `int` can
hold it, and undefined otherwise. -/
def toInt (x : ℚ) : Option ℤ :=
  let n := x.num.tdiv x.den
  if -2 ^ 31 ≤ n ∧ n < 2 ^ 31 then some n else none

end SimpleMuduo
