import Mathlib.Data.List.Basic
import Mathlib.Algebra.Order.Ring.Int
import Mathlib.Tactic.Lemma

/-!
# System calls and machine integers

The part of the operating system and of the C++ standard library that the network code is
written against: error numbers, the result of a `::write` or `readv`, the conversion to
`ssize_t`, and `std::string`, whose size never exceeds the largest object size.
-/

namespace SimpleMuduo

/-- A sequence of bytes. -/
abbrev Bytes := List UInt8

/-- An `errno` value. -/
abbrev Errno := ℕ

/-- A signal interrupted the call. -/
def EINTR : Errno := 4

/-- The call would block (the same number as `EAGAIN`). -/
def EWOULDBLOCK : Errno := 11

/-- An argument is out of range. -/
def EINVAL : Errno := 22

/-- The connection is broken: the peer does not read any more. -/
def EPIPE : Errno := 32

/-- The peer reset the connection. -/
def ECONNRESET : Errno := 104

/-- The `ssize_t` that an integer expression of 64-bit width becomes: its residue modulo `2 ^ 64`
in two's complement. -/
def toSsize (x : ℤ) : ℤ := Int.bmod x (2 ^ 64)

/-- A count below `2 ^ 63` is its own `ssize_t`. -/
lemma toSsize_of_lt {n : ℕ} (h : n < 2 ^ 63) : toSsize n = n :=
  Int.bmod_eq_of_le_mul_two (by omega) (by omega)

/-- The `size_t` that an integer expression of 64-bit width becomes: its residue modulo `2 ^ 64`. -/
def toSize (x : ℤ) : ℕ := (x % 2 ^ 64).toNat

/-- A count below `2 ^ 64` is its own `size_t`. -/
lemma toSize_of_lt {n : ℕ} (h : n < 2 ^ 64) : toSize n = n := by
  rw [toSize, Int.emod_eq_of_lt (by omega) (by omega), Int.toNat_natCast]

/-- A difference of counts that is not negative is its own `size_t`. -/
lemma toSize_sub {m n : ℕ} (hle : n ≤ m) (h : m < 2 ^ 64) : toSize (m - n) = m - n := by
  have hcast : (m : ℤ) - n = (m - n : ℕ) := by omega
  rw [hcast, toSize_of_lt (by omega)]

/-- The number of bytes of the largest object, `PTRDIFF_MAX`. -/
def maxObjectSize : ℕ := 2 ^ 63 - 1

/-- A `std::string`, which is never longer than the largest object. -/
structure StdString where
  /-- The characters of the string. -/
  data : Bytes
  /-- `size()` is at most `max_size()`. -/
  size_le : data.length ≤ maxObjectSize

/-- `std::string::size`. -/
def StdString.size (s : StdString) : ℕ := s.data.length

/-- The size of a string is its own `ssize_t`. -/
lemma StdString.toSsize_size (s : StdString) : toSsize s.data.length = s.data.length :=
  toSsize_of_lt (by have := s.size_le; unfold maxObjectSize at this; omega)

/-- The result of a system call that transfers bytes: their number, or the error it set. -/
abbrev IoResult := Except Errno ℕ

/-- `::write(fd, data, len)` with the outcome the kernel chose: it never accepts more bytes than
it was given. -/
def sysWrite (outcome : IoResult) (len : ℕ) : IoResult :=
  outcome.map fun n => min n len

/-- `::write` accepts at most what it was given. -/
lemma sysWrite_le {outcome : IoResult} {len n : ℕ} (h : sysWrite outcome len = .ok n) :
    n ≤ len := by
  cases outcome with
  | error e => simp [sysWrite, Except.map] at h
  | ok m =>
    obtain rfl : min m len = n := by simpa [sysWrite, Except.map] using h
    exact Nat.min_le_right m len

/-! ## Strings of C -/

/-- The characters that `%s` writes for `s.c_str()`. -/
def cString (s : Bytes) : Bytes := s.takeWhile (· ≠ 0)

/-- The string that `snprintf` leaves in a buffer of the given size. -/
def snprintf (size : ℕ) (text : Bytes) : Bytes := text.take (size - 1)

end SimpleMuduo
