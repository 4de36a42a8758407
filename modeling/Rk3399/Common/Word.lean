import Mathlib.Algebra.Order.Ring.Int
import Mathlib.Tactic.Common
/-!
# Unsigned 32-bit words

The words of the embedded C code, as natural numbers below `2 ^ 32`.
Every operation that can leave the range is followed by `u32`, the
reduction C applies; `sub32` is C's unsigned subtraction.
-/

namespace Rk3399

/-- Reduction of a number to an unsigned 32-bit word. -/
def u32 (n : Nat) : Nat := n % 2 ^ 32

/-- A number as a signed 32-bit word. -/
def i32 (n : Nat) : Int := if u32 n < 2 ^ 31 then u32 n else (u32 n : Int) - 2 ^ 32

/-- Unsigned 32-bit subtraction, which wraps below zero. -/
def sub32 (a b : Nat) : Nat := (2 ^ 32 - b % 2 ^ 32 + a) % 2 ^ 32

/-- `a & ~(m - 1)` for a power of two `m`: rounding down to a multiple. -/
def alignDown (m a : Nat) : Nat := a / m * m

theorem u32_lt (n : Nat) : u32 n < 2 ^ 32 := Nat.mod_lt _ (by decide)

theorem u32_of_lt {n : Nat} (h : n < 2 ^ 32) : u32 n = n := Nat.mod_eq_of_lt h

theorem u32_le (n : Nat) : u32 n ≤ n := Nat.mod_le _ _

@[simp] theorem u32_u32 (n : Nat) : u32 (u32 n) = u32 n := Nat.mod_mod _ _

theorem i32_le (n : Nat) : i32 n ≤ n := by
  have := u32_le n
  unfold i32
  split <;> omega

/-- **Subtraction that does not go below zero is the usual one.** -/
theorem sub32_of_le {a b : Nat} (hab : b ≤ a) (ha : a < 2 ^ 32) : sub32 a b = a - b := by
  unfold sub32
  rw [Nat.mod_eq_of_lt (show b < 2 ^ 32 by omega)]
  omega

end Rk3399
