import Mathlib.Tactic.Ring
import Mathlib.Order.Basic

/-!
# Unsigned machine integers as natural numbers

A `w`-bit unsigned integer is a natural number below `2 ^ w`, and each arithmetic operation of
Rust's standard library is a function on natural numbers that says what happens at the bound:

* `a + b` in a release build (`overflow-checks` off, as every runtime is built) wraps, so it is
  `wrappingAdd`;
* `checked_add` and `checked_sub` return `None` instead of leaving the range;
* `saturating_add` stops at `MAX`, and `saturating_sub` at zero — which is natural-number
  subtraction.

Below the bound each of them is plain addition; the `_of_lt` lemmas say so, and a proof that
some `+ 1` of a program never overflows is a proof that its operands stay below the bound.
-/

set_option autoImplicit false

namespace Unsigned

variable (w : ℕ)

/-- `a + b`, wrapping around at `2 ^ w`. -/
def wrappingAdd (a b : ℕ) : ℕ := (a + b) % 2 ^ w

/-- `a.checked_add(b)`. -/
def checkedAdd (a b : ℕ) : Option ℕ := if a + b < 2 ^ w then some (a + b) else none

/-- `a.saturating_add(b)`. -/
def saturatingAdd (a b : ℕ) : ℕ := min (a + b) (2 ^ w - 1)

/-- `a.checked_sub(b)`. -/
def checkedSub (a b : ℕ) : Option ℕ := if b ≤ a then some (a - b) else none

/-- `a - b` in a release build, for operands below `2 ^ w`: it wraps around below zero. -/
def wrappingSub (a b : ℕ) : ℕ := (a + 2 ^ w - b) % 2 ^ w

/-- `a.saturating_mul(b)`. -/
def saturatingMul (a b : ℕ) : ℕ := min (a * b) (2 ^ w - 1)

variable {w}

theorem wrappingAdd_of_lt {a b : ℕ} (h : a + b < 2 ^ w) : wrappingAdd w a b = a + b :=
  Nat.mod_eq_of_lt h

theorem checkedAdd_eq_some_iff {a b c : ℕ} : checkedAdd w a b = some c ↔ a + b < 2 ^ w ∧ c = a + b := by
  unfold checkedAdd
  split <;> simp_all [eq_comm]

theorem checkedAdd_of_lt {a b : ℕ} (h : a + b < 2 ^ w) : checkedAdd w a b = some (a + b) :=
  checkedAdd_eq_some_iff.mpr ⟨h, rfl⟩

theorem saturatingAdd_of_lt {a b : ℕ} (h : a + b < 2 ^ w) : saturatingAdd w a b = a + b := by
  unfold saturatingAdd
  omega

theorem saturatingAdd_le {a b : ℕ} : saturatingAdd w a b ≤ a + b :=
  min_le_left _ _

theorem saturatingAdd_lt {a b : ℕ} : saturatingAdd w a b < 2 ^ w := by
  have : 0 < 2 ^ w := Nat.two_pow_pos w
  unfold saturatingAdd
  omega

theorem checkedSub_of_le {a b : ℕ} (h : b ≤ a) : checkedSub a b = some (a - b) := by
  rw [checkedSub, if_pos h]

theorem checkedSub_of_lt {a b : ℕ} (h : a < b) : checkedSub a b = none := by
  rw [checkedSub, if_neg (by omega)]

theorem wrappingSub_of_le {a b : ℕ} (hb : b ≤ a) (ha : a < 2 ^ w) : wrappingSub w a b = a - b := by
  have hsub : a + 2 ^ w - b = (a - b) + 2 ^ w := by omega
  rw [wrappingSub, hsub, Nat.add_mod_right, Nat.mod_eq_of_lt (by omega)]

/-- `0 - 1` wraps to `MAX`. -/
theorem wrappingSub_zero_one : wrappingSub w 0 1 = 2 ^ w - 1 := by
  have hpos : 0 < 2 ^ w := Nat.two_pow_pos w
  rw [wrappingSub, Nat.zero_add, Nat.mod_eq_of_lt (by omega)]

theorem saturatingMul_of_lt {a b : ℕ} (h : a * b < 2 ^ w) : saturatingMul w a b = a * b := by
  unfold saturatingMul
  omega

theorem saturatingMul_le {a b : ℕ} : saturatingMul w a b ≤ a * b :=
  min_le_left _ _

/-- A positive number times `MAX` saturates at `MAX`. -/
theorem saturatingMul_max {a : ℕ} (ha : 0 < a) : saturatingMul w a (2 ^ w - 1) = 2 ^ w - 1 := by
  have hle : 2 ^ w - 1 ≤ a * (2 ^ w - 1) := Nat.le_mul_of_pos_left _ ha
  rw [saturatingMul, min_eq_right hle]

end Unsigned
