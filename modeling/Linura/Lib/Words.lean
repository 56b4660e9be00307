import Mathlib.Algebra.Order.Ring.Nat
import Mathlib.Tactic.Common

/-!
# Machine words

Unsigned 64-bit arithmetic that checks or saturates, over natural numbers.
-/

namespace Linura.Lib

/-- The largest unsigned 64-bit number. -/
def u64Max : Nat := 2 ^ 64 - 1

/-- The largest signed 64-bit number. -/
def i64Max : Nat := 2 ^ 63 - 1

/-- Addition that fails on overflow. -/
def checkedAdd (a b : Nat) : Option Nat := if a + b ≤ u64Max then some (a + b) else none

/-- Subtraction that fails below zero. -/
def checkedSub (a b : Nat) : Option Nat := if b ≤ a then some (a - b) else none

/-- Multiplication that fails on overflow. -/
def checkedMul (a b : Nat) : Option Nat := if a * b ≤ u64Max then some (a * b) else none

/-- Addition that stops at the largest number. -/
def saturatingAdd (a b : Nat) : Nat := min (a + b) u64Max

/-- Subtraction that stops at zero. -/
def saturatingSub (a b : Nat) : Nat := a - b

theorem checkedAdd_eq_some {a b c : Nat} : checkedAdd a b = some c ↔ a + b = c ∧ c ≤ u64Max := by
  unfold checkedAdd
  split
  · rename_i fits
    constructor
    · intro same
      cases same
      exact ⟨rfl, fits⟩
    · rintro ⟨rfl, -⟩
      rfl
  · rename_i large
    constructor
    · intro same
      cases same
    · rintro ⟨rfl, fits⟩
      exact absurd fits large

theorem checkedMul_eq_some {a b c : Nat} : checkedMul a b = some c ↔ a * b = c ∧ c ≤ u64Max := by
  unfold checkedMul
  split
  · rename_i fits
    constructor
    · intro same
      cases same
      exact ⟨rfl, fits⟩
    · rintro ⟨rfl, -⟩
      rfl
  · rename_i large
    constructor
    · intro same
      cases same
    · rintro ⟨rfl, fits⟩
      exact absurd fits large

theorem checkedSub_eq_some {a b c : Nat} : checkedSub a b = some c ↔ b ≤ a ∧ a - b = c := by
  unfold checkedSub
  split
  · rename_i le
    simp [le]
  · rename_i lt
    simp [lt]

end Linura.Lib
