import Mathlib.Data.Nat.Basic
import Mathlib.Tactic.Linarith
import Mathlib.Tactic.Ring

/-! Quotients that are kept as an integer part and a fraction of some bits, and what is left of a
number that goes through them.
-/

namespace Cx4Kernel.Foundation

/-- The fraction `rest / unit`, rounded down to `bits` bits, brings `rest` back up to one. -/
theorem fraction_back (rest bits : Nat) {unit : Nat} (positive : 0 < unit) (fine : unit ≤ 2 ^ bits)
    : rest * 2 ^ bits / unit * unit / 2 ^ bits ≤ rest
      ∧ rest ≤ rest * 2 ^ bits / unit * unit / 2 ^ bits + 1 := by
  have scale : 0 < 2 ^ bits := Nat.two_pow_pos bits
  have below : rest * 2 ^ bits / unit * unit ≤ rest * 2 ^ bits := Nat.div_mul_le_self _ _
  have above : rest * 2 ^ bits < rest * 2 ^ bits / unit * unit + unit :=
    Nat.lt_div_mul_add positive
  refine ⟨Nat.div_le_of_le_mul (by rwa [Nat.mul_comm (2 ^ bits)]), ?_⟩
  have next : rest * 2 ^ bits < (rest * 2 ^ bits / unit * unit / 2 ^ bits + 1 + 1) * 2 ^ bits := by
    have quotient := Nat.lt_div_mul_add (a := rest * 2 ^ bits / unit * unit) scale
    have split (x y : Nat) : (x + 1 + 1) * y = x * y + y + y := by ring
    rw [split]
    omega
  exact Nat.le_of_lt_succ (Nat.lt_of_mul_lt_mul_right next)

/-- A number that is kept as quotient and fraction loses at most one. -/
theorem quotient_fraction_back (number bits : Nat) {unit : Nat} (positive : 0 < unit)
    (fine : unit ≤ 2 ^ bits)
    : let back := number / unit * unit + number % unit * 2 ^ bits / unit * unit / 2 ^ bits
      back ≤ number ∧ number ≤ back + 1 := by
  obtain ⟨below, above⟩ := fraction_back (number % unit) bits positive fine
  have whole := Nat.div_add_mod' number unit
  intro back
  constructor <;> omega

/-- A multiple that lost at most one has lost at most one of its factor. -/
theorem multiple_back {factor scale back : Nat} (positive : 0 < scale)
    (below : back ≤ factor * scale) (above : factor * scale ≤ back + 1)
    : back / scale ≤ factor ∧ factor ≤ back / scale + 1 := by
  refine ⟨Nat.div_le_of_le_mul (by rwa [Nat.mul_comm scale]), ?_⟩
  have next : factor * scale < (back / scale + 1 + 1) * scale := by
    have quotient := Nat.lt_div_mul_add (a := back) positive
    have split (x y : Nat) : (x + 1 + 1) * y = x * y + y + y := by ring
    rw [split]
    omega
  exact Nat.le_of_lt_succ (Nat.lt_of_mul_lt_mul_right next)

end Cx4Kernel.Foundation
