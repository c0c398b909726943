import Mathlib.Data.BitVec

/-! Programs over the operations of unsigned words, which run with the machine's wrapping operations
or with operations that fail where the machine's are not exact.
-/

namespace Cx4Kernel.Foundation

/-- The operations of unsigned words of one width. -/
structure WordArith (m : Type → Type) (w : Nat) where
  add : BitVec w → BitVec w → m (BitVec w)
  sub : BitVec w → BitVec w → m (BitVec w)
  mul : BitVec w → BitVec w → m (BitVec w)
  div : BitVec w → BitVec w → m (BitVec w)
  rem : BitVec w → BitVec w → m (BitVec w)

namespace WordArith

variable {w : Nat}

/-- The operations of the machine. -/
def wrapping : WordArith Id w where
  add x y := x + y
  sub x y := x - y
  mul x y := x * y
  div x y := x / y
  rem x y := x % y

/-- Operations that fail on an overflow, an underflow and a division by zero. -/
def checked : WordArith Option w where
  add x y := if x.toNat + y.toNat < 2 ^ w then some (x + y) else none
  sub x y := if y.toNat ≤ x.toNat then some (x - y) else none
  mul x y := if x.toNat * y.toNat < 2 ^ w then some (x * y) else none
  div x y := if 0 < y.toNat then some (x / y) else none
  rem x y := if 0 < y.toNat then some (x % y) else none

-----------------------------------------------------------------------------------------
-- Exact operations
-----------------------------------------------------------------------------------------

variable {x y : BitVec w}

theorem checked_add (x y : BitVec w) (fits : x.toNat + y.toNat < 2 ^ w)
    : ∃ z, checked.add x y = some z ∧ z.toNat = x.toNat + y.toNat :=
  ⟨x + y, if_pos fits, by rw [BitVec.toNat_add, Nat.mod_eq_of_lt fits]⟩

theorem checked_sub (x y : BitVec w) (ordered : y.toNat ≤ x.toNat)
    : ∃ z, checked.sub x y = some z ∧ z.toNat = x.toNat - y.toNat :=
  ⟨x - y, if_pos ordered, BitVec.toNat_sub_of_le ordered⟩

theorem checked_mul (x y : BitVec w) (fits : x.toNat * y.toNat < 2 ^ w)
    : ∃ z, checked.mul x y = some z ∧ z.toNat = x.toNat * y.toNat :=
  ⟨x * y, if_pos fits, by rw [BitVec.toNat_mul, Nat.mod_eq_of_lt fits]⟩

theorem checked_div (x y : BitVec w) (positive : 0 < y.toNat)
    : ∃ z, checked.div x y = some z ∧ z.toNat = x.toNat / y.toNat :=
  ⟨x / y, if_pos positive, BitVec.toNat_udiv⟩

theorem checked_rem (x y : BitVec w) (positive : 0 < y.toNat)
    : ∃ z, checked.rem x y = some z ∧ z.toNat = x.toNat % y.toNat :=
  ⟨x % y, if_pos positive, BitVec.toNat_umod⟩

theorem checked_sub_none (underflow : x.toNat < y.toNat) : checked.sub x y = none :=
  if_neg (Nat.not_le.mpr underflow)

theorem checked_mul_none (overflow : 2 ^ w ≤ x.toNat * y.toNat) : checked.mul x y = none :=
  if_neg (Nat.not_lt.mpr overflow)

-----------------------------------------------------------------------------------------
-- What the machine does where nothing fails
-----------------------------------------------------------------------------------------

/-- A run of the machine has the result of the checked run, if there is one. -/
def Agree {α : Type} (careful : Option α) (machine : Id α) : Prop :=
  ∀ result, careful = some result → machine = result

theorem agree_pure {α : Type} (result : α) : Agree (pure result) (pure result) := by
  intro result' same
  exact Option.some.inj same

theorem Agree.bind {α β : Type} {careful : Option α} {machine : Id α}
    {next : α → Option β} {next' : α → Id β} (first : Agree careful machine)
    (rest : ∀ value, Agree (next value) (next' value))
    : Agree (careful >>= next) (machine >>= next') := by
  intro result done
  obtain ⟨value, isValue, isResult⟩ := Option.bind_eq_some_iff.mp done
  have same : machine = value := first value isValue
  rw [same]
  exact rest value result isResult

theorem Agree.ite {α : Type} {condition : Prop} [Decidable condition]
    {careful other : Option α} {machine machine' : Id α} (yes : Agree careful machine)
    (no : Agree other machine')
    : Agree (if condition then careful else other) (if condition then machine else machine') := by
  by_cases holds : condition
  · rwa [if_pos holds, if_pos holds]
  · rwa [if_neg holds, if_neg holds]

theorem agree_guard {α : Type} (condition : Prop) [Decidable condition] (value : α)
    : Agree (if condition then some value else none) value := by
  intro result done
  exact Option.some.inj (Option.ite_none_right_eq_some.mp done).2

theorem agree_add (x y : BitVec w) : Agree (checked.add x y) (wrapping.add x y) := agree_guard _ _

theorem agree_sub (x y : BitVec w) : Agree (checked.sub x y) (wrapping.sub x y) := agree_guard _ _

theorem agree_mul (x y : BitVec w) : Agree (checked.mul x y) (wrapping.mul x y) := agree_guard _ _

theorem agree_div (x y : BitVec w) : Agree (checked.div x y) (wrapping.div x y) := agree_guard _ _

theorem agree_rem (x y : BitVec w) : Agree (checked.rem x y) (wrapping.rem x y) := agree_guard _ _

end WordArith

end Cx4Kernel.Foundation
