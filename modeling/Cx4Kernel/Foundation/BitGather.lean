import Mathlib.Data.Nat.Digits.Lemmas
import Cx4Kernel.Foundation.BitFields

/-! Numbers whose bits are spread over several registers, where a mask selects the bits of each
one.
-/

namespace Cx4Kernel.Foundation

variable {size : Nat} {Key : Type}

/-- The number with the bits, low ones first. -/
def bitsValue (bits : List Bool) : Nat := Nat.ofDigits 2 (bits.map Bool.toNat)

theorem bitsValue_append (low high : List Bool)
    : bitsValue (low ++ high) = bitsValue low + 2 ^ low.length * bitsValue high := by
  rw [bitsValue, List.map_append, Nat.ofDigits_append, List.length_map]
  rfl

theorem bitsValue_lt (bits : List Bool) : bitsValue bits < 2 ^ bits.length := by
  have digits : ∀ digit ∈ bits.map Bool.toNat, digit < 2 := by
    intro digit member
    obtain ⟨bit, -, rfl⟩ := List.mem_map.mp member
    exact bit.toNat_lt
  have bound := Nat.ofDigits_lt_base_pow_length (by decide) digits
  rwa [List.length_map] at bound

/-- The positions that a mask selects. -/
def maskBits (mask : BitVec size) : List Nat := (List.range size).filter mask.getLsbD

/-- The bits that a mask selects. -/
def selected (register mask : BitVec size) : List Bool := (maskBits mask).map register.getLsbD

/-- The number with the selected bits of all places. -/
def gather (read : Key → BitVec size) (places : List (Key × BitVec size)) : Nat :=
  bitsValue (places.flatMap fun place => selected (read place.1) place.2)

theorem gather_cons (read : Key → BitVec size) (place : Key × BitVec size)
    (rest : List (Key × BitVec size))
    : gather read (place :: rest)
      = bitsValue (selected (read place.1) place.2)
        + 2 ^ (maskBits place.2).length * gather read rest := by
  rw [gather, List.flatMap_cons, bitsValue_append, selected, List.length_map]
  rfl

@[simp]
theorem gather_nil (read : Key → BitVec size) : gather read [] = 0 := rfl

/-- Bits in a row are a field. -/
theorem bitsValue_range (register : BitVec size) (offset width : Nat)
    : bitsValue ((List.range' offset width).map register.getLsbD)
      = (BitField.mk offset width).get register := by
  induction width generalizing offset with
  | zero => simp [bitsValue, BitField.get, Nat.mod_one]
  | succ width ih =>
    have step : bitsValue ((List.range' offset (width + 1)).map register.getLsbD)
        = (register.getLsbD offset).toNat
          + 2 * bitsValue ((List.range' (offset + 1) width).map register.getLsbD) := rfl
    rw [step, ih, BitVec.getLsbD, Nat.toNat_testBit]
    simp only [BitField.get, Nat.shiftRight_eq_div_pow]
    rw [show 2 ^ (width + 1) = 2 * 2 ^ width from Nat.pow_succ', Nat.mod_mul, Nat.pow_succ, Nat.div_div_eq_div_mul]

/-- A place whose mask selects a field adds the field. -/
theorem gather_cons_field {read : Key → BitVec size} {key : Key} {mask : BitVec size}
    {field : BitField} (bits : maskBits mask = List.range' field.offset field.width)
    (rest : List (Key × BitVec size))
    : gather read ((key, mask) :: rest)
      = field.get (read key) + 2 ^ field.width * gather read rest := by
  rw [gather_cons, selected, bits, bitsValue_range, List.length_range']

end Cx4Kernel.Foundation
