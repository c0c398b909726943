import Mathlib.Data.BitVec
import Mathlib.Data.Nat.Bitwise

/-! Bit fields of registers of any width, and writes to a register under a mask.
-/

namespace Cx4Kernel.Foundation

/-- Where the bits of a field are. -/
structure BitField where
  offset : Nat
  width : Nat
deriving DecidableEq

variable {size : Nat}

/-- A write under a mask, where the bits of the mask keep what the register has. -/
def writeMasked (register value mask : BitVec size) : BitVec size :=
  (register &&& mask) ||| (value &&& ~~~mask)

@[simp]
theorem getLsbD_writeMasked (register value mask : BitVec size) (i : Nat)
    : (writeMasked register value mask).getLsbD i
      = if mask.getLsbD i then register.getLsbD i else value.getLsbD i := by
  simp only [writeMasked, BitVec.getLsbD_or, BitVec.getLsbD_and, BitVec.getLsbD_not]
  by_cases inside : i < size
  · cases mask.getLsbD i <;> simp [inside]
  · simp [BitVec.getLsbD_of_ge, Nat.le_of_not_lt inside]

/-- The low bits of one word with the high bits of another. -/
theorem toNat_mergeLow (low high : BitVec size) {width : Nat} (inside : width ≤ size)
    : ((low &&& BitVec.ofNat size (2 ^ width - 1))
        ||| (high &&& ~~~BitVec.ofNat size (2 ^ width - 1))).toNat
      = 2 ^ width * (high.toNat / 2 ^ width) + low.toNat % 2 ^ width := by
  apply Nat.eq_of_testBit_eq
  intro i
  rw [BitVec.testBit_toNat, Nat.testBit_two_pow_mul_add _ (Nat.mod_lt _ (Nat.two_pow_pos width)),
    Nat.testBit_mod_two_pow, Nat.testBit_div_two_pow, BitVec.testBit_toNat, BitVec.testBit_toNat,
    BitVec.getLsbD_or, BitVec.getLsbD_and, BitVec.getLsbD_and, BitVec.getLsbD_not,
    BitVec.getLsbD_ofNat, Nat.testBit_two_pow_sub_one]
  by_cases small : i < width
  · simp [small, Nat.lt_of_lt_of_le small inside]
  · have back : i - width + width = i := Nat.sub_add_cancel (Nat.le_of_not_lt small)
    by_cases within : i < size
    · simp [small, back, within]
    · simp [small, back, BitVec.getLsbD_of_ge _ _ (Nat.le_of_not_lt within)]

namespace BitField

/-- The value of a field. -/
def get (field : BitField) (register : BitVec size) : Nat :=
  register.toNat >>> field.offset % 2 ^ field.width

/-- The bits of a field. -/
def mask (field : BitField) : BitVec size := BitVec.ofNat size (2 ^ field.width - 1) <<< field.offset

/-- An assignment to a field, which cuts the value to the width of the field. -/
def put (field : BitField) (register : BitVec size) (value : Nat) : BitVec size :=
  writeMasked register (BitVec.ofNat size value <<< field.offset) (~~~field.mask)

/-- The fields have no bit in common. -/
def Disjoint (field other : BitField) : Prop :=
  field.offset + field.width ≤ other.offset ∨ other.offset + other.width ≤ field.offset

instance (field other : BitField) : Decidable (field.Disjoint other) :=
  inferInstanceAs (Decidable (_ ∨ _))

theorem get_lt (field : BitField) (register : BitVec size)
    : field.get register < 2 ^ field.width :=
  Nat.mod_lt _ (Nat.two_pow_pos _)

/-- The field of all bits. -/
theorem get_whole (register : BitVec size) : get ⟨0, size⟩ register = register.toNat :=
  Nat.mod_eq_of_lt register.isLt

theorem testBit_get (field : BitField) (register : BitVec size) (i : Nat)
    : (field.get register).testBit i
      = (decide (i < field.width) && register.getLsbD (field.offset + i)) := by
  rw [get, Nat.testBit_mod_two_pow, Nat.testBit_shiftRight, BitVec.testBit_toNat]

/-- Fields with the same bits have the same value. -/
theorem get_congr {size' : Nat} {register : BitVec size} {register' : BitVec size'}
    {offset offset' width : Nat}
    (bits : ∀ i < width, register.getLsbD (offset + i) = register'.getLsbD (offset' + i))
    : get ⟨offset, width⟩ register = get ⟨offset', width⟩ register' := by
  apply Nat.eq_of_testBit_eq
  intro i
  rw [testBit_get, testBit_get]
  by_cases low : i < width
  · rw [bits i low]
  · simp [low]

/-- Fields that follow each other make one field. -/
theorem get_append (register : BitVec size) (offset width width' : Nat)
    : get ⟨offset, width⟩ register + 2 ^ width * get ⟨offset + width, width'⟩ register
      = get ⟨offset, width + width'⟩ register := by
  rw [get, get, get, Nat.shiftRight_add, Nat.shiftRight_eq_div_pow _ width, Nat.pow_add,
    Nat.mod_mul]

/-- A low field that has room for the value has all of it. -/
theorem get_low {register : BitVec size} {width : Nat} (fits : register.toNat < 2 ^ width)
    : get ⟨0, width⟩ register = register.toNat :=
  Nat.mod_eq_of_lt fits

theorem getLsbD_mask (field : BitField) (i : Nat)
    : (field.mask : BitVec size).getLsbD i
      = decide (i < size ∧ field.offset ≤ i ∧ i < field.offset + field.width) := by
  rw [mask, BitVec.getLsbD_shiftLeft, BitVec.getLsbD_ofNat, Nat.testBit_two_pow_sub_one]
  by_cases inside : i < size
  · by_cases low : i < field.offset
    · simp [low]
    · have below : i - field.offset < size := Nat.lt_of_le_of_lt (Nat.sub_le _ _) inside
      simp only [inside, low, below, decide_true, decide_false, Bool.not_false, Bool.true_and,
        true_and, decide_eq_decide]
      omega
  · simp [inside]

theorem getLsbD_put (field : BitField) (register : BitVec size) (value i : Nat)
    : (field.put register value).getLsbD i
      = (decide (i < size) && if field.offset ≤ i ∧ i < field.offset + field.width then
          value.testBit (i - field.offset)
        else register.getLsbD i) := by
  rw [put, getLsbD_writeMasked, BitVec.getLsbD_not, getLsbD_mask]
  by_cases inside : i < size
  · by_cases mine : field.offset ≤ i ∧ i < field.offset + field.width
    · have below : i - field.offset < size := Nat.lt_of_le_of_lt (Nat.sub_le _ _) inside
      rw [BitVec.getLsbD_shiftLeft, BitVec.getLsbD_ofNat]
      simp [inside, mine, Nat.not_lt.mpr mine.1, below]
    · simp [inside, mine]
  · simp [inside, BitVec.getLsbD_of_ge _ _ (Nat.le_of_not_lt inside)]

/-- What is assigned to a field is read back, as far as the field can hold it. -/
theorem get_put (field : BitField) (register : BitVec size) (value : Nat)
    (inside : field.offset + field.width ≤ size)
    : field.get (field.put register value) = value % 2 ^ field.width := by
  apply Nat.eq_of_testBit_eq
  intro i
  rw [testBit_get, getLsbD_put, Nat.testBit_mod_two_pow]
  by_cases low : i < field.width
  · have mine : field.offset + i < size := by omega
    simp [low, mine]
  · simp [low]

/-- Another field keeps its value. -/
theorem get_put_other {field other : BitField} (apart : field.Disjoint other)
    (register : BitVec size) (value : Nat)
    : field.get (other.put register value) = field.get register := by
  apply Nat.eq_of_testBit_eq
  intro i
  rw [testBit_get, testBit_get, getLsbD_put]
  by_cases low : i < field.width
  · have elsewhere : ¬ (other.offset ≤ field.offset + i
        ∧ field.offset + i < other.offset + other.width) := by
      rw [Disjoint] at apart
      omega
    rw [if_neg elsewhere]
    by_cases inside : field.offset + i < size
    · simp [inside]
    · simp [inside, BitVec.getLsbD_of_ge _ _ (Nat.le_of_not_lt inside)]
  · simp [low]

/-- A field that the mask leaves free gets the value that is written. -/
theorem get_writeMasked (field : BitField) (register value : BitVec size) {mask : BitVec size}
    (free : field.get mask = 0)
    : field.get (writeMasked register value mask) = field.get value := by
  apply Nat.eq_of_testBit_eq
  intro i
  have bit := congrArg (Nat.testBit · i) free
  simp only [testBit_get, Nat.zero_testBit] at bit
  rw [testBit_get, testBit_get, getLsbD_writeMasked]
  by_cases low : i < field.width
  · simp only [low, decide_true, Bool.true_and] at bit ⊢
    rw [bit, if_neg Bool.false_ne_true]
  · simp [low]

/-- A field that the mask covers keeps its value. -/
theorem get_writeMasked_kept (field : BitField) (register value : BitVec size) {mask : BitVec size}
    (covered : field.get mask = 2 ^ field.width - 1)
    : field.get (writeMasked register value mask) = field.get register := by
  apply Nat.eq_of_testBit_eq
  intro i
  have bit := congrArg (Nat.testBit · i) covered
  simp only [testBit_get, Nat.testBit_two_pow_sub_one] at bit
  rw [testBit_get, testBit_get, getLsbD_writeMasked]
  by_cases low : i < field.width
  · simp only [low, decide_true, Bool.true_and] at bit ⊢
    rw [bit, if_pos rfl]
  · simp [low]

end BitField

end Cx4Kernel.Foundation
