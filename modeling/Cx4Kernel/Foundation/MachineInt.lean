import Mathlib.Data.BitVec

/-! The fixed-width integers of the C sources. -/

namespace Cx4Kernel

/-- `unsigned char`. -/
abbrev U8 := BitVec 8

/-- `unsigned short`. -/
abbrev U16 := BitVec 16

/-- `unsigned int`, and `int` where the sources convert one to the other. -/
abbrev U32 := BitVec 32

/-- `unsigned long long`. -/
abbrev U64 := BitVec 64

/-- An `int` that is not negative is widened to the same number. -/
theorem toNat_signExtend_of_lt {x : U32} (h : x.toNat < 2 ^ 31)
    : (x.signExtend 64).toNat = x.toNat := by
  have positive : x.msb = false := BitVec.msb_eq_false_iff_two_mul_lt.mpr (by omega)
  rw [BitVec.toNat_signExtend, positive, BitVec.toNat_setWidth]
  simp
  omega

/-- A number that is cut to an `int` and widened again loses a multiple of 2^32, which is 0
exactly when the number is below 2^31.
-/
theorem signExtend_ofNat {number : Nat} (h : number < 2 ^ 40 - 2 ^ 32)
    : ∃ lost ≤ 255, (lost = 0 ↔ number < 2 ^ 31)
      ∧ (BitVec.ofNat 32 number).signExtend 64
        = BitVec.ofNat 64 number - BitVec.ofNat 64 (lost * 2 ^ 32) := by
  rcases positive : (BitVec.ofNat 32 number).msb with _ | _
  · have low := BitVec.msb_eq_false_iff_two_mul_lt.mp positive
    rw [BitVec.toNat_ofNat] at low
    refine ⟨number / 2 ^ 32, by omega, by omega, ?_⟩
    apply BitVec.eq_of_toNat_eq
    rw [BitVec.toNat_signExtend, positive, BitVec.toNat_sub]
    simp only [BitVec.toNat_setWidth, BitVec.toNat_ofNat, Bool.false_eq_true, if_false]
    omega
  · have high : ¬ 2 * (BitVec.ofNat 32 number).toNat < 2 ^ 32 := by
      rw [← BitVec.msb_eq_false_iff_two_mul_lt, positive]
      simp
    rw [BitVec.toNat_ofNat] at high
    refine ⟨number / 2 ^ 32 + 1, by omega, by omega, ?_⟩
    apply BitVec.eq_of_toNat_eq
    rw [BitVec.toNat_signExtend, positive, BitVec.toNat_sub]
    simp only [BitVec.toNat_setWidth, BitVec.toNat_ofNat, if_true]
    omega

/-- The 32-bit mask of a power of 2 clears the low bits of a 64-bit number, and with them all
bits from 32 on.
-/
theorem toNat_and_not_mask (x : U64) {size : U32} {shift : Nat}
    (power : size.toNat = 2 ^ shift)
    : (x &&& (~~~(size - 1)).setWidth 64).toNat
      = x.toNat % 2 ^ 32 / 2 ^ shift * 2 ^ shift := by
  have less : (size - 1).toNat = 2 ^ shift - 1 := by
    have bound := size.isLt
    have positive : 0 < 2 ^ shift := Nat.two_pow_pos shift
    rw [BitVec.toNat_sub, power, show (1 : U32).toNat = 1 from rfl]
    omega
  apply Nat.eq_of_testBit_eq
  intro i
  have low : (size - 1).getLsbD i = decide (i < shift) := by
    rw [← BitVec.testBit_toNat, less, Nat.testBit_two_pow_sub_one]
  rw [BitVec.testBit_toNat, BitVec.getLsbD_and, BitVec.getLsbD_setWidth, BitVec.getLsbD_not, low,
    Nat.testBit_mul_two_pow, Nat.testBit_div_two_pow, Nat.testBit_mod_two_pow,
    BitVec.testBit_toNat]
  by_cases above : shift ≤ i
  · rw [Nat.sub_add_cancel above]
    by_cases small : i < 32
    · simp [above, small, Nat.not_lt.mpr above, Nat.lt_trans small (by decide : 32 < 64)]
    · simp [small]
  · simp [above, Nat.not_le.mp above]

/-- A mask of low bits clears them. -/
theorem toNat_and_not_ones {width : Nat} (x : BitVec width) {mask : BitVec width} {shift : Nat}
    (ones : mask.toNat = 2 ^ shift - 1)
    : (x &&& ~~~mask).toNat = x.toNat / 2 ^ shift * 2 ^ shift := by
  apply Nat.eq_of_testBit_eq
  intro i
  have low : mask.getLsbD i = decide (i < shift) := by
    rw [← BitVec.testBit_toNat, ones, Nat.testBit_two_pow_sub_one]
  rw [BitVec.testBit_toNat, BitVec.getLsbD_and, BitVec.getLsbD_not, low,
    Nat.testBit_mul_two_pow, Nat.testBit_div_two_pow, BitVec.testBit_toNat]
  by_cases above : shift ≤ i
  · rw [Nat.sub_add_cancel above]
    by_cases small : i < width
    · simp [above, small, Nat.not_lt.mpr above]
    · simp [small, BitVec.getLsbD_of_ge x i (Nat.not_lt.mp small)]
  · simp [above, Nat.not_le.mp above]

end Cx4Kernel
