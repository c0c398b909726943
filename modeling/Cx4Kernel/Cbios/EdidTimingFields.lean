import Cx4Kernel.Cbios.EdidTiming

/-! The fields of timing descriptors over the integers, and how the tables and the shifts of the
parsers read them.
-/

namespace Cx4Kernel.Cbios

open Cx4Kernel.Foundation

/-- One direction of a timing over the integers. -/
structure IntAxis where
  res : Nat
  blank : Nat
  syncOffset : Nat
  syncWidth : Nat

/-- The fields of a descriptor. -/
structure IntTiming where
  pixelClock : Nat
  hor : IntAxis
  ver : IntAxis

/-- The parser has the field of a descriptor up to multiples of 2^16. -/
structure Axis.CutFrom (axis : Axis) (fields : IntAxis) : Prop where
  res : axis.res.toNat = fields.res % 65536
  blank : axis.blank.toNat = fields.blank % 65536
  syncOffset : axis.syncOffset.toNat = fields.syncOffset % 65536
  syncWidth : axis.syncWidth.toNat = fields.syncWidth % 65536

-----------------------------------------------------------------------------------------
-- Descriptors
-----------------------------------------------------------------------------------------

/-- The fields of a detailed timing descriptor, where an interlaced one has the lines of a field.
-/
def dtlFields (data : Nat → U8) : IntTiming :=
  let byte (i : Nat) : Nat := (data i).toNat
  let field : IntAxis :=
    { res := byte 5 + 256 * (byte 7 / 16)
      blank := byte 6 + 256 * (byte 7 % 16)
      syncOffset := byte 10 / 16 + 16 * (byte 11 / 4 % 4)
      syncWidth := byte 10 % 16 + 16 * (byte 11 % 4) }
  { pixelClock := (byte 0 + 256 * byte 1) * 100
    hor :=
      { res := byte 2 + 256 * (byte 4 / 16)
        blank := byte 3 + 256 * (byte 4 % 16)
        syncOffset := byte 8 + 256 * (byte 11 / 64)
        syncWidth := byte 9 + 256 * (byte 11 / 16 % 4) }
    ver :=
      if byte 17 / 128 = 1 then
        { res := 2 * field.res
          blank := 2 * field.blank + 1
          syncOffset := 2 * field.syncOffset
          syncWidth := 2 * field.syncWidth }
      else field }

/-- The fields of a DisplayID descriptor, which hold one less than their values. -/
def didFields (type7 : Bool) (data : Nat → U8) : IntTiming :=
  let byte (i : Nat) : Nat := (data i).toNat
  { pixelClock := (byte 0 + 256 * byte 1 + 65536 * byte 2 + 1) * (if type7 then 10 else 100)
    hor :=
      { res := byte 4 + 256 * byte 5 + 1
        blank := byte 6 + 256 * byte 7 + 1
        syncOffset := byte 8 + 256 * (byte 9 % 128) + 1
        syncWidth := byte 10 + 256 * byte 11 + 1 }
    ver :=
      { res := byte 12 + 256 * byte 13 + 1
        blank := byte 14 + 256 * byte 15 + 1
        syncOffset := byte 16 + 256 * (byte 17 % 128) + 1
        syncWidth := byte 18 + 256 * byte 19 + 1 } }

variable (data : Nat → U8)

/-- A table of two fields. -/
theorem toNat_mapMaskRead_pair {low high : Nat} {lowMask highMask : U8}
    (lowField highField : BitField)
    (lowBits : maskBits lowMask = List.range' lowField.offset lowField.width)
    (highBits : maskBits highMask = List.range' highField.offset highField.width)
    (room : lowField.width + highField.width ≤ 32)
    : (mapMaskRead data [(low, lowMask), (high, highMask)]).toNat
      = lowField.get (data low) + 2 ^ lowField.width * highField.get (data high) := by
  rw [toNat_mapMaskRead, gather_cons_field lowBits, gather_cons_field highBits, gather_nil]
  · simp
  · simpa [tableBits, lowBits, highBits] using room

theorem toNat_mapMaskU16_pair {low high : Nat} {lowMask highMask : U8}
    (lowField highField : BitField)
    (lowBits : maskBits lowMask = List.range' lowField.offset lowField.width)
    (highBits : maskBits highMask = List.range' highField.offset highField.width)
    (room : lowField.width + highField.width ≤ 16)
    : (mapMaskU16 data [(low, lowMask), (high, highMask)]).toNat
      = lowField.get (data low) + 2 ^ lowField.width * highField.get (data high) := by
  rw [mapMaskU16, BitVec.toNat_setWidth,
    toNat_mapMaskRead_pair data lowField highField lowBits highBits (by omega)]
  apply Nat.mod_eq_of_lt
  have lowLt := lowField.get_lt (data low)
  have highLt := Nat.mul_le_mul_left (2 ^ lowField.width)
    (Nat.succ_le_of_lt (highField.get_lt (data high)))
  rw [Nat.mul_succ, ← Nat.pow_add] at highLt
  have power : 2 ^ (lowField.width + highField.width) ≤ 2 ^ 16 :=
    Nat.pow_le_pow_right (by decide) room
  omega

theorem toNat_dtlHor
    : (dtlHor data).res.toNat = (dtlFields data).hor.res
      ∧ (dtlHor data).blank.toNat = (dtlFields data).hor.blank
      ∧ (dtlHor data).syncOffset.toNat = (dtlFields data).hor.syncOffset
      ∧ (dtlHor data).syncWidth.toNat = (dtlFields data).hor.syncWidth := by
  have b2 := (data 2).isLt
  have b3 := (data 3).isLt
  have b4 := (data 4).isLt
  have b8 := (data 8).isLt
  have b9 := (data 9).isLt
  have b11 := (data 11).isLt
  refine ⟨(toNat_mapMaskU16_pair data ⟨0, 8⟩ ⟨4, 4⟩ (by decide) (by decide) (by decide)).trans ?_,
    (toNat_mapMaskU16_pair data ⟨0, 8⟩ ⟨0, 4⟩ (by decide) (by decide) (by decide)).trans ?_,
    (toNat_mapMaskU16_pair data ⟨0, 8⟩ ⟨6, 2⟩ (by decide) (by decide) (by decide)).trans ?_,
    (toNat_mapMaskU16_pair data ⟨0, 8⟩ ⟨4, 2⟩ (by decide) (by decide) (by decide)).trans ?_⟩
  all_goals
    simp only [BitField.get, dtlFields, Nat.shiftRight_eq_div_pow]
    omega

/-- The lines of a field, before an interlaced timing doubles them. -/
theorem toNat_dtlVer_field
    : (mapMaskU16 data edidVerticalActive).toNat = (data 5).toNat + 256 * ((data 7).toNat / 16)
      ∧ (mapMaskU16 data edidVerticalBlanking).toNat
        = (data 6).toNat + 256 * ((data 7).toNat % 16)
      ∧ (mapMaskU16 data edidVerticalSyncOffset).toNat
        = (data 10).toNat / 16 + 16 * ((data 11).toNat / 4 % 4)
      ∧ (mapMaskU16 data edidVerticalSyncPulseWidth).toNat
        = (data 10).toNat % 16 + 16 * ((data 11).toNat % 4) := by
  have b5 := (data 5).isLt
  have b6 := (data 6).isLt
  have b7 := (data 7).isLt
  have b10 := (data 10).isLt
  have b11 := (data 11).isLt
  refine ⟨(toNat_mapMaskU16_pair data ⟨0, 8⟩ ⟨4, 4⟩ (by decide) (by decide) (by decide)).trans ?_,
    (toNat_mapMaskU16_pair data ⟨0, 8⟩ ⟨0, 4⟩ (by decide) (by decide) (by decide)).trans ?_,
    (toNat_mapMaskU16_pair data ⟨4, 4⟩ ⟨2, 2⟩ (by decide) (by decide) (by decide)).trans ?_,
    (toNat_mapMaskU16_pair data ⟨0, 4⟩ ⟨0, 2⟩ (by decide) (by decide) (by decide)).trans ?_⟩
  all_goals
    simp only [BitField.get, Nat.shiftRight_eq_div_pow]
    omega

theorem dtlInterlaced_iff : dtlInterlaced data = true ↔ (data 17).toNat / 128 = 1 := by
  have all : ∀ byte : U8, byte &&& 0x80 ≠ 0 ↔ byte.toNat / 128 = 1 := by decide
  rw [dtlInterlaced, decide_eq_true_iff]
  exact all (data 17)

theorem toNat_dtlVer
    : (dtlVer data).res.toNat = (dtlFields data).ver.res
      ∧ (dtlVer data).blank.toNat = (dtlFields data).ver.blank
      ∧ (dtlVer data).syncOffset.toNat = (dtlFields data).ver.syncOffset
      ∧ (dtlVer data).syncWidth.toNat = (dtlFields data).ver.syncWidth := by
  have b5 := (data 5).isLt
  have b6 := (data 6).isLt
  have b7 := (data 7).isLt
  have b10 := (data 10).isLt
  have b11 := (data 11).isLt
  obtain ⟨res, blank, syncOffset, syncWidth⟩ := toNat_dtlVer_field data
  unfold dtlVer dtlFields
  by_cases interlaced : (data 17).toNat / 128 = 1
  · simp only [(dtlInterlaced_iff data).mpr interlaced, interlaced, if_true, BitVec.toNat_mul,
      BitVec.toNat_add, res, blank, syncOffset, syncWidth, show (2 : U16).toNat = 2 from rfl,
      show (1 : U16).toNat = 1 from rfl]
    omega
  · have progressive : ¬ dtlInterlaced data = true := fun set =>
      interlaced ((dtlInterlaced_iff data).mp set)
    simp only [progressive, interlaced, Bool.false_eq_true, if_false, res, blank, syncOffset,
      syncWidth, and_self]

/-- A field of two bytes, up to the one that is added. -/
theorem toNat_didWord (high low : U8)
    : (didWord high low).toNat = (low.toNat + 256 * high.toNat + 1) % 65536 := by
  have highLt := high.isLt
  have lowLt := low.isLt
  rw [didWord, BitVec.toNat_add, BitVec.toNat_add, BitVec.toNat_shiftLeft, BitVec.toNat_setWidth,
    BitVec.toNat_setWidth, Nat.shiftLeft_eq, show (1 : U16).toNat = 1 from rfl]
  omega

theorem toNat_didPixelClock (type7 : Bool)
    : (didPixelClock data type7).toNat = (didFields type7 data).pixelClock := by
  have b0 := (data 0).isLt
  have b1 := (data 1).isLt
  have b2 := (data 2).isLt
  have clock : (((data 2).setWidth 32 <<< 16) + ((data 1).setWidth 32 <<< 8)
      + ((data 0).setWidth 32 + 1) : U32).toNat
      = (data 0).toNat + 256 * (data 1).toNat + 65536 * (data 2).toNat + 1 := by
    simp only [BitVec.toNat_add, BitVec.toNat_shiftLeft, BitVec.toNat_setWidth, Nat.shiftLeft_eq,
      show (1 : U32).toNat = 1 from rfl]
    omega
  unfold didPixelClock didFields
  cases type7 with
  | false =>
    simp only [Bool.false_eq_true, if_false, BitVec.toNat_mul, clock,
      show (100 : U32).toNat = 100 from rfl]
    omega
  | true =>
    simp only [if_true, BitVec.toNat_mul, clock, show (10 : U32).toNat = 10 from rfl]
    omega

/-- A mask of seven bits. -/
theorem toNat_and_7f (byte : U8) : (byte &&& 0x7F).toNat = byte.toNat % 128 := by
  rw [BitVec.toNat_and, show (0x7F : U8).toNat = 2 ^ 7 - 1 from rfl, Nat.and_two_pow_sub_one_eq_mod]

theorem didHor_cut (type7 : Bool) : (didHor data).CutFrom (didFields type7 data).hor := by
  constructor <;> simp only [didHor, toNat_didWord, toNat_and_7f, didFields]

theorem didVer_cut (type7 : Bool) : (didVer data).CutFrom (didFields type7 data).ver := by
  constructor <;> simp only [didVer, toNat_didWord, toNat_and_7f, didFields]

theorem dtlHor_cut : (dtlHor data).CutFrom (dtlFields data).hor := by
  obtain ⟨res, blank, syncOffset, syncWidth⟩ := toNat_dtlHor data
  constructor
  · rw [← res, Nat.mod_eq_of_lt (BitVec.isLt _)]
  · rw [← blank, Nat.mod_eq_of_lt (BitVec.isLt _)]
  · rw [← syncOffset, Nat.mod_eq_of_lt (BitVec.isLt _)]
  · rw [← syncWidth, Nat.mod_eq_of_lt (BitVec.isLt _)]

theorem dtlVer_cut : (dtlVer data).CutFrom (dtlFields data).ver := by
  obtain ⟨res, blank, syncOffset, syncWidth⟩ := toNat_dtlVer data
  constructor
  · rw [← res, Nat.mod_eq_of_lt (BitVec.isLt _)]
  · rw [← blank, Nat.mod_eq_of_lt (BitVec.isLt _)]
  · rw [← syncOffset, Nat.mod_eq_of_lt (BitVec.isLt _)]
  · rw [← syncWidth, Nat.mod_eq_of_lt (BitVec.isLt _)]

theorem toNat_dtlPixelClock
    : (mapMaskRead data edidPixelClock * 100).toNat = (dtlFields data).pixelClock := by
  have b0 := (data 0).isLt
  have b1 := (data 1).isLt
  rw [BitVec.toNat_mul, edidPixelClock,
    toNat_mapMaskRead_pair data ⟨0, 8⟩ ⟨0, 8⟩ (by decide) (by decide) (by decide)]
  simp only [BitField.get_whole, dtlFields, show (100 : U32).toNat = 100 from rfl]
  omega

end Cx4Kernel.Cbios
