import Cx4Kernel.Cbios.SrTimingRegs

/-! The device timing that `cbGetSRTimingReg_E3K` reads is the one that was set, and it stays while
other IGAs are set.
-/

namespace Cx4Kernel.Cbios

open Cx4Kernel.Foundation

-----
-- The numbers of a timing

/-- The timings that the registers hold completely, where the blanking ends with the line and with
the frame: a sync of 1 to 32 characters and 1 to 16 lines, a back porch of at least two characters
and a blanking of at most 257 lines.
-/
structure SrReadable (timing : TimingAttrib) : Prop where
  display : 0 < timing.horDisEnd.toNat ∧ timing.horDisEnd.toNat ≤ 16384
  hSync : timing.horSyncStart.toNat + 8 ≤ timing.horSyncEnd.toNat
    ∧ timing.horSyncEnd.toNat < timing.horSyncStart.toNat + 264
  hBackPorch : timing.horSyncEnd.toNat + 16 ≤ timing.horTotal.toNat
  horTotal : 56 ≤ timing.horTotal.toNat ∧ timing.horTotal.toNat < 8208
  horBStart : timing.horBStart.toNat % 8 = 0 ∧ timing.horBStart.toNat ≤ timing.horTotal.toNat
  horBEnd : timing.horBEnd = timing.horTotal
  verDisEnd : 0 < timing.verDisEnd.toNat ∧ timing.verDisEnd.toNat ≤ 8192
  verTotal : timing.verTotal.toNat ≤ 8193
  verBStart : 0 < timing.verBStart.toNat ∧ timing.verBStart.toNat + 2 ≤ timing.verTotal.toNat
    ∧ timing.verTotal.toNat ≤ timing.verBStart.toNat + 257
  verBEnd : timing.verBEnd = timing.verTotal
  vSync : 0 < timing.verSyncStart.toNat ∧ timing.verSyncStart.toNat < timing.verSyncEnd.toNat
    ∧ timing.verSyncEnd.toNat ≤ timing.verSyncStart.toNat + 16
    ∧ timing.verSyncEnd.toNat < timing.verTotal.toNat

theorem toNat_difference {x y : U16} (le : y.toNat ≤ x.toNat)
    : (difference x y).toNat = x.toNat - y.toNat := by
  rw [difference, BitVec.toNat_sub, BitVec.toNat_setWidth, BitVec.toNat_setWidth]
  omega

theorem toNat_cells_down (pixels : U32)
    : (cbRound pixels cellGran .down).toNat = pixels.toNat / 8 :=
  rfl

theorem toNat_cells_up (pixels : U32)
    : (cbRound pixels cellGran .up).toNat = (pixels.toNat + 7) / 8 := by
  rw [toNat_cbRound_up (by decide)]
  change (if pixels.toNat % 8 = 0 then pixels.toNat / 8 else pixels.toNat / 8 + 1) = _
  split <;> omega

theorem toNat_low16 {word : U32} (small : word.toNat < 2 ^ 16)
    : (word.setWidth 16 : U16).toNat = word.toNat := by
  rw [BitVec.toNat_setWidth]
  exact Nat.mod_eq_of_lt small

theorem toNat_wide (word : U16) : (word.setWidth 32 : U32).toNat = word.toNat := by
  rw [BitVec.toNat_setWidth]
  omega

theorem toNat_clampTo (value limit : U16) (slack : Nat)
    : (clampTo value limit slack).toNat = min value.toNat (limit.toNat + slack) := by
  rw [clampTo]
  split
  · rw [BitVec.toNat_add, BitVec.toNat_ofNat]
    omega
  · omega

/-- The character positions of the line, and its three remainders. -/
structure HorNumbers (timing : TimingAttrib) : Prop where
  hss : (srTimingReg timing).hssRemainder.toNat = timing.horSyncStart.toNat % 8
  hSync : (srTimingReg timing).hSyncRemainder.toNat
    = (timing.horSyncEnd.toNat - timing.horSyncStart.toNat) % 8
  hBackPorch : (srTimingReg timing).hBackPorchRemainder.toNat
    = (timing.horTotal.toNat - timing.horSyncEnd.toNat) % 8
  horSyncStart : (srTimingReg timing).horSyncStart.toNat = timing.horSyncStart.toNat / 8
  horTotal : (srTimingReg timing).horTotal.toNat + 5
    = timing.horSyncStart.toNat / 8 + (timing.horSyncEnd.toNat - timing.horSyncStart.toNat) / 8
      + (timing.horTotal.toNat - timing.horSyncEnd.toNat) / 8
  horSyncEnd : (srTimingReg timing).horSyncEnd.toNat
    = (timing.horSyncStart.toNat / 8
        + (timing.horSyncEnd.toNat - timing.horSyncStart.toNat) / 8) % 2 ^ 5
  horDisEnd : (srTimingReg timing).horDisEnd.toNat + 1 = (timing.horDisEnd.toNat + 7) / 8
  horBStart : (srTimingReg timing).horBStart.toNat = timing.horBStart.toNat / 8
  horBEnd : (srTimingReg timing).horBEnd.toNat = (srTimingReg timing).horTotal.toNat + 3

variable {timing : TimingAttrib}

/-- The remainder of a width in pixels. -/
theorem toNat_remainder (width : U32) : ((width % 8).setWidth 8 : U8).toNat = width.toNat % 8 := by
  rw [BitVec.toNat_setWidth, BitVec.toNat_umod]
  change width.toNat % 8 % 2 ^ 8 = _
  omega

theorem SrReadable.horNumbers (readable : SrReadable timing) : HorNumbers timing := by
  obtain ⟨syncLow, syncHigh⟩ := readable.hSync
  have backPorch := readable.hBackPorch
  obtain ⟨totalLow, totalHigh⟩ := readable.horTotal
  obtain ⟨displayLow, displayHigh⟩ := readable.display
  obtain ⟨blankCells, blankLow⟩ := readable.horBStart
  have syncWidth : (difference timing.horSyncEnd timing.horSyncStart).toNat
      = timing.horSyncEnd.toNat - timing.horSyncStart.toNat := toNat_difference (by omega)
  have porchWidth : (difference timing.horTotal timing.horSyncEnd).toNat
      = timing.horTotal.toNat - timing.horSyncEnd.toNat := toNat_difference (by omega)
  have blankWidth : (difference timing.horBEnd timing.horBStart).toNat
      = timing.horTotal.toNat - timing.horBStart.toNat := by
    rw [readable.horBEnd]
    exact toNat_difference blankLow
  have hss : (srTimingReg timing).hssRemainder.toNat = timing.horSyncStart.toNat % 8 := by
    change ((timing.horSyncStart % 8).setWidth 8 : U8).toNat = _
    rw [BitVec.toNat_setWidth, BitVec.toNat_umod]
    change timing.horSyncStart.toNat % 8 % 2 ^ 8 = _
    omega
  have hSync : (srTimingReg timing).hSyncRemainder.toNat
      = (timing.horSyncEnd.toNat - timing.horSyncStart.toNat) % 8 := by
    rw [← syncWidth]
    exact toNat_remainder _
  have hBackPorch : (srTimingReg timing).hBackPorchRemainder.toNat
      = (timing.horTotal.toNat - timing.horSyncEnd.toNat) % 8 := by
    rw [← porchWidth]
    exact toNat_remainder _
  have cells (pixels : U16)
      : ((cbRound (pixels.setWidth 32) cellGran .down).setWidth 16 : U16).toNat
        = pixels.toNat / 8 := by
    rw [toNat_low16, toNat_cells_down, toNat_wide]
    rw [toNat_cells_down, toNat_wide]
    omega
  have horSyncStart : (srTimingReg timing).horSyncStart.toNat = timing.horSyncStart.toNat / 8 :=
    cells _
  have remainders : ((cbRound ((timing.horSyncStart % 8).setWidth 32
        + difference timing.horSyncEnd timing.horSyncStart % 8
        + difference timing.horTotal timing.horSyncEnd % 8) cellGran .down).setWidth 16 : U16).toNat
      = (timing.horSyncStart.toNat % 8
          + (timing.horSyncEnd.toNat - timing.horSyncStart.toNat) % 8
          + (timing.horTotal.toNat - timing.horSyncEnd.toNat) % 8) / 8 := by
    have sum : ((timing.horSyncStart % 8).setWidth 32
          + difference timing.horSyncEnd timing.horSyncStart % 8
          + difference timing.horTotal timing.horSyncEnd % 8 : U32).toNat
        = timing.horSyncStart.toNat % 8
          + (timing.horSyncEnd.toNat - timing.horSyncStart.toNat) % 8
          + (timing.horTotal.toNat - timing.horSyncEnd.toNat) % 8 := by
      rw [BitVec.toNat_add, BitVec.toNat_add, BitVec.toNat_umod, BitVec.toNat_umod, syncWidth,
        porchWidth, toNat_wide, BitVec.toNat_umod]
      change ((timing.horSyncStart.toNat % 8
        + (timing.horSyncEnd.toNat - timing.horSyncStart.toNat) % 8) % 2 ^ 32
        + (timing.horTotal.toNat - timing.horSyncEnd.toNat) % 8) % 2 ^ 32 = _
      omega
    rw [toNat_low16, toNat_cells_down, sum]
    rw [toNat_cells_down, sum]
    omega
  have horTotal : (srTimingReg timing).horTotal.toNat + 5
      = timing.horSyncStart.toNat / 8 + (timing.horSyncEnd.toNat - timing.horSyncStart.toNat) / 8
        + (timing.horTotal.toNat - timing.horSyncEnd.toNat) / 8 := by
    have unfolded : (srTimingReg timing).horTotal
        = (cbRound (timing.horTotal.setWidth 32) cellGran .down).setWidth 16 - 5
          - (cbRound ((timing.horSyncStart % 8).setWidth 32
              + difference timing.horSyncEnd timing.horSyncStart % 8
              + difference timing.horTotal timing.horSyncEnd % 8) cellGran .down).setWidth 16 := rfl
    rw [unfolded, BitVec.toNat_sub, BitVec.toNat_sub, remainders, cells]
    change (2 ^ 16 - _ + (2 ^ 16 - 5 + timing.horTotal.toNat / 8) % 2 ^ 16) % 2 ^ 16 + 5 = _
    omega
  have syncCells : (cbRound (difference timing.horSyncEnd timing.horSyncStart) cellGran .down).toNat
      = (timing.horSyncEnd.toNat - timing.horSyncStart.toNat) / 8 := by
    rw [toNat_cells_down, syncWidth]
  have horSyncEnd : (srTimingReg timing).horSyncEnd.toNat
      = (timing.horSyncStart.toNat / 8
          + (timing.horSyncEnd.toNat - timing.horSyncStart.toNat) / 8) % 2 ^ 5 := by
    obtain ⟨position, isPosition⟩ : ∃ position, clampTo ((srTimingReg timing).horSyncStart
      + (cbRound (difference timing.horSyncEnd timing.horSyncStart) cellGran .down).setWidth 16)
      (srTimingReg timing).horTotal 3 = position := ⟨_, rfl⟩
    have value : position.toNat = timing.horSyncStart.toNat / 8
        + (timing.horSyncEnd.toNat - timing.horSyncStart.toNat) / 8 := by
      rw [← isPosition, toNat_clampTo, BitVec.toNat_add, horSyncStart,
        toNat_low16 (by rw [syncCells]; omega), syncCells]
      omega
    have short : ¬ 32 < cbRound (difference timing.horSyncEnd timing.horSyncStart) cellGran .down := by
      rw [BitVec.lt_def, syncCells]
      change ¬ 32 < _
      omega
    have unfolded : (srTimingReg timing).horSyncEnd
        = if 32 < cbRound (difference timing.horSyncEnd timing.horSyncStart) cellGran .down then
            position &&& 0x1F ||| 0x20
          else position &&& 0x1F &&& ~~~0x20 := by
      rw [← isPosition]
      rfl
    rw [unfolded, if_neg short, BitVec.and_assoc, show (0x1F : U16) &&& ~~~0x20 = 0x1F by decide,
      BitVec.toNat_and, value]
    exact Nat.and_two_pow_sub_one_eq_mod _ 5
  have up (pixels : U16)
      : ((cbRound (pixels.setWidth 32) cellGran .up).setWidth 16 : U16).toNat
        = (pixels.toNat + 7) / 8 := by
    rw [toNat_low16, toNat_cells_up, toNat_wide]
    rw [toNat_cells_up, toNat_wide]
    omega
  have horDisEnd : (srTimingReg timing).horDisEnd.toNat + 1 = (timing.horDisEnd.toNat + 7) / 8 := by
    change ((cbRound (timing.horDisEnd.setWidth 32) cellGran .up).setWidth 16 - 1 : U16).toNat + 1 = _
    rw [BitVec.toNat_sub, up]
    change (2 ^ 16 - 1 + _) % 2 ^ 16 + 1 = _
    omega
  have horBStart : (srTimingReg timing).horBStart.toNat = timing.horBStart.toNat / 8 := by
    change ((cbRound (timing.horBStart.setWidth 32) cellGran .up).setWidth 16 : U16).toNat = _
    rw [up]
    omega
  have horBEnd : (srTimingReg timing).horBEnd.toNat = (srTimingReg timing).horTotal.toNat + 3 := by
    change (clampTo ((srTimingReg timing).horBStart
      + (cbRound (difference timing.horBEnd timing.horBStart) cellGran .down).setWidth 16)
      (srTimingReg timing).horTotal 3).toNat = _
    rw [toNat_clampTo, BitVec.toNat_add, horBStart, toNat_low16, toNat_cells_down, blankWidth]
    · omega
    · rw [toNat_cells_down, blankWidth]
      omega
  exact ⟨hss, hSync, hBackPorch, horSyncStart, horTotal, horSyncEnd, horDisEnd, horBStart, horBEnd⟩

/-- The lines of the frame. -/
structure VerNumbers (timing : TimingAttrib) : Prop where
  verTotal : (srTimingReg timing).verTotal.toNat + 2 = timing.verTotal.toNat
  verDisEnd : (srTimingReg timing).verDisEnd.toNat + 1 = timing.verDisEnd.toNat
  verBStart : (srTimingReg timing).verBStart.toNat + 1 = timing.verBStart.toNat
  verBEnd : (srTimingReg timing).verBEnd.toNat + 2 = timing.verTotal.toNat
  verSyncStart : (srTimingReg timing).verSyncStart.toNat + 1 = timing.verSyncStart.toNat
  verSyncEnd : (srTimingReg timing).verSyncEnd.toNat = (timing.verSyncEnd.toNat - 1) % 2 ^ 6

theorem SrReadable.verNumbers (readable : SrReadable timing) : VerNumbers timing := by
  obtain ⟨displayLow, displayHigh⟩ := readable.verDisEnd
  have totalHigh := readable.verTotal
  obtain ⟨blankLow, blankEnd, blankLines⟩ := readable.verBStart
  obtain ⟨syncLow, syncOrder, syncLines, syncEnd⟩ := readable.vSync
  have back (lines : U16) (less : Nat) (small : less < 2 ^ 16) (low : less ≤ lines.toNat)
      : (lines - BitVec.ofNat 16 less).toNat + less = lines.toNat := by
    rw [BitVec.toNat_sub, BitVec.toNat_ofNat]
    omega
  have blankWidth : (difference timing.verBEnd timing.verBStart).toNat
      = timing.verTotal.toNat - timing.verBStart.toNat := by
    rw [readable.verBEnd]
    exact toNat_difference (by omega)
  have syncWidth : (difference timing.verSyncEnd timing.verSyncStart).toNat
      = timing.verSyncEnd.toNat - timing.verSyncStart.toNat := toNat_difference (by omega)
  have verTotal : (srTimingReg timing).verTotal.toNat + 2 = timing.verTotal.toNat :=
    back _ 2 (by decide) (by omega)
  have verBStart : (srTimingReg timing).verBStart.toNat + 1 = timing.verBStart.toNat :=
    back _ 1 (by decide) (by omega)
  have verSyncStart : (srTimingReg timing).verSyncStart.toNat + 1 = timing.verSyncStart.toNat :=
    back _ 1 (by decide) (by omega)
  refine ⟨verTotal, back _ 1 (by decide) (by omega), verBStart, ?_, verSyncStart, ?_⟩
  · change (clampTo ((srTimingReg timing).verBStart
      + (difference timing.verBEnd timing.verBStart).setWidth 16) (srTimingReg timing).verTotal
      0).toNat + 2 = _
    rw [toNat_clampTo, BitVec.toNat_add, toNat_low16 (by rw [blankWidth]; omega), blankWidth]
    omega
  · change (clampTo ((srTimingReg timing).verSyncStart
      + (difference timing.verSyncEnd timing.verSyncStart).setWidth 16)
      (srTimingReg timing).verTotal 0 &&& 0x3F).toNat = _
    rw [BitVec.toNat_and, toNat_clampTo, BitVec.toNat_add,
      toNat_low16 (by rw [syncWidth]; omega), syncWidth]
    change _ &&& (2 ^ 6 - 1) = _
    rw [Nat.and_two_pow_sub_one_eq_mod]
    omega

-----
-- Reading a timing back

theorem toNat_withHighBits (temp start : U16) {width : Nat} (inside : width ≤ 16)
    : (withHighBits temp start (BitVec.ofNat 16 (2 ^ width - 1))).toNat
      = 2 ^ width * (start.toNat / 2 ^ width) + temp.toNat % 2 ^ width :=
  toNat_mergeLow temp start inside

/-- The end of a sync of 1 to 32 characters is read from its low five bits. -/
theorem readHorSyncEnd_eq {temp start : U16} {cells : Nat}
    (low : temp.toNat = cells % 2 ^ 5) (above : start.toNat < cells)
    (near : cells ≤ start.toNat + 32) (small : cells < 2 ^ 15)
    : (readHorSyncEnd temp start).toNat = cells := by
  have merged := toNat_withHighBits temp start (show 5 ≤ 16 by decide)
  rw [show BitVec.ofNat 16 (2 ^ 5 - 1) = 0x1F from rfl] at merged
  have clear : temp &&& 0x20 = 0 := by
    apply BitVec.eq_of_toNat_eq
    rw [BitVec.toNat_and]
    change temp.toNat &&& 2 ^ 5 = 0
    rw [Nat.and_two_pow, Nat.testBit_lt_two_pow (by omega)]
    rfl
  unfold readHorSyncEnd
  dsimp only
  rw [if_neg (not_not.mpr clear)]
  by_cases before : withHighBits temp start 0x1F ≤ start
  · rw [if_pos before, BitVec.toNat_add]
    rw [BitVec.le_def] at before
    change (_ + 32) % 2 ^ 16 = _
    omega
  · rw [if_neg before]
    rw [BitVec.le_def] at before
    omega

/-- A blanking that ends with the frame is read as such. -/
theorem readVerBEnd_eq {temp verBStart verTotal : U16} (low : temp.toNat % 2 ^ 8 = (verTotal.toNat - 1) % 2 ^ 8)
    (above : verBStart.toNat + 2 ≤ verTotal.toNat) (near : verTotal.toNat ≤ verBStart.toNat + 257)
    (small : verTotal.toNat < 2 ^ 15)
    : (readVerBEnd temp verBStart verTotal) = verTotal := by
  have merged := toNat_withHighBits temp verBStart (show 8 ≤ 16 by decide)
  rw [show BitVec.ofNat 16 (2 ^ 8 - 1) = 0xFF from rfl] at merged
  obtain ⟨ends, isEnds⟩ : ∃ ends, (if withHighBits temp verBStart 0xFF ≤ verBStart then
    withHighBits temp verBStart 0xFF + 0x100 else withHighBits temp verBStart 0xFF) = ends := ⟨_, rfl⟩
  have value : ends.toNat = verTotal.toNat - 1 := by
    rw [← isEnds]
    split
    · rename_i before
      rw [BitVec.le_def] at before
      rw [BitVec.toNat_add]
      change (_ + 256) % 2 ^ 16 = _
      omega
    · rename_i before
      rw [BitVec.le_def] at before
      omega
  apply BitVec.eq_of_toNat_eq
  unfold readVerBEnd
  dsimp only
  rw [isEnds, if_pos (by omega), BitVec.toNat_add, value]
  change (_ + 1) % 2 ^ 16 = _
  omega

/-- The end of a sync of 1 to 16 lines is read from its low four bits. -/
theorem readVerSyncEnd_eq {temp verSyncStart verSyncEnd : U16}
    (low : temp.toNat % 2 ^ 4 = verSyncEnd.toNat % 2 ^ 4)
    (above : verSyncStart.toNat < verSyncEnd.toNat)
    (near : verSyncEnd.toNat ≤ verSyncStart.toNat + 16) (small : verSyncEnd.toNat < 2 ^ 15)
    : readVerSyncEnd temp verSyncStart = verSyncEnd := by
  have merged := toNat_withHighBits temp verSyncStart (show 4 ≤ 16 by decide)
  rw [show BitVec.ofNat 16 (2 ^ 4 - 1) = 0x0F from rfl] at merged
  apply BitVec.eq_of_toNat_eq
  unfold readVerSyncEnd
  dsimp only
  by_cases before : withHighBits temp verSyncStart 0x0F ≤ verSyncStart
  · rw [if_pos before, BitVec.toNat_add]
    rw [BitVec.le_def] at before
    change (_ + 16) % 2 ^ 16 = _
    omega
  · rw [if_neg before]
    rw [BitVec.le_def] at before
    omega

/-- What `cbGetSRTimingReg_E3K` makes of a timing and the clock: the sizes are those of the display,
and the refresh rate is calculated.
-/
def readTiming (timing : TimingAttrib) (currPllClock : U32) : TimingAttrib :=
  { timing with
    formatVIC := 0
    xRes := timing.horDisEnd
    yRes := timing.verDisEnd
    refreshRate := readRefreshRate currPllClock timing.horTotal timing.verTotal
    hvPolarity := 0
    pixelClock := 0 }

theorem toNat_low3 (byte : U8) : ((byte &&& 0x07).setWidth 16 : U16).toNat = BitField.get ⟨0, 3⟩ byte := by
  rw [BitVec.toNat_setWidth, BitVec.toNat_and]
  change (byte.toNat &&& (2 ^ 3 - 1)) % 2 ^ 16 = byte.toNat >>> 0 % 2 ^ 3
  rw [Nat.and_two_pow_sub_one_eq_mod, Nat.shiftRight_zero]
  omega

theorem toNat_middle3 (byte : U8)
    : (((byte >>> 3) &&& 0x07).setWidth 16 : U16).toNat = BitField.get ⟨3, 3⟩ byte := by
  rw [toNat_low3]
  simp only [BitField.get, BitVec.toNat_ushiftRight, Nat.shiftRight_zero]

/-- The adjustment of `HorDisEnd`, 0 when it is off. -/
theorem toNat_hDisEndRemainder {byte : U8} {pixels : Nat}
    (field : BitField.get ⟨0, 4⟩ byte = if pixels % 8 = 0 then 0 else 8 + (pixels % 8 - 1))
    : (if byte &&& 0x08 ≠ 0 then (byte &&& 0x07).setWidth 16 + 1 else 0 : U16).toNat
      = pixels % 8 := by
  have split := BitField.get_append byte 0 3 1
  have bit : byte &&& 0x08 ≠ 0 ↔ BitField.get ⟨3, 1⟩ byte = 1 := by
    rw [ne_eq, ← BitVec.toNat_inj, BitVec.toNat_and]
    change ¬ byte.toNat &&& 2 ^ 3 = 0 ↔ byte.toNat >>> 3 % 2 ^ 1 = 1
    rw [Nat.and_two_pow, Nat.toNat_testBit, Nat.shiftRight_eq_div_pow]
    omega
  have low : BitField.get ⟨0, 3⟩ byte < 2 ^ 3 := BitField.get_lt ⟨0, 3⟩ byte
  have high : BitField.get ⟨3, 1⟩ byte < 2 ^ 1 := BitField.get_lt ⟨3, 1⟩ byte
  rw [field] at split
  change BitField.get ⟨0, 3⟩ byte + 2 ^ 3 * BitField.get ⟨3, 1⟩ byte = _ at split
  by_cases whole : pixels % 8 = 0
  · rw [if_pos whole] at split
    rw [if_neg (by rw [bit]; omega), whole]
    rfl
  · rw [if_neg whole] at split
    rw [if_pos (by rw [bit]; omega), BitVec.toNat_add, toNat_low3]
    change (_ + 1) % 2 ^ 16 = _
    omega

variable {patch : HbackPatch} {igaIndex : IgaIndex} {regs : ByteRegs}

/-- The number of a table, in 16 bits. -/
theorem SrTimingHolds.read16 (holds : SrTimingHolds patch igaIndex regs) (value : U16)
    (table : List (ByteReg × U8))
    (member : (value.setWidth 32, table) ∈ srSyncEntries (srTimingReg patch.timing)
      ++ srDisplayEntries (srTimingReg patch.timing))
    (fits : value.toNat < 2 ^ tableBits table)
    : ((cbMapMaskRead regs table igaIndex).setWidth 16 : U16) = value := by
  have read := holds.tables _ member
  apply BitVec.eq_of_toNat_eq
  rw [BitVec.toNat_setWidth, read, toNat_wide, Nat.mod_eq_of_lt fits]
  exact Nat.mod_eq_of_lt value.isLt

/-- A timing that the registers can hold is read as it was set. -/
theorem SrTimingHolds.read (holds : SrTimingHolds patch igaIndex regs)
    (readable : SrReadable patch.timing) (currPllClock : U32)
    : cbGetSrTimingRegE3k regs igaIndex currPllClock = readTiming patch.timing currPllClock := by
  obtain ⟨timing, isTiming⟩ : ∃ timing, patch.timing = timing := ⟨_, rfl⟩
  have hor := readable.horNumbers
  have ver := readable.verNumbers
  obtain ⟨syncLow, syncHigh⟩ := readable.hSync
  have backPorch := readable.hBackPorch
  obtain ⟨totalLow, totalHigh⟩ := readable.horTotal
  obtain ⟨displayLow, displayHigh⟩ := readable.display
  obtain ⟨blankCells, blankLow⟩ := readable.horBStart
  obtain ⟨linesLow, linesHigh⟩ := readable.verDisEnd
  have frame := readable.verTotal
  obtain ⟨vBlankLow, vBlankEnd, vBlankLines⟩ := readable.verBStart
  obtain ⟨vSyncLow, vSyncOrder, vSyncLines, vSyncEnd⟩ := readable.vSync
  have lineEnd := readable.horBEnd
  have frameEnd := readable.verBEnd
  have read16 := holds.read16
  have table := holds.tables ((srTimingReg patch.timing).verBEnd.setWidth 32, vbe2RegIndex)
    (by simp [srDisplayEntries])
  have hss := hor.hss
  have hSync := hor.hSync
  have hBackPorch := hor.hBackPorch
  rw [← holds.hssRemainder, ← toNat_low3] at hss
  rw [← holds.hSyncRemainder, ← toNat_middle3] at hSync
  rw [← holds.hBackPorchRemainder, ← toNat_low3] at hBackPorch
  have hdeRemainder := toNat_hDisEndRemainder holds.hdeRemainder
  rw [isTiming] at *
  obtain ⟨-, -, -, horSyncStart, horTotal, horSyncEnd, horDisEnd, horBStart, horBEnd⟩ := hor
  obtain ⟨verTotal, verDisEnd, verBStart, verBEnd, verSyncStart, verSyncEnd⟩ := ver
  unfold cbGetSrTimingRegE3k ByteRegs.biosReadReg
  dsimp only
  rw [read16 (srTimingReg timing).horSyncStart hss2RegIndex (by simp [srSyncEntries])
      (by change _ < 2 ^ 11; omega),
    read16 (srTimingReg timing).horTotal ht2RegIndex (by simp [srSyncEntries])
      (by change _ < 2 ^ 11; omega),
    read16 (srTimingReg timing).horSyncEnd hse2RegIndex (by simp [srSyncEntries])
      (by change _ < 2 ^ 6; omega),
    read16 (srTimingReg timing).horDisEnd hde2RegIndex (by simp [srDisplayEntries])
      (by change _ < 2 ^ 11; omega),
    read16 (srTimingReg timing).horBStart hbs2RegIndex (by simp [srDisplayEntries])
      (by change _ < 2 ^ 11; omega),
    read16 (srTimingReg timing).horBEnd hbe2RegIndex (by simp [srDisplayEntries])
      (by change _ < 2 ^ 10; omega),
    read16 (srTimingReg timing).verTotal vt2RegIndex (by simp [srDisplayEntries])
      (by change _ < 2 ^ 13; omega),
    read16 (srTimingReg timing).verDisEnd vde2RegIndex (by simp [srDisplayEntries])
      (by change _ < 2 ^ 13; omega),
    read16 (srTimingReg timing).verBStart vbs2RegIndex (by simp [srDisplayEntries])
      (by change _ < 2 ^ 13; omega),
    read16 (srTimingReg timing).verSyncStart vss2RegIndex (by simp [srDisplayEntries])
      (by change _ < 2 ^ 13; omega),
    read16 (srTimingReg timing).verSyncEnd vse2RegIndex (by simp [srDisplayEntries])
      (by change _ < 2 ^ 6; omega)]
  obtain ⟨hssPixels, isHss⟩ : ∃ pixels,
      ((regs (ByteReg.forIga ⟨.cr, 0x72⟩ igaIndex) &&& 0x07).setWidth 16 : U16) = pixels := ⟨_, rfl⟩
  obtain ⟨hSyncPixels, isHSync⟩ : ∃ pixels,
      (((regs (ByteReg.forIga ⟨.cr, 0x72⟩ igaIndex) >>> 3) &&& 0x07).setWidth 16 : U16) = pixels :=
    ⟨_, rfl⟩
  obtain ⟨hBackPorchPixels, isHBackPorch⟩ : ∃ pixels,
      ((regs (ByteReg.forIga ⟨.cr, 0x73⟩ igaIndex) &&& 0x07).setWidth 16 : U16) = pixels := ⟨_, rfl⟩
  rw [isHss] at hss
  rw [isHSync] at hSync
  rw [isHBackPorch] at hBackPorch
  have times8 (x : U16) (small : x.toNat < 2 ^ 13) : (x * 8).toNat = x.toNat * 8 := by
    rw [BitVec.toNat_mul]
    change x.toNat * 8 % 2 ^ 16 = _
    omega
  have plus (x : U16) (more : Nat) (small : x.toNat + more < 2 ^ 16)
      : (x + BitVec.ofNat 16 more).toNat = x.toNat + more := by
    rw [BitVec.toNat_add, BitVec.toNat_ofNat]
    omega
  have sum : (hssPixels + hSyncPixels + hBackPorchPixels).toNat
      = timing.horSyncStart.toNat % 8
        + (timing.horSyncEnd.toNat - timing.horSyncStart.toNat) % 8
        + (timing.horTotal.toNat - timing.horSyncEnd.toNat) % 8 := by
    rw [BitVec.toNat_add, BitVec.toNat_add]
    omega
  have readHss : (srTimingReg timing).horSyncStart * 8 + hssPixels = timing.horSyncStart := by
    apply BitVec.eq_of_toNat_eq
    rw [BitVec.toNat_add, times8 _ (by omega)]
    omega
  have readHt : ((srTimingReg timing).horTotal + 5) * 8
      + (hssPixels + hSyncPixels + hBackPorchPixels) = timing.horTotal := by
    apply BitVec.eq_of_toNat_eq
    have five : ((srTimingReg timing).horTotal + 5).toNat = (srTimingReg timing).horTotal.toNat + 5 :=
      plus _ 5 (by omega)
    rw [BitVec.toNat_add, times8 _ (by rw [five]; omega), five, sum]
    omega
  have readHse : readHorSyncEnd (srTimingReg timing).horSyncEnd (timing.horSyncStart / 8) * 8
      + (hSyncPixels + hssPixels) = timing.horSyncEnd := by
    have start : (timing.horSyncStart / 8).toNat = timing.horSyncStart.toNat / 8 := by
      rw [BitVec.toNat_udiv]
      rfl
    have cells := readHorSyncEnd_eq horSyncEnd (by rw [start]; omega) (by rw [start]; omega)
      (by omega)
    apply BitVec.eq_of_toNat_eq
    rw [BitVec.toNat_add, times8 _ (by rw [cells]; omega), cells, BitVec.toNat_add]
    omega
  have readHde : readHorDisEnd (srTimingReg timing).horDisEnd
      (if regs (ByteReg.forIga ⟨.cr, 0x58⟩ igaIndex) &&& 0x08 ≠ 0 then
        (regs (ByteReg.forIga ⟨.cr, 0x58⟩ igaIndex) &&& 0x07).setWidth 16 + 1 else 0)
      = timing.horDisEnd := by
    obtain ⟨rest, isRest⟩ : ∃ rest : U16,
        (if regs (ByteReg.forIga ⟨.cr, 0x58⟩ igaIndex) &&& 0x08 ≠ 0 then
          (regs (ByteReg.forIga ⟨.cr, 0x58⟩ igaIndex) &&& 0x07).setWidth 16 + 1 else 0) = rest :=
      ⟨_, rfl⟩
    rw [isRest] at hdeRemainder ⊢
    apply BitVec.eq_of_toNat_eq
    unfold readHorDisEnd
    have one : ((srTimingReg timing).horDisEnd + 1).toNat = (srTimingReg timing).horDisEnd.toNat + 1 :=
      plus _ 1 (by omega)
    by_cases whole : rest = 0
    · rw [if_neg (not_not.mpr whole), BitVec.toNat_add, times8 _ (by rw [one]; omega), one,
        hdeRemainder]
      rw [whole] at hdeRemainder
      change 0 = _ at hdeRemainder
      omega
    · have some : rest.toNat ≠ 0 := fun zero => whole (BitVec.eq_of_toNat_eq zero)
      rw [if_pos whole, BitVec.toNat_add, times8 _ (by omega), hdeRemainder]
      omega
  have readHbs : (srTimingReg timing).horBStart * 8 = timing.horBStart := by
    apply BitVec.eq_of_toNat_eq
    rw [times8 _ (by omega)]
    omega
  have readHbe : readHorBEnd (srTimingReg timing).horBEnd (srTimingReg timing).horTotal
      (hssPixels + hSyncPixels + hBackPorchPixels) = timing.horBEnd := by
    have two : ((srTimingReg timing).horBEnd + 2).toNat = (srTimingReg timing).horBEnd.toNat + 2 :=
      plus _ 2 (by omega)
    rw [readHorBEnd, if_pos (by omega), lineEnd]
    apply BitVec.eq_of_toNat_eq
    rw [BitVec.toNat_add, times8 _ (by rw [two]; omega), two, sum]
    omega
  have readVt : (srTimingReg timing).verTotal + 2 = timing.verTotal :=
    BitVec.eq_of_toNat_eq (by rw [← verTotal]; exact plus _ 2 (by omega))
  have readVde : (srTimingReg timing).verDisEnd + 1 = timing.verDisEnd :=
    BitVec.eq_of_toNat_eq (by rw [← verDisEnd]; exact plus _ 1 (by omega))
  have readVbs : (srTimingReg timing).verBStart + 1 = timing.verBStart :=
    BitVec.eq_of_toNat_eq (by rw [← verBStart]; exact plus _ 1 (by omega))
  have readVss : (srTimingReg timing).verSyncStart + 1 = timing.verSyncStart :=
    BitVec.eq_of_toNat_eq (by rw [← verSyncStart]; exact plus _ 1 (by omega))
  have readVbe : readVerBEnd ((cbMapMaskRead regs vbe2RegIndex igaIndex).setWidth 16 + 1)
      timing.verBStart timing.verTotal = timing.verBEnd := by
    rw [toNat_wide] at table
    change (cbMapMaskRead regs vbe2RegIndex igaIndex).toNat = _ % 2 ^ 9 at table
    rw [frameEnd]
    apply readVerBEnd_eq _ vBlankEnd vBlankLines (by omega)
    have one := plus ((cbMapMaskRead regs vbe2RegIndex igaIndex).setWidth 16) 1
      (by rw [BitVec.toNat_setWidth, table]; omega)
    rw [BitVec.toNat_setWidth, table] at one
    change (_ + BitVec.ofNat 16 1).toNat % 2 ^ 8 = _
    omega
  have readVse : readVerSyncEnd ((srTimingReg timing).verSyncEnd + 1) timing.verSyncStart
      = timing.verSyncEnd := by
    apply readVerSyncEnd_eq _ vSyncOrder vSyncLines (by omega)
    have one := plus (srTimingReg timing).verSyncEnd 1 (by omega)
    change (_ + BitVec.ofNat 16 1).toNat % 2 ^ 4 = _
    omega
  rw [isHss, isHSync, isHBackPorch, readHss, readHt, readHse, readHde, readHbs, readHbe, readVt,
    readVde, readVbs, readVss, readVbe, readVse]
  rfl

end Cx4Kernel.Cbios
