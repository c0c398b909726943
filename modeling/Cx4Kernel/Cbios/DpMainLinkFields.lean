import Cx4Kernel.Cbios.DpMainLink

/-! What the registers of the main link hold after `cbDIU_DP_SetUpMainLink`: the width, the ratio of
the transfer unit and the durations of the timing, unless the two registers of the width are
computed from different quotients or the ratio is 1.
-/

namespace Cx4Kernel.Cbios

open Cx4Kernel.Foundation

variable (index : Nat) (params : MainLinkParams) (regs : Mmio)

-----------------------------------------------------------------------------------------
-- The timing and the link over the integers
-----------------------------------------------------------------------------------------

namespace MainLinkParams

/-- The bits of a pixel in the color format. -/
def bitsPerPixel (params : MainLinkParams) : Nat :=
  (if params.colorFormat = 1 then 2 else 3) * params.bpc.toNat

/-- The bits that the timing needs. -/
def needed (params : MainLinkParams) : Nat := params.timing.pixelClock.toNat * params.bitsPerPixel

/-- The bits that the link has. -/
def available (params : MainLinkParams) : Nat :=
  params.linkedSpeed.toNat * params.linkedLaneNumber.toNat * 8

/-- The number of clocks of the link in some pixels. -/
def linkClocks (params : MainLinkParams) (pixels : Nat) : Nat :=
  pixels * params.linkedSpeed.toNat / params.timing.pixelClock.toNat

/-- The pixels of a line that one lane carries at most. -/
def laneWidth (params : MainLinkParams) : Nat :=
  (params.timing.horDisEnd.toNat + params.linkedLaneNumber.toNat - 1)
    / params.linkedLaneNumber.toNat

/-- A timing that the link can carry. -/
structure Fits (params : MainLinkParams) : Prop where
  lanes : params.linkedLaneNumber = 1 ∨ params.linkedLaneNumber = 2 ∨ params.linkedLaneNumber = 4
  active : 0 < params.timing.horDisEnd.toNat
  blank : params.timing.horDisEnd.toNat < params.timing.horTotal.toNat
  width : params.timing.horDisEnd.toNat ≤ 8192
  some : 0 < params.needed
  enough : params.needed ≤ params.available

/-- What the registers are to hold for the timing and the link. -/
structure Holds (params : MainLinkParams) (index : Nat) (regs : Mmio) : Prop where
  width :
    RegMm821C.horizontalWidthBit12to11.get (regs.u32 (DpReg.extPacket.address index)) * 2 ^ 11
      + RegMm8244.horizWidth.get (regs.u32 (DpReg.hwidthTu.address index))
    = params.laneWidth - 1
  ratio :
    RegMm8244.tuRatio.get (regs.u32 (DpReg.hwidthTu.address index))
    = params.needed * 2 ^ 15 / params.available
  line :
    64 ≤ params.linkClocks params.timing.horTotal.toNat
    → params.linkClocks params.timing.horTotal.toNat - 64 < 2 ^ 15
    → RegMm8248.horizLineDuration.get (regs.u32 (DpReg.hlineDur.address index))
      = params.linkClocks params.timing.horTotal.toNat - 64
  hblank :
    64 ≤ params.linkClocks (params.timing.horTotal.toNat - params.timing.horDisEnd.toNat)
    → params.linkClocks (params.timing.horTotal.toNat - params.timing.horDisEnd.toNat) - 64 < 2 ^ 12
    → RegMm8248.hblankDuration.get (regs.u32 (DpReg.hlineDur.address index))
      = params.linkClocks (params.timing.horTotal.toNat - params.timing.horDisEnd.toNat) - 64

/-- The product of the bandwidth does not wrap, the timing does not use all of it, and the lanes
share the width evenly or have no full block of 2048 pixels as their smaller share.
-/
structure Exact (params : MainLinkParams) : Prop where
  bandwidth : params.available < 2 ^ 32
  spare : params.needed < params.available
  shares :
    params.timing.horDisEnd.toNat % params.linkedLaneNumber.toNat = 0
    ∨ params.timing.horDisEnd.toNat / params.linkedLaneNumber.toNat % 2048 ≠ 0

end MainLinkParams

-----------------------------------------------------------------------------------------
-- Which writes reach a register
-----------------------------------------------------------------------------------------

@[simp]
theorem u32_writeSr3A (timing : TimingAttrib) : (writeSr3A timing regs).u32 = regs.u32 := by
  unfold writeSr3A
  split <;> split <;> simp only [Mmio.u32_writeReg]

variable {index}

/-- The later writes leave the width alone. -/
theorem u32_writeAttributes_of_width (module : index < 4) {reg : DpReg}
    (early : reg = .hwidthTu ∨ reg = .extPacket ∨ reg = .hlineDur)
    : (writeAttributes index params regs).u32 (reg.address index)
      = regs.u32 (reg.address index) := by
  rcases early with rfl | rfl | rfl <;>
    simp [writeAttributes, DpReg.address_inj module]

theorem u32_writeDurations_of_width (module : index < 4) {reg : DpReg}
    (early : reg = .hwidthTu ∨ reg = .extPacket)
    : (writeDurations index params regs).u32 (reg.address index)
      = regs.u32 (reg.address index) := by
  rcases early with rfl | rfl <;>
    simp [writeDurations, DpReg.address_inj module]

/-- A set up that does not end early makes all of its writes. -/
theorem programMainLink_eq {params : MainLinkParams} (bandwidth : params.bandwidth ≠ 0)
    (clock : params.timing.pixelClock ≠ 0) (regs : Mmio)
    : programMainLink index params regs
      = (true, writeAttributes index params
          (writeDurations index params (writeWidth index params regs))) := by
  have lanes : params.linkedLaneNumber ≠ 0 := by
    intro none
    exact bandwidth (by simp [MainLinkParams.bandwidth, none])
  have speed : params.linkedSpeed ≠ 0 := by
    intro none
    exact bandwidth (by simp [MainLinkParams.bandwidth, none])
  simp only [programMainLink, if_neg bandwidth, if_neg lanes, if_neg clock, if_neg speed]

/-- The width registers hold their values. -/
theorem get_hwidthTu (module : index < 4) (field : BitField)
    : field.get ((writeAttributes index params
        (writeDurations index params (writeWidth index params regs))).u32
          (DpReg.hwidthTu.address index))
      = field.get params.hwidthTu := by
  rw [u32_writeAttributes_of_width _ _ module (by simp),
    u32_writeDurations_of_width _ _ module (by simp)]
  simp only [writeWidth, Mmio.u32_writeReg32, DpReg.address_inj module, reduceCtorEq, if_false,
    if_true]
  exact field.get_writeMasked _ _ (by simp [BitField.get])

theorem get_extPacket (module : index < 4)
    : RegMm821C.horizontalWidthBit12to11.get ((writeAttributes index params
        (writeDurations index params (writeWidth index params regs))).u32
          (DpReg.extPacket.address index))
      = RegMm821C.horizontalWidthBit12to11.get params.extPacket := by
  rw [u32_writeAttributes_of_width _ _ module (by simp),
    u32_writeDurations_of_width _ _ module (by simp)]
  simp only [writeWidth, Mmio.u32_writeReg32, if_true]
  exact BitField.get_writeMasked _ _ _ (by decide)

theorem get_hlineDur (module : index < 4) {field : BitField}
    (duration : field = RegMm8248.horizLineDuration ∨ field = RegMm8248.hblankDuration)
    : field.get ((writeAttributes index params
        (writeDurations index params (writeWidth index params regs))).u32
          (DpReg.hlineDur.address index))
      = field.get params.hlineDur := by
  rw [u32_writeAttributes_of_width _ _ module (by simp)]
  simp only [writeDurations, Mmio.u32_writeReg32, DpReg.address_inj module, reduceCtorEq, if_false,
    if_true]
  rcases duration with rfl | rfl
  · exact BitField.get_writeMasked _ _ _ (by decide)
  · exact BitField.get_writeMasked _ _ _ (by decide)

-----------------------------------------------------------------------------------------
-- The values over the integers
-----------------------------------------------------------------------------------------

namespace MainLinkParams

variable {params : MainLinkParams}

theorem toNat_bandwidth (small : params.available < 2 ^ 32)
    : params.bandwidth.toNat = params.available := by
  rw [bandwidth, BitVec.toNat_mul, BitVec.toNat_mul, Nat.mod_mul_mod,
    Nat.mul_comm params.linkedLaneNumber.toNat, show (8 : U32).toNat = 8 from rfl]
  exact Nat.mod_eq_of_lt small

theorem toNat_payload (small : params.needed < 2 ^ 32)
    : params.payload.toNat = params.needed := by
  unfold payload
  split
  · rename_i format
    rw [needed, bitsPerPixel, if_pos format] at small ⊢
    rw [BitVec.toNat_mul, BitVec.toNat_mul, Nat.mod_mul_mod, Nat.mul_assoc,
      show (2 : U32).toNat = 2 from rfl]
    exact Nat.mod_eq_of_lt small
  · rename_i format
    rw [needed, bitsPerPixel, if_neg format] at small ⊢
    rw [BitVec.toNat_mul, BitVec.toNat_mul, Nat.mod_mul_mod, Nat.mul_assoc,
      show (3 : U32).toNat = 3 from rfl]
    exact Nat.mod_eq_of_lt small

theorem toNat_tuRatio (fits : params.Fits) (small : params.available < 2 ^ 32)
    : params.tuRatio.toNat = params.needed * 2 ^ 15 / params.available := by
  have less : params.needed < 2 ^ 32 := Nat.lt_of_le_of_lt fits.enough small
  rw [tuRatio, BitVec.toNat_udiv, BitVec.toNat_shiftLeft, BitVec.toNat_setWidth,
    BitVec.toNat_setWidth, toNat_bandwidth small, toNat_payload less, Nat.shiftLeft_eq,
    Nat.mod_eq_of_lt (by omega : params.needed < 2 ^ 64),
    Nat.mod_eq_of_lt (by omega : params.needed * 2 ^ 15 < 2 ^ 64),
    Nat.mod_eq_of_lt (by omega : params.available < 2 ^ 64)]

/-- The field of the ratio holds it unless the timing uses all of the link. -/
theorem get_tuRatio (fits : params.Fits) (small : params.available < 2 ^ 32)
    : RegMm8244.tuRatio.get params.hwidthTu = params.needed * 2 ^ 15 / params.available
      ↔ params.needed < params.available := by
  have positive : 0 < params.available := Nat.lt_of_lt_of_le fits.some fits.enough
  have ratio := toNat_tuRatio fits small
  have most : params.needed * 2 ^ 15 / params.available ≤ 2 ^ 15 := by
    apply Nat.div_le_of_le_mul
    exact Nat.mul_le_mul_right _ fits.enough
  rw [hwidthTu, BitField.get_put _ _ _ (by decide), BitVec.toNat_setWidth, ratio]
  have full : params.needed * 2 ^ 15 / params.available < 2 ^ 15
      ↔ params.needed < params.available := by
    rw [Nat.div_lt_iff_lt_mul positive, Nat.mul_comm]
    exact Nat.mul_lt_mul_left (by decide)
  rw [← full, show RegMm8244.tuRatio.width = 15 from rfl]
  omega

theorem toNat_lanes (fits : params.Fits)
    : params.linkedLaneNumber.toNat = 1 ∨ params.linkedLaneNumber.toNat = 2
      ∨ params.linkedLaneNumber.toNat = 4 := by
  rcases fits.lanes with lanes | lanes | lanes <;> simp [lanes]

/-- The width is rounded up. -/
theorem laneWidth_eq (fits : params.Fits)
    : params.laneWidth
      = if params.timing.horDisEnd.toNat % params.linkedLaneNumber.toNat = 0 then
          params.timing.horDisEnd.toNat / params.linkedLaneNumber.toNat
        else params.timing.horDisEnd.toNat / params.linkedLaneNumber.toNat + 1 := by
  have active := fits.active
  rw [laneWidth]
  rcases toNat_lanes fits with lanes | lanes | lanes <;> rw [lanes] <;> split <;> omega

/-- The low bits of the width, of the quotient rounded up. -/
theorem get_horizWidth (fits : params.Fits)
    : RegMm8244.horizWidth.get params.hwidthTu = (params.laneWidth - 1) % 2 ^ 11 := by
  have positive : params.linkedLaneNumber ≠ 0 := by
    rcases fits.lanes with lanes | lanes | lanes <;> simp [lanes]
  have wide : (params.timing.horDisEnd.setWidth 32).toNat = params.timing.horDisEnd.toNat := by
    rw [BitVec.toNat_setWidth]
    exact Nat.mod_eq_of_lt (Nat.lt_of_lt_of_le params.timing.horDisEnd.isLt (by decide))
  have rounded
      : (cbRound (params.timing.horDisEnd.setWidth 32) params.linkedLaneNumber .up).toNat
        = params.laneWidth := by
    rw [toNat_cbRound_up positive, wide, laneWidth_eq fits]
  have some : 1 ≤ params.laneWidth := by
    have active := fits.active
    rw [laneWidth]
    rcases toNat_lanes fits with lanes | lanes | lanes <;> rw [lanes] <;> omega
  have less : params.laneWidth < 2 ^ 32 := by
    rw [← rounded]
    exact BitVec.isLt _
  rw [hwidthTu, BitField.get_put_other (by decide), BitField.get_put_other (by decide),
    BitField.get_put _ _ _ (by decide), BitVec.toNat_sub, rounded, show (1 : U32).toNat = 1 from rfl,
    show RegMm8244.horizWidth.width = 11 from rfl]
  omega

/-- The high bits of the width, of the quotient rounded down. -/
theorem get_horizontalWidthBit12to11
    : RegMm821C.horizontalWidthBit12to11.get params.extPacket
      = (params.timing.horDisEnd.toNat / params.linkedLaneNumber.toNat + 2 ^ 32 - 1) % 2 ^ 32
        / 2 ^ 11 % 4 := by
  have wide : (params.timing.horDisEnd.setWidth 32).toNat = params.timing.horDisEnd.toNat := by
    rw [BitVec.toNat_setWidth]
    exact Nat.mod_eq_of_lt (Nat.lt_of_lt_of_le params.timing.horDisEnd.isLt (by decide))
  rw [extPacket, BitField.get_put _ _ _ (by decide), BitVec.toNat_ushiftRight, BitVec.toNat_sub,
    BitVec.toNat_udiv, wide, Nat.shiftRight_eq_div_pow, show (1 : U32).toNat = 1 from rfl,
    show RegMm821C.horizontalWidthBit12to11.width = 2 from rfl]
  generalize params.timing.horDisEnd.toNat / params.linkedLaneNumber.toNat = share
  omega

/-- The two fields together are the width exactly when the quotients agree above bit 10. -/
theorem get_width (fits : params.Fits)
    : RegMm821C.horizontalWidthBit12to11.get params.extPacket * 2 ^ 11
        + RegMm8244.horizWidth.get params.hwidthTu
      = params.laneWidth - 1
      ↔ params.timing.horDisEnd.toNat % params.linkedLaneNumber.toNat = 0
        ∨ params.timing.horDisEnd.toNat / params.linkedLaneNumber.toNat % 2048 ≠ 0 := by
  have active := fits.active
  have width := fits.width
  rw [get_horizWidth fits, get_horizontalWidthBit12to11, laneWidth_eq fits]
  rcases toNat_lanes fits with lanes | lanes | lanes <;> rw [lanes] <;> split <;> omega

/-- The clocks of a part of a line. -/
theorem toNat_linkClocks (params : MainLinkParams) (pixels : U64) (few : pixels.toNat < 2 ^ 16)
    : (pixels * params.linkedSpeed.setWidth 64 / params.timing.pixelClock.setWidth 64).toNat
      = params.linkClocks pixels.toNat := by
  have speed := params.linkedSpeed.isLt
  have clock := params.timing.pixelClock.isLt
  have product : pixels.toNat * params.linkedSpeed.toNat < 2 ^ 16 * 2 ^ 32 :=
    Nat.mul_lt_mul'' few speed
  rw [linkClocks, BitVec.toNat_udiv, BitVec.toNat_mul, BitVec.toNat_setWidth, BitVec.toNat_setWidth,
    Nat.mod_eq_of_lt (by omega : params.linkedSpeed.toNat < 2 ^ 64),
    Nat.mod_eq_of_lt (by omega : params.timing.pixelClock.toNat < 2 ^ 64),
    Nat.mod_eq_of_lt (by omega)]

theorem get_horizLineDuration
    (enough : 64 ≤ params.linkClocks params.timing.horTotal.toNat)
    (short : params.linkClocks params.timing.horTotal.toNat - 64 < 2 ^ 15)
    : RegMm8248.horizLineDuration.get params.hlineDur
      = params.linkClocks params.timing.horTotal.toNat - 64 := by
  have total := params.timing.horTotal.isLt
  have wide : (params.timing.horTotal.setWidth 64).toNat = params.timing.horTotal.toNat := by
    rw [BitVec.toNat_setWidth, Nat.mod_eq_of_lt (by omega)]
  have clocks := toNat_linkClocks params (params.timing.horTotal.setWidth 64) (by omega)
  rw [wide] at clocks
  rw [hlineDur, BitField.get_put_other (by decide), BitField.get_put _ _ _ (by decide),
    BitVec.toNat_setWidth, horizLineDuration, BitVec.toNat_sub, clocks,
    show (64 : U64).toNat = 64 from rfl, show RegMm8248.horizLineDuration.width = 15 from rfl]
  omega

/-- The mask in front of the subtraction does not matter to a field of the same width. -/
theorem get_hblankDuration (fits : params.Fits)
    (enough : 64 ≤ params.linkClocks
      (params.timing.horTotal.toNat - params.timing.horDisEnd.toNat))
    (short : params.linkClocks
      (params.timing.horTotal.toNat - params.timing.horDisEnd.toNat) - 64 < 2 ^ 12)
    : RegMm8248.hblankDuration.get params.hlineDur
      = params.linkClocks (params.timing.horTotal.toNat - params.timing.horDisEnd.toNat) - 64 := by
  have total := params.timing.horTotal.isLt
  have blank := fits.blank
  obtain ⟨pixels, isBlank⟩ : ∃ pixels : U32,
      pixels = params.timing.horTotal.setWidth 32 - params.timing.horDisEnd.setWidth 32 := ⟨_, rfl⟩
  have difference
      : pixels.toNat = params.timing.horTotal.toNat - params.timing.horDisEnd.toNat := by
    rw [isBlank, BitVec.toNat_sub, BitVec.toNat_setWidth, BitVec.toNat_setWidth]
    omega
  have wide : (pixels.signExtend 64).toNat = pixels.toNat := toNat_signExtend_of_lt (by omega)
  have clocks := toNat_linkClocks params (pixels.signExtend 64) (by omega)
  rw [wide, difference] at clocks
  rw [hlineDur, BitField.get_put _ _ _ (by decide), BitVec.toNat_setWidth, hblankDuration]
  rw [← isBlank, BitVec.toNat_sub, BitVec.toNat_and, clocks,
    show (0xFFF : U64).toNat = 2 ^ 12 - 1 from rfl,
    Nat.and_two_pow_sub_one_eq_mod, show (64 : U64).toNat = 64 from rfl,
    show RegMm8248.hblankDuration.width = 12 from rfl]
  omega

end MainLinkParams

-----------------------------------------------------------------------------------------
-- The main link
-----------------------------------------------------------------------------------------

/-- A set up that does not end early holds the timing exactly when the condition is met. -/
theorem MainLinkParams.holds_iff_exact {params : MainLinkParams} (module : index < 4)
    (fits : params.Fits) (small : params.available < 2 ^ 32) (regs : Mmio)
    : (programMainLink index params regs).1 = true
      ∧ (params.Holds index (programMainLink index params regs).2 ↔ params.Exact) := by
  have positive : 0 < params.available := Nat.lt_of_lt_of_le fits.some fits.enough
  have bandwidth : params.bandwidth ≠ 0 := by
    intro none
    have zero := toNat_bandwidth small
    rw [none] at zero
    exact Nat.ne_of_lt positive zero
  have clock : params.timing.pixelClock ≠ 0 := by
    intro none
    have some := fits.some
    simp [needed, none] at some
  rw [programMainLink_eq bandwidth clock]
  refine ⟨rfl, ⟨fun holds => ⟨small, ?_, ?_⟩, fun exact => ⟨?_, ?_, ?_, ?_⟩⟩⟩
  · have ratio := holds.ratio
    rw [get_hwidthTu _ _ module] at ratio
    exact (get_tuRatio fits small).mp ratio
  · have width := holds.width
    rw [get_hwidthTu _ _ module, get_extPacket _ _ module] at width
    exact (get_width fits).mp width
  · rw [get_hwidthTu _ _ module, get_extPacket _ _ module]
    exact (get_width fits).mpr exact.shares
  · rw [get_hwidthTu _ _ module]
    exact (get_tuRatio fits small).mpr exact.spare
  · intro enough short
    rw [get_hlineDur _ _ module (.inl rfl)]
    exact get_horizLineDuration enough short
  · intro enough short
    rw [get_hlineDur _ _ module (.inr rfl)]
    exact get_hblankDuration fits enough short

/-- The speeds that are taken from the hardware are too small for the product to wrap. -/
theorem available_syncLinkedSpeed (env : DpEnv) (params : MainLinkParams) (regs : Mmio)
    (fits : (syncLinkedSpeed env index false params regs).1.Fits)
    : (syncLinkedSpeed env index false params regs).1.available < 2 ^ 32 := by
  have slow : (syncLinkedSpeed env index false params regs).1.linkedSpeed.toNat ≤ 8100000 := by
    have ctrl (value : U32) : (ctrlLinkSpeed value).toNat ≤ 8100000 := by
      unfold ctrlLinkSpeed
      split <;> decide
    have dpcd (data : U8) : (dpcdLinkSpeed data).toNat ≤ 8100000 := by
      unfold dpcdLinkSpeed
      repeat' split
      all_goals decide
    have old (status : Prop) [Decidable status]
        : (if status then ({ params with linkedSpeed := cbiosDpLinkSpeed2700Mbps }, regs)
            else ({ params with linkedSpeed := cbiosDpLinkSpeed1620Mbps }, regs)
            : MainLinkParams × Mmio).1.linkedSpeed.toNat ≤ 8100000 := by
      split <;> simp [cbiosDpLinkSpeed2700Mbps, cbiosDpLinkSpeed1620Mbps]
    unfold syncLinkedSpeed
    rw [if_neg Bool.false_ne_true]
    cases env.chipId with
    | other => exact old _
    | e3k | chx004 | cne001 =>
      dsimp only
      split
      · exact dpcd _
      · exact ctrl _
  rw [MainLinkParams.available]
  rcases MainLinkParams.toNat_lanes fits with lanes | lanes | lanes <;> rw [lanes] <;> omega

/-- For a timing that the link can carry, with the speed that the set up finds, the registers hold
the timing under the condition, and only then, unless a speed that was not taken from the hardware
makes the bandwidth wrap.
-/
theorem cbDiuDpSetUpMainLink_holds {env : DpEnv} {useLinkRateSet : Bool} (module : index < 4)
    (device : env.useLinkRateSet index = some useLinkRateSet) (params : MainLinkParams)
    (regs : Mmio)
    (fits : (cbDiuDpSetUpMainLink env index params regs).2.1.Fits)
    : let (status, params, regs) := cbDiuDpSetUpMainLink env index params regs
      (params.Exact → status = true ∧ params.Holds index regs)
      ∧ (params.available < 2 ^ 32 ∨ useLinkRateSet = false
        → params.Holds index regs → params.Exact) := by
  have early : ¬ 4 ≤ index := Nat.not_le.mpr module
  simp only [cbDiuDpSetUpMainLink, if_neg early, device] at fits ⊢
  generalize regs.writeReg32 (DpReg.enable.address index) 0
    (freeField RegMm8240.fieldInvert 0xFFFFFFFF) = regs at fits ⊢
  refine ⟨fun exact => ?_, fun bounded holds => ?_⟩
  · have done := MainLinkParams.holds_iff_exact module fits exact.bandwidth
      (syncLinkedSpeed env index useLinkRateSet params regs).2
    exact ⟨done.1, done.2.mpr exact⟩
  · have small : (syncLinkedSpeed env index useLinkRateSet params regs).1.available < 2 ^ 32 := by
      rcases bounded with small | rfl
      · exact small
      · exact available_syncLinkedSpeed env params regs fits
    have done := MainLinkParams.holds_iff_exact module fits small
      (syncLinkedSpeed env index useLinkRateSet params regs).2
    exact done.2.mp holds

/-- 1280 pixels at 90 MHz and 8 bits per channel, on one lane of 2.7 Gbps, which has just the
bits that the timing needs.
-/
def fullLaneParams : MainLinkParams :=
  { linkedLaneNumber := 1, linkedSpeed := cbiosDpLinkSpeed2700Mbps, bpc := 8, tuSize := 48,
    asyncMode := true, colorFormat := 0, dynamicRange := 0, yCbCrCoefficients := 0,
    timing :=
      { TimingAttrib.zero with
        xRes := 1280, yRes := 800, horTotal := 1440, horDisEnd := 1280, horBStart := 1280,
        horBEnd := 1440, horSyncStart := 1328, horSyncEnd := 1360, verTotal := 823,
        verDisEnd := 800, verBStart := 800, verBEnd := 823, verSyncStart := 803, verSyncEnd := 809,
        pixelClock := 900000 } }

/-- A chip whose registers and DPCD report 2.7 Gbps. -/
def env2700 : DpEnv :=
  { chipId := .e3k
    useLinkRateSet := fun _ => some false
    auxDpcdRead100 := fun _ regs => (some 0xA, regs) }

def zeroRegs : Mmio := ⟨fun _ => 0, fun _ _ => 0⟩

/-- A timing that needs a bit less. -/
def spareLaneParams : MainLinkParams :=
  { fullLaneParams with timing := { fullLaneParams.timing with pixelClock := 899999 } }

theorem cbDiuDpSetUpMainLink_holds_spare
    : let (status, params, regs) := cbDiuDpSetUpMainLink env2700 0 spareLaneParams zeroRegs
      status = true ∧ params.Holds 0 regs := by
  have device : env2700.useLinkRateSet 0 = some false := rfl
  have set := cbDiuDpSetUpMainLink_holds (by decide : 0 < 4) device spareLaneParams zeroRegs
    ⟨.inl (by decide), by decide, by decide, by decide, by decide, by decide⟩
  exact set.1 ⟨by decide, by decide, by decide⟩

/-- The ratio of a full link is 32768, and its field is left at 0. -/
theorem cbDiuDpSetUpMainLink_full
    : let (status, params, regs) := cbDiuDpSetUpMainLink env2700 0 fullLaneParams zeroRegs
      status = true ∧ params.Fits ∧ params.needed * 2 ^ 15 / params.available = 32768
      ∧ RegMm8244.tuRatio.get (regs.u32 (DpReg.hwidthTu.address 0)) = 0
      ∧ ¬ params.Holds 0 regs := by
  refine ⟨by decide, ⟨.inl rfl, by decide, by decide, by decide, by decide, by decide⟩, by decide,
    by decide, ?_⟩
  intro holds
  exact absurd holds.ratio (by decide)

end Cx4Kernel.Cbios
