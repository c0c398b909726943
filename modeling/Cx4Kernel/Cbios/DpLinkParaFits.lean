import Cx4Kernel.Cbios.DpLinkPara

/-! Which admitted modes fit the link that is chosen for them: the mode filter does not know the
limits of the source, which come last.
-/

namespace Cx4Kernel.Cbios

-----------------------------------------------------------------------------------------
-- Capacities and limits
-----------------------------------------------------------------------------------------

/-- The largest pixel clock of a link over the integers. -/
def capacity (bpc linkSpeed laneNum : Nat) : Nat := linkSpeed / (bpc * 3) * laneNum * 8

/-- A faster link carries no less. -/
theorem capacity_mono {slow fast : Nat} (faster : slow ≤ fast) (bpc laneNum : Nat)
    : capacity bpc slow laneNum ≤ capacity bpc fast laneNum := by
  unfold capacity
  gcongr

theorem capacity_min (bpc left right laneNum : Nat)
    : capacity bpc (min left right) laneNum
      = min (capacity bpc left laneNum) (capacity bpc right laneNum) := by
  rcases Nat.le_total left right with order | order
  · rw [Nat.min_eq_left order, Nat.min_eq_left (capacity_mono order bpc laneNum)]
  · rw [Nat.min_eq_right order, Nat.min_eq_right (capacity_mono order bpc laneNum)]

/-- A division by 0 is the only failure, and the product is cut to 32 bits. -/
theorem maxClock_eq {bpc : U32} (positive : 0 < bpc.toNat) (few : bpc.toNat ≤ 8)
    (linkSpeed laneNum : U32)
    : ∃ clock, maxClock linkSpeed bpc laneNum = some clock
        ∧ clock.toNat = capacity bpc.toNat linkSpeed.toNat laneNum.toNat % 2 ^ 32 := by
  have bits : (bpc * 3).toNat = bpc.toNat * 3 := by
    rw [BitVec.toNat_mul, show (3 : U32).toNat = 3 from rfl]
    omega
  have divisor : bpc * 3 ≠ 0 := by
    intro none
    rw [none] at bits
    change 0 = _ at bits
    omega
  refine ⟨_, if_neg divisor, ?_⟩
  rw [BitVec.toNat_mul, BitVec.toNat_mul, BitVec.toNat_udiv, bits, Nat.mod_mul_mod]
  rfl

namespace DpMonitorContext

/-- The bits of a channel, of which more than the default are not used. -/
def usedBpc (ctx : DpMonitorContext) : Nat := min ctx.bpc.toNat 8

/-- The lanes of the sink and of what is between it and the source. -/
def laneLimit (ctx : DpMonitorContext) : Nat :=
  match ctx.currentDpUsbMode with
  | .standard => ctx.sinkMaxLaneCount.toNat
  | .altmode => min ctx.sinkMaxLaneCount.toNat ctx.altMaxLaneCount.toNat
  | .tunnel =>
    if ctx.lttprCount = 0 then ctx.sinkMaxLaneCount.toNat
    else min ctx.sinkMaxLaneCount.toNat ctx.lttprMaxLaneCount.toNat

/-- The rate of the sink and of what is between it and the source. -/
def rateLimit (ctx : DpMonitorContext) : Nat :=
  match ctx.currentDpUsbMode with
  | .standard | .altmode => ctx.sinkMaxLinkSpeed.toNat
  | .tunnel =>
    if ctx.lttprCount = 0 then ctx.sinkMaxLinkSpeed.toNat
    else min ctx.sinkMaxLinkSpeed.toNat ctx.lttprMaxLinkRate.toNat

/-- The lanes that the source has as well. -/
def sharedLanes (ctx : DpMonitorContext) : Nat := min ctx.laneLimit ctx.sourceMaxLaneCount.toNat

/-- The clock of the mode. -/
def clock (ctx : DpMonitorContext) : Nat := ctx.targetTiming.pixelClock.toNat

/-- The link `link` carries the mode of `ctx` within all limits. -/
structure CarriedBy (ctx link : DpMonitorContext) : Prop where
  clock : ctx.clock
    ≤ capacity link.bpc.toNat link.linkSpeedToUse.toNat link.laneNumberToUse.toNat
  sinkSpeed : link.linkSpeedToUse ≤ ctx.sinkMaxLinkSpeed
  sinkLanes : link.laneNumberToUse ≤ ctx.sinkMaxLaneCount
  sourceSpeed : link.linkSpeedToUse ≤ ctx.sourceMaxLinkSpeed
  sourceLanes : link.laneNumberToUse ≤ ctx.sourceMaxLaneCount
  lttprSpeed : ctx.currentDpUsbMode = .tunnel → ctx.lttprCount ≠ 0
    → link.linkSpeedToUse ≤ ctx.lttprMaxLinkRate
  lttprLanes : ctx.currentDpUsbMode = .tunnel → ctx.lttprCount ≠ 0
    → link.laneNumberToUse ≤ ctx.lttprMaxLaneCount
  altLanes : ctx.currentDpUsbMode = .altmode → link.laneNumberToUse ≤ ctx.altMaxLaneCount

/-- A rate that the code takes without comparing it with all limits keeps to them, and carries the
clock on the lanes of the source.
-/
def FitsAt (ctx : DpMonitorContext) (rate : U32) : Prop :=
  min rate.toNat ctx.sourceMaxLinkSpeed.toNat ≤ ctx.rateLimit
  ∧ ctx.clock
    ≤ capacity ctx.usedBpc (min rate.toNat ctx.sourceMaxLinkSpeed.toNat) ctx.sharedLanes

/-- The standard speeds below the largest one. -/
def lowerSpeeds : List Nat := [1620000, 2700000, 5400000]

/-- The limits of the source leave enough for the clock, also at each of the lower speeds that
the code may choose for it by the lanes of the sink.
-/
structure FitsStandard (ctx : DpMonitorContext) : Prop where
  most : ctx.clock
    ≤ capacity ctx.usedBpc (min 8100000 (min ctx.rateLimit ctx.sourceMaxLinkSpeed.toNat))
        ctx.sharedLanes
  lower : ∀ speed ∈ lowerSpeeds,
    ctx.clock < capacity ctx.usedBpc speed ctx.laneLimit % 2 ^ 32
    → ctx.clock ≤ capacity ctx.usedBpc speed ctx.sharedLanes

/-- When an admitted mode fits: a panel with a table of rates gets the last one, a slow panel its
own rate, and every other sink a standard speed.
-/
def Fits (port : DpPort) (ctx : DpMonitorContext) : Prop :=
  if port.edpSupported = true ∧ ctx.useLinkRateSet = true then
    ∃ rate, ctx.supportedLinkRates[(ctx.supportedLinkRateNum - 1).toNat]? = some rate
      ∧ ctx.FitsAt rate
  else if port.edpSupported = true ∧ ctx.sinkMaxLinkSpeed ≤ edpPreferMaxLinkRate then
    ctx.FitsAt ctx.sinkMaxLinkSpeed
  else ctx.FitsStandard

-----------------------------------------------------------------------------------------
-- The steps of the choice
-----------------------------------------------------------------------------------------

theorem toNat_chooseLaneNum (ctx : DpMonitorContext)
    : ctx.chooseLaneNum.toNat = ctx.laneLimit := by
  unfold chooseLaneNum laneLimit
  cases ctx.currentDpUsbMode with
  | standard => simp only [reduceCtorEq, false_and, if_false]
  | altmode =>
    simp only [reduceCtorEq, false_and, true_and, if_false, BitVec.lt_def]
    split <;> omega
  | tunnel =>
    by_cases direct : ctx.lttprCount = 0
    · simp only [reduceCtorEq, direct, ne_eq, not_true_eq_false, false_and, true_and, if_false,
        if_true]
    · simp only [reduceCtorEq, direct, ne_eq, not_false_eq_true, false_and, true_and, if_false,
        BitVec.lt_def]
      split <;> omega

theorem toNat_clampLinkSpeed (ctx : DpMonitorContext) (linkSpeed : U32)
    : (ctx.clampLinkSpeed linkSpeed).toNat = min linkSpeed.toNat ctx.rateLimit := by
  unfold clampLinkSpeed rateLimit
  cases ctx.currentDpUsbMode with
  | standard | altmode =>
    simp only [reduceCtorEq, false_and, if_false, BitVec.lt_def]
    split <;> omega
  | tunnel =>
    by_cases direct : ctx.lttprCount = 0
    · simp only [direct, ne_eq, not_true_eq_false, false_and, true_and, if_false, if_true,
        BitVec.lt_def]
      split <;> omega
    · simp only [direct, ne_eq, not_false_eq_true, true_and, if_false, BitVec.lt_def]
      split <;> split <;> omega

theorem le_rateLimit_iff (ctx : DpMonitorContext) (rate : Nat)
    : rate ≤ ctx.rateLimit
      ↔ rate ≤ ctx.sinkMaxLinkSpeed.toNat
        ∧ (ctx.currentDpUsbMode = .tunnel → ctx.lttprCount ≠ 0
          → rate ≤ ctx.lttprMaxLinkRate.toNat) := by
  unfold rateLimit
  cases ctx.currentDpUsbMode with
  | standard | altmode => simp only [reduceCtorEq, false_implies, and_true]
  | tunnel =>
    by_cases direct : ctx.lttprCount = 0
    · simp only [direct, if_true, ne_eq, not_true_eq_false, false_implies, implies_true, and_true]
    · simp only [direct, if_false, ne_eq, not_false_eq_true, forall_const, Nat.le_min]

theorem le_laneLimit_iff (ctx : DpMonitorContext) (laneNum : Nat)
    : laneNum ≤ ctx.laneLimit
      ↔ laneNum ≤ ctx.sinkMaxLaneCount.toNat
        ∧ (ctx.currentDpUsbMode = .tunnel → ctx.lttprCount ≠ 0
          → laneNum ≤ ctx.lttprMaxLaneCount.toNat)
        ∧ (ctx.currentDpUsbMode = .altmode → laneNum ≤ ctx.altMaxLaneCount.toNat) := by
  unfold laneLimit
  cases ctx.currentDpUsbMode with
  | standard => simp only [reduceCtorEq, false_implies, and_true]
  | altmode => simp only [reduceCtorEq, false_implies, forall_const, true_and, Nat.le_min]
  | tunnel =>
    by_cases direct : ctx.lttprCount = 0
    · simp only [direct, if_true, ne_eq, not_true_eq_false, false_implies, implies_true, and_true,
        reduceCtorEq]
    · simp only [direct, if_false, ne_eq, not_false_eq_true, forall_const, Nat.le_min, reduceCtorEq,
        false_implies, and_true]

/-- The speed is the first of the standard ones that the clock is below, or the largest one. -/
theorem chooseLinkSpeed_eq {bpc : U32} (positive : 0 < bpc.toNat) (few : bpc.toNat ≤ 8)
    (pixelClock laneNum : U32)
    : ∃ linkSpeed, chooseLinkSpeed pixelClock bpc laneNum = some linkSpeed
        ∧ (linkSpeed.toNat = 8100000
          ∨ linkSpeed.toNat ∈ lowerSpeeds
            ∧ pixelClock.toNat
              < capacity bpc.toNat linkSpeed.toNat laneNum.toNat % 2 ^ 32)
        ∧ (∀ speed ∈ lowerSpeeds, pixelClock.toNat < capacity bpc.toNat speed laneNum.toNat % 2 ^ 32
          → linkSpeed.toNat ≤ speed)
        ∧ linkSpeed.toNat ≤ 8100000 := by
  obtain ⟨high, isHigh, highEq⟩ := maxClock_eq positive few cbiosDpLinkSpeed5400Mbps laneNum
  obtain ⟨middle, isMiddle, middleEq⟩ := maxClock_eq positive few cbiosDpLinkSpeed2700Mbps laneNum
  obtain ⟨low, isLow, lowEq⟩ := maxClock_eq positive few cbiosDpLinkSpeed1620Mbps laneNum
  change high.toNat = capacity bpc.toNat 5400000 laneNum.toNat % 2 ^ 32 at highEq
  change middle.toNat = capacity bpc.toNat 2700000 laneNum.toNat % 2 ^ 32 at middleEq
  change low.toNat = capacity bpc.toNat 1620000 laneNum.toNat % 2 ^ 32 at lowEq
  simp only [chooseLinkSpeed, isHigh, isMiddle, isLow, Option.bind_eq_bind, Option.bind_some]
  refine ⟨_, rfl, ?_⟩
  simp only [lowerSpeeds, List.mem_cons, List.not_mem_nil, or_false, forall_eq_or_imp, forall_eq,
    ← highEq, ← middleEq, ← lowEq, BitVec.lt_def]
  split
  · rename_i below
    refine ⟨.inr ⟨.inl rfl, ?_⟩, ⟨fun _ => by decide, fun _ => by decide, fun _ => by decide⟩,
      by decide⟩
    exact lowEq ▸ below
  · split
    · rename_i above below
      refine ⟨.inr ⟨.inr (.inl rfl), ?_⟩, ⟨fun less => absurd less above,
        fun _ => by decide, fun _ => by decide⟩, by decide⟩
      exact middleEq ▸ below
    · split
      · rename_i above further below
        refine ⟨.inr ⟨.inr (.inr rfl), ?_⟩, ⟨fun less => absurd less above,
          fun less => absurd less further, fun _ => by decide⟩, by decide⟩
        exact highEq ▸ below
      · rename_i above further beyond
        exact ⟨.inl rfl, ⟨fun less => absurd less above, fun less => absurd less further,
          fun less => absurd less beyond⟩, by decide⟩

/-- The rate before the source is asked, with the rules of the panel. -/
def panelRate (port : DpPort) (ctx : DpMonitorContext) (linkSpeed : U32) : Option U32 :=
  if port.edpSupported = true ∧ ctx.useLinkRateSet = true then
    ctx.supportedLinkRates[(ctx.supportedLinkRateNum - 1).toNat]?
  else if port.edpSupported = true ∧ ctx.sinkMaxLinkSpeed ≤ edpPreferMaxLinkRate then
    some ctx.sinkMaxLinkSpeed
  else some linkSpeed

/-- A panel without a link of its own changes the rate only. -/
theorem overrideForPanel_eq {port : DpPort} (free : port.hardcodeLinkPara = none)
    (ctx : DpMonitorContext) (laneNum linkSpeed : U32)
    : ctx.overrideForPanel port laneNum linkSpeed
      = (ctx.panelRate port linkSpeed).map (laneNum, ·) := by
  unfold overrideForPanel panelRate
  by_cases panel : port.edpSupported = true
  · simp only [panel, free, true_and, if_true]
    by_cases table : ctx.useLinkRateSet = true
    · simp only [table, if_true]
      by_cases slow : ctx.sinkMaxLinkSpeed ≤ edpPreferMaxLinkRate
      · simp only [slow, if_true]
        cases ctx.supportedLinkRates[(ctx.supportedLinkRateNum - 1).toNat]? <;> rfl
      · simp only [slow, if_false]
        cases ctx.supportedLinkRates[(ctx.supportedLinkRateNum - 1).toNat]? <;> rfl
    · simp only [table]
      by_cases slow : ctx.sinkMaxLinkSpeed ≤ edpPreferMaxLinkRate
      · simp only [slow, if_true]
        rfl
      · simp only [slow, if_false]
        rfl
  · simp only [panel]
    rfl

/-- The limits of a context are kept when the bits of a channel are cut. -/
def withBpc (ctx : DpMonitorContext) : DpMonitorContext :=
  if dpDefaultBpc < ctx.bpc then { ctx with bpc := dpDefaultBpc } else ctx

theorem toNat_bpc_withBpc (ctx : DpMonitorContext) : ctx.withBpc.bpc.toNat = ctx.usedBpc := by
  unfold withBpc usedBpc
  split
  · rename_i many
    rw [BitVec.lt_def] at many
    change 8 < _ at many
    change 8 = _
    omega
  · rename_i few
    rw [BitVec.lt_def] at few
    change ¬ 8 < _ at few
    omega

/-- The link at a rate, with the limits of the source. -/
def linkAt (ctx : DpMonitorContext) (rate : U32) : DpMonitorContext :=
  clampToSource { ctx.withBpc with linkSpeedToUse := rate, laneNumberToUse := ctx.chooseLaneNum }

theorem withBpc_eq (ctx : DpMonitorContext)
    : ctx.withBpc = ctx ∨ ctx.withBpc = { ctx with bpc := dpDefaultBpc } := by
  unfold withBpc
  split
  · exact .inr rfl
  · exact .inl rfl

theorem toNat_bpc_linkAt (ctx : DpMonitorContext) (rate : U32)
    : (ctx.linkAt rate).bpc.toNat = ctx.usedBpc :=
  ctx.toNat_bpc_withBpc

theorem toNat_linkSpeedToUse_linkAt (ctx : DpMonitorContext) (rate : U32)
    : (ctx.linkAt rate).linkSpeedToUse.toNat = min rate.toNat ctx.sourceMaxLinkSpeed.toNat := by
  have limit : ctx.withBpc.sourceMaxLinkSpeed = ctx.sourceMaxLinkSpeed := by
    rcases ctx.withBpc_eq with same | same <;> rw [same]
  simp only [linkAt, clampToSource, limit, BitVec.lt_def]
  split <;> omega

theorem toNat_laneNumberToUse_linkAt (ctx : DpMonitorContext) (rate : U32)
    : (ctx.linkAt rate).laneNumberToUse.toNat = ctx.sharedLanes := by
  have limit : ctx.withBpc.sourceMaxLaneCount = ctx.sourceMaxLaneCount := by
    rcases ctx.withBpc_eq with same | same <;> rw [same]
  simp only [linkAt, clampToSource, limit, BitVec.lt_def, sharedLanes, ← toNat_chooseLaneNum]
  split <;> omega

/-- The lanes keep to all limits, and the rate does when it keeps to the one of the sink and the
repeaters.
-/
theorem carriedBy_linkAt (ctx : DpMonitorContext) (rate : U32)
    : ctx.CarriedBy (ctx.linkAt rate) ↔ ctx.FitsAt rate := by
  have speed := ctx.toNat_linkSpeedToUse_linkAt rate
  have lanes := ctx.toNat_laneNumberToUse_linkAt rate
  have bits := ctx.toNat_bpc_linkAt rate
  unfold FitsAt
  rw [← speed, ← lanes, ← bits, le_rateLimit_iff]
  constructor
  · intro carried
    exact ⟨⟨carried.sinkSpeed, carried.lttprSpeed⟩, carried.clock⟩
  · intro fits
    obtain ⟨sinkLanes, lttprLanes, altLanes⟩ := (ctx.le_laneLimit_iff _).mp
      (Nat.le_trans (Nat.le_of_eq lanes) (Nat.min_le_left _ _))
    exact
      { clock := fits.2
        sinkSpeed := fits.1.1
        sinkLanes := sinkLanes
        sourceSpeed := Nat.le_trans (Nat.le_of_eq speed) (Nat.min_le_right _ _)
        sourceLanes := Nat.le_trans (Nat.le_of_eq lanes) (Nat.min_le_right _ _)
        lttprSpeed := fits.1.2
        lttprLanes := lttprLanes
        altLanes := altLanes }

/-- A speed that was chosen by the clock fits when all speeds that could be chosen do. -/
theorem fitsAt_clampLinkSpeed {ctx : DpMonitorContext} {linkSpeed : U32}
    (chosen : linkSpeed.toNat = 8100000
      ∨ linkSpeed.toNat ∈ lowerSpeeds
        ∧ ctx.clock < capacity ctx.usedBpc linkSpeed.toNat ctx.laneLimit % 2 ^ 32)
    (first : ∀ speed ∈ lowerSpeeds, ctx.clock < capacity ctx.usedBpc speed ctx.laneLimit % 2 ^ 32
      → linkSpeed.toNat ≤ speed)
    (most : linkSpeed.toNat ≤ 8100000)
    : ctx.FitsAt (ctx.clampLinkSpeed linkSpeed) ↔ ctx.FitsStandard := by
  unfold FitsAt
  rw [toNat_clampLinkSpeed, Nat.min_assoc, capacity_min]
  constructor
  · intro fits
    have atSpeed := Nat.le_trans fits.2 (Nat.min_le_left _ _)
    refine ⟨?_, fun speed lower below => ?_⟩
    · rw [capacity_min]
      refine Nat.le_min.mpr ⟨?_, Nat.le_trans fits.2 (Nat.min_le_right _ _)⟩
      exact Nat.le_trans atSpeed (capacity_mono most _ _)
    · exact Nat.le_trans atSpeed (capacity_mono (first speed lower below) _ _)
  · intro fits
    have shared := fits.most
    rw [capacity_min] at shared
    refine ⟨by omega, Nat.le_min.mpr ⟨?_, Nat.le_trans shared (Nat.min_le_right _ _)⟩⟩
    rcases chosen with largest | ⟨lower, below⟩
    · rw [largest]
      exact Nat.le_trans shared (Nat.min_le_left _ _)
    · exact fits.lower linkSpeed.toNat lower below

/-- The choice, where nothing outside of the context names a link. -/
theorem chooseLink_eq {port : DpPort} (free : port.hardcodeLinkPara = none)
    {ctx : DpMonitorContext} (positive : 0 < ctx.bpc.toNat)
    : ∃ linkSpeed, (ctx.FitsAt (ctx.clampLinkSpeed linkSpeed) ↔ ctx.FitsStandard)
        ∧ (ctx.chooseLink port).map clampToSource
          = (ctx.panelRate port (ctx.clampLinkSpeed linkSpeed)).map ctx.linkAt := by
  have bits := ctx.toNat_bpc_withBpc
  have used : 0 < ctx.usedBpc ∧ ctx.usedBpc ≤ 8 := by
    unfold usedBpc
    omega
  obtain ⟨linkSpeed, isChosen, chosen, first, most⟩ := chooseLinkSpeed_eq
    (bits ▸ used.1) (bits ▸ used.2) ctx.targetTiming.pixelClock ctx.chooseLaneNum
  rw [bits, toNat_chooseLaneNum] at chosen first
  refine ⟨linkSpeed, fitsAt_clampLinkSpeed chosen first most, ?_⟩
  have keep : ctx.withBpc.chooseLaneNum = ctx.chooseLaneNum
      ∧ ctx.withBpc.targetTiming = ctx.targetTiming
      ∧ ctx.withBpc.clampLinkSpeed = ctx.clampLinkSpeed
      ∧ ctx.withBpc.panelRate port = ctx.panelRate port := by
    rcases ctx.withBpc_eq with same | same <;> rw [same] <;> exact ⟨rfl, rfl, rfl, rfl⟩
  obtain ⟨lanes, timing, clamp, panel⟩ := keep
  unfold chooseLink
  change Option.map clampToSource
    ((chooseLinkSpeed ctx.withBpc.targetTiming.pixelClock ctx.withBpc.bpc
      ctx.withBpc.chooseLaneNum).bind _) = _
  rw [lanes, timing, isChosen, Option.bind_some]
  change Option.map clampToSource
    ((ctx.withBpc.overrideForPanel port ctx.withBpc.chooseLaneNum
      (ctx.withBpc.clampLinkSpeed linkSpeed)).bind _) = _
  rw [overrideForPanel_eq free, lanes, clamp, panel]
  cases ctx.panelRate port (ctx.clampLinkSpeed linkSpeed) with
  | none => rfl
  | some rate =>
    obtain ⟨current, isCurrent, -⟩ := maxClock_eq (bits ▸ used.1) (bits ▸ used.2) rate
      ctx.chooseLaneNum
    have few : ¬ dpDefaultBpc < ctx.withBpc.bpc := by
      rw [BitVec.lt_def, bits]
      exact Nat.not_lt.mpr used.2
    simp only [Option.map_some, Option.bind_some]
    change Option.map clampToSource
      ((maxClock rate ctx.withBpc.bpc ctx.chooseLaneNum).bind _) = _
    rw [isCurrent, Option.bind_some, if_neg (fun both => few both.2)]
    rfl

/-- The link fits exactly under the condition. -/
theorem chooseLink_fits {port : DpPort} (free : port.hardcodeLinkPara = none)
    {ctx : DpMonitorContext} (positive : 0 < ctx.bpc.toNat)
    : (∃ link, (ctx.chooseLink port).map clampToSource = some link ∧ ctx.CarriedBy link)
      ↔ ctx.Fits port := by
  obtain ⟨linkSpeed, standard, result⟩ := chooseLink_eq free positive
  rw [result]
  have carried
      : (∃ link, (ctx.panelRate port (ctx.clampLinkSpeed linkSpeed)).map ctx.linkAt = some link
          ∧ ctx.CarriedBy link)
        ↔ ∃ rate, ctx.panelRate port (ctx.clampLinkSpeed linkSpeed) = some rate
          ∧ ctx.FitsAt rate := by
    simp only [Option.map_eq_some_iff]
    constructor
    · rintro ⟨_, ⟨rate, isRate, rfl⟩, carries⟩
      exact ⟨rate, isRate, (ctx.carriedBy_linkAt rate).mp carries⟩
    · rintro ⟨rate, isRate, fits⟩
      exact ⟨_, ⟨rate, isRate, rfl⟩, (ctx.carriedBy_linkAt rate).mpr fits⟩
  rw [carried]
  unfold panelRate Fits
  split
  · rfl
  · split
    · simp only [Option.some.injEq, exists_eq_left']
    · simp only [Option.some.injEq, exists_eq_left', standard]

/-- The mode filter multiplies the limits of the sink and the repeaters. -/
theorem getMaxSupportedDclk_eq {ctx : DpMonitorContext}
    (same : ctx.currentDpUsbMode = ctx.dpUsbMode)
    : ∃ linkSpeed laneNum, ctx.getMaxSupportedDclk = maxClock linkSpeed ctx.withBpc.bpc laneNum
        ∧ linkSpeed.toNat = ctx.rateLimit ∧ laneNum.toNat = ctx.laneLimit := by
  have bits : (if dpDefaultBpc < ctx.bpc then dpDefaultBpc else ctx.bpc) = ctx.withBpc.bpc := by
    unfold withBpc
    split <;> rfl
  refine ⟨_, _, by rw [getMaxSupportedDclk, bits], ?_, ?_⟩
  · unfold rateLimit
    rw [same]
    cases ctx.dpUsbMode with
    | standard | altmode => simp only [reduceCtorEq, false_and, if_false]
    | tunnel =>
      by_cases direct : ctx.lttprCount = 0
      · simp only [direct, ne_eq, not_true_eq_false, and_false, false_and, if_false, if_true]
      · simp only [direct, ne_eq, not_false_eq_true, true_and, if_false, BitVec.lt_def]
        split <;> omega
  · unfold laneLimit
    rw [same]
    cases ctx.dpUsbMode with
    | standard => simp only [reduceCtorEq, false_and, if_false]
    | altmode =>
      simp only [if_true, BitVec.lt_def]
      split <;> omega
    | tunnel =>
      by_cases direct : ctx.lttprCount = 0
      · simp only [reduceCtorEq, direct, ne_eq, not_true_eq_false, and_false, if_false, if_true]
      · simp only [reduceCtorEq, direct, ne_eq, not_false_eq_true, and_self, if_true, if_false,
          BitVec.lt_def]
        split <;> omega

/-- The clock of an admitted mode is within what the sink and the repeaters can carry. -/
theorem clock_le_of_admitted {ctx : DpMonitorContext} {dclk : U32}
    (same : ctx.currentDpUsbMode = ctx.dpUsbMode) (max : ctx.getMaxSupportedDclk = some dclk)
    (admitted : ctx.targetTiming.pixelClock ≤ dclk)
    : 0 < ctx.bpc.toNat ∧ ctx.clock ≤ capacity ctx.usedBpc ctx.rateLimit ctx.laneLimit := by
  obtain ⟨linkSpeed, laneNum, isMax, rate, lanes⟩ := getMaxSupportedDclk_eq same
  rw [max] at isMax
  have bits := ctx.toNat_bpc_withBpc
  have positive : 0 < ctx.usedBpc := by
    by_contra none
    have zero : ctx.withBpc.bpc = 0 :=
      BitVec.eq_of_toNat_eq (bits.trans (Nat.eq_zero_of_not_pos none))
    simp [maxClock, zero] at isMax
  have few : ctx.usedBpc ≤ 8 := Nat.min_le_right _ _
  obtain ⟨clock, isClock, clockEq⟩ := maxClock_eq (bits ▸ positive) (bits ▸ few) linkSpeed laneNum
  rw [isClock, Option.some.injEq] at isMax
  rw [bits, rate, lanes] at clockEq
  refine ⟨by unfold usedBpc at positive; omega, ?_⟩
  calc
    ctx.clock ≤ dclk.toNat := admitted
    _ = capacity ctx.usedBpc ctx.rateLimit ctx.laneLimit % 2 ^ 32 := by rw [isMax, clockEq]
    _ ≤ capacity ctx.usedBpc ctx.rateLimit ctx.laneLimit := Nat.mod_le _ _

/-- An admitted mode of a monitor fits when the source has all that the sink and the repeaters
have, and they do not go beyond the largest standard speed.
-/
theorem fits_of_source {port : DpPort} {ctx : DpMonitorContext} {dclk : U32}
    (monitor : port.edpSupported = false) (same : ctx.currentDpUsbMode = ctx.dpUsbMode)
    (max : ctx.getMaxSupportedDclk = some dclk)
    (admitted : ctx.targetTiming.pixelClock ≤ dclk)
    (lanes : ctx.laneLimit ≤ ctx.sourceMaxLaneCount.toNat)
    (rate : ctx.rateLimit ≤ ctx.sourceMaxLinkSpeed.toNat) (standard : ctx.rateLimit ≤ 8100000)
    : ctx.Fits port := by
  have clock := (clock_le_of_admitted same max admitted).2
  have shared : ctx.sharedLanes = ctx.laneLimit := Nat.min_eq_left lanes
  unfold Fits
  simp only [monitor, Bool.false_eq_true, false_and, if_false]
  refine ⟨?_, fun speed lower below => ?_⟩
  · rw [shared, Nat.min_eq_left rate, Nat.min_eq_right standard]
    exact clock
  · rw [shared]
    exact Nat.le_trans (Nat.le_of_lt below) (Nat.mod_le _ _)

-----------------------------------------------------------------------------------------
-- Admitted modes
-----------------------------------------------------------------------------------------

/-- For every admitted mode, the link that is chosen for it carries it within all limits exactly
under the condition.
-/
theorem determineLinkTrainingPara_carries {port : DpPort} (quiet : port.runCTS = false)
    (unspecified : port.destTimingFlag &&& 0x03 = 0) (free : port.hardcodeLinkPara = none)
    {ctx : DpMonitorContext} {dclk : U32} (same : ctx.currentDpUsbMode = ctx.dpUsbMode)
    (max : ctx.getMaxSupportedDclk = some dclk)
    (admitted : ctx.targetTiming.pixelClock ≤ dclk)
    : (∃ link, ctx.determineLinkTrainingPara port false = some link ∧ ctx.CarriedBy link)
      ↔ ctx.Fits port := by
  have positive := (clock_le_of_admitted same max admitted).1
  have choice : ctx.determineLinkTrainingPara port false
      = (ctx.chooseLink port).map clampToSource := by
    simp only [determineLinkTrainingPara, quiet, unspecified, Bool.false_eq_true, if_false, ne_eq,
      not_true_eq_false]
    cases ctx.chooseLink port <;> rfl
  rw [choice]
  exact chooseLink_fits free positive

/-- A port of a monitor without tests, registry entries and panel. -/
def monitorPort : DpPort :=
  { edpSupported := false
    runCTS := false
    destTimingFlag := 0
    getAutoTestDpcdData := fun ctx => (false, ctx)
    getSinkCapsFromSpecificPlace := fun _ ctx => (false, ctx)
    hardcodeLinkPara := none }

/-- A sink and a source of four lanes at 5.4 Gbps, and a mode of 594 MHz. -/
def uhdContext : DpMonitorContext :=
  { sinkMaxLaneCount := 4, sinkMaxLinkSpeed := 5400000, supportTPS3 := true,
    sourceMaxLaneCount := 4, sourceMaxLinkSpeed := 5400000, sourceSupportTPS3 := true,
    laneNumberToUse := 0, linkSpeedToUse := 0, bpc := 8,
    targetTiming := { TimingAttrib.zero with pixelClock := 5940000 }, enableTPS3 := false,
    dpUsbMode := .standard, currentDpUsbMode := .standard, altMaxLaneCount := 0, lttprCount := 0,
    lttprMaxLaneCount := 0, lttprMaxLinkRate := 0,
    supportedLinkRates := Vector.replicate 8 0, supportedLinkRateNum := 0, useLinkRateSet := false }

theorem determineLinkTrainingPara_carries_uhd
    : ∃ link, uhdContext.determineLinkTrainingPara monitorPort false = some link
        ∧ uhdContext.CarriedBy link := by
  have max : uhdContext.getMaxSupportedDclk = some 7200000 := by decide
  have admitted : uhdContext.targetTiming.pixelClock ≤ 7200000 := by decide
  refine (determineLinkTrainingPara_carries rfl rfl rfl rfl max admitted).mpr ?_
  exact fits_of_source rfl rfl max admitted (by decide) (by decide) (by decide)

/-- The same sink and mode on a source of two lanes. -/
def narrowContext : DpMonitorContext := { uhdContext with sourceMaxLaneCount := 2 }

/-- The filter admits the mode, and two lanes at 5.4 Gbps carry 360 MHz. -/
theorem determineLinkTrainingPara_narrow
    : narrowContext.getMaxSupportedDclk = some 7200000
      ∧ narrowContext.targetTiming.pixelClock ≤ 7200000
      ∧ ∃ link, narrowContext.determineLinkTrainingPara monitorPort false = some link
          ∧ capacity link.bpc.toNat link.linkSpeedToUse.toNat link.laneNumberToUse.toNat = 3600000
          ∧ ¬ narrowContext.CarriedBy link := by
  refine ⟨by decide, by decide, _, rfl, by decide, ?_⟩
  intro carried
  exact absurd carried.clock (by decide)

end DpMonitorContext

end Cx4Kernel.Cbios
