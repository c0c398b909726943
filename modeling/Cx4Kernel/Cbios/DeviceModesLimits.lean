import Cx4Kernel.Cbios.ModeTiming

/-! The modes that `cbMode_MakeDeviceModeList` lists keep to the limits of the filter, for which it
only looks at the timings themselves and not at their equivalent modes.
-/

namespace Cx4Kernel.Cbios

-----------------------------------------------------------------------------------------
-- The filter
-----------------------------------------------------------------------------------------

/-- The filter leaves interlaced timings out. -/
theorem getFilterPara_filterInterlace {limits : ModeLimits} {device : U32}
    {monitorType : MonitorType} {dpMonitor : Option DpMonitorContext} {filter : ModeFilterPara}
    (made : cbModeGetFilterPara limits device monitorType dpMonitor = some filter)
    : filter.bFilterInterlace = true := by
  unfold cbModeGetFilterPara at made
  obtain ⟨maxDclk, _, made⟩ := Option.bind_eq_some_iff.mp made
  rw [← Option.some.inj made]

section Filter

variable (limits : ModeLimits) (device : U32) (monitorType : MonitorType) (filter : ModeFilterPara)

/-- The filter lets a timing pass. -/
structure DeviceTimingInfo.Passes (timing : DeviceTimingInfo) : Prop where
  scan : filter.bFilterInterlace = true → timing.isInterLaced = false
  clock : timing.fullTiming.pixelClock ≤ filter.maxDclk
  size : chipidChx004 ≤ limits.chipID
    → ∀ maxX maxY maxRR, maxMode limits device monitorType = some (maxX, maxY, maxRR)
      → timing.fullTiming.xRes ≤ maxX ∧ timing.fullTiming.yRes ≤ maxY
        ∧ (timing.fullTiming.xRes = maxX → timing.fullTiming.yRes = maxY
          → timing.fullTiming.refreshRate ≤ maxRR)

variable {limits device monitorType filter}

theorem passes_of_not_needFilterMode {timing : DeviceTimingInfo}
    (passes : cbModeNeedFilterMode limits device monitorType filter timing = false)
    : timing.Passes limits device monitorType filter := by
  unfold cbModeNeedFilterMode at passes
  dsimp only at passes
  split at passes
  case isTrue => cases passes
  case isFalse progressive =>
    split at passes
    case isTrue => cases passes
    case isFalse slow =>
      refine ⟨fun filters => ?_, BitVec.not_lt.mp slow, fun chip maxX maxY maxRR limit => ?_⟩
      · cases scan : timing.isInterLaced with
        | false => rfl
        | true => exact absurd ⟨filters, scan⟩ progressive
      · rw [if_pos chip, limit] at passes
        dsimp only at passes
        rw [decide_eq_false_iff_not, not_or, not_or] at passes
        obtain ⟨width, height, rate⟩ := passes
        exact ⟨BitVec.not_lt.mp width, BitVec.not_lt.mp height, fun wide high =>
          BitVec.not_lt.mp fun faster => rate ⟨wide, high, faster⟩⟩

/-- No limit has the rows of a format that can be in the NTSC clock. -/
theorem maxMode_rows {maxX maxY maxRR : U16}
    (limit : maxMode limits device monitorType = some (maxX, maxY, maxRR))
    : maxY ≠ 240 ∧ maxY ≠ 480 := by
  unfold maxMode at limit
  dsimp only at limit
  split_ifs at limit <;> cases limit <;> decide

end Filter

-----------------------------------------------------------------------------------------
-- Equivalent modes
-----------------------------------------------------------------------------------------

namespace FormatVic

/-- An equivalent mode is slower than the timing of the format, unless it has so few rows. Then it
is faster by a part in a thousand.
-/
theorem equivalent_le (format : FormatVic) {both : U32 × U32}
    (exist : format.equivalent = some both)
    : let timing := (format.svdTiming false).fullTiming
      (both.1 ≤ timing.refreshRate.setWidth 32 ∧ both.2 ≤ timing.pixelClock)
        ∨ (timing.yRes = 240 ∨ timing.yRes = 480)
          ∧ both.2.toNat * 1000 ≤ timing.pixelClock.toNat * 1001 := by
  have all : ∀ index : Fin 111, (FormatVic.mk index).equivalent.all (fun both =>
      let timing := ((FormatVic.mk index).svdTiming false).fullTiming
      (both.1 ≤ timing.refreshRate.setWidth 32 ∧ both.2 ≤ timing.pixelClock)
        ∨ (timing.yRes = 240 ∨ timing.yRes = 480)
          ∧ both.2.toNat * 1000 ≤ timing.pixelClock.toNat * 1001) = true := by
    decide +kernel
  exact of_decide_eq_true ((Option.all_eq_true _ _).mp (all format.index) both exist)

end FormatVic

-----------------------------------------------------------------------------------------
-- The limits of listed modes
-----------------------------------------------------------------------------------------

section Limits

variable (limits : ModeLimits) (device : U32) (monitorType : MonitorType) (filter : ModeFilterPara)

/-- A mode keeps to the limits of the filter. The clock of an equivalent mode with few rows can be
above its limit by a part in a thousand.
-/
structure ModeInfoExt.Within (mode : ModeInfoExt) : Prop where
  scan : filter.bFilterInterlace = true → mode.isInterlaceMode = false
  clock : mode.pixelClock ≤ filter.maxDclk
    ∨ (mode.yRes = 240 ∨ mode.yRes = 480)
      ∧ mode.pixelClock.toNat * 1000 ≤ filter.maxDclk.toNat * 1001
  size : chipidChx004 ≤ limits.chipID
    → ∀ maxX maxY maxRR, maxMode limits device monitorType = some (maxX, maxY, maxRR)
      → mode.xRes ≤ maxX.setWidth 32 ∧ mode.yRes ≤ maxY.setWidth 32
        ∧ (mode.xRes = maxX.setWidth 32 → mode.yRes = maxY.setWidth 32
          → mode.refreshRate ≤ maxRR.setWidth 32)

variable {limits device monitorType filter}

theorem setWidth_32_le {left right : U16}
    : left.setWidth 32 ≤ right.setWidth 32 ↔ left ≤ right := by
  rw [BitVec.le_def, BitVec.le_def, toNat_setWidth_32, toNat_setWidth_32]

/-- The mode of a timing keeps to the limits if the timing passes. -/
theorem DeviceTimingInfo.Passes.modeToInsert {timing : DeviceTimingInfo}
    (passes : timing.Passes limits device monitorType filter)
    : (timing.modeToInsert false).Within limits device monitorType filter where
  scan := passes.scan
  clock := .inl passes.clock
  size := by
    intro chip maxX maxY maxRR limit
    obtain ⟨width, height, rate⟩ := passes.size chip maxX maxY maxRR limit
    exact ⟨setWidth_32_le.mpr width, setWidth_32_le.mpr height, fun wide high =>
      setWidth_32_le.mpr (rate (setWidth_32_inj wide) (setWidth_32_inj high))⟩

/-- The same for its equivalent mode, where the timing is the one of a format. -/
theorem DeviceTimingInfo.Passes.equivalent {timing : DeviceTimingInfo} {format : FormatVic}
    (passes : timing.Passes limits device monitorType filter) (ofFormat : timing.OfFormat format)
    {refresh pixelClock : U32} (exist : format.equivalent = some (refresh, pixelClock))
    : ((timing.modeToInsert false).equivalent refresh pixelClock).Within limits device monitorType
        filter := by
  have own := passes.modeToInsert
  have rows : timing.fullTiming.yRes = (format.svdTiming false).fullTiming.yRes :=
    congrArg Shape.yRes ofFormat.shape_eq
  have slower := format.equivalent_le exist
  dsimp only at slower
  rw [← ofFormat.refreshRate, ← ofFormat.pixelClock_eq, ← rows] at slower
  refine ⟨passes.scan, ?_, fun chip maxX maxY maxRR limit => ?_⟩
  · rcases slower with ⟨_, clock⟩ | ⟨few, clock⟩
    · exact .inl (BitVec.le_trans clock passes.clock)
    · have few32 := few.imp (congrArg (BitVec.setWidth 32)) (congrArg (BitVec.setWidth 32))
      exact .inr ⟨few32, clock.trans (Nat.mul_le_mul_right 1001 passes.clock)⟩
  · obtain ⟨width, height, rate⟩ := own.size chip maxX maxY maxRR limit
    refine ⟨width, height, fun wide high => ?_⟩
    rcases slower with ⟨refresh, _⟩ | ⟨few, _⟩
    · exact BitVec.le_trans refresh (rate wide high)
    · obtain ⟨not240, not480⟩ := maxMode_rows limit
      have same : timing.fullTiming.yRes = maxY := setWidth_32_inj high
      rcases few with is240 | is480
      · exact absurd (same.symm.trans is240) not240
      · exact absurd (same.symm.trans is480) not480

/-- The preferred flag is no part of it. -/
theorem ModeInfoExt.Within.of_flagged {mode other : ModeInfoExt}
    (within : other.Within limits device monitorType filter)
    (same : { mode with isPreferredMode := false } = other)
    : mode.Within limits device monitorType filter := by
  rw [← same] at within
  exact ⟨within.scan, within.clock, within.size⟩

/-- Each mode of a timing that passes keeps to the limits. -/
theorem ModeOf.within {timings : List DeviceTimingInfo} (well : WellListed timings)
    {timing : DeviceTimingInfo} (inside : timing ∈ timings)
    (passes : timing.Passes limits device monitorType filter) {isCea861Device : Bool}
    {mode : ModeInfoExt} (modeOf : ModeOf isCea861Device timing mode)
    : mode.Within limits device monitorType filter := by
  cases modeOf with
  | own same => exact passes.modeToInsert.of_flagged same
  | equivalent _ refresh pixelClock exist same =>
    obtain ⟨format, ofFormat⟩ := well.named timing inside (equivalentModeExist_ne_zero exist)
    rw [ofFormat.vic] at exist
    exact (passes.equivalent ofFormat exist).of_flagged same

end Limits

/-- Whatever the bytes of an EDID are, no listed mode is interlaced or above the limits of the
filter, apart from the clock of an equivalent mode with few rows.
-/
theorem parsedModes_within (allocs : Allocs) (buffer : Nat → U8) (totalBlocks : Nat)
    (monitorID monitorName : List U8) (limits : ModeLimits) (device : U32)
    (monitorType : MonitorType) (dpMonitor : Option DpMonitorContext) (alloc : Nat → Bool → Bool)
    : ∀ filter ∈ cbModeGetFilterPara limits device monitorType dpMonitor,
      let monitor := parsedMonitor allocs buffer totalBlocks monitorID monitorName
      let needFilter := cbModeNeedFilterMode limits device monitorType filter
      let list :=
        cbModeMakeDeviceModeList monitor.timings monitor.isCea861Device needFilter alloc
      ∀ mode ∈ list.modes,
        mode.isInterlaceMode = false ∧ mode.Within limits device monitorType filter := by
  intro filter made monitor needFilter list mode member
  have well := wellListed_parsedMonitor allocs buffer totalBlocks monitorID monitorName
  obtain ⟨timing, inside, passes, modeOf⟩ := exists_timing_of_listed member
  have within := modeOf.within well inside (passes_of_not_needFilterMode passes)
  exact ⟨within.scan (getFilterPara_filterInterlace made), within⟩

theorem parsedModes_within_twoVics
    : (fullHdMode 741760).isInterlaceMode = false
      ∧ (fullHdMode 741760).Within plainLimits cbiosTypeDp1 .hdmi hdmiFilter :=
  parsedModes_within .plenty twoVics 2 [] [] plainLimits cbiosTypeDp1 .hdmi none plentyModes
    hdmiFilter rfl (fullHdMode 741760) (by decide +kernel)

/-- An EDID with an extension whose only data block has the short video descriptors 48 and 2. -/
def fastVic (index : Nat) : U8 :=
  ([(0x80, 2), (0x81, 3), (0x82, 7), (0x84, 0x42), (0x85, 48), (0x86, 2)].lookup index).getD 0

/-- One lane with 1.62 Gbps has just the clock of VIC 48 with 119.88 Hz. The mode with 120 Hz is
listed as well.
-/
example
    : let monitor := parsedMonitor .plenty fastVic 2 [] []
      let filter : ModeFilterPara := ⟨true, 540000⟩
      let needFilter := cbModeNeedFilterMode plainLimits cbiosTypeDp1 .dp filter
      let list :=
        cbModeMakeDeviceModeList monitor.timings monitor.isCea861Device needFilter plentyModes
      maxClock cbiosDpLinkSpeed1620Mbps dpDefaultBpc 1 = some filter.maxDclk
        ∧ (list.modes.map (·.pixelClock)).contains 540540 = true := by
  decide +kernel

end Cx4Kernel.Cbios
