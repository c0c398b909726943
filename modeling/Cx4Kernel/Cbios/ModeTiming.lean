import Cx4Kernel.Cbios.CeaBlocksSafety
import Cx4Kernel.Cbios.DeviceModesCovered

/-! The timing that `cbMode_GetHVTiming` finds for a mode, and what it finds for the modes that
`cbMode_MakeDeviceModeList` lists.
-/

namespace Cx4Kernel.Cbios

open Foundation

-----------------------------------------------------------------------------------------
-- cbMode_GetHVTiming
-----------------------------------------------------------------------------------------

/-- `CBIOS_MODE_TARGET_PARA`, as far as a timing is looked for by it. -/
structure ModeTargetPara where
  xRes : U32
  yRes : U32
  xTotal : U32
  yTotal : U32
  refRate : U32
  pixelClock : U32
  bInterlace : Bool

/-- What `cbMode_GetHVTiming` reads of a monitor. -/
structure MonitorTimings where
  isCea861Monitor : Bool
  isCea861Hdmi : Bool
  timings : List DeviceTimingInfo

def MonitorTimings.isCea861Device (monitor : MonitorTimings) : Bool :=
  monitor.isCea861Monitor || monitor.isCea861Hdmi

section Match

variable (isCea861Device : Bool) (target : ModeTargetPara)

/-- A timing has the picture, the totals and the kind of scan of a request. -/
def DeviceTimingInfo.fits (timing : DeviceTimingInfo) : Bool :=
  timing.fullTiming.xRes.setWidth 32 = target.xRes
  ∧ timing.fullTiming.yRes.setWidth 32 = target.yRes
  ∧ timing.fullTiming.horTotal.setWidth 32 = target.xTotal
  ∧ timing.fullTiming.verTotal.setWidth 32 = target.yTotal
  ∧ timing.isInterLaced = target.bInterlace

/-- The clocks are compared in kHz, which is the unit of the callers. -/
def DeviceTimingInfo.hasClock (timing : DeviceTimingInfo) : Bool :=
  timing.fullTiming.pixelClock / 10 = target.pixelClock / 10

/-- A timing with the frequencies that its VIC has near the refresh rate of a request. -/
def fixedTiming (timing : DeviceTimingInfo) : Option TimingAttrib :=
  if timing.fullTiming.formatVIC ≠ 0 ∧ isCea861Device then
    (cbEdidModuleIsRefreshInCeaRange (target.refRate.setWidth 16) timing.fullTiming.formatVIC).map
      fun fixed => { timing.fullTiming with refreshRate := fixed.1, pixelClock := fixed.2 }
  else none

/-- The loop over the timings, with what it has found so far: a timing with the clock ends it. -/
def matchTiming : List DeviceTimingInfo → Option TimingAttrib → Option TimingAttrib
  | [], found => found
  | timing :: rest, found =>
    if timing.fits target then
      if timing.hasClock target then some timing.fullTiming
      else matchTiming rest (found.or (fixedTiming isCea861Device target timing))
    else matchTiming rest found

end Match

/-- `cbMode_GetHVTiming`, or none if it returns FALSE. -/
def cbModeGetHvTiming (monitor : MonitorTimings) (target : ModeTargetPara) : Option TimingAttrib :=
  let matched :=
    if target.pixelClock ≠ 0 then matchTiming monitor.isCea861Device target monitor.timings none
    else none
  match matched with
  | some timing => some timing
  | none =>
    (cbEdidModuleGetXyrTiming monitor.isCea861Hdmi (target.xRes.setWidth 16)
      (target.yRes.setWidth 16) (target.refRate.setWidth 16)).map fun timing =>
        if monitor.isCea861Device then timing else { timing with formatVIC := 0 }

/-- The request that `cbDevGetModeTiming` makes for a mode. -/
def ModeInfoExt.target (mode : ModeInfoExt) : ModeTargetPara where
  xRes := mode.xRes
  yRes := mode.yRes
  xTotal := mode.xTotal
  yTotal := mode.yTotal
  refRate := mode.refreshRate
  pixelClock := mode.pixelClock
  bInterlace := mode.isInterlaceMode

/-- `cbDevGetModeTiming`, which leaves a timing of zeros if none is found. -/
def cbDevGetModeTiming (monitor : MonitorTimings) (mode : ModeInfoExt) : TimingAttrib :=
  (cbModeGetHvTiming monitor mode.target).getD .zero

-----------------------------------------------------------------------------------------
-- What the loop finds
-----------------------------------------------------------------------------------------

section Search

variable {isCea861Device : Bool} {target : ModeTargetPara}

/-- A timing that fits, with the frequencies of its VIC. -/
def fittingTiming (isCea861Device : Bool) (target : ModeTargetPara) (timing : DeviceTimingInfo)
    : Option TimingAttrib :=
  if timing.fits target then fixedTiming isCea861Device target timing else none

/-- The first timing with the clock, or else the first one whose VIC has such a refresh rate. -/
theorem matchTiming_eq (timings : List DeviceTimingInfo) (found : Option TimingAttrib)
    : matchTiming isCea861Device target timings found
      = ((timings.find? fun timing => timing.fits target && timing.hasClock target).map
          DeviceTimingInfo.fullTiming).or
        (found.or (timings.findSome? (fittingTiming isCea861Device target))) := by
  induction timings generalizing found with
  | nil => simp [matchTiming]
  | cons timing rest ih =>
    unfold matchTiming
    rw [List.findSome?_cons, fittingTiming]
    cases fits : timing.fits target with
    | false =>
      rw [List.find?_cons_of_neg (by simp [fits]), if_neg Bool.false_ne_true,
        if_neg Bool.false_ne_true, ih]
    | true =>
      cases clock : timing.hasClock target with
      | true =>
        rw [List.find?_cons_of_pos (by simp [fits, clock])]
        rfl
      | false =>
        rw [List.find?_cons_of_neg (by simp [clock]), if_pos rfl, if_pos rfl,
          if_neg Bool.false_ne_true, ih, Option.or_assoc]
        cases fixedTiming isCea861Device target timing <;> rfl

theorem fits_of_fittingTiming {timing : DeviceTimingInfo} {found : TimingAttrib}
    (fitting : fittingTiming isCea861Device target timing = some found)
    : timing.fits target = true
      ∧ timing.fullTiming.formatVIC ≠ 0
      ∧ ∃ fixed, cbEdidModuleIsRefreshInCeaRange (target.refRate.setWidth 16)
          timing.fullTiming.formatVIC = some fixed
        ∧ found = { timing.fullTiming with refreshRate := fixed.1, pixelClock := fixed.2 } := by
  unfold fittingTiming fixedTiming at fitting
  split at fitting
  case isFalse => cases fitting
  case isTrue fits =>
    split at fitting
    case isFalse => cases fitting
    case isTrue named =>
      obtain ⟨fixed, inRange, rfl⟩ := Option.map_eq_some_iff.mp fitting
      exact ⟨fits, named.1, fixed, inRange, rfl⟩

end Search

-----------------------------------------------------------------------------------------
-- Formats of one shape
-----------------------------------------------------------------------------------------

/-- What a request tells of a picture, apart from its frequencies. -/
structure Shape where
  xRes : U16
  yRes : U16
  horTotal : U16
  verTotal : U16
  isInterLaced : Bool
deriving DecidableEq

def DeviceTimingInfo.shape (timing : DeviceTimingInfo) : Shape where
  xRes := timing.fullTiming.xRes
  yRes := timing.fullTiming.yRes
  horTotal := timing.fullTiming.horTotal
  verTotal := timing.fullTiming.verTotal
  isInterLaced := timing.isInterLaced

theorem setWidth_32_inj {left right : U16} (same : left.setWidth 32 = right.setWidth 32)
    : left = right := by
  have value := congrArg BitVec.toNat same
  rw [toNat_setWidth_32, toNat_setWidth_32] at value
  exact BitVec.eq_of_toNat_eq value

theorem fits_iff_shape_eq {timing other : DeviceTimingInfo} {target : ModeTargetPara}
    (fits : other.fits target = true)
    : timing.fits target = true ↔ timing.shape = other.shape := by
  unfold DeviceTimingInfo.fits at fits ⊢
  rw [decide_eq_true_eq] at fits ⊢
  obtain ⟨xRes, yRes, xTotal, yTotal, scan⟩ := fits
  rw [← xRes, ← yRes, ← xTotal, ← yTotal, ← scan]
  constructor
  · rintro ⟨width, height, columns, rows, same⟩
    rw [DeviceTimingInfo.shape, DeviceTimingInfo.shape, setWidth_32_inj width,
      setWidth_32_inj height, setWidth_32_inj columns, setWidth_32_inj rows, same]
  · intro same
    injection same with width height columns rows same
    rw [width, height, columns, rows, same]
    exact ⟨rfl, rfl, rfl, rfl, rfl⟩

namespace FormatVic

/-- The refresh rate and the clock of the equivalent mode of a format. -/
abbrev equivalent (format : FormatVic) : Option (U32 × U32) :=
  cbEdidModuleIsEquivalentModeExist format.vic

/-- The timing of an equivalent mode is found by its refresh rate. -/
theorem equivalent_inRange (format : FormatVic) {both : U32 × U32}
    (exist : format.equivalent = some both)
    : cbEdidModuleIsRefreshInCeaRange (both.1.setWidth 16) format.vic
      = some (both.1.setWidth 16, both.2) := by
  have all : ∀ index : Fin 111, (FormatVic.mk index).equivalent.all (fun both =>
      cbEdidModuleIsRefreshInCeaRange (both.1.setWidth 16) (FormatVic.mk index).vic
        = some (both.1.setWidth 16, both.2)) = true := by
    decide +kernel
  exact of_decide_eq_true ((Option.all_eq_true _ _).mp (all format.index) both exist)

/-- The clock of the equivalent mode of VIC 74. The entry of this VIC has the clock of 29.97 Hz, and
its equivalent mode takes the fraction of it once more.
-/
def oddClock : U32 := 741020

/-- Another format of the same shape has the same clock for this refresh rate, or it has this clock
without it.
-/
theorem equivalent_clock {first second : FormatVic} {both : U32 × U32} {fixed : U16 × U32}
    (exist : first.equivalent = some both)
    (shape : (first.svdTiming false).shape = (second.svdTiming false).shape)
    (inRange : cbEdidModuleIsRefreshInCeaRange (both.1.setWidth 16) second.vic = some fixed)
    : fixed.2 = both.2 ∨ both.2 = oddClock
      ∨ (second.svdTiming false).fullTiming.pixelClock / 10 = both.2 / 10 := by
  have all : ∀ first : Fin 111, (FormatVic.mk first).equivalent.all (fun both =>
      ∀ second : Fin 111,
        ((FormatVic.mk first).svdTiming false).shape = ((FormatVic.mk second).svdTiming false).shape
        → (cbEdidModuleIsRefreshInCeaRange (both.1.setWidth 16) (FormatVic.mk second).vic).all
          fun fixed =>
            fixed.2 = both.2 ∨ both.2 = oddClock
            ∨ ((FormatVic.mk second).svdTiming false).fullTiming.pixelClock / 10 = both.2 / 10)
      = true := by
    decide +kernel
  have seconds := of_decide_eq_true ((Option.all_eq_true _ _).mp (all first.index) both exist)
  have clocks := (Option.all_eq_true _ _).mp (seconds second.index shape) fixed inRange
  exact of_decide_eq_true clocks

end FormatVic

namespace DeviceTimingInfo.OfFormat

variable {format : FormatVic} {timing : DeviceTimingInfo}

theorem same (named : timing.OfFormat format)
    : { timing.fullTiming with
          formatVIC := (format.svdTiming false).fullTiming.formatVIC
          refreshRate := (format.svdTiming false).fullTiming.refreshRate
          horSyncStart := (format.svdTiming false).fullTiming.horSyncStart
          horSyncEnd := (format.svdTiming false).fullTiming.horSyncEnd
          verSyncStart := (format.svdTiming false).fullTiming.verSyncStart
          verSyncEnd := (format.svdTiming false).fullTiming.verSyncEnd }
        = (format.svdTiming false).fullTiming
      ∧ timing.aspectRatio = (format.svdTiming false).aspectRatio
      ∧ timing.isInterLaced = (format.svdTiming false).isInterLaced :=
  of_decide_eq_true named.like

theorem shape_eq (named : timing.OfFormat format)
    : timing.shape = (format.svdTiming false).shape := by
  obtain ⟨full, _, scan⟩ := named.same
  have xRes := congrArg TimingAttrib.xRes full
  have yRes := congrArg TimingAttrib.yRes full
  have horTotal := congrArg TimingAttrib.horTotal full
  have verTotal := congrArg TimingAttrib.verTotal full
  dsimp only at xRes yRes horTotal verTotal
  rw [shape, shape, xRes, yRes, horTotal, verTotal, scan]

theorem pixelClock_eq (named : timing.OfFormat format)
    : timing.fullTiming.pixelClock = (format.svdTiming false).fullTiming.pixelClock := by
  have clock := congrArg TimingAttrib.pixelClock named.same.1
  exact clock

end DeviceTimingInfo.OfFormat

-----------------------------------------------------------------------------------------
-- The timings of listed modes
-----------------------------------------------------------------------------------------

/-- A timing is the one of a mode: its picture, its totals, and its clock in kHz. -/
structure TimingAttrib.TimingOf (timing : TimingAttrib) (mode : ModeInfoExt) : Prop where
  xRes : timing.xRes.setWidth 32 = mode.xRes
  yRes : timing.yRes.setWidth 32 = mode.yRes
  xTotal : timing.horTotal.setWidth 32 = mode.xTotal
  yTotal : timing.verTotal.setWidth 32 = mode.yTotal
  pixelClock : timing.pixelClock / 10 = mode.pixelClock / 10 ∨ mode.pixelClock = FormatVic.oddClock

theorem timingOf_of_fits {timing : DeviceTimingInfo} {found : TimingAttrib} {mode : ModeInfoExt}
    (fits : timing.fits mode.target = true)
    (same : { found with
        refreshRate := timing.fullTiming.refreshRate
        pixelClock := timing.fullTiming.pixelClock } = timing.fullTiming)
    (clock : found.pixelClock / 10 = mode.pixelClock / 10 ∨ mode.pixelClock = FormatVic.oddClock)
    : found.TimingOf mode := by
  unfold DeviceTimingInfo.fits at fits
  rw [decide_eq_true_eq, ← same] at fits
  exact ⟨fits.1, fits.2.1, fits.2.2.1, fits.2.2.2.1, clock⟩

/-- A request with a clock ends in the loop if a timing of the list has what it asks for. -/
theorem getHvTiming_of_matchTiming {monitor : MonitorTimings} {target : ModeTargetPara}
    {found : TimingAttrib} (clock : target.pixelClock ≠ 0)
    (matched : matchTiming monitor.isCea861Device target monitor.timings none = some found)
    : cbModeGetHvTiming monitor target = some found := by
  unfold cbModeGetHvTiming
  dsimp only
  rw [if_pos clock, matched]

theorem ModeOf.fits {isCea861Device : Bool} {timing : DeviceTimingInfo} {mode : ModeInfoExt}
    (modeOf : ModeOf isCea861Device timing mode)
    : timing.fits mode.target = true := by
  have fields : mode.xRes = timing.fullTiming.xRes.setWidth 32
      ∧ mode.yRes = timing.fullTiming.yRes.setWidth 32
      ∧ mode.xTotal = timing.fullTiming.horTotal.setWidth 32
      ∧ mode.yTotal = timing.fullTiming.verTotal.setWidth 32
      ∧ mode.isInterlaceMode = timing.isInterLaced := by
    cases modeOf with
    | own same =>
      injection same with xRes yRes _ _ xTotal yTotal _ _ scan
      exact ⟨xRes, yRes, xTotal, yTotal, scan⟩
    | equivalent _ _ _ _ same =>
      injection same with xRes yRes _ _ xTotal yTotal _ _ scan
      exact ⟨xRes, yRes, xTotal, yTotal, scan⟩
  obtain ⟨xRes, yRes, xTotal, yTotal, scan⟩ := fields
  unfold DeviceTimingInfo.fits ModeInfoExt.target
  rw [decide_eq_true_eq]
  exact ⟨xRes.symm, yRes.symm, xTotal.symm, yTotal.symm, scan.symm⟩

/-- No VIC is the VIC 0. -/
theorem equivalentModeExist_ne_zero {vic : U16} {both : U32 × U32}
    (exist : cbEdidModuleIsEquivalentModeExist vic = some both)
    : vic ≠ 0 := by
  rintro rfl
  cases exist

section Listed

variable {monitor : MonitorTimings} {mode : ModeInfoExt} {timing : DeviceTimingInfo}

/-- The timing of an equivalent mode is found, if no other one is. -/
theorem exists_fittingTiming (well : WellListed monitor.timings)
    (isCea : monitor.isCea861Device = true) (inside : timing ∈ monitor.timings)
    (fits : timing.fits mode.target = true) {refresh pixelClock : U32}
    (rate : mode.refreshRate = refresh)
    (exist : cbEdidModuleIsEquivalentModeExist timing.fullTiming.formatVIC
      = some (refresh, pixelClock))
    : ∃ found, monitor.timings.findSome? (fittingTiming monitor.isCea861Device mode.target)
      = some found := by
  have some := equivalentModeExist_ne_zero exist
  obtain ⟨format, ofFormat⟩ := well.named timing inside some
  have inRange := format.equivalent_inRange (ofFormat.vic ▸ exist)
  refine Option.ne_none_iff_exists'.mp fun none => ?_
  have unfit := List.findSome?_eq_none_iff.mp none timing inside
  unfold fittingTiming fixedTiming at unfit
  rw [if_pos fits, if_pos ⟨some, isCea⟩, Option.map_eq_none_iff, ofFormat.vic] at unfit
  change cbEdidModuleIsRefreshInCeaRange (mode.refreshRate.setWidth 16) _ = _ at unfit
  rw [rate, inRange] at unfit
  cases unfit

/-- The loop finds a timing for the mode of a timing of the list. -/
theorem ModeOf.exists_matchTiming (well : WellListed monitor.timings)
    (inside : timing ∈ monitor.timings) (modeOf : ModeOf monitor.isCea861Device timing mode)
    : ∃ found,
      matchTiming monitor.isCea861Device mode.target monitor.timings none = some found
        ∧ found.TimingOf mode := by
  rw [matchTiming_eq, Option.none_or]
  cases first : monitor.timings.find?
      fun timing => timing.fits mode.target && timing.hasClock mode.target with
  | some other =>
    have both := List.find?_some first
    rw [Bool.and_eq_true] at both
    exact ⟨other.fullTiming, rfl, timingOf_of_fits both.1 rfl (.inl (of_decide_eq_true both.2))⟩
  | none =>
    have lacks : ∀ other ∈ monitor.timings, other.fits mode.target = true
        → other.fullTiming.pixelClock / 10 ≠ mode.pixelClock / 10 := by
      intro other member fits clock
      have neither := List.find?_eq_none.mp first other member
      rw [fits, Bool.true_and] at neither
      exact neither (decide_eq_true clock)
    have fits := modeOf.fits
    cases modeOf with
    | own same =>
      -- The timing of the mode has its clock.
      have clock := congrArg ModeInfoExt.pixelClock same
      exact absurd (congrArg (· / 10) clock).symm (lacks timing inside fits)
    | equivalent isCea refresh pixelClock exist same =>
      have rate : mode.refreshRate = refresh := congrArg ModeInfoExt.refreshRate same
      have clock : mode.pixelClock = pixelClock := congrArg ModeInfoExt.pixelClock same
      obtain ⟨format, ofFormat⟩ := well.named timing inside (equivalentModeExist_ne_zero exist)
      obtain ⟨found, finds⟩ := exists_fittingTiming well isCea inside fits rate exist
      obtain ⟨other, member, fitting⟩ := List.exists_of_findSome?_eq_some finds
      obtain ⟨otherFits, named, fixed, inRange, rfl⟩ := fits_of_fittingTiming fitting
      obtain ⟨otherFormat, otherOf⟩ := well.named other member named
      refine ⟨_, finds, timingOf_of_fits otherFits rfl ?_⟩
      -- The timing that is found is the one of a format of the same shape.
      have shape : (format.svdTiming false).shape = (otherFormat.svdTiming false).shape := by
        rw [← ofFormat.shape_eq, ← otherOf.shape_eq]
        exact (fits_iff_shape_eq otherFits).mp fits
      have otherClock := lacks other member otherFits
      rw [ofFormat.vic] at exist
      rw [otherOf.vic] at inRange
      rw [otherOf.pixelClock_eq, clock] at otherClock
      change cbEdidModuleIsRefreshInCeaRange (mode.refreshRate.setWidth 16) _ = _ at inRange
      rw [rate] at inRange
      rw [clock]
      rcases FormatVic.equivalent_clock exist shape inRange with same | odd | same
      · exact .inl (congrArg (· / 10) same)
      · exact .inr odd
      · exact absurd same otherClock

/-- A listed mode is one of a timing that the filter lets pass. -/
theorem exists_timing_of_listed {needFilter : DeviceTimingInfo → Bool} {alloc : Nat → Bool → Bool}
    (member : mode ∈ (cbModeMakeDeviceModeList monitor.timings monitor.isCea861Device needFilter
      alloc).modes)
    : ∃ timing ∈ monitor.timings, needFilter timing = false
      ∧ ModeOf monitor.isCea861Device timing mode := by
  have ok := makeDeviceModeList_listOk monitor.timings monitor.isCea861Device needFilter alloc
  obtain ⟨index, _, passes, modeOf⟩ := ok.source mode member
  exact ⟨monitor.timings.get index, List.get_mem _ index, passes, modeOf⟩

end Listed

section Parsed

variable (allocs : Allocs) (buffer : Nat → U8) (totalBlocks : Nat)

/-- What `cbEDIDModule_ParseEDID` leaves for a lookup. -/
def parsedMonitor (monitorID monitorName : List U8) : MonitorTimings :=
  let parsed := cbEdidModuleParseEdid allocs buffer totalBlocks monitorID monitorName
  { isCea861Monitor := parsed.1.isCea861Monitor
    isCea861Hdmi := parsed.1.isCea861Hdmi
    timings := parsed.2.edid.timings }

theorem wellListed_parsedMonitor (monitorID monitorName : List U8)
    : WellListed (parsedMonitor allocs buffer totalBlocks monitorID monitorName).timings :=
  have stepped := stepped_parseTimings allocs buffer totalBlocks _
  (stepped.ok (getDetailedMode_ok allocs buffer _)).well

/-- Whatever the bytes of an EDID are, `cbDevGetModeTiming` finds the timing of each listed mode
that has a clock, apart from the clock of one equivalent mode.
-/
theorem cbDevGetModeTiming_listed (needFilter : DeviceTimingInfo → Bool)
    (alloc : Nat → Bool → Bool) (monitorID monitorName : List U8)
    : let monitor := parsedMonitor allocs buffer totalBlocks monitorID monitorName
      let list :=
        cbModeMakeDeviceModeList monitor.timings monitor.isCea861Device needFilter alloc
      ∀ mode ∈ list.modes, mode.pixelClock ≠ 0
        → (cbDevGetModeTiming monitor mode).TimingOf mode := by
  intro monitor list mode member clock
  have well := wellListed_parsedMonitor allocs buffer totalBlocks monitorID monitorName
  obtain ⟨timing, inside, _, modeOf⟩ := exists_timing_of_listed member
  obtain ⟨found, matched, timingOf⟩ := modeOf.exists_matchTiming well inside
  rw [cbDevGetModeTiming, getHvTiming_of_matchTiming clock matched, Option.getD_some]
  exact timingOf

end Parsed

/-- An EDID with an extension whose only data block has the short video descriptors 34 and 74. -/
def twoVics (index : Nat) : U8 :=
  ([(0x80, 2), (0x81, 3), (0x82, 7), (0x84, 0x42), (0x85, 34), (0x86, 74)].lookup index).getD 0

/-- The modes for 1920×1080 with 29.97 Hz, with the clock of the equivalent mode of VIC 34 or 74. -/
def fullHdMode (pixelClock : U32) : ModeInfoExt where
  xRes := 1920
  yRes := 1080
  refreshRate := 2997
  colorDepthCaps := deviceModeDepthCaps
  xTotal := 2200
  yTotal := 1125
  pixelClock := pixelClock
  isPreferredMode := false
  isInterlaceMode := false

theorem cbDevGetModeTiming_listed_twoVics
    : (cbDevGetModeTiming (parsedMonitor .plenty twoVics 2 [] []) (fullHdMode 741760)).TimingOf
        (fullHdMode 741760) :=
  cbDevGetModeTiming_listed .plenty twoVics 2 (fun _ => false) plentyModes [] []
    (fullHdMode 741760) (by decide +kernel) (by decide)

/-- The mode with the other clock gets the timing of the first one. -/
example
    : let monitor := parsedMonitor .plenty twoVics 2 [] []
      let list :=
        cbModeMakeDeviceModeList monitor.timings monitor.isCea861Device (fun _ => false) plentyModes
      fullHdMode FormatVic.oddClock ∈ list.modes
        ∧ (cbDevGetModeTiming monitor (fullHdMode FormatVic.oddClock)).pixelClock = 741760 := by
  decide +kernel

end Cx4Kernel.Cbios
