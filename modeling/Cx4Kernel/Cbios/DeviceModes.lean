import Cx4Kernel.Cbios.DpLinkPara
import Cx4Kernel.Cbios.TimingTables
import Cx4Kernel.Foundation.SelectionRounds

/-! The list of modes of a device, which `CBiosMode.c` makes of the timings of its EDID. -/

namespace Cx4Kernel.Cbios

open Foundation

/-- `CBiosModeInfoExt`. -/
structure ModeInfoExt where
  xRes : U32
  yRes : U32
  refreshRate : U32
  colorDepthCaps : U32
  xTotal : U32
  yTotal : U32
  pixelClock : U32
  isPreferredMode : Bool
  isInterlaceMode : Bool
deriving DecidableEq

/-- `DEVICE_MODE_DEPTH_CAPS`. -/
def deviceModeDepthCaps : U32 := 0xFB

-----------------------------------------------------------------------------------------
-- cbMode_CompareMode
-----------------------------------------------------------------------------------------

/-- The bits in which the first mode is ahead of the second one. -/
def modePriority (mode1 mode2 : DeviceTimingInfo) : U8 :=
  let timing1 := mode1.fullTiming
  let timing2 := mode2.fullTiming
  (if timing2.xRes < timing1.xRes then 1 <<< 7 else 0)
  ||| (if timing2.yRes < timing1.yRes then 1 <<< 6 else 0)
  ||| (if timing2.refreshRate < timing1.refreshRate then 1 <<< 5 else 0)
  ||| (if mode1.isPreferMode ∧ ¬ mode2.isPreferMode then 1 <<< 4 else 0)
  ||| (if ¬ mode1.isInterLaced ∧ mode2.isInterLaced then 1 <<< 3 else 0)
  ||| (if timing2.pixelClock < timing1.pixelClock then 1 <<< 2 else 0)

/-- `cbMode_CompareMode`. Modes that only differ in the preferred flag are the same. -/
def cbModeCompareMode (mode1 mode2 : DeviceTimingInfo) : Int :=
  let priority1 := modePriority mode1 mode2
  let priority2 := modePriority mode2 mode1
  if priority1 ||| 1 <<< 4 = priority2 ||| 1 <<< 4 ∨ priority1 = priority2 then 0
  else if priority2 < priority1 then 1
  else -1

-----------------------------------------------------------------------------------------
-- cbMode_AddDeviceMode
-----------------------------------------------------------------------------------------

/-- The list in `DEVICE_COMMON`. -/
structure DeviceModes where
  /-- `pDeviceModeList` is not null. -/
  listAllocated : Bool
  modeListArraySize : Nat
  /-- The first `ValidModeNum` entries. -/
  modes : List ModeInfoExt

def DeviceModes.empty : DeviceModes := ⟨false, 0, []⟩

/-- What the list has no two of. -/
structure ModeKey where
  xRes : U32
  yRes : U32
  pixelClock : U32
  xTotal : U32
  yTotal : U32
  isInterlaceMode : Bool
deriving DecidableEq

def ModeInfoExt.key (mode : ModeInfoExt) : ModeKey :=
  ⟨mode.xRes, mode.yRes, mode.pixelClock, mode.xTotal, mode.yTotal, mode.isInterlaceMode⟩

/-- The array is allocated with `InitSize` entries, and grows by half of that when it is full, where
`alloc` tells if an allocation succeeds.
-/
def DeviceModes.prepare (initSize : Nat) (alloc : Bool) (s : DeviceModes) : DeviceModes :=
  let s :=
    if s.listAllocated then s
    else
      { modes := []
        listAllocated := alloc
        modeListArraySize := if alloc then initSize else 0 }
  if s.modeListArraySize ≤ s.modes.length ∧ s.listAllocated ∧ alloc then
    { s with modeListArraySize := s.modeListArraySize + initSize / 2 }
  else s

/-- `cbMode_AddMode`. -/
def cbModeAddMode (initSize : Nat) (alloc : Bool) (mode : ModeInfoExt) (s : DeviceModes)
    : DeviceModes :=
  if s.modes.any (·.key = mode.key) then s
  else
    let s := s.prepare initSize alloc
    if s.listAllocated ∧ s.modes.length < s.modeListArraySize then
      { s with modes := s.modes ++ [mode] }
    else s

/-- The equivalent mode. -/
def ModeInfoExt.equivalent (mode : ModeInfoExt) (refresh pixelClock : U32) : ModeInfoExt :=
  { mode with
    refreshRate := refresh
    pixelClock := pixelClock
    isPreferredMode := false }

/-- The modes that `cbMode_AddDeviceMode` adds for a mode with this VIC, each with a flag that tells
an equivalent mode from the mode itself.
-/
def modesToAdd (isCea861Device : Bool) (mode : ModeInfoExt) (formatVIC : U16)
    : List (ModeInfoExt × Bool) :=
  if isCea861Device then
    match cbEdidModuleIsEquivalentModeExist formatVIC with
    | none => [(mode, false)]
    | some (refresh, pixelClock) =>
      if mode.isPreferredMode ∨ refresh < mode.refreshRate then
        [(mode, false), (mode.equivalent refresh pixelClock, true)]
      else [(mode.equivalent refresh pixelClock, true), (mode, false)]
  else [(mode, false)]

/-- `cbMode_AddDeviceMode`. -/
def cbModeAddDeviceMode (isCea861Device : Bool) (initSize : Nat) (alloc : Bool → Bool)
    (mode : ModeInfoExt) (formatVIC : U16) (s : DeviceModes)
    : DeviceModes :=
  (modesToAdd isCea861Device mode formatVIC).foldl
    (fun s added => cbModeAddMode initSize (alloc added.2) added.1 s) s

-----------------------------------------------------------------------------------------
-- The filter
-----------------------------------------------------------------------------------------

/-- `CBIOS_MONITOR_TYPE`. -/
inductive MonitorType where
  | none
  | crt
  | tv
  | hdtv
  | panel
  | dvi
  | hdmi
  | dp
  | mhl
deriving DecidableEq

/-- What the filter reads in `PCBIOS_EXTENSION_COMMON`, with a flag for each DP port that has the
connector of one.
-/
structure ModeLimits where
  chipID : U32
  svid : U32
  ssid : U32
  version : U8
  fbSize : U8
  snoopOnly : Bool
  dp1IsDp : Bool
  dp2IsDp : Bool
  dp3IsDp : Bool
  maxHdmiClock : U32
  maxMhlClock : U32
  maxIgaClock : U32

/-- `CBIOS_MODE_FILTER_PARA`. -/
structure ModeFilterPara where
  bFilterInterlace : Bool
  maxDclk : U32

def chipidChx004 : U32 := 27
def cbiosTypeDp1 : U32 := 0x8000
def cbiosTypeDp2 : U32 := 0x10000
def cbiosTypeDp3 : U32 := 0x20000

section Filter

variable (limits : ModeLimits) (device : U32) (monitorType : MonitorType)

/-- The largest clock of a type of monitor. A DP monitor or a panel without a context has none. -/
def monitorMaxDclk (dpMonitor : Option DpMonitorContext) : Option U32 :=
  match monitorType with
  | .dvi => some 1650000
  | .hdmi => some limits.maxHdmiClock
  | .mhl => some limits.maxMhlClock
  | .dp | .panel =>
    match dpMonitor with
    | none => some 0
    | some ctx => ctx.getMaxSupportedDclk
  | .crt => some 4000000
  | _ => some 3300000

/-- `cbMode_GetFilterPara`, which fails at a division by 0. -/
def cbModeGetFilterPara (dpMonitor : Option DpMonitorContext) : Option ModeFilterPara := do
  let maxDclk ← monitorMaxDclk limits monitorType dpMonitor
  let isDp := device = cbiosTypeDp1 ∧ limits.dp1IsDp ∨ device = cbiosTypeDp2 ∧ limits.dp2IsDp
    ∨ device = cbiosTypeDp3 ∧ limits.dp3IsDp
  let maxDclk :=
    if 0x11 ≤ limits.version ∧ isDp ∧ monitorType = .hdmi then 3400000 else maxDclk
  let maxDclk := if limits.maxIgaClock < maxDclk then limits.maxIgaClock else maxDclk
  let maxDclk :=
    if limits.svid = 0x17AA ∧ limits.ssid = 0x350B ∧ device = cbiosTypeDp1 then 7000000 else maxDclk
  some { bFilterInterlace := true, maxDclk }

/-- `MaxX`, `MaxY` and `MaxRR`, or none if a mode is not limited by its own size. -/
def maxMode : Option (U16 × U16 × U16) :=
  let fbSize : U32 := 1 <<< (limits.fbSize &&& 0x0F).toNat
  if fbSize ≤ 64 then if monitorType = .panel then none else some (1920, 1080, 6000)
  else if limits.snoopOnly then
    if monitorType = .panel then none
    else if 2 * 1024 ≤ fbSize then some (4096, 2160, 6000)
    else some (1920, 1080, 6000)
  else if limits.svid = 0x8888 ∧ limits.ssid = 0x00ED ∧ device = cbiosTypeDp2 ∧ monitorType = .dp then
    some (3840, 2160, 3000)
  else if monitorType = .crt then some (2048, 1536, 8500)
  else if monitorType = .dvi then some (1920, 1200, 6000)
  else some (4096, 2160, 6000)

/-- `cbMode_NeedFilterMode`. -/
def cbModeNeedFilterMode (filter : ModeFilterPara) (mode : DeviceTimingInfo) : Bool :=
  let timing := mode.fullTiming
  if filter.bFilterInterlace ∧ mode.isInterLaced then true
  else if filter.maxDclk < timing.pixelClock then true
  else if chipidChx004 ≤ limits.chipID then
    match maxMode limits device monitorType with
    | none => false
    | some (maxX, maxY, maxRR) =>
      maxX < timing.xRes ∨ maxY < timing.yRes
      ∨ timing.xRes = maxX ∧ timing.yRes = maxY ∧ maxRR < timing.refreshRate
  else false

end Filter

-----------------------------------------------------------------------------------------
-- cbMode_MakeDeviceModeList
-----------------------------------------------------------------------------------------

/-- What becomes of a timing that meets the best one of a round so far. -/
def timingMeet (timing best : DeviceTimingInfo) : Meeting :=
  let ret := cbModeCompareMode timing best
  if 0 < ret then .beats
  else if ret = 0 then if timing.isPreferMode then .absorbs else .absorbed
  else .waits

/-- The mode of a timing. -/
def DeviceTimingInfo.modeToInsert (timing : DeviceTimingInfo) (isPreferredMode : Bool)
    : ModeInfoExt where
  xRes := timing.fullTiming.xRes.setWidth 32
  yRes := timing.fullTiming.yRes.setWidth 32
  refreshRate := timing.fullTiming.refreshRate.setWidth 32
  colorDepthCaps := deviceModeDepthCaps
  xTotal := timing.fullTiming.horTotal.setWidth 32
  yTotal := timing.fullTiming.verTotal.setWidth 32
  pixelClock := timing.fullTiming.pixelClock
  isPreferredMode := isPreferredMode
  isInterlaceMode := timing.isInterLaced

structure ModeListState where
  list : DeviceModes
  hasPrefer : Bool

section Make

-- The timings of the EDID, if the device is a CEA one, the filter, and the allocations that
-- succeed for the timings and for their equivalent modes.
variable (timings : List DeviceTimingInfo) (isCea861Device : Bool)
  (needFilter : DeviceTimingInfo → Bool) (alloc : Nat → Bool → Bool)

/-- The timings in the order in which `cbMode_MakeDeviceModeList` takes them. A round marks one
timing at least.
-/
def takenTimings : List (Fin timings.length) :=
  champions (fun left right => timingMeet (timings.get left) (timings.get right))
    (List.finRange timings.length) timings.length (fun _ => false)

/-- The end of a round. -/
def insertTiming (s : ModeListState) (index : Fin timings.length) : ModeListState :=
  let timing := timings.get index
  if needFilter timing then s
  else
    let isPreferredMode := timing.isPreferMode && !s.hasPrefer
    { list :=
        cbModeAddDeviceMode isCea861Device timings.length (alloc index.val)
          (timing.modeToInsert isPreferredMode) timing.fullTiming.formatVIC s.list
      hasPrefer := s.hasPrefer || isPreferredMode }

/-- The first mode is preferred if no other one is. -/
def preferFirst (hasPrefer : Bool) (modes : List ModeInfoExt) : List ModeInfoExt :=
  if hasPrefer then modes
  else modes.modify 0 fun mode => { mode with isPreferredMode := true }

/-- `cbMode_MakeDeviceModeList`. -/
def cbModeMakeDeviceModeList : DeviceModes :=
  let s := (takenTimings timings).foldl (insertTiming timings isCea861Device needFilter alloc)
    { list := .empty, hasPrefer := false }
  { s.list with modes := preferFirst s.hasPrefer s.list.modes }

end Make

end Cx4Kernel.Cbios
