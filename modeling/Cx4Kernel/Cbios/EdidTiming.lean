import Cx4Kernel.Cbios.MapMask
import Cx4Kernel.Cbios.Timing

/-! The timings that `CBiosEDID.c` parses from detailed timing descriptors and DisplayID blocks, and
the list that it keeps them in.
-/

namespace Cx4Kernel.Cbios

-----------------------------------------------------------------------------------------
-- Timings
-----------------------------------------------------------------------------------------

/-- `CBIOS_TIMING_TYPE`. -/
inductive TimingType where
  | nonEdid
  | est
  | std
  | dtl
  | dtd
  | svd
  | dispId
deriving DecidableEq

/-- `CBIOS_DEVICE_TIMING_INFO`. -/
structure DeviceTimingInfo where
  timingType : TimingType
  fullTiming : TimingAttrib
  aspectRatio : U16
  isSupportMono : Bool
  isSupportStereo : Bool
  isNativeMode : Bool
  isPreferMode : Bool
  isInterLaced : Bool
  isSupportYCbCr420 : Bool
deriving DecidableEq

/-- One direction of a timing, in pixels or lines. -/
structure Axis where
  res : U16
  blank : U16
  syncOffset : U16
  syncWidth : U16

/-- The fields of a timing, which the parsers fill alike. The refresh rate is rounded to a whole
hertz.
-/
def fillTiming (pixelClock : U32) (hor ver : Axis) (hvPolarity : U16) : TimingAttrib :=
  let horTotal := hor.res + hor.blank
  let verTotal := ver.res + ver.blank
  let refreshRate := cbCalcRefreshRate pixelClock horTotal verTotal
  { formatVIC := 0
    xRes := hor.res
    yRes := ver.res
    refreshRate := (100 * cbRound (refreshRate.setWidth 32) 100 .nearest).setWidth 16
    hvPolarity := hvPolarity
    pixelClock := pixelClock
    horTotal := horTotal
    horDisEnd := hor.res
    horBStart := hor.res
    horBEnd := hor.res + hor.blank
    horSyncStart := hor.res + hor.syncOffset
    horSyncEnd := hor.res + hor.syncOffset + hor.syncWidth
    verTotal := verTotal
    verDisEnd := ver.res
    verBStart := ver.res
    verBEnd := ver.res + ver.blank
    verSyncStart := ver.res + ver.syncOffset
    verSyncEnd := ver.res + ver.syncOffset + ver.syncWidth }

-----------------------------------------------------------------------------------------
-- cbEDIDModule_ParseDtlTiming
-----------------------------------------------------------------------------------------

def edidPixelClock : List (Nat × U8) := [(0x00, 0xFF), (0x01, 0xFF)]
def edidHorizontalActive : List (Nat × U8) := [(0x02, 0xFF), (0x04, 0xF0)]
def edidHorizontalBlanking : List (Nat × U8) := [(0x03, 0xFF), (0x04, 0x0F)]
def edidVerticalActive : List (Nat × U8) := [(0x05, 0xFF), (0x07, 0xF0)]
def edidVerticalBlanking : List (Nat × U8) := [(0x06, 0xFF), (0x07, 0x0F)]
def edidHorizontalSyncOffset : List (Nat × U8) := [(0x08, 0xFF), (0x0B, 0xC0)]
def edidHorizontalSyncPulseWidth : List (Nat × U8) := [(0x09, 0xFF), (0x0B, 0x30)]
def edidVerticalSyncOffset : List (Nat × U8) := [(0x0A, 0xF0), (0x0B, 0x0C)]
def edidVerticalSyncPulseWidth : List (Nat × U8) := [(0x0A, 0x0F), (0x0B, 0x03)]
def edidHorizontalImageSize : List (Nat × U8) := [(0x0C, 0xFF), (0x0E, 0xF0)]
def edidVerticalImageSize : List (Nat × U8) := [(0x0D, 0xFF), (0x0E, 0x0F)]

variable (data : Nat → U8)

/-- A table read that is cut to 16 bits. -/
def mapMaskU16 (table : List (Nat × U8)) : U16 := (mapMaskRead data table).setWidth 16

/-- The bit of an interlaced timing in byte 0x11. -/
def dtlInterlaced : Bool := data 0x11 &&& 0x80 ≠ 0

/-- The polarities in byte 0x11, where only a digital separate sync has positive ones. -/
def dtlPolarity : U16 :=
  let separate := data 0x11 &&& 0x18 = 0x18
  let hSync := if separate ∧ data 0x11 &&& 0x02 ≠ 0 then 0 else horNegative
  let vSync := if separate ∧ data 0x11 &&& 0x04 ≠ 0 then 0 else verNegative
  hSync + vSync

/-- `AspectRatio` from the image size, where a width of 4/3 of the height is 1. -/
def dtlAspectRatio : U16 :=
  let hImageSize : U32 := (mapMaskU16 data edidHorizontalImageSize).setWidth 32
  let vImageSize : U32 := (mapMaskU16 data edidVerticalImageSize).setWidth 32
  if vImageSize ≠ 0 then
    let ratio : U16 := (hImageSize * 10000 / vImageSize).setWidth 16
    if 13000 < ratio ∧ ratio < 14000 then 1 else 2
  else 2

def dtlHor : Axis where
  res := mapMaskU16 data edidHorizontalActive
  blank := mapMaskU16 data edidHorizontalBlanking
  syncOffset := mapMaskU16 data edidHorizontalSyncOffset
  syncWidth := mapMaskU16 data edidHorizontalSyncPulseWidth

/-- The lines of an interlaced timing are doubled, with one more for the blanking. -/
def dtlVer : Axis :=
  let field : Axis :=
    { res := mapMaskU16 data edidVerticalActive
      blank := mapMaskU16 data edidVerticalBlanking
      syncOffset := mapMaskU16 data edidVerticalSyncOffset
      syncWidth := mapMaskU16 data edidVerticalSyncPulseWidth }
  if dtlInterlaced data then
    { res := field.res * 2
      blank := field.blank * 2 + 1
      syncOffset := field.syncOffset * 2
      syncWidth := field.syncWidth * 2 }
  else field

/-- `cbEDIDModule_ParseDtlTiming` on a timing of zeros, or none if it returns FALSE. -/
def cbEdidModuleParseDtlTiming : Option DeviceTimingInfo :=
  let pixelClock := mapMaskRead data edidPixelClock * 100
  if pixelClock = 0 then none
  else
    let hor := dtlHor data
    let ver := dtlVer data
    if hor.res = 0 ∨ ver.res = 0 ∨ hor.res + hor.blank = 0 ∨ ver.res + ver.blank = 0 then none
    else
      some
        { timingType := .nonEdid
          fullTiming := fillTiming pixelClock hor ver (dtlPolarity data)
          aspectRatio := dtlAspectRatio data
          isSupportMono := true
          isSupportStereo := false
          isNativeMode := false
          isPreferMode := false
          isInterLaced := dtlInterlaced data
          isSupportYCbCr420 := false }

-----------------------------------------------------------------------------------------
-- The descriptors of cbEDIDModule_GetDisplayIDTiming
-----------------------------------------------------------------------------------------

/-- A field of two bytes that holds one less than its value. -/
def didWord (high low : U8) : U16 := (high.setWidth 16 <<< 8) + low.setWidth 16 + 1

def didHor : Axis where
  res := didWord (data 5) (data 4)
  blank := didWord (data 7) (data 6)
  syncOffset := didWord (data 9 &&& 0x7F) (data 8)
  syncWidth := didWord (data 11) (data 10)

def didVer : Axis where
  res := didWord (data 13) (data 12)
  blank := didWord (data 15) (data 14)
  syncOffset := didWord (data 17 &&& 0x7F) (data 16)
  syncWidth := didWord (data 19) (data 18)

/-- The clock of a type VII descriptor is in units of 1 kHz, that of type I in 10 kHz. -/
def didPixelClock (type7 : Bool) : U32 :=
  let clock : U32 := ((data 2).setWidth 32 <<< 16) + ((data 1).setWidth 32 <<< 8)
    + ((data 0).setWidth 32 + 1)
  if type7 then clock * 10 else clock * 100

/-- One descriptor of a DisplayID block, or none if it is skipped for its size. -/
def parseDidTiming (type7 : Bool) (blockRevision : U8) : Option DeviceTimingInfo :=
  let hor := didHor data
  let ver := didVer data
  let hSync := if data 9 &&& 0x80 ≠ 0 then 0 else horNegative
  let vSync := if data 17 &&& 0x80 ≠ 0 then 0 else verNegative
  let stereoSupport := (data 3 &&& 0x60) >>> 5
  if hor.res = 0 ∨ ver.res = 0 then none
  else
    some
      { timingType := .dispId
        fullTiming := fillTiming (didPixelClock data type7) hor ver (hSync + vSync)
        aspectRatio := (data 3 &&& 0xF).setWidth 16
        isSupportMono := stereoSupport = 0 ∨ stereoSupport = 2
        isSupportStereo := stereoSupport = 1 ∨ stereoSupport = 2
        isNativeMode := false
        isPreferMode := blockRevision < 2 ∧ data 3 &&& 0x80 ≠ 0
        isInterLaced := data 3 &&& 0x10 ≠ 0
        isSupportYCbCr420 := blockRevision = 2 ∧ data 3 &&& 0x80 ≠ 0 }

-----------------------------------------------------------------------------------------
-- The list of timings
-----------------------------------------------------------------------------------------

/-- `CBIOS_EDID_STRUCTURE_DATA`, as far as the list of timings depends on it. -/
structure EdidStructureData where
  monitorID : List U8
  monitorName : List U8
  nativeFormatNum : U32
  nativeNumUsed : U8
  /-- `pDeviceTimingList` is not null. -/
  listAllocated : Bool
  timingArraySize : Nat
  timings : List DeviceTimingInfo
deriving DecidableEq

/-- `cbStrnCmp` on two buffers, or 0 if they agree up to a byte 0. -/
def cbStrnCmp (str1 str2 : List U8) : Nat → Int
  | 0 => 0
  | length + 1 =>
    let byte1 := str1.getD 0 0
    let byte2 := str2.getD 0 0
    if byte1 = 0 ∨ byte2 = 0 ∨ byte1 ≠ byte2 then (byte1.toNat : Int) - byte2.toNat
    else cbStrnCmp str1.tail str2.tail length

namespace EdidStructureData

/-- Both names of a monitor are as given. -/
def isMonitor (edid : EdidStructureData) (id name : List U8) : Bool :=
  cbStrnCmp edid.monitorID id 7 = 0 ∧ cbStrnCmp edid.monitorName name 12 = 0

/-- The BenQ EL2870U, with the ID `BNQ7949`. -/
def isBenqEl2870u (edid : EdidStructureData) : Bool :=
  edid.isMonitor [0x42, 0x4E, 0x51, 0x37, 0x39, 0x34, 0x39]
    [0x42, 0x65, 0x6E, 0x51, 0x20, 0x45, 0x4C, 0x32, 0x38, 0x37, 0x30, 0x55]

/-- The panel `AUO44B5`, with the name `B145QAN01.K` and a blank. -/
def isAuo44b5 (edid : EdidStructureData) : Bool :=
  edid.isMonitor [0x41, 0x55, 0x4F, 0x34, 0x34, 0x42, 0x35]
    [0x42, 0x31, 0x34, 0x35, 0x51, 0x41, 0x4E, 0x30, 0x31, 0x2E, 0x4B, 0x20]

def maxDeviceTimingNum : Nat := 48

/-- `cbEDIDModule_AddDeviceTiming`, where `alloc` tells if an allocation succeeds. -/
def addDeviceTiming (alloc : Bool) (timing : DeviceTimingInfo) (edid : EdidStructureData)
    : EdidStructureData :=
  let edid :=
    if edid.listAllocated then edid
    else
      { edid with
        listAllocated := alloc
        timingArraySize := if alloc then maxDeviceTimingNum else 0
        timings := [] }
  let edid :=
    if edid.timingArraySize ≤ edid.timings.length ∧ edid.listAllocated ∧ alloc then
      { edid with timingArraySize := edid.timingArraySize + maxDeviceTimingNum / 2 }
    else edid
  if edid.listAllocated ∧ edid.timings.length < edid.timingArraySize then
    { edid with timings := edid.timings ++ [timing] }
  else edid

end EdidStructureData

def cbiosMinPixelClk : U32 := 200000
def cbiosMinTimingX : U16 := 640
def cbiosMinTimingY : U16 := 480

/-- `cbEDIDModule_MatchTiming`. -/
def cbEdidModuleMatchTiming (timing : DeviceTimingInfo) (xResolution yResolution : U16)
    (refreshRate : Nat) (interlaced : Bool)
    : Bool :=
  timing.fullTiming.xRes = xResolution ∧ timing.fullTiming.yRes = yResolution
  ∧ timing.isInterLaced = interlaced
  ∧ refreshRate - 50 ≤ timing.fullTiming.refreshRate.toNat
  ∧ timing.fullTiming.refreshRate.toNat ≤ refreshRate + 50

/-- `cbEDIDModule_ValidateTiming`. -/
def cbEdidModuleValidateTiming (edid : EdidStructureData) (timing : DeviceTimingInfo) : Bool :=
  if timing.fullTiming.pixelClock < cbiosMinPixelClk
      ∨ timing.fullTiming.xRes < cbiosMinTimingX ∨ timing.fullTiming.yRes < cbiosMinTimingY then
    false
  else if timing ∈ edid.timings then false
  else
    ¬ (timing.timingType = .dtd ∧ edid.isBenqEl2870u
      ∧ cbEdidModuleMatchTiming timing 3840 2160 3000 false)

/-- A detailed timing takes one of the native formats while there are any. -/
def markNative (edid : EdidStructureData) (timing : DeviceTimingInfo)
    : EdidStructureData × DeviceTimingInfo :=
  if edid.nativeNumUsed.setWidth 32 < edid.nativeFormatNum then
    ({ edid with nativeNumUsed := edid.nativeNumUsed + 1 }, { timing with isNativeMode := true })
  else (edid, timing)

-----------------------------------------------------------------------------------------
-- The passes over descriptors
-----------------------------------------------------------------------------------------

/-- The body of the loop of `cbEDIDModule_GetDetailedMode`. -/
def detailedModeStep (alloc : Nat → Bool) (edid : EdidStructureData) (i : Nat)
    : EdidStructureData :=
  match cbEdidModuleParseDtlTiming (fun k => data (0x36 + 18 * i + k)) with
  | none => edid
  | some timing =>
    let (edid, timing) := markNative edid { timing with timingType := .dtl }
    if cbEdidModuleValidateTiming edid timing then
      let timing := if i = 0 then { timing with isPreferMode := !edid.isAuo44b5 } else timing
      edid.addDeviceTiming (alloc i) timing
    else edid

/-- `cbEDIDModule_GetDetailedMode`, whose four descriptors are all inside of the block. -/
def cbEdidModuleGetDetailedMode (alloc : Nat → Bool) (edid : EdidStructureData)
    : EdidStructureData :=
  (List.range 4).foldl (detailedModeStep data alloc) edid

/-- `cbEDIDModule_GetCEADetailedMode` from offset `i` on, for at most `count` descriptors. -/
def ceaDetailedModes (alloc : Nat → Bool) : Nat → Nat → EdidStructureData → EdidStructureData
  | 0, _, edid => edid
  | count + 1, i, edid =>
    if i + 18 < 128 then
      match cbEdidModuleParseDtlTiming (fun k => data (i + k)) with
      | none => edid
      | some timing =>
        let (edid, timing) := markNative edid { timing with timingType := .dtd }
        let edid :=
          if cbEdidModuleValidateTiming edid timing then edid.addDeviceTiming (alloc i) timing
          else edid
        ceaDetailedModes alloc count (i + 18) edid
    else edid

/-- `cbEDIDModule_GetCEADetailedMode`, where seven descriptors reach the end of the block from any
offset.
-/
def cbEdidModuleGetCeaDetailedMode (dtlOffset : U8) (alloc : Nat → Bool) (edid : EdidStructureData)
    : EdidStructureData :=
  ceaDetailedModes data alloc 7 dtlOffset.toNat edid

def videoTimingModesDataBlock2Type7Tag : U8 := 0x22

/-- The length of a descriptor, which a type VII block can add to. -/
def didDescriptorLen : Nat :=
  let blockRevision := data 1 &&& 7
  if data 0 = videoTimingModesDataBlock2Type7Tag ∧ (blockRevision = 1 ∨ blockRevision = 2) then
    20 + ((data 1 &&& 0x70) >>> 4).toNat
  else 20

/-- The bytes of a descriptor of a DisplayID block. -/
def didDescriptor (i : Nat) : Nat → U8 := fun k => data (3 + i * didDescriptorLen data + k)

/-- The block has descriptors of type VII. -/
def didType7 : Bool := data 0 = videoTimingModesDataBlock2Type7Tag

/-- The body of the loop of `cbEDIDModule_GetDisplayIDTiming`. -/
def displayIdTimingStep (alloc : Nat → Bool) (edid : EdidStructureData) (i : Nat)
    : EdidStructureData :=
  match parseDidTiming (didDescriptor data i) (didType7 data) (data 1 &&& 7) with
  | none => edid
  | some timing =>
    if cbEdidModuleValidateTiming edid timing then edid.addDeviceTiming (alloc i) timing else edid

/-- `cbEDIDModule_GetDisplayIDTiming`. -/
def cbEdidModuleGetDisplayIdTiming (alloc : Nat → Bool) (edid : EdidStructureData)
    : EdidStructureData :=
  (List.range ((data 2).toNat / didDescriptorLen data)).foldl (displayIdTimingStep data alloc) edid

end Cx4Kernel.Cbios
