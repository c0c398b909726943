import Mathlib.Logic.Function.Basic
import Cx4Kernel.Cbios.CustomizedTiming
import Cx4Kernel.Cbios.MonitorAttrib
import Cx4Kernel.Cbios.SvdTimings

/-! The data blocks of a CTA extension as `cbEDIDModule_GetCEA861Mode` goes through them, and the
passes of `cbEDIDModule_ParseEDID` over the timings of an EDID.
-/

namespace Cx4Kernel.Cbios

open Foundation

-----------------------------------------------------------------------------------------
-- Audio
-----------------------------------------------------------------------------------------

/-- `CBIOS_HDMI_AUDIO_INFO`, with the union as the one word that it is. -/
structure HdmiAudioInfo where
  format : U32 := 0
  maxChannelNum : U32 := 0
  sampleRateUnit : U32 := 0
  unit : U32 := 0
deriving DecidableEq

def cbiosHdmiAudioFormatCounts : Nat := 16

/-- `CBIOS_AUDIO_FORMAT_LPCM`. -/
def audioFormatLpcm : U32 := 1

/-- `AudioFormatCode` of the first byte of a descriptor. -/
def audioFormatCode (byte1 : U8) : U8 := (byte1 >>> 3) &&& 0xF

/-- The format of a descriptor whose code is 15, by its extension code, or 0. -/
def extensionFormat (byte3 : U8) : U32 :=
  let extension := (byte3 >>> 3) &&& 0x1F
  if extension = 1 then 15 else if extension = 2 then 16 else if extension = 3 then 17 else 0

/-- `HDAudioFormat` of a descriptor. -/
def audioInfo (byte1 byte2 byte3 : U8) : HdmiAudioInfo :=
  let code := audioFormatCode byte1
  { format := if code < 15 then code.setWidth 32 else extensionFormat byte3
    maxChannelNum := (byte1 &&& 7).setWidth 32 + 1
    sampleRateUnit := (byte2 &&& 0x7F).setWidth 32
    unit :=
      if code = 1 then (byte3 &&& 7).setWidth 32
      else if code ≤ 8 then byte3.setWidth 32 * 8
      else if code ≤ 13 then byte3.setWidth 32
      else if code = 14 then (byte3 &&& 7).setWidth 32
      else 0 }

-----------------------------------------------------------------------------------------
-- The state of the parser
-----------------------------------------------------------------------------------------

/-- `CBIOS_EDID_STRUCTURE_DATA`, as far as the passes over the timings and the data blocks write it.
`IsSupportOtherFormats` of the entries of the list stands apart from them.
-/
structure CeaState where
  edid : EdidStructureData
  otherFormats : Nat → Bool
  /-- The first `SVDCount` descriptors of `SVDData`, by `BlockIndex`. -/
  svdData : Nat → List U8
  vsdb : HdmiVsdbExtention
  /-- The first `HDAudioFormatNum` entries of `HDAudioFormat`. -/
  hdAudioFormat : List HdmiAudioInfo

/-- The state once the attributes of the monitor are read. -/
def CeaState.start (edid : EdidStructureData) : CeaState where
  edid := edid
  otherFormats := fun _ => false
  svdData := fun _ => []
  vsdb := { vsdbLength := 0, vsdbTag := 0, hdmiVideo := { stereo := { hdmi3DMask := 0 } } }
  hdAudioFormat := []

/-- If the allocations succeed that a place in an EDID leads to. Places in an extension are by the
block and the offset.
-/
structure Allocs where
  detailed : Nat → Bool
  ceaDetailed : Nat → Nat → Bool
  svd : Nat → Nat → Bool
  hdmiVic : Nat → Bool
  displayId : Nat → Nat → Nat → Bool
  established : Nat → Bool
  standard : Nat → Bool

/-- All allocations succeed. -/
def Allocs.plenty : Allocs :=
  ⟨fun _ => true, fun _ _ => true, fun _ _ => true, fun _ => true, fun _ _ _ => true,
    fun _ => true, fun _ => true⟩

-----------------------------------------------------------------------------------------
-- Data blocks
-----------------------------------------------------------------------------------------

def yCbCr420VideoDataBlock : U8 := 0xE
def yCbCr420CapMapDataBlock : U8 := 0xF

section Block

-- The bytes from a data block on, and the outcome of the allocations by these bytes.
variable (block : Nat → U8) (alloc : Nat → Bool)

/-- One descriptor of `cbEDIDModule_GetHDMIAudioFormat`, which stops at a full table. -/
def audioFormatStep (formats : List HdmiAudioInfo) (j : Nat) : List HdmiAudioInfo :=
  if formats.length < cbiosHdmiAudioFormatCounts ∧ audioFormatCode (block (1 + j * 3)) ≠ 0 then
    formats ++ [audioInfo (block (1 + j * 3)) (block (2 + j * 3)) (block (3 + j * 3))]
  else formats

/-- `cbEDIDModule_GetHDMIAudioFormat`. -/
def cbEdidModuleGetHdmiAudioFormat (s : CeaState) : CeaState :=
  { s with
    hdAudioFormat :=
      (List.range (payloadLength block / 3)).foldl (audioFormatStep block) s.hdAudioFormat }

/-- One descriptor of a regular video data block. -/
def svdStep (s : CeaState) (j : Nat) : CeaState :=
  match cbEdidModuleGetFmtIdxFromSvd (block (1 + j)) with
  | none => s
  | some (format, isNative) =>
    { s with edid := (s.edid.addSvdFormat (alloc (1 + j)) format isNative).1 }

/-- `cbEDIDModule_GetSVDMode`. A payload is never longer than `SVD`. -/
def cbEdidModuleGetSvdMode (blockIndex : Nat) (s : CeaState) : CeaState :=
  (List.range (payloadLength block)).foldl (svdStep block alloc)
    { s with
      svdData := Function.update s.svdData blockIndex
        ((List.range (payloadLength block)).map fun j => block (1 + j)) }

/-- Both flags for the color formats of an entry. -/
def CeaState.setYCbCr420 (index : Nat) (others : Bool) (s : CeaState) : CeaState :=
  { s with
    edid := s.edid.setYCbCr420 index
    otherFormats := Function.update s.otherFormats index others }

/-- One descriptor of a YCbCr 4:2:0 video data block. -/
def yCbCr420VideoStep (s : CeaState) (i : Nat) : CeaState :=
  match cbEdidModuleGetFmtIdxFromSvd (block (2 + i)) with
  | none => s
  | some (format, isNative) =>
    let (edid, entryIndex) := s.edid.addSvdFormat (alloc (2 + i)) format isNative
    match entryIndex with
    | none => { s with edid }
    | some index => CeaState.setYCbCr420 index false { s with edid }

/-- The descriptors of `SVDData` that a capability map selects, in order. -/
def capMapSvds (svds : List U8) : List U8 :=
  if payloadLength block = 1 then svds
  else
    (List.range (payloadLength block - 1)).flatMap fun i =>
      (List.range 8).filterMap fun j =>
        if (block (2 + i)).getLsbD j then svds[j + 8 * i]? else none

/-- A selected descriptor, if its format has an entry. -/
def capMapStep (s : CeaState) (svd : U8) : CeaState :=
  match cbEdidModuleGetFmtIdxFromSvd svd with
  | none => s
  | some (format, _) =>
    match s.edid.isSvdFormatExist format with
    | none => s
    | some index => s.setYCbCr420 index true

/-- `cbEDIDModule_ParseCEAExtBlock`, for the blocks that tell something of the timings. -/
def cbEdidModuleParseCeaExtBlock (blockIndex : Nat) (s : CeaState) : CeaState :=
  if tagCode block ≠ ceaExtendedBlockTag ∨ payloadLength block = 0 then s
  else if block 1 = yCbCr420VideoDataBlock then
    (List.range (payloadLength block - 1)).foldl (yCbCr420VideoStep block alloc) s
  else if block 1 = yCbCr420CapMapDataBlock then
    (capMapSvds block (s.svdData blockIndex)).foldl capMapStep s
  else s

/-- What `cbEDIDModule_GetCEA861Mode` does with a data block. -/
def ceaDataBlock (blockIndex : Nat) (s : CeaState) : CeaState :=
  if tagCode block = audioDataBlockTag then cbEdidModuleGetHdmiAudioFormat block s
  else if tagCode block = videoDataBlockTag then cbEdidModuleGetSvdMode block alloc blockIndex s
  else if isHdmiVsdb block then { s with vsdb := (cbEdidModuleParseHdmiVsdb block).1 }
  else if tagCode block = ceaExtendedBlockTag then
    cbEdidModuleParseCeaExtBlock block alloc blockIndex s
  else s

end Block

-----------------------------------------------------------------------------------------
-- cbEDIDModule_GetCEA861Mode
-----------------------------------------------------------------------------------------

def displayIdTag : U8 := 0x70

section Edid

-- The bytes of an EDID with its size, and the outcome of the allocations.
variable (allocs : Allocs) (buffer : Nat → U8) (totalBlocks : Nat)

/-- The places of the data blocks that `cbEDIDModule_GetCEA861Mode` visits. The 8 bits of its
counter are enough for a place in a block and a payload.
-/
def dataBlocks (blockIndex : Nat) : List Nat :=
  walk (fun i => payloadLength (edidBlock buffer blockIndex i))
    (edidBlock buffer blockIndex 0 2).toNat 4

/-- The extension is one that `cbEDIDModule_GetCEA861Mode` reads. -/
def isCeaExtension (blockIndex : Nat) : Bool :=
  let block := edidBlock buffer blockIndex 0
  block 0 = ceaTag ∧ block 2 ≠ 0 ∧ (block 2).toNat < 128

/-- The data block at a place of an extension. -/
def ceaDataBlockAt (blockIndex : Nat) (s : CeaState) (i : Nat) : CeaState :=
  ceaDataBlock (edidBlock buffer blockIndex i) (fun k => allocs.svd blockIndex (i + k)) blockIndex s

/-- One extension of `cbEDIDModule_GetCEA861Mode`. -/
def ceaExtension (s : CeaState) (blockIndex : Nat) : CeaState :=
  if isCeaExtension buffer blockIndex then
    (dataBlocks buffer blockIndex).foldl (ceaDataBlockAt allocs buffer blockIndex)
      { s with
        edid := cbEdidModuleGetCeaDetailedMode (edidBlock buffer blockIndex 0)
          (edidBlock buffer blockIndex 0 2) (allocs.ceaDetailed blockIndex) s.edid }
  else s

/-- `cbEDIDPatchHDMIAudio`. The entries of the table that are not in use are 0. -/
def cbEdidPatchHdmiAudio (isCea861Audio : Bool) (formats : List HdmiAudioInfo)
    : List HdmiAudioInfo :=
  if isCea861Audio ∧ ∀ info ∈ formats, info.format ≠ audioFormatLpcm then
    if cbiosHdmiAudioFormatCounts ≤ formats.length then
      formats.modify (cbiosHdmiAudioFormatCounts - 1) fun info =>
        { format := audioFormatLpcm
          maxChannelNum := 2
          sampleRateUnit := 7
          unit := info.unit ||| 1 }
    else
      formats
        ++ [{ format := audioFormatLpcm, maxChannelNum := 2, sampleRateUnit := 7, unit := 1 }]
  else formats

/-- One VIC of `cbEDIDModule_GetHDMIVICMode`. -/
def hdmiVicStep (edid : EdidStructureData) (vic : Nat × Nat) : EdidStructureData :=
  match FormatVic.ofVic vic.1 with
  | none => edid
  | some format => (edid.addSvdFormat (allocs.hdmiVic vic.2) format false).1

/-- `cbEDIDModule_GetCEA861Mode`. -/
def cbEdidModuleGetCea861Mode (isCea861Audio : Bool) (s : CeaState) : CeaState :=
  let s := (List.range' 1 (totalBlocks - 1)).foldl (ceaExtension allocs buffer) s
  { s with
    hdAudioFormat := cbEdidPatchHdmiAudio isCea861Audio s.hdAudioFormat
    edid := (cbEdidModuleGetHdmiVicMode s.vsdb).zipIdx.foldl (hdmiVicStep allocs) s.edid }

-----------------------------------------------------------------------------------------
-- cbEDIDModule_GetDisplayIDMode
-----------------------------------------------------------------------------------------

def videoTimingModesDataBlockType1Tag : U8 := 0x03

/-- The places of the data blocks that `cbEDIDModule_GetDisplayIDMode` visits. -/
def displayIdBlocks (blockIndex : Nat) : List Nat :=
  walk (fun i => (edidBlock buffer blockIndex i 2).toNat + 2) 126 5

/-- The data block at a place of an extension. -/
def displayIdBlockAt (blockIndex : Nat) (edid : EdidStructureData) (i : Nat)
    : EdidStructureData :=
  let block := edidBlock buffer blockIndex i
  if block 0 = videoTimingModesDataBlockType1Tag ∨ block 0 = videoTimingModesDataBlock2Type7Tag then
    cbEdidModuleGetDisplayIdTiming block (allocs.displayId blockIndex i) edid
  else edid

/-- One extension of `cbEDIDModule_GetDisplayIDMode`. -/
def displayIdExtension (edid : EdidStructureData) (blockIndex : Nat) : EdidStructureData :=
  let block := edidBlock buffer blockIndex 0
  if block 0 = displayIdTag ∧ block 2 ≠ 0 then
    (displayIdBlocks buffer blockIndex).foldl (displayIdBlockAt allocs buffer blockIndex) edid
  else edid

/-- `cbEDIDModule_GetDisplayIDMode`. -/
def cbEdidModuleGetDisplayIdMode (edid : EdidStructureData) : EdidStructureData :=
  (List.range' 1 (totalBlocks - 1)).foldl (displayIdExtension allocs buffer) edid

-----------------------------------------------------------------------------------------
-- Timings with a resolution and a refresh rate
-----------------------------------------------------------------------------------------

/-- The entry of a table with a resolution and about a refresh rate. -/
def tableMode (table : List TimingAttrib) (xRes yRes refreshRate : U16) : Option TimingAttrib :=
  table.find? fun timing =>
    timing.xRes = xRes ∧ timing.yRes = yRes
    ∧ (refreshRate = 0 ∨ timing.refreshRate / 100 = refreshRate / 100)

/-- A format fits a request as it is or, if the second component is set, with its frequencies times
1000 / 1001.
-/
def formatMode (xRes yRes refreshRate : U16) (format : FormatVic) : Option Bool :=
  if format.matrix.supported ∧ format.timing.xRes = xRes ∧ format.timing.yRes = yRes
      ∧ format.matrix.interlace = false then
    if refreshRate / 100 = format.timing.refreshRate / 100 then some false
    else if refreshRate / 100 = format.fractRefrate / 100 then some true
    else none
  else none

/-- The first progressive format that fits a request. -/
def progressiveFormat (xRes yRes refreshRate : U16) : Option TimingAttrib :=
  (List.finRange 111).findSome? fun index =>
    let format : FormatVic := ⟨index⟩
    (formatMode xRes yRes refreshRate format).map fun fract =>
      if fract then
        { format.timing with refreshRate := format.fractRefrate, pixelClock := format.fractClock }
      else format.timing

/-- `cbEDIDModule_GetXYRTiming`, or none if it returns FALSE. -/
def cbEdidModuleGetXyrTiming (isCea861Hdmi : Bool) (xRes yRes refreshRate : U16)
    : Option TimingAttrib :=
  let calculated : Option TimingAttrib :=
    Id.run (cbCalcCustomizedTiming .wrapping (xRes.setWidth 32) (yRes.setWidth 32)
      (refreshRate.setWidth 32))
  if xRes = 640 ∧ yRes = 480 ∧ refreshRate = 6000 ∧ isCea861Hdmi then
    (tableMode hdmiFormatTimingTbl xRes yRes refreshRate).or calculated
  else
    ((tableMode adapterTimingTbl xRes yRes refreshRate).or
      (progressiveFormat xRes yRes refreshRate)).or calculated

/-- The list has a progressive timing like a request. -/
def EdidStructureData.hasMode (edid : EdidStructureData) (xRes yRes refreshRate : U16) : Bool :=
  edid.timings.any fun timing =>
    timing.fullTiming.xRes = xRes ∧ timing.fullTiming.yRes = yRes
    ∧ timing.fullTiming.refreshRate = refreshRate ∧ ¬ timing.isInterLaced

/-- An established or a standard mode, which is added if the list has no timing like it. -/
def addMode (isCea861Hdmi alloc : Bool) (timingType : TimingType) (xRes yRes refreshRate : U16)
    (edid : EdidStructureData)
    : EdidStructureData :=
  if edid.hasMode xRes yRes refreshRate then edid
  else
    match cbEdidModuleGetXyrTiming isCea861Hdmi xRes yRes refreshRate with
    | none => edid
    | some timing =>
      edid.addDeviceTiming alloc
        { timingType := timingType
          fullTiming := { timing with formatVIC := 0 }
          aspectRatio := 0
          isSupportMono := false
          isSupportStereo := false
          isNativeMode := false
          isPreferMode := false
          isInterLaced := false
          isSupportYCbCr420 := false }

/-- `EstMasks`, from the three bytes of the established timings. -/
def estMasks : U32 :=
  (buffer 0x23).setWidth 32 + (buffer 0x24).setWidth 32 <<< 8
    + ((buffer 0x25).setWidth 32 &&& 0x80) <<< 9

/-- One mode of `cbEDIDModule_GetEstablishMode`. -/
def establishStep (isCea861Hdmi : Bool) (edid : EdidStructureData) (mode : Nat × U16 × U16 × U16)
    : EdidStructureData :=
  if (estMasks buffer).getLsbD mode.1 then
    addMode isCea861Hdmi (allocs.established mode.1) .est mode.2.1 mode.2.2.1 mode.2.2.2 edid
  else edid

/-- `cbEDIDModule_GetEstablishMode`. -/
def cbEdidModuleGetEstablishMode (isCea861Hdmi : Bool) (edid : EdidStructureData)
    : EdidStructureData :=
  estTiming.foldl (establishStep allocs buffer isCea861Hdmi) edid

/-- The lines of a standard timing, by its aspect ratio. -/
def standardYRes (xRes : U32) (ratio : U8) : U32 :=
  if ratio = 0 then xRes * 10 / 16
  else if ratio = 1 then xRes * 3 / 4
  else if ratio = 2 then xRes * 4 / 5
  else xRes * 9 / 16

/-- One timing of `cbEDIDModule_GetStandardMode`. -/
def standardStep (isCea861Hdmi : Bool) (edid : EdidStructureData) (i : Nat) : EdidStructureData :=
  let byte1 := buffer (0x26 + i * 2)
  let byte2 := buffer (0x26 + i * 2 + 1)
  if byte1 = 0x01 ∨ byte1 = 0x00 then edid
  else
    let xRes : U32 := (byte1.setWidth 32 + 31) * 8
    let yRes := standardYRes xRes ((byte2 &&& 0xC0) >>> 6)
    let refresh : U32 := ((byte2 &&& 0x3F).setWidth 32 + 60) * 100
    addMode isCea861Hdmi (allocs.standard i) .std (xRes.setWidth 16) (yRes.setWidth 16)
      (refresh.setWidth 16) edid

/-- `cbEDIDModule_GetStandardMode`. -/
def cbEdidModuleGetStandardMode (isCea861Hdmi : Bool) (edid : EdidStructureData)
    : EdidStructureData :=
  (List.range 8).foldl (standardStep allocs buffer isCea861Hdmi) edid

-----------------------------------------------------------------------------------------
-- cbEDIDModule_ParseEDID
-----------------------------------------------------------------------------------------

/-- The structure with the attributes of the monitor and no list yet. -/
def MonitorAttrib.structureData (attrib : MonitorAttrib) : EdidStructureData where
  monitorID := attrib.monitorID
  monitorName := attrib.monitorName
  nativeFormatNum := attrib.nativeFormatNum
  nativeNumUsed := 0
  listAllocated := false
  timingArraySize := 0
  timings := []

/-- `cbEDIDModule_ParseEDID` once the attributes of the monitor are read. -/
def parseTimings (attrib : MonitorAttrib) : CeaState :=
  let s := CeaState.start (cbEdidModuleGetDetailedMode buffer allocs.detailed attrib.structureData)
  let s :=
    if 1 < totalBlocks then
      let s := cbEdidModuleGetCea861Mode allocs buffer totalBlocks attrib.isCea861Audio s
      { s with edid := cbEdidModuleGetDisplayIdMode allocs buffer totalBlocks s.edid }
    else s
  let established := cbEdidModuleGetEstablishMode allocs buffer attrib.isCea861Hdmi s.edid
  { s with edid := cbEdidModuleGetStandardMode allocs buffer attrib.isCea861Hdmi established }

/-- `cbEDIDModule_ParseEDID` of a valid EDID, for a monitor with these names that
`cbEDIDModule_Patch` leaves alone.
-/
def cbEdidModuleParseEdid (monitorID monitorName : List U8) : MonitorAttrib × CeaState :=
  let attrib := cbEdidModuleGetMonitorAttrib buffer totalBlocks monitorID monitorName
  (attrib, parseTimings allocs buffer totalBlocks attrib)

end Edid

end Cx4Kernel.Cbios
