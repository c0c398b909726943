import Cx4Kernel.Cbios.HdmiVsdb
import Cx4Kernel.Foundation.CursorWalk

/-! The attributes of a monitor that `cbEDIDModule_GetMonitorAttrib` takes from the CTA extensions of
an EDID.
-/

namespace Cx4Kernel.Cbios

open Foundation

-----------------------------------------------------------------------------------------
-- Data blocks
-----------------------------------------------------------------------------------------

def audioDataBlockTag : U8 := 1
def videoDataBlockTag : U8 := 2
def speakerAllocationDataBlockTag : U8 := 4
def ceaExtendedBlockTag : U8 := 7
def ceaTag : U8 := 0x02

/-- The bytes from a place in a block on. -/
def edidBlock (buffer : Nat → U8) (blockIndex place : Nat) : Nat → U8 :=
  fun k => buffer (128 * blockIndex + place + k)

section Block

-- The bytes from a data block on.
variable (block : Nat → U8)

def tagCode : U8 := block 0 >>> 5

def payloadLength : Nat := (block 0 &&& 0x1F).toNat

/-- The bytes of a vendor-specific data block name HDMI. -/
def isHdmiVsdb : Bool :=
  tagCode block = vendorSpecificDataBlockTag ∧ block 1 = 0x03 ∧ block 2 = 0x0C ∧ block 3 = 0x00

end Block

-----------------------------------------------------------------------------------------
-- The attributes
-----------------------------------------------------------------------------------------

/-- `CBIOS_MONITOR_MISC_ATTRIB`, as far as it comes from the extensions or the version of an EDID
adds to that, with the names of the monitor.
-/
structure MonitorAttrib where
  monitorID : List U8 := []
  monitorName : List U8 := []
  isCea861Monitor : Bool := false
  isCea861Rgb : Bool := false
  isCea861YCbCr422 : Bool := false
  isCea861YCbCr444 : Bool := false
  isCea861Audio : Bool := false
  isCea861UnderScan : Bool := false
  isCea861Hdmi : Bool := false
  nativeFormatNum : U32 := 0
  tag : U8 := 0
  revisionNumber : U8 := 0
  offsetOfDetailedTimingBlock : U8 := 0
  /-- `SAD_Count`, which `SADCnt` is equal to from one data block to the next. -/
  sadCount : Nat := 0
  /-- The first `SAD_Count` entries of `CEA_SADs`, one behind the other. -/
  ceaSads : List U8 := []
  speakerAllocationData : U8 := 0

/-- `bIsHDMIDevice` stands for all blocks so far. -/
structure AttribState where
  attrib : MonitorAttrib
  isHdmiDevice : Bool

/-- What an EDID of version 1.4 tells of the color formats. -/
def baseAttrib (buffer : Nat → U8) (attrib : MonitorAttrib) : MonitorAttrib :=
  if buffer 0x12 = 0x01 ∧ buffer 0x13 = 0x04 ∧ (buffer 0x14).getLsbD 7 then
    let formats := buffer 0x18 &&& 0x18
    { attrib with
      isCea861Rgb := true
      isCea861YCbCr444 := formats = 0x08 ∨ formats = 0x18
      isCea861YCbCr422 := formats = 0x10 ∨ formats = 0x18 }
  else attrib

/-- The most descriptors that `CEA_SADs` has room for. -/
def maxSadCount : Nat := 15

/-- An audio data block: what fits of its descriptors is copied behind the ones so far. -/
def copySads (block : Nat → U8) (attrib : MonitorAttrib) : MonitorAttrib :=
  let sadCnt := min maxSadCount (attrib.sadCount + payloadLength block / 3)
  { attrib with
    sadCount := sadCnt
    ceaSads :=
      attrib.ceaSads
        ++ (List.range ((sadCnt - attrib.sadCount) * 3)).map fun k => block (1 + k) }

/-- What `cbEDIDModule_GetMonitorAttrib` does with a data block. -/
def attribDataBlock (block : Nat → U8) (s : AttribState) : AttribState :=
  if tagCode block = vendorSpecificDataBlockTag then
    { s with isHdmiDevice := s.isHdmiDevice || isHdmiVsdb block }
  else if tagCode block = audioDataBlockTag then { s with attrib := copySads block s.attrib }
  else if tagCode block = speakerAllocationDataBlockTag then
    { s with attrib := { s.attrib with speakerAllocationData := block 1 } }
  else s

/-- How far `cbEDIDModule_GetMonitorAttrib` goes behind the first byte of a data block: a block for
the speakers counts as one of three bytes.
-/
def attribSkip (block : Nat → U8) : Nat :=
  if tagCode block = speakerAllocationDataBlockTag then 3 else payloadLength block

section Edid

-- The bytes of an EDID with the number of its blocks.
variable (buffer : Nat → U8) (totalBlocks : Nat)

/-- The places of the data blocks that `cbEDIDModule_GetMonitorAttrib` visits. -/
def attribBlocks (blockIndex : Nat) : List Nat :=
  walk (fun i => attribSkip (edidBlock buffer blockIndex i))
    (edidBlock buffer blockIndex 0 2).toNat 4

/-- The header of an extension. -/
def attribHeader (block : Nat → U8) (attrib : MonitorAttrib) : MonitorAttrib :=
  { attrib with
    isCea861Monitor := true
    isCea861Rgb := true
    tag := block 0
    revisionNumber := block 1
    offsetOfDetailedTimingBlock := block 2
    nativeFormatNum := (block 3 &&& 0x0F).setWidth 32
    isCea861UnderScan := (block 3).getLsbD 7
    isCea861Audio := (block 3).getLsbD 6
    isCea861YCbCr444 := (block 3).getLsbD 5
    isCea861YCbCr422 := (block 3).getLsbD 4 }

/-- `cbEDIDModule_GetMonitorAttrib` reads the extension. -/
def isAttribExtension (blockIndex : Nat) : Bool :=
  edidBlock buffer blockIndex 0 0 = ceaTag ∧ edidBlock buffer blockIndex 0 1 ≠ 0

/-- The HDMI flag, once the data blocks of an extension are read. -/
def attribHdmi (s : AttribState) : AttribState :=
  let attrib := s.attrib
  { s with
    attrib :=
      { attrib with
        isCea861Hdmi :=
          attrib.isCea861Hdmi
          || (s.isHdmiDevice
            && (attrib.isCea861UnderScan || attrib.isCea861Audio || attrib.isCea861YCbCr422
              || attrib.isCea861YCbCr444)) } }

/-- One extension of `cbEDIDModule_GetMonitorAttrib`. -/
def attribExtension (s : AttribState) (blockIndex : Nat) : AttribState :=
  if isAttribExtension buffer blockIndex then
    attribHdmi
      ((attribBlocks buffer blockIndex).foldl
        (fun s i => attribDataBlock (edidBlock buffer blockIndex i) s)
        { s with attrib := attribHeader (edidBlock buffer blockIndex 0) s.attrib })
  else s

/-- `cbEDIDModule_GetMonitorAttrib` of a monitor with these names, from the version on. -/
def cbEdidModuleGetMonitorAttrib (monitorID monitorName : List U8) : MonitorAttrib :=
  ((List.range' 1 (totalBlocks - 1)).foldl (attribExtension buffer)
    { attrib := baseAttrib buffer { monitorID, monitorName }, isHdmiDevice := false }).attrib

end Edid

end Cx4Kernel.Cbios
