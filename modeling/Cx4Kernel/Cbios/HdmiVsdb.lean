import Cx4Kernel.Foundation.MachineInt

/-! The HDMI vendor-specific data block of an EDID: `cbEDIDModule_ParseHDMIVSDB` and
`cbEDIDModule_GetHDMIVICMode` of `CBiosEDID.c`.
-/

namespace Cx4Kernel.Cbios

-----------------------------------------------------------------------------------------
-- CBIOS_HDMI_VSDB_EXTENTION
-----------------------------------------------------------------------------------------

/-- `CBIOS_HDMI_3D_FORMAT`. -/
structure Hdmi3DFormat where
  hdmi3DStructure : U8
  hdmi2DVicOrder : U8
  hdmi3DDetail : U8
deriving DecidableEq

/-- The fields that the bytes behind the VICs go to. Only the entries that are stored in
`HDMI3DForamt` stand in the list.
-/
structure Hdmi3D where
  hdmi3DStructAll : BitVec 16 := 0
  hdmi3DMask : BitVec 16 := 0xFFFF
  hdmi3DForamt : List Hdmi3DFormat := []
  hdmi3DFormatCount : Nat := 0
deriving DecidableEq

/-- The fields that are there if `HDMIVideoPresent` is set. Only the entries that are stored in
`HDMIVIC` stand in the list; the others are 0.
-/
structure HdmiVideo where
  hdmi3DPresentFlags : U8 := 0
  hdmi3DLen : Nat := 0
  hdmiVicLen : Nat := 0
  hdmiVic : List U8 := []
  stereo : Hdmi3D := {}
deriving DecidableEq

/-- `VideoLatency` and `AudioLatency`, and the same for interlaced formats. -/
structure Latency where
  video : U8 := 0
  audio : U8 := 0
deriving DecidableEq

/-- `CBIOS_HDMI_VSDB_EXTENTION` with the values that it is initialized to. -/
structure HdmiVsdbExtention where
  vsdbLength : Nat
  vsdbTag : U8
  registrationIdByte0 : U8 := 0
  registrationIdByte1 : U8 := 0
  registrationIdByte2 : U8 := 0
  sourcePhyAddr : BitVec 16 := 0
  supportCaps : U8 := 0
  maxTmdsClock : BitVec 16 := 0
  presentFlags : U8 := 0
  latency : Latency := {}
  interlacedLatency : Latency := {}
  hdmiVideo : HdmiVideo := {}
deriving DecidableEq

/-- `LatencyFieldsPresent`. -/
def latencyFieldsPresent (presentFlags : U8) : Bool := presentFlags.getLsbD 7

/-- `ILatencyFieldsPresent`. -/
def iLatencyFieldsPresent (presentFlags : U8) : Bool := presentFlags.getLsbD 6

/-- `HDMIVideoPresent`. -/
def hdmiVideoPresent (presentFlags : U8) : Bool := presentFlags.getLsbD 5

/-- `HDMI3DMultiPresent`. -/
def hdmi3DMultiPresent (hdmi3DPresentFlags : U8) : U8 := (hdmi3DPresentFlags >>> 5) &&& 3

/-- `(dataHigh << 8) | dataLow`. -/
def word (dataHigh dataLow : U8) : BitVec 16 := dataHigh ++ dataLow

-----------------------------------------------------------------------------------------
-- cbEDIDModule_ParseHDMIVSDB
-----------------------------------------------------------------------------------------

section Parse

-- The bytes from `pVSDBDataInEDID` on and `VSDBLength`. Wherever `PayloadLen` is compared with
-- `VSDBLength`, `pCurByte` points to byte `PayloadLen + 1`.
variable (data : Nat → U8) (vsdbLength : Nat)

/-- `3D_Structure_X` is one that a `3D_Detail_X` follows. -/
def hasDetail (current : U8) : Bool := 8 ≤ current &&& 0xF

/-- An entry of `HDMI3DForamt`. The byte for the detail is read only for some structures. -/
def hdmi3DFormat (current next : U8) : Hdmi3DFormat where
  hdmi3DStructure := current &&& 0xF
  hdmi2DVicOrder := (current >>> 4) &&& 0xF
  hdmi3DDetail := if hasDetail current then (next >>> 4) &&& 0xF else 0

/-- The loop for `HDMI3DForamt`, with what is left of `HDMI3DFormatLength`. The byte of a detail
is counted but nothing looks whether it is still one of them.
-/
def hdmi3DFormats : Nat → Nat → List Hdmi3DFormat
  | 0, _ => []
  | 1, pCurByte => [hdmi3DFormat (data pCurByte) (data (pCurByte + 1))]
  | left + 2, pCurByte =>
      hdmi3DFormat (data pCurByte) (data (pCurByte + 1))
        :: if hasDetail (data pCurByte) then hdmi3DFormats left (pCurByte + 2)
          else hdmi3DFormats (left + 1) (pCurByte + 1)

/-- The entries from `PayloadLen` on, unless `HDMI3DFormatLength` became negative. -/
def parseHdmi3DFormats (hdmi3DLen : Nat) (hdmi3DFormatLength : U32) (stereo : Hdmi3D)
    (payloadLen : Nat)
    : Hdmi3D :=
  if hdmi3DLen < hdmi3DFormatLength.toNat then stereo
  else
    let hdmi3DForamt := hdmi3DFormats data hdmi3DFormatLength.toNat (payloadLen + 1)
    { stereo with hdmi3DForamt, hdmi3DFormatCount := hdmi3DForamt.length }

/-- `3D_Structure_ALL`, `3D_MASK` and the entries. -/
def parseHdmi3D (hdmi3DLen : Nat) (multiPresent : U8) (payloadLen : Nat) : Hdmi3D :=
  let hdmi3DFormatLength := BitVec.ofNat 32 hdmi3DLen
  if multiPresent = 1 then
    let stereo : Hdmi3D :=
      { hdmi3DStructAll := word (data (payloadLen + 1)) (data (payloadLen + 2)) }
    if vsdbLength ≤ payloadLen + 2 then stereo
    else parseHdmi3DFormats data hdmi3DLen (hdmi3DFormatLength - 2) stereo (payloadLen + 2)
  else if multiPresent = 2 then
    let stereo : Hdmi3D :=
      { hdmi3DStructAll := word (data (payloadLen + 1)) (data (payloadLen + 2)),
        hdmi3DMask := word (data (payloadLen + 3)) (data (payloadLen + 4)) }
    if vsdbLength ≤ payloadLen + 4 then stereo
    else parseHdmi3DFormats data hdmi3DLen (hdmi3DFormatLength - 4) stereo (payloadLen + 4)
  else parseHdmi3DFormats data hdmi3DLen hdmi3DFormatLength {} payloadLen

/-- `CBIOS_HDMI_EXTENED_VIC_COUNTS`. -/
def cbiosHdmiExtenedVicCounts : U8 := 4

/-- The byte is stored in `HDMIVIC`. -/
def isHdmiVic (byte : U8) : Bool := 1 ≤ byte ∧ byte ≤ cbiosHdmiExtenedVicCounts

/-- The loop for `HDMIVIC`, with the bytes that are left. -/
def hdmiVics : Nat → Nat → List U8
  | 0, _ => []
  | left + 1, pCurByte =>
      if isHdmiVic (data pCurByte) then data pCurByte :: hdmiVics left (pCurByte + 1)
      else hdmiVics left (pCurByte + 1)

/-- The fields that `HDMIVideoPresent` announces. -/
def parseHdmiVideo (payloadLen : Nat) : HdmiVideo :=
  let hdmi3DPresentFlags := data (payloadLen + 1)
  if vsdbLength ≤ payloadLen + 1 then { hdmi3DPresentFlags }
  else
    let hdmi3DLen := (data (payloadLen + 2) &&& 0x1F).toNat
    let hdmiVicLen := ((data (payloadLen + 2) >>> 5) &&& 7).toNat
    if vsdbLength ≤ payloadLen + 2 then { hdmi3DPresentFlags, hdmi3DLen, hdmiVicLen }
    else
      let hdmiVic := hdmiVics data hdmiVicLen (payloadLen + 3)
      let video : HdmiVideo :=
        { hdmi3DPresentFlags, hdmi3DLen, hdmiVic, hdmiVicLen := hdmiVic.length }
      if vsdbLength ≤ payloadLen + 2 + hdmiVicLen then video
      else
        { video with
          stereo := parseHdmi3D data vsdbLength hdmi3DLen (hdmi3DMultiPresent hdmi3DPresentFlags)
            (payloadLen + 2 + hdmiVicLen) }

/-- The two bytes of latencies behind `PayloadLen`. -/
def latencyAt (payloadLen : Nat) : Latency :=
  { video := data (payloadLen + 1), audio := data (payloadLen + 2) }

/-- The video fields, if there are any. -/
def parseHdmiVideoPresent (presentFlags : U8) (payloadLen : Nat) : HdmiVideo :=
  if hdmiVideoPresent presentFlags then parseHdmiVideo data vsdbLength payloadLen else {}

/-- The interlaced latencies and what is behind them. -/
def parseILatency (presentFlags : U8) (payloadLen : Nat) : Latency × HdmiVideo :=
  if iLatencyFieldsPresent presentFlags then
    if vsdbLength ≤ payloadLen + 2 then (latencyAt data payloadLen, {})
    else
      (latencyAt data payloadLen,
        parseHdmiVideoPresent data vsdbLength presentFlags (payloadLen + 2))
  else ({}, parseHdmiVideoPresent data vsdbLength presentFlags payloadLen)

/-- The latencies and what is behind them. -/
def parseLatency (presentFlags : U8) (payloadLen : Nat) : Latency × Latency × HdmiVideo :=
  if latencyFieldsPresent presentFlags then
    if vsdbLength ≤ payloadLen + 2 then (latencyAt data payloadLen, {}, {})
    else
      (latencyAt data payloadLen, parseILatency data vsdbLength presentFlags (payloadLen + 2))
  else ({}, parseILatency data vsdbLength presentFlags payloadLen)

/-- `VENDOR_SPECIFIC_DATA_BLOCK_TAG`. -/
def vendorSpecificDataBlockTag : U8 := 3

/-- `cbEDIDModule_ParseHDMIVSDB` with the length that it returns. -/
def cbEdidModuleParseHdmiVsdb : HdmiVsdbExtention × Nat :=
  let vsdbTag := data 0 >>> 5
  let vsdbLength := (data 0 &&& 0x1F).toNat
  if vsdbTag ≠ vendorSpecificDataBlockTag ∨ vsdbLength < 5 then ({ vsdbLength := 0, vsdbTag }, 1)
  else
    let vsdb : HdmiVsdbExtention :=
      { vsdbLength, vsdbTag,
        registrationIdByte0 := data 1,
        registrationIdByte1 := data 2,
        registrationIdByte2 := data 3,
        sourcePhyAddr := word (data 4) (data 5) }
    if vsdbLength ≤ 5 then (vsdb, vsdbLength + 1)
    else
      let vsdb := { vsdb with supportCaps := data 6 }
      if vsdbLength ≤ 6 then (vsdb, vsdbLength + 1)
      else
        let vsdb := { vsdb with maxTmdsClock := (data 7).setWidth 16 * 5 }
        if vsdbLength ≤ 7 then (vsdb, vsdbLength + 1)
        else
          let vsdb := { vsdb with presentFlags := data 8 }
          if vsdbLength ≤ 8 then (vsdb, vsdbLength + 1)
          else
            let (latency, interlacedLatency, hdmiVideo) := parseLatency data vsdbLength (data 8) 8
            ({ vsdb with latency, interlacedLatency, hdmiVideo }, vsdbLength + 1)

end Parse

-----------------------------------------------------------------------------------------
-- cbEDIDModule_GetHDMIVICMode
-----------------------------------------------------------------------------------------

/-- `CBIOS_HDMI_NORMAL_VIC_COUNTS`. -/
def cbiosHdmiNormalVicCounts : Nat := 107

/-- The VICs that `cbEDIDModule_GetHDMIVICMode` calls `cbEDIDModule_AddSvdFormat` with. -/
def cbEdidModuleGetHdmiVicMode (vsdb : HdmiVsdbExtention) : List Nat :=
  (List.range vsdb.hdmiVideo.hdmiVicLen).map fun i =>
    (vsdb.hdmiVideo.hdmiVic.getD i 0).toNat + cbiosHdmiNormalVicCounts

end Cx4Kernel.Cbios
