import Cx4Kernel.Cbios.EdidRead
import Cx4Kernel.Cbios.EdidTimingFields
import Cx4Kernel.Foundation.ByteBuffer

/-! The EDID that `CBiosEDID.c` fakes for a panel without one. -/

namespace Cx4Kernel.Cbios

open Cx4Kernel.Foundation

-----------------------------------------------------------------------------------------
-- cbEDIDModule_FakePanelEDID
-----------------------------------------------------------------------------------------

/-- `CBIOS_FAKE_EDID_PARAMS`, with the bytes of `DtlTimingEDID` if they are provided. -/
structure FakeEdidParams where
  dtlTiming : TimingAttrib
  dtlTimingEdid : Option (List U8)

/-- Two fields of 12 bits share a byte for their high bits. -/
def highNibbles (high low : U16) : U8 :=
  (((high &&& 0xF00) >>> 4) ||| ((low &&& 0xF00) >>> 8)).setWidth 8

/-- The horizontal values that `cbEDIDModule_FakeDetailedTiming` derives. -/
def fakeHor (dtlTiming : TimingAttrib) : Axis where
  res := dtlTiming.xRes
  blank := dtlTiming.horBEnd - dtlTiming.horBStart
  syncOffset := dtlTiming.horSyncStart - dtlTiming.horBStart
  syncWidth := dtlTiming.horSyncEnd - dtlTiming.horSyncStart

def fakeVer (dtlTiming : TimingAttrib) : Axis where
  res := dtlTiming.yRes
  blank := dtlTiming.verBEnd - dtlTiming.verBStart
  syncOffset := dtlTiming.verSyncStart - dtlTiming.verBStart
  syncWidth := dtlTiming.verSyncEnd - dtlTiming.verSyncStart

/-- The bits of the sync offsets and widths that share a byte. -/
def highSyncBits (hor ver : Axis) : U8 :=
  (((hor.syncOffset &&& 0x300) >>> 2) ||| ((hor.syncWidth &&& 0x300) >>> 4)
    ||| ((ver.syncOffset &&& 0x30) >>> 2) ||| ((ver.syncWidth &&& 0x30) >>> 4)).setWidth 8

/-- `cbEDIDModule_FakeDetailedTiming`. -/
def cbEdidModuleFakeDetailedTiming (edid : List U8) (dtlTiming : TimingAttrib) : List U8 :=
  let hor := fakeHor dtlTiming
  let ver := fakeVer dtlTiming
  let edid := storeBytes edid 0x38
    [(hor.res &&& 0xFF).setWidth 8,
      (hor.blank &&& 0xFF).setWidth 8,
      highNibbles hor.res hor.blank,
      (ver.res &&& 0xFF).setWidth 8,
      (ver.blank &&& 0xFF).setWidth 8,
      highNibbles ver.res ver.blank,
      (hor.syncOffset &&& 0xFF).setWidth 8,
      (hor.syncWidth &&& 0xFF).setWidth 8,
      ((ver.syncOffset &&& 0x0F) <<< 4 ||| (ver.syncWidth &&& 0x0F)).setWidth 8,
      highSyncBits hor ver,
      0x90, 0x2C, 0x11]
  let hPositive : U8 := if dtlTiming.hvPolarity &&& horNegative = 0 then 0x2 else 0
  let vPositive : U8 := if dtlTiming.hvPolarity &&& verNegative = 0 then 0x4 else 0
  storeBytes edid 0x47 [0x18 ||| hPositive ||| vPositive]

/-- The bytes that `cbEDIDModule_FakePanelEDID` assigns before the checksum. -/
def fakePanelBytes (fakeEdidParam : FakeEdidParams) : List U8 :=
  let edid := List.replicate 128 0
  let edid := storeBytes edid 0x00 [0x00, 0xFF, 0xFF, 0xFF, 0xFF, 0xFF, 0xFF, 0x00]
  let edid := storeBytes edid 0x08 [0x36, 0x7F, 0x00, 0x00, 0x00, 0x00, 0x00, 0x00]
  let edid := storeBytes edid 0x10 [1, 10, 0x01, 0x03, 0x80, 40, 30, 0, 0x02]
  let edid := storeBytes edid 0x19 [0x78, 0xA0, 0x56, 0x48, 0x9A, 0x26, 0x12, 0x48, 0x4C, 0xFF]
  let edid := storeBytes edid 0x36
    [fakeEdidParam.dtlTiming.pixelClock.setWidth 8,
      (fakeEdidParam.dtlTiming.pixelClock >>> 8).setWidth 8]
  let edid :=
    match fakeEdidParam.dtlTimingEdid with
    | some dtlTimingEdid => storeBytes edid 0x38 dtlTimingEdid
    | none => cbEdidModuleFakeDetailedTiming edid fakeEdidParam.dtlTiming
  let edid := storeBytes edid 0x48
    [0x00, 0x00, 0x00, 0xFC, 0x00, 0x5A, 0x58, 0x47, 0x20, 0x4C, 0x43, 0x44, 0x0A, 0x20, 0x20,
      0x20, 0x20, 0x20]
  storeBytes edid 0x7E [0]

/-- `cbEDIDModule_FakePanelEDID`, or none if it returns FALSE. -/
def cbEdidModuleFakePanelEdid (fakeEdidParam : FakeEdidParams) (edidBufferLength : Nat)
    : Option (List U8) :=
  if edidBufferLength ≠ 128 then none
  else
    let edid := fakePanelBytes fakeEdidParam
    let checkSum := checksum (edid.take 127)
    some (storeBytes edid 0x7F [0xFF - checkSum + 1])

-----------------------------------------------------------------------------------------
-- What the parser makes of the bytes
-----------------------------------------------------------------------------------------

/-- The detailed timing descriptors start at 0x36. -/
def firstDescriptor (edid : List U8) (k : Nat) : U8 := edid.getD (0x36 + k) 0

/-- One direction of a timing has room in the fields of a descriptor. -/
structure AxisFits (resolution total disEnd bStart bEnd syncStart syncEnd : U16)
    (offsetBits widthBits : Nat)
    : Prop where
  disEnd : disEnd = resolution
  bStart : bStart = resolution
  bEnd : bEnd = total
  order : resolution ≤ total ∧ resolution ≤ syncStart ∧ syncStart ≤ syncEnd
  active : resolution.toNat < 2 ^ 12
  blanking : total.toNat - resolution.toNat < 2 ^ 12
  syncOffset : syncStart.toNat - resolution.toNat < 2 ^ offsetBits
  syncWidth : syncEnd.toNat - syncStart.toNat < 2 ^ widthBits

/-- A progressive timing that a detailed timing descriptor has room for. -/
structure FitsDescriptor (timing : TimingAttrib) : Prop where
  hor : AxisFits timing.xRes timing.horTotal timing.horDisEnd timing.horBStart timing.horBEnd
    timing.horSyncStart timing.horSyncEnd 10 10
  ver : AxisFits timing.yRes timing.verTotal timing.verDisEnd timing.verBStart timing.verBEnd
    timing.verSyncStart timing.verSyncEnd 6 6
  polarity : timing.hvPolarity ∈ [0, horNegative, verNegative, horNegative ||| verNegative]
  pixelClock : ∃ tens, timing.pixelClock.toNat = 100 * tens ∧ 0 < tens ∧ tens < 65536

/-- Everything that a descriptor holds but the clock. -/
structure SameGeometry (timing original : TimingAttrib) : Prop where
  xRes : timing.xRes = original.xRes
  yRes : timing.yRes = original.yRes
  horTotal : timing.horTotal = original.horTotal
  verTotal : timing.verTotal = original.verTotal
  horDisEnd : timing.horDisEnd = original.horDisEnd
  verDisEnd : timing.verDisEnd = original.verDisEnd
  horBlank : timing.horBStart = original.horBStart ∧ timing.horBEnd = original.horBEnd
  verBlank : timing.verBStart = original.verBStart ∧ timing.verBEnd = original.verBEnd
  horSync : timing.horSyncStart = original.horSyncStart ∧ timing.horSyncEnd = original.horSyncEnd
  verSync : timing.verSyncStart = original.verSyncStart ∧ timing.verSyncEnd = original.verSyncEnd
  hvPolarity : timing.hvPolarity = original.hvPolarity

/-- A panel gets a valid EDID from which its timing is read back. -/
def RoundTrips (timing : TimingAttrib) : Prop :=
  ∃ edid info, cbEdidModuleFakePanelEdid ⟨timing, none⟩ 128 = some edid ∧ edid.length = 128
    ∧ cbEdidModuleIsEdidValid edid = true
    ∧ cbEdidModuleParseDtlTiming (firstDescriptor edid) = some info
    ∧ SameGeometry info.fullTiming timing
    ∧ info.fullTiming.pixelClock = timing.pixelClock

end Cx4Kernel.Cbios
