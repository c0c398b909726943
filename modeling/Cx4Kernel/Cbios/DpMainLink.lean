import Cx4Kernel.Cbios.Registers
import Cx4Kernel.Cbios.Timing

/-! The main link set up of `CBiosDIU_DP.c`. -/

namespace Cx4Kernel.Cbios

open Cx4Kernel.Foundation

-----------------------------------------------------------------------------------------
-- Registers
-----------------------------------------------------------------------------------------

/-- The 32-bit registers of a DP module that the set up and the link training use. -/
inductive DpReg where
  | misc1
  | link
  | genCtrl
  | extPacket
  | enable
  | hwidthTu
  | hlineDur
  | misc0
  | hvTotal
  | hvStart
  | hvSync
  | hvActive
  | ephyStatus
  | linkCtrl
  | ctrl
deriving DecidableEq

/-- The tables `DP_REG_MISC1` and so on, with one address for each DP module. -/
def DpReg.addresses : DpReg → List Nat
  | .misc1 => [0x8210, 0x33CA8, 0x343A8, 0x34AA8]
  | .link => [0x8214, 0x33CAC, 0x343AC, 0x34AAC]
  | .genCtrl => [0x8218, 0x33CB0, 0x343B0, 0x34AB0]
  | .extPacket => [0x821C, 0x33CB4, 0x343B4, 0x34AB4]
  | .enable => [0x8240, 0x33CB8, 0x343B8, 0x34AB8]
  | .hwidthTu => [0x8244, 0x33CBC, 0x343BC, 0x34ABC]
  | .hlineDur => [0x8248, 0x33CC0, 0x343C0, 0x34AC0]
  | .misc0 => [0x824C, 0x33CC4, 0x343C4, 0x34AC4]
  | .hvTotal => [0x8250, 0x33CC8, 0x343C8, 0x34AC8]
  | .hvStart => [0x8254, 0x33CCC, 0x343CC, 0x34ACC]
  | .hvSync => [0x8258, 0x33CD0, 0x343D0, 0x34AD0]
  | .hvActive => [0x825C, 0x33CD4, 0x343D4, 0x34AD4]
  | .ephyStatus => [0x836C, 0x33D2C, 0x3442C, 0x34B2C]
  | .linkCtrl => [0x334C8, 0x33D3C, 0x3443C, 0x34B3C]
  | .ctrl => [0x334DC, 0x33D50, 0x34450, 0x34B50]

/-- The address of a register of the DP module. -/
def DpReg.address (reg : DpReg) (index : Nat) : Nat := reg.addresses.getD index 0

def DpReg.all : List DpReg :=
  [.misc1, .link, .genCtrl, .extPacket, .enable, .hwidthTu, .hlineDur, .misc0, .hvTotal, .hvStart,
    .hvSync, .hvActive, .ephyStatus, .linkCtrl, .ctrl]

/-- The registers of a module are at different addresses. -/
theorem DpReg.address_inj {index : Nat} (module : index < 4) (left right : DpReg)
    : left.address index = right.address index ↔ left = right := by
  have apart : ∀ i < 4, (DpReg.all.map (DpReg.address · i)).Nodup := by decide
  have listed : ∀ reg : DpReg, reg ∈ DpReg.all := by
    intro reg
    cases reg <;> decide
  refine ⟨fun same => ?_, fun same => congrArg (DpReg.address · index) same⟩
  exact List.inj_on_of_nodup_map (apart index module) (listed left) (listed right) same

/-! The bit fields of `DIU_MM_registers.h`. -/

namespace RegMm8210

def nvid : BitField := ⟨0, 24⟩
def misc1Even : BitField := ⟨24, 1⟩
def misc1StereoVideo : BitField := ⟨25, 2⟩
def misc1Reserved : BitField := ⟨27, 5⟩

end RegMm8210

namespace RegMm8218

def delay : BitField := ⟨24, 6⟩

end RegMm8218

namespace RegMm821C

def horizontalWidthBit12to11 : BitField := ⟨30, 2⟩

end RegMm821C

namespace RegMm8240

def fieldInvert : BitField := ⟨1, 1⟩
def generateMvid : BitField := ⟨25, 1⟩

end RegMm8240

namespace RegMm8244

def horizWidth : BitField := ⟨0, 11⟩
def tuSize : BitField := ⟨11, 6⟩
def tuRatio : BitField := ⟨17, 15⟩

end RegMm8244

namespace RegMm8248

def horizLineDuration : BitField := ⟨0, 15⟩
def hblankDuration : BitField := ⟨15, 12⟩

end RegMm8248

namespace RegMm824C

def mvid : BitField := ⟨0, 24⟩
def misc0SyncClk : BitField := ⟨24, 1⟩
def misc0ComponentFormat : BitField := ⟨25, 2⟩
def misc0DynamicRange : BitField := ⟨27, 1⟩
def misc0YCbCrColorimetry : BitField := ⟨28, 1⟩
def misc0BitDepth : BitField := ⟨29, 3⟩

end RegMm824C

namespace RegMm8258

def hsyncWidth : BitField := ⟨0, 15⟩
def hsyncPolarity : BitField := ⟨15, 1⟩
def vsyncWidth : BitField := ⟨16, 15⟩
def vsyncPolarity : BitField := ⟨31, 1⟩

end RegMm8258

/-- The two halves of `REG_MM8250`, `REG_MM8254` and `REG_MM825C`. -/
def horHalf : BitField := ⟨0, 16⟩

def verHalf : BitField := ⟨16, 16⟩

def RegMm334DC.linkBitRateStatus : BitField := ⟨26, 2⟩

-----------------------------------------------------------------------------------------
-- Parameters and environment
-----------------------------------------------------------------------------------------

/-- `CBIOS_MAIN_LINK_PARAMS`. -/
structure MainLinkParams where
  linkedLaneNumber : U32
  linkedSpeed : U32
  bpc : U32
  tuSize : U32
  asyncMode : Bool
  colorFormat : U32
  dynamicRange : U32
  yCbCrCoefficients : U32
  timing : TimingAttrib
deriving DecidableEq

/-- The rest of the adapter: the chip, `bUseLinkRateSet` of the device of each DP module, and
the AUX read of DPCD 100h, which may change registers and fail.
-/
structure DpEnv where
  chipId : ChipId
  useLinkRateSet : Nat → Option Bool
  auxDpcdRead100 : Nat → Mmio → Option U8 × Mmio

def cbiosDpLinkSpeed1620Mbps : U32 := 1620000
def cbiosDpLinkSpeed2700Mbps : U32 := 2700000
def cbiosDpLinkSpeed5400Mbps : U32 := 5400000
def cbiosDpLinkSpeed8100Mbps : U32 := 8100000

/-- The speed for `LINK_bit_rate_status_1_0`. -/
def ctrlLinkSpeed (ctrl : U32) : U32 :=
  match RegMm334DC.linkBitRateStatus.get ctrl with
  | 3 => cbiosDpLinkSpeed8100Mbps
  | 2 => cbiosDpLinkSpeed5400Mbps
  | 1 => cbiosDpLinkSpeed2700Mbps
  | _ => cbiosDpLinkSpeed1620Mbps

/-- The speed for `LINK_BW_SET` of DPCD 100h. -/
def dpcdLinkSpeed (data : U8) : U32 :=
  if data = 0x1E then cbiosDpLinkSpeed8100Mbps
  else if data = 0x14 then cbiosDpLinkSpeed5400Mbps
  else if data = 0xA then cbiosDpLinkSpeed2700Mbps
  else cbiosDpLinkSpeed1620Mbps

/-- The speed of the link is taken from the hardware, unless the sink has a set of rates. -/
def syncLinkedSpeed (env : DpEnv) (index : Nat) (useLinkRateSet : Bool) (params : MainLinkParams)
    (regs : Mmio)
    : MainLinkParams × Mmio :=
  if useLinkRateSet then (params, regs)
  else
    match env.chipId with
    | .other =>
      if regs.u32 (DpReg.ephyStatus.address index) &&& 0x00010000 ≠ 0 then
        ({ params with linkedSpeed := cbiosDpLinkSpeed2700Mbps }, regs)
      else ({ params with linkedSpeed := cbiosDpLinkSpeed1620Mbps }, regs)
    | .e3k | .chx004 | .cne001 =>
      let speed := ctrlLinkSpeed (regs.u32 (DpReg.ctrl.address index))
      match env.auxDpcdRead100 index regs with
      | (some data, regs) => ({ params with linkedSpeed := dpcdLinkSpeed data }, regs)
      | (none, regs) => ({ params with linkedSpeed := speed }, regs)

-----------------------------------------------------------------------------------------
-- Register values
-----------------------------------------------------------------------------------------

namespace MainLinkParams

/-- `ulTemp1` of the transfer unit, a product of 32 bits. -/
def payload (params : MainLinkParams) : U32 :=
  if params.colorFormat = 1 then params.timing.pixelClock * 2 * params.bpc
  else params.timing.pixelClock * 3 * params.bpc

/-- `ulTemp2` of the transfer unit, a product of 32 bits. -/
def bandwidth (params : MainLinkParams) : U32 := params.linkedLaneNumber * params.linkedSpeed * 8

/-- `ulTURatio`. -/
def tuRatio (params : MainLinkParams) : U64 :=
  params.payload.setWidth 64 <<< 15 / params.bandwidth.setWidth 64

def hwidthTu (params : MainLinkParams) : U32 :=
  let width := cbRound (params.timing.horDisEnd.setWidth 32) params.linkedLaneNumber .up - 1
  let value := RegMm8244.horizWidth.put (0 : U32) width.toNat
  let value := RegMm8244.tuSize.put value (params.tuSize - 1).toNat
  RegMm8244.tuRatio.put value (params.tuRatio.setWidth 32).toNat

def extPacket (params : MainLinkParams) : U32 :=
  RegMm821C.horizontalWidthBit12to11.put (0 : U32)
    ((params.timing.horDisEnd.setWidth 32 / params.linkedLaneNumber - 1) >>> 11).toNat

/-- `ulTemp3`, where the quotient is cut to 12 bits before the subtraction. -/
def hblankDuration (params : MainLinkParams) : U64 :=
  let timing := params.timing
  let blank : U32 := timing.horTotal.setWidth 32 - timing.horDisEnd.setWidth 32
  (blank.signExtend 64 * params.linkedSpeed.setWidth 64 / timing.pixelClock.setWidth 64 &&& 0xFFF)
    - 64

def horizLineDuration (params : MainLinkParams) : U64 :=
  params.timing.horTotal.setWidth 64 * params.linkedSpeed.setWidth 64
    / params.timing.pixelClock.setWidth 64 - 64

def hlineDur (params : MainLinkParams) : U32 :=
  let value :=
    RegMm8248.horizLineDuration.put (0 : U32) (params.horizLineDuration.setWidth 32).toNat
  RegMm8248.hblankDuration.put value (params.hblankDuration.setWidth 32).toNat

/-- `MISC0_Bit_depth`. -/
def bitDepth (params : MainLinkParams) : Nat :=
  if params.bpc = 6 then 0
  else if params.bpc = 8 then 1
  else if params.bpc = 10 then 2
  else if params.bpc = 12 then 3
  else if params.bpc = 16 then 4
  else 0

def misc0 (params : MainLinkParams) : U32 :=
  let mvid : U64 := 32768 * params.timing.pixelClock.setWidth 64 / params.linkedSpeed.setWidth 64
  let value := RegMm824C.mvid.put (0 : U32) (mvid.setWidth 32).toNat
  let value := RegMm824C.misc0BitDepth.put value params.bitDepth
  let value := RegMm824C.misc0SyncClk.put value (if params.asyncMode then 0 else 1)
  let value := RegMm824C.misc0ComponentFormat.put value params.colorFormat.toNat
  let value :=
    if params.dynamicRange = 1 then RegMm824C.misc0DynamicRange.put value 1 else value
  if params.yCbCrCoefficients = 1 then RegMm824C.misc0YCbCrColorimetry.put value 1 else value

/-- A register of two halves. -/
def halves (hor ver : U16) : U32 := verHalf.put (horHalf.put (0 : U32) hor.toNat) ver.toNat

def hvSync (params : MainLinkParams) : U32 :=
  let timing := params.timing
  let value := RegMm8258.hsyncWidth.put (0 : U32) (timing.horSyncEnd - timing.horSyncStart).toNat
  let value := RegMm8258.vsyncWidth.put value (timing.verSyncEnd - timing.verSyncStart).toNat
  let value :=
    RegMm8258.hsyncPolarity.put value (if timing.hvPolarity &&& horNegative ≠ 0 then 1 else 0)
  RegMm8258.vsyncPolarity.put value (if timing.hvPolarity &&& verNegative ≠ 0 then 1 else 0)

end MainLinkParams

-----------------------------------------------------------------------------------------
-- cbDIU_DP_SetUpMainLink
-----------------------------------------------------------------------------------------

/-- A mask that leaves one field free. -/
def freeField (field : BitField) (mask : U32) : U32 := field.put mask 0

/-- The writes of the horizontal width and of the transfer unit. -/
def writeWidth (index : Nat) (params : MainLinkParams) (regs : Mmio) : Mmio :=
  let regs := regs.writeReg32 (DpReg.hwidthTu.address index) params.hwidthTu 0
  regs.writeReg32 (DpReg.extPacket.address index) params.extPacket
    (freeField RegMm821C.horizontalWidthBit12to11 0xFFFFFFFF)

/-- The writes of the durations and of `Generate_MVID`. -/
def writeDurations (index : Nat) (params : MainLinkParams) (regs : Mmio) : Mmio :=
  let regs := regs.writeReg32 (DpReg.hlineDur.address index) params.hlineDur
    (freeField RegMm8248.hblankDuration (freeField RegMm8248.horizLineDuration 0xFFFFFFFF))
  regs.writeReg32 (DpReg.enable.address index)
    (RegMm8240.generateMvid.put (0 : U32) (if params.asyncMode then 1 else 0))
    (freeField RegMm8240.generateMvid 0xFFFFFFFF)

/-- The writes of `SR_3A`, whose polarity bits follow the last negative one. -/
def writeSr3A (timing : TimingAttrib) (regs : Mmio) : Mmio :=
  let regs := regs.writeReg .sr 0x3A 0 0x38
  let regs :=
    if timing.hvPolarity &&& horNegative ≠ 0 then
      regs.writeReg .sr 0x3A 0x80 0x38
    else regs
  if timing.hvPolarity &&& verNegative ≠ 0 then regs.writeReg .sr 0x3A 0x40 0x38
  else regs

/-- The writes of the attribute data. -/
def writeAttributes (index : Nat) (params : MainLinkParams) (regs : Mmio) : Mmio :=
  let timing := params.timing
  let regs := regs.writeReg32 (DpReg.misc0.address index) params.misc0 0
  let regs := regs.writeReg32 (DpReg.hvTotal.address index)
    (MainLinkParams.halves timing.horTotal timing.verTotal) 0
  let regs := regs.writeReg32 (DpReg.hvStart.address index)
    (MainLinkParams.halves (timing.horTotal - timing.horSyncStart)
      (timing.verTotal - timing.verSyncStart)) 0
  let regs := writeSr3A timing regs
  let regs := regs.writeReg32 (DpReg.hvSync.address index) params.hvSync 0
  let regs := regs.writeReg32 (DpReg.hvActive.address index)
    (MainLinkParams.halves timing.horDisEnd timing.verDisEnd) 0
  let regs := regs.writeReg32 (DpReg.misc1.address index) (RegMm8210.nvid.put (0 : U32) 0x8000)
    (freeField RegMm8210.misc1Reserved (freeField RegMm8210.misc1StereoVideo
      (freeField RegMm8210.misc1Even (freeField RegMm8210.nvid 0xFFFFFFFF))))
  regs.writeReg32 (DpReg.genCtrl.address index) (RegMm8218.delay.put (0 : U32) 0x20)
    (freeField RegMm8218.delay 0xFFFFFFFF)

/-- What is done once the speed of the link is known. -/
def programMainLink (index : Nat) (params : MainLinkParams) (regs : Mmio) : Bool × Mmio :=
  if params.bandwidth = 0 then (false, regs)
  else if params.linkedLaneNumber = 0 then (false, regs)
  else
    let regs := writeWidth index params regs
    if params.timing.pixelClock = 0 then (false, regs)
    else
      let regs := writeDurations index params regs
      if params.linkedSpeed = 0 then (false, regs)
      else (true, writeAttributes index params regs)

/-- `cbDIU_DP_SetUpMainLink`, which also returns the parameters with the speed of the link. -/
def cbDiuDpSetUpMainLink (env : DpEnv) (index : Nat) (params : MainLinkParams) (regs : Mmio)
    : Bool × MainLinkParams × Mmio :=
  if 4 ≤ index then (false, params, regs)
  else
    match env.useLinkRateSet index with
    | none => (false, params, regs)
    | some useLinkRateSet =>
      let regs := regs.writeReg32 (DpReg.enable.address index) 0
        (freeField RegMm8240.fieldInvert 0xFFFFFFFF)
      let (params, regs) := syncLinkedSpeed env index useLinkRateSet params regs
      let (status, regs) := programMainLink index params regs
      (status, params, regs)

end Cx4Kernel.Cbios
