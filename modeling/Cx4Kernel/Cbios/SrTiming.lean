import Cx4Kernel.Cbios.CustomizedTiming
import Cx4Kernel.Cbios.ProgClock

/-! The device timing registers of `CBios_E3K.c`: `cbSetSRTimingReg_E3K`, `cbGetSRTimingReg_E3K`
and `cbDstTimingRegSetting` of `CBiosIGA_Timing.c`, which programs them together with the DCLK.
-/

namespace Cx4Kernel.Cbios

open Cx4Kernel.Foundation

def hss2RegIndex : List (ByteReg × U8) :=
  [(⟨.sr, 0x64⟩, 0xFF), (⟨.sr, 0x66⟩, 0x08), (⟨.sr, 0x67⟩, 0x08), (⟨.sr, 0x2E⟩, 0x40)]

def ht2RegIndex : List (ByteReg × U8) :=
  [(⟨.sr, 0x60⟩, 0xFF), (⟨.sr, 0x66⟩, 0x01), (⟨.sr, 0x67⟩, 0x01), (⟨.sr, 0x2E⟩, 0x01)]

def hse2RegIndex : List (ByteReg × U8) := [(⟨.sr, 0x65⟩, 0x3F)]

def hde2RegIndex : List (ByteReg × U8) :=
  [(⟨.sr, 0x61⟩, 0xFF), (⟨.sr, 0x66⟩, 0x02), (⟨.sr, 0x67⟩, 0x02), (⟨.sr, 0x2E⟩, 0x02)]

def hbs2RegIndex : List (ByteReg × U8) :=
  [(⟨.sr, 0x62⟩, 0xFF), (⟨.sr, 0x66⟩, 0x04), (⟨.sr, 0x67⟩, 0x04), (⟨.sr, 0x2E⟩, 0x04)]

def hbe2RegIndex : List (ByteReg × U8) := [(⟨.sr, 0x63⟩, 0x7F), (⟨.sr, 0x2E⟩, 0x38)]

def vt2RegIndex : List (ByteReg × U8) :=
  [(⟨.sr, 0x68⟩, 0xFF), (⟨.sr, 0x6E⟩, 0x0F), (⟨.sr, 0x2F⟩, 0x01)]

def vde2RegIndex : List (ByteReg × U8) :=
  [(⟨.sr, 0x69⟩, 0xFF), (⟨.sr, 0x6E⟩, 0xF0), (⟨.sr, 0x2F⟩, 0x02)]

def vbs2RegIndex : List (ByteReg × U8) :=
  [(⟨.sr, 0x6A⟩, 0xFF), (⟨.sr, 0x6F⟩, 0x0F), (⟨.sr, 0x2F⟩, 0x04)]

def vbe2RegIndex : List (ByteReg × U8) := [(⟨.sr, 0x6B⟩, 0xFF), (⟨.sr, 0x2F⟩, 0x08)]

def vss2RegIndex : List (ByteReg × U8) :=
  [(⟨.sr, 0x6C⟩, 0xFF), (⟨.sr, 0x6F⟩, 0xF0), (⟨.sr, 0x2F⟩, 0x10)]

def vse2RegIndex : List (ByteReg × U8) := [(⟨.sr, 0x6D⟩, 0x0F), (⟨.sr, 0x2F⟩, 0x60)]

/-- The `int` difference of two values, as it is assigned to an `unsigned int`. -/
def difference (x y : U16) : U32 := x.setWidth 32 - y.setWidth 32

/-- What `cbSetSRTimingReg_E3K` leaves in its `pTiming` and the delays of the scaler. -/
structure HbackPatch where
  timing : TimingAttrib
  hSyncDelay : U16
  vSyncDelay : U16
  isUseHbackPatch : Bool
deriving DecidableEq

/-- The `while` loop of the back porch patch: the horizontal sync moves left as long as the front
porch is greater than 16. The first argument is how much greater it is.
-/
def hbackPatchLoop (timing : TimingAttrib) : Nat → U16 → U16 → Option (U16 × U16 × U16)
  | 0, _, _ => none
  | room + 1, tmpHorSyncStart, tmpHorSyncEnd =>
      let tmpHorSyncStart := tmpHorSyncStart - 1
      let tmpHorSyncEnd := tmpHorSyncEnd - 1
      let newBackPorchWidth := difference timing.horTotal tmpHorSyncEnd
      let hSyncDelay := timing.horSyncStart - tmpHorSyncStart
      if newBackPorchWidth % 8 = 0 ∧ 2 < hSyncDelay.toNat then
        some (tmpHorSyncStart, tmpHorSyncEnd, hSyncDelay)
      else hbackPatchLoop timing room tmpHorSyncStart tmpHorSyncEnd

/-- The head of `cbSetSRTimingReg_E3K`: a back porch below 32 that is no multiple of 8 is
stretched to one, and the scaler delays the sync in return.
-/
def hbackPatch (timing : TimingAttrib) : HbackPatch :=
  let backPorchWidth := difference timing.horTotal timing.horSyncEnd
  if backPorchWidth < 32 ∧ backPorchWidth % 8 ≠ 0 then
    match hbackPatchLoop timing (timing.horSyncStart.toNat - (timing.horDisEnd.toNat + 16))
        timing.horSyncStart timing.horSyncEnd with
    | some (tmpHorSyncStart, tmpHorSyncEnd, hSyncDelay) =>
        {
          timing :=
            { timing with
              horSyncStart := tmpHorSyncStart
              horSyncEnd := tmpHorSyncEnd
              verSyncStart := timing.verSyncStart - 1
              verSyncEnd := timing.verSyncEnd - 1 }
          hSyncDelay := hSyncDelay - 2
          vSyncDelay := 1
          isUseHbackPatch := true
        }
    | none => ⟨timing, 0, 0, false⟩
  else ⟨timing, 0, 0, false⟩

/-- `CBIOS_TIMING_REG_E3K`. -/
structure TimingRegE3k where
  hssRemainder : U8
  hSyncRemainder : U8
  hBackPorchRemainder : U8
  horSyncStart : U16
  horTotal : U16
  horSyncEnd : U16
  horDisEnd : U16
  horBStart : U16
  horBEnd : U16
  verTotal : U16
  verDisEnd : U16
  verBStart : U16
  verBEnd : U16
  verSyncStart : U16
  verSyncEnd : U16
deriving DecidableEq

/-- A value behind a character position is cut to it. -/
def clampTo (value limit : U16) (slack : Nat) : U16 :=
  if limit.toNat + slack < value.toNat then limit + BitVec.ofNat 16 slack else value

/-- The register values of `cbSetSRTimingReg_E3K`, without `HDERemainder`. -/
def srTimingReg (timing : TimingAttrib) : TimingRegE3k :=
  let hssRemainder := timing.horSyncStart % 8
  let syncWidth := difference timing.horSyncEnd timing.horSyncStart
  let hSyncRemainder := syncWidth % 8
  let hSyncWidth := cbRound syncWidth cellGran .down
  let hBackPorchRemainder := difference timing.horTotal timing.horSyncEnd % 8
  let horSyncStart := (cbRound (timing.horSyncStart.setWidth 32) cellGran .down).setWidth 16
  let remainders : U32 :=
    hssRemainder.setWidth 32 + hSyncRemainder + hBackPorchRemainder
  let horTotal : U16 := (cbRound (timing.horTotal.setWidth 32) cellGran .down).setWidth 16 - 5
    - (cbRound remainders cellGran .down).setWidth 16
  let horSyncEnd := clampTo (horSyncStart + hSyncWidth.setWidth 16) horTotal 3 &&& 0x1F
  let horBStart := (cbRound (timing.horBStart.setWidth 32) cellGran .up).setWidth 16
  let blankingTime := cbRound (difference timing.horBEnd timing.horBStart) cellGran .down
  let verTotal := timing.verTotal - 2
  let verBStart := timing.verBStart - 1
  let verBlankingTime := difference timing.verBEnd timing.verBStart
  let verSyncStart := timing.verSyncStart - 1
  let verSyncWidth := difference timing.verSyncEnd timing.verSyncStart
  {
    hssRemainder := hssRemainder.setWidth 8
    hSyncRemainder := hSyncRemainder.setWidth 8
    hBackPorchRemainder := hBackPorchRemainder.setWidth 8
    horSyncStart
    horTotal
    horSyncEnd := if 32 < hSyncWidth then horSyncEnd ||| 0x20 else horSyncEnd &&& ~~~0x20
    horDisEnd := (cbRound (timing.horDisEnd.setWidth 32) cellGran .up).setWidth 16 - 1
    horBStart
    horBEnd := clampTo (horBStart + blankingTime.setWidth 16) horTotal 3
    verTotal
    verDisEnd := timing.verDisEnd - 1
    verBStart
    verBEnd := clampTo (verBStart + verBlankingTime.setWidth 16) verTotal 0
    verSyncStart
    verSyncEnd := clampTo (verSyncStart + verSyncWidth.setWidth 16) verTotal 0 &&& 0x3F
  }

/-- The adjustment of `HorDisEnd` in `CR_58`. -/
def setHdeRemainder (horDisEnd : U16) (igaIndex : IgaIndex) (regs : ByteRegs) : ByteRegs :=
  let hdeRemainder : U8 := (horDisEnd % 8).setWidth 8
  if hdeRemainder ≠ 0 then
    let regs := regs.biosWriteReg ⟨.cr, 0x58⟩ ((hdeRemainder - 1) &&& 0x07) 0xF8 igaIndex
    regs.biosWriteReg ⟨.cr, 0x58⟩ 0x08 0xF7 igaIndex
  else regs.biosWriteReg ⟨.cr, 0x58⟩ 0x00 0xF0 igaIndex

/-- The numbers that `cbSetSRTimingReg_E3K` writes in front of `CR_58`, in its order. -/
def srSyncEntries (reg : TimingRegE3k) : List (U32 × List (ByteReg × U8)) :=
  [(reg.horSyncStart.setWidth 32, hss2RegIndex), (reg.horTotal.setWidth 32, ht2RegIndex),
    (reg.horSyncEnd.setWidth 32, hse2RegIndex)]

/-- The numbers that it writes behind `CR_58`. -/
def srDisplayEntries (reg : TimingRegE3k) : List (U32 × List (ByteReg × U8)) :=
  [(reg.horDisEnd.setWidth 32, hde2RegIndex), (reg.horBStart.setWidth 32, hbs2RegIndex),
    (reg.horBEnd.setWidth 32, hbe2RegIndex), (reg.verTotal.setWidth 32, vt2RegIndex),
    (reg.verDisEnd.setWidth 32, vde2RegIndex), (reg.verBStart.setWidth 32, vbs2RegIndex),
    (reg.verBEnd.setWidth 32, vbe2RegIndex), (reg.verSyncStart.setWidth 32, vss2RegIndex),
    (reg.verSyncEnd.setWidth 32, vse2RegIndex)]

/-- `cbSetSRTimingReg_E3K`, without the timing that it leaves in its `pTiming`. -/
def cbSetSrTimingRegE3k (timing : TimingAttrib) (igaIndex : IgaIndex) (regs : ByteRegs)
    : ByteRegs :=
  let patch := hbackPatch timing
  let reg := srTimingReg patch.timing
  let regs := regs.biosWriteReg ⟨.cr, 0x72⟩ reg.hssRemainder 0xF8 igaIndex
  let regs := regs.biosWriteReg ⟨.cr, 0x72⟩ (reg.hSyncRemainder <<< 3) 0xC7 igaIndex
  let regs := regs.biosWriteReg ⟨.cr, 0x73⟩ reg.hBackPorchRemainder 0xF8 igaIndex
  let regs := writeTables igaIndex (srSyncEntries reg) regs
  let regs := setHdeRemainder patch.timing.horDisEnd igaIndex regs
  let regs := writeTables igaIndex (srDisplayEntries reg) regs
  if patch.isUseHbackPatch then
    let regs := regs.biosWriteReg ⟨.sr, 0x57⟩ (patch.hSyncDelay.setWidth 8) 0x0 igaIndex
    regs.biosWriteReg ⟨.sr, 0x58⟩ (patch.vSyncDelay.setWidth 8) 0xC0 igaIndex
  else
    let regs := regs.biosWriteReg ⟨.sr, 0x57⟩ 0 0x0 igaIndex
    regs.biosWriteReg ⟨.sr, 0x58⟩ 0 0xC0 igaIndex

/-- A position whose low bits are those of `temp` and whose high bits are those of the start. -/
def withHighBits (temp start lowMask : U16) : U16 := (temp &&& lowMask) ||| (start &&& ~~~lowMask)

/-- The end of the horizontal sync in characters: the low bits of `SR_65` behind the start, and one
round of them more when bit 5 is set.
-/
def readHorSyncEnd (temp start : U16) : U16 :=
  let horSyncEnd := withHighBits temp start 0x1F
  let horSyncEnd := if temp &&& 0x20 ≠ 0 then horSyncEnd + 0x20 else horSyncEnd
  if horSyncEnd ≤ start then horSyncEnd + 0x20 else horSyncEnd

/-- The display end, where the last character has the pixels of the remainder. -/
def readHorDisEnd (horDisEnd hDisEndRemainder : U16) : U16 :=
  (if hDisEndRemainder ≠ 0 then horDisEnd * 8 else (horDisEnd + 1) * 8) + hDisEndRemainder

/-- The end of the horizontal blanking, which is that of the line when the register is cut to it. -/
def readHorBEnd (horBEnd horTotalReg remainders : U16) : U16 :=
  if horTotalReg.toNat + 3 ≤ horBEnd.toNat then (horBEnd + 2) * 8 + remainders else horBEnd * 8

/-- The end of the vertical blanking, which is moved behind its start and, next to the total, by one
line.
-/
def readVerBEnd (temp verBStart verTotal : U16) : U16 :=
  let verBEnd := withHighBits temp verBStart 0xFF
  let verBEnd := if verBEnd ≤ verBStart then verBEnd + 0x100 else verBEnd
  if verTotal.toNat ≤ verBEnd.toNat + 2 then verBEnd + 1 else verBEnd

/-- The end of the vertical sync. -/
def readVerSyncEnd (temp verSyncStart : U16) : U16 :=
  let verSyncEnd := withHighBits temp verSyncStart 0x0F
  if verSyncEnd ≤ verSyncStart then verSyncEnd + 0x10 else verSyncEnd

/-- The refresh rate of a clock and the totals, in hundredths of a hertz. -/
def readRefreshRate (currPllClock : U32) (horTotal verTotal : U16) : U16 :=
  let temp : U32 := horTotal.setWidth 32 * verTotal.setWidth 32
  let refreshRate : U16 := (currPllClock * 100 / temp).setWidth 16
  let remainder := currPllClock * 100 % temp
  (refreshRate.setWidth 32 * 100 + remainder * 100 / temp : U32).setWidth 16

/-- `cbGetSRTimingReg_E3K`, with the frequency that `cbGetProgClock` reads. The fields that it does
not read are 0.
-/
def cbGetSrTimingRegE3k (regs : ByteRegs) (igaIndex : IgaIndex) (currPllClock : U32)
    : TimingAttrib :=
  let read16 (table : List (ByteReg × U8)) : U16 := (cbMapMaskRead regs table igaIndex).setWidth 16
  let cr72 := regs.biosReadReg ⟨.cr, 0x72⟩ igaIndex
  let hssRemainder : U16 := (cr72 &&& 0x07).setWidth 16
  let hSyncRemainder : U16 := ((cr72 >>> 3) &&& 0x07).setWidth 16
  let hBackPorchRemainder : U16 := (regs.biosReadReg ⟨.cr, 0x73⟩ igaIndex &&& 0x07).setWidth 16
  let cr58 := regs.biosReadReg ⟨.cr, 0x58⟩ igaIndex
  let hDisEndRemainder : U16 :=
    if cr58 &&& 0x08 ≠ 0 then (cr58 &&& 0x07).setWidth 16 + 1 else 0
  let remainders := hssRemainder + hSyncRemainder + hBackPorchRemainder
  let horSyncStart := read16 hss2RegIndex * 8 + hssRemainder
  let horTotalReg := read16 ht2RegIndex
  let horTotal := (horTotalReg + 5) * 8 + remainders
  let horSyncEnd := readHorSyncEnd (read16 hse2RegIndex) (horSyncStart / 8) * 8
    + (hSyncRemainder + hssRemainder)
  let horDisEnd := readHorDisEnd (read16 hde2RegIndex) hDisEndRemainder
  let verTotal := read16 vt2RegIndex + 2
  let verDisEnd := read16 vde2RegIndex + 1
  let verBStart := read16 vbs2RegIndex + 1
  let verSyncStart := read16 vss2RegIndex + 1
  {
    formatVIC := 0
    xRes := horDisEnd
    yRes := verDisEnd
    refreshRate := readRefreshRate currPllClock horTotal verTotal
    hvPolarity := 0
    pixelClock := 0
    horTotal
    horDisEnd
    horBStart := read16 hbs2RegIndex * 8
    horBEnd := readHorBEnd (read16 hbe2RegIndex) horTotalReg remainders
    horSyncStart
    horSyncEnd
    verTotal
    verDisEnd
    verBStart
    verBEnd := readVerBEnd (read16 vbe2RegIndex + 1) verBStart verTotal
    verSyncStart
    verSyncEnd := readVerSyncEnd (read16 vse2RegIndex + 1) verSyncStart
  }

/-- What `cbDstTimingRegSetting` reads of `CBIOS_DISP_MODE_PARAMS`. -/
structure DispModeParams where
  targetTiming : TimingAttrib
  pllClock : U32
  pixelRepitition : U8

/-- `cbSetPixelRepetition`. -/
def cbSetPixelRepetition (pixelRepitition : U8) (igaIndex : IgaIndex) (regs : ByteRegs)
    : ByteRegs :=
  let set (value : U8) : ByteRegs :=
    if igaIndex = .iga1 then regs.writeReg ⟨.cr, 0xF1⟩ (value <<< 6) 0x3F
    else regs.writeReg ⟨.cr, 0xF1⟩ (value <<< 4) 0xCF
  if pixelRepitition = 1 then set 0
  else if pixelRepitition = 2 then set 1
  else if pixelRepitition = 4 then set 2
  else regs

/-- `cbDstTimingRegSetting`. -/
def cbDstTimingRegSetting (chip : ClockChip) (params : DispModeParams) (igaIndex : IgaIndex)
    (regs : ByteRegs) : ByteRegs :=
  let regs := cbSetSrTimingRegE3k params.targetTiming igaIndex regs
  let regs := cbProgramDclk chip igaIndex params.pllClock regs
  let regs := regs.biosWriteReg ⟨.cr, 0x23⟩ 0 0 igaIndex
  let regs := regs.biosWriteReg ⟨.cr, 0x29⟩ 0 0 igaIndex
  let regs := regs.biosWriteReg ⟨.cr, 0x26⟩ 0 0 igaIndex
  let regs := regs.writeReg ⟨.crB, 0xF5⟩ 0x00 0xDF
  cbSetPixelRepetition params.pixelRepitition igaIndex regs

/-- The timing of an IGA, read with the clock of its DCLK. -/
def getSrTiming (chip : ClockChip) (igaIndex : IgaIndex) (regs : ByteRegs) : TimingAttrib :=
  cbGetSrTimingRegE3k regs igaIndex (cbGetProgClock chip (dclkOfIga igaIndex) regs)

end Cx4Kernel.Cbios
