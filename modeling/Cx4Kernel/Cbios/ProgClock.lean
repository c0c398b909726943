import Cx4Kernel.Cbios.ByteRegs

/-! The display clocks of `CBiosUtilHw.c`: `cbCalCLK`, `cbProgClock` and `cbGetProgClock` for the
DCLKs, and `cbProgramDclk` of `CBiosIGA_Timing.c`.
-/

namespace Cx4Kernel.Cbios

open Cx4Kernel.Foundation

/-- What the clock functions read of the CBIOS extension. -/
structure ClockChip where
  chipId : ChipId
  /-- `ChipCaps.Is24MReferenceClock`. -/
  is24MReferenceClock : Bool
  /-- `DriverFlags.bRunOnQT`. -/
  bRunOnQt : Bool
deriving DecidableEq

/-- The DCLKs of `CBIOS_CLOCK_TYPE`. -/
inductive DclkType where
  | dclk1
  | dclk2
  | dclk3
  | dclk4
deriving DecidableEq

/-- `CBIOS_CLOCK_INFO`. -/
structure ClockInfo where
  integer : U16
  fraction : U32
  r : U16
  cp : U16
  pllDiv : U16
deriving DecidableEq

/-- `ChipID >= CHIPID_CHX004`. -/
def ChipId.fromChx004 : ChipId → Bool
  | .chx004 => true
  | .cne001 => true
  | .e3k => false
  | .other => false

-----
-- The divider values

/-- `R_range`. -/
def rRange (chipId : ChipId) : Nat := if chipId.fromChx004 then 7 else 6

/-- `ulVcoValue`. -/
def ulVcoValue (chipId : ChipId) : U32 := if chipId.fromChx004 then 16000000 else 12000000

/-- `ulRefFreq`, `RefFreq24` or `RefFreq27`. -/
def ulRefFreq (chip : ClockChip) : U32 := if chip.is24MReferenceClock then 240000 else 270000

/-- The loop of `cbCalCLK`: the first divider, from the largest down, that puts the VCO in its
range.
-/
def vcoDivider (chipId : ChipId) (clockFreq : U32) : Option Nat :=
  (List.range (rRange chipId + 1)).reverse.find? fun i =>
    !(decide (clockFreq <<< i < ulVcoValue chipId)
      || decide (2 * ulVcoValue chipId < clockFreq <<< i))

/-- `cbCalCLK`, which no caller gives an `R`. -/
def cbCalClk (chip : ClockChip) (clockFreq : U32) : Option ClockInfo :=
  match vcoDivider chip.chipId clockFreq with
  | none => none
  | some i =>
      let iClkFreq := clockFreq <<< i
      let uTemp := (iClkFreq % ulRefFreq chip).setWidth 64 <<< 20
      some {
        r := BitVec.ofNat 16 (if chip.chipId = .e3k ∧ 3 < i then 3 else i)
        pllDiv := BitVec.ofNat 16 (if chip.chipId = .e3k ∧ 3 < i then i - 3 else 0)
        cp := 0
        integer := ((iClkFreq / ulRefFreq chip).setWidth 8).setWidth 16 - 2
        fraction := (uTemp / (ulRefFreq chip).setWidth 64).setWidth 32
      }

/-- `cbCalFreq`. -/
def cbCalFreq (chip : ClockChip) (clock : ClockInfo) : U32 :=
  let fraction : U64 := clock.fraction.setWidth 64
  ((clock.integer.setWidth 32 + (2 : U32)) * ulRefFreq chip
    + ((fraction * (ulRefFreq chip).setWidth 64) >>> 20).setWidth 32)
      >>> (clock.r.toNat + clock.pllDiv.toNat)

-----
-- The mapping tables

def chx004Dclk1IntegerMap : List (ByteReg × U8) := [(⟨.sr, 0x12⟩, 0xFF)]

def chx004Dclk1FractionMap : List (ByteReg × U8) :=
  [(⟨.sr, 0x13⟩, 0xFF), (⟨.crB, 0xEC⟩, 0xFF), (⟨.sr, 0x29⟩, 0x0F)]

def chx004Dclk1RMap : List (ByteReg × U8) := [(⟨.cr, 0xB4⟩, 0x70)]

def chx004Dclk2IntegerMap : List (ByteReg × U8) := [(⟨.sr, 0x0E⟩, 0xFF)]

def chx004Dclk2FractionMap : List (ByteReg × U8) :=
  [(⟨.sr, 0x0F⟩, 0xFF), (⟨.crB, 0xF2⟩, 0xFF), (⟨.crB, 0xE5⟩, 0x0F)]

def chx004Dclk2RMap : List (ByteReg × U8) := [(⟨.sr, 0x29⟩, 0x70)]

def chx004Dclk3IntegerMap : List (ByteReg × U8) := [(⟨.cr, 0xB5⟩, 0xFF)]

def chx004Dclk3FractionMap : List (ByteReg × U8) :=
  [(⟨.cr, 0xB6⟩, 0xFF), (⟨.cr, 0xB7⟩, 0xFF), (⟨.cr, 0xB8⟩, 0x0F)]

def chx004Dclk3RMap : List (ByteReg × U8) := [(⟨.cr, 0xB4⟩, 0x07)]

def e3kDclk1IntegerMap : List (ByteReg × U8) := [(⟨.sr, 0x12⟩, 0xFF)]

def e3kDclk1FractionMap : List (ByteReg × U8) :=
  [(⟨.sr, 0x13⟩, 0xFF), (⟨.crB, 0xEC⟩, 0xFF), (⟨.sr, 0x29⟩, 0x0F)]

def e3kDclk1RMap : List (ByteReg × U8) := [(⟨.sr, 0x10⟩, 0x0C)]

def e3kDclk1DivMap : List (ByteReg × U8) := [(⟨.crB, 0xD0⟩, 0xC0)]

def e3kDclk2IntegerMap : List (ByteReg × U8) := [(⟨.sr, 0x0E⟩, 0xFF)]

def e3kDclk2FractionMap : List (ByteReg × U8) :=
  [(⟨.sr, 0x0F⟩, 0xFF), (⟨.cr, 0xF2⟩, 0xFF), (⟨.crB, 0xE5⟩, 0x0F)]

def e3kDclk2RMap : List (ByteReg × U8) := [(⟨.sr, 0x29⟩, 0x30)]

def e3kDclk2DivMap : List (ByteReg × U8) := [(⟨.crB, 0xD1⟩, 0xC0)]

def e3kDclk3IntegerMap : List (ByteReg × U8) := [(⟨.cr, 0xB5⟩, 0xFF)]

def e3kDclk3FractionMap : List (ByteReg × U8) :=
  [(⟨.cr, 0xB6⟩, 0xFF), (⟨.cr, 0xB7⟩, 0xFF), (⟨.cr, 0xB8⟩, 0x0F)]

def e3kDclk3RMap : List (ByteReg × U8) := [(⟨.cr, 0xB4⟩, 0x03)]

def e3kDclk3DivMap : List (ByteReg × U8) := [(⟨.crB, 0xD2⟩, 0xC0)]

def e3kDclk4IntegerMap : List (ByteReg × U8) := [(⟨.cr, 0xD6⟩, 0xFF)]

def e3kDclk4FractionMap : List (ByteReg × U8) :=
  [(⟨.cr, 0xD5⟩, 0xFC), (⟨.cr, 0xD7⟩, 0xFF), (⟨.cr, 0xD8⟩, 0x3F)]

def e3kDclk4RMap : List (ByteReg × U8) := [(⟨.cr, 0xD5⟩, 0x03)]

def e3kDclk4DivMap : List (ByteReg × U8) := [(⟨.cr, 0xD9⟩, 0x03)]

-----
-- The branches of the DCLKs

/-- What a branch of `cbProgClock` and the same branch of `cbGetProgClock` use: the tables, where
those of CHX004 have no divider, and the register writes behind the tables.
-/
structure DclkBranch where
  integerMap : List (ByteReg × U8)
  fractionMap : List (ByteReg × U8)
  rMap : List (ByteReg × U8)
  divMap : Option (List (ByteReg × U8))
  loads : List (ByteReg × U8 × U8)

/-- The four writes of `SR_15` by the bits for `DCLKn_M_R_Load` and `DCLKn_PLL_LOAD`. -/
def sr15Loads (mRLoad pllLoad : U8) : List (ByteReg × U8 × U8) :=
  [(⟨.sr, 0x15⟩, mRLoad, ~~~mRLoad), (⟨.sr, 0x15⟩, 0, ~~~mRLoad),
    (⟨.sr, 0x15⟩, 0, ~~~pllLoad), (⟨.sr, 0x15⟩, pllLoad, ~~~pllLoad)]

def chx004Dclk1 : DclkBranch where
  integerMap := chx004Dclk1IntegerMap
  fractionMap := chx004Dclk1FractionMap
  rMap := chx004Dclk1RMap
  divMap := none
  loads := sr15Loads 0x04 0x02 ++ [(⟨.crB, 0xFC⟩, 0, 0xFE)]

def chx004Dclk2 : DclkBranch where
  integerMap := chx004Dclk2IntegerMap
  fractionMap := chx004Dclk2FractionMap
  rMap := chx004Dclk2RMap
  divMap := none
  loads := sr15Loads 0x20 0x08 ++ [(⟨.sr, 0x0B⟩, 0, 0xFE)]

def chx004Dclk3 : DclkBranch where
  integerMap := chx004Dclk3IntegerMap
  fractionMap := chx004Dclk3FractionMap
  rMap := chx004Dclk3RMap
  divMap := none
  loads := sr15Loads 0x01 0x10 ++ [(⟨.crB, 0xFC⟩, 0, 0xFD)]

def e3kDclk1 : DclkBranch where
  integerMap := e3kDclk1IntegerMap
  fractionMap := e3kDclk1FractionMap
  rMap := e3kDclk1RMap
  divMap := some e3kDclk1DivMap
  loads := sr15Loads 0x04 0x02

def e3kDclk2 : DclkBranch where
  integerMap := e3kDclk2IntegerMap
  fractionMap := e3kDclk2FractionMap
  rMap := e3kDclk2RMap
  divMap := some e3kDclk2DivMap
  loads := sr15Loads 0x20 0x08

def e3kDclk3 : DclkBranch where
  integerMap := e3kDclk3IntegerMap
  fractionMap := e3kDclk3FractionMap
  rMap := e3kDclk3RMap
  divMap := some e3kDclk3DivMap
  loads := sr15Loads 0x01 0x10

/-- DCLK4 has one branch for all chips. It is loaded through `LOAD_DCLK4` and `SOFT_LOAD_D4CLK` of
`CR_B_FD`.
-/
def e3kDclk4 : DclkBranch where
  integerMap := e3kDclk4IntegerMap
  fractionMap := e3kDclk4FractionMap
  rMap := e3kDclk4RMap
  divMap := some e3kDclk4DivMap
  loads :=
    [(⟨.crB, 0xFD⟩, 0x10, 0xEF), (⟨.crB, 0xFD⟩, 0, 0xEF), (⟨.crB, 0xFD⟩, 0, 0xF7),
      (⟨.crB, 0xFD⟩, 0x08, 0xF7)]

/-- The branch that both functions take. -/
def dclkBranch (chipId : ChipId) : DclkType → DclkBranch
  | .dclk1 => if chipId.fromChx004 then chx004Dclk1 else e3kDclk1
  | .dclk2 => if chipId.fromChx004 then chx004Dclk2 else e3kDclk2
  | .dclk3 => if chipId.fromChx004 then chx004Dclk3 else e3kDclk3
  | .dclk4 => e3kDclk4

-----
-- Programming and reading

/-- Register writes in a row. -/
def ByteRegs.writeRegs (regs : ByteRegs) (writes : List (ByteReg × U8 × U8)) : ByteRegs :=
  writes.foldl (fun regs (reg, value, mask) => regs.writeReg reg value mask) regs

/-- The branches of `cbProgClock`. -/
def progDclk (branch : DclkBranch) (clkInfo : ClockInfo) (regs : ByteRegs) : ByteRegs :=
  let regs := cbMapMaskWrite regs (clkInfo.integer.setWidth 32) branch.integerMap .noIga
  let regs := cbMapMaskWrite regs clkInfo.fraction branch.fractionMap .noIga
  let regs := cbMapMaskWrite regs (clkInfo.r.setWidth 32) branch.rMap .noIga
  let regs :=
    match branch.divMap with
    | some divMap => cbMapMaskWrite regs (clkInfo.pllDiv.setWidth 32) divMap .noIga
    | none => regs
  regs.writeRegs branch.loads

/-- `cbProgClock` for a DCLK. `CR_C_AB` loses `BIU_RESET_MODE` and `BIU_ECLK_RESET_MODE` first. -/
def cbProgClock (chip : ClockChip) (clockFreq : U32) (clockType : DclkType) (regs : ByteRegs)
    : Bool × ByteRegs :=
  if chip.bRunOnQt then (true, regs)
  else
    match cbCalClk chip clockFreq with
    | none => (false, regs)
    | some clkInfo =>
        let regs := regs.writeReg ⟨.crC, 0xAB⟩ 0 0xFC
        (true, progDclk (dclkBranch chip.chipId clockType) clkInfo regs)

/-- The branches of `cbGetProgClock`. -/
def getDclk (branch : DclkBranch) (regs : ByteRegs) : ClockInfo where
  integer := ((cbMapMaskRead regs branch.integerMap .noIga).setWidth 8).setWidth 16
  fraction := cbMapMaskRead regs branch.fractionMap .noIga
  r := ((cbMapMaskRead regs branch.rMap .noIga).setWidth 8).setWidth 16
  cp := 0
  pllDiv :=
    match branch.divMap with
    | some divMap => ((cbMapMaskRead regs divMap .noIga).setWidth 8).setWidth 16
    | none => 0

/-- `cbGetProgClock` for a DCLK, the `*ClockFreq`. -/
def cbGetProgClock (chip : ClockChip) (clockType : DclkType) (regs : ByteRegs) : U32 :=
  cbCalFreq chip (getDclk (dclkBranch chip.chipId clockType) regs)

/-- The DCLK that `cbProgramDclk` takes for an IGA. -/
def dclkOfIga : IgaIndex → DclkType
  | .iga1 => .dclk1
  | .iga2 => .dclk2
  | .iga3 => .dclk3
  | .iga4 => .dclk4
  | .noIga => .dclk1

/-- `cbProgramDclk`, which also selects the sources of the DCLKs in `SR_1B` and `SR_30`. -/
def cbProgramDclk (chip : ClockChip) (igaIndex : IgaIndex) (clockFreq : U32) (regs : ByteRegs)
    : ByteRegs :=
  let regs := if igaIndex = .iga1 then regs.writeReg ⟨.sr, 0x1B⟩ 0x80 0x7F else regs
  let regs := regs.writeReg ⟨.sr, 0x30⟩ 0 0xA7
  (cbProgClock chip clockFreq (dclkOfIga igaIndex) regs).2

end Cx4Kernel.Cbios
