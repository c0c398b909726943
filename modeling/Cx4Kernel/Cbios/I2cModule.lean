import Mathlib.Logic.Function.Basic
import Cx4Kernel.Foundation.MachineInt
import Cx4Kernel.Foundation.TwoWire

/-! The bit-banged I2C bus of `CBiosI2C.c`: `cbI2CModule_WriteData`, `cbI2CModule_ReadData` and the
line operations that they are made of, down to the register bits that pull the lines.
-/

namespace Cx4Kernel.Cbios

open Cx4Kernel.Foundation

-----------------------------------------------------------------------------------------
-- Register parameters
-----------------------------------------------------------------------------------------

/-- The registers that lines are connected to. -/
inductive RegTypeIndex where
  | crA0
  | crAA
  | crBC5
  | crBC6
  | crBF8
  | crBDA
  | sr48
  | sr4A
deriving DecidableEq

/-- The part of `CBIOS_I2C_REG_PARAMS` for one line. -/
structure LineReg where
  typeIndex : RegTypeIndex
  readEnableMask : U8
  readEnableValue : U8
  readBitNum : Nat
  writeBitNum : Nat
  writeEnableMask : U8
  writeEnableValue : U8

/-- `CBIOS_I2C_REG_PARAMS`. -/
structure I2cRegParams where
  cLine : LineReg
  dLine : LineReg

/-- A line of a normal I2C bus. -/
def i2cLine (typeIndex : RegTypeIndex) (readBitNum writeBitNum : Nat) : LineReg where
  typeIndex := typeIndex
  readEnableMask := 0xFF
  readEnableValue := 0
  readBitNum := readBitNum
  writeBitNum := writeBitNum
  writeEnableMask := 0xEF
  writeEnableValue := 0x10

/-- The lines of a normal I2C bus. -/
def i2cBus (typeIndex : RegTypeIndex) : I2cRegParams where
  cLine := i2cLine typeIndex 2 0
  dLine := i2cLine typeIndex 3 1

/-- A GPIO in the upper half of its register: GPIO2 in `CR_B_DA`, GPIO4 in `SR_48`. -/
def gpioUpper (typeIndex : RegTypeIndex) : LineReg where
  typeIndex := typeIndex
  readEnableMask := 0xBF
  readEnableValue := 0x40
  readBitNum := 7
  writeBitNum := 4
  writeEnableMask := 0xDF
  writeEnableValue := 0x20

/-- A GPIO in the lower half of its register: GPIO3 in `SR_48`, GPIO5 in `SR_4A`. -/
def gpioLower (typeIndex : RegTypeIndex) : LineReg where
  typeIndex := typeIndex
  readEnableMask := 0xFB
  readEnableValue := 0x04
  readBitNum := 3
  writeBitNum := 0
  writeEnableMask := 0xFD
  writeEnableValue := 0x02

/-- `cbI2CModule_GetI2CParams`. -/
def cbI2cModuleGetI2cParams (i2cBusNum : U8) : Option I2cRegParams :=
  match i2cBusNum.toNat with
  | 0 => some (i2cBus .crA0)
  | 1 => some (i2cBus .crAA)
  | 2 => some (i2cBus .crBC5)
  | 3 => some (i2cBus .crBC6)
  | 4 => some (i2cBus .crBF8)
  | 8 => some ⟨gpioUpper .sr48, gpioLower .sr4A⟩
  | 9 => some ⟨gpioLower .sr4A, gpioUpper .crBDA⟩
  | 10 => some ⟨gpioLower .sr48, gpioUpper .sr48⟩
  | 11 => some ⟨gpioUpper .crBDA, gpioLower .sr4A⟩
  | 12 => some ⟨gpioUpper .crBDA, gpioLower .sr48⟩
  | _ => none

-----------------------------------------------------------------------------------------
-- Registers and lines
-----------------------------------------------------------------------------------------

/-- The registers and the lines of the bus in use. -/
structure I2cState where
  regs : RegTypeIndex → U8
  wires : Wires

/-- Code that accesses registers and waits. -/
abbrev I2c := StateM I2cState

/-- The master lets a line go: its output is disabled or its bit is set. -/
def LineReg.released (line : LineReg) (byte : U8) : Bool :=
  byte &&& ~~~line.writeEnableMask ≠ line.writeEnableValue ∨ byte.getLsbD line.writeBitNum

/-- The byte that `cbMMIOWriteReg` leaves. -/
def writeReg (byte value mask : U8) : U8 :=
  if value &&& mask ≠ 0 ∨ mask = 0xFF then byte else (byte &&& mask) ||| value

/-- A byte with one bit replaced. -/
def withBit (byte : U8) (num : Nat) (bit : Bool) : U8 :=
  (byte &&& ~~~((1 : U8) <<< num)) ||| ((if bit then 1 else 0) <<< num)

/-- `MAXI2CWAITLOOP`. -/
def maxI2cWaitLoop : Nat := 4000

section Lines

variable (slave : Slave maxI2cWaitLoop) (params : I2cRegParams)

/-- `cbMMIOWriteReg`. The lines follow the registers. -/
def cbMmioWriteReg (typeIndex : RegTypeIndex) (value mask : U8) : I2c Unit :=
  modify fun state =>
    let regs := Function.update state.regs typeIndex (writeReg (state.regs typeIndex) value mask)
    { regs,
      wires := state.wires.drive slave (params.cLine.released (regs params.cLine.typeIndex))
        (params.dLine.released (regs params.dLine.typeIndex)) }

/-- `cbMMIOReadReg`. The bits for reading show the lines. -/
def cbMmioReadReg (typeIndex : RegTypeIndex) : I2c U8 := do
  let state ← get
  let byte := state.regs typeIndex
  let byte :=
    if typeIndex = params.cLine.typeIndex then
      withBit byte params.cLine.readBitNum state.wires.clock
    else byte
  pure <|
    if typeIndex = params.dLine.typeIndex then
      withBit byte params.dLine.readBitNum state.wires.data
    else byte

/-- `cb_DelayMicroSeconds`, whatever the delay. -/
def cbDelayMicroSeconds : I2c Unit :=
  modify fun state => { state with wires := state.wires.delay slave }

/-- The value that sets a line to a level. -/
def LineReg.levelValue (line : LineReg) (lineLvl : Bool) : U8 :=
  ((if lineLvl then 1 else 0) <<< line.writeBitNum) + line.writeEnableValue

/-- The mask for it. -/
def LineReg.levelMask (line : LineReg) : U8 :=
  line.writeEnableMask &&& ~~~((1 : U8) <<< line.writeBitNum)

/-- `cbI2CModule_SetScl` and `cbI2CModule_SetSda`. -/
def setLine (line : LineReg) (lineLvl : Bool) : I2c Unit :=
  cbMmioWriteReg slave params line.typeIndex (line.levelValue lineLvl) line.levelMask

/-- `cbI2CModule_GetScl` and `cbI2CModule_GetSda`. -/
def getLine (line : LineReg) : I2c Bool := do
  cbMmioWriteReg slave params line.typeIndex line.readEnableValue line.readEnableMask
  let ulRet ← cbMmioReadReg params line.typeIndex
  pure ((ulRet >>> line.readBitNum) &&& 1 = 1)

/-- `cbI2CModule_SetScl`. -/
def cbI2cModuleSetScl (lineLvl : Bool) : I2c Unit := setLine slave params params.cLine lineLvl

/-- `cbI2CModule_SetSda`. -/
def cbI2cModuleSetSda (lineLvl : Bool) : I2c Unit := setLine slave params params.dLine lineLvl

/-- `cbI2CModule_GetScl`. -/
def cbI2cModuleGetScl : I2c Bool := getLine slave params params.cLine

/-- `cbI2CModule_GetSda`. -/
def cbI2cModuleGetSda : I2c Bool := getLine slave params params.dLine

/-- The loops that raise the clock line, with the attempts that are left. -/
def waitSclHigh : Nat → I2c Bool
  | 0 => pure false
  | left + 1 => do
      cbI2cModuleSetScl slave params true
      cbDelayMicroSeconds slave
      if ← cbI2cModuleGetScl slave params then pure true else waitSclHigh left

/-- `cbI2CModule_Enable`. -/
def cbI2cModuleEnable : I2c Unit := do
  cbI2cModuleSetSda slave params true
  cbDelayMicroSeconds slave
  cbI2cModuleSetScl slave params true
  cbDelayMicroSeconds slave

/-- What `cbI2CModule_Disable` does to one line. -/
def disableLine (line : LineReg) : I2c Unit := do
  cbMmioWriteReg slave params line.typeIndex (~~~line.readEnableValue &&& ~~~line.readEnableMask)
    line.readEnableMask
  cbMmioWriteReg slave params line.typeIndex (~~~line.writeEnableValue &&& ~~~line.writeEnableMask)
    line.writeEnableMask

/-- `cbI2CModule_Disable`. -/
def cbI2cModuleDisable : I2c Unit := do
  disableLine slave params params.cLine
  disableLine slave params params.dLine

-----------------------------------------------------------------------------------------
-- Start and stop
-----------------------------------------------------------------------------------------

/-- The end of `cbI2CModule_Start`, once the lines have been looked at. -/
def startCondition : I2c Bool := do
  let bySCL ← cbI2cModuleGetScl slave params
  let bySDL ← cbI2cModuleGetSda slave params
  if bySCL && bySDL then
    cbI2cModuleSetSda slave params false
    cbDelayMicroSeconds slave
    cbI2cModuleSetScl slave params false
    cbDelayMicroSeconds slave
    pure true
  else pure false

/-- The clock that `cbI2CModule_Start` sends while the data line is low. -/
def clockSda : I2c Bool := do
  cbI2cModuleSetScl slave params false
  cbDelayMicroSeconds slave
  cbI2cModuleSetSda slave params true
  cbDelayMicroSeconds slave
  waitSclHigh slave params maxI2cWaitLoop

/-- A step that returns FALSE ends the function with FALSE. -/
def orFail (step rest : I2c Bool) : I2c Bool := do
  if ← step then rest else pure false

/-- `cbI2CModule_Start`. -/
def cbI2cModuleStart : I2c Bool := do
  let bySCL ← cbI2cModuleGetScl slave params
  orFail (if bySCL then pure true else waitSclHigh slave params maxI2cWaitLoop) do
    let bySDL ← cbI2cModuleGetSda slave params
    orFail (if bySDL then pure true else clockSda slave params) (startCondition slave params)

/-- `cbI2CModule_Stop`. -/
def cbI2cModuleStop : I2c Bool := do
  cbI2cModuleSetScl slave params false
  cbDelayMicroSeconds slave
  cbI2cModuleSetSda slave params false
  cbDelayMicroSeconds slave
  if ← waitSclHigh slave params maxI2cWaitLoop then
    cbI2cModuleSetSda slave params true
    cbDelayMicroSeconds slave
    pure true
  else pure true

-----------------------------------------------------------------------------------------
-- Bytes
-----------------------------------------------------------------------------------------

/-- The data line is released behind a byte. -/
def releaseSda : I2c Unit := do
  cbI2cModuleSetScl slave params false
  cbDelayMicroSeconds slave
  cbI2cModuleSetSda slave params true
  cbDelayMicroSeconds slave

/-- One round of the loop of `cbI2CModule_WriteByte`, up to the check of both lines. -/
def writeBit (value : Bool) : I2c Bool := do
  cbI2cModuleSetScl slave params false
  cbDelayMicroSeconds slave
  cbI2cModuleSetSda slave params value
  cbDelayMicroSeconds slave
  if ← waitSclHigh slave params maxI2cWaitLoop then
    let level ← cbI2cModuleGetSda slave params
    pure (level == value)
  else pure false

/-- The loop of `cbI2CModule_WriteByte`, with the bits that are left. -/
def writeBits (data : U8) : Nat → I2c Bool
  | 0 => pure true
  | i + 1 => do
      if ← writeBit slave params (data.getLsbD i) then
        if i = 0 then releaseSda slave params
        writeBits data i
      else pure false

/-- How `cbI2CModule_WriteByte` reads the acknowledgement. -/
def readAck : I2c Bool := do
  let up ← waitSclHigh slave params maxI2cWaitLoop
  let bRet ← if up then (! ·) <$> cbI2cModuleGetSda slave params else pure false
  releaseSda slave params
  pure bRet

/-- `cbI2CModule_WriteByte`. -/
def cbI2cModuleWriteByte (data : U8) (bReadAck : Bool) : I2c Bool :=
  orFail (writeBits slave params data 8) (if bReadAck then readAck slave params else pure true)

/-- The loop of `cbI2CModule_ReadByte`, with the number of bits that are left. -/
def readBits : Nat → U8 → I2c (Bool × U8)
  | 0, data => pure (true, data)
  | left + 1, data => do
      if ← waitSclHigh slave params maxI2cWaitLoop then
        let level ← cbI2cModuleGetSda slave params
        cbI2cModuleSetScl slave params false
        cbDelayMicroSeconds slave
        readBits left ((data <<< 1) + if level then 1 else 0)
      else pure (false, data)

/-- How `cbI2CModule_ReadByte` acknowledges or does not. -/
def writeAck (bWriteAck : Bool) : I2c Bool := do
  cbI2cModuleSetSda slave params (!bWriteAck)
  cbDelayMicroSeconds slave
  let bStatus ← waitSclHigh slave params maxI2cWaitLoop
  cbI2cModuleSetScl slave params false
  if bWriteAck then
    cbDelayMicroSeconds slave
    cbI2cModuleSetSda slave params true
  cbDelayMicroSeconds slave
  pure bStatus

/-- `cbI2CModule_ReadByte` with the byte that it stores. -/
def cbI2cModuleReadByte (bWriteAck bWriteNAck : Bool) : I2c (Bool × U8) := do
  let (bStatus, data) ← readBits slave params 8 0
  if bStatus && (bWriteAck || bWriteNAck) then
    let bStatus ← writeAck slave params bWriteAck
    pure (bStatus, data)
  else pure (bStatus, data)

-----------------------------------------------------------------------------------------
-- Transfers
-----------------------------------------------------------------------------------------

/-- `I2C_DDCCI_SLAVE_ADDR`. -/
def i2cDdcciSlaveAddr : U8 := 0x6E

/-- `I2C_EDID_SEGNUM_SLAVE_ADDR`. -/
def i2cEdidSegnumSlaveAddr : U8 := 0x60

/-- The offset is sent to this slave. -/
def hasOffset (slaveAddr : U8) : Bool :=
  slaveAddr ≠ i2cDdcciSlaveAddr ∧ slaveAddr ≠ i2cEdidSegnumSlaveAddr

/-- The loop of `cbI2CModule_WriteData`. -/
def writeBuffer : List U8 → I2c Bool
  | [] => pure true
  | data :: rest => orFail (cbI2cModuleWriteByte slave params data true) (writeBuffer rest)

/-- `cbI2CModule_WriteData` up to `exit`. -/
def writeTransfer (slaveAddr offSet : U8) (buffer : List U8) : I2c Bool :=
  orFail (cbI2cModuleStart slave params) <|
    orFail (cbI2cModuleWriteByte slave params slaveAddr true) <|
      orFail
        (if hasOffset slaveAddr then cbI2cModuleWriteByte slave params offSet true else pure true) <|
        orFail (writeBuffer slave params buffer)
          (if slaveAddr ≠ 0x60 then cbI2cModuleStop slave params else pure true)

/-- The loop of `cbI2CModule_ReadData` and the last byte, with the number of bytes before that and
the bytes that are stored.
-/
def readBuffer : Nat → I2c (Bool × List U8)
  | 0 => do
      let (bStatus, data) ← cbI2cModuleReadByte slave params false true
      pure (bStatus, [data])
  | left + 1 => do
      let (bStatus, data) ← cbI2cModuleReadByte slave params true false
      if bStatus then
        let (bStatus, rest) ← readBuffer left
        pure (bStatus, data :: rest)
      else pure (false, [data])

/-- `cbI2CModule_ReadData` up to the first byte that is read. -/
def readRequest (slaveAddr offSet : U8) : I2c Bool :=
  orFail
    (if hasOffset slaveAddr then
      orFail (cbI2cModuleStart slave params) <|
        orFail (cbI2cModuleWriteByte slave params slaveAddr true)
          (cbI2cModuleWriteByte slave params offSet true)
    else pure true) <|
    orFail (cbI2cModuleStart slave params)
      (cbI2cModuleWriteByte slave params (slaveAddr + 1) true)

/-- `cbI2CModule_ReadData` up to `exit`, with the bytes that are stored. -/
def readTransfer (slaveAddr offSet : U8) (bufferLen : U32) : I2c (Bool × List U8) := do
  if ← readRequest slave params slaveAddr offSet then
    let (bStatus, buffer) ← readBuffer slave params (bufferLen - 1).toNat
    if bStatus then
      let bStatus ← cbI2cModuleStop slave params
      pure (bStatus, buffer)
    else pure (false, buffer)
  else pure (false, [])

/-- The end of a transfer, from `exit` on. -/
def exitTransfer (bStatus : Bool) : I2c Unit := do
  if !bStatus then discard (cbI2cModuleStop slave params)
  cbI2cModuleDisable slave params

end Lines

variable (slave : Slave maxI2cWaitLoop)

/-- `cbI2CModule_WriteData`. -/
def cbI2cModuleWriteData (i2cBusNum slaveAddr offSet : U8) (buffer : List U8) : I2c Bool :=
  match cbI2cModuleGetI2cParams i2cBusNum with
  | some params => do
      cbI2cModuleEnable slave params
      let bStatus ← writeTransfer slave params slaveAddr offSet buffer
      exitTransfer slave params bStatus
      pure bStatus
  | none => pure false

/-- `cbI2CModule_ReadData` with the bytes that it stores in the buffer. -/
def cbI2cModuleReadData (i2cBusNum slaveAddr offSet : U8) (bufferLen : U32)
    : I2c (Bool × List U8) :=
  match cbI2cModuleGetI2cParams i2cBusNum with
  | some params => do
      cbI2cModuleEnable slave params
      let (bStatus, buffer) ← readTransfer slave params slaveAddr offSet bufferLen
      exitTransfer slave params bStatus
      pure (bStatus, buffer)
  | none => pure (false, [])

end Cx4Kernel.Cbios
