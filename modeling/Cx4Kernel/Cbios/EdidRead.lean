import Cx4Kernel.Foundation.MachineInt

/-! Reading the EDID of a monitor and the signature of a device, in `CBiosDeviceShare.c`, with
the helpers of `CBiosEDID.c` that they use.
-/

namespace Cx4Kernel.Cbios

-----------------------------------------------------------------------------------------
-- Bytes
-----------------------------------------------------------------------------------------

/-- `EDID_BLK_SIZE`. -/
def edidBlkSize : Nat := 128

/-- What a monitor serves, by segment and offset in it as one address. -/
abbrev Monitor := Nat → U8

/-- Bytes that lie together. -/
def Monitor.bytes (monitor : Monitor) (start size : Nat) : List U8 :=
  (List.range size).map fun i => monitor (start + i)

/-- The sum that the checksum loops build up. -/
def checksum (bytes : List U8) : U8 := bytes.foldl (· + ·) 0

/-- `cbIsEdidChecksumValid`: the running sum is 0 at the end of each block. -/
def cbIsEdidChecksumValid (pEdid : List U8) : Bool :=
  decide (pEdid.length ≠ 0 ∧ pEdid.length % edidBlkSize = 0)
    && (List.range (pEdid.length / edidBlkSize)).all fun k =>
      checksum (pEdid.take (edidBlkSize * (k + 1))) = 0

/-- `cbFixEdidChecksum` for one block, the length of its only use. -/
def cbFixEdidChecksum (pEdidData : List U8) : List U8 :=
  pEdidData.take (edidBlkSize - 1) ++ [~~~checksum (pEdidData.take (edidBlkSize - 1)) + 1]

/-- `EDID1header`. -/
def edid1header : List U8 := [0x00, 0xff, 0xff, 0xff, 0xff, 0xff, 0xff, 0x00]

/-- `cbEDIDModule_IsEDIDHeaderValid`. Without a buffer there are no bytes. -/
def cbEdidModuleIsEdidHeaderValid (pEdidBuffer : List U8) : Bool :=
  pEdidBuffer.take edid1header.length = edid1header

/-- `cbEDIDModule_IsEDIDValid`. -/
def cbEdidModuleIsEdidValid (pEdidData : List U8) : Bool :=
  cbEdidModuleIsEdidHeaderValid pEdidData && cbIsEdidChecksumValid pEdidData

/-- The three bytes announce an `HF_EDID_EXTENSION_OVERRIDE_DATA_BLOCK`. -/
def isEeodb (tag extendedTag : U8) : Bool := tag >>> 5 = 7 ∧ extendedTag = 0x78

/-- `cbEDIDModule_GetExtBlockNum`. -/
def cbEdidModuleGetExtBlockNum (pEdid : List U8) : Nat :=
  if pEdid.getD 0x7E 0 = 0 then 0
  else if isEeodb (pEdid.getD 0x84 0) (pEdid.getD 0x85 0) then (pEdid.getD 0x86 0).toNat
  else (pEdid.getD 0x7E 0).toNat

-----------------------------------------------------------------------------------------
-- One read
-----------------------------------------------------------------------------------------

/-- One transfer over the I2C bus or the AUX channel, with the segment number written before it.
A transfer that fails may have changed the buffer.
-/
inductive Transfer where
  | done
  | failed (left : List U8)
  | hdcpUsingI2c
deriving DecidableEq

/-- The transfers that one read makes. -/
abbrev Attempts := Nat → Transfer

/-- `CBIOS_OK`, `CBIOS_ER_INTERNAL` and `CBIOS_ER_HDCP_USING_I2C`. -/
inductive CbiosStatus where
  | ok
  | erInternal
  | erHdcpUsingI2c
deriving DecidableEq

/-- Where reads go: how the device is connected, what `pDevCommon->EdidData` holds, and the
monitor.
-/
structure EdidSource where
  dpMode : Bool
  edidData : List U8
  monitor : Monitor

namespace EdidSource

variable (source : EdidSource)

/-- The read is of whole blocks. -/
def aligned (offset size : Nat) : Bool := size % edidBlkSize = 0 ∧ offset % edidBlkSize = 0

/-- The loop of `cbI2cNormal_ReadEDID` with `tries` left. -/
def i2cNormalTries (attempts : Attempts) (offset size seg : Nat)
    : (tries : Nat) → (j : Nat) → List U8 → CbiosStatus × List U8
  | 0, _, edidData => (.erInternal, edidData)
  | tries + 1, j, edidData =>
      match attempts j with
      | .done =>
          let edidData := source.monitor.bytes (seg * 256 + offset) size
          if aligned offset size ∧ ¬ cbIsEdidChecksumValid edidData then
            i2cNormalTries attempts offset size seg tries (j + 1) edidData
          else (.ok, edidData)
      | .failed left => (.erInternal, left)
      | .hdcpUsingI2c => (.erHdcpUsingI2c, edidData)

/-- `cbI2cNormal_ReadEDID`, with the contents of the buffer before and after. -/
def cbI2cNormalReadEdid (attempts : Attempts) (edidData : List U8) (offset size seg : Nat)
    : CbiosStatus × List U8 :=
  source.i2cNormalTries attempts offset size seg 3 0 edidData

/-- `cbI2cOverAux_ReadEDID`, which knows nothing of HDCP. -/
def cbI2cOverAuxReadEdid (attempts : Attempts) (edidData : List U8) (offset size seg : Nat)
    : Bool × List U8 :=
  match attempts 0 with
  | .done =>
      let edidData := source.monitor.bytes (seg * 256 + offset) size
      (¬ (aligned offset size ∧ ¬ cbIsEdidChecksumValid edidData), edidData)
  | .failed left => (false, left)
  | .hdcpUsingI2c => (false, edidData)

/-- `cbGetEdidPerSeg`. -/
def cbGetEdidPerSeg (attempts : Attempts) (edidData : List U8) (offset size seg : Nat)
    : Bool × List U8 :=
  if source.dpMode then source.cbI2cOverAuxReadEdid attempts edidData offset size seg
  else
    let (status, edidData) := source.cbI2cNormalReadEdid attempts edidData offset size seg
    if status = .erHdcpUsingI2c ∧ cbEdidModuleIsEdidHeaderValid source.edidData
        ∧ seg * 256 + offset + size ≤ source.edidData.length then
      (true, (source.edidData.drop (seg * 256 + offset)).take size)
    else (status = .ok, edidData)

-----------------------------------------------------------------------------------------
-- Reads one after the other
-----------------------------------------------------------------------------------------

/-- The reads that are still to come. -/
abbrev Line := Nat → Attempts

/-- Reads that fail when one of them does. -/
abbrev Reader := OptionT (StateM Line)

/-- `cbGetEdidPerSeg` into a buffer whose contents do not matter if it fails. -/
def readPerSeg (offset size seg : Nat) : Reader (List U8) := OptionT.mk fun line =>
  let (read, edidData) :=
    source.cbGetEdidPerSeg (line 0) (List.replicate size 0) offset size seg
  (if read then some edidData else none, fun n => line (n + 1))

/-- `cbGetExtBlockNum`, for callers that do not use the number when it fails. -/
def cbGetExtBlockNum : Reader Nat := do
  let extFlag ← source.readPerSeg 0x7E 1 0
  if extFlag.getD 0 0 = 0 then return 0
  else
    let eeodb ← source.readPerSeg 0x84 3 0
    if isEeodb (eeodb.getD 0 0) (eeodb.getD 1 0) then return (eeodb.getD 2 0).toNat
    else return (extFlag.getD 0 0).toNat

/-- The loop of `cbGetEdidBytes`, each of whose rounds reads at least one byte. -/
def readSegments : (rounds : Nat) → (offset size : Nat) → Reader (List U8)
  | 0, _, _ => return []
  | rounds + 1, offset, size =>
      if size = 0 then return []
      else do
        let onceSize := min (256 - offset % 256) size
        let bytes ← source.readPerSeg (offset % 256) onceSize (offset / 256 % 256)
        let rest ← readSegments rounds (offset + onceSize) (size - onceSize)
        return bytes ++ rest

/-- `cbGetEdidBytes`. -/
def cbGetEdidBytes (offset size : Nat) : Reader (List U8) :=
  let toBlockIdx :=
    (offset + size) / edidBlkSize + if (offset + size) % edidBlkSize ≠ 0 then 1 else 0
  if size = 0 then failure
  else if 1 < toBlockIdx then do
    let extsNum ← source.cbGetExtBlockNum
    if extsNum + 1 < toBlockIdx then failure else source.readSegments size offset size
  else source.readSegments size offset size

end EdidSource

-----------------------------------------------------------------------------------------
-- Signatures
-----------------------------------------------------------------------------------------

/-- `CBIOS_DEVICE_SIGNATURE`. -/
structure DeviceSignature where
  monitorId : List U8
  /-- the bytes 126 and 127 of the first eight blocks -/
  extFlagChecksum : List (List U8)
deriving DecidableEq

/-- `CBIOS_EDID_MAX_BLK_CNT`. -/
def edidMaxBlkCnt : Nat := 8

/-- A signature of zeros. -/
def DeviceSignature.zero : DeviceSignature :=
  ⟨List.replicate 4 0, List.replicate edidMaxBlkCnt [0, 0]⟩

/-- `cbGetDeviceSignatureFromEdid`. -/
def cbGetDeviceSignatureFromEdid (edidData : List U8) : DeviceSignature where
  monitorId := (edidData.drop 8).take 4
  extFlagChecksum :=
    (List.range edidMaxBlkCnt).map fun i =>
      if i < min (edidData.length / edidBlkSize) edidMaxBlkCnt then
        (edidData.drop (i * edidBlkSize + 126)).take 2
      else [0, 0]

namespace EdidSource

variable (source : EdidSource)

/-- The loop of `cbGetDeviceSignature` over `count` extension blocks. -/
def readExtFlagChecksum : (count i : Nat) → Reader (List (List U8))
  | 0, _ => return []
  | count + 1, i => do
      let bytes ← source.cbGetEdidBytes (edidBlkSize * i + 126) 2
      let rest ← readExtFlagChecksum count (i + 1)
      return bytes :: rest

/-- `cbGetDeviceSignature`. -/
def cbGetDeviceSignature : Reader DeviceSignature := do
  let monitorId ← source.cbGetEdidBytes 8 4
  let base ← source.cbGetEdidBytes 126 2
  let extBlockNum ← source.cbGetExtBlockNum
  let count := min edidMaxBlkCnt (extBlockNum + 1) - 1
  let rest ← source.readExtFlagChecksum count 1
  let absent := List.replicate (edidMaxBlkCnt - (count + 1)) [0, 0]
  return ⟨monitorId, (base :: rest) ++ absent⟩

end EdidSource

-----------------------------------------------------------------------------------------
-- The full EDID
-----------------------------------------------------------------------------------------

/-- The buffers that were allocated, with how often each was freed. -/
structure Pool where
  freed : List Nat

/-- `cb_AllocateNonpagedPool`, when it succeeds. -/
def Pool.allocate (pool : Pool) : Nat × Pool := (pool.freed.length, ⟨pool.freed ++ [0]⟩)

/-- `cb_FreePool`. -/
def Pool.free (pool : Pool) (buffer : Nat) : Pool := ⟨pool.freed.modify buffer (· + 1)⟩

/-- The state of the loop of `cbGetFullEdid`, with the blocks that have been read. -/
structure FullEdidRead where
  buffer : Nat
  blocks : List U8
  edidSize : Nat
  extsNum : Nat
  pool : Pool

/-- The base block as it is kept: one with a damaged checksum is repaired if the header and the
pixel clock of the first timing look right.
-/
def keptBaseBlock (read : Bool) (edidData : List U8) : Option (List U8) :=
  let dclk := (edidData.getD 0x37 0).toNat <<< 8 ||| (edidData.getD 0x36 0).toNat
  if read then some edidData
  else if cbEdidModuleIsEdidHeaderValid edidData ∧ ¬ cbIsEdidChecksumValid edidData
      ∧ 0 < dclk then
    some (cbFixEdidChecksum edidData)
  else none

/-- A larger buffer if the extension blocks need it. -/
def FullEdidRead.grow (state : FullEdidRead) (allocated : Bool) : Except FullEdidRead FullEdidRead :=
  if state.edidSize < (state.extsNum + 1) * edidBlkSize then
    if allocated then
      let (tmpBuffer, pool) := state.pool.allocate
      .ok
        { state with
          buffer := tmpBuffer
          edidSize := (state.extsNum + 1) * edidBlkSize
          pool := pool.free state.buffer }
    else .error state
  else .ok state

namespace EdidSource

variable (source : EdidSource)

/-- The loop of `cbGetFullEdid`, one block a round. The numbers of blocks are bytes, so 256 rounds
are enough. It leaves by an error when the base block cannot be read or memory runs out.
-/
def fullEdidLoop (line : Line) (allocated : Nat → Bool)
    : (rounds : Nat) → (blkIndex : Nat) → FullEdidRead → Except FullEdidRead FullEdidRead
  | 0, _, state => .ok state
  | rounds + 1, blkIndex, state =>
      if blkIndex < state.edidSize / edidBlkSize then
        let (read, buffer) :=
          source.cbGetEdidPerSeg (line blkIndex) (List.replicate edidBlkSize 0)
            (blkIndex * edidBlkSize % 256) edidBlkSize (blkIndex * edidBlkSize / 256 % 256)
        let kept :=
          if blkIndex = 0 then keptBaseBlock read buffer
          else some (if read then buffer else List.replicate edidBlkSize 0)
        match kept with
        | none => .error state
        | some block =>
            -- The override is looked up before a block that could not be read is cleared.
            let extsNum :=
              if blkIndex = 0 then (block.getD 0x7E 0).toNat
              else if blkIndex = 1 then cbEdidModuleGetExtBlockNum (state.blocks ++ buffer)
              else state.extsNum
            match FullEdidRead.grow
                { state with blocks := state.blocks ++ block, extsNum } (allocated blkIndex) with
            | .error state => .error state
            | .ok state => fullEdidLoop line allocated rounds (blkIndex + 1) state
      else .ok state

end EdidSource

/-- `CBIOS_EDID_DATA`: a buffer, or none, and its bytes. -/
structure EdidData where
  buffer : Option Nat
  bytes : List U8

/-- No buffer. -/
def EdidData.null : EdidData := ⟨none, []⟩

/-- `cbGetFullEdid`. `allocated` says which allocations succeed, the first one at `none`. -/
def EdidSource.cbGetFullEdid (source : EdidSource) (line : EdidSource.Line)
    (allocated : Option Nat → Bool) (pool : Pool) : EdidData × Pool :=
  if allocated none then
    let (buffer, pool) := pool.allocate
    match source.fullEdidLoop line (allocated ∘ some) 256 0 ⟨buffer, [], edidBlkSize, 0, pool⟩ with
    | .ok state => (⟨some state.buffer, state.blocks⟩, state.pool)
    | .error state => (.null, state.pool.free state.buffer)
  else (.null, pool)

end Cx4Kernel.Cbios
