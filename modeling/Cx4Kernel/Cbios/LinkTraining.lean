import Cx4Kernel.Cbios.DpLinkPara

/-! The link training of `CBiosDIU_DP.c` by the hardware: `cbDIU_DP_LinkTrainingHw`, and
`cbDIU_DP_LT_With_DPCD115` for a sink with a table of link rates.
-/

namespace Cx4Kernel.Cbios

open Cx4Kernel.Foundation

-----------------------------------------------------------------------------------------
-- Registers
-----------------------------------------------------------------------------------------

namespace RegMm8214

def startLinkTraining : BitField := ⟨0, 1⟩
def startLinkRate0 : BitField := ⟨1, 1⟩
def maxVSwing : BitField := ⟨2, 2⟩
def maxPreEmphasis : BitField := ⟨4, 2⟩
def numOfLanes : BitField := ⟨7, 3⟩
def swLinkTrainEnable : BitField := ⟨10, 1⟩
def swLane0Swing : BitField := ⟨14, 2⟩
def swLane1Swing : BitField := ⟨18, 2⟩
def swLane2Swing : BitField := ⟨22, 2⟩
def swLane3Swing : BitField := ⟨26, 2⟩
def hwLinkTrainingDone : BitField := ⟨31, 1⟩

end RegMm8214

namespace RegMm334C8

def eqUseTp3 : BitField := ⟨4, 1⟩
def startLinkRate1 : BitField := ⟨5, 1⟩
def dpcd102B5 : BitField := ⟨8, 1⟩

end RegMm334C8

namespace RegMm334DC

def linkRateValue1 : BitField := ⟨0, 8⟩
def linkRateValue2 : BitField := ⟨8, 8⟩
def linkRateValue3 : BitField := ⟨16, 8⟩
def hwSetLinkPara : BitField := ⟨29, 1⟩
def linkRateUseDpcp115 : BitField := ⟨31, 1⟩

end RegMm334DC

namespace DpcdReg00101

def laneCountSet : BitField := ⟨0, 5⟩
def enhancedFrameEn : BitField := ⟨7, 1⟩

end DpcdReg00101

namespace DpcdReg0010A

def alternateScramberResetEnable : BitField := ⟨0, 1⟩
def framingChangeEnable : BitField := ⟨1, 1⟩

end DpcdReg0010A

def DpcdReg00115.linkRateSet : BitField := ⟨0, 3⟩

/-- A mask that leaves some fields free. -/
def freeFields (fields : List BitField) : U32 := fields.foldr freeField 0xFFFFFFFF

-----------------------------------------------------------------------------------------
-- The rates of the sink
-----------------------------------------------------------------------------------------

def dpMaxSupportedRatesNum : Nat := 8

def hwSupportedMaxLinkSpeedEntryNum : U32 := 3

/-- The table of link rates in `CBIOS_DP_MONITOR_CONTEXT`. -/
structure LinkRateSet where
  supportedLinkRates : Vector U32 dpMaxSupportedRatesNum
  supportedLinkRateNum : U32
  linkRateHwIndex : U32
  num_le : supportedLinkRateNum.toNat ≤ dpMaxSupportedRatesNum

def LinkRateSet.linkRate (rates : LinkRateSet) (entry : U32) : U32 :=
  rates.supportedLinkRates[entry.toNat]?.getD 0

/-- An entry of DPCD 10h. -/
def dpcdLinkRate (data : Nat → U8) (i : Nat) : U32 :=
  (data (2 * i + 1)).setWidth 32 <<< 8 ||| (data (2 * i)).setWidth 32

/-- The number of entries up to the first one that is zero. -/
def dpcdLinkRateNum (data : Nat → U8) : Nat :=
  ((List.range dpMaxSupportedRatesNum).takeWhile fun i => dpcdLinkRate data i ≠ 0).length

theorem dpcdLinkRateNum_le (data : Nat → U8) : dpcdLinkRateNum data ≤ dpMaxSupportedRatesNum := by
  have short : dpcdLinkRateNum data ≤ (List.range dpMaxSupportedRatesNum).length :=
    (List.takeWhile_sublist _).length_le
  rwa [List.length_range] at short

/-- The part of `cbDPMonitor_GetSinkCaps` for the link rates, after the bytes of DPCD 10h are read.
Also returns `bUseLinkRateSet`.
-/
def getSinkLinkRates (data : Nat → U8) (maxLinkRate : U8) (sinkMaxLinkSpeed : U32)
    : LinkRateSet × Bool :=
  let num := dpcdLinkRateNum data
  let rates : Vector U32 dpMaxSupportedRatesNum :=
    Vector.ofFn fun i => if i < num then dpcdLinkRate data i * 200 else 0
  if num ≠ 0 ∧ (maxLinkRate = 0 ∨ rates[num - 1]?.getD 0 < sinkMaxLinkSpeed) then
    ({ supportedLinkRates := rates
       supportedLinkRateNum := BitVec.ofNat 32 num
       linkRateHwIndex :=
         if BitVec.ofNat 32 num < hwSupportedMaxLinkSpeedEntryNum then BitVec.ofNat 32 num
         else hwSupportedMaxLinkSpeedEntryNum
       num_le := Nat.le_trans (Nat.mod_le _ _) (dpcdLinkRateNum_le data) }, true)
  else
    ({ supportedLinkRates := rates
       supportedLinkRateNum := 0
       linkRateHwIndex := 0
       num_le := Nat.zero_le _ }, false)

-----------------------------------------------------------------------------------------
-- Parameters, answers and results
-----------------------------------------------------------------------------------------

/-- `CBIOS_EDP_CP_METHOD`. -/
inductive EdpCpMethod where
  | disable
  | assr
  | af
deriving DecidableEq

/-- `CBIOS_LINK_TRAINING_PARAMS`, with the input parameters that choose what is programmed for the
link.
-/
structure LinkTrainingParams where
  maxLaneCount : U32
  maxLinkSpeed : U32
  enhancedMode : Bool
  enableTPS3 : Bool
  cpMethod : EdpCpMethod
  dpUsbMode : DpUsbMode
  lttprCount : U8
  currLaneCount : U32
  currLinkSpeed : U32

/-- What one poll of the hardware reads. -/
structure TrainingPoll where
  hwLinkTrainingDone : Bool
  mainLinkStatus : Nat

/-- The answers of the hardware and of the sink to one attempt: whether each write of the sink
succeeds, with several tries of the one to DPCD 100h, and the polls of the hardware.
-/
structure AttemptAnswers where
  dpcd100 : Nat → Bool
  dpcd115 : Bool
  dpcd10A : Bool
  polls : Nat → TrainingPoll
  dpcd102 : Bool

/-- The answers to one round: those to its attempts, and the bytes of DPCD 202h and 206h. -/
structure RoundAnswers where
  attempts : Nat → AttemptAnswers
  dpcd202 : Option (U8 × U8)
  dpcd206 : Option (U8 × U8)

/-- The answers to a training: whether the write of `PHY_REPEATER_MODE` succeeds, and the rounds. -/
structure TrainingAnswers where
  repeaterMode : Bool
  rounds : Nat → RoundAnswers

/-- A write of the sink that succeeds. -/
structure DpcdWrite where
  address : Nat
  data : List U8
deriving DecidableEq

inductive LtOutcome where
  | trained
  | notTrained
  | auxError
deriving DecidableEq

/-- One round, with what it writes to the sink. -/
structure LtRound where
  bitRateIndex : U32
  ulLaneNum : U32
  linkRateEntry : U32
  bitRate : U32
  writes : List DpcdWrite
deriving DecidableEq

/-- The state after a training, with its rounds. -/
structure LtRun where
  bStatus : Bool
  params : LinkTrainingParams
  rounds : List LtRound
  regs : Mmio

/-- The variants of the training. -/
inductive LtMethod where
  | hw
  | dpcd115 (rates : LinkRateSet)

/-- A training of a DP module. -/
structure LtCall where
  method : LtMethod
  module : Nat
  params : LinkTrainingParams
  ulMaxRetryCount : Nat

/-- The local variables of the loop that change from round to round. -/
structure LtCounters where
  ulLaneNum : U32
  bitRateIndex : U32
  linkRateEntry : U32
  bEqFallBack : Bool
  changeSwSwing : Bool
deriving DecidableEq

namespace LtCall

variable (call : LtCall)

-----------------------------------------------------------------------------------------
-- One attempt
-----------------------------------------------------------------------------------------

def tunneled : Bool := decide (call.params.dpUsbMode = .tunnel)

/-- The writes of the number of lanes and of `Start_Link_Rate`. -/
def programLink (counters : LtCounters) (regs : Mmio) : Mmio :=
  let value := RegMm8214.numOfLanes.put (0 : U32) counters.ulLaneNum.toNat
  let value := RegMm8214.maxVSwing.put value 3
  let value := RegMm8214.maxPreEmphasis.put value 2
  let value := RegMm8214.startLinkRate0.put value ((counters.bitRateIndex - 1) &&& 0x1).toNat
  let regs := regs.writeReg32 (DpReg.link.address call.module) value
    (freeFields [RegMm8214.numOfLanes, RegMm8214.hwLinkTrainingDone, RegMm8214.maxVSwing,
      RegMm8214.maxPreEmphasis, RegMm8214.swLinkTrainEnable, RegMm8214.swLane0Swing,
      RegMm8214.swLane1Swing, RegMm8214.swLane2Swing, RegMm8214.swLane3Swing,
      RegMm8214.startLinkRate0])
  let value := RegMm334C8.dpcd102B5.put (0 : U32) 1
  let value := RegMm334C8.eqUseTp3.put value (if call.params.enableTPS3 then 1 else 0)
  let value :=
    RegMm334C8.startLinkRate1.put value (((counters.bitRateIndex - 1) &&& 0x2) >>> 1).toNat
  regs.writeReg32 (DpReg.linkCtrl.address call.module) value
    (freeFields [RegMm334C8.dpcd102B5, RegMm334C8.eqUseTp3, RegMm334C8.startLinkRate1])

/-- The field for the entry of the rate with the index, which the last index does not have. -/
def linkRateValue (bitRateIndex : U32) : Option BitField :=
  if bitRateIndex = 3 then some RegMm334DC.linkRateValue3
  else if bitRateIndex = 2 then some RegMm334DC.linkRateValue2
  else if bitRateIndex = 1 then some RegMm334DC.linkRateValue1
  else none

/-- The write of `DP_REG_CTRL`. -/
def programCtrl (counters : LtCounters) (regs : Mmio) : Mmio :=
  match call.method with
  | .hw =>
    regs.writeReg32 (DpReg.ctrl.address call.module)
      (RegMm334DC.hwSetLinkPara.put (0 : U32) (if call.tunneled then 1 else 0))
      (freeFields [RegMm334DC.hwSetLinkPara])
  | .dpcd115 _ =>
    let value := RegMm334DC.linkRateUseDpcp115.put (0 : U32) 1
    let fields := [RegMm334DC.hwSetLinkPara, RegMm334DC.linkRateUseDpcp115]
    match linkRateValue counters.bitRateIndex with
    | some field =>
      regs.writeReg32 (DpReg.ctrl.address call.module)
        (field.put value counters.linkRateEntry.toNat) (freeFields (field :: fields))
    | none => regs.writeReg32 (DpReg.ctrl.address call.module) value (freeFields fields)

/-- `LINK_BW_SET` for a speed. -/
def linkBwSet (bitRate : U32) : U8 :=
  if bitRate = cbiosDpLinkSpeed8100Mbps then 0x1E
  else if bitRate = cbiosDpLinkSpeed5400Mbps then 0x14
  else if bitRate = cbiosDpLinkSpeed2700Mbps then 0xA
  else 0x6

/-- `DPCD_00101`. -/
def dpcd00101 (ulLaneNum : U32) : U8 :=
  let value := DpcdReg00101.laneCountSet.put (0 : U8) (ulLaneNum.setWidth 8).toNat
  if call.params.enhancedMode ∧ call.params.cpMethod ≠ .af then
    DpcdReg00101.enhancedFrameEn.put value 1
  else value

/-- The tries of the write to DPCD 100h. -/
def dpcd100Tries : Nat := if call.params.dpUsbMode = .altmode then 5 else 1

/-- The writes of the link parameters to the sink, or `none` for an AUX error before the training.
A write to DPCD 115h that fails is not one.
-/
def setLinkPara (counters : LtCounters) (bitRate : U32) (answers : AttemptAnswers)
    : Option (List DpcdWrite) :=
  match call.method with
  | .hw =>
    if call.tunneled then some []
    else if (List.range call.dpcd100Tries).any answers.dpcd100 then
      some [⟨0x100, [linkBwSet bitRate, call.dpcd00101 counters.ulLaneNum]⟩]
    else none
  | .dpcd115 _ =>
    if answers.dpcd100 0 then
      some (⟨0x100, [0, call.dpcd00101 counters.ulLaneNum]⟩
        :: if answers.dpcd115 then
          [⟨0x115, [DpcdReg00115.linkRateSet.put (0 : U8) (counters.linkRateEntry.setWidth 8).toNat]⟩]
        else [])
    else none

/-- The write of the content protection method to the sink. The reply is not checked when there is
none.
-/
def setCpMethod (answers : AttemptAnswers) : Option (List DpcdWrite) :=
  let value : U8 :=
    match call.params.cpMethod with
    | .assr => DpcdReg0010A.alternateScramberResetEnable.put 0 1
    | .af => DpcdReg0010A.framingChangeEnable.put 0 1
    | .disable => 0
  if answers.dpcd10A then some [⟨0x10A, [value]⟩]
  else if call.params.cpMethod = .disable then some []
  else none

/-- One of the polls reads that the training is done and the main link up. -/
def polled (polls : Nat → TrainingPoll) : Bool :=
  (List.range 601).any fun i => (polls i).hwLinkTrainingDone && (polls i).mainLinkStatus == 3

/-- The write that starts the training by the hardware, and the one that ends it. -/
def runHwTraining (regs : Mmio) : Mmio :=
  let regs := regs.writeReg32 (DpReg.link.address call.module)
    (RegMm8214.startLinkTraining.put (0 : U32) 1) (freeFields [RegMm8214.startLinkTraining])
  regs.writeReg32 (DpReg.link.address call.module) 0
    (freeFields [RegMm8214.startLinkTraining, RegMm8214.hwLinkTrainingDone])

/-- One pass of the retry loop. -/
def attempt (counters : LtCounters) (bitRate : U32) (answers : AttemptAnswers) (regs : Mmio)
    : LtOutcome × List DpcdWrite × Mmio :=
  let regs := call.programCtrl counters (call.programLink counters regs)
  match call.setLinkPara counters bitRate answers with
  | none => (.auxError, [], regs)
  | some linkWrites =>
    match call.setCpMethod answers with
    | none => (.auxError, linkWrites, regs)
    | some cpWrites =>
      let writes := linkWrites ++ cpWrites
      let regs := call.runHwTraining regs
      if polled answers.polls then (.trained, writes, regs)
      else if answers.dpcd102 then (.notTrained, writes ++ [⟨0x102, [0]⟩], regs)
      else (.auxError, writes, regs)

/-- The retry loop, with what is left of `ulMaxRetryCount`. -/
def retry (counters : LtCounters) (bitRate : U32) (answers : Nat → AttemptAnswers)
    : Nat → Nat → Mmio → LtOutcome × List DpcdWrite × Mmio
  | 0, _, regs => (.notTrained, [], regs)
  | left + 1, ulRetryCount, regs =>
    match call.attempt counters bitRate (answers ulRetryCount) regs with
    | (.notTrained, writes, regs) =>
      let (outcome, later, regs) := retry counters bitRate answers left (ulRetryCount + 1) regs
      (outcome, writes ++ later, regs)
    | ended => ended

-----------------------------------------------------------------------------------------
-- The fallback
-----------------------------------------------------------------------------------------

def maxBitRateIndex : U32 :=
  match call.method with
  | .hw =>
    if call.params.maxLinkSpeed = cbiosDpLinkSpeed8100Mbps then 4
    else if call.params.maxLinkSpeed = cbiosDpLinkSpeed5400Mbps then 3
    else if call.params.maxLinkSpeed = cbiosDpLinkSpeed2700Mbps then 2
    else 1
  | .dpcd115 rates => rates.linkRateHwIndex

/-- The last entry of the table. Without a table there is no entry. -/
def maxLinkRateEntry : U32 :=
  match call.method with
  | .hw => 0
  | .dpcd115 rates => rates.supportedLinkRateNum - 1

def bitRate (counters : LtCounters) : U32 :=
  match call.method with
  | .hw =>
    if counters.bitRateIndex = 4 then cbiosDpLinkSpeed8100Mbps
    else if counters.bitRateIndex = 3 then cbiosDpLinkSpeed5400Mbps
    else if counters.bitRateIndex = 2 then cbiosDpLinkSpeed2700Mbps
    else cbiosDpLinkSpeed1620Mbps
  | .dpcd115 rates => rates.linkRate counters.linkRateEntry

def word (data : U8 × U8) : U32 := data.2.setWidth 32 <<< 8 ||| data.1.setWidth 32

/-- The lanes of the sink report nothing. -/
def lanesAreZero (data : U8 × U8) : Bool :=
  decide (call.params.maxLaneCount = 4 ∧ word data = 0
    ∨ call.params.maxLaneCount = 2 ∧ data.1 = 0
    ∨ call.params.maxLaneCount = 1 ∧ data.1 &&& 0xF = 0)

/-- The status of the sink asks for fewer lanes first. -/
def eqFailed (answers : RoundAnswers) : Bool :=
  match answers.dpcd202 with
  | none => false
  | some data =>
    decide (call.params.maxLaneCount = 4 ∧ word data = 0x1177
      ∨ call.params.maxLaneCount = 2 ∧ data.1 = 0x17)

/-- The status of the sink asks for the other swing. -/
def swingFailed (answers : RoundAnswers) : Bool :=
  match answers.dpcd202 with
  | none => false
  | some data =>
    call.lanesAreZero data
      && match answers.dpcd206 with
        | none => false
        | some data => call.lanesAreZero data

/-- The index, and with a table also the entry, counts down. -/
def lowerRate (counters : LtCounters) : LtCounters :=
  match call.method with
  | .hw => { counters with bitRateIndex := counters.bitRateIndex - 1 }
  | .dpcd115 _ =>
    { counters with
      bitRateIndex := counters.bitRateIndex - 1
      linkRateEntry := counters.linkRateEntry - 1 }

/-- One step down, in the order that the flag selects. -/
def lower (counters : LtCounters) : LtCounters :=
  let ulLaneNum := counters.ulLaneNum >>> 1
  let lowered := call.lowerRate counters
  if counters.bEqFallBack then
    if ulLaneNum = 0 ∧ 0 < counters.bitRateIndex then
      if lowered.bitRateIndex = 0 then { lowered with ulLaneNum := 0, linkRateEntry := 0 }
      else { lowered with ulLaneNum := call.params.maxLaneCount }
    else { counters with ulLaneNum }
  else if lowered.bitRateIndex = 0 ∧ 0 < counters.ulLaneNum then
    if ulLaneNum = 0 then { lowered with ulLaneNum, bitRateIndex := 0, linkRateEntry := 0 }
    else
      { lowered with
        ulLaneNum
        bitRateIndex := call.maxBitRateIndex
        linkRateEntry := call.maxLinkRateEntry }
  else lowered

/-- The end of a round: the status is only looked at after the first pair. -/
def fallBack (counters : LtCounters) (answers : RoundAnswers) : LtCounters :=
  let atStart := counters.bitRateIndex = call.maxBitRateIndex
    ∧ counters.ulLaneNum = call.params.maxLaneCount
  let bEqFallBack := if atStart ∧ call.eqFailed answers then true else counters.bEqFallBack
  if atStart ∧ call.swingFailed answers ∧ counters.changeSwSwing = false then
    { counters with bEqFallBack, changeSwSwing := true }
  else call.lower { counters with bEqFallBack, changeSwSwing := false }

-----------------------------------------------------------------------------------------
-- The training
-----------------------------------------------------------------------------------------

/-- The loop over lanes and rates, with the rounds that it makes, or `none` without fuel. -/
def rounds (answers : Nat → RoundAnswers)
    : Nat → Nat → LtCounters → Mmio → Option (LtOutcome × List LtRound × Mmio)
  | 0, _, _, _ => none
  | fuel + 1, turn, counters, regs =>
    if 0 < counters.ulLaneNum ∧ 0 < counters.bitRateIndex then
      let bitRate := call.bitRate counters
      let (outcome, writes, regs) :=
        call.retry counters bitRate (answers turn).attempts call.ulMaxRetryCount 0 regs
      let round : LtRound :=
        { bitRateIndex := counters.bitRateIndex, ulLaneNum := counters.ulLaneNum
          linkRateEntry := counters.linkRateEntry, bitRate, writes }
      match outcome with
      | .notTrained => do
        let (outcome, later, regs) ←
          rounds answers fuel (turn + 1) (call.fallBack counters (answers turn)) regs
        some (outcome, round :: later, regs)
      | ended => some (ended, [round], regs)
    else some (.notTrained, [], regs)

def start : LtCounters where
  ulLaneNum := call.params.maxLaneCount
  bitRateIndex := call.maxBitRateIndex
  linkRateEntry := call.maxLinkRateEntry
  bEqFallBack := false
  changeSwSwing := false

/-- The result of `cbDIU_DP_LT_SetTunnelPara`, which only the training without a table calls. -/
def tunnelParaSet (repeaterMode : Bool) : Bool :=
  match call.method with
  | .hw => !call.tunneled || call.params.lttprCount == 0 || repeaterMode
  | .dpcd115 _ => true

/-- The end of the training, where `BitRate` and `ulLaneNum` are those of the last round. -/
def finish (outcome : LtOutcome) (rounds : List LtRound) (regs : Mmio) : LtRun :=
  match outcome, rounds.getLast? with
  | .trained, some last =>
    let params :=
      { call.params with currLinkSpeed := last.bitRate, currLaneCount := last.ulLaneNum }
    ⟨true, params, rounds, regs⟩
  | _, _ => ⟨false, call.params, rounds, regs⟩

/-- A training whose module has a device. -/
def train (answers : TrainingAnswers) (fuel : Nat) (regs : Mmio) : Option LtRun :=
  if call.tunnelParaSet answers.repeaterMode then do
    let (outcome, rounds, regs) ← call.rounds answers.rounds fuel 0 call.start regs
    some (call.finish outcome rounds regs)
  else some ⟨false, call.params, [], regs⟩

end LtCall

/-- Both trainings, for the device of the module with its `bRunCTS`, if there is one. -/
def linkTraining (method : LtMethod) (device : Nat → Option Bool) (module : Nat)
    (params : LinkTrainingParams) (answers : TrainingAnswers) (fuel : Nat) (regs : Mmio)
    : Option LtRun :=
  if 4 ≤ module then some ⟨false, params, [], regs⟩
  else
    match device module with
    | none => some ⟨false, params, [], regs⟩
    | some bRunCts =>
      LtCall.train ⟨method, module, params, if bRunCts then 1 else 3⟩ answers fuel regs

/-- `cbDIU_DP_LinkTrainingHw`. -/
def cbDiuDpLinkTrainingHw : (device : Nat → Option Bool) → (module : Nat) → LinkTrainingParams
    → TrainingAnswers → (fuel : Nat) → Mmio → Option LtRun :=
  linkTraining .hw

/-- `cbDIU_DP_LT_With_DPCD115`. -/
def cbDiuDpLtWithDpcd115 (rates : LinkRateSet) : (device : Nat → Option Bool) → (module : Nat)
    → LinkTrainingParams → TrainingAnswers → (fuel : Nat) → Mmio → Option LtRun :=
  linkTraining (.dpcd115 rates)

end Cx4Kernel.Cbios
