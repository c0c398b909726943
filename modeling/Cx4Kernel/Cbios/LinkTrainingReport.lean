import Cx4Kernel.Cbios.LinkTrainingPlan

/-! What a link training leaves in the registers and in the sink, and when that is what it reports.
-/

namespace Cx4Kernel.Cbios

open Cx4Kernel.Foundation

-----------------------------------------------------------------------------------------
-- Bytes of the sink
-----------------------------------------------------------------------------------------

def DpcdWrite.byte? (write : DpcdWrite) (address : Nat) : Option U8 :=
  if write.address ≤ address then write.data[address - write.address]? else none

/-- The byte that the last of the writes to an address leaves there. -/
def dpcdByte (writes : List DpcdWrite) (address : Nat) : Option U8 :=
  writes.reverse.findSome? (·.byte? address)

theorem dpcdByte_append (first later : List DpcdWrite) (address : Nat)
    : dpcdByte (first ++ later) address = (dpcdByte later address).or (dpcdByte first address) := by
  rw [dpcdByte, List.reverse_append, List.findSome?_append]
  rfl

/-- The addresses of the link parameters. -/
def linkAddresses : List Nat := [0x100, 0x101, 0x115]

namespace LtCall

variable (call : LtCall)

-----------------------------------------------------------------------------------------
-- What the source and the sink have
-----------------------------------------------------------------------------------------

/-- `Start_Link_Rate`. -/
def startLinkRate (regs : Mmio) : Nat :=
  RegMm8214.startLinkRate0.get (regs.u32 (DpReg.link.address call.module))
    + 2 * RegMm334C8.startLinkRate1.get (regs.u32 (DpReg.linkCtrl.address call.module))

/-- The speed for `Start_Link_Rate`. -/
def startLinkSpeed (startLinkRate : Nat) : U32 :=
  match startLinkRate with
  | 3 => cbiosDpLinkSpeed8100Mbps
  | 2 => cbiosDpLinkSpeed5400Mbps
  | 1 => cbiosDpLinkSpeed2700Mbps
  | _ => cbiosDpLinkSpeed1620Mbps

/-- The registers have the rate and the number of lanes of a round. -/
def SourceHas (round : LtRound) (regs : Mmio) : Prop :=
  RegMm8214.numOfLanes.get (regs.u32 (DpReg.link.address call.module)) = round.ulLaneNum.toNat
  ∧ call.startLinkRate regs + 1 = round.bitRateIndex.toNat
  ∧ match call.method with
    | .hw => startLinkSpeed (call.startLinkRate regs) = round.bitRate
    | .dpcd115 rates =>
      RegMm334DC.linkRateUseDpcp115.get (regs.u32 (DpReg.ctrl.address call.module)) = 1
      ∧ (∃ field, linkRateValue round.bitRateIndex = some field
        ∧ field.get (regs.u32 (DpReg.ctrl.address call.module)) = round.linkRateEntry.toNat)
      ∧ rates.linkRate round.linkRateEntry = round.bitRate

/-- The sink has taken the rate and the number of lanes in a round, or the hardware writes them. -/
def SinkHas (round : LtRound) (regs : Mmio) : Prop :=
  match call.method with
  | .hw =>
    if call.tunneled then
      RegMm334DC.hwSetLinkPara.get (regs.u32 (DpReg.ctrl.address call.module)) = 1
    else
      ∃ speed lanes, dpcdByte round.writes 0x100 = some speed ∧ dpcdLinkSpeed speed = round.bitRate
        ∧ dpcdByte round.writes 0x101 = some lanes
        ∧ DpcdReg00101.laneCountSet.get lanes = round.ulLaneNum.toNat
  | .dpcd115 _ =>
    ∃ lanes entry, dpcdByte round.writes 0x100 = some 0
      ∧ dpcdByte round.writes 0x101 = some lanes
      ∧ DpcdReg00101.laneCountSet.get lanes = round.ulLaneNum.toNat
      ∧ dpcdByte round.writes 0x115 = some entry
      ∧ DpcdReg00115.linkRateSet.get entry = round.linkRateEntry.toNat

/-- The sink takes the entry of the rate in one of the attempts. -/
def entryTaken (answers : Nat → AttemptAnswers) : Nat → Nat → Bool
  | 0, _ => false
  | tries + 1, first =>
    (answers first).dpcd115
      || decide (call.attemptOutcome (answers first) = .notTrained)
        && entryTaken answers tries (first + 1)

/-- The registers have room for the pair, and the sink takes the entry of the rate. -/
def Carried (pair : Nat × Nat) (answers : RoundAnswers) : Prop :=
  pair.2 < 8
  ∧ match call.method with
    | .hw => True
    | .dpcd115 _ =>
      pair.1 ≤ 3 ∧ call.entryTaken answers.attempts call.ulMaxRetryCount 0 = true

-----------------------------------------------------------------------------------------
-- Attempts
-----------------------------------------------------------------------------------------

variable {call} {counters : LtCounters} {bitRate : U32}

/-- The registers after an attempt without an AUX error. -/
def programmed (call : LtCall) (counters : LtCounters) (regs : Mmio) : Mmio :=
  call.runHwTraining (call.programCtrl counters (call.programLink counters regs))

/-- The writes of the link parameters without an AUX error, with or without the entry of the rate. -/
def linkWrites (call : LtCall) (counters : LtCounters) (bitRate : U32) (taken : Bool)
    : List DpcdWrite :=
  match call.method with
  | .hw =>
    if call.tunneled then []
    else [⟨0x100, [linkBwSet bitRate, call.dpcd00101 counters.ulLaneNum]⟩]
  | .dpcd115 _ =>
    ⟨0x100, [0, call.dpcd00101 counters.ulLaneNum]⟩
      :: if taken then
        [⟨0x115, [DpcdReg00115.linkRateSet.put (0 : U8) (counters.linkRateEntry.setWidth 8).toNat]⟩]
      else []

theorem setLinkPara_eq {answers : AttemptAnswers} {writes : List DpcdWrite}
    (taken : call.setLinkPara counters bitRate answers = some writes)
    : writes = call.linkWrites counters bitRate answers.dpcd115 := by
  unfold setLinkPara at taken
  unfold linkWrites
  cases method : call.method with
  | hw =>
    simp only [method] at taken ⊢
    split_ifs at taken ⊢
    all_goals cases taken
    all_goals rfl
  | dpcd115 rates =>
    simp only [method] at taken ⊢
    split at taken
    · cases taken
      rfl
    · cases taken

/-- The entry is there once one attempt has written it. -/
theorem dpcdByte_linkWrites_or (first later : Bool) {address : Nat}
    (linkAddress : address ∈ linkAddresses)
    : (dpcdByte (call.linkWrites counters bitRate later) address).or
        (dpcdByte (call.linkWrites counters bitRate first) address)
      = dpcdByte (call.linkWrites counters bitRate (first || later)) address := by
  simp only [linkAddresses, List.mem_cons, List.not_mem_nil, or_false] at linkAddress
  unfold linkWrites
  cases call.method with
  | hw => cases call.tunneled <;> rcases linkAddress with rfl | rfl | rfl <;> rfl
  | dpcd115 rates =>
    cases first <;> cases later <;> rcases linkAddress with rfl | rfl | rfl <;> rfl

theorem dpcdByte_setCpMethod {answers : AttemptAnswers} {cpWrites : List DpcdWrite}
    (taken : call.setCpMethod answers = some cpWrites) {address : Nat}
    (linkAddress : address ∈ linkAddresses)
    : dpcdByte cpWrites address = none := by
  rw [setCpMethod] at taken
  have apart (value : U8) : dpcdByte [⟨0x10A, [value]⟩] address = none := by
    simp only [linkAddresses, List.mem_cons, List.not_mem_nil, or_false] at linkAddress
    rcases linkAddress with rfl | rfl | rfl <;> rfl
  split at taken
  · cases taken
    exact apart _
  · split at taken
    · cases taken
      rfl
    · cases taken

/-- What an attempt without an AUX error leaves. -/
theorem attempt_spec (counters : LtCounters) (bitRate : U32) (answers : AttemptAnswers) (regs : Mmio)
    (answered : (call.attempt counters bitRate answers regs).1 ≠ .auxError)
    : (call.attempt counters bitRate answers regs).2.2 = call.programmed counters regs
      ∧ ∀ address ∈ linkAddresses,
        dpcdByte (call.attempt counters bitRate answers regs).2.1 address
          = dpcdByte (call.linkWrites counters bitRate answers.dpcd115) address := by
  rw [attempt] at answered ⊢
  cases link : call.setLinkPara counters bitRate answers with
  | none =>
    simp only [link] at answered
    exact absurd rfl answered
  | some linkWrites =>
    cases cp : call.setCpMethod answers with
    | none =>
      simp only [link, cp] at answered
      exact absurd rfl answered
    | some cpWrites =>
      simp only [link, cp] at answered ⊢
      have bytes (address : Nat) (linkAddress : address ∈ linkAddresses)
          : dpcdByte (linkWrites ++ cpWrites) address
            = dpcdByte (call.linkWrites counters bitRate answers.dpcd115) address := by
        rw [dpcdByte_append, dpcdByte_setCpMethod cp linkAddress, setLinkPara_eq link]
        rfl
      have cleared (address : Nat) (linkAddress : address ∈ linkAddresses)
          : dpcdByte [⟨0x102, [0]⟩] address = none := by
        simp only [linkAddresses, List.mem_cons, List.not_mem_nil, or_false] at linkAddress
        rcases linkAddress with rfl | rfl | rfl <;> rfl
      split_ifs at answered ⊢
      · exact ⟨rfl, bytes⟩
      · refine ⟨rfl, fun address linkAddress => ?_⟩
        rw [dpcdByte_append, cleared address linkAddress, bytes address linkAddress]
        rfl
      · exact absurd rfl answered

/-- What a round that trains the link leaves. -/
theorem retry_spec (counters : LtCounters) (bitRate : U32) (answers : Nat → AttemptAnswers)
    (tries first : Nat) (regs : Mmio)
    (trained : (call.retry counters bitRate answers tries first regs).1 = .trained)
    : (∃ before, (call.retry counters bitRate answers tries first regs).2.2
        = call.programmed counters before)
      ∧ ∀ address ∈ linkAddresses,
        dpcdByte (call.retry counters bitRate answers tries first regs).2.1 address
          = dpcdByte (call.linkWrites counters bitRate (call.entryTaken answers tries first))
              address := by
  induction tries generalizing first regs with
  | zero => cases trained
  | succ tries ih =>
    have spec := call.attempt_spec counters bitRate (answers first) regs
    have same := call.attempt_outcome counters bitRate (answers first) regs
    rw [retry] at trained ⊢
    rw [entryTaken, ← same]
    generalize call.attempt counters bitRate (answers first) regs = made at spec trained ⊢
    obtain ⟨outcome, writes, after⟩ := made
    cases outcome with
    | notTrained =>
      obtain ⟨before, bytes⟩ := ih (first + 1) after trained
      obtain ⟨-, here⟩ := spec (by simp)
      refine ⟨before, fun address linkAddress => ?_⟩
      rw [dpcdByte_append, bytes address linkAddress, here address linkAddress,
        dpcdByte_linkWrites_or _ _ linkAddress]
      rfl
    | trained =>
      obtain ⟨left, here⟩ := spec (by simp)
      refine ⟨⟨regs, left⟩, fun address linkAddress => ?_⟩
      simp only [reduceCtorEq, decide_false, Bool.false_and, Bool.or_false]
      exact here address linkAddress
    | auxError => cases trained

-----------------------------------------------------------------------------------------
-- Registers
-----------------------------------------------------------------------------------------

variable {regs : Mmio}

/-- The run of the hardware keeps the fields that are programmed. -/
theorem get_runHwTraining {field : BitField} (other : field.get (freeFields
      [RegMm8214.startLinkTraining, RegMm8214.hwLinkTrainingDone]) = 2 ^ field.width - 1)
    (other' : field.get (freeFields [RegMm8214.startLinkTraining]) = 2 ^ field.width - 1)
    : field.get ((call.runHwTraining regs).u32 (DpReg.link.address call.module))
      = field.get (regs.u32 (DpReg.link.address call.module)) := by
  simp only [runHwTraining, Mmio.u32_writeReg32, if_true]
  rw [field.get_writeMasked_kept _ _ other, field.get_writeMasked_kept _ _ other']

theorem u32_programmed_link (module : call.module < 4) {field : BitField}
    (other : field.get (freeFields
      [RegMm8214.startLinkTraining, RegMm8214.hwLinkTrainingDone]) = 2 ^ field.width - 1)
    (other' : field.get (freeFields [RegMm8214.startLinkTraining]) = 2 ^ field.width - 1)
    : field.get ((call.programmed counters regs).u32 (DpReg.link.address call.module))
      = field.get ((call.programLink counters regs).u32 (DpReg.link.address call.module)) := by
  rw [programmed, get_runHwTraining other other', programCtrl]
  split
  · simp only [Mmio.u32_writeReg32, DpReg.address_inj module, reduceCtorEq, if_false]
  · dsimp only
    split <;>
      simp only [Mmio.u32_writeReg32, DpReg.address_inj module, reduceCtorEq, if_false]

theorem u32_programmed_linkCtrl (module : call.module < 4)
    : (call.programmed counters regs).u32 (DpReg.linkCtrl.address call.module)
      = (call.programLink counters regs).u32 (DpReg.linkCtrl.address call.module) := by
  simp only [programmed, runHwTraining, Mmio.u32_writeReg32, DpReg.address_inj module, reduceCtorEq,
    if_false, programCtrl]
  split
  · simp only [Mmio.u32_writeReg32, DpReg.address_inj module, reduceCtorEq, if_false]
  · split <;>
      simp only [Mmio.u32_writeReg32, DpReg.address_inj module, reduceCtorEq, if_false]

theorem u32_programmed_ctrl (module : call.module < 4)
    : (call.programmed counters regs).u32 (DpReg.ctrl.address call.module)
      = (call.programCtrl counters (call.programLink counters regs)).u32
          (DpReg.ctrl.address call.module) := by
  simp only [programmed, runHwTraining, Mmio.u32_writeReg32, DpReg.address_inj module, reduceCtorEq,
    if_false]

/-- The register has the low bits of the number of lanes. -/
theorem get_numOfLanes (module : call.module < 4)
    : RegMm8214.numOfLanes.get
        ((call.programmed counters regs).u32 (DpReg.link.address call.module))
      = counters.ulLaneNum.toNat % 8 := by
  rw [u32_programmed_link module (by decide) (by decide)]
  simp only [programLink, Mmio.u32_writeReg32, DpReg.address_inj module, reduceCtorEq, if_false,
    if_true]
  rw [BitField.get_writeMasked _ _ _ (by decide), BitField.get_put_other (by decide),
    BitField.get_put_other (by decide), BitField.get_put_other (by decide),
    BitField.get_put _ _ _ (by decide)]
  rfl

/-- The registers have the low bits of the index of the rate. -/
theorem startLinkRate_programmed (module : call.module < 4)
    : call.startLinkRate (call.programmed counters regs) = (counters.bitRateIndex - 1).toNat % 4 := by
  rw [startLinkRate, u32_programmed_link module (by decide) (by decide),
    u32_programmed_linkCtrl module]
  simp only [programLink, Mmio.u32_writeReg32, DpReg.address_inj module, reduceCtorEq, if_false,
    if_true]
  rw [BitField.get_writeMasked _ _ _ (by decide), BitField.get_put _ _ _ (by decide),
    BitField.get_writeMasked _ _ _ (by decide), BitField.get_put _ _ _ (by decide)]
  generalize counters.bitRateIndex - 1 = index
  have low : (index &&& 0x1).toNat = index.toNat % 2 := by
    rw [BitVec.toNat_and]
    exact Nat.and_two_pow_sub_one_eq_mod _ 1
  have high : ((index &&& 0x2) >>> 1).toNat = index.toNat / 2 % 2 := by
    rw [BitVec.ushiftRight_and_distrib, BitVec.toNat_and, BitVec.toNat_ushiftRight,
      Nat.shiftRight_eq_div_pow]
    exact Nat.and_two_pow_sub_one_eq_mod _ 1
  rw [low, high]
  change index.toNat % 2 % 2 + 2 * (index.toNat / 2 % 2 % 2) = _
  omega

theorem get_hwSetLinkPara (module : call.module < 4) (method : call.method = .hw)
    : RegMm334DC.hwSetLinkPara.get
        ((call.programmed counters regs).u32 (DpReg.ctrl.address call.module))
      = if call.tunneled then 1 else 0 := by
  rw [u32_programmed_ctrl module, programCtrl, method]
  simp only [Mmio.u32_writeReg32, if_true]
  rw [BitField.get_writeMasked _ _ _ (by decide), BitField.get_put _ _ _ (by decide)]
  split <;> rfl

theorem linkRateValue_fields {bitRateIndex : U32} {field : BitField}
    (known : linkRateValue bitRateIndex = some field)
    : field = RegMm334DC.linkRateValue1 ∨ field = RegMm334DC.linkRateValue2
      ∨ field = RegMm334DC.linkRateValue3 := by
  unfold linkRateValue at known
  split_ifs at known
  all_goals cases known
  all_goals simp

/-- There are fields for three indices. -/
theorem linkRateValue_known {bitRateIndex : U32} (counts : 0 < bitRateIndex)
    : (∃ field, linkRateValue bitRateIndex = some field) ↔ bitRateIndex.toNat ≤ 3 := by
  have positive : 0 < bitRateIndex.toNat := counts
  have value (n : Nat) (small : n < 2 ^ 32)
      : bitRateIndex = BitVec.ofNat 32 n ↔ bitRateIndex.toNat = n := by
    rw [← BitVec.toNat_inj, BitVec.toNat_ofNat, Nat.mod_eq_of_lt small]
  have three : bitRateIndex = 3 ↔ _ := value 3 (by decide)
  have two : bitRateIndex = 2 ↔ _ := value 2 (by decide)
  have one : bitRateIndex = 1 ↔ _ := value 1 (by decide)
  simp only [linkRateValue, three, two, one]
  split_ifs
  all_goals simp only [Option.some.injEq, exists_eq', exists_false, true_iff, false_iff]
  all_goals omega

/-- The register says that the table is used. -/
theorem get_linkRateUseDpcp115 (module : call.module < 4) {rates : LinkRateSet}
    (method : call.method = .dpcd115 rates)
    : RegMm334DC.linkRateUseDpcp115.get
        ((call.programmed counters regs).u32 (DpReg.ctrl.address call.module)) = 1 := by
  rw [u32_programmed_ctrl module, programCtrl, method]
  dsimp only
  cases known : linkRateValue counters.bitRateIndex with
  | none =>
    simp only [Mmio.u32_writeReg32, if_true]
    rw [BitField.get_writeMasked _ _ _ (by decide), BitField.get_put _ _ _ (by decide)]
    rfl
  | some field =>
    simp only [Mmio.u32_writeReg32, if_true]
    rcases linkRateValue_fields known with rfl | rfl | rfl
    all_goals
      rw [BitField.get_writeMasked _ _ _ (by decide), BitField.get_put_other (by decide),
        BitField.get_put _ _ _ (by decide)]
      rfl

/-- The field of the index has the entry of the rate. -/
theorem get_linkRateValue (module : call.module < 4) {rates : LinkRateSet}
    (method : call.method = .dpcd115 rates) {field : BitField}
    (known : linkRateValue counters.bitRateIndex = some field)
    : field.get ((call.programmed counters regs).u32 (DpReg.ctrl.address call.module))
      = counters.linkRateEntry.toNat % 2 ^ 8 := by
  rw [u32_programmed_ctrl module, programCtrl, method]
  simp only [known, Mmio.u32_writeReg32, if_true]
  rcases linkRateValue_fields known with rfl | rfl | rfl
  all_goals
    rw [BitField.get_writeMasked _ _ _ (by decide), BitField.get_put _ _ _ (by decide)]
    rfl

-----------------------------------------------------------------------------------------
-- The round that trains the link
-----------------------------------------------------------------------------------------

theorem maxRate_le (method : call.method = .hw) : call.maxRate ≤ 4 := by
  rw [maxRate, maxBitRateIndex, method]
  dsimp only
  split_ifs <;> decide

/-- The speed of an index, as the register codes it. -/
theorem startLinkSpeed_eq (method : call.method = .hw) (some : 1 ≤ counters.pair.1)
    (few : counters.pair.1 ≤ 4)
    : startLinkSpeed (counters.pair.1 - 1) = call.bitRate counters := by
  have value (n : Nat) (small : n < 2 ^ 32)
      : counters.bitRateIndex = BitVec.ofNat 32 n ↔ counters.pair.1 = n := by
    rw [LtCounters.pair, ← BitVec.toNat_inj, BitVec.toNat_ofNat, Nat.mod_eq_of_lt small]
  have four : counters.bitRateIndex = 4 ↔ _ := value 4 (by decide)
  have three : counters.bitRateIndex = 3 ↔ _ := value 3 (by decide)
  have two : counters.bitRateIndex = 2 ↔ _ := value 2 (by decide)
  rw [LtCall.bitRate, method]
  simp only [four, three, two]
  generalize counters.pair.1 = rate at some few
  obtain rfl | rfl | rfl | rfl : rate = 1 ∨ rate = 2 ∨ rate = 3 ∨ rate = 4 := by omega
  all_goals rfl

/-- A code of a speed stands for it. -/
theorem dpcdLinkSpeed_linkBwSet (method : call.method = .hw)
    : dpcdLinkSpeed (linkBwSet (call.bitRate counters)) = call.bitRate counters := by
  rw [LtCall.bitRate, method]
  dsimp only
  split_ifs <;> decide

theorem get_laneCountSet (ulLaneNum : U32)
    : DpcdReg00101.laneCountSet.get (call.dpcd00101 ulLaneNum) = ulLaneNum.toNat % 32 := by
  have low : DpcdReg00101.laneCountSet.get
      (DpcdReg00101.laneCountSet.put (0 : U8) (ulLaneNum.setWidth 8).toNat)
      = ulLaneNum.toNat % 32 := by
    rw [BitField.get_put _ _ _ (by decide), BitVec.toNat_setWidth]
    exact Nat.mod_mod_of_dvd _ (by decide)
  rw [dpcd00101]
  split
  · rw [BitField.get_put_other (by decide), low]
  · exact low

variable {writes : List DpcdWrite}

/-- What the registers have room for. -/
theorem sourceHas_iff (module : call.module < 4) (inStep : call.InStep counters)
    (running : counters.Running)
    : call.SourceHas (call.roundOf counters writes) (call.programmed counters regs)
      ↔ counters.pair.2 < 8 ∧ ∀ rates, call.method = .dpcd115 rates → counters.pair.1 ≤ 3 := by
  have someRate : 0 < counters.pair.1 := running.2
  have less : (counters.bitRateIndex - 1).toNat = counters.pair.1 - 1 :=
    BitVec.toNat_sub_of_le (show 1 ≤ counters.bitRateIndex.toNat from someRate)
  rw [SourceHas, get_numOfLanes module, startLinkRate_programmed module, less]
  change counters.pair.2 % 8 = counters.pair.2 ∧ (counters.pair.1 - 1) % 4 + 1 = counters.pair.1 ∧ _
    ↔ _
  have lanes : counters.pair.2 % 8 = counters.pair.2 ↔ counters.pair.2 < 8 := by omega
  rw [lanes]
  cases method : call.method with
  | hw =>
    have few : counters.pair.1 ≤ 4 := Nat.le_trans inStep.rate (maxRate_le method)
    have index : (counters.pair.1 - 1) % 4 = counters.pair.1 - 1 := Nat.mod_eq_of_lt (by omega)
    have speed := startLinkSpeed_eq method someRate few
    have whole : counters.pair.1 - 1 + 1 = counters.pair.1 := Nat.sub_add_cancel someRate
    have reported : call.bitRate counters = (call.roundOf counters writes).bitRate := rfl
    simp only [index, whole, speed, reported, reduceCtorEq, false_implies, implies_true, true_and]
  | dpcd115 rates =>
    have most := rates.num_le
    have rate := inStep.rate
    have entry := inStep.entry rates method
    have fits : counters.linkRateEntry.toNat % 2 ^ 8 = counters.linkRateEntry.toNat := by
      rw [dpMaxSupportedRatesNum] at most
      exact Nat.mod_eq_of_lt (by omega)
    have speed : rates.linkRate counters.linkRateEntry = call.bitRate counters := by
      rw [LtCall.bitRate, method]
    have known := linkRateValue_known running.2
    change counters.pair.2 < 8 ∧ (counters.pair.1 - 1) % 4 + 1 = counters.pair.1
        ∧ _ = 1 ∧ (∃ field, linkRateValue counters.bitRateIndex = some field
          ∧ field.get _ = counters.linkRateEntry.toNat)
        ∧ rates.linkRate counters.linkRateEntry = call.bitRate counters
      ↔ _
    refine and_congr_right fun _ => ⟨?_, fun few => ?_⟩
    · rintro ⟨-, -, ⟨field, isField, -⟩, -⟩ _ _
      exact known.mp ⟨field, isField⟩
    · have few : counters.pair.1 ≤ 3 := few rates rfl
      obtain ⟨field, isField⟩ := known.mpr few
      refine ⟨by omega, get_linkRateUseDpcp115 module method, ⟨field, isField, ?_⟩, speed⟩
      rw [get_linkRateValue module method isField, fits]

/-- What the sink takes. -/
theorem sinkHas_iff (module : call.module < 4) (inStep : call.InStep counters)
    (few : counters.pair.2 < 8) {taken : Bool}
    (bytes : ∀ address ∈ linkAddresses,
      dpcdByte writes address
        = dpcdByte (call.linkWrites counters (call.bitRate counters) taken) address)
    : call.SinkHas (call.roundOf counters writes) (call.programmed counters regs)
      ↔ ∀ rates, call.method = .dpcd115 rates → taken = true := by
  have lanes : DpcdReg00101.laneCountSet.get (call.dpcd00101 counters.ulLaneNum)
      = counters.ulLaneNum.toNat := by
    rw [get_laneCountSet]
    exact Nat.mod_eq_of_lt (Nat.lt_of_lt_of_le few (by decide))
  have first := bytes 0x100 (by decide)
  have second := bytes 0x101 (by decide)
  have third := bytes 0x115 (by decide)
  rw [SinkHas]
  cases method : call.method with
  | hw =>
    simp only [reduceCtorEq, false_implies, implies_true, iff_true]
    rw [linkWrites, method] at first second
    split
    · rename_i tunneled
      rw [get_hwSetLinkPara module method, if_pos tunneled]
    · rename_i plain
      rw [if_neg plain] at first second
      exact ⟨_, _, first, dpcdLinkSpeed_linkBwSet method, second, lanes⟩
  | dpcd115 rates =>
    have most := rates.num_le
    have rate := inStep.rate
    have entry := inStep.entry rates method
    rw [dpMaxSupportedRatesNum] at most
    rw [linkWrites, method] at first second third
    have value : DpcdReg00115.linkRateSet.get
        (DpcdReg00115.linkRateSet.put (0 : U8) (counters.linkRateEntry.setWidth 8).toNat)
        = counters.linkRateEntry.toNat := by
      rw [BitField.get_put _ _ _ (by decide), BitVec.toNat_setWidth,
        show DpcdReg00115.linkRateSet.width = 3 from rfl]
      omega
    constructor
    · rintro ⟨_, entry, -, -, -, isEntry, -⟩ _ _
      cases taken with
      | true => rfl
      | false =>
        have impossible : none = some entry := third.symm.trans isEntry
        cases impossible
    · intro all
      rw [all rates rfl] at first second third
      exact ⟨_, _, first, second, lanes, third, value⟩

/-- What a round that trains the link leaves is what it reports under the condition, and only then. -/
theorem has_iff_carried (module : call.module < 4)
    {answers : RoundAnswers} {round : LtRound} {after : Mmio} (made : call.Made answers round after)
    (trained : call.outcome answers = .trained)
    : call.SourceHas round after ∧ call.SinkHas round after
      ↔ call.Carried round.pair answers := by
  obtain ⟨counters, before, inStep, running, isRound, isRetry⟩ := made
  generalize round.writes = writes at isRound isRetry
  subst isRound
  have spec := call.retry_spec counters (call.bitRate counters) answers.attempts
    call.ulMaxRetryCount 0 before (by rw [isRetry]; exact trained)
  rw [isRetry] at spec
  obtain ⟨⟨regs, rfl⟩, bytes⟩ := spec
  have carried : call.Carried (call.roundOf counters writes).pair answers
      ↔ (counters.pair.2 < 8 ∧ ∀ rates, call.method = .dpcd115 rates → counters.pair.1 ≤ 3)
        ∧ ∀ rates, call.method = .dpcd115 rates →
          call.entryTaken answers.attempts call.ulMaxRetryCount 0 = true := by
    rw [Carried]
    change counters.pair.2 < 8 ∧ _ ↔ _
    cases method : call.method with
    | hw => simp
    | dpcd115 rates =>
      simp only [and_assoc, LtMethod.dpcd115.injEq, forall_eq']
      rfl
  rw [carried, sourceHas_iff module inStep running]
  exact and_congr_right fun room => sinkHas_iff module inStep room.1 bytes

end LtCall

-----------------------------------------------------------------------------------------
-- Whole trainings
-----------------------------------------------------------------------------------------

/-- The answers of a sink that takes every write. -/
structure TrainingAnswers.TakesAll (answers : TrainingAnswers) : Prop where
  repeaterMode : answers.repeaterMode = true
  dpcd100 : ∀ turn k i, ((answers.rounds turn).attempts k).dpcd100 i = true
  dpcd10A : ∀ turn k, ((answers.rounds turn).attempts k).dpcd10A = true
  dpcd102 : ∀ turn k, ((answers.rounds turn).attempts k).dpcd102 = true
  dpcd115 : ∀ turn k, ((answers.rounds turn).attempts k).dpcd115 = true

/-- The training for the device of a module. -/
def ltCall (method : LtMethod) (device : Nat → Option Bool) (module : Nat)
    (params : LinkTrainingParams)
    : LtCall :=
  ⟨method, module, params, if device module = some true then 1 else 3⟩

/-- There is a module with a device to train. -/
def Trainable (device : Nat → Option Bool) (module : Nat) : Prop :=
  module < 4 ∧ (device module).isSome

/-- What a training does: its rounds have rates and numbers of lanes that can be reached from the
first ones, each pair once but for a repeated first one; the entries are those of the table; with a
sink that takes every write, no pair is left out unless the link is trained; and what is reported is
what the source and the sink have.
-/
structure LtRun.FallsBack (run : LtRun) (call : LtCall) (trainable : Prop)
    (answers : TrainingAnswers)
    : Prop where
  ranges : ∀ round ∈ run.rounds,
    1 ≤ round.bitRateIndex.toNat ∧ round.bitRateIndex.toNat ≤ call.maxRate
      ∧ ∃ k, round.ulLaneNum.toNat = call.maxLane >>> k ∧ 0 < round.ulLaneNum.toNat
  distinct : ∀ pair,
    (run.rounds.map LtRound.pair).count pair
      ≤ if pair = (call.maxRate, call.maxLane) then 2 else 1
  entries : ∀ rates, call.method = .dpcd115 rates →
    ∀ round ∈ run.rounds, round.linkRateEntry < rates.supportedLinkRateNum
  covers : trainable → answers.TakesAll → run.bStatus = false →
    ∀ rate k, 1 ≤ rate → rate ≤ call.maxRate → 0 < call.maxLane >>> k →
      (rate, call.maxLane >>> k) ∈ run.rounds.map LtRound.pair
  reported : run.bStatus = true →
    ∃ round, run.rounds.getLast? = some round ∧ run.params.currLinkSpeed = round.bitRate
      ∧ run.params.currLaneCount = round.ulLaneNum
      ∧ call.SourceHas round run.regs ∧ call.SinkHas round run.regs

/-- In the round that trains the link, the registers have room for the rate and the lanes, and the
sink takes the entry of the rate.
-/
def LtCall.LastRoundCarried (call : LtCall) (trainable : Prop) (answers : TrainingAnswers) : Prop :=
  trainable → call.tunnelParaSet answers.repeaterMode = true →
    ∀ pair last, decided (call.ends answers.rounds) 0 (call.plan answers.rounds) = some (pair, last) →
      call.outcome (answers.rounds last) = .trained → call.Carried pair (answers.rounds last)

namespace LtCall

variable {call : LtCall} {answers : TrainingAnswers}

theorem attemptOutcome_of_takesAll (takes : answers.TakesAll) (turn k : Nat)
    : call.attemptOutcome ((answers.rounds turn).attempts k) ≠ .auxError := by
  have tries : 0 < call.dpcd100Tries := by
    rw [dpcd100Tries]
    split <;> decide
  have first : (List.range call.dpcd100Tries).any
      ((answers.rounds turn).attempts k).dpcd100 = true :=
    List.any_eq_true.mpr ⟨0, List.mem_range.mpr tries, takes.dpcd100 turn k 0⟩
  have set : call.linkSet ((answers.rounds turn).attempts k) = true := by
    rw [linkSet, first, takes.dpcd100 turn k 0, Bool.or_true]
    split <;> rfl
  rw [attemptOutcome, set, cpSet, takes.dpcd10A turn k, takes.dpcd102 turn k]
  simp only [Bool.true_or, Bool.and_self, if_true]
  split <;> simp

theorem outcome_of_takesAll (call : LtCall) (takes : answers.TakesAll) (turn : Nat)
    : call.outcome (answers.rounds turn) ≠ .auxError := by
  have run (tries first : Nat)
      : call.retryOutcome (answers.rounds turn).attempts tries first ≠ .auxError := by
    induction tries generalizing first with
    | zero => simp [retryOutcome]
    | succ tries ih =>
      rw [retryOutcome]
      split
      · exact ih (first + 1)
      · exact attemptOutcome_of_takesAll takes turn first
  exact run call.ulMaxRetryCount 0

/-- What holds of the rounds however the training ends. -/
theorem Follows.fallsBack {outcome : LtOutcome} {rounds : List LtRound} {after : Mmio}
    (follows : call.Follows answers.rounds 0 (call.plan answers.rounds) outcome rounds after)
    {run : LtRun} (isRounds : run.rounds = rounds)
    (covers : answers.TakesAll → run.bStatus = false →
      decided (call.ends answers.rounds) 0 (call.plan answers.rounds) = none)
    (reported : run.bStatus = true →
      ∃ round, run.rounds.getLast? = some round ∧ run.params.currLinkSpeed = round.bitRate
        ∧ run.params.currLaneCount = round.ulLaneNum
        ∧ call.SourceHas round run.regs ∧ call.SinkHas round run.regs)
    : run.FallsBack call True answers where
  ranges := by
    intro round member
    rw [isRounds] at member
    have planned : round.pair ∈ call.plan answers.rounds := by
      apply tried_isPrefix.subset
      rw [← follows.pairs]
      exact List.mem_map_of_mem member
    obtain ⟨⟨some, most⟩, halved⟩ := call.mem_plan.mp planned
    exact ⟨some, most, halved⟩
  distinct := by
    intro pair
    rw [isRounds, follows.pairs]
    exact Nat.le_trans (tried_isPrefix.sublist.count_le pair) (call.count_plan answers.rounds pair)
  entries := by
    intro rates table round member
    rw [isRounds] at member
    obtain ⟨counters, writes, inStep, rfl⟩ := follows.inStep round member
    have entry := inStep.entry rates table
    have rate := inStep.rate
    change counters.linkRateEntry.toNat < rates.supportedLinkRateNum.toNat
    omega
  covers := by
    intro _ takes failed rate k some most positive
    rw [isRounds, follows.pairs, tried_eq_of_decided_none (covers takes failed)]
    exact call.mem_plan.mpr ⟨⟨some, most⟩, k, rfl, positive⟩
  reported := reported

/-- Without a round there is nothing to expect. -/
theorem fallsBack_nothing (params : LinkTrainingParams) (regs : Mmio) {trainable : Prop}
    (nothing : trainable → answers.TakesAll → False)
    : (⟨false, params, [], regs⟩ : LtRun).FallsBack call trainable answers where
  ranges := by
    intro round member
    cases member
  distinct := by
    intro pair
    exact Nat.zero_le _
  entries := by
    intro rates table round member
    cases member
  covers := fun is takes => absurd takes (nothing is)
  reported := by
    intro succeeded
    cases succeeded

/-- A training ends, and does what is expected of it under the condition, and only then. -/
theorem train_fallsBack (valid : call.method.Valid) (module : call.module < 4) {fuel : Nat}
    (enough : (call.plan answers.rounds).length < fuel) (regs : Mmio)
    : ∃ run, call.train answers fuel regs = some run
      ∧ (run.FallsBack call True answers ↔ call.LastRoundCarried True answers) := by
  cases tunnel : call.tunnelParaSet answers.repeaterMode with
  | false =>
    refine ⟨⟨false, call.params, [], regs⟩, ?_, iff_of_true ?_ ?_⟩
    · rw [train, tunnel, if_neg Bool.false_ne_true]
    · refine fallsBack_nothing _ _ fun _ takes => ?_
      rw [tunnelParaSet, takes.repeaterMode] at tunnel
      split at tunnel
      · rw [Bool.or_true] at tunnel
        cases tunnel
      · cases tunnel
    · intro _ set
      rw [tunnel] at set
      cases set
  | true =>
    obtain ⟨outcome, rounds, after, isRun, follows⟩ := trains_plan valid enough regs
    have trains : call.train answers fuel regs = some (call.finish outcome rounds after) := by
      rw [train, tunnel, if_pos rfl, isRun]
      rfl
    have fails (untrained : outcome ≠ .trained)
        : call.train answers fuel regs = some ⟨false, call.params, rounds, after⟩ := by
      rw [trains, finish]
      exact fun _ trained => absurd trained untrained
    cases last : decided (call.ends answers.rounds) 0 (call.plan answers.rounds) with
    | none =>
      have untrained : outcome ≠ .trained := by
        rw [follows.exhausted last]
        simp
      refine ⟨_, fails untrained, iff_of_true ?_ ?_⟩
      · exact follows.fallsBack rfl (fun _ _ => last) (fun succeeded => by cases succeeded)
      · intro _ _ pair turn decides
        rw [last] at decides
        cases decides
    | some decision =>
      obtain ⟨pair, turn⟩ := decision
      obtain ⟨isOutcome, round, isLast, isPair, made⟩ := follows.decides pair turn last
      have open_ : outcome ≠ .notTrained := by
        rw [isOutcome]
        exact of_decide_eq_true (decided_ends last).1
      by_cases trained : outcome = .trained
      · have carried := has_iff_carried module made (isOutcome.symm.trans trained)
        rw [isPair] at carried
        refine ⟨⟨true, { call.params with
          currLinkSpeed := round.bitRate, currLaneCount := round.ulLaneNum }, rounds, after⟩, ?_, ?_⟩
        · rw [trains, trained]
          simp only [finish, isLast]
        · constructor
          · intro falls _ _ pair' turn' decides _
            rw [last] at decides
            cases decides
            obtain ⟨round', isLast', -, -, source, sink⟩ := falls.reported rfl
            rw [isLast] at isLast'
            cases isLast'
            exact carried.mp ⟨source, sink⟩
          · intro holds
            have has := carried.mpr
              (holds trivial tunnel pair turn last (isOutcome.symm.trans trained))
            exact follows.fallsBack rfl (fun _ failed => by cases failed)
              (fun _ => ⟨round, isLast, rfl, rfl, has⟩)
      · refine ⟨_, fails trained, iff_of_true ?_ ?_⟩
        · refine follows.fallsBack rfl (fun takes _ => ?_) (fun succeeded => by cases succeeded)
          have answered := call.outcome_of_takesAll takes turn
          rw [← isOutcome] at answered
          cases outcome with
          | trained => exact absurd rfl trained
          | notTrained => exact absurd rfl open_
          | auxError => exact absurd rfl answered
        · intro _ _ pair' turn' decides trained'
          rw [last] at decides
          cases decides
          exact absurd (isOutcome.trans trained') trained

end LtCall

theorem linkTraining_fallsBack (method : LtMethod) (valid : method.Valid)
    (device : Nat → Option Bool) (module : Nat) (params : LinkTrainingParams)
    (answers : TrainingAnswers) (regs : Mmio) {fuel : Nat}
    (enough : ((ltCall method device module params).plan answers.rounds).length < fuel)
    : ∃ run, linkTraining method device module params answers fuel regs = some run
      ∧ (run.FallsBack (ltCall method device module params) (Trainable device module) answers
        ↔ (ltCall method device module params).LastRoundCarried (Trainable device module)
            answers) := by
  have refused (none : ¬ Trainable device module)
      : (⟨false, params, [], regs⟩ : LtRun).FallsBack (ltCall method device module params)
          (Trainable device module) answers
        ↔ (ltCall method device module params).LastRoundCarried (Trainable device module)
            answers :=
    iff_of_true (LtCall.fallsBack_nothing _ _ fun is _ => none is) fun is => absurd is none
  rw [linkTraining]
  split
  · rename_i outside
    exact ⟨_, rfl, refused fun is => Nat.not_lt.mpr outside is.1⟩
  · rename_i inside
    split
    · rename_i none
      refine ⟨_, rfl, refused fun is => ?_⟩
      have found := is.2
      rw [none] at found
      cases found
    · rename_i bRunCts found
      have trainable : Trainable device module := ⟨Nat.lt_of_not_le inside, by rw [found]; rfl⟩
      have same : ltCall method device module params
          = ⟨method, module, params, if bRunCts = true then 1 else 3⟩ := by
        simp only [ltCall, found, Option.some.injEq]
      obtain ⟨run, isRun, falls⟩ := LtCall.train_fallsBack valid trainable.1 enough regs
      rw [same] at isRun falls ⊢
      rw [eq_true trainable]
      exact ⟨run, isRun, falls⟩

/-- Both trainings end, with fuel for all rounds of the plan, and do what is expected of them under
the condition, and only then.
-/
theorem linkTraining_fallsBack_iff (device : Nat → Option Bool) (module : Nat)
    (params : LinkTrainingParams) (answers : TrainingAnswers) (regs : Mmio) (fuel : Nat)
    : (((ltCall .hw device module params).plan answers.rounds).length < fuel →
        ∃ run, cbDiuDpLinkTrainingHw device module params answers fuel regs = some run
          ∧ (run.FallsBack (ltCall .hw device module params) (Trainable device module) answers
            ↔ (ltCall .hw device module params).LastRoundCarried (Trainable device module) answers))
      ∧ ∀ rates : LinkRateSet, rates.linkRateHwIndex ≤ rates.supportedLinkRateNum →
        0 < rates.supportedLinkRateNum →
        ((ltCall (.dpcd115 rates) device module params).plan answers.rounds).length < fuel →
        ∃ run, cbDiuDpLtWithDpcd115 rates device module params answers fuel regs = some run
          ∧ (run.FallsBack (ltCall (.dpcd115 rates) device module params)
              (Trainable device module) answers
            ↔ (ltCall (.dpcd115 rates) device module params).LastRoundCarried
                (Trainable device module) answers) :=
  ⟨fun enough => linkTraining_fallsBack .hw trivial device module params answers regs enough,
    fun rates few some enough =>
      linkTraining_fallsBack (.dpcd115 rates) ⟨few, some⟩ device module params answers regs enough⟩

/-- The table of a sink with one rate of 1.62 Gbps. -/
def oneRate : LinkRateSet :=
  (getSinkLinkRates (fun i => if i = 0 then 0xA4 else if i = 1 then 0x1F else 0) 0 0).1

/-- A link of one lane. -/
def oneLane : LinkTrainingParams :=
  { maxLaneCount := 1, maxLinkSpeed := cbiosDpLinkSpeed1620Mbps, enhancedMode := false
    enableTPS3 := false, cpMethod := .disable, dpUsbMode := .standard, lttprCount := 0
    currLaneCount := 0, currLinkSpeed := 0 }

/-- The hardware trains the link at once, and the sink takes all writes, or refuses the entry. -/
def trainedAtOnce (entry : Bool) : TrainingAnswers where
  repeaterMode := true
  rounds _ :=
    { attempts := fun _ => ⟨fun _ => true, entry, true, fun _ => ⟨true, 3⟩, true⟩
      dpcd202 := none
      dpcd206 := none }

/-- The training of one rate and one lane. -/
def oneLaneCall : LtCall := ltCall (.dpcd115 oneRate) (fun _ => some false) 0 oneLane

theorem attemptOutcome_trainedAtOnce (entry : Bool) (turn k : Nat)
    : oneLaneCall.attemptOutcome (((trainedAtOnce entry).rounds turn).attempts k) = .trained := by
  have polls : LtCall.polled (((trainedAtOnce entry).rounds turn).attempts k).polls = true :=
    List.any_eq_true.mpr ⟨0, List.mem_range.mpr (by decide), rfl⟩
  rw [LtCall.attemptOutcome, polls]
  rfl

theorem outcome_trainedAtOnce (entry : Bool) (turn : Nat)
    : oneLaneCall.outcome ((trainedAtOnce entry).rounds turn) = .trained := by
  have first := attemptOutcome_trainedAtOnce entry turn 0
  change oneLaneCall.retryOutcome _ 3 0 = _
  rw [LtCall.retryOutcome, if_neg (by rw [first]; simp), first]

theorem decided_trainedAtOnce (entry : Bool)
    : decided (oneLaneCall.ends (trainedAtOnce entry).rounds) 0
        (oneLaneCall.plan (trainedAtOnce entry).rounds)
      = some ((1, 1), 0) := by
  have plan : oneLaneCall.plan (trainedAtOnce entry).rounds = [(1, 1)] := by decide +revert
  have ends : oneLaneCall.ends (trainedAtOnce entry).rounds 0 = true := by
    rw [LtCall.ends, outcome_trainedAtOnce]
    rfl
  rw [plan, decided, if_pos ends]

/-- A training with one rate and one lane. -/
theorem linkTraining_fallsBack_oneRate
    : ∃ run, cbDiuDpLtWithDpcd115 oneRate (fun _ => some false) 0 oneLane (trainedAtOnce true) 2
        ⟨fun _ => 0, fun _ _ => 0⟩ = some run
      ∧ run.FallsBack oneLaneCall (Trainable (fun _ => some false) 0) (trainedAtOnce true) := by
  obtain ⟨run, isRun, falls⟩ := (linkTraining_fallsBack_iff (fun _ => some false) 0 oneLane
    (trainedAtOnce true) ⟨fun _ => 0, fun _ _ => 0⟩ 2).2 oneRate (by decide) (by decide) (by decide)
  refine ⟨run, isRun, falls.mpr fun _ _ pair last decides _ => ?_⟩
  have same := (decided_trainedAtOnce true).symm.trans decides
  cases same
  exact ⟨by decide, by decide, rfl⟩

/-- The sink refuses the entry of the rate, and the training still reports the rate. -/
theorem cbDiuDpLtWithDpcd115_refused
    : ∃ run, cbDiuDpLtWithDpcd115 oneRate (fun _ => some false) 0 oneLane (trainedAtOnce false) 2
        ⟨fun _ => 0, fun _ _ => 0⟩ = some run
      ∧ ¬ run.FallsBack oneLaneCall (Trainable (fun _ => some false) 0) (trainedAtOnce false) := by
  have enough : (oneLaneCall.plan (trainedAtOnce false).rounds).length < 2 := by decide
  obtain ⟨run, isRun, falls⟩ := linkTraining_fallsBack (.dpcd115 oneRate)
    ⟨by decide, by decide⟩ (fun _ => some false) 0 oneLane (trainedAtOnce false)
    ⟨fun _ => 0, fun _ _ => 0⟩ enough
  refine ⟨run, isRun, fun holds => ?_⟩
  obtain ⟨-, -, taken⟩ := falls.mp holds ⟨by decide, rfl⟩ rfl (1, 1) 0
    (decided_trainedAtOnce false) (outcome_trainedAtOnce false 0)
  have refused : oneLaneCall.entryTaken ((trainedAtOnce false).rounds 0).attempts 3 0 = false := by
    rw [LtCall.entryTaken, attemptOutcome_trainedAtOnce]
    rfl
  exact Bool.false_ne_true (refused.symm.trans taken)

end Cx4Kernel.Cbios
