import Cx4Kernel.Cbios.LinkTraining
import Cx4Kernel.Foundation.Sweep

/-! The pairs of a link rate and a number of lanes that a link training goes through. -/

namespace Cx4Kernel.Cbios

open Cx4Kernel.Foundation

def LtCounters.pair (counters : LtCounters) : Nat × Nat :=
  (counters.bitRateIndex.toNat, counters.ulLaneNum.toNat)

def LtRound.pair (round : LtRound) : Nat × Nat := (round.bitRateIndex.toNat, round.ulLaneNum.toNat)

/-- The loop goes on with the counters. -/
def LtCounters.Running (counters : LtCounters) : Prop :=
  0 < counters.ulLaneNum ∧ 0 < counters.bitRateIndex

/-- The condition on the table of rates. -/
def LtMethod.Valid : LtMethod → Prop
  | .hw => True
  | .dpcd115 rates =>
    rates.linkRateHwIndex ≤ rates.supportedLinkRateNum ∧ 0 < rates.supportedLinkRateNum

/-- A table that is used meets it, and has a field in the register for each of its rates. -/
theorem getSinkLinkRates_valid {data : Nat → U8} {maxLinkRate : U8} {sinkMaxLinkSpeed : U32}
    (used : (getSinkLinkRates data maxLinkRate sinkMaxLinkSpeed).2 = true)
    : (LtMethod.dpcd115 (getSinkLinkRates data maxLinkRate sinkMaxLinkSpeed).1).Valid
      ∧ (getSinkLinkRates data maxLinkRate sinkMaxLinkSpeed).1.linkRateHwIndex.toNat ≤ 3 := by
  have most := dpcdLinkRateNum_le data
  rw [dpMaxSupportedRatesNum] at most
  rw [getSinkLinkRates] at used ⊢
  split at used
  · rename_i taken
    have num : (BitVec.ofNat 32 (dpcdLinkRateNum data)).toNat = dpcdLinkRateNum data := by
      rw [BitVec.toNat_ofNat]
      exact Nat.mod_eq_of_lt (by omega)
    have some := Nat.pos_of_ne_zero taken.1
    rw [if_pos taken]
    refine ⟨⟨?_, show 0 < (BitVec.ofNat 32 (dpcdLinkRateNum data)).toNat by omega⟩, ?_⟩
    · dsimp only
      split
      · exact Nat.le_refl _
      · exact Nat.le_of_not_lt (by assumption)
    · dsimp only
      split
      · rename_i less
        exact Nat.le_of_lt less
      · exact Nat.le_refl 3
  · cases used

namespace LtCall

variable (call : LtCall)

-----------------------------------------------------------------------------------------
-- Plans
-----------------------------------------------------------------------------------------

def maxRate : Nat := call.maxBitRateIndex.toNat

def maxLane : Nat := call.params.maxLaneCount.toNat

/-- The pairs that are left, in the order that the flag selects. -/
def left (counters : LtCounters) : List (Nat × Nat) :=
  if counters.bEqFallBack then
    (sweep (halvings call.maxLane) (halvings counters.pair.2) (countdown counters.pair.1)).map
      Prod.swap
  else sweep (countdown call.maxRate) (countdown counters.pair.1) (halvings counters.pair.2)

/-- All pairs, in the order that the flag selects. -/
def order (bEqFallBack : Bool) : List (Nat × Nat) := call.left { call.start with bEqFallBack }

/-- The pairs of the rounds, as long as no round ends the training: the status after the first round
selects the order, unless it asks for another swing with the same pair.
-/
def plan (answers : Nat → RoundAnswers) : List (Nat × Nat) :=
  if call.maxLane = 0 ∨ call.maxRate = 0 then []
  else if call.swingFailed (answers 0) then
    call.start.pair :: call.order (call.eqFailed (answers 0) || call.eqFailed (answers 1))
  else call.order (call.eqFailed (answers 0))

theorem mem_order {bEqFallBack : Bool} {pair : Nat × Nat}
    : pair ∈ call.order bEqFallBack
      ↔ (1 ≤ pair.1 ∧ pair.1 ≤ call.maxRate)
        ∧ ∃ k, pair.2 = call.maxLane >>> k ∧ 0 < pair.2 := by
  cases bEqFallBack with
  | false =>
    rw [order, left, if_neg Bool.false_ne_true]
    exact mem_sweep.trans (and_congr mem_countdown mem_halvings)
  | true =>
    rw [order, left, if_pos rfl, ← mem_countdown, ← mem_halvings, List.mem_map]
    constructor
    · rintro ⟨swapped, member, rfl⟩
      exact (mem_sweep.mp member).symm
    · rintro ⟨rate, lane⟩
      exact ⟨pair.swap, mem_sweep.mpr ⟨lane, rate⟩, Prod.swap_swap pair⟩

theorem nodup_order (bEqFallBack : Bool) : (call.order bEqFallBack).Nodup := by
  cases bEqFallBack with
  | false => exact nodup_sweep (nodup_countdown _) (nodup_halvings _)
  | true => exact (nodup_sweep (nodup_halvings _) (nodup_countdown _)).map Prod.swap_injective

theorem mem_plan {answers : Nat → RoundAnswers} {pair : Nat × Nat}
    : pair ∈ call.plan answers
      ↔ (1 ≤ pair.1 ∧ pair.1 ≤ call.maxRate)
        ∧ ∃ k, pair.2 = call.maxLane >>> k ∧ 0 < pair.2 := by
  rw [plan]
  split
  · rename_i empty
    simp only [List.not_mem_nil, false_iff]
    rintro ⟨⟨some, most⟩, k, halved, positive⟩
    rcases empty with none | none
    · rw [none, Nat.zero_shiftRight] at halved
      omega
    · omega
  · rename_i running
    split
    · rw [List.mem_cons, mem_order, or_iff_right_of_imp]
      rintro rfl
      exact ⟨⟨Nat.pos_of_ne_zero fun none => running (.inr none), Nat.le_refl _⟩, 0, rfl,
        Nat.pos_of_ne_zero fun none => running (.inl none)⟩
    · exact mem_order call

/-- Only the first pair is in the plan twice, and no more often. -/
theorem count_plan (answers : Nat → RoundAnswers) (pair : Nat × Nat)
    : (call.plan answers).count pair ≤ if pair = call.start.pair then 2 else 1 := by
  have once (bEqFallBack : Bool) : (call.order bEqFallBack).count pair ≤ 1 :=
    List.nodup_iff_count_le_one.mp (call.nodup_order bEqFallBack) pair
  rw [plan]
  split
  · exact Nat.zero_le _
  · split
    · rw [List.count_cons]
      have same := once (call.eqFailed (answers 0) || call.eqFailed (answers 1))
      by_cases first : pair = call.start.pair
      · rw [if_pos first, if_pos (beq_iff_eq.mpr first.symm)]
        omega
      · rw [if_neg first, if_neg fun equal => first (beq_iff_eq.mp equal).symm]
        omega
    · refine Nat.le_trans (once _) ?_
      split <;> decide

-----------------------------------------------------------------------------------------
-- The step down
-----------------------------------------------------------------------------------------

/-- The counters stay in range, and the entry keeps in step with the rate. -/
structure InStep (counters : LtCounters) : Prop where
  rate : counters.pair.1 ≤ call.maxRate
  lane : counters.pair.2 ≤ call.maxLane
  entry : ∀ rates, call.method = .dpcd115 rates →
    counters.linkRateEntry.toNat + call.maxRate + 1
      = rates.supportedLinkRateNum.toNat + counters.pair.1

variable {call} {counters : LtCounters}

theorem left_congr {other : LtCounters} (pair : counters.pair = other.pair)
    (flag : counters.bEqFallBack = other.bEqFallBack)
    : call.left counters = call.left other := by
  rw [left, left, pair, flag]

/-- Nothing is left once both counters are zero. -/
theorem left_zero (zero : counters.pair = (0, 0)) : call.left counters = [] := by
  rw [left, zero]
  split <;> rfl

@[simp]
theorem lowerRate_bitRateIndex
    : (call.lowerRate counters).bitRateIndex = counters.bitRateIndex - 1 := by
  unfold lowerRate
  split <;> rfl

@[simp]
theorem lowerRate_ulLaneNum : (call.lowerRate counters).ulLaneNum = counters.ulLaneNum := by
  unfold lowerRate
  split <;> rfl

@[simp]
theorem lowerRate_bEqFallBack
    : (call.lowerRate counters).bEqFallBack = counters.bEqFallBack := by
  unfold lowerRate
  split <;> rfl

theorem lower_bEqFallBack (call : LtCall) (counters : LtCounters)
    : (call.lower counters).bEqFallBack = counters.bEqFallBack := by
  simp only [lower]
  split_ifs
  all_goals simp only [lowerRate_bEqFallBack]

/-- What a step down makes of the pair. -/
theorem pair_lower (call : LtCall) (running : counters.Running)
    : (call.lower counters).pair
      = if counters.bEqFallBack then
          if counters.pair.2 >>> 1 = 0 then
            if counters.pair.1 - 1 = 0 then (0, 0) else (counters.pair.1 - 1, call.maxLane)
          else (counters.pair.1, counters.pair.2 >>> 1)
        else if counters.pair.1 - 1 = 0 then
          if counters.pair.2 >>> 1 = 0 then (0, 0) else (call.maxRate, counters.pair.2 >>> 1)
        else (counters.pair.1 - 1, counters.pair.2) := by
  obtain ⟨lane, rate⟩ := running
  have positive : 0 < counters.bitRateIndex.toNat := rate
  have less : (counters.bitRateIndex - 1).toNat = counters.bitRateIndex.toNat - 1 :=
    BitVec.toNat_sub_of_le (show 1 ≤ counters.bitRateIndex.toNat from positive)
  have half : (counters.ulLaneNum >>> 1).toNat = counters.ulLaneNum.toNat >>> 1 :=
    BitVec.toNat_ushiftRight ..
  have lastRate : counters.bitRateIndex - 1 = 0 ↔ counters.bitRateIndex.toNat - 1 = 0 := by
    rw [← less]
    exact BitVec.toNat_inj.symm
  have lastLane : counters.ulLaneNum >>> 1 = 0 ↔ counters.ulLaneNum.toNat >>> 1 = 0 := by
    rw [← half]
    exact BitVec.toNat_inj.symm
  by_cases noLane : counters.ulLaneNum >>> 1 = 0
  all_goals by_cases noRate : counters.bitRateIndex - 1 = 0
  all_goals
    have isLane := noLane
    have isRate := noRate
    rw [lastLane] at isLane
    rw [lastRate] at isRate
    cases flag : counters.bEqFallBack
    all_goals
      simp only [lower, flag, LtCounters.pair, rate, lane, noLane, noRate, isLane, isRate,
        lowerRate_bitRateIndex, lowerRate_ulLaneNum, if_true, if_false, and_self, and_true,
        Bool.false_eq_true, less, half, maxRate, maxLane, show (0 : U32).toNat = 0 from rfl]

/-- A step down takes the first of the pairs that are left. -/
theorem left_lower (running : counters.Running)
    : call.left counters = counters.pair :: call.left (call.lower counters) := by
  have below := pair_lower call running
  obtain ⟨lane, rate⟩ := running
  have someLane : 0 < counters.pair.2 := lane
  have someRate : 0 < counters.pair.1 := rate
  have flag := lower_bEqFallBack call counters
  cases order : counters.bEqFallBack with
  | true =>
    rw [order] at below flag
    rw [if_pos rfl] at below
    rw [left, left, order, flag, if_pos rfl, if_pos rfl, halvings_of_pos someLane,
      countdown_of_pos someRate, sweep_cons, List.map_cons]
    refine congrArg (List.cons counters.pair) (congrArg (List.map Prod.swap) ?_)
    split at below
    · rename_i noLane
      rw [noLane, halvings_zero, sweep_nil_cons]
      split at below
      · rename_i noRate
        rw [below, noRate]
        rfl
      · rw [below]
    · rw [below, countdown_of_pos someRate]
  | false =>
    rw [order] at below flag
    rw [if_neg Bool.false_ne_true] at below
    rw [left, left, order, flag, if_neg Bool.false_ne_true, if_neg Bool.false_ne_true,
      halvings_of_pos someLane, countdown_of_pos someRate, sweep_cons]
    refine congrArg (List.cons counters.pair) ?_
    split at below
    · rename_i noRate
      rw [noRate, countdown, sweep_nil_cons]
      split at below
      · rename_i noLane
        rw [below, noLane]
        rfl
      · rw [below]
    · rw [below, halvings_of_pos someLane]

/-- A step down leaves counters that run, or ends the loop. -/
theorem running_lower (running : counters.Running) (inStep : call.InStep counters)
    : (call.lower counters).Running ∨ (call.lower counters).pair = (0, 0) := by
  have below := pair_lower call running
  have someLane : 0 < counters.pair.2 := running.1
  have someRate : 0 < counters.pair.1 := running.2
  have lane := inStep.lane
  have rate := inStep.rate
  have runs (someRate : 0 < (call.lower counters).pair.1)
      (someLane : 0 < (call.lower counters).pair.2) : (call.lower counters).Running :=
    ⟨someLane, someRate⟩
  split_ifs at below
  all_goals
    first
    | exact .inr below
    | exact .inl (runs (by rw [below]; simp only; omega) (by rw [below]; simp only; omega))

/-- What a step down makes of the entry of a table, unless it ends the loop. -/
theorem entry_lower {rates : LinkRateSet} (table : call.method = .dpcd115 rates)
    (running : counters.Running) (goesOn : (call.lower counters).Running)
    : (call.lower counters).pair.1 = counters.pair.1
        ∧ (call.lower counters).linkRateEntry = counters.linkRateEntry
      ∨ (call.lower counters).pair.1 = counters.pair.1 - 1 ∧ 1 < counters.pair.1
        ∧ (call.lower counters).linkRateEntry = counters.linkRateEntry - 1
      ∨ (call.lower counters).pair.1 = call.maxRate
        ∧ (call.lower counters).linkRateEntry = rates.supportedLinkRateNum - 1 := by
  have last : call.maxLinkRateEntry = rates.supportedLinkRateNum - 1 := by
    rw [maxLinkRateEntry, table]
  have lowered : (call.lowerRate counters).linkRateEntry = counters.linkRateEntry - 1 := by
    rw [lowerRate, table]
  obtain ⟨lane, rate⟩ := running
  have positive : 0 < counters.bitRateIndex.toNat := rate
  have less : (counters.bitRateIndex - 1).toNat = counters.bitRateIndex.toNat - 1 :=
    BitVec.toNat_sub_of_le (show 1 ≤ counters.bitRateIndex.toNat from positive)
  have more (noRate : counters.bitRateIndex - 1 ≠ 0) : 1 < counters.bitRateIndex.toNat := by
    have some : (counters.bitRateIndex - 1).toNat ≠ 0 := fun none =>
      noRate (BitVec.eq_of_toNat_eq none)
    omega
  by_cases noLane : counters.ulLaneNum >>> 1 = 0
  all_goals by_cases noRate : counters.bitRateIndex - 1 = 0
  all_goals
    cases flag : counters.bEqFallBack
    all_goals
      simp only [LtCall.lower, flag, rate, lane, noLane, noRate, last, lowered, less,
        lowerRate_bitRateIndex, lowerRate_ulLaneNum, if_true, if_false, and_self, and_true,
        Bool.false_eq_true, LtCounters.Running, LtCounters.pair, maxRate] at goesOn ⊢
  all_goals
    first
    | exact absurd goesOn (Nat.lt_irrefl 0)
    | exact .inl trivial
    | exact .inr (.inl ⟨trivial, more noRate⟩)
    | exact .inr (.inr trivial)

theorem InStep.lower (valid : call.method.Valid) (running : counters.Running)
    (inStep : call.InStep counters) (goesOn : (call.lower counters).Running)
    : call.InStep (call.lower counters) := by
  have below := pair_lower call running
  have rate := inStep.rate
  have lane := inStep.lane
  refine ⟨?_, ?_, fun rates table => ?_⟩
  · split_ifs at below
    all_goals simp only [below]
    all_goals omega
  · have half : counters.pair.2 >>> 1 ≤ counters.pair.2 := Nat.shiftRight_le _ _
    split_ifs at below
    all_goals simp only [below]
    all_goals omega
  · have entry := inStep.entry rates table
    rw [table] at valid
    obtain ⟨few, some⟩ := valid
    have few : call.maxRate ≤ rates.supportedLinkRateNum.toNat := by
      rw [maxRate, maxBitRateIndex, table]
      exact few
    have some : 1 ≤ rates.supportedLinkRateNum.toNat := some
    rcases entry_lower table running goesOn with
      ⟨same, kept⟩ | ⟨less, more, counted⟩ | ⟨reset, last⟩
    · rw [same, kept, entry]
    · have one : (counters.linkRateEntry - 1).toNat = counters.linkRateEntry.toNat - 1 :=
        BitVec.toNat_sub_of_le (show 1 ≤ counters.linkRateEntry.toNat by omega)
      rw [less, counted, one]
      omega
    · have one : (rates.supportedLinkRateNum - 1).toNat = rates.supportedLinkRateNum.toNat - 1 :=
        BitVec.toNat_sub_of_le some
      rw [reset, last, one]
      omega

theorem inStep_start (valid : call.method.Valid) : call.InStep call.start where
  rate := Nat.le_refl _
  lane := Nat.le_refl _
  entry := by
    intro rates table
    rw [table] at valid
    have some : 1 ≤ rates.supportedLinkRateNum.toNat := valid.2
    have one : (rates.supportedLinkRateNum - 1).toNat = rates.supportedLinkRateNum.toNat - 1 :=
      BitVec.toNat_sub_of_le some
    have last : call.start.linkRateEntry = rates.supportedLinkRateNum - 1 := by
      rw [start, maxLinkRateEntry, table]
    have rate : call.start.pair.1 = call.maxRate := rfl
    rw [last, rate, one]
    omega

-----------------------------------------------------------------------------------------
-- Outcomes
-----------------------------------------------------------------------------------------

variable (call)

/-- The sink takes the link parameters, as far as they are checked. -/
def linkSet (answers : AttemptAnswers) : Bool :=
  match call.method with
  | .hw => call.tunneled || (List.range call.dpcd100Tries).any answers.dpcd100
  | .dpcd115 _ => answers.dpcd100 0

def cpSet (answers : AttemptAnswers) : Bool :=
  answers.dpcd10A || decide (call.params.cpMethod = .disable)

/-- The outcome of an attempt, which depends on its answers only. -/
def attemptOutcome (answers : AttemptAnswers) : LtOutcome :=
  if call.linkSet answers && call.cpSet answers then
    if polled answers.polls then .trained
    else if answers.dpcd102 then .notTrained
    else .auxError
  else .auxError

def retryOutcome (answers : Nat → AttemptAnswers) : Nat → Nat → LtOutcome
  | 0, _ => .notTrained
  | tries + 1, first =>
    if call.attemptOutcome (answers first) = .notTrained then
      retryOutcome answers tries (first + 1)
    else call.attemptOutcome (answers first)

def outcome (answers : RoundAnswers) : LtOutcome :=
  call.retryOutcome answers.attempts call.ulMaxRetryCount 0

/-- The answers to a round end the training. -/
def ends (answers : Nat → RoundAnswers) (turn : Nat) : Bool :=
  decide (call.outcome (answers turn) ≠ .notTrained)

theorem setLinkPara_isSome (counters : LtCounters) (bitRate : U32) (answers : AttemptAnswers)
    : (call.setLinkPara counters bitRate answers).isSome = call.linkSet answers := by
  rw [setLinkPara, linkSet]
  cases call.method with
  | hw =>
    cases call.tunneled with
    | true => rfl
    | false =>
      rw [if_neg Bool.false_ne_true, Bool.false_or]
      cases (List.range call.dpcd100Tries).any answers.dpcd100 <;> rfl
  | dpcd115 rates => cases answers.dpcd100 0 <;> rfl

theorem setCpMethod_isSome (answers : AttemptAnswers)
    : (call.setCpMethod answers).isSome = call.cpSet answers := by
  rw [setCpMethod, cpSet]
  cases answers.dpcd10A with
  | true => rfl
  | false => cases call.params.cpMethod <;> rfl

theorem attempt_outcome (counters : LtCounters) (bitRate : U32) (answers : AttemptAnswers)
    (regs : Mmio)
    : (call.attempt counters bitRate answers regs).1 = call.attemptOutcome answers := by
  rw [attempt, attemptOutcome, ← call.setLinkPara_isSome counters bitRate,
    ← call.setCpMethod_isSome]
  cases call.setLinkPara counters bitRate answers with
  | none => rfl
  | some linkWrites =>
    cases call.setCpMethod answers with
    | none => rfl
    | some cpWrites =>
      simp only [Option.isSome_some, Bool.and_self, if_true]
      split
      · rfl
      · split <;> rfl

theorem retry_outcome (counters : LtCounters) (bitRate : U32) (answers : Nat → AttemptAnswers)
    (tries first : Nat) (regs : Mmio)
    : (call.retry counters bitRate answers tries first regs).1
      = call.retryOutcome answers tries first := by
  induction tries generalizing first regs with
  | zero => rfl
  | succ tries ih =>
    have here := call.attempt_outcome counters bitRate (answers first) regs
    rw [retry, retryOutcome, ← here]
    rcases call.attempt counters bitRate (answers first) regs with ⟨outcome, writes, after⟩
    cases outcome with
    | notTrained => exact ih (first + 1) after
    | trained => rfl
    | auxError => rfl

-----------------------------------------------------------------------------------------
-- Rounds
-----------------------------------------------------------------------------------------

/-- The round of some counters. -/
def roundOf (counters : LtCounters) (writes : List DpcdWrite) : LtRound where
  bitRateIndex := counters.bitRateIndex
  ulLaneNum := counters.ulLaneNum
  linkRateEntry := counters.linkRateEntry
  bitRate := call.bitRate counters
  writes := writes

/-- The last round has been made with these answers, and has left these registers. -/
def Made (answers : RoundAnswers) (round : LtRound) (after : Mmio) : Prop :=
  ∃ counters before, call.InStep counters ∧ counters.Running
    ∧ round = call.roundOf counters round.writes
    ∧ call.retry counters (call.bitRate counters) answers.attempts call.ulMaxRetryCount 0 before
      = (call.outcome answers, round.writes, after)

/-- The rounds go through the pairs, from the `turn`-th round of the training on. -/
structure Follows (answers : Nat → RoundAnswers) (turn : Nat) (plan : List (Nat × Nat))
    (outcome : LtOutcome) (rounds : List LtRound) (after : Mmio) : Prop where
  pairs : rounds.map LtRound.pair = tried (call.ends answers) turn plan
  inStep : ∀ round ∈ rounds,
    ∃ counters writes, call.InStep counters ∧ round = call.roundOf counters writes
  exhausted : decided (call.ends answers) turn plan = none → outcome = .notTrained
  decides : ∀ pair last, decided (call.ends answers) turn plan = some (pair, last) →
    outcome = call.outcome (answers last)
      ∧ ∃ round, rounds.getLast? = some round ∧ round.pair = pair
        ∧ call.Made (answers last) round after

/-- Enough fuel takes the loop through the pairs. -/
def Trains (answers : Nat → RoundAnswers) (fuel turn : Nat) (counters : LtCounters)
    (plan : List (Nat × Nat)) : Prop :=
  ∀ regs, ∃ outcome rounds after,
    call.rounds answers fuel turn counters regs = some (outcome, rounds, after)
      ∧ call.Follows answers turn plan outcome rounds after

variable {call} {answers : Nat → RoundAnswers} {fuel turn : Nat} {pairs : List (Nat × Nat)}

theorem Trains.stopped (stopped : ¬ counters.Running)
    : call.Trains answers (fuel + 1) turn counters [] := by
  intro regs
  refine ⟨.notTrained, [], regs, if_neg stopped, ⟨rfl, ?_, fun _ => rfl, ?_⟩⟩
  · intro round member
    cases member
  · intro pair last impossible
    cases impossible

theorem Trains.step (running : counters.Running) (inStep : call.InStep counters)
    (next : call.Trains answers fuel (turn + 1) (call.fallBack counters (answers turn)) pairs)
    : call.Trains answers (fuel + 1) turn counters (counters.pair :: pairs) := by
  intro regs
  have goes : 0 < counters.ulLaneNum ∧ 0 < counters.bitRateIndex := running
  rcases made : call.retry counters (call.bitRate counters) (answers turn).attempts
    call.ulMaxRetryCount 0 regs with ⟨outcome, writes, after⟩
  have isOutcome : outcome = call.outcome (answers turn) := by
    have same := call.retry_outcome counters (call.bitRate counters) (answers turn).attempts
      call.ulMaxRetryCount 0 regs
    rwa [made] at same
  by_cases goesOn : outcome = .notTrained
  · obtain ⟨outcome', later, after', isRun, follows⟩ := next after
    have open_ : call.ends answers turn = false := by
      rw [ends, ← isOutcome, goesOn]
      rfl
    refine ⟨outcome', call.roundOf counters writes :: later, after', ?_, ⟨?_, ?_, ?_, ?_⟩⟩
    · rw [LtCall.rounds, if_pos goes]
      simp only [made, goesOn, isRun, Option.bind_eq_bind, Option.bind_some]
      rfl
    · rw [List.map_cons, follows.pairs, tried, if_neg (by rw [open_]; exact Bool.false_ne_true)]
      rfl
    · intro round member
      rcases List.mem_cons.mp member with rfl | member
      · exact ⟨counters, writes, inStep, rfl⟩
      · exact follows.inStep round member
    · intro none
      rw [decided, if_neg (by rw [open_]; exact Bool.false_ne_true)] at none
      exact follows.exhausted none
    · intro pair last isLast
      rw [decided, if_neg (by rw [open_]; exact Bool.false_ne_true)] at isLast
      obtain ⟨same, round, isRound, rest⟩ := follows.decides pair last isLast
      refine ⟨same, round, ?_, rest⟩
      rw [List.getLast?_cons, isRound]
      rfl
  · have closed : call.ends answers turn = true := by
      rw [ends, ← isOutcome]
      exact decide_eq_true goesOn
    refine ⟨outcome, [call.roundOf counters writes], after, ?_, ⟨?_, ?_, ?_, ?_⟩⟩
    · rw [LtCall.rounds, if_pos goes]
      simp only [made]
      cases outcome with
      | notTrained => exact absurd rfl goesOn
      | trained => rfl
      | auxError => rfl
    · rw [tried, if_pos closed]
      rfl
    · intro round member
      rw [List.mem_singleton.mp member]
      exact ⟨counters, writes, inStep, rfl⟩
    · intro none
      rw [decided, if_pos closed] at none
      cases none
    · intro pair last isLast
      rw [decided, if_pos closed] at isLast
      cases isLast
      exact ⟨isOutcome, call.roundOf counters writes, rfl, rfl, counters, regs, inStep, running, rfl,
        isOutcome ▸ made⟩

-----------------------------------------------------------------------------------------
-- The whole training
-----------------------------------------------------------------------------------------

theorem fallBack_away (away : counters.pair ≠ call.start.pair) (answers : RoundAnswers)
    : call.fallBack counters answers = call.lower { counters with changeSwSwing := false } := by
  have elsewhere : ¬ (counters.bitRateIndex = call.maxBitRateIndex
      ∧ counters.ulLaneNum = call.params.maxLaneCount) := by
    rintro ⟨rate, lane⟩
    exact away (by rw [LtCounters.pair, rate, lane]; rfl)
  simp only [fallBack, elsewhere, false_and, if_false]

/-- At the first pair the status selects the order, and repeats the round at most once. -/
theorem fallBack_start (counters : LtCounters) (atStart : counters.pair = call.start.pair)
    (answers : RoundAnswers)
    : call.fallBack counters answers
      = if call.swingFailed answers ∧ counters.changeSwSwing = false then
          { counters with
            bEqFallBack := counters.bEqFallBack || call.eqFailed answers
            changeSwSwing := true }
        else
          call.lower { counters with
            bEqFallBack := counters.bEqFallBack || call.eqFailed answers
            changeSwSwing := false } := by
  have here : counters.bitRateIndex = call.maxBitRateIndex
      ∧ counters.ulLaneNum = call.params.maxLaneCount :=
    ⟨BitVec.eq_of_toNat_eq (congrArg Prod.fst atStart),
      BitVec.eq_of_toNat_eq (congrArg Prod.snd atStart)⟩
  have flag : (if call.eqFailed answers = true then true else counters.bEqFallBack)
      = (counters.bEqFallBack || call.eqFailed answers) := by
    cases call.eqFailed answers <;> simp
  simp only [fallBack, here, and_self, true_and, flag]

/-- Away from the first pair, the loop goes through the pairs that are left. -/
theorem trains_left (valid : call.method.Valid) {plan : List (Nat × Nat)}
    (isPlan : call.left counters = plan) (away : call.start.pair ∉ plan)
    (inStep : counters.Running → call.InStep counters)
    (stops : counters.Running ∨ counters.pair = (0, 0)) (enough : plan.length < fuel)
    : call.Trains answers fuel turn counters plan := by
  induction plan generalizing counters fuel turn with
  | nil =>
    obtain ⟨fuel, rfl⟩ := Nat.exists_eq_succ_of_ne_zero (Nat.ne_of_gt enough)
    refine .stopped fun running => ?_
    rw [left_lower running] at isPlan
    cases isPlan
  | cons pair rest ih =>
    have running : counters.Running := by
      rcases stops with running | zero
      · exact running
      · rw [left_zero zero] at isPlan
        cases isPlan
    obtain ⟨fuel, rfl⟩ := Nat.exists_eq_succ_of_ne_zero (Nat.ne_of_gt (Nat.zero_lt_of_lt enough))
    let quiet := { counters with changeSwSwing := false }
    have runs : quiet.Running := running
    have steps : call.InStep quiet := ⟨(inStep running).rate, (inStep running).lane,
      (inStep running).entry⟩
    have isCons : counters.pair :: call.left (call.lower quiet) = pair :: rest :=
      (left_lower runs).symm.trans isPlan
    obtain ⟨rfl, isRest⟩ := List.cons.inj isCons
    rw [List.mem_cons, not_or] at away
    refine .step running (inStep running) ?_
    rw [fallBack_away (Ne.symm away.1)]
    exact ih isRest away.2 (fun goesOn => steps.lower valid runs goesOn)
      (running_lower runs steps) (Nat.lt_of_succ_lt_succ enough)

/-- A step down from the first pair leads through the rest of the order. -/
theorem trains_lower_start (counters : LtCounters) (answers : Nat → RoundAnswers) (turn : Nat)
    (valid : call.method.Valid) (running : counters.Running) (inStep : call.InStep counters)
    (atStart : counters.pair = call.start.pair) (enough : (call.order counters.bEqFallBack).length ≤ fuel)
    : ∃ rest, call.order counters.bEqFallBack = call.start.pair :: rest
      ∧ call.Trains answers fuel turn (call.lower counters) rest := by
  have isOrder : call.order counters.bEqFallBack
      = call.start.pair :: call.left (call.lower counters) := by
    rw [order, ← atStart, ← left_lower running]
    exact left_congr atStart.symm rfl
  have distinct := call.nodup_order counters.bEqFallBack
  rw [isOrder] at distinct enough
  exact ⟨_, isOrder, trains_left valid rfl (List.nodup_cons.mp distinct).1
    (inStep.lower valid running) (running_lower running inStep) enough⟩

/-- The loop goes through the plan. -/
theorem trains_plan (valid : call.method.Valid) (enough : (call.plan answers).length < fuel)
    : call.Trains answers fuel 0 call.start (call.plan answers) := by
  obtain ⟨fuel, rfl⟩ := Nat.exists_eq_succ_of_ne_zero (Nat.ne_of_gt (Nat.zero_lt_of_lt enough))
  have inStep := inStep_start valid
  rw [plan] at enough ⊢
  split at enough
  · rename_i empty
    rw [if_pos empty]
    refine .stopped fun ⟨lane, rate⟩ => ?_
    have lane : 0 < call.maxLane := lane
    have rate : 0 < call.maxRate := rate
    omega
  · rename_i some
    rw [if_neg some]
    have running : call.start.Running :=
      ⟨Nat.pos_of_ne_zero fun none => some (.inl none),
        Nat.pos_of_ne_zero fun none => some (.inr none)⟩
    split at enough
    · rename_i swing
      rw [if_pos swing]
      obtain ⟨fuel, rfl⟩ :=
        Nat.exists_eq_succ_of_ne_zero (Nat.ne_of_gt (Nat.zero_lt_of_lt (Nat.lt_of_succ_lt_succ enough)))
      let again := { call.start with
        bEqFallBack := call.eqFailed (answers 0)
        changeSwSwing := true }
      let settled := { call.start with
        bEqFallBack := call.eqFailed (answers 0) || call.eqFailed (answers 1) }
      have repeated : call.fallBack call.start (answers 0) = again := by
        rw [fallBack_start _ rfl, if_pos ⟨swing, rfl⟩]
        rfl
      have lowered : call.fallBack again (answers 1) = call.lower settled := by
        rw [fallBack_start again rfl, if_neg fun repeats => Bool.false_ne_true repeats.2.symm]
        rfl
      obtain ⟨rest, isOrder, trains⟩ := trains_lower_start settled answers (0 + 1 + 1) valid running
        ⟨inStep.rate, inStep.lane, inStep.entry⟩ rfl
        (Nat.le_of_lt_succ (Nat.lt_of_succ_lt_succ enough))
      have second : call.Trains answers (fuel + 1) (0 + 1) again (again.pair :: rest) :=
        .step running ⟨inStep.rate, inStep.lane, inStep.entry⟩ (by rw [lowered]; exact trains)
      rw [isOrder]
      exact .step running inStep (by rw [repeated]; exact second)
    · rename_i quiet
      rw [if_neg quiet]
      let settled := { call.start with bEqFallBack := call.eqFailed (answers 0) }
      have lowered : call.fallBack call.start (answers 0) = call.lower settled := by
        rw [fallBack_start _ rfl, if_neg fun repeats => quiet repeats.1]
        rfl
      obtain ⟨rest, isOrder, trains⟩ := trains_lower_start settled answers (0 + 1) valid running
        ⟨inStep.rate, inStep.lane, inStep.entry⟩ rfl (Nat.le_of_lt_succ enough)
      rw [isOrder]
      exact .step running inStep (by rw [lowered]; exact trains)

end LtCall

end Cx4Kernel.Cbios
