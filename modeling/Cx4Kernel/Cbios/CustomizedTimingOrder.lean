import Cx4Kernel.Cbios.CustomizedTimingRate

/-! The timings that are calculated for standard modes and mode requests: when the calculation is
exact, and which order and which rate they then have.
-/

namespace Cx4Kernel.Cbios

open Cx4Kernel.Foundation

-----------------------------------------------------------------------------------------
-- The requests
-----------------------------------------------------------------------------------------

/-- The size and the rate of a standard timing in `cbEDIDModule_GetStandardMode`, or none if the two
bytes are skipped.
-/
def standardMode (size rate : U8) : Option (U16 × U16 × U16) :=
  if size = 0x01 ∨ size = 0x00 then none
  else
    let xRes : U16 := (size.setWidth 16 + 31) * 8
    let refresh : U16 := ((rate &&& 0x3F).setWidth 16 + 60) * 100
    let yRes : U16 :=
      match (rate &&& 0xC0) >>> 6 with
      | 0 => xRes * 10 / 16
      | 1 => xRes * 3 / 4
      | 2 => xRes * 4 / 5
      | _ => xRes * 9 / 16
    some (xRes, yRes, refresh)

/-- The arguments that `cbCalcCustomizedTiming` is called with, from a standard timing or from a
request for a mode that no table has.
-/
inductive CvtRequested : U16 → U16 → U16 → Prop where
  | standard {size rate : U8} {xRes yRes refreshRate : U16}
      (decoded : standardMode size rate = some (xRes, yRes, refreshRate))
      : CvtRequested xRes yRes refreshRate
  | mode {xRes yRes refreshRate : U16} (wide : 320 ≤ xRes.toNat) (high : 200 ≤ yRes.toNat)
      (slow : 2000 ≤ refreshRate.toNat) (fast : refreshRate.toNat ≤ 24000)
      : CvtRequested xRes yRes refreshRate

theorem CvtRequested.inRange {xRes yRes refreshRate : U16}
    (requested : CvtRequested xRes yRes refreshRate)
    : (CvtRequest.mk xRes.toNat yRes.toNat refreshRate.toNat).InRange := by
  cases requested with
  | @standard size rate _ _ _ decoded =>
    rw [standardMode] at decoded
    split at decoded
    · cases decoded
    rename_i used
    rw [Option.some.injEq, Prod.mk.injEq, Prod.mk.injEq] at decoded
    obtain ⟨isX, isY, isRate⟩ := decoded
    have large : 2 ≤ size.toNat := by
      by_contra small
      rcases (show size.toNat = 0 ∨ size.toNat = 1 by omega) with zero | one
      · exact used (Or.inr (BitVec.eq_of_toNat_eq zero))
      · exact used (Or.inl (BitVec.eq_of_toNat_eq one))
    have bound := size.isLt
    have xValue : xRes.toNat = (size.toNat + 31) * 8 := by
      rw [← isX, BitVec.toNat_mul, BitVec.toNat_add, BitVec.toNat_setWidth]
      change ((size.toNat % 65536 + 31) % 65536) * 8 % 65536 = _
      omega
    have yValue : 148 ≤ yRes.toNat := by
      rw [isX] at isY
      split at isY
      all_goals
        rw [← isY, BitVec.toNat_udiv, BitVec.toNat_mul, xValue]
        simp only [BitVec.ofNat_eq_ofNat, BitVec.toNat_ofNat, Nat.reducePow, Nat.reduceMod]
        rw [Nat.mod_eq_of_lt (by omega), Nat.le_div_iff_mul_le (by decide)]
        omega
    have rateValue : refreshRate.toNat = (rate.toNat % 64 + 60) * 100 := by
      have low : (rate &&& 0x3F).toNat = rate.toNat % 64 := by
        rw [BitVec.toNat_and, show (0x3F : U8).toNat = 2 ^ 6 - 1 from rfl,
          Nat.and_two_pow_sub_one_eq_mod]
      rw [← isRate, BitVec.toNat_mul, BitVec.toNat_add, BitVec.toNat_setWidth, low]
      change ((rate.toNat % 64 % 65536 + 60) % 65536) * 100 % 65536 = _
      omega
    constructor
    · exact ⟨by simp only; omega, xRes.isLt⟩
    · exact ⟨yValue, yRes.isLt⟩
    · simp only
      omega
  | mode wide high slow fast =>
    constructor
    · exact ⟨Nat.le_trans (by decide) wide, xRes.isLt⟩
    · exact ⟨Nat.le_trans (by decide) high, yRes.isLt⟩
    · exact ⟨slow, fast⟩

-----------------------------------------------------------------------------------------
-- The timing
-----------------------------------------------------------------------------------------

/-- The timing has the values that are calculated over the integers, cut to 16 bits. -/
structure CvtRequest.IsTiming (request : CvtRequest) (timing : TimingAttrib) : Prop where
  xRes : timing.xRes.toNat = request.xRes % 65536
  yRes : timing.yRes.toNat = request.yRes % 65536
  refreshRate : timing.refreshRate.toNat = request.verFreq % 65536
  pixelClock : timing.pixelClock.toNat = request.clock * 100
  horTotal : timing.horTotal.toNat = request.horTotal % 65536
  horSyncStart : timing.horSyncStart.toNat = (request.xRes + request.frontPorch) % 65536
  horSyncEnd : timing.horSyncEnd.toNat
    = (request.xRes + request.frontPorch + request.horSync) % 65536
  verTotal : timing.verTotal.toNat = request.verTotal % 65536
  verSyncStart : timing.verSyncStart.toNat = (request.yRes + 3) % 65536
  verSyncEnd : timing.verSyncEnd.toNat = (request.yRes + 3 + request.syncWidth) % 65536

/-- The syncs are inside of the blanking. -/
structure TimingOrdered (xRes yRes : U16) (timing : TimingAttrib) : Prop where
  horSyncStart : xRes ≤ timing.horSyncStart
  horSyncEnd : timing.horSyncStart ≤ timing.horSyncEnd
  horTotal : timing.horSyncEnd ≤ timing.horTotal
  verSyncStart : yRes < timing.verSyncStart
  verSyncEnd : timing.verSyncStart < timing.verSyncEnd
  verTotal : timing.verSyncEnd ≤ timing.verTotal

variable {xRes yRes refreshRate : U32}

theorem fillCustomizedTiming_checked (range : (cvtRequest xRes yRes refreshRate).InRange)
    (exact : (cvtRequest xRes yRes refreshRate).Exact)
    {verFreq sync verTotal verBlanking horSync horTotal porch clock : U32}
    (isFreq : verFreq.toNat = (cvtRequest xRes yRes refreshRate).verFreq)
    (isSync : sync.toNat = (cvtRequest xRes yRes refreshRate).syncWidth)
    (isVer : verTotal.toNat = (cvtRequest xRes yRes refreshRate).verTotal)
    (isBlank : verBlanking.toNat = verTotal.toNat - yRes.toNat)
    (isHorSync : horSync.toNat = (cvtRequest xRes yRes refreshRate).horSync)
    (isHor : horTotal.toNat = (cvtRequest xRes yRes refreshRate).horTotal)
    (isPorch : porch.toNat = (cvtRequest xRes yRes refreshRate).frontPorch)
    (isClock : clock.toNat = (cvtRequest xRes yRes refreshRate).clock)
    : ∃ timing, fillCustomizedTiming .checked xRes yRes verFreq sync verTotal verBlanking horSync
        horTotal porch clock = some timing
      ∧ (cvtRequest xRes yRes refreshRate).IsTiming timing := by
  have wide := range.xRes.2
  have high := range.yRes.2
  change xRes.toNat < 65536 at wide
  change yRes.toNat < 65536 at high
  have blank := (CvtRequest.blanking_bounds range).2
  change _ ≤ xRes.toNat at blank
  have syncs := CvtRequest.horSync_le range
  have lines := CvtRequest.verTotal_bounds range
  have width := CvtRequest.syncWidth_bounds (cvtRequest xRes yRes refreshRate)
  have room := exact.clock
  have porchLe : porch.toNat ≤ xRes.toNat := by
    rw [isPorch, CvtRequest.frontPorch]
    omega
  obtain ⟨horStart, isHorStart, horStartValue⟩ :=
    WordArith.checked_add xRes porch (by omega)
  obtain ⟨verStart, isVerStart, verStartValue⟩ :=
    WordArith.checked_add yRes minVFPorch (by change _ + 3 < _; omega)
  replace verStartValue : verStart.toNat = yRes.toNat + 3 := verStartValue
  obtain ⟨clock100, isClock100, clockValue⟩ :=
    WordArith.checked_mul clock 100 (by change _ * 100 < _; omega)
  replace clockValue : clock100.toNat = clock.toNat * 100 := clockValue
  obtain ⟨horEnd, isHorEnd, horEndValue⟩ :=
    WordArith.checked_add horStart horSync (by omega)
  obtain ⟨verBEnd, isVerBEnd, -⟩ :=
    WordArith.checked_add yRes verBlanking (by omega)
  obtain ⟨verEnd, isVerEnd, verEndValue⟩ :=
    WordArith.checked_add verStart sync (by omega)
  simp only [fillCustomizedTiming, isHorStart, isVerStart, isClock100, isHorEnd, isVerBEnd,
    isVerEnd, Option.bind_eq_bind, Option.bind_some, Option.pure_def]
  refine ⟨_, rfl, ?_⟩
  constructor
  all_goals simp only [BitVec.toNat_setWidth]
  · rfl
  · rfl
  · rw [isFreq]
  · rw [clockValue, isClock]
  · rw [isHor]
  · rw [horStartValue, isPorch]
    rfl
  · rw [horEndValue, horStartValue, isPorch, isHorSync]
    rfl
  · rw [isVer]
  · rw [verStartValue]
    rfl
  · rw [verEndValue, verStartValue, isSync]
    rfl

/-- The second half is exact if the clock has room, and else overflows. -/
theorem calcHorTiming_checked (range : (cvtRequest xRes yRes refreshRate).InRange)
    (short : (cvtRequest xRes yRes refreshRate).linePeriod ≤ 10003)
    {hPeriod sync verTotal verBlanking : U32}
    (isPeriod : hPeriod.toNat = (cvtRequest xRes yRes refreshRate).linePeriod)
    (isSync : sync.toNat = (cvtRequest xRes yRes refreshRate).syncWidth)
    (isVer : verTotal.toNat = (cvtRequest xRes yRes refreshRate).verTotal)
    (isBlank : verBlanking.toNat = verTotal.toNat - yRes.toNat)
    : (1000 * (cvtRequest xRes yRes refreshRate).clock < 2 ^ 32 →
        ∃ timing, calcHorTiming .checked xRes yRes hPeriod sync verTotal verBlanking
          = some (some timing)
        ∧ (cvtRequest xRes yRes refreshRate).IsTiming timing)
      ∧ (2 ^ 32 ≤ 1000 * (cvtRequest xRes yRes refreshRate).clock →
        calcHorTiming .checked xRes yRes hPeriod sync verTotal verBlanking = none) := by
  have wide := range.xRes
  change 264 ≤ xRes.toNat ∧ xRes.toNat < 65536 at wide
  have blank := (CvtRequest.blanking_bounds range).2
  change _ ≤ xRes.toNat at blank
  have syncs := CvtRequest.horSync_le range
  have period := CvtRequest.linePeriod_bounds range
  obtain ⟨duty, isDuty, dutyValue⟩ :=
    toNat_idealDutyCycle hPeriod (by rw [isPeriod]; exact short)
  rw [isPeriod] at dutyValue
  obtain ⟨blanking, isBlanking, blankingValue⟩ := toNat_horBlanking range dutyValue
  obtain ⟨horTotal, isHor, horSum⟩ :=
    WordArith.checked_add xRes blanking (by omega)
  have horValue : horTotal.toNat = (cvtRequest xRes yRes refreshRate).horTotal := by
    rw [horSum, blankingValue]
    rfl
  obtain ⟨horSync, isHorSync, syncValue⟩ :=
    toNat_horSyncWidth horTotal (by omega)
  replace syncValue : horSync.toNat = (cvtRequest xRes yRes refreshRate).horSync := by
    rw [syncValue, horValue, CvtRequest.horSync]
  obtain ⟨backPorch, isBack, backValue⟩ :=
    WordArith.checked_div blanking 2 (by decide)
  replace backValue : backPorch.toNat = blanking.toNat / 2 := backValue
  obtain ⟨rest, isRest, restValue⟩ :=
    WordArith.checked_sub blanking horSync (by omega)
  obtain ⟨frontPorch, isFront, frontValue⟩ :=
    WordArith.checked_sub rest backPorch (by omega)
  replace frontValue
      : frontPorch.toNat = (cvtRequest xRes yRes refreshRate).frontPorch := by
    rw [frontValue, restValue, backValue, blankingValue, syncValue, CvtRequest.frontPorch]
  obtain ⟨clock, isClock, clockValue⟩ :=
    toNat_steppedClock horTotal hPeriod (by omega) (by omega)
      (by omega)
  replace clockValue : clock.toNat = (cvtRequest xRes yRes refreshRate).clock := by
    rw [clockValue, horValue, isPeriod, CvtRequest.clock]
  constructor
  · intro room
    obtain ⟨verFreq, isFreq, freqValue⟩ :=
      toNat_actualVerFreq range clockValue horValue isVer room
    obtain ⟨timing, isTiming, values⟩ := fillCustomizedTiming_checked range ⟨short, room⟩
      freqValue isSync isVer isBlank syncValue horValue frontValue clockValue
    refine ⟨timing, ?_, values⟩
    simp only [calcHorTiming, isDuty, isBlanking, isHor, isHorSync, isBack, isRest, isFront,
      isClock, isFreq, isTiming, Option.bind_eq_bind, Option.bind_some, Option.pure_def]
  · intro overflow
    have someHor : horTotal ≠ 0 := by
      intro zero
      rw [zero] at horSum
      change 0 = _ at horSum
      omega
    have fails := actualVerFreq_none verTotal someHor
      (by rw [clockValue]; exact overflow)
    simp only [calcHorTiming, isDuty, isBlanking, isHor, isHorSync, isBack, isRest, isFront,
      isClock, fails, Option.bind_eq_bind, Option.bind_some, Option.bind_none]

/-- The first half is always exact. -/
theorem cbCalcCustomizedTiming_eq (range : (cvtRequest xRes yRes refreshRate).InRange)
    : ∃ hPeriod sync verTotal verBlanking,
      cbCalcCustomizedTiming .checked xRes yRes refreshRate
        = calcHorTiming .checked xRes yRes hPeriod sync verTotal verBlanking
      ∧ hPeriod.toNat = (cvtRequest xRes yRes refreshRate).linePeriod
      ∧ sync.toNat = (cvtRequest xRes yRes refreshRate).syncWidth
      ∧ verTotal.toNat = (cvtRequest xRes yRes refreshRate).verTotal
      ∧ verBlanking.toNat = verTotal.toNat - yRes.toNat := by
  have high := range.yRes.2
  have slow := range.refreshRate.1
  change yRes.toNat < 65536 at high
  change 2000 ≤ refreshRate.toNat at slow
  have nonzero : refreshRate ≠ 0 := by
    intro zero
    rw [zero] at slow
    exact absurd slow (by decide)
  have porch := CvtRequest.syncBackPorch_bounds range
  have total : (cvtRequest xRes yRes refreshRate).verTotal
      = yRes.toNat + (cvtRequest xRes yRes refreshRate).syncBackPorch + 3 := rfl
  obtain ⟨sync, isSync, syncValue⟩ := toNat_cbGetVsyncWidth range
  obtain ⟨hPeriod, isPeriod, periodValue⟩ := toNat_hPeriodEst range
  obtain ⟨syncBP, isSyncBP, syncBPValue⟩ := toNat_vSyncBP range periodValue syncValue
  obtain ⟨lines, isLines, linesValue⟩ :=
    WordArith.checked_add yRes syncBP (by omega)
  obtain ⟨verTotal, isVer, verValue⟩ :=
    WordArith.checked_add lines minVFPorch (by change _ + 3 < _; omega)
  replace verValue : verTotal.toNat = lines.toNat + 3 := verValue
  obtain ⟨verBlanking, isBlank, blankValue⟩ :=
    WordArith.checked_sub verTotal yRes (by omega)
  refine ⟨hPeriod, sync, verTotal, verBlanking, ?_, periodValue, syncValue, by omega, blankValue⟩
  simp only [cbCalcCustomizedTiming, nonzero, if_false, isSync, isPeriod, isSyncBP, isLines,
    isVer, isBlank, Option.bind_eq_bind, Option.bind_some]

/-- The calculation is exact where the conditions hold. -/
theorem cbCalcCustomizedTiming_checked (range : (cvtRequest xRes yRes refreshRate).InRange)
    (exact : (cvtRequest xRes yRes refreshRate).Exact)
    : ∃ timing, cbCalcCustomizedTiming .checked xRes yRes refreshRate = some (some timing)
      ∧ (cvtRequest xRes yRes refreshRate).IsTiming timing := by
  obtain ⟨hPeriod, sync, verTotal, verBlanking, same, isPeriod, isSync, isVer, isBlank⟩ :=
    cbCalcCustomizedTiming_eq range
  rw [same]
  exact (calcHorTiming_checked range exact.linePeriod isPeriod isSync isVer isBlank).1 exact.clock

/-- It is not exact where a condition fails. -/
theorem cbCalcCustomizedTiming_none (range : (cvtRequest xRes yRes refreshRate).InRange)
    (inexact : ¬ (cvtRequest xRes yRes refreshRate).Exact)
    : cbCalcCustomizedTiming .checked xRes yRes refreshRate = none := by
  obtain ⟨hPeriod, sync, verTotal, verBlanking, same, isPeriod, isSync, isVer, isBlank⟩ :=
    cbCalcCustomizedTiming_eq range
  rw [same]
  by_cases short : (cvtRequest xRes yRes refreshRate).linePeriod ≤ 10003
  · refine (calcHorTiming_checked range short isPeriod isSync isVer isBlank).2 ?_
    by_contra room
    exact inexact ⟨short, Nat.lt_of_not_le room⟩
  · have most := (CvtRequest.linePeriod_bounds range).2
    have fails := idealDutyCycle_none hPeriod (by omega) (by omega)
    simp only [calcHorTiming, fails, Option.bind_eq_bind, Option.bind_none]

-----------------------------------------------------------------------------------------
-- Order
-----------------------------------------------------------------------------------------

/-- The syncs are in order exactly if the totals have room in 16 bits. -/
theorem CvtRequest.IsTiming.ordered_iff {xRes yRes refreshRate : U16} {timing : TimingAttrib}
    (range : (CvtRequest.mk xRes.toNat yRes.toNat refreshRate.toNat).InRange)
    (values : (CvtRequest.mk xRes.toNat yRes.toNat refreshRate.toNat).IsTiming timing)
    : TimingOrdered xRes yRes timing
      ↔ (CvtRequest.mk xRes.toNat yRes.toNat refreshRate.toNat).horTotal < 65536
        ∧ (CvtRequest.mk xRes.toNat yRes.toNat refreshRate.toNat).verTotal < 65536 := by
  obtain ⟨request, isRequest⟩ : ∃ request,
      request = CvtRequest.mk xRes.toNat yRes.toNat refreshRate.toNat := ⟨_, rfl⟩
  have isX : request.xRes = xRes.toNat := by rw [isRequest]
  have isY : request.yRes = yRes.toNat := by rw [isRequest]
  rw [← isRequest] at range values ⊢
  have wide := range.xRes
  have high := range.yRes
  have blank := (CvtRequest.blanking_bounds range).2
  have syncs := CvtRequest.horSync_le range
  have porch := CvtRequest.syncBackPorch_bounds range
  have width := CvtRequest.syncWidth_bounds request
  have front : request.frontPorch + request.horSync ≤ request.blanking := by
    rw [CvtRequest.frontPorch]
    omega
  have horTotal : request.horTotal = request.xRes + request.blanking := rfl
  have verTotal : request.verTotal = request.yRes + request.syncBackPorch + 3 := rfl
  have horTotalValue := values.horTotal
  have horStartValue := values.horSyncStart
  have horEndValue := values.horSyncEnd
  have verTotalValue := values.verTotal
  have verStartValue := values.verSyncStart
  have verEndValue := values.verSyncEnd
  constructor
  · intro ordered
    have horStart : xRes.toNat ≤ timing.horSyncStart.toNat := ordered.horSyncStart
    have horEnd : timing.horSyncStart.toNat ≤ timing.horSyncEnd.toNat := ordered.horSyncEnd
    have horLast : timing.horSyncEnd.toNat ≤ timing.horTotal.toNat := ordered.horTotal
    have verStart : yRes.toNat < timing.verSyncStart.toNat := ordered.verSyncStart
    have verEnd : timing.verSyncStart.toNat < timing.verSyncEnd.toNat := ordered.verSyncEnd
    have verLast : timing.verSyncEnd.toNat ≤ timing.verTotal.toNat := ordered.verTotal
    omega
  · rintro ⟨horFits, verFits⟩
    constructor
    · exact (show xRes.toNat ≤ timing.horSyncStart.toNat by omega)
    · exact (show timing.horSyncStart.toNat ≤ timing.horSyncEnd.toNat by omega)
    · exact (show timing.horSyncEnd.toNat ≤ timing.horTotal.toNat by omega)
    · exact (show yRes.toNat < timing.verSyncStart.toNat by omega)
    · exact (show timing.verSyncStart.toNat < timing.verSyncEnd.toNat by omega)
    · exact (show timing.verSyncEnd.toNat ≤ timing.verTotal.toNat by omega)

/-- A run for the size and the rate of a request. -/
def calcRequested {m : Type → Type} [Monad m] (arith : WordArith m 32)
    (xRes yRes refreshRate : U16)
    : m (Option TimingAttrib) :=
  cbCalcCustomizedTiming arith (xRes.setWidth 32) (yRes.setWidth 32) (refreshRate.setWidth 32)

/-- The calculation is exact if the blanking has a share of the line and the clock has room. It then
succeeds, with the syncs in order if the totals have room, and with the rate of its frame, which is
less than 1 Hz off in the sizes of common modes.
-/
theorem cbCalcCustomizedTiming_wellFormed {xRes yRes refreshRate : U16}
    (requested : CvtRequested xRes yRes refreshRate)
    : let request : CvtRequest := ⟨xRes.toNat, yRes.toNat, refreshRate.toNat⟩
      ((calcRequested .checked xRes yRes refreshRate).isSome = true ↔ request.Exact)
      ∧ (request.Exact → ∃ timing,
        (calcRequested .wrapping xRes yRes refreshRate).run = some timing
        ∧ (TimingOrdered xRes yRes timing
          ↔ request.horTotal < 65536 ∧ request.verTotal < 65536)
        ∧ request.RateOfFrame timing.refreshRate.toNat
        ∧ (640 ≤ xRes.toNat → 480 ≤ yRes.toNat → yRes.toNat ≤ 4320 → refreshRate.toNat ≤ 12300 →
          timing.refreshRate.toNat < refreshRate.toNat + 100
          ∧ refreshRate.toNat < timing.refreshRate.toNat + 100)) := by
  intro request
  have range := requested.inRange
  have same : cvtRequest (xRes.setWidth 32) (yRes.setWidth 32) (refreshRate.setWidth 32)
      = request := by
    rw [cvtRequest, BitVec.toNat_setWidth_of_le (by decide),
      BitVec.toNat_setWidth_of_le (by decide), BitVec.toNat_setWidth_of_le (by decide)]
  have range' := range
  change request.InRange at range'
  rw [← same] at range'
  constructor
  · constructor
    · intro some
      by_contra inexact
      rw [← same] at inexact
      rw [calcRequested, cbCalcCustomizedTiming_none range' inexact] at some
      exact Bool.false_ne_true some
    · intro exact
      rw [← same] at exact
      obtain ⟨timing, done, -⟩ := cbCalcCustomizedTiming_checked range' exact
      rw [calcRequested, done]
      rfl
  · intro exact
    rw [← same] at exact
    obtain ⟨timing, done, values⟩ := cbCalcCustomizedTiming_checked range' exact
    rw [same] at values
    have rate : timing.refreshRate.toNat = request.verFreq := by
      rw [values.refreshRate, Nat.mod_eq_of_lt (CvtRequest.verFreq_lt range)]
    refine ⟨timing, agree_cbCalcCustomizedTiming _ _ _ _ done, values.ordered_iff range, ?_, ?_⟩
    · rw [rate]
      exact CvtRequest.verFreq_rateOfFrame range
    · intro wide few many slow
      rw [rate]
      exact CvtRequest.verFreq_close range wide ⟨few, many⟩ slow

/-- Full HD at 60 Hz is exact, in order, and less than 1 Hz off. -/
theorem cbCalcCustomizedTiming_wellFormed_fullHd
    : ∃ timing, (calcRequested .wrapping 1920 1080 6000).run = some timing
      ∧ TimingOrdered 1920 1080 timing
      ∧ timing.refreshRate.toNat < 6100 ∧ 6000 < timing.refreshRate.toNat + 100 := by
  have requested : CvtRequested 1920 1080 6000 :=
    .mode (by decide) (by decide) (by decide) (by decide)
  obtain ⟨timing, done, ordered, -, close⟩ :=
    (cbCalcCustomizedTiming_wellFormed requested).2 ⟨by decide, by decide⟩
  exact ⟨timing, done, ordered.mpr ⟨by decide, by decide⟩,
    close (by decide) (by decide) (by decide) (by decide)⟩

/-- A standard timing of 264x148 underflows, and its horizontal syncs are out of order. A mode of
1253x203 is 2.76 Hz off.
-/
theorem cbCalcCustomizedTiming_narrow
    : standardMode 0x02 0xC0 = some (264, 148, 6000)
      ∧ calcRequested .checked 264 148 6000 = none
      ∧ (calcRequested .wrapping 264 148 6000).run.map
          (fun timing => (timing.horSyncStart, timing.horSyncEnd, timing.horTotal))
        = some (46000, 14168, 28072)
      ∧ (calcRequested .checked 1253 203 7001).isSome = true
      ∧ (calcRequested .wrapping 1253 203 7001).run.map (fun timing => timing.refreshRate)
        = some 6725 := by
  decide +kernel

end Cx4Kernel.Cbios
