import Cx4Kernel.Cbios.CustomizedTiming
import Mathlib.Tactic.Ring

/-! The calculation of a timing over the integers, and when the one over words computes the same. -/

namespace Cx4Kernel.Cbios

open Cx4Kernel.Foundation

-----------------------------------------------------------------------------------------
-- The calculation over the integers
-----------------------------------------------------------------------------------------

/-- A quotient rounded to the nearest integer. -/
def nearest (dividend divisor : Nat) : Nat := (2 * dividend + divisor) / (2 * divisor)

/-- A size and a refresh rate in hundredths of a hertz, from which a timing is calculated. -/
structure CvtRequest where
  xRes : Nat
  yRes : Nat
  refreshRate : Nat

namespace CvtRequest

variable (request : CvtRequest)

def syncWidth : Nat :=
  let ratio := request.xRes * 100 / request.yRes
  if ratio = 133 then 4
  else if ratio = 177 then 5
  else if ratio = 160 then 6
  else if ratio = 166 then 7
  else 10

/-- The time of a line in hundredths of a microsecond. -/
def linePeriod : Nat :=
  nearest ((100000000 / request.refreshRate - 550) * 100) (request.yRes + 3)

/-- The lines of the vertical sync and the back porch. -/
def syncBackPorch : Nat := max (nearest 55000 request.linePeriod + 1) (request.syncWidth + 6)

def verTotal : Nat := request.yRes + request.syncBackPorch + 3

/-- The share of the blanking in hundredths of a percent. -/
def dutyCycle : Nat := max (3000 - 300 * request.linePeriod / 1000) 2000

def blanking : Nat :=
  16 * nearest (request.xRes * request.dutyCycle / (10000 - request.dutyCycle)) 16

def horTotal : Nat := request.xRes + request.blanking

def horSync : Nat := 8 * nearest (8 * request.horTotal) 800

def frontPorch : Nat := request.blanking - request.horSync - request.blanking / 2

/-- The clock in hundredths of a megahertz. -/
def clock : Nat := 25 * nearest (nearest (10000 * request.horTotal) request.linePeriod) 25

def horFreq : Nat := 1000 * request.clock / request.horTotal

def verFreq : Nat := 1000 * request.horFreq / request.verTotal

/-- The sizes and rates that the calculation is asked for. -/
structure InRange : Prop where
  xRes : 264 ≤ request.xRes ∧ request.xRes < 65536
  yRes : 148 ≤ request.yRes ∧ request.yRes < 65536
  refreshRate : 2000 ≤ request.refreshRate ∧ request.refreshRate ≤ 24000

/-- The blanking leaves a share of the line, and the clock has room for three more digits. -/
structure Exact : Prop where
  linePeriod : request.linePeriod ≤ 10003
  clock : 1000 * request.clock < 2 ^ 32

end CvtRequest

-----------------------------------------------------------------------------------------
-- Rounding
-----------------------------------------------------------------------------------------

theorem nearest_eq {dividend divisor : Nat} (positive : 0 < divisor)
    : nearest dividend divisor
      = if divisor ≤ 2 * (dividend % divisor) then dividend / divisor + 1
        else dividend / divisor := by
  have less := Nat.mod_lt dividend positive
  have parts := Nat.div_add_mod dividend divisor
  obtain ⟨rest, isRest⟩ : ∃ rest, rest = dividend % divisor := ⟨_, rfl⟩
  have numerator : 2 * dividend + divisor
      = 2 * rest + divisor + 2 * divisor * (dividend / divisor) := by
    rw [isRest, Nat.mul_assoc]
    omega
  rw [← isRest] at less ⊢
  rw [nearest, numerator, Nat.add_mul_div_left _ _ (by omega)]
  by_cases up : divisor ≤ 2 * rest
  · rw [if_pos up, Nat.div_eq_of_lt_le (show 1 * (2 * divisor) ≤ _ by omega) (by omega)]
    omega
  · rw [if_neg up, Nat.div_eq_of_lt (by omega), Nat.zero_add]

/-- A rounded quotient is at most half of the divisor off. -/
theorem nearest_bounds (dividend : Nat) {divisor : Nat} (positive : 0 < divisor)
    : 2 * dividend < 2 * divisor * nearest dividend divisor + divisor
      ∧ 2 * divisor * nearest dividend divisor ≤ 2 * dividend + divisor := by
  have parts := Nat.div_add_mod (2 * dividend + divisor) (2 * divisor)
  have less := Nat.mod_lt (2 * dividend + divisor) (show 0 < 2 * divisor by omega)
  rw [nearest]
  omega

theorem toNat_cbRoundIn (dividend divisor : U32) (positive : 0 < divisor.toNat)
    (half : divisor.toNat ≤ 2 ^ 31)
    : ∃ z, cbRoundIn .checked dividend divisor .nearest = some z
      ∧ z.toNat = nearest dividend.toNat divisor.toNat := by
  have nonzero : divisor ≠ 0 := by
    intro zero
    rw [zero] at positive
    exact Nat.lt_irrefl 0 positive
  have less := Nat.mod_lt dividend.toNat positive
  obtain ⟨remainder, isRemainder, remainderValue⟩ := WordArith.checked_rem dividend divisor positive
  obtain ⟨ret, isRet, retValue⟩ := WordArith.checked_div dividend divisor positive
  obtain ⟨twice, isTwice, twiceValue⟩ := WordArith.checked_mul remainder 2
    (by rw [remainderValue]; change _ * 2 < _; omega)
  have twiceValue : twice.toNat = 2 * (dividend.toNat % divisor.toNat) := by
    rw [twiceValue, remainderValue, Nat.mul_comm]
    rfl
  rw [nearest_eq positive]
  simp only [cbRoundIn, nonzero, if_false, isRemainder, isRet, isTwice, Option.bind_eq_bind,
    Option.bind_some, BitVec.le_def, twiceValue]
  by_cases up : divisor.toNat ≤ 2 * (dividend.toNat % divisor.toNat)
  · have small : dividend.toNat / divisor.toNat ≤ dividend.toNat / 2 :=
      Nat.div_le_div_left (by omega) (by decide)
    have bound := dividend.isLt
    obtain ⟨next, isNext, nextValue⟩ := WordArith.checked_add ret 1
      (by rw [retValue]; change _ + 1 < _; omega)
    rw [if_pos up, if_pos up]
    exact ⟨next, isNext, by rw [nextValue, retValue]; rfl⟩
  · rw [if_neg up, if_neg up]
    exact ⟨ret, rfl, retValue⟩

-----------------------------------------------------------------------------------------
-- Bounds
-----------------------------------------------------------------------------------------

namespace CvtRequest

variable {request : CvtRequest}

theorem frame_bounds (range : request.InRange)
    : 4166 ≤ 100000000 / request.refreshRate ∧ 100000000 / request.refreshRate ≤ 50000 := by
  obtain ⟨low, high⟩ := range.refreshRate
  constructor
  · rw [Nat.le_div_iff_mul_le (by omega)]
    omega
  · rw [Nat.div_le_iff_le_mul_add_pred (by omega)]
    omega

theorem linePeriod_bounds (range : request.InRange)
    : 5 ≤ request.linePeriod ∧ request.linePeriod ≤ 40000 := by
  obtain ⟨short, long⟩ := frame_bounds range
  obtain ⟨few, many⟩ := range.yRes
  rw [linePeriod, nearest]
  constructor
  · rw [Nat.le_div_iff_mul_le (by omega)]
    omega
  · rw [Nat.div_le_iff_le_mul_add_pred (by omega)]
    omega

theorem syncWidth_bounds (request : CvtRequest)
    : 4 ≤ request.syncWidth ∧ request.syncWidth ≤ 10 := by
  dsimp only [syncWidth]
  split_ifs <;> decide

theorem syncBackPorch_bounds (range : request.InRange)
    : request.syncWidth + 6 ≤ request.syncBackPorch ∧ request.syncBackPorch ≤ 11002 := by
  have sync := syncWidth_bounds request
  obtain ⟨short, -⟩ := linePeriod_bounds range
  have porch : nearest 55000 request.linePeriod ≤ 11001 := by
    rw [nearest, Nat.div_le_iff_le_mul_add_pred (by omega)]
    omega
  rw [syncBackPorch]
  omega

theorem verTotal_bounds (range : request.InRange)
    : request.yRes + 13 ≤ request.verTotal ∧ request.verTotal < 2 ^ 17 := by
  have sync := syncWidth_bounds request
  have porch := syncBackPorch_bounds range
  have lines := range.yRes
  rw [verTotal]
  omega

theorem dutyCycle_bounds (request : CvtRequest)
    : 2000 ≤ request.dutyCycle ∧ request.dutyCycle ≤ 3000 := by
  rw [dutyCycle]
  omega

/-- The blanking is between a fifth and three tenths of the line, up to the rounding to cells. -/
theorem blanking_bounds (range : request.InRange)
    : request.xRes ≤ 4 * request.blanking + 31 ∧ request.blanking ≤ request.xRes := by
  obtain ⟨low, high⟩ := dutyCycle_bounds request
  obtain ⟨narrow, wide⟩ := range.xRes
  obtain ⟨pixels, isPixels⟩ : ∃ pixels,
      pixels = request.xRes * request.dutyCycle / (10000 - request.dutyCycle) := ⟨_, rfl⟩
  have least : request.xRes / 4 ≤ pixels := by
    rw [isPixels, Nat.le_div_iff_mul_le (by omega)]
    calc request.xRes / 4 * (10000 - request.dutyCycle)
        ≤ request.xRes / 4 * 8000 := Nat.mul_le_mul_left _ (by omega)
      _ ≤ request.xRes * 2000 := by omega
      _ ≤ request.xRes * request.dutyCycle := Nat.mul_le_mul_left _ low
  have most : pixels ≤ request.xRes / 2 := by
    rw [isPixels, Nat.div_le_iff_le_mul_add_pred (by omega)]
    calc request.xRes * request.dutyCycle
        ≤ request.xRes * 3000 := Nat.mul_le_mul_left _ high
      _ ≤ 7000 * (request.xRes / 2) := by omega
      _ ≤ (10000 - request.dutyCycle) * (request.xRes / 2) :=
        Nat.mul_le_mul_right _ (by omega)
      _ ≤ _ := by omega
  have rounded := nearest_bounds pixels (show 0 < 16 by decide)
  rw [blanking, ← isPixels]
  omega

/-- The sync is at most half of the blanking. -/
theorem horSync_le (range : request.InRange) : request.horSync ≤ request.blanking / 2 := by
  have blank := blanking_bounds range
  have rounded := nearest_bounds (8 * request.horTotal) (show 0 < 800 by decide)
  obtain ⟨cells, isCells⟩ : ∃ cells, request.blanking = 16 * cells := ⟨_, rfl⟩
  have total : request.horTotal = request.xRes + 16 * cells := by rw [horTotal, isCells]
  rw [horSync]
  omega

theorem clock_bounds (range : request.InRange)
    : 2 * request.linePeriod * request.clock ≤ 20000 * request.horTotal + 26 * request.linePeriod
      ∧ 20000 * request.horTotal ≤ 2 * request.linePeriod * request.clock
        + 26 * request.linePeriod := by
  obtain ⟨some, -⟩ := linePeriod_bounds range
  obtain ⟨lower, upper⟩ := nearest_bounds (10000 * request.horTotal)
    (show 0 < request.linePeriod by omega)
  obtain ⟨exact, isExact⟩ : ∃ exact,
      exact = nearest (10000 * request.horTotal) request.linePeriod := ⟨_, rfl⟩
  obtain ⟨stepLower, stepUpper⟩ := nearest_bounds exact (show 0 < 25 by decide)
  have steps : request.clock = 25 * nearest exact 25 := by rw [isExact, clock]
  rw [← isExact] at lower upper
  have above : request.clock ≤ exact + 12 := by omega
  have below : exact ≤ request.clock + 12 := by omega
  have aboveLine := Nat.mul_le_mul_left (2 * request.linePeriod) above
  have belowLine := Nat.mul_le_mul_left (2 * request.linePeriod) below
  rw [Nat.mul_add] at aboveLine belowLine
  omega

/-- A thousand lines of the period leave room for three more digits. -/
theorem horFreq_le (range : request.InRange) : request.horFreq ≤ 2000050 := by
  obtain ⟨some, -⟩ := linePeriod_bounds range
  obtain ⟨upper, -⟩ := clock_bounds range
  have wide : 264 ≤ request.horTotal := Nat.le_trans range.xRes.1 (Nat.le_add_right _ _)
  have bound : request.clock ≤ 2000 * request.horTotal + 13 := by
    by_contra more
    have large := Nat.mul_le_mul_left (2 * request.linePeriod)
      (show 2000 * request.horTotal + 14 ≤ request.clock by omega)
    have lines := Nat.mul_le_mul_right (4000 * request.horTotal) some
    have split : 2 * request.linePeriod * (2000 * request.horTotal + 14)
        = request.linePeriod * (4000 * request.horTotal) + 28 * request.linePeriod := by ring
    omega
  rw [horFreq, Nat.div_le_iff_le_mul_add_pred (by omega)]
  omega

end CvtRequest

-----------------------------------------------------------------------------------------
-- The stages of the calculation
-----------------------------------------------------------------------------------------

/-- The request of the arguments of a call. -/
def cvtRequest (xRes yRes refreshRate : U32) : CvtRequest :=
  ⟨xRes.toNat, yRes.toNat, refreshRate.toNat⟩

variable {xRes yRes refreshRate : U32}

theorem toNat_cbGetVsyncWidth (range : (cvtRequest xRes yRes refreshRate).InRange)
    : ∃ z, cbGetVsyncWidth .checked xRes yRes = some z
      ∧ z.toNat = (cvtRequest xRes yRes refreshRate).syncWidth := by
  obtain ⟨few, many⟩ := range.yRes
  obtain ⟨narrow, wide⟩ := range.xRes
  change 148 ≤ yRes.toNat at few
  change xRes.toNat < 65536 at wide
  have lines : yRes ≠ 0 := by
    intro zero
    rw [zero] at few
    exact absurd few (by decide)
  obtain ⟨scaled, isScaled, scaledValue⟩ := WordArith.checked_mul xRes 100
    (by change _ * 100 < _; omega)
  obtain ⟨temp, isTemp, tempValue⟩ := WordArith.checked_div scaled yRes (by omega)
  have ratio (value : Nat) (small : value < 2 ^ 32)
      : temp = BitVec.ofNat 32 value ↔ xRes.toNat * 100 / yRes.toNat = value := by
    rw [← BitVec.toNat_inj, tempValue, scaledValue, BitVec.toNat_ofNat, Nat.mod_eq_of_lt small]
    rfl
  have r133 : temp = 133 ↔ _ := ratio 133 (by decide)
  have r177 : temp = 177 ↔ _ := ratio 177 (by decide)
  have r160 : temp = 160 ↔ _ := ratio 160 (by decide)
  have r166 : temp = 166 ↔ _ := ratio 166 (by decide)
  change ∃ z : U32, _ ∧ z.toNat = if xRes.toNat * 100 / yRes.toNat = 133 then 4
    else if xRes.toNat * 100 / yRes.toNat = 177 then 5
    else if xRes.toNat * 100 / yRes.toNat = 160 then 6
    else if xRes.toNat * 100 / yRes.toNat = 166 then 7
    else 10
  simp only [cbGetVsyncWidth, lines, if_false, isScaled, isTemp, Option.bind_eq_bind,
    Option.bind_some, r133, r177, r160, r166]
  split_ifs
  all_goals exact ⟨_, rfl, rfl⟩

theorem toNat_hPeriodEst (range : (cvtRequest xRes yRes refreshRate).InRange)
    : ∃ z, hPeriodEst .checked refreshRate yRes = some z
      ∧ z.toNat = (cvtRequest xRes yRes refreshRate).linePeriod := by
  obtain ⟨short, long⟩ := CvtRequest.frame_bounds range
  obtain ⟨few, many⟩ := range.yRes
  obtain ⟨slow, -⟩ := range.refreshRate
  change 4166 ≤ 100000000 / refreshRate.toNat at short
  change 100000000 / refreshRate.toNat ≤ 50000 at long
  change yRes.toNat < 65536 at many
  change 2000 ≤ refreshRate.toNat at slow
  obtain ⟨frame, isFrame, frameValue⟩ :=
    WordArith.checked_div 100000000 refreshRate (by omega)
  replace frameValue : frame.toNat = 100000000 / refreshRate.toNat := frameValue
  obtain ⟨visible, isVisible, visibleValue⟩ :=
    WordArith.checked_sub frame minVBlankingPeriod (by change 550 ≤ _; omega)
  replace visibleValue : visible.toNat = frame.toNat - 550 := visibleValue
  obtain ⟨lines, isLines, linesValue⟩ :=
    WordArith.checked_add yRes minVFPorch (by change _ + 3 < _; omega)
  replace linesValue : lines.toNat = yRes.toNat + 3 := linesValue
  obtain ⟨scaled, isScaled, scaledValue⟩ := WordArith.checked_mul visible 100
    (by change _ * 100 < _; omega)
  replace scaledValue : scaled.toNat = visible.toNat * 100 := scaledValue
  obtain ⟨z, isZ, value⟩ := toNat_cbRoundIn scaled lines (by omega)
    (by omega)
  refine ⟨z, ?_, ?_⟩
  · simp only [hPeriodEst, isFrame, isVisible, isLines, isScaled, isZ, Option.bind_eq_bind,
      Option.bind_some]
  · rw [value, scaledValue, visibleValue, frameValue, linesValue]
    rfl

theorem toNat_vSyncBP (range : (cvtRequest xRes yRes refreshRate).InRange) {hPeriod sync : U32}
    (isPeriod : hPeriod.toNat = (cvtRequest xRes yRes refreshRate).linePeriod)
    (isSync : sync.toNat = (cvtRequest xRes yRes refreshRate).syncWidth)
    : ∃ z, vSyncBP .checked hPeriod sync = some z
      ∧ z.toNat = (cvtRequest xRes yRes refreshRate).syncBackPorch := by
  obtain ⟨some, more⟩ := CvtRequest.linePeriod_bounds range
  have width := CvtRequest.syncWidth_bounds (cvtRequest xRes yRes refreshRate)
  have porch := CvtRequest.syncBackPorch_bounds range
  obtain ⟨porchLines, isPorch, porchValue⟩ := toNat_cbRoundIn
    (100 * minVBlankingPeriod) hPeriod (by omega) (by omega)
  replace porchValue : porchLines.toNat = nearest 55000 hPeriod.toNat := porchValue
  rw [isPeriod] at porchValue
  have small : porchLines.toNat < 2 ^ 31 := by
    rw [CvtRequest.syncBackPorch] at porch
    omega
  obtain ⟨lines, isLines, linesValue⟩ :=
    WordArith.checked_add porchLines 1 (by change _ + 1 < _; omega)
  replace linesValue : lines.toNat = porchLines.toNat + 1 := linesValue
  obtain ⟨least, isLeast, leastValue⟩ :=
    WordArith.checked_add sync minVBPorch (by change _ + 6 < _; omega)
  replace leastValue : least.toNat = sync.toNat + 6 := leastValue
  refine ⟨if lines < least then least else lines, ?_, ?_⟩
  · simp only [vSyncBP, isPorch, isLines, isLeast, Option.bind_eq_bind, Option.bind_some,
      Option.pure_def]
  · rw [CvtRequest.syncBackPorch, ← isSync, ← porchValue, ← linesValue, ← leastValue]
    by_cases less : lines < least
    · rw [if_pos less, Nat.max_eq_right (Nat.le_of_lt less)]
    · rw [if_neg less, Nat.max_eq_left (Nat.le_of_not_lt less)]

/-- The duty cycle of a line period that leaves a share of the line. -/
theorem toNat_idealDutyCycle (hPeriod : U32) (fits : hPeriod.toNat ≤ 10003)
    : ∃ z, idealDutyCycle .checked hPeriod = some z
      ∧ z.toNat = 3000 - 300 * hPeriod.toNat / 1000 := by
  obtain ⟨scaled, isScaled, scaledValue⟩ := WordArith.checked_mul 300 hPeriod
    (by change 300 * _ < _; omega)
  replace scaledValue : scaled.toNat = 300 * hPeriod.toNat := scaledValue
  obtain ⟨share, isShare, shareValue⟩ := WordArith.checked_div scaled 1000
    (by decide)
  replace shareValue : share.toNat = scaled.toNat / 1000 := shareValue
  obtain ⟨z, isZ, value⟩ := WordArith.checked_sub (100 * 30) share
    (by change _ ≤ 3000; omega)
  replace value : z.toNat = 3000 - share.toNat := value
  refine ⟨z, ?_, ?_⟩
  · simp only [idealDutyCycle, isScaled, isShare, isZ, Option.bind_eq_bind, Option.bind_some]
  · rw [value, shareValue, scaledValue]

/-- A longer line period would leave a negative share. -/
theorem idealDutyCycle_none (hPeriod : U32) (long : 10003 < hPeriod.toNat)
    (bound : hPeriod.toNat ≤ 40000)
    : idealDutyCycle .checked hPeriod = none := by
  obtain ⟨scaled, isScaled, scaledValue⟩ := WordArith.checked_mul 300 hPeriod
    (by change 300 * _ < _; omega)
  replace scaledValue : scaled.toNat = 300 * hPeriod.toNat := scaledValue
  obtain ⟨share, isShare, shareValue⟩ := WordArith.checked_div scaled 1000
    (by decide)
  replace shareValue : share.toNat = scaled.toNat / 1000 := shareValue
  have underflow : WordArith.checked.sub (100 * 30) share = none :=
    WordArith.checked_sub_none (by change 3000 < _; omega)
  simp only [idealDutyCycle, isScaled, isShare, underflow, Option.bind_eq_bind, Option.bind_some]

theorem toNat_doubleCells (pixels : U32) (small : pixels.toNat < 2 ^ 27)
    : ∃ z, doubleCells .checked pixels = some z ∧ z.toNat = 16 * nearest pixels.toNat 16 := by
  obtain ⟨cells, isCells, cellsValue⟩ :=
    toNat_cbRoundIn pixels (2 * cellGran) (by decide) (by decide)
  replace cellsValue : cells.toNat = nearest pixels.toNat 16 := cellsValue
  have bound := nearest_bounds pixels.toNat (show 0 < 16 by decide)
  obtain ⟨twice, isTwice, twiceValue⟩ := WordArith.checked_mul cells 2
    (by change _ * 2 < _; omega)
  replace twiceValue : twice.toNat = cells.toNat * 2 := twiceValue
  obtain ⟨z, isZ, value⟩ := WordArith.checked_mul twice cellGran
    (by change _ * 8 < _; omega)
  replace value : z.toNat = twice.toNat * 8 := value
  refine ⟨z, ?_, by omega⟩
  simp only [doubleCells, isCells, isTwice, isZ, Option.bind_eq_bind, Option.bind_some]

theorem toNat_horBlanking (range : (cvtRequest xRes yRes refreshRate).InRange)
    {duty : U32} (isDuty : duty.toNat
      = 3000 - 300 * (cvtRequest xRes yRes refreshRate).linePeriod / 1000)
    : ∃ z, horBlanking .checked xRes duty = some (some z)
      ∧ z.toNat = (cvtRequest xRes yRes refreshRate).blanking := by
  obtain ⟨narrow, wide⟩ := range.xRes
  change xRes.toNat < 65536 at wide
  have cycle : (cvtRequest xRes yRes refreshRate).dutyCycle = max duty.toNat 2000 := by
    rw [CvtRequest.dutyCycle, isDuty]
  by_cases less : duty < 2000
  · have most : duty.toNat < 2000 := less
    rw [Nat.max_eq_right (Nat.le_of_lt most)] at cycle
    obtain ⟨scaled, isScaled, scaledValue⟩ := WordArith.checked_mul xRes 2000
      (by change _ * 2000 < _; omega)
    replace scaledValue : scaled.toNat = xRes.toNat * 2000 := scaledValue
    obtain ⟨pixels, isPixels, pixelsValue⟩ :=
      WordArith.checked_div scaled (10000 - 2000) (by decide)
    replace pixelsValue : pixels.toNat = scaled.toNat / 8000 := pixelsValue
    obtain ⟨z, isZ, value⟩ := toNat_doubleCells pixels (by omega)
    refine ⟨z, ?_, ?_⟩
    · simp only [horBlanking, less, if_true, isScaled, isPixels, isZ, Option.bind_eq_bind,
        Option.bind_some, Option.pure_def]
    · rw [value, pixelsValue, scaledValue, CvtRequest.blanking, cycle]
      rfl
  · have least : 2000 ≤ duty.toNat := Nat.le_of_not_lt less
    rw [Nat.max_eq_left least] at cycle
    have bounds := CvtRequest.dutyCycle_bounds (cvtRequest xRes yRes refreshRate)
    rw [cycle] at bounds
    have product := Nat.mul_le_mul (Nat.le_of_lt wide) bounds.2
    obtain ⟨scaled, isScaled, scaledValue⟩ := WordArith.checked_mul xRes duty
      (by omega)
    obtain ⟨rest, isRest, restValue⟩ := WordArith.checked_sub 10000 duty
      (by change _ ≤ 10000; omega)
    replace restValue : rest.toNat = 10000 - duty.toNat := restValue
    have nonzero : rest ≠ 0 := by
      intro zero
      rw [zero] at restValue
      change 0 = _ at restValue
      omega
    obtain ⟨pixels, isPixels, pixelsValue⟩ :=
      WordArith.checked_div scaled rest (by omega)
    have part : pixels.toNat ≤ scaled.toNat / 7000 := by
      rw [pixelsValue]
      exact Nat.div_le_div_left (by omega) (by decide)
    obtain ⟨z, isZ, value⟩ := toNat_doubleCells pixels (by omega)
    refine ⟨z, ?_, ?_⟩
    · simp only [horBlanking, less, if_false, isScaled, isRest, nonzero, isPixels, isZ,
        Option.bind_eq_bind, Option.bind_some, Option.pure_def]
    · rw [value, pixelsValue, scaledValue, restValue, CvtRequest.blanking, cycle]
      rfl

theorem toNat_horSyncWidth (horTotal : U32) (small : horTotal.toNat < 2 ^ 28)
    : ∃ z, horSyncWidth .checked horTotal = some z
      ∧ z.toNat = 8 * nearest (8 * horTotal.toNat) 800 := by
  obtain ⟨scaled, isScaled, scaledValue⟩ := WordArith.checked_mul horTotal 8
    (by change _ * 8 < _; omega)
  replace scaledValue : scaled.toNat = horTotal.toNat * 8 := scaledValue
  obtain ⟨cells, isCells, cellsValue⟩ :=
    toNat_cbRoundIn scaled (cellGran * 100) (by decide) (by decide)
  replace cellsValue : cells.toNat = nearest scaled.toNat 800 := cellsValue
  have bound := nearest_bounds scaled.toNat (show 0 < 800 by decide)
  obtain ⟨z, isZ, value⟩ := WordArith.checked_mul cells cellGran
    (by change _ * 8 < _; omega)
  replace value : z.toNat = cells.toNat * 8 := value
  refine ⟨z, ?_, ?_⟩
  · simp only [horSyncWidth, isScaled, isCells, isZ, Option.bind_eq_bind, Option.bind_some]
  · rw [value, cellsValue, scaledValue, Nat.mul_comm _ 8, Nat.mul_comm _ 8]

theorem toNat_steppedClock (horTotal hPeriod : U32) (small : horTotal.toNat < 2 ^ 17)
    (positive : 0 < hPeriod.toNat) (half : hPeriod.toNat ≤ 2 ^ 31)
    : ∃ z, steppedClock .checked horTotal hPeriod = some z
      ∧ z.toNat = 25 * nearest (nearest (10000 * horTotal.toNat) hPeriod.toNat) 25 := by
  obtain ⟨hundred, isHundred, hundredValue⟩ := WordArith.checked_mul horTotal 100
    (by change _ * 100 < _; omega)
  replace hundredValue : hundred.toNat = horTotal.toNat * 100 := hundredValue
  obtain ⟨scaled, isScaled, scaledValue⟩ := WordArith.checked_mul hundred 100
    (by change _ * 100 < _; omega)
  replace scaledValue : scaled.toNat = hundred.toNat * 100 := scaledValue
  have product : scaled.toNat = 10000 * horTotal.toNat := by omega
  obtain ⟨clock, isClock, clockValue⟩ :=
    toNat_cbRoundIn scaled hPeriod positive half
  have most : clock.toNat ≤ scaled.toNat + 1 := by
    rw [clockValue, nearest, Nat.div_le_iff_le_mul_add_pred (by omega)]
    have lines := Nat.mul_le_mul_right (2 * (scaled.toNat + 1)) positive
    rw [show 2 * hPeriod.toNat * (scaled.toNat + 1) = hPeriod.toNat * (2 * (scaled.toNat + 1))
      by ring]
    omega
  obtain ⟨steps, isSteps, stepsValue⟩ :=
    toNat_cbRoundIn clock clockStep (by decide) (by decide)
  replace stepsValue : steps.toNat = nearest clock.toNat 25 := stepsValue
  have bound := nearest_bounds clock.toNat (show 0 < 25 by decide)
  obtain ⟨z, isZ, value⟩ := WordArith.checked_mul steps clockStep
    (by change _ * 25 < _; omega)
  replace value : z.toNat = steps.toNat * 25 := value
  refine ⟨z, ?_, ?_⟩
  · simp only [steppedClock, isHundred, isScaled, isClock, isSteps, isZ, Option.bind_eq_bind,
      Option.bind_some]
  · rw [value, stepsValue, clockValue, product, Nat.mul_comm]

theorem toNat_actualVerFreq (range : (cvtRequest xRes yRes refreshRate).InRange)
    {clock horTotal verTotal : U32}
    (isClock : clock.toNat = (cvtRequest xRes yRes refreshRate).clock)
    (isHor : horTotal.toNat = (cvtRequest xRes yRes refreshRate).horTotal)
    (isVer : verTotal.toNat = (cvtRequest xRes yRes refreshRate).verTotal)
    (room : 1000 * (cvtRequest xRes yRes refreshRate).clock < 2 ^ 32)
    : ∃ z, actualVerFreq .checked clock horTotal verTotal = some (some z)
      ∧ z.toNat = (cvtRequest xRes yRes refreshRate).verFreq := by
  have lines := CvtRequest.verTotal_bounds range
  have freq := CvtRequest.horFreq_le range
  have wide : 264 ≤ (cvtRequest xRes yRes refreshRate).horTotal :=
    Nat.le_trans range.xRes.1 (Nat.le_add_right _ _)
  have someHor : horTotal ≠ 0 := by
    intro zero
    rw [zero] at isHor
    change 0 = _ at isHor
    omega
  have someVer : verTotal ≠ 0 := by
    intro zero
    rw [zero] at isVer
    change 0 = _ at isVer
    omega
  obtain ⟨scaled, isScaled, scaledValue⟩ := WordArith.checked_mul 1000 clock
    (by change 1000 * _ < _; omega)
  replace scaledValue : scaled.toNat = 1000 * clock.toNat := scaledValue
  obtain ⟨horFreq, isFreq, freqValue⟩ :=
    WordArith.checked_div scaled horTotal (by omega)
  have horFreqValue : horFreq.toNat = (cvtRequest xRes yRes refreshRate).horFreq := by
    rw [freqValue, scaledValue, isClock, isHor, CvtRequest.horFreq]
  obtain ⟨product, isProduct, productValue⟩ :=
    WordArith.checked_mul 1000 horFreq (by change 1000 * _ < _; omega)
  replace productValue : product.toNat = 1000 * horFreq.toNat := productValue
  obtain ⟨z, isZ, value⟩ := WordArith.checked_div product verTotal (by omega)
  refine ⟨z, ?_, ?_⟩
  · simp only [actualVerFreq, someHor, someVer, if_false, isScaled, isFreq, isProduct, isZ,
      Option.bind_eq_bind, Option.bind_some, Option.pure_def]
  · rw [value, productValue, horFreqValue, isVer, CvtRequest.verFreq]

/-- A clock without room for three more digits overflows. -/
theorem actualVerFreq_none {clock horTotal : U32} (verTotal : U32) (some : horTotal ≠ 0)
    (overflow : 2 ^ 32 ≤ 1000 * clock.toNat)
    : actualVerFreq .checked clock horTotal verTotal = none := by
  have fails : WordArith.checked.mul 1000 clock = none := WordArith.checked_mul_none overflow
  simp only [actualVerFreq, some, if_false, fails, Option.bind_eq_bind, Option.bind_none]

end Cx4Kernel.Cbios
