import Cx4Kernel.Cbios.Timing
import Cx4Kernel.Foundation.WordArith

/-! The timings that `CBiosUtil.c` calculates for a size and a refresh rate alone. -/

namespace Cx4Kernel.Cbios

open Cx4Kernel.Foundation WordArith

variable {m : Type → Type} [Monad m] (arith : WordArith m 32)

/-- `cbRound` over any arithmetic. -/
def cbRoundIn (dividend divisor : U32) (method : RoundMethod) : m U32 :=
  if divisor = 0 then pure 0
  else do
    let remainder ← arith.rem dividend divisor
    let ret ← arith.div dividend divisor
    match method with
    | .down => pure ret
    | .up => if remainder ≠ 0 then arith.add ret 1 else pure ret
    | .nearest =>
      let twice ← arith.mul remainder 2
      if divisor ≤ twice then arith.add ret 1 else pure ret

def cellGran : U32 := 8

def minVFPorch : U32 := 3

def minVBPorch : U32 := 6

/-- In microseconds. -/
def minVBlankingPeriod : U32 := 550

/-- In hundredths of a megahertz. -/
def clockStep : U32 := 25

/-- `cbGetVsyncWidth`: the lines of the vertical sync tell the aspect ratio. -/
def cbGetVsyncWidth (xRes yRes : U32) : m U32 :=
  if yRes = 0 then pure 10
  else do
    let temp ← arith.div (← arith.mul xRes 100) yRes
    if temp = 133 then pure 4
    else if temp = 177 then pure 5
    else if temp = 160 then pure 6
    else if temp = 166 then pure 7
    else pure 10

/-- `HPeriodEst`, the time of a line in hundredths of a microsecond. -/
def hPeriodEst (refreshRate verticalLines : U32) : m U32 := do
  let frame ← arith.div 100000000 refreshRate
  let visible ← arith.sub frame minVBlankingPeriod
  let lines ← arith.add verticalLines minVFPorch
  cbRoundIn arith (← arith.mul visible 100) lines .nearest

/-- `VSyncBP`, the lines of the vertical sync and the back porch. -/
def vSyncBP (hPeriod verticalSyncWidth : U32) : m U32 := do
  let lines ← arith.add (← cbRoundIn arith (100 * minVBlankingPeriod) hPeriod .nearest) 1
  let least ← arith.add verticalSyncWidth minVBPorch
  pure (if lines < least then least else lines)

/-- `IdealDutyCycle`, in hundredths of a percent, from `CPRIME` and `MPRIME`. -/
def idealDutyCycle (hPeriod : U32) : m U32 := do
  arith.sub (100 * 30) (← arith.div (← arith.mul 300 hPeriod) 1000)

/-- Pixels rounded to double character cells. -/
def doubleCells (pixels : U32) : m U32 := do
  let cells ← cbRoundIn arith pixels (2 * cellGran) .nearest
  arith.mul (← arith.mul cells 2) cellGran

/-- `HorBlanking`, or none where the function returns FALSE. -/
def horBlanking (horPixels dutyCycle : U32) : m (Option U32) :=
  if dutyCycle < 2000 then do
    let blanking ← arith.div (← arith.mul horPixels 2000) (10000 - 2000)
    pure (some (← doubleCells arith blanking))
  else do
    let blanking ← arith.mul horPixels dutyCycle
    let rest ← arith.sub 10000 dutyCycle
    if rest = 0 then pure none
    else pure (some (← doubleCells arith (← arith.div blanking rest)))

/-- `HorSync`, for which `HSYNCPERCENT` is 8. -/
def horSyncWidth (horTotal : U32) : m U32 := do
  let cells ← cbRoundIn arith (← arith.mul horTotal 8) (cellGran * 100) .nearest
  arith.mul cells cellGran

/-- `PixelClock` in hundredths of a megahertz, in steps of `CLOCKSTEP`. -/
def steppedClock (horTotal hPeriod : U32) : m U32 := do
  let scaled ← arith.mul (← arith.mul horTotal 100) 100
  let clock ← cbRoundIn arith scaled hPeriod .nearest
  let steps ← cbRoundIn arith clock clockStep .nearest
  arith.mul steps clockStep

/-- `ActualVerFreq`, in hundredths of a hertz, or none where the function returns FALSE. -/
def actualVerFreq (clock horTotal verTotal : U32) : m (Option U32) :=
  if horTotal = 0 then pure none
  else do
    let horFreq ← arith.div (← arith.mul 1000 clock) horTotal
    if verTotal = 0 then pure none
    else pure (some (← arith.div (← arith.mul 1000 horFreq) verTotal))

/-- The fields that `cbCalcCustomizedTiming` fills in, all but the clock cut to 16 bits. -/
def fillCustomizedTiming (xRes yRes verFreq verticalSyncWidth verTotal verBlanking horSync horTotal
    horFrontPorch clock : U32)
    : m TimingAttrib := do
  let horSyncStart ← arith.add xRes horFrontPorch
  let verSyncStart ← arith.add yRes minVFPorch
  pure
    { formatVIC := 0
      xRes := xRes.setWidth 16
      yRes := yRes.setWidth 16
      refreshRate := verFreq.setWidth 16
      hvPolarity := horNegative
      pixelClock := ← arith.mul clock 100
      horTotal := horTotal.setWidth 16
      horDisEnd := xRes.setWidth 16
      horBStart := xRes.setWidth 16
      horBEnd := horTotal.setWidth 16
      horSyncStart := horSyncStart.setWidth 16
      horSyncEnd := (← arith.add horSyncStart horSync).setWidth 16
      verTotal := verTotal.setWidth 16
      verDisEnd := yRes.setWidth 16
      verBStart := yRes.setWidth 16
      verBEnd := (← arith.add yRes verBlanking).setWidth 16
      verSyncStart := verSyncStart.setWidth 16
      verSyncEnd := (← arith.add verSyncStart verticalSyncWidth).setWidth 16 }

/-- `cbCalcCustomizedTiming` from the line period and the lines on. -/
def calcHorTiming (xRes yRes hPeriod verticalSyncWidth verTotal verBlanking : U32)
    : m (Option TimingAttrib) := do
  let dutyCycle ← idealDutyCycle arith hPeriod
  match ← horBlanking arith xRes dutyCycle with
  | none => pure none
  | some blanking =>
    let horTotal ← arith.add xRes blanking
    let horSync ← horSyncWidth arith horTotal
    let horBackPorch ← arith.div blanking 2
    let horFrontPorch ← arith.sub (← arith.sub blanking horSync) horBackPorch
    let clock ← steppedClock arith horTotal hPeriod
    match ← actualVerFreq arith clock horTotal verTotal with
    | none => pure none
    | some verFreq =>
      pure (some (← fillCustomizedTiming arith xRes yRes verFreq verticalSyncWidth verTotal
        verBlanking horSync horTotal horFrontPorch clock))

/-- `cbCalcCustomizedTiming`, or none if it returns FALSE. -/
def cbCalcCustomizedTiming (xRes yRes refreshRate : U32) : m (Option TimingAttrib) := do
  let verticalSyncWidth ← cbGetVsyncWidth arith xRes yRes
  let reqestRefreshRate := if refreshRate = 0 then 6000 else refreshRate
  let hPeriod ← hPeriodEst arith reqestRefreshRate yRes
  let syncBP ← vSyncBP arith hPeriod verticalSyncWidth
  let verTotal ← arith.add (← arith.add yRes syncBP) minVFPorch
  let verBlanking ← arith.sub verTotal yRes
  calcHorTiming arith xRes yRes hPeriod verticalSyncWidth verTotal verBlanking

/-- The refresh rate, the totals, the clock in units of 100 Hz and the syncs of a timing. -/
example : (Id.run (cbCalcCustomizedTiming .wrapping 1024 600 6000)).map
    (fun t => (t.refreshRate, t.horTotal, t.verTotal, t.pixelClock, t.horSyncStart, t.verSyncEnd))
    = some (5974, 1312, 625, 490000, 1064, 613) := by
  decide +kernel

-----------------------------------------------------------------------------------------
-- The run of the machine
-----------------------------------------------------------------------------------------

theorem agree_cbRoundIn (dividend divisor : U32) (method : RoundMethod)
    : Agree (cbRoundIn .checked dividend divisor method)
        (cbRoundIn .wrapping dividend divisor method) := by
  refine .ite (agree_pure _) (.bind (agree_rem _ _) fun _ => .bind (agree_div _ _) fun _ => ?_)
  cases method with
  | down => exact agree_pure _
  | up => exact .ite (agree_add _ _) (agree_pure _)
  | nearest => exact .bind (agree_mul _ _) fun _ => .ite (agree_add _ _) (agree_pure _)

theorem agree_cbGetVsyncWidth (xRes yRes : U32)
    : Agree (cbGetVsyncWidth .checked xRes yRes) (cbGetVsyncWidth .wrapping xRes yRes) :=
  .ite (agree_pure _) (.bind (agree_mul _ _) fun _ => .bind (agree_div _ _) fun _ =>
    .ite (agree_pure _) (.ite (agree_pure _) (.ite (agree_pure _)
      (.ite (agree_pure _) (agree_pure _)))))

theorem agree_hPeriodEst (refreshRate lines : U32)
    : Agree (hPeriodEst .checked refreshRate lines) (hPeriodEst .wrapping refreshRate lines) :=
  .bind (agree_div _ _) fun _ => .bind (agree_sub _ _) fun _ => .bind (agree_add _ _) fun _ =>
    .bind (agree_mul _ _) fun _ => agree_cbRoundIn _ _ _

theorem agree_vSyncBP (hPeriod sync : U32)
    : Agree (vSyncBP .checked hPeriod sync) (vSyncBP .wrapping hPeriod sync) :=
  .bind (agree_cbRoundIn _ _ _) fun _ => .bind (agree_add _ _) fun _ =>
    .bind (agree_add _ _) fun _ => agree_pure _

theorem agree_idealDutyCycle (hPeriod : U32)
    : Agree (idealDutyCycle .checked hPeriod) (idealDutyCycle .wrapping hPeriod) :=
  .bind (agree_mul _ _) fun _ => .bind (agree_div _ _) fun _ => agree_sub _ _

theorem agree_doubleCells (pixels : U32)
    : Agree (doubleCells .checked pixels) (doubleCells .wrapping pixels) :=
  .bind (agree_cbRoundIn _ _ _) fun _ => .bind (agree_mul _ _) fun _ => agree_mul _ _

theorem agree_horBlanking (pixels duty : U32)
    : Agree (horBlanking .checked pixels duty) (horBlanking .wrapping pixels duty) :=
  .ite
    (.bind (agree_mul _ _) fun _ => .bind (agree_div _ _) fun _ =>
      .bind (agree_doubleCells _) fun _ => agree_pure _)
    (.bind (agree_mul _ _) fun _ => .bind (agree_sub _ _) fun _ =>
      .ite (agree_pure _) (.bind (agree_div _ _) fun _ =>
        .bind (agree_doubleCells _) fun _ => agree_pure _))

theorem agree_horSyncWidth (horTotal : U32)
    : Agree (horSyncWidth .checked horTotal) (horSyncWidth .wrapping horTotal) :=
  .bind (agree_mul _ _) fun _ => .bind (agree_cbRoundIn _ _ _) fun _ => agree_mul _ _

theorem agree_steppedClock (horTotal hPeriod : U32)
    : Agree (steppedClock .checked horTotal hPeriod) (steppedClock .wrapping horTotal hPeriod) :=
  .bind (agree_mul _ _) fun _ => .bind (agree_mul _ _) fun _ =>
    .bind (agree_cbRoundIn _ _ _) fun _ => .bind (agree_cbRoundIn _ _ _) fun _ => agree_mul _ _

theorem agree_actualVerFreq (clock horTotal verTotal : U32)
    : Agree (actualVerFreq .checked clock horTotal verTotal)
        (actualVerFreq .wrapping clock horTotal verTotal) :=
  .ite (agree_pure _) (.bind (agree_mul _ _) fun _ => .bind (agree_div _ _) fun _ =>
    .ite (agree_pure _) (.bind (agree_mul _ _) fun _ => .bind (agree_div _ _) fun _ =>
      agree_pure _))

theorem agree_fillCustomizedTiming (xRes yRes verFreq sync verTotal verBlanking horSync horTotal
    porch clock : U32)
    : Agree
        (fillCustomizedTiming .checked xRes yRes verFreq sync verTotal verBlanking horSync horTotal
          porch clock)
        (fillCustomizedTiming .wrapping xRes yRes verFreq sync verTotal verBlanking horSync
          horTotal porch clock) := by
  refine .bind (agree_add _ _) fun _ => .bind (agree_add _ _) fun _ =>
    .bind (agree_mul _ _) fun _ => .bind (agree_add _ _) fun _ => .bind (agree_add _ _) fun _ =>
    .bind (agree_add _ _) fun _ => ?_
  exact agree_pure _

theorem agree_calcHorTiming (xRes yRes hPeriod sync verTotal verBlanking : U32)
    : Agree (calcHorTiming .checked xRes yRes hPeriod sync verTotal verBlanking)
        (calcHorTiming .wrapping xRes yRes hPeriod sync verTotal verBlanking) := by
  unfold calcHorTiming
  refine .bind (agree_idealDutyCycle _) fun _ => .bind (agree_horBlanking _ _) fun blanking => ?_
  cases blanking with
  | none => exact agree_pure _
  | some _ =>
    refine .bind (agree_add _ _) fun _ => .bind (agree_horSyncWidth _) fun _ =>
      .bind (agree_div _ _) fun _ => .bind (agree_sub _ _) fun _ => .bind (agree_sub _ _) fun _ =>
      .bind (agree_steppedClock _ _) fun _ => .bind (agree_actualVerFreq _ _ _) fun verFreq => ?_
    cases verFreq with
    | none => exact agree_pure _
    | some _ =>
      exact .bind (agree_fillCustomizedTiming _ _ _ _ _ _ _ _ _ _) fun _ => agree_pure _

theorem agree_cbCalcCustomizedTiming (xRes yRes refreshRate : U32)
    : Agree (cbCalcCustomizedTiming .checked xRes yRes refreshRate)
        (cbCalcCustomizedTiming .wrapping xRes yRes refreshRate) :=
  .bind (agree_cbGetVsyncWidth _ _) fun _ => .bind (agree_hPeriodEst _ _) fun _ =>
    .bind (agree_vSyncBP _ _) fun _ => .bind (agree_add _ _) fun _ =>
    .bind (agree_add _ _) fun _ => .bind (agree_sub _ _) fun _ => agree_calcHorTiming _ _ _ _ _ _

end Cx4Kernel.Cbios
