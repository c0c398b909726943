import Cx4Kernel.Cbios.CustomizedTimingExact
import Mathlib.Tactic.Linarith

/-! How far the refresh rate of a calculated timing is from the one that is asked for. -/

namespace Cx4Kernel.Cbios

namespace CvtRequest

variable {request : CvtRequest}

/-- The time of a frame in hundredths of a microsecond. -/
def framePeriod (request : CvtRequest) : Nat := request.linePeriod * request.verTotal

/-- The rate is the inverse of the time of a frame, up to the steps of the clock and the digits that
the divisions cut off.
-/
structure RateOfFrame (request : CvtRequest) (rate : Nat) : Prop where
  upper : rate * (request.framePeriod * request.horTotal)
    ≤ 10000000000 * request.horTotal + 13000000 * request.linePeriod
  lower : 10000000000 * request.horTotal
    < (rate + 1) * (request.framePeriod * request.horTotal)
      + 1000 * (request.linePeriod * request.horTotal) + 13000000 * request.linePeriod

theorem verFreq_rateOfFrame (range : request.InRange) : request.RateOfFrame request.verFreq := by
  obtain ⟨clockUpper, clockLower⟩ := clock_bounds range
  have wide : 264 ≤ request.horTotal := Nat.le_trans range.xRes.1 (Nat.le_add_right _ _)
  have lines := (verTotal_bounds range).1
  have freqUpper : request.horTotal * request.horFreq ≤ 1000 * request.clock :=
    Nat.mul_div_le _ _
  have freqLower : 1000 * request.clock < request.horTotal * (request.horFreq + 1) :=
    Nat.lt_mul_div_succ _ (by omega)
  have rateUpper : request.verTotal * request.verFreq ≤ 1000 * request.horFreq :=
    Nat.mul_div_le _ _
  have rateLower : 1000 * request.horFreq < request.verTotal * (request.verFreq + 1) :=
    Nat.lt_mul_div_succ _ (by omega)
  constructor
  · calc request.verFreq * (request.framePeriod * request.horTotal)
        = request.linePeriod * (request.horTotal * (request.verTotal * request.verFreq)) := by
          rw [framePeriod]
          ring
      _ ≤ request.linePeriod * (request.horTotal * (1000 * request.horFreq)) :=
          Nat.mul_le_mul_left _ (Nat.mul_le_mul_left _ rateUpper)
      _ = 1000 * (request.linePeriod * (request.horTotal * request.horFreq)) := by ring
      _ ≤ 1000 * (request.linePeriod * (1000 * request.clock)) :=
          Nat.mul_le_mul_left _ (Nat.mul_le_mul_left _ freqUpper)
      _ = 500000 * (2 * request.linePeriod * request.clock) := by ring
      _ ≤ _ := by omega
  · have scaled : 500000 * (2 * request.linePeriod * request.clock)
        ≤ 1000 * (request.linePeriod * (request.horTotal * (request.horFreq + 1))) := by
      calc 500000 * (2 * request.linePeriod * request.clock)
          = 1000 * (request.linePeriod * (1000 * request.clock)) := by ring
        _ ≤ _ := Nat.mul_le_mul_left _ (Nat.mul_le_mul_left _ (Nat.le_of_lt freqLower))
    have digits : 1000 * (request.linePeriod * (request.horTotal * (request.horFreq + 1)))
        = request.linePeriod * (request.horTotal * (1000 * request.horFreq))
          + 1000 * (request.linePeriod * request.horTotal) := by ring
    have frame : request.linePeriod * (request.horTotal * (1000 * request.horFreq))
        < (request.verFreq + 1) * (request.framePeriod * request.horTotal) := by
      calc request.linePeriod * (request.horTotal * (1000 * request.horFreq))
          < request.linePeriod
            * (request.horTotal * (request.verTotal * (request.verFreq + 1))) :=
            Nat.mul_lt_mul_of_pos_left
              (Nat.mul_lt_mul_of_pos_left rateLower (by omega))
              (Nat.lt_of_lt_of_le (by decide) (linePeriod_bounds range).1)
        _ = _ := by
            rw [framePeriod]
            ring
    omega

/-- The time of a frame is that of the rate, up to a line and a half and the rounding of the line
period, or up to the least lines of the blanking where these are more.
-/
theorem framePeriod_bounds (range : request.InRange)
    : 20000000000 < request.refreshRate * (2 * request.framePeriod + request.yRes + 203)
      ∧ (request.refreshRate * (2 * request.framePeriod)
          ≤ 20000000000 + request.refreshRate * (request.yRes + 3 + 3 * request.linePeriod)
        ∨ request.refreshRate * (2 * request.framePeriod + 110000)
          ≤ 20000000000 + request.refreshRate * (request.yRes + 3 + 32 * request.linePeriod)) := by
  obtain ⟨some, more⟩ := linePeriod_bounds range
  obtain ⟨slow, fast⟩ := range.refreshRate
  obtain ⟨short, long⟩ := frame_bounds range
  have sync := syncWidth_bounds request
  obtain ⟨frame, isFrame⟩ : ∃ frame, frame = 100000000 / request.refreshRate := ⟨_, rfl⟩
  rw [← isFrame] at short long
  have frameUpper : request.refreshRate * frame ≤ 100000000 := by
    rw [isFrame]
    exact Nat.mul_div_le _ _
  have frameLower : 100000000 < request.refreshRate * (frame + 1) := by
    rw [isFrame]
    exact Nat.lt_mul_div_succ _ (by omega)
  obtain ⟨periodLower, periodUpper⟩ := nearest_bounds ((frame - 550) * 100)
    (show 0 < request.yRes + 3 by omega)
  obtain ⟨porchLower, porchUpper⟩ := nearest_bounds 55000 (show 0 < request.linePeriod by omega)
  have isPeriod : request.linePeriod = nearest ((frame - 550) * 100) (request.yRes + 3) := by
    rw [linePeriod, isFrame]
  rw [← isPeriod] at periodLower periodUpper
  obtain ⟨porch, isPorch⟩ : ∃ porch, porch = nearest 55000 request.linePeriod := ⟨_, rfl⟩
  rw [← isPorch] at porchLower porchUpper
  have total : request.verTotal
      = request.yRes + 3 + max (porch + 1) (request.syncWidth + 6) := by
    rw [verTotal, syncBackPorch, isPorch]
    omega
  -- All bounds are linear in these two products.
  have shape : 2 * request.framePeriod = 2 * (request.yRes + 3) * request.linePeriod
      + 2 * request.linePeriod * max (porch + 1) (request.syncWidth + 6) := by
    rw [framePeriod, total]
    ring
  constructor
  · have lines := Nat.mul_le_mul_left (2 * request.linePeriod)
      (Nat.le_max_left (porch + 1) (request.syncWidth + 6))
    rw [Nat.mul_add] at lines
    have bound : 200 * (frame + 1) ≤ 2 * request.framePeriod + request.yRes + 203 := by omega
    calc 20000000000 < 200 * (request.refreshRate * (frame + 1)) := by omega
      _ = request.refreshRate * (200 * (frame + 1)) := by ring
      _ ≤ _ := Nat.mul_le_mul_left _ bound
  · rcases Nat.le_total (request.syncWidth + 6) (porch + 1) with enough | clamped
    · left
      rw [Nat.max_eq_left enough, Nat.mul_add _ porch] at shape
      have bound : 2 * request.framePeriod
          ≤ 200 * frame + (request.yRes + 3 + 3 * request.linePeriod) := by omega
      calc request.refreshRate * (2 * request.framePeriod)
          ≤ request.refreshRate * (200 * frame + (request.yRes + 3 + 3 * request.linePeriod)) :=
            Nat.mul_le_mul_left _ bound
        _ = 200 * (request.refreshRate * frame)
            + request.refreshRate * (request.yRes + 3 + 3 * request.linePeriod) := by ring
        _ ≤ _ := by omega
    · right
      rw [Nat.max_eq_right clamped] at shape
      have lines := Nat.mul_le_mul_left (2 * request.linePeriod)
        (show request.syncWidth + 6 ≤ 16 by omega)
      have bound : 2 * request.framePeriod + 110000
          ≤ 200 * frame + (request.yRes + 3 + 32 * request.linePeriod) := by omega
      calc request.refreshRate * (2 * request.framePeriod + 110000)
          ≤ request.refreshRate * (200 * frame + (request.yRes + 3 + 32 * request.linePeriod)) :=
            Nat.mul_le_mul_left _ bound
        _ = 200 * (request.refreshRate * frame)
            + request.refreshRate * (request.yRes + 3 + 32 * request.linePeriod) := by ring
        _ ≤ _ := by omega

/-- The rate has room in 16 bits. -/
theorem verFreq_lt (range : request.InRange) : request.verFreq < 65536 := by
  obtain ⟨rateUpper, -⟩ := verFreq_rateOfFrame range
  obtain ⟨periodLower, -⟩ := framePeriod_bounds range
  obtain ⟨slow, fast⟩ := range.refreshRate
  have lines := (verTotal_bounds range).1
  have many := range.yRes
  have wide : 264 ≤ request.horTotal := Nat.le_trans range.xRes.1 (Nat.le_add_right _ _)
  have frame : 383000 ≤ request.framePeriod := by
    by_contra small
    have product := Nat.mul_le_mul fast
      (show 2 * request.framePeriod + request.yRes + 203 ≤ 831740 by omega)
    omega
  have period : 161 * request.linePeriod ≤ request.framePeriod := by
    rw [framePeriod, Nat.mul_comm]
    exact Nat.mul_le_mul_left _ (by omega)
  by_contra large
  have product := Nat.mul_le_mul_right (request.framePeriod * request.horTotal)
    (Nat.le_of_not_lt large)
  have slowPart := Nat.mul_le_mul_right request.horTotal frame
  have stepPart := Nat.mul_le_mul period wide
  omega

/-- The visible lines take no more than the frame that is asked for. -/
theorem visible_le (range : request.InRange) (few : request.yRes ≤ 4320)
    : request.refreshRate * request.linePeriod * (request.yRes + 3) ≤ 10000000000 := by
  obtain ⟨short, -⟩ := frame_bounds range
  obtain ⟨frame, isFrame⟩ : ∃ frame, frame = 100000000 / request.refreshRate := ⟨_, rfl⟩
  rw [← isFrame] at short
  have frameUpper : request.refreshRate * frame ≤ 100000000 := by
    rw [isFrame]
    exact Nat.mul_div_le _ _
  obtain ⟨-, periodUpper⟩ := nearest_bounds ((frame - 550) * 100)
    (show 0 < request.yRes + 3 by omega)
  have isPeriod : request.linePeriod = nearest ((frame - 550) * 100) (request.yRes + 3) := by
    rw [linePeriod, isFrame]
  rw [← isPeriod] at periodUpper
  have bound : 2 * (request.yRes + 3) * request.linePeriod ≤ 200 * frame := by omega
  have product := Nat.mul_le_mul_left request.refreshRate bound
  have left : request.refreshRate * (2 * (request.yRes + 3) * request.linePeriod)
      = 2 * (request.refreshRate * request.linePeriod * (request.yRes + 3)) := by ring
  have right : request.refreshRate * (200 * frame) = 200 * (request.refreshRate * frame) := by ring
  omega

/-- The time that a frame can be too long, over the time that is asked for. -/
theorem spread_le (range : request.InRange)
    (lines : 480 ≤ request.yRes ∧ request.yRes ≤ 4320) (slow : request.refreshRate ≤ 12300)
    : request.refreshRate * (request.refreshRate * (request.yRes + 3 + 3 * request.linePeriod))
        ≤ 1240000000000
      ∧ request.refreshRate * (request.refreshRate * (request.yRes + 3 + 32 * request.linePeriod))
        ≤ 1240000000000 + request.refreshRate * (request.refreshRate * 110000) := by
  have visible := visible_le range lines.2
  obtain ⟨rate, isRate⟩ : ∃ rate, rate = request.refreshRate := ⟨_, rfl⟩
  obtain ⟨period, isPeriod⟩ : ∃ period, period = request.linePeriod := ⟨_, rfl⟩
  obtain ⟨many, isMany⟩ : ∃ many, many = request.yRes + 3 := ⟨_, rfl⟩
  rw [← isRate] at slow
  rw [← isRate, ← isPeriod, ← isMany] at visible ⊢
  have few : 483 ≤ many ∧ many ≤ 4323 := by omega
  clear isRate isPeriod isMany lines range
  have periodRate : 483 * (rate * period) ≤ 10000000000 := by
    calc 483 * (rate * period) ≤ many * (rate * period) := Nat.mul_le_mul_right _ few.1
      _ = rate * period * many := by ring
      _ ≤ _ := visible
  have short : rate * (rate * (many + 3 * period)) ≤ 1240000000000 := by
    have split : rate * (rate * (many + 3 * period))
        = rate * rate * many + 3 * (rate * (rate * period)) := by ring
    have square := Nat.mul_le_mul slow slow
    have periodPart := Nat.mul_le_mul slow
      (show rate * period ≤ 10000000000 / 483 by omega)
    rcases Nat.le_total many 2003 with some | more
    · have linePart := Nat.mul_le_mul square some
      omega
    · have linePart := Nat.mul_le_mul square few.2
      have fewPeriods : 2003 * (rate * period) ≤ 10000000000 := by
        calc 2003 * (rate * period) ≤ many * (rate * period) := Nat.mul_le_mul_right _ more
          _ = rate * period * many := by ring
          _ ≤ _ := visible
      have smallPart := Nat.mul_le_mul slow
        (show rate * period ≤ 10000000000 / 2003 by omega)
      omega
  refine ⟨short, ?_⟩
  rcases Nat.le_total period 3793 with brief | long
  · -- The least lines of the blanking are no more than a line and a half longer.
    have bound : many + 32 * period ≤ many + 3 * period + 110000 := by omega
    calc rate * (rate * (many + 32 * period))
        ≤ rate * (rate * (many + 3 * period + 110000)) :=
          Nat.mul_le_mul_left _ (Nat.mul_le_mul_left _ bound)
      _ = rate * (rate * (many + 3 * period)) + rate * (rate * 110000) := by ring
      _ ≤ _ := Nat.add_le_add_right short _
  · have rateLe : 3793 * rate ≤ 10000000000 / 483 := by
      have product := Nat.mul_le_mul_left rate long
      omega
    have lineRate : 3793 * (rate * many) ≤ 10000000000 := by
      calc 3793 * (rate * many) ≤ period * (rate * many) := Nat.mul_le_mul_right _ long
        _ = rate * period * many := by ring
        _ ≤ _ := visible
    have linePart := Nat.mul_le_mul (show rate ≤ 5459 by omega)
      (show rate * many ≤ 10000000000 / 3793 by omega)
    have periodPart := Nat.mul_le_mul_left rate
      (show rate * period ≤ 10000000000 / 483 by omega)
    have split : rate * (rate * (many + 32 * period))
        = rate * (rate * many) + 32 * (rate * (rate * period)) := by ring
    -- 32 * (10^10 / 483) * rate is a parabola away from 110000 * rate^2.
    have parabola : 32 * (rate * (10000000000 / 483))
        ≤ 1000000000000 + rate * (rate * 110000) := by
      zify
      norm_num
      nlinarith [sq_nonneg ((rate : Int) - 3012)]
    omega

/-- In the sizes of common modes the rate is less than 1 Hz off. -/
theorem verFreq_close (range : request.InRange) (wide : 640 ≤ request.xRes)
    (lines : 480 ≤ request.yRes ∧ request.yRes ≤ 4320) (slow : request.refreshRate ≤ 12300)
    : request.verFreq < request.refreshRate + 100
      ∧ request.refreshRate < request.verFreq + 100 := by
  obtain ⟨rateUpper, rateLower⟩ := verFreq_rateOfFrame range
  obtain ⟨periodLower, periodUpper⟩ := framePeriod_bounds range
  obtain ⟨spread, clampedSpread⟩ := spread_le range lines slow
  have total := (verTotal_bounds range).1
  have blank := (blanking_bounds range).1
  have pixels : 792 ≤ request.horTotal := by
    rw [horTotal]
    omega
  obtain ⟨few, many⟩ := lines
  -- A line is at most 1/493 of the frame.
  have line : 493 * request.linePeriod ≤ request.framePeriod := by
    rw [framePeriod, Nat.mul_comm]
    exact Nat.mul_le_mul_left _ (by omega)
  have frame : 810000 ≤ request.framePeriod := by
    by_contra small
    have product := Nat.mul_le_mul slow
      (show 2 * request.framePeriod + request.yRes + 203 ≤ 1624600 by omega)
    omega
  have steps := Nat.mul_le_mul line pixels
  have framePixels := Nat.mul_le_mul_right request.horTotal line
  rw [Nat.mul_assoc] at framePixels
  constructor
  · by_contra fast
    have product := Nat.mul_le_mul_right (request.framePeriod * request.horTotal)
      (Nat.le_of_not_lt fast)
    have bound : (request.refreshRate * request.framePeriod + 66 * request.framePeriod)
        * request.horTotal ≤ 10000000000 * request.horTotal := by
      have split : (request.refreshRate * request.framePeriod + 66 * request.framePeriod)
          * request.horTotal + 34 * (request.framePeriod * request.horTotal)
          = (request.refreshRate + 100) * (request.framePeriod * request.horTotal) := by ring
      omega
    have short := Nat.le_of_mul_le_mul_right bound (by omega)
    have part := Nat.mul_le_mul slow (show request.yRes + 203 ≤ 4523 by omega)
    have split : request.refreshRate * (2 * request.framePeriod + request.yRes + 203)
        = 2 * (request.refreshRate * request.framePeriod)
          + request.refreshRate * (request.yRes + 203) := by ring
    omega
  · by_contra late
    have product := Nat.mul_le_mul_right (request.framePeriod * request.horTotal)
      (show request.verFreq + 1 + 99 ≤ request.refreshRate by omega)
    have bound : (10000000000 + 62 * request.framePeriod) * request.horTotal
        < request.refreshRate * request.framePeriod * request.horTotal := by
      have split : (10000000000 + 62 * request.framePeriod) * request.horTotal
          = 10000000000 * request.horTotal
            + 62 * (request.framePeriod * request.horTotal) := by ring
      have split' : (request.verFreq + 1 + 99) * (request.framePeriod * request.horTotal)
          = (request.verFreq + 1) * (request.framePeriod * request.horTotal)
            + 99 * (request.framePeriod * request.horTotal) := by ring
      rw [Nat.mul_assoc] at *
      omega
    have long := Nat.lt_of_mul_lt_mul_right bound
    have some : 0 < request.refreshRate := by
      have slowest := range.refreshRate.1
      omega
    have scaled : request.refreshRate * (124 * request.framePeriod)
        = 124 * (request.refreshRate * request.framePeriod) := by ring
    rcases periodUpper with upper | clamped
    · have double : request.refreshRate * (2 * request.framePeriod)
          = 2 * (request.refreshRate * request.framePeriod) := by ring
      have less := Nat.mul_lt_mul_of_pos_left (show 124 * request.framePeriod
        < request.refreshRate * (request.yRes + 3 + 3 * request.linePeriod) by omega) some
      omega
    · have double : request.refreshRate * (2 * request.framePeriod + 110000)
          = 2 * (request.refreshRate * request.framePeriod) + request.refreshRate * 110000 := by
        ring
      have less := Nat.mul_lt_mul_of_pos_left
        (show 124 * request.framePeriod + request.refreshRate * 110000
          < request.refreshRate * (request.yRes + 3 + 32 * request.linePeriod) by omega) some
      rw [Nat.mul_add] at less
      omega

end CvtRequest

end Cx4Kernel.Cbios
