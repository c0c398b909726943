import Mathlib.Data.Fintype.Defs
import Cx4Kernel.Cbios.DeviceModes

/-! The order in which `cbMode_MakeDeviceModeList` takes the timings of an EDID, and which timings
it takes for one mode.
-/

namespace Cx4Kernel.Cbios

open Foundation

-----------------------------------------------------------------------------------------
-- The order of the modes
-----------------------------------------------------------------------------------------

section Rank

variable (timing : DeviceTimingInfo)

def DeviceTimingInfo.preferDigit : Nat := if timing.isPreferMode then 1 else 0

def DeviceTimingInfo.progressiveDigit : Nat := if timing.isInterLaced then 0 else 1

/-- The place of a timing: by its size, then the refresh rate, the preferred flag, progressive
before interlaced, and the clock.
-/
def DeviceTimingInfo.rank : Nat :=
  ((((timing.fullTiming.xRes.toNat * 2 ^ 16 + timing.fullTiming.yRes.toNat) * 2 ^ 16
    + timing.fullTiming.refreshRate.toNat) * 2 + timing.preferDigit) * 2
    + timing.progressiveDigit) * 2 ^ 32 + timing.fullTiming.pixelClock.toNat

theorem DeviceTimingInfo.preferDigit_lt : timing.preferDigit < 2 := by
  unfold preferDigit
  split <;> decide

theorem DeviceTimingInfo.progressiveDigit_lt : timing.progressiveDigit < 2 := by
  unfold progressiveDigit
  split <;> decide

end Rank

/-- Two timings are one mode for the user. -/
structure SameMode (timing1 timing2 : DeviceTimingInfo) : Prop where
  xRes : timing1.fullTiming.xRes = timing2.fullTiming.xRes
  yRes : timing1.fullTiming.yRes = timing2.fullTiming.yRes
  refreshRate : timing1.fullTiming.refreshRate = timing2.fullTiming.refreshRate
  isInterLaced : timing1.isInterLaced = timing2.isInterLaced
  pixelClock : timing1.fullTiming.pixelClock = timing2.fullTiming.pixelClock

theorem SameMode.refl (timing : DeviceTimingInfo) : SameMode timing timing :=
  ⟨rfl, rfl, rfl, rfl, rfl⟩

theorem SameMode.trans {first second third : DeviceTimingInfo} (left : SameMode first second)
    (right : SameMode second third)
    : SameMode first third :=
  ⟨left.xRes.trans right.xRes, left.yRes.trans right.yRes,
    left.refreshRate.trans right.refreshRate, left.isInterLaced.trans right.isInterLaced,
    left.pixelClock.trans right.pixelClock⟩

theorem SameMode.symm {timing1 timing2 : DeviceTimingInfo} (same : SameMode timing1 timing2)
    : SameMode timing2 timing1 :=
  ⟨same.xRes.symm, same.yRes.symm, same.refreshRate.symm, same.isInterLaced.symm,
    same.pixelClock.symm⟩

/-- Among timings of one mode the preferred flag decides. -/
theorem SameMode.rank_le {timing1 timing2 : DeviceTimingInfo} (same : SameMode timing1 timing2)
    (prefer : timing1.isPreferMode = true → timing2.isPreferMode = true)
    : timing1.rank ≤ timing2.rank := by
  have digit : timing1.preferDigit ≤ timing2.preferDigit := by
    unfold DeviceTimingInfo.preferDigit
    cases first : timing1.isPreferMode with
    | false => exact Nat.zero_le _
    | true => rw [prefer first]
  unfold DeviceTimingInfo.rank DeviceTimingInfo.progressiveDigit
  rw [same.xRes, same.yRes, same.refreshRate, same.isInterLaced, same.pixelClock]
  omega

theorem SameMode.prefer_of_rank_le {timing1 timing2 : DeviceTimingInfo}
    (same : SameMode timing1 timing2) (upper : timing1.rank ≤ timing2.rank)
    (prefer : timing1.isPreferMode = true)
    : timing2.isPreferMode = true := by
  unfold DeviceTimingInfo.rank DeviceTimingInfo.progressiveDigit DeviceTimingInfo.preferDigit
    at upper
  rw [same.xRes, same.yRes, same.refreshRate, same.isInterLaced, same.pixelClock, prefer] at upper
  cases second : timing2.isPreferMode with
  | true => rfl
  | false =>
    rw [second] at upper
    simp only [if_true, Bool.false_eq_true, if_false] at upper
    omega

-----------------------------------------------------------------------------------------
-- Priorities
-----------------------------------------------------------------------------------------

/-- Numbers compare by their digits. -/
theorem compare_digits {high1 high2 low1 low2 base : Nat} (small1 : low1 < base)
    (small2 : low2 < base)
    : compare (high1 * base + low1) (high2 * base + low2)
      = (compare high1 high2).then (compare low1 low2) := by
  rcases Nat.lt_trichotomy high1 high2 with less | rfl | more
  · have next := Nat.mul_le_mul_right base less
    rw [Nat.succ_mul] at next
    rw [Nat.compare_eq_lt.mpr less, Nat.compare_eq_lt.mpr (by omega)]
    rfl
  · rw [Nat.compare_eq_eq.mpr rfl, Ordering.eq_then]
    rcases Nat.lt_trichotomy low1 low2 with less | rfl | more
    · rw [Nat.compare_eq_lt.mpr less, Nat.compare_eq_lt.mpr (by omega)]
    · rw [Nat.compare_eq_eq.mpr rfl, Nat.compare_eq_eq.mpr rfl]
    · rw [Nat.compare_eq_gt.mpr more, Nat.compare_eq_gt.mpr (by omega)]
  · have next := Nat.mul_le_mul_right base more
    rw [Nat.succ_mul] at next
    rw [Nat.compare_eq_gt.mpr more, Nat.compare_eq_gt.mpr (by omega)]
    rfl

/-- The priority of a mode, by how its fields compare to those of the other one. -/
def priorityOf (xRes yRes refreshRate prefer progressive pixelClock : Ordering) : U8 :=
  (if xRes = .gt then 1 <<< 7 else 0)
  ||| (if yRes = .gt then 1 <<< 6 else 0)
  ||| (if refreshRate = .gt then 1 <<< 5 else 0)
  ||| (if prefer = .gt then 1 <<< 4 else 0)
  ||| (if progressive = .gt then 1 <<< 3 else 0)
  ||| (if pixelClock = .gt then 1 <<< 2 else 0)

section Fields

variable (mode1 mode2 : DeviceTimingInfo)

def compareXRes : Ordering :=
  compare mode1.fullTiming.xRes.toNat mode2.fullTiming.xRes.toNat

def compareYRes : Ordering :=
  compare mode1.fullTiming.yRes.toNat mode2.fullTiming.yRes.toNat

def compareRefreshRate : Ordering :=
  compare mode1.fullTiming.refreshRate.toNat mode2.fullTiming.refreshRate.toNat

def comparePrefer : Ordering := compare mode1.preferDigit mode2.preferDigit

def compareProgressive : Ordering := compare mode1.progressiveDigit mode2.progressiveDigit

def comparePixelClock : Ordering :=
  compare mode1.fullTiming.pixelClock.toNat mode2.fullTiming.pixelClock.toNat

theorem modePriority_eq
    : modePriority mode1 mode2
      = priorityOf (compareXRes mode1 mode2) (compareYRes mode1 mode2)
        (compareRefreshRate mode1 mode2) (comparePrefer mode1 mode2)
        (compareProgressive mode1 mode2) (comparePixelClock mode1 mode2) := by
  have prefer : comparePrefer mode1 mode2 = .gt ↔ mode1.isPreferMode ∧ ¬ mode2.isPreferMode := by
    unfold comparePrefer DeviceTimingInfo.preferDigit
    rw [Nat.compare_eq_gt]
    cases mode1.isPreferMode <;> cases mode2.isPreferMode <;> decide
  have progressive : compareProgressive mode1 mode2 = .gt
      ↔ ¬ mode1.isInterLaced ∧ mode2.isInterLaced := by
    unfold compareProgressive DeviceTimingInfo.progressiveDigit
    rw [Nat.compare_eq_gt]
    cases mode1.isInterLaced <;> cases mode2.isInterLaced <;> decide
  unfold modePriority priorityOf
  simp only [prefer, progressive]
  simp only [compareXRes, compareYRes, compareRefreshRate, comparePixelClock, Nat.compare_eq_gt,
    BitVec.lt_def]

/-- How two modes compare by all of their fields. -/
def compareFields : Ordering :=
  (compareXRes mode1 mode2).then <| (compareYRes mode1 mode2).then <|
    (compareRefreshRate mode1 mode2).then <| (comparePrefer mode1 mode2).then <|
    (compareProgressive mode1 mode2).then (comparePixelClock mode1 mode2)

theorem compare_rank : compare mode1.rank mode2.rank = compareFields mode1 mode2 := by
  unfold DeviceTimingInfo.rank compareFields
  rw [compare_digits (BitVec.isLt _) (BitVec.isLt _),
    compare_digits mode1.progressiveDigit_lt mode2.progressiveDigit_lt,
    compare_digits mode1.preferDigit_lt mode2.preferDigit_lt,
    compare_digits (BitVec.isLt _) (BitVec.isLt _), compare_digits (BitVec.isLt _) (BitVec.isLt _)]
  simp only [Ordering.then_assoc]
  rfl

/-- The fields other than the preferred flag are equal. -/
theorem sameMode_iff
    : SameMode mode1 mode2
      ↔ compareXRes mode1 mode2 = .eq ∧ compareYRes mode1 mode2 = .eq
        ∧ compareRefreshRate mode1 mode2 = .eq ∧ compareProgressive mode1 mode2 = .eq
        ∧ comparePixelClock mode1 mode2 = .eq := by
  have progressive : compareProgressive mode1 mode2 = .eq
      ↔ mode1.isInterLaced = mode2.isInterLaced := by
    unfold compareProgressive DeviceTimingInfo.progressiveDigit
    rw [Nat.compare_eq_eq]
    cases mode1.isInterLaced <;> cases mode2.isInterLaced <;> decide
  rw [progressive]
  simp only [compareXRes, compareYRes, compareRefreshRate, comparePixelClock, Nat.compare_eq_eq,
    BitVec.toNat_inj]
  exact ⟨fun same => ⟨same.xRes, same.yRes, same.refreshRate, same.isInterLaced, same.pixelClock⟩,
    fun ⟨xRes, yRes, refreshRate, isInterLaced, pixelClock⟩ =>
      ⟨xRes, yRes, refreshRate, isInterLaced, pixelClock⟩⟩

instance : Decidable (SameMode mode1 mode2) :=
  decidable_of_iff _ (sameMode_iff mode1 mode2).symm

end Fields

/-- The result that the priorities give. -/
def priorityResult (priority1 priority2 : U8) : Int :=
  if priority1 ||| 1 <<< 4 = priority2 ||| 1 <<< 4 ∨ priority1 = priority2 then 0
  else if priority2 < priority1 then 1
  else -1

/-- The highest bit in which priorities differ decides, apart from the one for the preferred flag.
-/
theorem priorityResult_eq (xRes yRes refreshRate prefer progressive pixelClock : Ordering)
    : priorityResult (priorityOf xRes yRes refreshRate prefer progressive pixelClock)
        (priorityOf xRes.swap yRes.swap refreshRate.swap prefer.swap progressive.swap
          pixelClock.swap)
      = if xRes = .eq ∧ yRes = .eq ∧ refreshRate = .eq ∧ progressive = .eq ∧ pixelClock = .eq then 0
        else if xRes.then (yRes.then (refreshRate.then (prefer.then (progressive.then pixelClock))))
          = .gt then 1
        else -1 := by
  revert xRes yRes refreshRate prefer progressive pixelClock
  decide +kernel

/-- `cbMode_CompareMode` goes by the places of the modes, once they are not the same mode. -/
theorem cbModeCompareMode_eq (mode1 mode2 : DeviceTimingInfo)
    : cbModeCompareMode mode1 mode2
      = if SameMode mode1 mode2 then 0 else if mode2.rank < mode1.rank then 1 else -1 := by
  have swapped : modePriority mode2 mode1
      = priorityOf (compareXRes mode1 mode2).swap (compareYRes mode1 mode2).swap
        (compareRefreshRate mode1 mode2).swap (comparePrefer mode1 mode2).swap
        (compareProgressive mode1 mode2).swap (comparePixelClock mode1 mode2).swap := by
    rw [modePriority_eq]
    simp only [compareXRes, compareYRes, compareRefreshRate, comparePrefer, compareProgressive,
      comparePixelClock, Nat.compare_swap]
  change priorityResult (modePriority mode1 mode2) (modePriority mode2 mode1) = _
  have ahead : mode2.rank < mode1.rank ↔ compareFields mode1 mode2 = .gt := by
    rw [← compare_rank, Nat.compare_eq_gt]
  rw [swapped, modePriority_eq mode1 mode2, priorityResult_eq]
  simp only [sameMode_iff, ahead]
  rfl

-----------------------------------------------------------------------------------------
-- The timings that are taken
-----------------------------------------------------------------------------------------

/-- What becomes of a timing, by the places. -/
theorem timingMeet_eq (timing best : DeviceTimingInfo)
    : timingMeet timing best
      = if SameMode timing best then if timing.isPreferMode then .absorbs else .absorbed
        else if best.rank < timing.rank then .beats
        else .waits := by
  unfold timingMeet
  rw [cbModeCompareMode_eq]
  split
  · rfl
  · split <;> rfl

/-- Timings that are no same mode have different places. -/
theorem sameMode_of_rank_eq {timing1 timing2 : DeviceTimingInfo} (same : timing1.rank = timing2.rank)
    : SameMode timing1 timing2 := by
  have fields : compareFields timing1 timing2 = .eq := by
    rw [← compare_rank, same, Nat.compare_eq_eq.mpr rfl]
  simp only [compareFields, Ordering.then_eq_eq] at fields
  obtain ⟨xRes, yRes, refreshRate, _, progressive, pixelClock⟩ := fields
  exact (sameMode_iff timing1 timing2).mpr ⟨xRes, yRes, refreshRate, progressive, pixelClock⟩

theorem timingMeet_byRank (timings : List DeviceTimingInfo)
    : MeetsByRank (fun index : Fin timings.length => (timings.get index).rank)
        (fun left right => SameMode (timings.get left) (timings.get right))
        (fun left right => timingMeet (timings.get left) (timings.get right)) where
  refl := fun index => .refl _
  trans := fun _ _ _ left right => left.trans right
  waits := fun item champion outcome => by
    rw [timingMeet_eq] at outcome
    split at outcome
    · split at outcome <;> cases outcome
    case isFalse apart =>
      split at outcome
      · cases outcome
      · exact Nat.lt_of_le_of_ne (by omega) fun same => apart (sameMode_of_rank_eq same)
  beats := fun item champion outcome => by
    rw [timingMeet_eq] at outcome
    split at outcome
    · split at outcome <;> cases outcome
    · split at outcome
      case isTrue above => exact above
      case isFalse => cases outcome
  absorbed := fun item champion outcome => by
    rw [timingMeet_eq] at outcome
    split at outcome
    case isTrue same =>
      split at outcome
      case isTrue => cases outcome
      case isFalse plain => exact ⟨same, same.rank_le fun prefer => absurd prefer plain⟩
    · split at outcome <;> cases outcome
  absorbs := fun item champion outcome => by
    rw [timingMeet_eq] at outcome
    split at outcome
    case isTrue same =>
      split at outcome
      case isTrue prefer => exact ⟨same.symm, same.symm.rank_le fun _ => prefer⟩
      case isFalse => cases outcome
    · split at outcome <;> cases outcome

section Taken

variable (timings : List DeviceTimingInfo)

/-- All timings are left at the start. -/
theorem itemsLeft_start
    : itemsLeft (List.finRange timings.length) (fun _ => false) ≤ timings.length := by
  unfold itemsLeft
  exact List.countP_le_length.trans (le_of_eq List.length_finRange)

/-- The loop of `cbMode_MakeDeviceModeList` ends once every timing is taken or merged. -/
structure TakenOk (taken : List (Fin timings.length)) : Prop where
  /-- More rounds find no timing that is left. -/
  finished : ∀ more,
    champions (fun left right => timingMeet (timings.get left) (timings.get right))
      (List.finRange timings.length) (timings.length + more) (fun _ => false) = taken
  descend : taken.Pairwise fun earlier later =>
    (timings.get later).rank < (timings.get earlier).rank
  /-- A timing that is taken stands for every timing, with the preferred flag. -/
  complete : ∀ index, ∃ standing ∈ taken, SameMode (timings.get index) (timings.get standing)
    ∧ ((timings.get index).isPreferMode = true → (timings.get standing).isPreferMode = true)

theorem takenTimings_ok : TakenOk timings (takenTimings timings) where
  finished := champions_enough (timingMeet_byRank timings) (List.nodup_finRange _)
    (itemsLeft_start timings)
  descend := champions_descend (timingMeet_byRank timings) (List.nodup_finRange _) _ _
  complete := fun index => by
    obtain ⟨standing, taken, stands⟩ := champions_complete (timingMeet_byRank timings)
      (List.nodup_finRange _) (itemsLeft_start timings) (List.mem_finRange index) rfl
    exact ⟨standing, taken, stands.same, stands.same.prefer_of_rank_le stands.rank⟩

end Taken

end Cx4Kernel.Cbios
