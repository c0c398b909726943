import Cx4Kernel.Cbios.DeviceModesOrder

/-! The modes that `cbMode_MakeDeviceModeList` lists: no two are the same, each one is the mode of a
timing that the filter lets pass, and with enough memory each such timing has its mode.
-/

namespace Cx4Kernel.Cbios

open Foundation

-----------------------------------------------------------------------------------------
-- Modes of timings
-----------------------------------------------------------------------------------------

/-- The place of a mode by its size. -/
def ModeInfoExt.size (mode : ModeInfoExt) : Nat := mode.xRes.toNat * 2 ^ 32 + mode.yRes.toNat

def DeviceTimingInfo.size (timing : DeviceTimingInfo) : Nat :=
  timing.fullTiming.xRes.toNat * 2 ^ 32 + timing.fullTiming.yRes.toNat

theorem DeviceTimingInfo.size_le_of_rank_lt {small large : DeviceTimingInfo}
    (less : small.rank < large.rank)
    : small.size ≤ large.size := by
  have smallRows := small.fullTiming.yRes.isLt
  have smallRate := small.fullTiming.refreshRate.isLt
  have smallPrefer := small.preferDigit_lt
  have smallProgressive := small.progressiveDigit_lt
  have smallClock := small.fullTiming.pixelClock.isLt
  have largeRows := large.fullTiming.yRes.isLt
  have largeRate := large.fullTiming.refreshRate.isLt
  have largePrefer := large.preferDigit_lt
  have largeProgressive := large.progressiveDigit_lt
  have largeClock := large.fullTiming.pixelClock.isLt
  unfold rank at less
  unfold size
  omega

/-- The mode is the one of a timing, or its equivalent mode, apart from the preferred flag. -/
inductive ModeOf (isCea861Device : Bool) (timing : DeviceTimingInfo) (mode : ModeInfoExt) : Prop where
  | own (same : { mode with isPreferredMode := false } = timing.modeToInsert false)
  | equivalent (isCea : isCea861Device = true) (refresh pixelClock : U32)
      (exist : cbEdidModuleIsEquivalentModeExist timing.fullTiming.formatVIC
        = some (refresh, pixelClock))
      (same : { mode with isPreferredMode := false }
        = (timing.modeToInsert false).equivalent refresh pixelClock)

theorem toNat_setWidth_32 (value : U16) : (value.setWidth 32).toNat = value.toNat := by
  rw [BitVec.toNat_setWidth, Nat.mod_eq_of_lt (by have := value.isLt; omega)]

section ModeOf

variable {isCea861Device : Bool} {timing : DeviceTimingInfo} {mode : ModeInfoExt}

theorem ModeOf.size_eq (modeOf : ModeOf isCea861Device timing mode) : mode.size = timing.size := by
  have sizes : mode.xRes = timing.fullTiming.xRes.setWidth 32
      ∧ mode.yRes = timing.fullTiming.yRes.setWidth 32 := by
    cases modeOf with
    | own same => exact ⟨congrArg ModeInfoExt.xRes same, congrArg ModeInfoExt.yRes same⟩
    | equivalent _ _ _ _ same =>
      exact ⟨congrArg ModeInfoExt.xRes same, congrArg ModeInfoExt.yRes same⟩
  rw [ModeInfoExt.size, sizes.1, sizes.2, toNat_setWidth_32, toNat_setWidth_32]
  rfl

/-- The flag is no part of it. -/
theorem ModeOf.flagged (modeOf : ModeOf isCea861Device timing mode) (isPreferredMode : Bool)
    : ModeOf isCea861Device timing { mode with isPreferredMode := isPreferredMode } := by
  cases modeOf with
  | own same => exact .own same
  | equivalent isCea refresh pixelClock exist same =>
    exact .equivalent isCea refresh pixelClock exist same

/-- What `cbMode_AddDeviceMode` adds. -/
theorem modeOf_of_mem_modesToAdd {isPreferredMode : Bool} {added : ModeInfoExt × Bool}
    (member : added ∈ modesToAdd isCea861Device (timing.modeToInsert isPreferredMode)
      timing.fullTiming.formatVIC)
    : ModeOf isCea861Device timing added.1 := by
  unfold modesToAdd at member
  split at member
  case isTrue isCea =>
    cases exist : cbEdidModuleIsEquivalentModeExist timing.fullTiming.formatVIC with
    | none =>
      rw [exist] at member
      rw [List.mem_singleton.mp member]
      exact .own rfl
    | some both =>
      obtain ⟨refresh, pixelClock⟩ := both
      rw [exist] at member
      dsimp only at member
      have either : added = (timing.modeToInsert isPreferredMode, false)
          ∨ added = ((timing.modeToInsert isPreferredMode).equivalent refresh pixelClock, true) := by
        split at member
        · simpa using member
        · simpa [or_comm] using member
      rcases either with rfl | rfl
      · exact .own rfl
      · exact .equivalent isCea refresh pixelClock exist rfl
  case isFalse =>
    rw [List.mem_singleton.mp member]
    exact .own rfl

end ModeOf

-----------------------------------------------------------------------------------------
-- cbMode_AddMode
-----------------------------------------------------------------------------------------

section AddMode

variable {initSize : Nat} {alloc : Bool} {mode : ModeInfoExt} {list : DeviceModes}

/-- The array holds the list. -/
structure DeviceModes.Fits (list : DeviceModes) : Prop where
  room : list.modes.length ≤ list.modeListArraySize
  allocated : list.listAllocated = false → list.modes = []

theorem prepare_modes (initSize : Nat) (alloc : Bool) (fits : list.Fits)
    : (list.prepare initSize alloc).modes = list.modes ∧ (list.prepare initSize alloc).Fits := by
  unfold DeviceModes.prepare
  cases is : list.listAllocated with
  | true =>
    simp only [if_true]
    split
    case isTrue =>
      exact ⟨rfl, fits.room.trans (Nat.le_add_right _ _), fun unallocated => by
        rw [is] at unallocated
        cases unallocated⟩
    case isFalse => exact ⟨rfl, fits⟩
  | false =>
    rw [fits.allocated is]
    rw [if_neg Bool.false_ne_true]
    generalize (if alloc = true then initSize else 0) = size
    dsimp only
    split <;> exact ⟨rfl, Nat.zero_le _, fun _ => rfl⟩

/-- With memory and two timings there is always room. -/
theorem prepare_room (fits : list.Fits) (several : 2 ≤ initSize)
    : (list.prepare initSize true).listAllocated = true
      ∧ list.modes.length < (list.prepare initSize true).modeListArraySize := by
  have room := fits.room
  unfold DeviceModes.prepare
  cases is : list.listAllocated with
  | true =>
    simp only [if_true, is]
    split
    case isTrue => exact ⟨rfl, by dsimp only; omega⟩
    case isFalse short => exact ⟨is, by simpa using short⟩
  | false =>
    rw [fits.allocated is]
    simp only [Bool.false_eq_true, if_false, if_true]
    split
    case isTrue => exact ⟨rfl, by simp only [List.length_nil]; omega⟩
    case isFalse => exact ⟨rfl, by simp only [List.length_nil]; omega⟩

/-- A mode is added at the end, unless the list has it or there is no room. -/
theorem addMode_cases (fits : list.Fits) (initSize : Nat) (alloc : Bool) (mode : ModeInfoExt)
    : (cbModeAddMode initSize alloc mode list).Fits
      ∧ ((cbModeAddMode initSize alloc mode list).modes = list.modes
        ∨ (∀ listed ∈ list.modes, listed.key ≠ mode.key)
          ∧ (cbModeAddMode initSize alloc mode list).modes = list.modes ++ [mode]) := by
  unfold cbModeAddMode
  split
  case isTrue => exact ⟨fits, .inl rfl⟩
  case isFalse absent =>
    have fresh : ∀ listed ∈ list.modes, listed.key ≠ mode.key := fun listed member same =>
      absent (List.any_eq_true.mpr ⟨listed, member, decide_eq_true same⟩)
    obtain ⟨same, prepared⟩ := prepare_modes initSize alloc fits
    dsimp only
    split
    case isTrue room =>
      refine ⟨⟨?_, fun unallocated => ?_⟩, .inr ⟨fresh, by rw [same]⟩⟩
      · rw [List.length_append, List.length_singleton]
        exact room.2
      · rw [room.1] at unallocated
        cases unallocated
    case isFalse => exact ⟨prepared, .inl same⟩

/-- With memory and two timings the list has the mode afterwards. -/
theorem addMode_listed (fits : list.Fits) (several : 2 ≤ initSize) (mode : ModeInfoExt)
    : ∃ listed ∈ (cbModeAddMode initSize true mode list).modes, listed.key = mode.key := by
  unfold cbModeAddMode
  split
  case isTrue present =>
    obtain ⟨listed, member, same⟩ := List.any_eq_true.mp present
    exact ⟨listed, member, of_decide_eq_true same⟩
  case isFalse =>
    obtain ⟨same, _⟩ := prepare_modes initSize true fits
    obtain ⟨allocated, room⟩ := prepare_room fits several
    rw [← same] at room
    dsimp only
    rw [if_pos ⟨allocated, room⟩]
    exact ⟨mode, List.mem_append_right _ (List.mem_singleton_self _), rfl⟩

/-- The list only grows. -/
theorem addMode_grows (fits : list.Fits) (initSize : Nat) (alloc : Bool) (mode : ModeInfoExt)
    : list.modes <+: (cbModeAddMode initSize alloc mode list).modes := by
  rcases (addMode_cases fits initSize alloc mode).2 with same | ⟨_, added⟩
  · rw [same]
  · rw [added]
    exact List.prefix_append _ _

end AddMode

-----------------------------------------------------------------------------------------
-- What the list holds
-----------------------------------------------------------------------------------------

section Run

-- The timings of the EDID, if the device is a CEA one, and the filter.
variable {timings : List DeviceTimingInfo} {isCea861Device : Bool}
  {needFilter : DeviceTimingInfo → Bool}

/-- What holds of the list once some timings are taken. -/
structure ListOk (isCea861Device : Bool) (needFilter : DeviceTimingInfo → Bool)
    (done : List (Fin timings.length)) (list : DeviceModes)
    : Prop where
  fits : list.Fits
  apart : (list.modes.map ModeInfoExt.key).Nodup
  descend : list.modes.Pairwise fun earlier later => later.size ≤ earlier.size
  source : ∀ mode ∈ list.modes, ∃ index ∈ done,
    needFilter (timings.get index) = false ∧ ModeOf isCea861Device (timings.get index) mode

variable {done : List (Fin timings.length)} {list : DeviceModes} {index : Fin timings.length}

theorem listOk_empty : ListOk isCea861Device needFilter done DeviceModes.empty where
  fits := ⟨Nat.le_refl _, fun _ => rfl⟩
  apart := List.nodup_nil
  descend := .nil
  source := fun _ member => absurd member List.not_mem_nil

theorem ListOk.more (ok : ListOk isCea861Device needFilter done list) (index : Fin timings.length)
    : ListOk isCea861Device needFilter (done ++ [index]) list where
  fits := ok.fits
  apart := ok.apart
  descend := ok.descend
  source := fun mode member => by
    obtain ⟨old, inside, source⟩ := ok.source mode member
    exact ⟨old, List.mem_append_left _ inside, source⟩

/-- A mode of a timing that is no larger than those before. -/
theorem ListOk.addMode (ok : ListOk isCea861Device needFilter done list) (inside : index ∈ done)
    (lowest : ∀ other ∈ done, (timings.get index).size ≤ (timings.get other).size)
    (passes : needFilter (timings.get index) = false) {mode : ModeInfoExt}
    (modeOf : ModeOf isCea861Device (timings.get index) mode) (initSize : Nat) (alloc : Bool)
    : ListOk isCea861Device needFilter done (cbModeAddMode initSize alloc mode list) := by
  obtain ⟨fits, same | ⟨fresh, added⟩⟩ := addMode_cases ok.fits initSize alloc mode
  · exact ⟨fits, by rw [same]; exact ok.apart, by rw [same]; exact ok.descend,
      by rw [same]; exact ok.source⟩
  · refine ⟨fits, ?_, ?_, ?_⟩
    · rw [added, List.map_append, List.nodup_append]
      refine ⟨ok.apart, List.nodup_singleton _, fun key member other new same => ?_⟩
      obtain ⟨listed, old, rfl⟩ := List.mem_map.mp member
      rw [List.map_singleton, List.mem_singleton] at new
      exact fresh listed old (same.trans new)
    · rw [added, List.pairwise_append]
      refine ⟨ok.descend, List.pairwise_singleton _ _, fun earlier old later new => ?_⟩
      obtain ⟨other, before, _, source⟩ := ok.source earlier old
      rw [List.mem_singleton.mp new, modeOf.size_eq, source.size_eq]
      exact lowest other before
    · rw [added]
      intro listed member
      rcases List.mem_append.mp member with old | new
      · exact ok.source listed old
      · rw [List.mem_singleton.mp new]
        exact ⟨index, inside, passes, modeOf⟩

/-- Any number of such modes, by induction on them. -/
theorem ListOk.addModes (ok : ListOk isCea861Device needFilter done list) (inside : index ∈ done)
    (lowest : ∀ other ∈ done, (timings.get index).size ≤ (timings.get other).size)
    (passes : needFilter (timings.get index) = false) {added : List (ModeInfoExt × Bool)}
    (modesOf : ∀ mode ∈ added, ModeOf isCea861Device (timings.get index) mode.1)
    (initSize : Nat) (alloc : Bool → Bool)
    : ListOk isCea861Device needFilter done
        (added.foldl (fun s mode => cbModeAddMode initSize (alloc mode.2) mode.1 s) list) := by
  induction added generalizing list with
  | nil => exact ok
  | cons mode rest ih =>
    have first := ok.addMode inside lowest passes (modesOf mode List.mem_cons_self) initSize
      (alloc mode.2)
    exact ih first fun mode member => modesOf mode (.tail _ member)

/-- The end of a round. -/
theorem ListOk.insertTiming {s : ModeListState}
    (ok : ListOk isCea861Device needFilter done s.list) (alloc : Nat → Bool → Bool)
    (lowest : ∀ other ∈ done, (timings.get index).rank < (timings.get other).rank)
    : ListOk isCea861Device needFilter (done ++ [index])
        (insertTiming timings isCea861Device needFilter alloc s index).list := by
  unfold Cbios.insertTiming
  dsimp only
  split
  case isTrue => exact ok.more index
  case isFalse passes =>
    refine (ok.more index).addModes (List.mem_append_right _ (List.mem_singleton_self _)) ?_
      (Bool.eq_false_iff.mpr passes) (fun _ member => modeOf_of_mem_modesToAdd member) _ _
    intro other member
    rcases List.mem_append.mp member with before | self
    · exact DeviceTimingInfo.size_le_of_rank_lt (lowest other before)
    · rw [List.mem_singleton.mp self]

/-- All rounds, by induction on the timings that are taken. -/
theorem ListOk.insertTimings {s : ModeListState} {taken : List (Fin timings.length)}
    (ok : ListOk isCea861Device needFilter done s.list) (alloc : Nat → Bool → Bool)
    (descend : (done ++ taken).Pairwise fun earlier later =>
      (timings.get later).rank < (timings.get earlier).rank)
    : ListOk isCea861Device needFilter (done ++ taken)
        (taken.foldl (Cbios.insertTiming timings isCea861Device needFilter alloc) s).list := by
  induction taken generalizing done s with
  | nil =>
    rw [List.append_nil]
    exact ok
  | cons index rest ih =>
    have lowest : ∀ other ∈ done, (timings.get index).rank < (timings.get other).rank :=
      fun other member =>
        (List.pairwise_append.mp descend).2.2 other member index List.mem_cons_self
    rw [List.append_cons] at descend ⊢
    exact ih (ok.insertTiming alloc lowest) descend

/-- The preferred flag of the first mode is no part of what the list holds. -/
theorem ListOk.preferFirst (ok : ListOk isCea861Device needFilter done list) (hasPrefer : Bool)
    : ListOk isCea861Device needFilter done
        { list with modes := preferFirst hasPrefer list.modes } := by
  rcases list with ⟨listAllocated, modeListArraySize, modes⟩
  unfold Cbios.preferFirst
  split
  case isTrue => exact ok
  case isFalse =>
    cases modes with
    | nil => exact ok
    | cons first rest =>
      refine ⟨⟨ok.fits.room, fun unallocated => ?_⟩, ok.apart, ?_, fun mode member => ?_⟩
      · cases ok.fits.allocated unallocated
      · obtain ⟨below, descend⟩ := List.pairwise_cons.mp ok.descend
        exact .cons below descend
      · rcases List.mem_cons.mp member with rfl | later
        · obtain ⟨index, inside, passes, source⟩ := ok.source first List.mem_cons_self
          exact ⟨index, inside, passes, source.flagged true⟩
        · exact ok.source mode (.tail _ later)

/-- The list of a device, whatever the timings and the filter are and whichever allocations fail. -/
theorem makeDeviceModeList_listOk (timings : List DeviceTimingInfo) (isCea861Device : Bool)
    (needFilter : DeviceTimingInfo → Bool) (alloc : Nat → Bool → Bool)
    : ListOk isCea861Device needFilter (takenTimings timings)
        (cbModeMakeDeviceModeList timings isCea861Device needFilter alloc) := by
  have start : ListOk isCea861Device needFilter ([] : List (Fin timings.length))
      (ModeListState.mk .empty false).list := listOk_empty
  exact (start.insertTimings alloc (takenTimings_ok timings).descend).preferFirst _

end Run

end Cx4Kernel.Cbios
