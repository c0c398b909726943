import Cx4Kernel.Cbios.DeviceModesListed
import Cx4Kernel.Foundation.Folds

/-! With enough memory the list of a device has the modes of every timing that the filter lets pass,
unless there is a single one, and which of its modes is the preferred one.
-/

namespace Cx4Kernel.Cbios

open Foundation

/-- All allocations for modes succeed. -/
def plentyModes : Nat → Bool → Bool := fun _ _ => true

-----------------------------------------------------------------------------------------
-- What is added
-----------------------------------------------------------------------------------------

section Added

variable {isCea861Device : Bool} {timing : DeviceTimingInfo} {mode : ModeInfoExt}

/-- Every mode of a timing is among those that are added. -/
theorem ModeOf.mem_modesToAdd (modeOf : ModeOf isCea861Device timing mode) (isPreferredMode : Bool)
    : ∃ added ∈ modesToAdd isCea861Device (timing.modeToInsert isPreferredMode)
        timing.fullTiming.formatVIC,
      added.1.key = mode.key := by
  unfold modesToAdd
  cases modeOf with
  | own same =>
    have key : (timing.modeToInsert isPreferredMode).key = mode.key :=
      (congrArg ModeInfoExt.key same).symm
    have own : ∀ others : List (ModeInfoExt × Bool),
        (timing.modeToInsert isPreferredMode, false) ∈ others
        → ∃ added ∈ others, added.1.key = mode.key := fun others member => ⟨_, member, key⟩
    split
    · split
      · exact own _ (List.mem_singleton_self _)
      · split
        · exact own _ List.mem_cons_self
        · exact own _ (.tail _ List.mem_cons_self)
    · exact own _ (List.mem_singleton_self _)
  | equivalent isCea refresh pixelClock exist same =>
    have key : ((timing.modeToInsert isPreferredMode).equivalent refresh pixelClock).key
        = mode.key :=
      (congrArg ModeInfoExt.key same).symm
    rw [if_pos isCea, exist]
    dsimp only
    split
    · exact ⟨_, .tail _ List.mem_cons_self, key⟩
    · exact ⟨_, List.mem_cons_self, key⟩

/-- A preferred mode is added before its equivalent mode, which is not preferred. -/
theorem modesToAdd_preferred (isCea861Device : Bool) {mode : ModeInfoExt}
    (preferred : mode.isPreferredMode = true) (formatVIC : U16)
    : ∃ others, modesToAdd isCea861Device mode formatVIC = (mode, false) :: others
      ∧ others.countP (·.1.isPreferredMode) = 0 := by
  unfold modesToAdd
  split
  · split
    · exact ⟨[], rfl, rfl⟩
    · rw [if_pos (.inl preferred)]
      exact ⟨_, rfl, rfl⟩
  · exact ⟨[], rfl, rfl⟩

/-- At most one mode that is added is preferred. -/
theorem countP_modesToAdd (mode : ModeInfoExt) (formatVIC : U16)
    : (modesToAdd isCea861Device mode formatVIC).countP (·.1.isPreferredMode)
      = if mode.isPreferredMode then 1 else 0 := by
  unfold modesToAdd
  cases flag : mode.isPreferredMode with
  | true =>
    split
    · split
      · simp [flag]
      · simp [flag, ModeInfoExt.equivalent]
    · simp [flag]
  | false =>
    split
    · split
      · simp [flag]
      · split <;> simp [flag, ModeInfoExt.equivalent]
    · simp [flag]

end Added

section AddModes

variable {initSize : Nat} {list : DeviceModes}

def DeviceModes.addModes (initSize : Nat) (alloc : Bool → Bool) (added : List (ModeInfoExt × Bool))
    (list : DeviceModes)
    : DeviceModes :=
  added.foldl (fun s mode => cbModeAddMode initSize (alloc mode.2) mode.1 s) list

/-- Adding modes only grows the list. -/
theorem addModes_grow (fits : list.Fits) (initSize : Nat) (alloc : Bool → Bool)
    (added : List (ModeInfoExt × Bool))
    : (list.addModes initSize alloc added).Fits
      ∧ list.modes <+: (list.addModes initSize alloc added).modes := by
  induction added generalizing list with
  | nil => exact ⟨fits, List.prefix_refl _⟩
  | cons mode rest ih =>
    have first := addMode_grows fits initSize (alloc mode.2) mode.1
    obtain ⟨fits', rest⟩ := ih (addMode_cases fits initSize (alloc mode.2) mode.1).1
    exact ⟨fits', first.trans rest⟩

theorem addModes_listed (fits : list.Fits) (several : 2 ≤ initSize)
    (added : List (ModeInfoExt × Bool))
    : ∀ mode ∈ added, ∃ listed ∈ (list.addModes initSize (fun _ => true) added).modes,
        listed.key = mode.1.key := by
  induction added generalizing list with
  | nil => exact fun mode member => absurd member List.not_mem_nil
  | cons head rest ih =>
    have fits' := (addMode_cases fits initSize true head.1).1
    intro mode member
    rcases List.mem_cons.mp member with rfl | later
    · obtain ⟨listed, inside, key⟩ := addMode_listed fits several mode.1
      exact ⟨listed, (addModes_grow fits' initSize (fun _ => true) rest).2.subset inside, key⟩
    · exact ih fits' mode later

/-- The preferred modes are those that were listed and those that are added. -/
theorem countP_addModes_le (fits : list.Fits) (initSize : Nat) (alloc : Bool → Bool)
    (added : List (ModeInfoExt × Bool))
    : (list.addModes initSize alloc added).modes.countP (·.isPreferredMode)
      ≤ list.modes.countP (·.isPreferredMode) + added.countP (·.1.isPreferredMode) := by
  induction added generalizing list with
  | nil => exact Nat.le_refl _
  | cons mode rest ih =>
    obtain ⟨fits', outcome⟩ := addMode_cases fits initSize (alloc mode.2) mode.1
    have later := ih fits'
    rw [List.countP_cons]
    have first : (cbModeAddMode initSize (alloc mode.2) mode.1 list).modes.countP
        (·.isPreferredMode)
        ≤ list.modes.countP (·.isPreferredMode) + if mode.1.isPreferredMode then 1 else 0 := by
      rcases outcome with same | ⟨_, grown⟩
      · rw [same]
        exact Nat.le_add_right _ _
      · rw [grown, List.countP_append, List.countP_singleton]
    have rest := later.trans (Nat.add_le_add_right first _)
    exact rest.trans (le_of_eq (by omega))

end AddModes

-----------------------------------------------------------------------------------------
-- All modes are listed
-----------------------------------------------------------------------------------------

section Run

variable {timings : List DeviceTimingInfo} {isCea861Device : Bool}
  {needFilter : DeviceTimingInfo → Bool} {done : List (Fin timings.length)}
  {index : Fin timings.length} {s : ModeListState}

/-- The list has all modes of the timings that the filter lets pass. -/
def Covers (isCea861Device : Bool) (needFilter : DeviceTimingInfo → Bool)
    (done : List (Fin timings.length)) (list : DeviceModes)
    : Prop :=
  ∀ index ∈ done, needFilter (timings.get index) = false
    → ∀ mode, ModeOf isCea861Device (timings.get index) mode
      → ∃ listed ∈ list.modes, listed.key = mode.key

theorem Covers.grows {list longer : DeviceModes}
    (covers : Covers isCea861Device needFilter done list) (longer' : list.modes <+: longer.modes)
    : Covers isCea861Device needFilter done longer := by
  intro index inside passes mode modeOf
  obtain ⟨listed, member, key⟩ := covers index inside passes mode modeOf
  exact ⟨listed, longer'.subset member, key⟩

/-- What is added at the end of a round. -/
theorem insertTiming_list (passes : needFilter (timings.get index) = false)
    (alloc : Nat → Bool → Bool) (s : ModeListState)
    : (insertTiming timings isCea861Device needFilter alloc s index).list
      = s.list.addModes timings.length (alloc index.val)
        (modesToAdd isCea861Device
          ((timings.get index).modeToInsert ((timings.get index).isPreferMode && !s.hasPrefer))
          (timings.get index).fullTiming.formatVIC) := by
  unfold insertTiming
  dsimp only
  rw [if_neg (Bool.eq_false_iff.mp passes)]
  rfl

theorem insertTiming_grows (isCea861Device : Bool) (needFilter : DeviceTimingInfo → Bool)
    (fits : s.list.Fits) (alloc : Nat → Bool → Bool) (index : Fin timings.length)
    : (insertTiming timings isCea861Device needFilter alloc s index).list.Fits
      ∧ s.list.modes
        <+: (insertTiming timings isCea861Device needFilter alloc s index).list.modes := by
  cases passes : needFilter (timings.get index) with
  | true =>
    unfold insertTiming
    dsimp only
    rw [if_pos passes]
    exact ⟨fits, List.prefix_refl _⟩
  | false =>
    rw [insertTiming_list passes]
    exact addModes_grow fits _ _ _

theorem Covers.insertTiming (covers : Covers isCea861Device needFilter done s.list)
    (fits : s.list.Fits) (several : 2 ≤ timings.length) (index : Fin timings.length)
    : Covers isCea861Device needFilter (done ++ [index])
        (Cbios.insertTiming timings isCea861Device needFilter plentyModes s index).list := by
  intro other inside passes mode modeOf
  rcases List.mem_append.mp inside with before | self
  · have grown := (insertTiming_grows isCea861Device needFilter fits plentyModes index).2
    exact covers.grows grown other before passes mode modeOf
  · rw [List.mem_singleton] at self
    subst self
    obtain ⟨added, member, key⟩ := modeOf.mem_modesToAdd
      ((timings.get other).isPreferMode && !s.hasPrefer)
    obtain ⟨listed, inside, key'⟩ := addModes_listed fits several _ added member
    rw [insertTiming_list passes]
    exact ⟨listed, inside, key'.trans key⟩

/-- All rounds, by induction on the timings that are taken. -/
theorem Covers.insertTimings (covers : Covers isCea861Device needFilter done s.list)
    (fits : s.list.Fits) (several : 2 ≤ timings.length) (taken : List (Fin timings.length))
    : Covers isCea861Device needFilter (done ++ taken)
        (taken.foldl (Cbios.insertTiming timings isCea861Device needFilter plentyModes) s).list := by
  induction taken generalizing done s with
  | nil =>
    rw [List.append_nil]
    exact covers
  | cons index rest ih =>
    rw [List.append_cons]
    have fits' := (insertTiming_grows isCea861Device needFilter fits plentyModes index).1
    exact ih (covers.insertTiming fits several index) fits'

theorem mem_preferFirst_key {hasPrefer : Bool} {modes : List ModeInfoExt} {key : ModeKey}
    : (∃ listed ∈ preferFirst hasPrefer modes, listed.key = key)
      ↔ ∃ listed ∈ modes, listed.key = key := by
  unfold preferFirst
  split
  · rfl
  · cases modes with
    | nil => rfl
    | cons first rest =>
      rw [List.modify_zero_cons]
      simp only [List.exists_mem_cons_iff]
      rfl

theorem makeDeviceModeList_covers (several : 2 ≤ timings.length)
    : Covers isCea861Device needFilter (takenTimings timings)
        (cbModeMakeDeviceModeList timings isCea861Device needFilter plentyModes) := by
  have start : Covers isCea861Device needFilter ([] : List (Fin timings.length))
      (ModeListState.mk .empty false).list := fun _ inside => absurd inside List.not_mem_nil
  have run := start.insertTimings ⟨Nat.le_refl _, fun _ => rfl⟩ several (takenTimings timings)
  intro index inside passes mode modeOf
  exact mem_preferFirst_key.mpr (run index inside passes mode modeOf)

-----------------------------------------------------------------------------------------
-- The preferred mode
-----------------------------------------------------------------------------------------

/-- A timing whose mode can get the preferred flag. -/
def takesFlag (needFilter : DeviceTimingInfo → Bool) (timing : DeviceTimingInfo) : Bool :=
  !needFilter timing && timing.isPreferMode

theorem insertTiming_hasPrefer (alloc : Nat → Bool → Bool) (s : ModeListState)
    : (insertTiming timings isCea861Device needFilter alloc s index).hasPrefer
      = (s.hasPrefer || takesFlag needFilter (timings.get index)) := by
  unfold insertTiming takesFlag
  dsimp only
  split
  case isTrue filtered =>
    rw [filtered]
    simp
  case isFalse passes =>
    rw [Bool.eq_false_iff.mpr passes]
    cases s.hasPrefer <;> cases (timings.get index).isPreferMode <;> rfl

theorem insertTimings_hasPrefer (alloc : Nat → Bool → Bool) (s : ModeListState)
    (taken : List (Fin timings.length))
    : (taken.foldl (insertTiming timings isCea861Device needFilter alloc) s).hasPrefer
      = (s.hasPrefer || taken.any fun index => takesFlag needFilter (timings.get index)) := by
  induction taken generalizing s with
  | nil => simp
  | cons index rest ih =>
    rw [List.foldl_cons, ih, insertTiming_hasPrefer, List.any_cons, Bool.or_assoc]

/-- How many modes are preferred. -/
def DeviceModes.preferred (list : DeviceModes) : Nat := list.modes.countP (·.isPreferredMode)

/-- A round adds a preferred mode at most if it takes the flag. -/
theorem insertTiming_preferred_le (isCea861Device : Bool) (needFilter : DeviceTimingInfo → Bool)
    (fits : s.list.Fits) (alloc : Nat → Bool → Bool) (index : Fin timings.length)
    : (insertTiming timings isCea861Device needFilter alloc s index).list.preferred
      ≤ s.list.preferred
        + if takesFlag needFilter (timings.get index) && !s.hasPrefer then 1 else 0 := by
  cases passes : needFilter (timings.get index) with
  | true =>
    unfold insertTiming
    dsimp only
    rw [if_pos passes]
    exact Nat.le_add_right _ _
  | false =>
    have added := countP_addModes_le fits timings.length (alloc index.val)
      (modesToAdd isCea861Device
        ((timings.get index).modeToInsert ((timings.get index).isPreferMode && !s.hasPrefer))
        (timings.get index).fullTiming.formatVIC)
    rw [countP_modesToAdd] at added
    rw [insertTiming_list passes, takesFlag, passes]
    exact added

/-- Rounds that do not take the flag add no preferred mode. -/
theorem insertTimings_preferred (fits : s.list.Fits) (alloc : Nat → Bool → Bool)
    {taken : List (Fin timings.length)}
    (plain : s.hasPrefer = true
      ∨ ∀ index ∈ taken, takesFlag needFilter (timings.get index) = false)
    : (taken.foldl (insertTiming timings isCea861Device needFilter alloc) s).list.preferred
      = s.list.preferred := by
  induction taken generalizing s with
  | nil => rfl
  | cons index rest ih =>
    obtain ⟨fits', longer⟩ := insertTiming_grows isCea861Device needFilter fits alloc index
    have none : (takesFlag needFilter (timings.get index) && !s.hasPrefer) = false := by
      rcases plain with has | plain
      · rw [has, Bool.not_true, Bool.and_false]
      · rw [plain index List.mem_cons_self, Bool.false_and]
    have upper := insertTiming_preferred_le isCea861Device needFilter fits alloc index
    rw [none] at upper
    have lower : s.list.preferred
        ≤ (insertTiming timings isCea861Device needFilter alloc s index).list.preferred :=
      longer.sublist.countP_le
    have next := ih fits' (plain.imp (fun has => by rw [insertTiming_hasPrefer, has, Bool.true_or])
      fun plain other member => plain other (.tail _ member))
    rw [List.foldl_cons, next]
    exact Nat.le_antisymm upper lower

/-- The mode of the first timing that takes the flag is one of a timing that is taken before. -/
def PreferredSwallowed (timings : List DeviceTimingInfo) (isCea861Device : Bool)
    (needFilter : DeviceTimingInfo → Bool)
    : Prop :=
  ∃ index ∈ takenTimings timings, takesFlag needFilter (timings.get index) = true
    ∧ (∀ other ∈ takenTimings timings, takesFlag needFilter (timings.get other) = true
      → (timings.get other).rank ≤ (timings.get index).rank)
    ∧ ∃ earlier ∈ takenTimings timings, needFilter (timings.get earlier) = false
      ∧ (timings.get index).rank < (timings.get earlier).rank
      ∧ ∃ mode, ModeOf isCea861Device (timings.get earlier) mode
        ∧ mode.key = ((timings.get index).modeToInsert true).key

/-- The first timing that takes the flag, by the order in which timings are taken. -/
theorem swallowed_iff {before rest : List (Fin timings.length)} {first : Fin timings.length}
    (split : takenTimings timings = before ++ first :: rest)
    (takes : takesFlag needFilter (timings.get first) = true)
    (plain : ∀ index ∈ before, takesFlag needFilter (timings.get index) = false)
    : PreferredSwallowed timings isCea861Device needFilter
      ↔ ∃ earlier ∈ before, needFilter (timings.get earlier) = false
        ∧ ∃ mode, ModeOf isCea861Device (timings.get earlier) mode
          ∧ mode.key = ((timings.get first).modeToInsert true).key := by
  have descend := (takenTimings_ok timings).descend
  rw [split, List.pairwise_append, List.pairwise_cons] at descend
  obtain ⟨_, ⟨below, _⟩, above⟩ := descend
  -- Who takes the flag is the first one or comes behind it.
  have behind : ∀ other ∈ takenTimings timings, takesFlag needFilter (timings.get other) = true
      → other = first ∨ (timings.get other).rank < (timings.get first).rank := by
    intro other member otherTakes
    rw [split] at member
    rcases List.mem_append.mp member with inBefore | inRest
    · rw [plain other inBefore] at otherTakes
      cases otherTakes
    · exact (List.mem_cons.mp inRest).imp id (below other)
  have firstTaken : first ∈ takenTimings timings := by
    rw [split]
    exact List.mem_append_right _ List.mem_cons_self
  constructor
  · rintro ⟨index, member, indexTakes, largest, earlier, earlierTaken, passes, higher, swallows⟩
    have isFirst : index = first :=
      (behind index member indexTakes).resolve_right
        (Nat.not_lt.mpr (largest first firstTaken takes))
    subst isFirst
    rw [split] at earlierTaken
    rcases List.mem_append.mp earlierTaken with inBefore | inRest
    · exact ⟨earlier, inBefore, passes, swallows⟩
    · rcases List.mem_cons.mp inRest with rfl | later
      · exact absurd higher (Nat.lt_irrefl _)
      · exact absurd higher (Nat.lt_asymm (below earlier later))
  · rintro ⟨earlier, inBefore, passes, swallows⟩
    refine ⟨first, firstTaken, takes, fun other member otherTakes => ?_, earlier, ?_, passes, ?_,
      swallows⟩
    · rcases behind other member otherTakes with rfl | lower
      · exact Nat.le_refl _
      · exact Nat.le_of_lt lower
    · rw [split]
      exact List.mem_append_left _ inBefore
    · exact above earlier inBefore first List.mem_cons_self

/-- The first mode gets the flag if there is none. -/
theorem preferred_preferFirst {list : DeviceModes}
    (none : list.preferred = 0)
    : DeviceModes.preferred { list with modes := preferFirst false list.modes }
      = if list.modes = [] then 0 else 1 := by
  rcases list with ⟨listAllocated, modeListArraySize, modes⟩
  cases modes with
  | nil => rfl
  | cons first rest =>
    have later : rest.countP (·.isPreferredMode) = 0 := by
      have all : (first :: rest).countP (·.isPreferredMode) = 0 := none
      rw [List.countP_cons] at all
      omega
    unfold DeviceModes.preferred preferFirst
    rw [if_neg Bool.false_ne_true]
    dsimp only
    rw [List.modify_zero_cons, List.countP_cons, later]
    rfl

/-- The mode of the first timing that takes the flag is not added if an earlier timing has it. -/
theorem insertTiming_first (ok : ListOk isCea861Device needFilter done s.list)
    (covers : Covers isCea861Device needFilter done s.list) (several : 2 ≤ timings.length)
    (noFlag : s.hasPrefer = false) (none : s.list.preferred = 0)
    (takes : takesFlag needFilter (timings.get index) = true)
    : (insertTiming timings isCea861Device needFilter plentyModes s index).list.preferred = 0
      ↔ ∃ earlier ∈ done, needFilter (timings.get earlier) = false
        ∧ ∃ mode, ModeOf isCea861Device (timings.get earlier) mode
          ∧ mode.key = ((timings.get index).modeToInsert true).key := by
  obtain ⟨passes, prefer⟩ := (Bool.and_eq_true _ _).mp takes
  rw [Bool.not_eq_true'] at passes
  rw [insertTiming_list passes, noFlag, prefer]
  generalize isMode : (timings.get index).modeToInsert true = mode
  have flagged : mode.isPreferredMode = true := by
    rw [← isMode]
    rfl
  obtain ⟨others, added, plain⟩ := modesToAdd_preferred isCea861Device flagged
    (timings.get index).fullTiming.formatVIC
  change (s.list.addModes timings.length (fun _ => true)
    (modesToAdd isCea861Device ((timings.get index).modeToInsert true) _)).preferred = 0 ↔ _
  rw [isMode, added]
  -- Only the mode itself counts.
  obtain ⟨fits, outcome⟩ := addMode_cases ok.fits timings.length true mode
  have upper := countP_addModes_le fits timings.length (fun _ => true) others
  have lower := (addModes_grow fits timings.length (fun _ => true) others).2.sublist.countP_le
    (p := fun listed => listed.isPreferredMode)
  rw [plain, Nat.add_zero] at upper
  have counts : (s.list.addModes timings.length (fun _ => true) ((mode, false) :: others)).preferred
      = (cbModeAddMode timings.length true mode s.list).preferred :=
    Nat.le_antisymm upper lower
  rw [counts]
  have present : (∃ listed ∈ s.list.modes, listed.key = mode.key)
      ↔ ∃ earlier ∈ done, needFilter (timings.get earlier) = false
        ∧ ∃ other, ModeOf isCea861Device (timings.get earlier) other ∧ other.key = mode.key := by
    constructor
    · rintro ⟨listed, member, key⟩
      obtain ⟨earlier, inside, passes, source⟩ := ok.source listed member
      exact ⟨earlier, inside, passes, listed, source, key⟩
    · rintro ⟨earlier, inside, passes, other, modeOf, key⟩
      obtain ⟨listed, member, key'⟩ := covers earlier inside passes other modeOf
      exact ⟨listed, member, key'.trans key⟩
  rw [← present]
  unfold DeviceModes.preferred at none ⊢
  rcases outcome with same | ⟨fresh, grown⟩
  · obtain ⟨listed, member, key⟩ := addMode_listed ok.fits several mode
    rw [same] at member ⊢
    exact iff_of_true none ⟨listed, member, key⟩
  · rw [grown, List.countP_append, none, List.countP_singleton, if_pos flagged]
    exact iff_of_false (by decide) fun ⟨listed, member, key⟩ => fresh listed member key

/-- With enough memory a list of modes has exactly one preferred mode, unless the first preferred
timing is swallowed, which leaves none.
-/
theorem makeDeviceModeList_preferred {timings : List DeviceTimingInfo}
    (several : 2 ≤ timings.length)
    : let list := cbModeMakeDeviceModeList timings isCea861Device needFilter plentyModes
      list.preferred ≤ 1
        ∧ (list.preferred = 0
          ↔ list.modes = [] ∨ PreferredSwallowed timings isCea861Device needFilter) := by
  have ok := takenTimings_ok timings
  have emptyFits : DeviceModes.empty.Fits := ⟨Nat.le_refl _, fun _ => rfl⟩
  intro list
  generalize run : (takenTimings timings).foldl
    (insertTiming timings isCea861Device needFilter plentyModes) ⟨.empty, false⟩ = after
  have made : list = { after.list with modes := preferFirst after.hasPrefer after.list.modes } := by
    rw [← run]
    rfl
  have flag : after.hasPrefer
      = (takenTimings timings).any fun index => takesFlag needFilter (timings.get index) := by
    rw [← run, insertTimings_hasPrefer, Bool.false_or]
  cases found : (takenTimings timings).find? fun index => takesFlag needFilter (timings.get index) with
  | none =>
    have plain : ∀ index ∈ takenTimings timings, takesFlag needFilter (timings.get index) = false :=
      fun index member => Bool.eq_false_iff.mpr (List.find?_eq_none.mp found index member)
    have noFlag : after.hasPrefer = false := by
      rw [flag, List.any_eq_false]
      exact List.find?_eq_none.mp found
    have noneYet : after.list.preferred = 0 := by
      rw [← run, insertTimings_preferred emptyFits plentyModes (.inr plain)]
      rfl
    have notSwallowed : ¬ PreferredSwallowed timings isCea861Device needFilter := by
      rintro ⟨index, member, takes, _⟩
      rw [plain index member] at takes
      cases takes
    rw [noFlag] at made
    have emptyIff : list.modes = [] ↔ after.list.modes = [] := by
      rw [made]
      cases after.list.modes <;> simp [preferFirst]
    rw [or_iff_left notSwallowed, emptyIff, made, preferred_preferFirst noneYet]
    split <;> simp [*]
  | some first =>
    obtain ⟨takes, before, rest, split, plain⟩ := List.find?_eq_some_iff_append.mp found
    have hasFlag : after.hasPrefer = true := by
      rw [flag, List.any_eq_true]
      exact ⟨first, List.mem_of_find?_eq_some found, takes⟩
    have same : list.preferred = after.list.preferred := by
      rw [made, hasFlag]
      rfl
    -- Up to the first timing that takes the flag, then its round, then the others.
    generalize reached : before.foldl
      (insertTiming timings isCea861Device needFilter plentyModes) ⟨.empty, false⟩ = s
    have plain' : ∀ index ∈ before, takesFlag needFilter (timings.get index) = false :=
      fun index member => by simpa using plain index member
    have descend := ok.descend
    rw [split] at descend
    have okBefore : ListOk isCea861Device needFilter before s.list := by
      have start : ListOk isCea861Device needFilter ([] : List (Fin timings.length))
          (ModeListState.mk .empty false).list := listOk_empty
      rw [← reached]
      exact start.insertTimings plentyModes (List.pairwise_append.mp descend).1
    have coversBefore : Covers isCea861Device needFilter before s.list := by
      have start : Covers isCea861Device needFilter ([] : List (Fin timings.length))
          (ModeListState.mk .empty false).list := fun _ inside => absurd inside List.not_mem_nil
      rw [← reached]
      exact start.insertTimings emptyFits several before
    have noFlag : s.hasPrefer = false := by
      rw [← reached, insertTimings_hasPrefer, Bool.false_or, List.any_eq_false]
      exact fun index member => Bool.eq_false_iff.mp (plain' index member)
    have noneYet : s.list.preferred = 0 := by
      rw [← reached, insertTimings_preferred emptyFits plentyModes (.inr plain')]
      rfl
    have later : after.list.preferred
        = (insertTiming timings isCea861Device needFilter plentyModes s first).list.preferred := by
      rw [← run, split, List.foldl_append, List.foldl_cons, reached]
      refine insertTimings_preferred (insertTiming_grows _ _ okBefore.fits plentyModes first).1
        plentyModes (.inl ?_)
      rw [insertTiming_hasPrefer, takes, Bool.or_true]
    have first_iff := insertTiming_first okBefore coversBefore several noFlag noneYet takes
    rw [same, later, first_iff, swallowed_iff split takes plain']
    refine ⟨?_, (or_iff_right fun empty => ?_).symm⟩
    · have upper := insertTiming_preferred_le isCea861Device needFilter okBefore.fits plentyModes first
      rw [noneYet, takes, noFlag] at upper
      exact upper
    · obtain ⟨passes, _⟩ := (Bool.and_eq_true _ _).mp takes
      obtain ⟨listed, member, _⟩ := makeDeviceModeList_covers several first
        (List.mem_of_find?_eq_some found) ((Bool.not_eq_true' _).mp passes)
        ((timings.get first).modeToInsert true) (.own rfl)
      exact absurd (empty ▸ member) List.not_mem_nil

end Run

-----------------------------------------------------------------------------------------
-- The list of a device
-----------------------------------------------------------------------------------------

section Device

variable (limits : ModeLimits) (device : U32) (monitorType : MonitorType) (filter : ModeFilterPara)

/-- The filter goes by what makes two timings one mode. -/
theorem needFilterMode_congr {timing1 timing2 : DeviceTimingInfo} (same : SameMode timing1 timing2)
    : cbModeNeedFilterMode limits device monitorType filter timing1
      = cbModeNeedFilterMode limits device monitorType filter timing2 := by
  simp only [cbModeNeedFilterMode, same.isInterLaced, same.pixelClock, same.xRes, same.yRes,
    same.refreshRate]

/-- A mode of the list shows a timing to the user. -/
structure Shows (mode : ModeInfoExt) (timing : DeviceTimingInfo) : Prop where
  xRes : mode.xRes = timing.fullTiming.xRes.setWidth 32
  yRes : mode.yRes = timing.fullTiming.yRes.setWidth 32
  pixelClock : mode.pixelClock = timing.fullTiming.pixelClock
  isInterlaceMode : mode.isInterlaceMode = timing.isInterLaced

/-- With enough memory the list has no two modes alike, goes down by the size, has only modes of
timings that the filter lets pass, and shows all of these.
-/
theorem makeDeviceModeList_complete (isCea861Device : Bool) {timings : List DeviceTimingInfo}
    (several : 2 ≤ timings.length)
    : let needFilter := cbModeNeedFilterMode limits device monitorType filter
      let list := cbModeMakeDeviceModeList timings isCea861Device needFilter plentyModes
      ListOk isCea861Device needFilter (takenTimings timings) list
        ∧ ∀ timing ∈ timings, needFilter timing = false
          → ∃ mode ∈ list.modes, Shows mode timing := by
  intro needFilter list
  refine ⟨makeDeviceModeList_listOk timings isCea861Device needFilter plentyModes, ?_⟩
  intro timing member passes
  obtain ⟨index, rfl⟩ := List.mem_iff_get.mp member
  obtain ⟨standing, taken, same, _⟩ := (takenTimings_ok timings).complete index
  have passes' : needFilter (timings.get standing) = false :=
    (needFilterMode_congr limits device monitorType filter same).symm.trans passes
  obtain ⟨listed, inside, key⟩ := makeDeviceModeList_covers several standing taken passes'
    ((timings.get standing).modeToInsert true) (.own rfl)
  refine ⟨listed, inside, ?_, ?_, ?_, ?_⟩
  · rw [same.xRes]
    exact congrArg ModeKey.xRes key
  · rw [same.yRes]
    exact congrArg ModeKey.yRes key
  · rw [same.pixelClock]
    exact congrArg ModeKey.pixelClock key
  · rw [same.isInterLaced]
    exact congrArg ModeKey.isInterlaceMode key

end Device

-----------------------------------------------------------------------------------------
-- A single timing
-----------------------------------------------------------------------------------------

/-- A list of one timing has room for one mode, and half of that is no room for more. -/
theorem addModes_full {list : DeviceModes} (allocated : list.listAllocated = true)
    (size : list.modeListArraySize = 1) (one : list.modes.length = 1)
    (added : List (ModeInfoExt × Bool))
    : (list.addModes 1 (fun _ => true) added).modes = list.modes := by
  induction added generalizing list with
  | nil => rfl
  | cons mode rest ih =>
    have same : cbModeAddMode 1 true mode.1 list = list := by
      unfold cbModeAddMode
      split
      · rfl
      · obtain ⟨listAllocated, arraySize, modes⟩ := list
        simp only at allocated size one
        simp [DeviceModes.prepare, allocated, size, one]
    change ((cbModeAddMode 1 true mode.1 list).addModes 1 (fun _ => true) rest).modes = list.modes
    rw [same]
    exact ih allocated size one

theorem addModes_single (first : ModeInfoExt × Bool) (rest : List (ModeInfoExt × Bool))
    : (DeviceModes.empty.addModes 1 (fun _ => true) (first :: rest)).modes = [first.1] := by
  have added : cbModeAddMode 1 true first.1 .empty = ⟨true, 1, [first.1]⟩ := by
    simp [cbModeAddMode, DeviceModes.prepare, DeviceModes.empty]
  change ((cbModeAddMode 1 true first.1 .empty).addModes 1 (fun _ => true) rest).modes = _
  rw [added]
  exact addModes_full rfl rfl rfl rest

section Single

variable {isCea861Device : Bool} {needFilter : DeviceTimingInfo → Bool} {timing : DeviceTimingInfo}

/-- The equivalent mode of a timing is added before the mode of the timing. -/
def EquivalentFirst (isCea861Device : Bool) (timing : DeviceTimingInfo) (both : U32 × U32) : Prop :=
  isCea861Device = true ∧ timing.isPreferMode = false
    ∧ cbEdidModuleIsEquivalentModeExist timing.fullTiming.formatVIC = some both
    ∧ timing.fullTiming.refreshRate.setWidth 32 ≤ both.1

/-- What is added first. -/
theorem modesToAdd_head (isCea861Device : Bool) (timing : DeviceTimingInfo)
    : ∃ first rest, modesToAdd isCea861Device (timing.modeToInsert timing.isPreferMode)
        timing.fullTiming.formatVIC = first :: rest
      ∧ ((first.1 = timing.modeToInsert timing.isPreferMode
          ∧ ∀ both, ¬ EquivalentFirst isCea861Device timing both)
        ∨ ∃ both, EquivalentFirst isCea861Device timing both
          ∧ first.1 = (timing.modeToInsert false).equivalent both.1 both.2) := by
  unfold modesToAdd
  split
  case isTrue isCea =>
    split
    case h_1 none =>
      refine ⟨_, _, rfl, .inl ⟨rfl, fun both first => ?_⟩⟩
      obtain ⟨_, _, exist, _⟩ := first
      rw [none] at exist
      cases exist
    case h_2 refresh pixelClock exist =>
      split
      case isTrue own =>
        refine ⟨_, _, rfl, .inl ⟨rfl, fun both first => ?_⟩⟩
        obtain ⟨_, plain, exist', upper⟩ := first
        rw [exist] at exist'
        cases exist'
        rcases own with prefers | lower
        · exact absurd prefers (Bool.eq_false_iff.mp plain)
        · exact BitVec.not_lt.mpr upper lower
      case isFalse other =>
        rw [not_or] at other
        have plain := Bool.eq_false_iff.mpr other.1
        exact ⟨_, _, rfl, .inr ⟨(refresh, pixelClock),
          ⟨isCea, plain, exist, BitVec.not_lt.mp other.2⟩, rfl⟩⟩
  case isFalse isNone =>
    exact ⟨_, _, rfl, .inl ⟨rfl, fun both first => absurd first.1 isNone⟩⟩

/-- A device with a single timing has a single mode. This is the one of the timing unless its
equivalent mode, with another clock, is added first.
-/
theorem makeDeviceModeList_single (timing : DeviceTimingInfo)
    (passes : needFilter timing = false)
    : ∃ mode,
      (cbModeMakeDeviceModeList [timing] isCea861Device needFilter plentyModes).modes = [mode]
        ∧ mode.isPreferredMode = true
        ∧ (Shows mode timing ↔ ∀ both, EquivalentFirst isCea861Device timing both
          → both.2 = timing.fullTiming.pixelClock) := by
  obtain ⟨first, rest, added, head⟩ := modesToAdd_head isCea861Device timing
  have made : (cbModeMakeDeviceModeList [timing] isCea861Device needFilter plentyModes).modes
      = preferFirst timing.isPreferMode [first.1] := by
    have taken : takenTimings [timing] = [⟨0, Nat.zero_lt_one⟩] := rfl
    unfold cbModeMakeDeviceModeList
    dsimp only
    rw [taken, List.foldl_cons, List.foldl_nil, insertTiming_list passes, insertTiming_hasPrefer]
    have flag : takesFlag needFilter timing = timing.isPreferMode := by
      rw [takesFlag, passes]
      rfl
    change preferFirst (false || takesFlag needFilter timing)
      (DeviceModes.empty.addModes 1 (fun _ => true) (modesToAdd isCea861Device
        (timing.modeToInsert (timing.isPreferMode && true)) timing.fullTiming.formatVIC)).modes = _
    rw [Bool.false_or, Bool.and_true, flag, added, addModes_single]
  rw [made]
  refine ⟨{ first.1 with isPreferredMode := true }, ?_, rfl, ?_⟩
  · rcases head with ⟨own, _⟩ | ⟨both, ⟨_, plain, _⟩, _⟩
    · rw [own]
      cases timing.isPreferMode with
      | true => rfl
      | false => rfl
    · rw [plain]
      rfl
  · rcases head with ⟨own, never⟩ | ⟨both, equivalentFirst, equivalent⟩
    · rw [own]
      exact iff_of_true ⟨rfl, rfl, rfl, rfl⟩ fun both first => absurd first (never both)
    · rw [equivalent]
      constructor
      · intro shows other otherFirst
        have same : some other = some both :=
          otherFirst.2.2.1.symm.trans equivalentFirst.2.2.1
        rw [Option.some.inj same]
        exact shows.pixelClock
      · exact fun same => ⟨rfl, rfl, same both equivalentFirst, rfl⟩

end Single

theorem makeDeviceModeList_single_vic2
    : let timing := (FormatVic.mk 1).svdTiming false
      ∃ mode, (cbModeMakeDeviceModeList [timing] true (fun _ => false) plentyModes).modes = [mode]
        ∧ mode.isPreferredMode = true
        ∧ (Shows mode timing ↔ ∀ both, EquivalentFirst true timing both
          → both.2 = timing.fullTiming.pixelClock) :=
  makeDeviceModeList_single ((FormatVic.mk 1).svdTiming false) rfl

/-- The only descriptor is the one for VIC 2: the mode with 59.94 Hz is missing. -/
example
    : let timing := (FormatVic.mk 1).svdTiming false
      let list := cbModeMakeDeviceModeList [timing] true (fun _ => false) plentyModes
      timing.fullTiming.pixelClock = 270000 ∧ list.modes.map (·.pixelClock) = [270270] := by
  decide +kernel

-----------------------------------------------------------------------------------------
-- 1080p and 720p
-----------------------------------------------------------------------------------------

/-- The timings of two descriptors, for VIC 16 and for VIC 4. -/
def twoTimings : List DeviceTimingInfo :=
  [(FormatVic.mk 15).svdTiming true, (FormatVic.mk 3).svdTiming false]

def plainLimits : ModeLimits where
  chipID := chipidChx004
  svid := 0
  ssid := 0
  version := 0x11
  fbSize := 8
  snoopOnly := false
  dp1IsDp := true
  dp2IsDp := true
  dp3IsDp := true
  maxHdmiClock := 6000000
  maxMhlClock := 3000000
  maxIgaClock := 6000000

def hdmiFilter : ModeFilterPara := ⟨true, 3400000⟩

theorem makeDeviceModeList_complete_two
    : let needFilter := cbModeNeedFilterMode plainLimits cbiosTypeDp1 .hdmi hdmiFilter
      let list := cbModeMakeDeviceModeList twoTimings true needFilter plentyModes
      ListOk true needFilter (takenTimings twoTimings) list
        ∧ ∀ timing ∈ twoTimings, needFilter timing = false
          → ∃ mode ∈ list.modes, Shows mode timing :=
  makeDeviceModeList_complete plainLimits cbiosTypeDp1 .hdmi hdmiFilter true (Nat.le_refl 2)

theorem makeDeviceModeList_preferred_two
    : let needFilter := cbModeNeedFilterMode plainLimits cbiosTypeDp1 .hdmi hdmiFilter
      let list := cbModeMakeDeviceModeList twoTimings true needFilter plentyModes
      list.preferred ≤ 1
        ∧ (list.preferred = 0 ↔ list.modes = [] ∨ PreferredSwallowed twoTimings true needFilter) :=
  makeDeviceModeList_preferred (Nat.le_refl 2)

/-- The preferred timing of a monitor is the one of VIC 16 with 59.94 Hz, which the descriptor for
the VIC has as its equivalent mode: no mode is preferred.
-/
example
    : let format : FormatVic := ⟨15⟩
      let preferred : DeviceTimingInfo :=
        { format.svdTiming false with
          timingType := .dtl
          fullTiming :=
            { format.timing with
              formatVIC := 0
              refreshRate := format.fractRefrate
              pixelClock := format.fractClock }
          isPreferMode := true }
      (cbModeMakeDeviceModeList [preferred, format.svdTiming false] true
        (cbModeNeedFilterMode plainLimits cbiosTypeDp1 .hdmi hdmiFilter) plentyModes).preferred
      = 0 := by
  decide +kernel

/-- Both sizes are listed with both rates. -/
example
    : (cbModeMakeDeviceModeList twoTimings true
          (cbModeNeedFilterMode plainLimits cbiosTypeDp1 .hdmi hdmiFilter) plentyModes).modes.map
        (fun mode => (mode.xRes, mode.refreshRate, mode.isPreferredMode))
      = [(1920, 6000, true), (1920, 5994, false), (1280, 6000, false), (1280, 5994, false)] := by
  decide +kernel

end Cx4Kernel.Cbios
