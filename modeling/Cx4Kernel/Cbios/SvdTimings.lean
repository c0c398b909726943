import Cx4Kernel.Cbios.TimingTables
import Cx4Kernel.Foundation.KeyedList

/-! The timings of short video descriptors in the list of `CBiosEDID.c`, and what any pass over an
EDID can do to the list.
-/

namespace Cx4Kernel.Cbios

open Foundation

-----------------------------------------------------------------------------------------
-- cbEDIDModule_AddSvdFormat
-----------------------------------------------------------------------------------------

/-- The VIC of an entry, if it has one. -/
def DeviceTimingInfo.vic? (timing : DeviceTimingInfo) : Option U16 :=
  if timing.fullTiming.formatVIC = 0 then none else some timing.fullTiming.formatVIC

/-- The entry is as the timing of a format in all but the VIC, the refresh rate and the places of
the syncs.
-/
def DeviceTimingInfo.likeSvd (svd listed : DeviceTimingInfo) : Bool :=
  { listed.fullTiming with
    formatVIC := svd.fullTiming.formatVIC
    refreshRate := svd.fullTiming.refreshRate
    horSyncStart := svd.fullTiming.horSyncStart
    horSyncEnd := svd.fullTiming.horSyncEnd
    verSyncStart := svd.fullTiming.verSyncStart
    verSyncEnd := svd.fullTiming.verSyncEnd } = svd.fullTiming
  ∧ listed.aspectRatio = svd.aspectRatio ∧ listed.isInterLaced = svd.isInterLaced

/-- An entry without a VIC becomes the one of a format. -/
def DeviceTimingInfo.attach (svd listed : DeviceTimingInfo) : DeviceTimingInfo :=
  { listed with
    fullTiming :=
      { listed.fullTiming with
        refreshRate := svd.fullTiming.refreshRate
        formatVIC := svd.fullTiming.formatVIC }
    isNativeMode := listed.isNativeMode || svd.isNativeMode }

namespace EdidStructureData

/-- `cbEDIDModule_isSvdFormatExist`, with `TimingIdx`. -/
def isSvdFormatExist (edid : EdidStructureData) (format : FormatVic) : Option Nat :=
  edid.timings.findIdx? (·.vic? = some format.vic)

/-- `cbEDIDModule_hasSameSvdTiming`, with `TimingIdx`. -/
def hasSameSvdTiming (edid : EdidStructureData) (svd : DeviceTimingInfo) : Option Nat :=
  edid.timings.findIdx? fun listed => listed.fullTiming.formatVIC = 0 ∧ svd.likeSvd listed

/-- `cbEDIDModule_AddSvdFormat`, with `AddedIndex` if it returns TRUE. -/
def addSvdFormat (alloc : Bool) (format : FormatVic) (isNative : Bool) (edid : EdidStructureData)
    : EdidStructureData × Option Nat :=
  if format.matrix.supported then
    match edid.isSvdFormatExist format with
    | some index => (edid, some index)
    | none =>
      match edid.hasSameSvdTiming (format.svdTiming isNative) with
      | some index =>
        ({ edid with
            timings := edid.timings.modify index (format.svdTiming isNative).attach },
          some index)
      | none =>
        let added := edid.addDeviceTiming alloc (format.svdTiming isNative)
        (added,
          if edid.timings.length < added.timings.length then some (added.timings.length - 1)
          else none)
  else (edid, none)

/-- `IsSupportYCbCr420` is set for an entry. -/
def setYCbCr420 (index : Nat) (edid : EdidStructureData) : EdidStructureData :=
  { edid with timings := edid.timings.modify index fun listed =>
      { listed with isSupportYCbCr420 := true } }

end EdidStructureData

-----------------------------------------------------------------------------------------
-- What a step does to the list
-----------------------------------------------------------------------------------------

/-- The limits that `cbEDIDModule_ValidateTiming` puts on a timing. -/
structure DeviceTimingInfo.Usable (timing : DeviceTimingInfo) : Prop where
  clock : cbiosMinPixelClk ≤ timing.fullTiming.pixelClock
  width : cbiosMinTimingX ≤ timing.fullTiming.xRes
  height : cbiosMinTimingY ≤ timing.fullTiming.yRes

/-- The entry is from a descriptor that gives all of its timing. -/
def DeviceTimingInfo.IsDetailed (timing : DeviceTimingInfo) : Prop :=
  timing.timingType = .dtl ∨ timing.timingType = .dtd ∨ timing.timingType = .dispId

/-- What one step of a pass can do to the list. -/
inductive ListStep (timings : List DeviceTimingInfo) : List DeviceTimingInfo → Prop where
  /-- A timing without a VIC is added, validated if it is a detailed one. -/
  | plain (timing : DeviceTimingInfo) (noVic : timing.fullTiming.formatVIC = 0)
      (usable : timing.IsDetailed → timing.Usable)
    : ListStep timings (timings ++ [timing])
  /-- A format is added that has no entry yet. -/
  | format (format : FormatVic) (isNative : Bool) (supported : format.matrix.supported = true)
      (absent : ∀ listed ∈ timings, listed.vic? ≠ some format.vic)
    : ListStep timings (timings ++ [format.svdTiming isNative])
  /-- An entry becomes the one of a format that has none yet. -/
  | attached (format : FormatVic) (isNative : Bool) (supported : format.matrix.supported = true)
      (absent : ∀ listed ∈ timings, listed.vic? ≠ some format.vic)
      (index : Nat) (listed : DeviceTimingInfo) (found : timings[index]? = some listed)
      (noVic : listed.fullTiming.formatVIC = 0)
      (like : (format.svdTiming isNative).likeSvd listed = true)
    : ListStep timings (timings.set index ((format.svdTiming isNative).attach listed))
  /-- An entry with a VIC supports YCbCr 4:2:0. -/
  | flagged (index : Nat) (listed : DeviceTimingInfo) (found : timings[index]? = some listed)
    : ListStep timings (timings.set index { listed with isSupportYCbCr420 := true })

/-- The step of a pass that knows no VICs. -/
inductive PlainStep (timings : List DeviceTimingInfo) : List DeviceTimingInfo → Prop where
  | add (timing : DeviceTimingInfo) (noVic : timing.fullTiming.formatVIC = 0)
      (usable : timing.IsDetailed → timing.Usable)
    : PlainStep timings (timings ++ [timing])

theorem PlainStep.listStep {before after : List DeviceTimingInfo} (step : PlainStep before after)
    : ListStep before after := by
  cases step with
  | add timing noVic usable => exact .plain timing noVic usable

/-- Any number of steps. -/
def ListSteps : List DeviceTimingInfo → List DeviceTimingInfo → Prop :=
  Relation.ReflTransGen ListStep

/-- An entry as it was, apart from what is learned of it later. -/
structure DeviceTimingInfo.KeptAs (old new : DeviceTimingInfo) : Prop where
  timingType : new.timingType = old.timingType
  fullTiming : { new.fullTiming with
      formatVIC := old.fullTiming.formatVIC
      refreshRate := old.fullTiming.refreshRate } = old.fullTiming
  aspectRatio : new.aspectRatio = old.aspectRatio
  isInterLaced : new.isInterLaced = old.isInterLaced
  isPreferMode : new.isPreferMode = old.isPreferMode
  vic : old.fullTiming.formatVIC ≠ 0
    → new.fullTiming.formatVIC = old.fullTiming.formatVIC
      ∧ new.fullTiming.refreshRate = old.fullTiming.refreshRate
  isNativeMode : old.isNativeMode = true → new.isNativeMode = true
  isSupportYCbCr420 : old.isSupportYCbCr420 = true → new.isSupportYCbCr420 = true

namespace DeviceTimingInfo.KeptAs

theorem refl (timing : DeviceTimingInfo) : timing.KeptAs timing :=
  ⟨rfl, rfl, rfl, rfl, rfl, fun _ => ⟨rfl, rfl⟩, id, id⟩

theorem trans {a b c : DeviceTimingInfo} (first : a.KeptAs b) (second : b.KeptAs c)
    : a.KeptAs c where
  timingType := second.timingType.trans first.timingType
  fullTiming := by
    rw [← first.fullTiming, ← second.fullTiming]
  aspectRatio := second.aspectRatio.trans first.aspectRatio
  isInterLaced := second.isInterLaced.trans first.isInterLaced
  isPreferMode := second.isPreferMode.trans first.isPreferMode
  vic := by
    intro some
    obtain ⟨vic, rate⟩ := first.vic some
    obtain ⟨vic', rate'⟩ := second.vic (by rwa [vic])
    exact ⟨vic'.trans vic, rate'.trans rate⟩
  isNativeMode := fun native => second.isNativeMode (first.isNativeMode native)
  isSupportYCbCr420 := fun ycc => second.isSupportYCbCr420 (first.isSupportYCbCr420 ycc)

theorem attach {svd listed : DeviceTimingInfo} (noVic : listed.fullTiming.formatVIC = 0)
    : listed.KeptAs (svd.attach listed) where
  timingType := rfl
  fullTiming := rfl
  aspectRatio := rfl
  isInterLaced := rfl
  isPreferMode := rfl
  vic := fun some => absurd noVic some
  isNativeMode := by
    intro native
    rw [DeviceTimingInfo.attach, native, Bool.true_or]
  isSupportYCbCr420 := id

theorem flagged (listed : DeviceTimingInfo)
    : listed.KeptAs { listed with isSupportYCbCr420 := true } :=
  ⟨rfl, rfl, rfl, rfl, rfl, fun _ => ⟨rfl, rfl⟩, id, fun _ => rfl⟩

end DeviceTimingInfo.KeptAs

theorem ListStep.grown {before after : List DeviceTimingInfo} (step : ListStep before after)
    : Grown DeviceTimingInfo.KeptAs before after := by
  cases step with
  | plain timing => exact grown_append .refl before [timing]
  | format format isNative => exact grown_append .refl before [format.svdTiming isNative]
  | attached format isNative _ _ index listed found noVic =>
    exact grown_set .refl found (.attach noVic)
  | flagged index listed found => exact grown_set .refl found (.flagged listed)

/-- Entries stay where they are in any number of steps. -/
theorem ListSteps.grown {before after : List DeviceTimingInfo} (steps : ListSteps before after)
    : Grown DeviceTimingInfo.KeptAs before after := by
  induction steps with
  | refl => exact .refl .refl before
  | tail _ step ih => exact ih.trans (fun first second => first.trans second) step.grown

-----------------------------------------------------------------------------------------
-- The invariant of the list
-----------------------------------------------------------------------------------------

/-- The entry is the one of a format, apart from its syncs and from what else the monitor tells of
it.
-/
structure DeviceTimingInfo.OfFormat (format : FormatVic) (timing : DeviceTimingInfo) : Prop where
  supported : format.matrix.supported = true
  vic : timing.fullTiming.formatVIC = format.vic
  refreshRate : timing.fullTiming.refreshRate = (format.svdTiming false).fullTiming.refreshRate
  like : (format.svdTiming false).likeSvd timing = true

/-- What holds of the entries of the list. -/
structure WellListed (timings : List DeviceTimingInfo) : Prop where
  vicsApart : KeysApart DeviceTimingInfo.vic? timings
  usable : ∀ timing ∈ timings, timing.IsDetailed → timing.Usable
  named : ∀ timing ∈ timings, timing.fullTiming.formatVIC ≠ 0
    → ∃ format : FormatVic, timing.OfFormat format

theorem wellListed_nil : WellListed [] where
  vicsApart := keysApart_nil
  usable := fun _ member => absurd member (List.not_mem_nil)
  named := fun _ member => absurd member (List.not_mem_nil)

theorem vic?_eq_some_iff {timing : DeviceTimingInfo} {vic : U16}
    : timing.vic? = some vic ↔ timing.fullTiming.formatVIC = vic ∧ vic ≠ 0 := by
  unfold DeviceTimingInfo.vic?
  split
  case isTrue none =>
    rw [none]
    exact ⟨fun same => (by cases same), fun same => absurd same.1.symm same.2⟩
  case isFalse some =>
    rw [Option.some.injEq]
    exact ⟨fun same => ⟨same, same ▸ some⟩, And.left⟩

theorem FormatVic.svdTiming_ofFormat (format : FormatVic) (isNative : Bool)
    (supported : format.matrix.supported = true)
    : (format.svdTiming isNative).OfFormat format where
  supported := supported
  vic := format.formatVIC_svdTiming isNative
  refreshRate := rfl
  like := by
    rw [DeviceTimingInfo.likeSvd, decide_eq_true_eq]
    exact ⟨rfl, rfl, rfl⟩

theorem FormatVic.attach_ofFormat {format : FormatVic} {isNative : Bool}
    {listed : DeviceTimingInfo} (supported : format.matrix.supported = true)
    (like : (format.svdTiming isNative).likeSvd listed = true)
    : ((format.svdTiming isNative).attach listed).OfFormat format where
  supported := supported
  vic := format.formatVIC_svdTiming isNative
  refreshRate := rfl
  like := like

theorem DeviceTimingInfo.OfFormat.flagged {format : FormatVic} {timing : DeviceTimingInfo}
    (named : timing.OfFormat format)
    : DeviceTimingInfo.OfFormat format { timing with isSupportYCbCr420 := true } :=
  ⟨named.supported, named.vic, named.refreshRate, named.like⟩

/-- Every step keeps the invariant, by what it does to the list. -/
theorem WellListed.step {before after : List DeviceTimingInfo} (well : WellListed before)
    (step : ListStep before after)
    : WellListed after := by
  cases step with
  | plain timing noVic usable =>
    refine ⟨well.vicsApart.append fun vic keyed => ?_, ?_, ?_⟩
    · exact absurd noVic fun zero => (vic?_eq_some_iff.mp keyed).2
        ((vic?_eq_some_iff.mp keyed).1.symm.trans zero)
    · intro entry member
      rcases List.mem_append.mp member with old | new
      · exact well.usable entry old
      · exact List.mem_singleton.mp new ▸ usable
    · intro entry member named
      rcases List.mem_append.mp member with old | new
      · exact well.named entry old named
      · exact absurd (List.mem_singleton.mp new ▸ noVic) named
  | format format isNative supported absent =>
    refine ⟨well.vicsApart.append fun vic keyed listed old same => ?_, ?_, ?_⟩
    · have vicEq := (vic?_eq_some_iff.mp keyed).1
      rw [format.formatVIC_svdTiming] at vicEq
      exact absent listed old (vicEq ▸ same)
    · intro entry member detailed
      rcases List.mem_append.mp member with old | new
      · exact well.usable entry old detailed
      · rw [List.mem_singleton.mp new] at detailed
        rcases detailed with type | type | type <;> cases type
    · intro entry member named
      rcases List.mem_append.mp member with old | new
      · exact well.named entry old named
      · rw [List.mem_singleton.mp new]
        exact ⟨format, format.svdTiming_ofFormat isNative supported⟩
  | attached format isNative supported absent index listed found noVic like =>
    refine ⟨well.vicsApart.set fun vic keyed i entry found' same => ?_, ?_, ?_⟩
    · have vicEq : (format.svdTiming isNative).fullTiming.formatVIC = vic :=
        (vic?_eq_some_iff.mp keyed).1
      rw [format.formatVIC_svdTiming] at vicEq
      exact absurd (vicEq ▸ same) (absent entry (List.mem_of_getElem? found'))
    · intro entry member detailed
      rcases List.mem_or_eq_of_mem_set member with old | rfl
      · exact well.usable entry old detailed
      · have usable := well.usable listed (List.mem_of_getElem? found) detailed
        exact ⟨usable.clock, usable.width, usable.height⟩
    · intro entry member named
      rcases List.mem_or_eq_of_mem_set member with old | rfl
      · exact well.named entry old named
      · exact ⟨format, FormatVic.attach_ofFormat supported like⟩
  | flagged index listed found =>
    refine ⟨well.vicsApart.set fun vic keyed i entry found' same => ?_, ?_, ?_⟩
    · exact well.vicsApart i index entry listed vic found' found same keyed
    · intro entry member detailed
      rcases List.mem_or_eq_of_mem_set member with old | rfl
      · exact well.usable entry old detailed
      · have usable := well.usable listed (List.mem_of_getElem? found) detailed
        exact ⟨usable.clock, usable.width, usable.height⟩
    · intro entry member named
      rcases List.mem_or_eq_of_mem_set member with old | rfl
      · exact well.named entry old named
      · obtain ⟨format, ofFormat⟩ := well.named listed (List.mem_of_getElem? found) named
        exact ⟨format, ofFormat.flagged⟩

theorem WellListed.steps {before after : List DeviceTimingInfo} (well : WellListed before)
    (steps : ListSteps before after)
    : WellListed after := by
  induction steps with
  | refl => exact well
  | tail _ step ih => exact ih.step step

-----------------------------------------------------------------------------------------
-- The steps of the functions
-----------------------------------------------------------------------------------------

namespace EdidStructureData

/-- What holds of the list and its array. -/
structure TimingListOk (edid : EdidStructureData) : Prop where
  fits : edid.timings.length ≤ edid.timingArraySize
  allocated : edid.listAllocated = false → edid.timings = []
  well : WellListed edid.timings

/-- A function that only takes steps of a kind, and stays inside of the array. -/
structure SteppedBy (step : List DeviceTimingInfo → List DeviceTimingInfo → Prop)
    (before after : EdidStructureData)
    : Prop where
  room : before.timings.length ≤ before.timingArraySize
    → after.timings.length ≤ after.timingArraySize
  allocated : (before.listAllocated = false → before.timings = [])
    → after.listAllocated = false → after.timings = []
  steps : (before.listAllocated = false → before.timings = [])
    → Relation.ReflTransGen step before.timings after.timings

/-- A function that takes any steps. -/
abbrev Stepped (before after : EdidStructureData) : Prop := SteppedBy ListStep before after

variable {before middle after edid : EdidStructureData}
variable {step : List DeviceTimingInfo → List DeviceTimingInfo → Prop}

namespace SteppedBy

theorem refl (edid : EdidStructureData) : SteppedBy step edid edid :=
  ⟨id, id, fun _ => .refl⟩

theorem trans (first : SteppedBy step before middle) (second : SteppedBy step middle after)
    : SteppedBy step before after where
  room := fun room => second.room (first.room room)
  allocated := fun allocated => second.allocated (first.allocated allocated)
  steps := fun allocated =>
    (first.steps allocated).trans (second.steps (first.allocated allocated))

theorem foldl {Item : Type} {visit : EdidStructureData → Item → EdidStructureData}
    (items : List Item) (each : ∀ edid, ∀ item ∈ items, SteppedBy step edid (visit edid item))
    (edid : EdidStructureData)
    : SteppedBy step edid (items.foldl visit edid) := by
  induction items generalizing edid with
  | nil => exact .refl edid
  | cons first rest ih =>
    have head := each edid first (List.mem_cons_self)
    exact head.trans (ih (fun edid item inside => each edid item (.tail _ inside)) _)

/-- A change of other fields than those of the list. -/
theorem of_same (array : after.timingArraySize = before.timingArraySize)
    (allocated : after.listAllocated = before.listAllocated)
    (timings : after.timings = before.timings)
    : SteppedBy step before after where
  room := by rw [array, timings]; exact id
  allocated := by rw [allocated, timings]; exact id
  steps := by rw [timings]; exact fun _ => .refl

/-- Plain steps are steps. -/
theorem stepped (plain : SteppedBy PlainStep before after) : Stepped before after :=
  ⟨plain.room, plain.allocated, fun empty =>
    Relation.ReflTransGen.mono (fun _ _ step => step.listStep) _ _ (plain.steps empty)⟩

theorem ok (stepped : Stepped before after) (ok : before.TimingListOk) : after.TimingListOk where
  fits := stepped.room ok.fits
  allocated := stepped.allocated ok.allocated
  well := ok.well.steps (stepped.steps ok.allocated)

end SteppedBy

/-- A timing is added or nothing happens to the list. -/
theorem timings_addDeviceTiming (alloc : Bool) (timing : DeviceTimingInfo)
    (empty : edid.listAllocated = false → edid.timings = [])
    : (edid.addDeviceTiming alloc timing).timings = edid.timings
      ∨ (edid.addDeviceTiming alloc timing).timings = edid.timings ++ [timing] := by
  cases allocated : edid.listAllocated with
  | true =>
    simp only [addDeviceTiming, allocated, if_true]
    split_ifs <;> simp
  | false =>
    simp only [addDeviceTiming, allocated, Bool.false_eq_true, if_false, empty allocated]
    split_ifs <;> simp

theorem room_addDeviceTiming (alloc : Bool) (timing : DeviceTimingInfo)
    (room : edid.timings.length ≤ edid.timingArraySize)
    : (edid.addDeviceTiming alloc timing).timings.length
      ≤ (edid.addDeviceTiming alloc timing).timingArraySize := by
  simp only [addDeviceTiming]
  split_ifs <;> simp_all <;> omega

theorem allocated_addDeviceTiming (alloc : Bool) (timing : DeviceTimingInfo)
    (none : (edid.addDeviceTiming alloc timing).listAllocated = false)
    : (edid.addDeviceTiming alloc timing).timings = [] := by
  simp only [addDeviceTiming] at none ⊢
  split_ifs at none ⊢ <;> simp_all

/-- With memory the timing is added. -/
theorem timings_addDeviceTiming_alloc (timing : DeviceTimingInfo)
    (room : edid.timings.length ≤ edid.timingArraySize)
    (empty : edid.listAllocated = false → edid.timings = [])
    : (edid.addDeviceTiming true timing).timings = edid.timings ++ [timing] := by
  cases allocated : edid.listAllocated with
  | true =>
    by_cases full : edid.timingArraySize ≤ edid.timings.length
    · have fits : edid.timings.length < edid.timingArraySize + maxDeviceTimingNum / 2 :=
        Nat.lt_of_le_of_lt room (Nat.lt_add_of_pos_right (by decide))
      simp [addDeviceTiming, allocated, full, fits]
    · have fits := Nat.lt_of_not_le full
      simp [addDeviceTiming, allocated, full, fits]
  | false =>
    simp [addDeviceTiming, allocated, empty allocated, maxDeviceTimingNum]

/-- A timing is added where one without a VIC may be. -/
theorem stepped_plain (edid : EdidStructureData) (alloc : Bool) {timing : DeviceTimingInfo}
    (noVic : timing.fullTiming.formatVIC = 0) (usable : timing.IsDetailed → timing.Usable)
    : SteppedBy PlainStep edid (edid.addDeviceTiming alloc timing) where
  room := room_addDeviceTiming alloc timing
  allocated := fun _ => allocated_addDeviceTiming alloc timing
  steps := by
    intro empty
    rcases timings_addDeviceTiming alloc timing empty with same | added
    · rw [same]
    · rw [added]
      exact .single (.add timing noVic usable)

theorem absent_of_search {format : FormatVic} (search : edid.isSvdFormatExist format = none)
    : ∀ listed ∈ edid.timings, listed.vic? ≠ some format.vic := by
  intro listed member
  have not := List.findIdx?_eq_none_iff.mp search listed member
  simpa using not

/-- The entry that the comparison with the timing of a format finds. -/
theorem found_of_search {svd : DeviceTimingInfo} {index : Nat}
    (search : edid.hasSameSvdTiming svd = some index)
    : ∃ listed, edid.timings[index]? = some listed ∧ listed.fullTiming.formatVIC = 0
      ∧ svd.likeSvd listed = true := by
  obtain ⟨inside, holds, _⟩ := List.findIdx?_eq_some_iff_getElem.mp search
  exact ⟨edid.timings[index], List.getElem?_eq_getElem inside, by simpa using holds⟩

theorem stepped_addSvdFormat (edid : EdidStructureData) (alloc : Bool) (format : FormatVic)
    (isNative : Bool)
    : Stepped edid (edid.addSvdFormat alloc format isNative).1 := by
  unfold addSvdFormat
  split
  case isFalse => exact .refl edid
  case isTrue supported =>
    split
    case h_1 => exact .refl edid
    case h_2 absent =>
      split
      case h_1 index search =>
        obtain ⟨listed, found, noVic, like⟩ := found_of_search search
        refine ⟨?_, ?_, fun _ => ?_⟩
        · exact fun room => by rw [List.length_modify]; exact room
        · intro empty none
          rw [empty none] at found
          simp at found
        · rw [List.modify_eq_set_getElem?, found]
          exact .single (.attached format isNative supported (absent_of_search absent) index listed
            found noVic like)
      case h_2 =>
        refine ⟨room_addDeviceTiming alloc _, fun _ => allocated_addDeviceTiming alloc _, ?_⟩
        intro empty
        rcases timings_addDeviceTiming alloc (format.svdTiming isNative) empty with same | added
        · rw [same]
        · rw [added]
          exact .single (.format format isNative supported (absent_of_search absent))

theorem stepped_setYCbCr420 (edid : EdidStructureData) (index : Nat)
    : Stepped edid (edid.setYCbCr420 index) := by
  unfold setYCbCr420
  refine ⟨fun room => by rw [List.length_modify]; exact room, ?_, fun _ => ?_⟩
  · intro empty none
    rw [empty none, List.modify_nil]
  · rw [List.modify_eq_set_getElem?]
    cases found : edid.timings[index]? with
    | none => exact .refl
    | some listed => exact .single (.flagged index listed found)

-----------------------------------------------------------------------------------------
-- The index that cbEDIDModule_AddSvdFormat reports
-----------------------------------------------------------------------------------------

/-- The entry at the reported index is the one of the format. -/
theorem addSvdFormat_index {alloc : Bool} {format : FormatVic} {isNative : Bool} {index : Nat}
    (ok : edid.TimingListOk)
    (reported : (edid.addSvdFormat alloc format isNative).2 = some index)
    : ∃ listed, (edid.addSvdFormat alloc format isNative).1.timings[index]? = some listed
      ∧ listed.OfFormat format := by
  have after := (stepped_addSvdFormat edid alloc format isNative).ok ok
  have keyed : ∀ listed, (edid.addSvdFormat alloc format isNative).1.timings[index]? = some listed
      → listed.fullTiming.formatVIC = format.vic → listed.OfFormat format := by
    intro listed found vic
    obtain ⟨other, named⟩ := after.well.named listed (List.mem_of_getElem? found)
      (by rw [vic]; exact format.vic_ne_zero)
    rw [FormatVic.vic_inj (vic.symm.trans named.vic)]
    exact named
  suffices found : ∃ listed,
      (edid.addSvdFormat alloc format isNative).1.timings[index]? = some listed
        ∧ listed.fullTiming.formatVIC = format.vic by
    obtain ⟨listed, found, vic⟩ := found
    exact ⟨listed, found, keyed listed found vic⟩
  clear after keyed
  unfold addSvdFormat at reported ⊢
  split at reported
  case isFalse => cases reported
  case isTrue supported =>
    rw [if_pos supported]
    cases exist : edid.isSvdFormatExist format with
    | some first =>
      simp only [exist] at reported ⊢
      cases reported
      obtain ⟨inside, holds, _⟩ := List.findIdx?_eq_some_iff_getElem.mp exist
      exact ⟨edid.timings[index], List.getElem?_eq_getElem inside,
        (vic?_eq_some_iff.mp (by simpa using holds)).1⟩
    | none =>
      cases like : edid.hasSameSvdTiming (format.svdTiming isNative) with
      | some first =>
        simp only [exist, like] at reported ⊢
        cases reported
        obtain ⟨listed, found, _⟩ := found_of_search like
        refine ⟨(format.svdTiming isNative).attach listed, ?_, format.formatVIC_svdTiming isNative⟩
        rw [List.getElem?_modify_eq, found]
        rfl
      | none =>
        simp only [exist, like] at reported ⊢
        split at reported
        case isFalse => cases reported
        case isTrue longer =>
          cases reported
          rcases timings_addDeviceTiming alloc (format.svdTiming isNative) ok.allocated
            with same | added
          · rw [same] at longer
            exact absurd longer (Nat.lt_irrefl _)
          · refine ⟨format.svdTiming isNative, ?_, format.formatVIC_svdTiming isNative⟩
            rw [added]
            simp

/-- With memory every supported format gets an entry. -/
theorem addSvdFormat_alloc {format : FormatVic} {isNative : Bool} (ok : edid.TimingListOk)
    (supported : format.matrix.supported = true)
    : ∃ index, (edid.addSvdFormat true format isNative).2 = some index := by
  rw [addSvdFormat, if_pos supported]
  cases edid.isSvdFormatExist format with
  | some index => exact ⟨index, rfl⟩
  | none =>
    cases edid.hasSameSvdTiming (format.svdTiming isNative) with
    | some index => exact ⟨index, rfl⟩
    | none =>
      have added := timings_addDeviceTiming_alloc (format.svdTiming isNative) ok.fits ok.allocated
      refine ⟨edid.timings.length, ?_⟩
      simp [added]

end EdidStructureData

end Cx4Kernel.Cbios
