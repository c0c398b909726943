import Cx4Kernel.Cbios.CeaBlocksSafety
import Cx4Kernel.Foundation.WriteLog

/-! Which entries of the list of timings are marked for YCbCr 4:2:0: the marks that the data blocks
of an EDID make, as a log, and the invariant that ties the flags of the entries to the log.
-/

namespace Cx4Kernel.Cbios

open Foundation EdidStructureData

-----------------------------------------------------------------------------------------
-- The marks
-----------------------------------------------------------------------------------------

/-- The VIC of a marked descriptor. The second component of a mark is what it makes of
`IsSupportOtherFormats`.
-/
def markVic (mark : U8 × Bool) : Option U16 :=
  (cbEdidModuleGetFmtIdxFromSvd mark.1).map (·.1.vic)

section Marks

variable (buffer : Nat → U8) (totalBlocks : Nat)

/-- The descriptors of a regular video data block. -/
def videoSvds (block : Nat → U8) : List U8 :=
  (List.range (payloadLength block)).map fun j => block (1 + j)

/-- The marks of a data block, where `svds` are the descriptors of the last regular video data block
before it in the extension.
-/
def blockMarks (block : Nat → U8) (svds : List U8) : List (U8 × Bool) :=
  if tagCode block ≠ ceaExtendedBlockTag ∨ payloadLength block = 0 then []
  else if block 1 = yCbCr420VideoDataBlock then
    (List.range (payloadLength block - 1)).map fun i => (block (2 + i), false)
  else if block 1 = yCbCr420CapMapDataBlock then (capMapSvds block svds).map (·, true)
  else []

/-- The marks of the data blocks at some places of an extension. -/
def extensionMarks (blockIndex : Nat) : List U8 → List Nat → List (U8 × Bool)
  | _, [] => []
  | svds, i :: rest =>
    let block := edidBlock buffer blockIndex i
    if tagCode block = videoDataBlockTag then extensionMarks blockIndex (videoSvds block) rest
    else blockMarks block svds ++ extensionMarks blockIndex svds rest

/-- The marks of an extension. -/
def ceaMarks (blockIndex : Nat) : List (U8 × Bool) :=
  if isCeaExtension buffer blockIndex then
    extensionMarks buffer blockIndex [] (dataBlocks buffer blockIndex)
  else []

/-- The marks of an EDID. -/
def edidMarks : List (U8 × Bool) := (List.range' 1 (totalBlocks - 1)).flatMap (ceaMarks buffer)

end Marks

-----------------------------------------------------------------------------------------
-- The invariant
-----------------------------------------------------------------------------------------

/-- The list has an entry of a format. -/
def EdidStructureData.Lists (edid : EdidStructureData) (format : FormatVic) : Prop :=
  ∃ entry ∈ edid.timings, entry.fullTiming.formatVIC = format.vic

/-- All supported formats of some descriptors have entries. -/
def SvdsListed (edid : EdidStructureData) (svds : List U8) : Prop :=
  ∀ svd ∈ svds, ∀ format isNative, cbEdidModuleGetFmtIdxFromSvd svd = some (format, isNative)
    → format.matrix.supported = true → edid.Lists format

/-- The flags of the entries are those that the marks so far make. -/
structure Marked (marks : List (U8 × Bool)) (s : CeaState) : Prop where
  ok : s.edid.TimingListOk
  flag : ∀ (index : Nat) entry, s.edid.timings[index]? = some entry
    → (entry.isSupportYCbCr420 = true ↔ Names markVic marks entry.fullTiming.formatVIC)
  others : ∀ (index : Nat) entry, s.edid.timings[index]? = some entry
    → s.otherFormats index = latest markVic Prod.snd false marks entry.fullTiming.formatVIC
  beyond : ∀ index, s.edid.timings.length ≤ index → s.otherFormats index = false
  listed : SvdsListed s.edid (marks.map Prod.fst)

variable {marks : List (U8 × Bool)} {s : CeaState}

theorem names_iff {vic : U16}
    : Names markVic marks vic
      ↔ ∃ mark ∈ marks, ∃ format isNative,
        cbEdidModuleGetFmtIdxFromSvd mark.1 = some (format, isNative) ∧ format.vic = vic := by
  simp only [Names, markVic, Option.map_eq_some_iff, Prod.exists]

theorem not_names_zero : ¬ Names markVic marks 0 := by
  rw [names_iff]
  rintro ⟨_, _, format, _, _, zero⟩
  exact format.vic_ne_zero zero

/-- No mark names a format that is supported and has no entry. -/
theorem Marked.not_names (marked : Marked marks s) {format : FormatVic}
    (supported : format.matrix.supported = true) (absent : ¬ s.edid.Lists format)
    : ¬ Names markVic marks format.vic := by
  rw [names_iff]
  rintro ⟨mark, member, other, isNative, decoded, same⟩
  rw [FormatVic.vic_inj same] at decoded
  exact absent (marked.listed mark.1 (List.mem_map_of_mem member) format isNative decoded supported)

theorem lists_of_grown {before after : EdidStructureData} {format : FormatVic}
    (grown : Grown DeviceTimingInfo.KeptAs before.timings after.timings)
    (lists : before.Lists format)
    : after.Lists format := by
  obtain ⟨entry, member, vic⟩ := lists
  obtain ⟨index, found⟩ := List.getElem?_of_mem member
  obtain ⟨later, found, kept⟩ := grown index entry found
  refine ⟨later, List.mem_of_getElem? found, ?_⟩
  rw [(kept.vic (vic ▸ format.vic_ne_zero)).1, vic]

theorem SvdsListed.grown {before after : EdidStructureData} {svds : List U8}
    (listed : SvdsListed before svds)
    (grown : Grown DeviceTimingInfo.KeptAs before.timings after.timings)
    : SvdsListed after svds :=
  fun svd member format isNative decoded supported =>
    lists_of_grown grown (listed svd member format isNative decoded supported)

/-- The entry of a format is no entry of another one, so a mark for it changes no flag of others. -/
theorem markVic_ne {format : FormatVic} {isNative : Bool} {mark : U8 × Bool} {vic : U16}
    (decoded : cbEdidModuleGetFmtIdxFromSvd mark.1 = some (format, isNative))
    (other : vic ≠ format.vic)
    : markVic mark ≠ some vic := by
  rw [markVic, decoded, Option.map_some]
  intro same
  exact other (Option.some.inj same).symm

-----------------------------------------------------------------------------------------
-- Steps without a mark
-----------------------------------------------------------------------------------------

/-- Other fields than the list change. -/
theorem Marked.of_same {s' : CeaState} (marked : Marked marks s) (ok : s'.edid.TimingListOk)
    (timings : s'.edid.timings = s.edid.timings) (others : s'.otherFormats = s.otherFormats)
    : Marked marks s' where
  ok := ok
  flag := by
    rw [timings]
    exact marked.flag
  others := by
    rw [timings, others]
    exact marked.others
  beyond := by
    rw [timings, others]
    exact marked.beyond
  listed := by
    intro svd member format isNative decoded supported
    obtain ⟨entry, inside, vic⟩ := marked.listed svd member format isNative decoded supported
    exact ⟨entry, timings ▸ inside, vic⟩

/-- An entry is added that no mark names. -/
theorem Marked.append {edid : EdidStructureData} {timing : DeviceTimingInfo}
    (marked : Marked marks s) (ok : edid.TimingListOk)
    (timings : edid.timings = s.edid.timings ++ [timing])
    (unmarked : timing.isSupportYCbCr420 = false)
    (unnamed : ¬ Names markVic marks timing.fullTiming.formatVIC)
    : Marked marks { s with edid } := by
  refine ⟨ok, ?_, ?_, ?_, ?_⟩
  · intro index entry found
    rcases getElem?_append_one (timings ▸ found) with old | ⟨rfl, rfl⟩
    · exact marked.flag index entry old
    · simp [unmarked, unnamed]
  · intro index entry found
    rcases getElem?_append_one (timings ▸ found) with old | ⟨rfl, rfl⟩
    · exact marked.others index entry old
    · rw [latest_of_not_names unnamed]
      exact marked.beyond _ (Nat.le_refl _)
  · intro index past
    refine marked.beyond index (Nat.le_trans ?_ past)
    change s.edid.timings.length ≤ edid.timings.length
    rw [timings, List.length_append]
    exact Nat.le_add_right _ _
  · refine marked.listed.grown ?_
    change Grown _ _ edid.timings
    rw [timings]
    exact grown_append .refl _ _

/-- An entry without a VIC is added. -/
theorem Marked.addPlain (marked : Marked marks s) (alloc : Bool) {timing : DeviceTimingInfo}
    (noVic : timing.fullTiming.formatVIC = 0) (usable : timing.IsDetailed → timing.Usable)
    (unmarked : timing.isSupportYCbCr420 = false)
    : Marked marks { s with edid := s.edid.addDeviceTiming alloc timing } := by
  have ok := (stepped_plain s.edid alloc noVic usable).stepped.ok marked.ok
  rcases timings_addDeviceTiming alloc timing marked.ok.allocated with same | added
  · exact marked.of_same ok same rfl
  · exact marked.append ok added unmarked (noVic ▸ not_names_zero)

/-- An entry is replaced, while the marks name all others as before. -/
theorem Marked.replace {marks' : List (U8 × Bool)} {s' : CeaState} {index : Nat}
    {old new : DeviceTimingInfo} (marked : Marked marks s) (ok : s'.edid.TimingListOk)
    (found : s.edid.timings[index]? = some old)
    (timings : s'.edid.timings = s.edid.timings.set index new)
    (others : ∀ i, i ≠ index → s'.otherFormats i = s.otherFormats i)
    (named : ∀ (i : Nat) entry, i ≠ index → s.edid.timings[i]? = some entry
      → (Names markVic marks' entry.fullTiming.formatVIC
          ↔ Names markVic marks entry.fullTiming.formatVIC)
        ∧ latest markVic Prod.snd false marks' entry.fullTiming.formatVIC
          = latest markVic Prod.snd false marks entry.fullTiming.formatVIC)
    (newFlag : new.isSupportYCbCr420 = true ↔ Names markVic marks' new.fullTiming.formatVIC)
    (newOthers : s'.otherFormats index
      = latest markVic Prod.snd false marks' new.fullTiming.formatVIC)
    (listed : SvdsListed s'.edid (marks'.map Prod.fst))
    : Marked marks' s' where
  ok := ok
  flag := by
    intro i entry here
    rcases getElem?_set_one (timings ▸ here) with ⟨rfl, rfl⟩ | ⟨other, same⟩
    · exact newFlag
    · rw [marked.flag i entry same, (named i entry other same).1]
  others := by
    intro i entry here
    rcases getElem?_set_one (timings ▸ here) with ⟨rfl, rfl⟩ | ⟨other, same⟩
    · exact newOthers
    · rw [others i other, marked.others i entry same, (named i entry other same).2]
  beyond := by
    intro i past
    rw [timings, List.length_set] at past
    have inside := (List.getElem?_eq_some_iff.mp found).1
    rw [others i (by omega), marked.beyond i past]
  listed := listed

theorem not_lists_of_search {edid : EdidStructureData} {format : FormatVic}
    (search : edid.isSvdFormatExist format = none)
    : ¬ edid.Lists format := by
  rintro ⟨entry, member, vic⟩
  exact absent_of_search search entry member (vic?_eq_some_iff.mpr ⟨vic, format.vic_ne_zero⟩)

/-- A format is looked for and added or attached. -/
theorem Marked.addSvdFormat (marked : Marked marks s) (alloc : Bool) (format : FormatVic)
    (isNative : Bool)
    : Marked marks { s with edid := (s.edid.addSvdFormat alloc format isNative).1 } := by
  have ok := (stepped_addSvdFormat s.edid alloc format isNative).ok marked.ok
  unfold EdidStructureData.addSvdFormat at ok ⊢
  split at ok
  case isFalse unsupported =>
    rw [if_neg unsupported]
    exact marked
  case isTrue supported =>
    rw [if_pos supported]
    cases exist : s.edid.isSvdFormatExist format with
    | some index => exact marked
    | none =>
      have unnamed := marked.not_names supported (not_lists_of_search exist)
      cases like : s.edid.hasSameSvdTiming (format.svdTiming isNative) with
      | none =>
        simp only [exist, like] at ok ⊢
        rcases timings_addDeviceTiming alloc (format.svdTiming isNative) marked.ok.allocated
          with same | added
        · exact marked.of_same ok same rfl
        · refine marked.append ok added rfl ?_
          rw [format.formatVIC_svdTiming]
          exact unnamed
      | some index =>
        simp only [exist, like] at ok ⊢
        obtain ⟨listed, found, noVic, _⟩ := found_of_search like
        have set : s.edid.timings.modify index (format.svdTiming isNative).attach
            = s.edid.timings.set index ((format.svdTiming isNative).attach listed) := by
          rw [List.modify_eq_set_getElem?, found]
          rfl
        have vic : ((format.svdTiming isNative).attach listed).fullTiming.formatVIC = format.vic :=
          format.formatVIC_svdTiming isNative
        have flagged := marked.flag index listed found
        have quiet := marked.others index listed found
        rw [noVic] at flagged quiet
        refine marked.replace ok found set (fun _ _ => rfl) (fun _ _ _ _ => ⟨.rfl, rfl⟩) ?_ ?_ ?_
        · rw [vic]
          exact ⟨fun on => absurd (flagged.mp on) not_names_zero, fun on => absurd on unnamed⟩
        · rw [vic, latest_of_not_names unnamed]
          rw [latest_of_not_names not_names_zero] at quiet
          exact quiet
        · refine marked.listed.grown ?_
          change Grown _ _ (s.edid.timings.modify index _)
          rw [set]
          exact grown_set .refl found (.attach noVic)

-----------------------------------------------------------------------------------------
-- Steps with a mark
-----------------------------------------------------------------------------------------

/-- A mark that no format with an entry is for. -/
theorem Marked.skip (marked : Marked marks s) {mark : U8 × Bool}
    (unlisted : ∀ format isNative, cbEdidModuleGetFmtIdxFromSvd mark.1 = some (format, isNative)
      → format.matrix.supported = false)
    : Marked (marks ++ [mark]) s := by
  have other : ∀ (index : Nat) entry, s.edid.timings[index]? = some entry
      → markVic mark ≠ some entry.fullTiming.formatVIC := by
    intro index entry found same
    obtain ⟨⟨format, isNative⟩, decoded, vic⟩ := Option.map_eq_some_iff.mp same
    have member := List.mem_of_getElem? found
    obtain ⟨named, ofFormat⟩ := marked.ok.well.named entry member (vic ▸ format.vic_ne_zero)
    have supported := ofFormat.supported
    rw [← FormatVic.vic_inj (vic.trans ofFormat.vic), unlisted format isNative decoded] at supported
    cases supported
  refine ⟨marked.ok, ?_, ?_, marked.beyond, ?_⟩
  · intro index entry found
    rw [names_append, names_singleton, or_iff_left (other index entry found)]
    exact marked.flag index entry found
  · intro index entry found
    rw [latest_append_one, if_neg (other index entry found)]
    exact marked.others index entry found
  · intro svd member format isNative decoded supported
    rw [List.map_append, List.mem_append] at member
    rcases member with old | new
    · exact marked.listed svd old format isNative decoded supported
    · rw [List.mem_singleton.mp new] at decoded
      rw [unlisted format isNative decoded] at supported
      cases supported

/-- A mark for the entry of a format. -/
theorem Marked.mark (marked : Marked marks s) {mark : U8 × Bool} {format : FormatVic}
    {isNative : Bool} (decoded : cbEdidModuleGetFmtIdxFromSvd mark.1 = some (format, isNative))
    {index : Nat} {listed : DeviceTimingInfo} (found : s.edid.timings[index]? = some listed)
    (vic : listed.fullTiming.formatVIC = format.vic)
    : Marked (marks ++ [mark]) (s.setYCbCr420 index mark.2) := by
  have ok := (stepped_setYCbCr420 s.edid index).ok marked.ok
  have set : (s.setYCbCr420 index mark.2).edid.timings
      = s.edid.timings.set index { listed with isSupportYCbCr420 := true } := by
    change s.edid.timings.modify index _ = _
    rw [List.modify_eq_set_getElem?, found]
    rfl
  have keyed : markVic mark = some format.vic := by rw [markVic, decoded, Option.map_some]
  have grown : Grown DeviceTimingInfo.KeptAs s.edid.timings
      (s.setYCbCr420 index mark.2).edid.timings :=
    set ▸ grown_set .refl found (.flagged listed)
  refine marked.replace ok found set ?_ ?_ ?_ ?_ ?_
  · intro i other
    exact Function.update_of_ne other _ _
  · intro i entry other at'
    have apart : entry.fullTiming.formatVIC ≠ format.vic := by
      intro same
      exact other (marked.ok.well.vicsApart i index entry listed format.vic at' found
        (vic?_eq_some_iff.mpr ⟨same, format.vic_ne_zero⟩)
        (vic?_eq_some_iff.mpr ⟨vic, format.vic_ne_zero⟩))
    have none := markVic_ne decoded apart
    rw [names_append, names_singleton, or_iff_left none, latest_append_one, if_neg none]
    exact ⟨.rfl, rfl⟩
  · rw [names_append, names_singleton]
    exact ⟨fun _ => .inr (keyed.trans (congrArg some vic.symm)), fun _ => rfl⟩
  · have held : latest markVic Prod.snd false (marks ++ [mark]) listed.fullTiming.formatVIC
        = mark.2 := by
      rw [latest_append_one, vic, if_pos keyed]
    exact (Function.update_self _ _ _).trans held.symm
  · intro svd member other isNative' decoded' supported
    rw [List.map_append, List.mem_append] at member
    rcases member with old | new
    · exact lists_of_grown grown (marked.listed svd old other isNative' decoded' supported)
    · rw [List.mem_singleton.mp new, decoded] at decoded'
      cases decoded'
      exact lists_of_grown grown ⟨listed, List.mem_of_getElem? found, vic⟩

end Cx4Kernel.Cbios
