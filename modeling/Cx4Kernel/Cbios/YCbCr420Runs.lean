import Cx4Kernel.Cbios.YCbCr420

/-! The flags for YCbCr 4:2:0 after a whole run of `cbEDIDModule_GetCEA861Mode` that has the memory it
asks for.
-/

namespace Cx4Kernel.Cbios

open Foundation EdidStructureData

variable {marks : List (U8 × Bool)} {s : CeaState}

-----------------------------------------------------------------------------------------
-- Descriptors
-----------------------------------------------------------------------------------------

section Block

variable {block : Nat → U8}

/-- The outcome of the allocations of a data block: there is memory for all. -/
def plentyAt : Nat → Bool := fun _ => true

theorem Marked.svdStep (marked : Marked marks s) (j : Nat)
    : Marked marks (svdStep block plentyAt s j) := by
  unfold Cbios.svdStep
  split
  case h_1 => exact marked
  case h_2 format isNative _ => exact marked.addSvdFormat _ format isNative

theorem svdData_svdStep (s : CeaState) (j : Nat)
    : (svdStep block plentyAt s j).svdData = s.svdData := by
  unfold svdStep
  split <;> rfl

/-- A supported format has an entry once a regular descriptor for it is read. -/
theorem lists_svdStep (ok : s.edid.TimingListOk) (j : Nat)
    : SvdsListed (svdStep block plentyAt s j).edid [block (1 + j)] := by
  intro svd member format isNative decoded supported
  rw [List.mem_singleton.mp member] at decoded
  obtain ⟨index, reported⟩ : ∃ index, (s.edid.addSvdFormat true format isNative).2 = some index :=
    addSvdFormat_alloc ok supported
  obtain ⟨entry, found, named⟩ := addSvdFormat_index ok reported
  refine ⟨entry, ?_, named.vic⟩
  simp only [svdStep, decoded]
  exact List.mem_of_getElem? found

/-- The descriptors of a regular data block, by induction on those that are left. -/
theorem Marked.svdSteps (marked : Marked marks s) (js : List Nat)
    : Marked marks (js.foldl (Cbios.svdStep block plentyAt) s)
      ∧ SvdsListed (js.foldl (Cbios.svdStep block plentyAt) s).edid (js.map fun j => block (1 + j))
      ∧ (js.foldl (Cbios.svdStep block plentyAt) s).svdData = s.svdData := by
  induction js generalizing s with
  | nil => exact ⟨marked, fun svd member => absurd member List.not_mem_nil, rfl⟩
  | cons j rest ih =>
    obtain ⟨last, listed, same⟩ := ih (marked.svdStep j)
    refine ⟨last, ?_, same.trans (svdData_svdStep s j)⟩
    have grown := (stepped_foldl rest (stepped_svdStep block plentyAt)
      (Cbios.svdStep block plentyAt s j)).grown (marked.svdStep j).ok
    have first := (lists_svdStep marked.ok j).grown grown
    intro svd member
    rcases List.mem_cons.mp member with rfl | later
    · exact first _ (List.mem_singleton_self _)
    · exact listed svd later

/-- A descriptor of a YCbCr 4:2:0 video data block. -/
theorem Marked.videoStep (marked : Marked marks s) (i : Nat)
    : Marked (marks ++ [(block (2 + i), false)]) (yCbCr420VideoStep block plentyAt s i) := by
  unfold yCbCr420VideoStep
  split
  case h_1 none =>
    refine marked.skip fun format isNative decoded => ?_
    rw [none] at decoded
    cases decoded
  case h_2 format isNative decoded =>
    have added := marked.addSvdFormat true format isNative
    simp only [plentyAt]
    rcases outcome : s.edid.addSvdFormat true format isNative with ⟨edid, index⟩
    rw [outcome] at added
    cases index with
    | none =>
      refine added.skip fun other isNative' decoded' => ?_
      rw [decoded] at decoded'
      cases decoded'
      cases supported : format.matrix.supported with
      | false => rfl
      | true =>
        obtain ⟨index, reported⟩ : ∃ index, (s.edid.addSvdFormat true format isNative).2 = some index :=
          addSvdFormat_alloc marked.ok supported
        rw [outcome] at reported
        cases reported
    | some index =>
      obtain ⟨entry, found, named⟩ := addSvdFormat_index marked.ok (by rw [outcome])
      rw [outcome] at found
      exact added.mark decoded found named.vic

theorem Marked.videoSteps (marked : Marked marks s) (is : List Nat)
    : Marked (marks ++ is.map fun i => (block (2 + i), false))
        (is.foldl (yCbCr420VideoStep block plentyAt) s) := by
  induction is generalizing marks s with
  | nil =>
    rw [List.map_nil, List.append_nil]
    exact marked
  | cons i rest ih =>
    rw [List.map_cons, List.append_cons]
    exact ih (marked.videoStep i)

/-- A descriptor that a capability map selects, whose format has an entry if it is supported. -/
theorem Marked.capMapStep (marked : Marked marks s) (svd : U8) (listed : SvdsListed s.edid [svd])
    : Marked (marks ++ [(svd, true)]) (capMapStep s svd) := by
  unfold Cbios.capMapStep
  split
  case h_1 none =>
    refine marked.skip fun format isNative decoded => ?_
    rw [none] at decoded
    cases decoded
  case h_2 format isNative decoded =>
    split
    case h_1 search =>
      refine marked.skip fun other isNative' decoded' => ?_
      rw [decoded] at decoded'
      cases decoded'
      cases supported : format.matrix.supported with
      | false => rfl
      | true =>
        exact absurd (listed svd (List.mem_singleton_self svd) format isNative decoded supported)
          (not_lists_of_search search)
    case h_2 index search =>
      obtain ⟨inside, holds, _⟩ := List.findIdx?_eq_some_iff_getElem.mp search
      have vic := (vic?_eq_some_iff.mp (by simpa using holds)).1
      exact marked.mark decoded (List.getElem?_eq_getElem inside) vic

theorem Marked.capMapSteps (marked : Marked marks s) (svds : List U8)
    (listed : SvdsListed s.edid svds)
    : Marked (marks ++ svds.map (·, true)) (svds.foldl Cbios.capMapStep s) := by
  induction svds generalizing marks s with
  | nil =>
    rw [List.map_nil, List.append_nil]
    exact marked
  | cons svd rest ih =>
    rw [List.map_cons, List.append_cons]
    have first : SvdsListed s.edid [svd] := fun other member =>
      listed other (List.mem_singleton.mp member ▸ List.mem_cons_self)
    refine ih (marked.capMapStep svd first) ?_
    have later : SvdsListed s.edid rest := fun other member => listed other (.tail _ member)
    exact later.grown ((stepped_capMapStep s svd).grown marked.ok)

-----------------------------------------------------------------------------------------
-- Data blocks
-----------------------------------------------------------------------------------------

theorem blockMarks_of_ne (ne : tagCode block ≠ ceaExtendedBlockTag) (svds : List U8)
    : blockMarks block svds = [] :=
  if_pos (.inl ne)

/-- The descriptors that a capability map selects are among those that it is for. -/
theorem mem_of_mem_capMapSvds {svds : List U8} {svd : U8} (member : svd ∈ capMapSvds block svds)
    : svd ∈ svds := by
  unfold capMapSvds at member
  split at member
  case isTrue => exact member
  case isFalse =>
    obtain ⟨i, _, inside⟩ := List.mem_flatMap.mp member
    obtain ⟨j, _, chosen⟩ := List.mem_filterMap.mp inside
    split at chosen
    · exact List.mem_of_getElem? chosen
    · cases chosen

/-- A data block other than a regular video data block. -/
theorem Marked.otherBlock (marked : Marked marks s) {blockIndex : Nat}
    (listed : SvdsListed s.edid (s.svdData blockIndex))
    (other : tagCode block ≠ videoDataBlockTag)
    : Marked (marks ++ blockMarks block (s.svdData blockIndex))
        (ceaDataBlock block plentyAt blockIndex s) := by
  have quiet : ∀ s' : CeaState, s'.edid = s.edid → s'.otherFormats = s.otherFormats
      → Marked (marks ++ []) s' := by
    intro s' edid others
    rw [List.append_nil]
    exact marked.of_same (edid ▸ marked.ok) (by rw [edid]) others
  unfold ceaDataBlock
  split
  case isTrue audio =>
    rw [blockMarks_of_ne (by rw [audio]; decide)]
    exact quiet _ rfl rfl
  case isFalse =>
    split
    case isTrue vendor =>
      have tag : tagCode block = vendorSpecificDataBlockTag := by
        simp only [isHdmiVsdb, decide_eq_true_eq] at vendor
        exact vendor.1
      rw [blockMarks_of_ne (by rw [tag]; decide)]
      exact quiet _ rfl rfl
    case isFalse =>
      split
      case isFalse not =>
        rw [blockMarks_of_ne not]
        exact quiet s rfl rfl
      case isTrue =>
        unfold cbEdidModuleParseCeaExtBlock blockMarks
        split
        case isTrue => exact quiet s rfl rfl
        case isFalse =>
          split
          case isTrue => exact marked.videoSteps _
          case isFalse =>
            split
            case isTrue =>
              exact marked.capMapSteps _ fun svd member => listed svd (mem_of_mem_capMapSvds member)
            case isFalse => exact quiet s rfl rfl

theorem svdData_foldl {Item : Type} {visit : CeaState → Item → CeaState}
    (each : ∀ s item, (visit s item).svdData = s.svdData) (items : List Item) (s : CeaState)
    : (items.foldl visit s).svdData = s.svdData := by
  induction items generalizing s with
  | nil => rfl
  | cons item rest ih => exact (ih (visit s item)).trans (each s item)

theorem svdData_videoStep (s : CeaState) (i : Nat)
    : (yCbCr420VideoStep block plentyAt s i).svdData = s.svdData := by
  unfold yCbCr420VideoStep
  split
  case h_1 => rfl
  case h_2 format isNative _ =>
    rcases s.edid.addSvdFormat (plentyAt (2 + i)) format isNative with ⟨edid, index⟩
    cases index <;> rfl

theorem svdData_capMapStep (s : CeaState) (svd : U8)
    : (capMapStep s svd).svdData = s.svdData := by
  unfold capMapStep
  split
  case h_1 => rfl
  case h_2 => split <;> rfl

/-- Only regular video data blocks write `SVDData`. -/
theorem svdData_otherBlock (blockIndex : Nat) (s : CeaState)
    (other : tagCode block ≠ videoDataBlockTag)
    : (ceaDataBlock block plentyAt blockIndex s).svdData = s.svdData := by
  unfold ceaDataBlock
  split
  · rfl
  · split
    · rfl
    · split
      · unfold cbEdidModuleParseCeaExtBlock
        split
        · rfl
        · split
          · exact svdData_foldl svdData_videoStep _ s
          · split
            · exact svdData_foldl svdData_capMapStep _ s
            · rfl
      · rfl

/-- A regular video data block. -/
theorem Marked.videoBlock (marked : Marked marks s) (blockIndex : Nat)
    (video : tagCode block = videoDataBlockTag)
    : Marked marks (ceaDataBlock block plentyAt blockIndex s)
      ∧ SvdsListed (ceaDataBlock block plentyAt blockIndex s).edid (videoSvds block)
      ∧ (ceaDataBlock block plentyAt blockIndex s).svdData
        = Function.update s.svdData blockIndex (videoSvds block) := by
  have step : ceaDataBlock block plentyAt blockIndex s
      = cbEdidModuleGetSvdMode block plentyAt blockIndex s := by
    rw [ceaDataBlock, if_neg (by rw [video]; decide), if_pos video]
  rw [step]
  have stored : Marked marks
      { s with svdData := Function.update s.svdData blockIndex (videoSvds block) } :=
    marked.of_same marked.ok rfl rfl
  exact stored.svdSteps (List.range (payloadLength block))

end Block

-----------------------------------------------------------------------------------------
-- Extensions
-----------------------------------------------------------------------------------------

section Edid

variable (buffer : Nat → U8)

/-- The data blocks of an extension, by induction on those that are left. -/
theorem Marked.extension (marked : Marked marks s) (blockIndex : Nat) (places : List Nat)
    (listed : SvdsListed s.edid (s.svdData blockIndex))
    : Marked (marks ++ extensionMarks buffer blockIndex (s.svdData blockIndex) places)
        (places.foldl (ceaDataBlockAt .plenty buffer blockIndex) s)
      ∧ ∀ other, other ≠ blockIndex
        → (places.foldl (ceaDataBlockAt .plenty buffer blockIndex) s).svdData other
          = s.svdData other := by
  induction places generalizing marks s with
  | nil =>
    rw [extensionMarks, List.append_nil]
    exact ⟨marked, fun _ _ => rfl⟩
  | cons i rest ih =>
    rw [List.foldl_cons, extensionMarks]
    by_cases video : tagCode (edidBlock buffer blockIndex i) = videoDataBlockTag
    · obtain ⟨marked', listed', stored⟩ := marked.videoBlock blockIndex video
      have here : (ceaDataBlockAt .plenty buffer blockIndex s i).svdData blockIndex
          = videoSvds (edidBlock buffer blockIndex i) := by
        rw [ceaDataBlockAt]
        exact (congrFun stored blockIndex).trans (Function.update_self _ _ _)
      obtain ⟨last, apart⟩ := ih (s := ceaDataBlockAt .plenty buffer blockIndex s i) marked'
        (here ▸ listed')
      rw [if_pos video]
      rw [here] at last
      refine ⟨last, fun other differs => (apart other differs).trans ?_⟩
      exact (congrFun stored other).trans (Function.update_of_ne differs _ _)
    · have marked' := marked.otherBlock listed video
      have same := svdData_otherBlock blockIndex s video
      have grown := (stepped_ceaDataBlock (edidBlock buffer blockIndex i) plentyAt blockIndex
        s).grown marked.ok
      have listed' := listed.grown grown
      rw [← congrFun same blockIndex] at listed'
      obtain ⟨last, apart⟩ := ih (s := ceaDataBlockAt .plenty buffer blockIndex s i) marked' listed'
      rw [if_neg video, ← List.append_assoc]
      have same' : (ceaDataBlockAt .plenty buffer blockIndex s i).svdData = s.svdData := same
      rw [same'] at last apart
      exact ⟨last, apart⟩

-----------------------------------------------------------------------------------------
-- Detailed timings
-----------------------------------------------------------------------------------------

theorem unmarked_of_parseDtl {data : Nat → U8} {timing : DeviceTimingInfo}
    (parsed : cbEdidModuleParseDtlTiming data = some timing)
    : timing.isSupportYCbCr420 = false := by
  unfold cbEdidModuleParseDtlTiming at parsed
  extract_lets at parsed
  split at parsed
  case isTrue => cases parsed
  case isFalse =>
    split at parsed
    case isTrue => cases parsed
    case isFalse =>
      cases parsed
      rfl

theorem timings_markNative {edid marked : EdidStructureData} {timing checked : DeviceTimingInfo}
    (mark : markNative edid timing = (marked, checked))
    : marked.timings = edid.timings ∧ checked.isSupportYCbCr420 = timing.isSupportYCbCr420 := by
  unfold markNative at mark
  split at mark <;> cases mark <;> exact ⟨rfl, rfl⟩

/-- A detailed timing is checked and added, or nothing but the count of native ones changes. -/
theorem Marked.detailed (marked : Marked marks s) {data : Nat → U8} {timing checked added : _}
    {edid : EdidStructureData} {timingType : TimingType} (alloc : Bool)
    (parsed : cbEdidModuleParseDtlTiming data = some timing)
    (mark : markNative s.edid { timing with timingType := timingType } = (edid, checked))
    (same : added.fullTiming = checked.fullTiming
      ∧ added.isSupportYCbCr420 = checked.isSupportYCbCr420)
    : Marked marks
      { s with
        edid :=
          if cbEdidModuleValidateTiming edid checked then edid.addDeviceTiming alloc added
          else edid } := by
  obtain ⟨plain, fullTiming⟩ := plain_markNative mark
  obtain ⟨timings, flag⟩ := timings_markNative mark
  have counted : Marked marks { s with edid } :=
    marked.of_same (plain.stepped.ok marked.ok) timings rfl
  split
  case isFalse => exact counted
  case isTrue valid =>
    have noVic : added.fullTiming.formatVIC = 0 := by
      have none : timing.fullTiming.formatVIC = 0 := noVic_of_parseDtl parsed
      rw [same.1, fullTiming, none]
    have usable := usable_of_validate valid
    refine counted.addPlain alloc noVic (fun _ => ⟨?_, ?_, ?_⟩) ?_
    · rw [same.1]
      exact usable.clock
    · rw [same.1]
      exact usable.width
    · rw [same.1]
      exact usable.height
    · have none : timing.isSupportYCbCr420 = false := unmarked_of_parseDtl parsed
      rw [same.2, flag, none]

theorem Marked.detailedModeStep (marked : Marked marks s) (alloc : Nat → Bool) (i : Nat)
    : Marked marks { s with edid := detailedModeStep buffer alloc s.edid i } := by
  unfold Cbios.detailedModeStep
  cases parsed : cbEdidModuleParseDtlTiming (fun k => buffer (0x36 + 18 * i + k)) with
  | none => exact marked
  | some timing =>
    rcases mark : markNative s.edid { timing with timingType := .dtl } with ⟨edid, checked⟩
    simp only [mark]
    refine marked.detailed (alloc i) parsed mark ?_
    split <;> exact ⟨rfl, rfl⟩

theorem Marked.detailedModeSteps (marked : Marked marks s) (alloc : Nat → Bool) (is : List Nat)
    : Marked marks { s with edid := is.foldl (Cbios.detailedModeStep buffer alloc) s.edid } := by
  induction is generalizing s with
  | nil => exact marked
  | cons i rest ih => exact ih (marked.detailedModeStep buffer alloc i)

theorem Marked.ceaDetailedModes (marked : Marked marks s) (block : Nat → U8) (alloc : Nat → Bool)
    (count i : Nat)
    : Marked marks { s with edid := ceaDetailedModes block alloc count i s.edid } := by
  induction count generalizing s i with
  | zero => exact marked
  | succ count ih =>
    unfold Cbios.ceaDetailedModes
    split
    case isFalse => exact marked
    case isTrue =>
      cases parsed : cbEdidModuleParseDtlTiming (fun k => block (i + k)) with
      | none => exact marked
      | some timing =>
        rcases mark : markNative s.edid { timing with timingType := .dtd } with ⟨edid, checked⟩
        simp only [mark]
        exact ih (marked.detailed (alloc i) parsed mark ⟨rfl, rfl⟩) (i + 18)

-----------------------------------------------------------------------------------------
-- cbEDIDModule_GetCEA861Mode
-----------------------------------------------------------------------------------------

/-- One extension, which no data block was read of. -/
theorem Marked.ceaExtension (marked : Marked marks s) {blockIndex : Nat}
    (unread : s.svdData blockIndex = [])
    : Marked (marks ++ ceaMarks buffer blockIndex) (ceaExtension .plenty buffer s blockIndex)
      ∧ ∀ other, other ≠ blockIndex
        → (Cbios.ceaExtension .plenty buffer s blockIndex).svdData other = s.svdData other := by
  unfold Cbios.ceaExtension ceaMarks
  split
  case isFalse =>
    rw [List.append_nil]
    exact ⟨marked, fun _ _ => rfl⟩
  case isTrue =>
    have detailed := marked.ceaDetailedModes (edidBlock buffer blockIndex 0)
      (Allocs.plenty.ceaDetailed blockIndex) 7 (edidBlock buffer blockIndex 0 2).toNat
    have none : SvdsListed (Cbios.ceaDetailedModes (edidBlock buffer blockIndex 0)
        (Allocs.plenty.ceaDetailed blockIndex) 7 (edidBlock buffer blockIndex 0 2).toNat s.edid)
        (s.svdData blockIndex) := by
      rw [unread]
      exact fun _ member => absurd member List.not_mem_nil
    have extension := detailed.extension buffer blockIndex
      (dataBlocks buffer blockIndex) none
    rw [unread] at extension
    exact extension

/-- The extensions, by induction on those that are left. -/
theorem Marked.ceaExtensions (marked : Marked marks s) (blocks : List Nat) (distinct : blocks.Nodup)
    (unread : ∀ blockIndex ∈ blocks, s.svdData blockIndex = [])
    : Marked (marks ++ blocks.flatMap (ceaMarks buffer))
        (blocks.foldl (Cbios.ceaExtension .plenty buffer) s) := by
  induction blocks generalizing marks s with
  | nil =>
    rw [List.flatMap_nil, List.append_nil]
    exact marked
  | cons blockIndex rest ih =>
    obtain ⟨apart, distinct⟩ := List.nodup_cons.mp distinct
    obtain ⟨first, others⟩ := marked.ceaExtension buffer
      (unread blockIndex List.mem_cons_self)
    rw [List.flatMap_cons, ← List.append_assoc]
    refine ih first distinct fun other member => ?_
    rw [others other (fun same => apart (same ▸ member))]
    exact unread other (.tail _ member)

theorem Marked.hdmiVicStep (marked : Marked marks s) (allocs : Allocs) (vic : Nat × Nat)
    : Marked marks { s with edid := hdmiVicStep allocs s.edid vic } := by
  unfold Cbios.hdmiVicStep
  split
  case h_1 => exact marked
  case h_2 format _ => exact marked.addSvdFormat _ format false

theorem Marked.hdmiVicSteps (marked : Marked marks s) (allocs : Allocs) (vics : List (Nat × Nat))
    : Marked marks { s with edid := vics.foldl (Cbios.hdmiVicStep allocs) s.edid } := by
  induction vics generalizing s with
  | nil => exact marked
  | cons vic rest ih => exact ih (marked.hdmiVicStep allocs vic)

/-- The marks of the EDID are those that a run makes. -/
theorem Marked.getCea861Mode (marked : Marked [] s) (unread : ∀ blockIndex, s.svdData blockIndex = [])
    (totalBlocks : Nat) (isCea861Audio : Bool)
    : Marked (edidMarks buffer totalBlocks)
        (cbEdidModuleGetCea861Mode .plenty buffer totalBlocks isCea861Audio s) := by
  have extensions := marked.ceaExtensions buffer (List.range' 1 (totalBlocks - 1))
    List.nodup_range' (fun blockIndex _ => unread blockIndex)
  rw [List.nil_append] at extensions
  have vics := extensions.hdmiVicSteps .plenty (cbEdidModuleGetHdmiVicMode
    ((List.range' 1 (totalBlocks - 1)).foldl (Cbios.ceaExtension .plenty buffer) s).vsdb).zipIdx
  exact vics.of_same vics.ok rfl rfl

-----------------------------------------------------------------------------------------
-- cbEDIDModule_ParseEDID
-----------------------------------------------------------------------------------------

/-- The flags of the entries with a VIC are those that the marks make. -/
structure FlagsExact (marks : List (U8 × Bool)) (s : CeaState) : Prop where
  flag : ∀ (index : Nat) entry, s.edid.timings[index]? = some entry
    → entry.fullTiming.formatVIC ≠ 0
    → (entry.isSupportYCbCr420 = true ↔ Names markVic marks entry.fullTiming.formatVIC)
  others : ∀ (index : Nat) entry, s.edid.timings[index]? = some entry
    → entry.fullTiming.formatVIC ≠ 0
    → s.otherFormats index = latest markVic Prod.snd false marks entry.fullTiming.formatVIC
  listed : SvdsListed s.edid (marks.map Prod.fst)

/-- What plain steps add, by induction on the steps. -/
theorem added_of_plain {before after : List DeviceTimingInfo}
    (steps : Relation.ReflTransGen PlainStep before after)
    : ∃ more, after = before ++ more ∧ ∀ entry ∈ more, entry.fullTiming.formatVIC = 0 := by
  induction steps with
  | refl => exact ⟨[], (List.append_nil _).symm, fun _ member => absurd member List.not_mem_nil⟩
  | tail _ step ih =>
    obtain ⟨more, rfl, plain⟩ := ih
    cases step with
    | add timing noVic usable =>
      refine ⟨more ++ [timing], List.append_assoc _ _ _, fun entry member => ?_⟩
      rcases List.mem_append.mp member with old | new
      · exact plain entry old
      · exact List.mem_singleton.mp new ▸ noVic

/-- Passes that know no VICs keep the flags. -/
theorem Marked.flagsExact (marked : Marked marks s) {edid : EdidStructureData}
    (plain : SteppedBy PlainStep s.edid edid)
    : FlagsExact marks { s with edid } := by
  obtain ⟨more, timings, noVics⟩ := added_of_plain (plain.steps marked.ok.allocated)
  have old : ∀ (index : Nat) entry, edid.timings[index]? = some entry
      → entry.fullTiming.formatVIC ≠ 0 → s.edid.timings[index]? = some entry := by
    intro index entry found vic
    rw [timings] at found
    rcases Nat.lt_or_ge index s.edid.timings.length with low | high
    · rwa [List.getElem?_append_left low] at found
    · rw [List.getElem?_append_right high] at found
      exact absurd (noVics entry (List.mem_of_getElem? found)) vic
  refine ⟨?_, ?_, ?_⟩
  · exact fun index entry found vic => marked.flag index entry (old index entry found vic)
  · exact fun index entry found vic => marked.others index entry (old index entry found vic)
  · exact marked.listed.grown (plain.stepped.grown marked.ok)

theorem marked_start (attrib : MonitorAttrib) : Marked [] (CeaState.start attrib.structureData) where
  ok := structureData_ok attrib
  flag := fun index entry found => by simp [CeaState.start, MonitorAttrib.structureData] at found
  others := fun index entry found => by simp [CeaState.start, MonitorAttrib.structureData] at found
  beyond := fun _ _ => rfl
  listed := fun _ member => absurd member List.not_mem_nil

/-- After a run with enough memory, an entry with a VIC supports YCbCr 4:2:0 if and only if a data
block marks its VIC, it supports other formats as the last such mark says, and every supported VIC
that is marked has an entry.
-/
theorem parseEdid_flagsExact (totalBlocks : Nat) (monitorID monitorName : List U8)
    : FlagsExact (edidMarks buffer totalBlocks)
        (cbEdidModuleParseEdid .plenty buffer totalBlocks monitorID monitorName).2 := by
  generalize attribEq : cbEdidModuleGetMonitorAttrib buffer totalBlocks monitorID monitorName = attrib
  have detailed := (marked_start attrib).detailedModeSteps buffer Allocs.plenty.detailed (List.range 4)
  change FlagsExact _ (parseTimings .plenty buffer totalBlocks
    (cbEdidModuleGetMonitorAttrib buffer totalBlocks monitorID monitorName))
  rw [attribEq]
  unfold parseTimings
  split
  case isFalse few =>
    have none : edidMarks buffer totalBlocks = [] := by
      rw [edidMarks, show totalBlocks - 1 = 0 by omega]
      rfl
    rw [none]
    exact detailed.flagsExact (plain_modes .plenty buffer attrib.isCea861Hdmi _)
  case isTrue =>
    have extensions := detailed.getCea861Mode buffer (fun _ => rfl) totalBlocks attrib.isCea861Audio
    have displayId := plain_getDisplayIdMode .plenty buffer totalBlocks
      (cbEdidModuleGetCea861Mode .plenty buffer totalBlocks attrib.isCea861Audio
        (CeaState.start
          (cbEdidModuleGetDetailedMode buffer Allocs.plenty.detailed attrib.structureData))).edid
    exact extensions.flagsExact (displayId.trans (plain_modes .plenty buffer attrib.isCea861Hdmi _))

end Edid

end Cx4Kernel.Cbios
