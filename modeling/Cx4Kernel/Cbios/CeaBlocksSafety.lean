import Cx4Kernel.Cbios.CeaBlocks

/-! The list of timings in every run of `cbEDIDModule_ParseEDID`: it fits its array, no VIC stands
twice, an entry with a VIC has the timing of the VIC, and entries stay where they are.
-/

namespace Cx4Kernel.Cbios

open Foundation EdidStructureData

/-- Entries stay where they are. -/
theorem EdidStructureData.SteppedBy.grown {before after : EdidStructureData}
    (stepped : Stepped before after) (ok : before.TimingListOk)
    : Grown DeviceTimingInfo.KeptAs before.timings after.timings :=
  ListSteps.grown (stepped.steps ok.allocated)

-----------------------------------------------------------------------------------------
-- Timings that are parsed
-----------------------------------------------------------------------------------------

theorem usable_of_validate {edid : EdidStructureData} {timing : DeviceTimingInfo}
    (valid : cbEdidModuleValidateTiming edid timing = true)
    : timing.Usable := by
  unfold cbEdidModuleValidateTiming at valid
  split at valid
  case isTrue => cases valid
  case isFalse large =>
    simp only [not_or, BitVec.not_lt] at large
    exact ⟨large.1, large.2.1, large.2.2⟩

theorem noVic_of_parseDtl {data : Nat → U8} {timing : DeviceTimingInfo}
    (parsed : cbEdidModuleParseDtlTiming data = some timing)
    : timing.fullTiming.formatVIC = 0 := by
  unfold cbEdidModuleParseDtlTiming at parsed
  extract_lets at parsed
  split at parsed
  case isTrue => cases parsed
  case isFalse =>
    split at parsed
    case isTrue => cases parsed
    case isFalse =>
      cases parsed
      rfl

theorem noVic_of_parseDid {data : Nat → U8} {type7 : Bool} {revision : U8}
    {timing : DeviceTimingInfo} (parsed : parseDidTiming data type7 revision = some timing)
    : timing.fullTiming.formatVIC = 0 := by
  unfold parseDidTiming at parsed
  extract_lets at parsed
  split at parsed
  case isTrue => cases parsed
  case isFalse =>
    cases parsed
    rfl

/-- Taking a native format is no step of the list. -/
theorem plain_markNative {edid marked : EdidStructureData} {timing checked : DeviceTimingInfo}
    (mark : markNative edid timing = (marked, checked))
    : SteppedBy PlainStep edid marked ∧ checked.fullTiming = timing.fullTiming := by
  unfold markNative at mark
  split at mark <;> cases mark
  · exact ⟨.of_same rfl rfl rfl, rfl⟩
  · exact ⟨.refl edid, rfl⟩

/-- A checked timing is added. -/
theorem plain_checked {edid checkedIn : EdidStructureData} {checked added : DeviceTimingInfo}
    (alloc : Bool) (valid : cbEdidModuleValidateTiming checkedIn checked = true)
    (noVic : checked.fullTiming.formatVIC = 0) (same : added.fullTiming = checked.fullTiming)
    : SteppedBy PlainStep edid (edid.addDeviceTiming alloc added) := by
  have usable := usable_of_validate valid
  refine stepped_plain edid alloc (by rw [same, noVic]) fun _ => ⟨?_, ?_, ?_⟩
  · rw [same]
    exact usable.clock
  · rw [same]
    exact usable.width
  · rw [same]
    exact usable.height

-----------------------------------------------------------------------------------------
-- The passes over descriptors
-----------------------------------------------------------------------------------------

theorem plain_detailedModeStep (data : Nat → U8) (alloc : Nat → Bool) (edid : EdidStructureData)
    (i : Nat)
    : SteppedBy PlainStep edid (detailedModeStep data alloc edid i) := by
  unfold detailedModeStep
  cases parsed : cbEdidModuleParseDtlTiming (fun k => data (0x36 + 18 * i + k)) with
  | none => exact .refl edid
  | some timing =>
    rcases mark : markNative edid { timing with timingType := .dtl } with ⟨marked, checked⟩
    obtain ⟨stepped, same⟩ := plain_markNative mark
    have noVic : checked.fullTiming.formatVIC = 0 := by
      have none : timing.fullTiming.formatVIC = 0 := noVic_of_parseDtl parsed
      rw [same, none]
    simp only [mark]
    split
    case isTrue valid =>
      refine stepped.trans (plain_checked (alloc i) valid noVic ?_)
      split <;> rfl
    case isFalse => exact stepped

theorem plain_ceaDetailedModes (block : Nat → U8) (alloc : Nat → Bool) (count i : Nat)
    (edid : EdidStructureData)
    : SteppedBy PlainStep edid (ceaDetailedModes block alloc count i edid) := by
  induction count generalizing i edid with
  | zero => exact .refl edid
  | succ count ih =>
    unfold ceaDetailedModes
    split
    case isFalse => exact .refl edid
    case isTrue =>
      cases parsed : cbEdidModuleParseDtlTiming (fun k => block (i + k)) with
      | none => exact .refl edid
      | some timing =>
        rcases mark : markNative edid { timing with timingType := .dtd } with ⟨marked, checked⟩
        obtain ⟨stepped, same⟩ := plain_markNative mark
        have noVic : checked.fullTiming.formatVIC = 0 := by
          have none : timing.fullTiming.formatVIC = 0 := noVic_of_parseDtl parsed
          rw [same, none]
        simp only [mark]
        refine SteppedBy.trans ?_ (ih (i + 18) _)
        split
        case isTrue valid => exact stepped.trans (plain_checked (alloc i) valid noVic rfl)
        case isFalse => exact stepped

theorem plain_displayIdTimingStep (block : Nat → U8) (alloc : Nat → Bool)
    (edid : EdidStructureData) (i : Nat)
    : SteppedBy PlainStep edid (displayIdTimingStep block alloc edid i) := by
  unfold displayIdTimingStep
  cases parsed : parseDidTiming (didDescriptor block i) (didType7 block) (block 1 &&& 7) with
  | none => exact .refl edid
  | some timing =>
    dsimp only
    split
    case isTrue valid =>
      exact plain_checked (alloc i) valid (noVic_of_parseDid parsed) rfl
    case isFalse => exact .refl edid

-----------------------------------------------------------------------------------------
-- The pass over the data blocks
-----------------------------------------------------------------------------------------

section Blocks

variable (block : Nat → U8) (alloc : Nat → Bool)

/-- A pass that takes steps of the list for each of some items. -/
theorem stepped_foldl {Item : Type} {visit : CeaState → Item → CeaState} (items : List Item)
    (each : ∀ s item, Stepped s.edid (visit s item).edid) (s : CeaState)
    : Stepped s.edid (items.foldl visit s).edid := by
  induction items generalizing s with
  | nil => exact .refl s.edid
  | cons first rest ih => exact (each s first).trans (ih (visit s first))

theorem stepped_svdStep (s : CeaState) (j : Nat) : Stepped s.edid (svdStep block alloc s j).edid := by
  unfold svdStep
  split
  case h_1 => exact .refl s.edid
  case h_2 format isNative _ => exact stepped_addSvdFormat s.edid _ format isNative

theorem stepped_yCbCr420VideoStep (s : CeaState) (i : Nat)
    : Stepped s.edid (yCbCr420VideoStep block alloc s i).edid := by
  unfold yCbCr420VideoStep
  split
  case h_1 => exact .refl s.edid
  case h_2 format isNative _ =>
    have added := stepped_addSvdFormat s.edid (alloc (2 + i)) format isNative
    rcases outcome : s.edid.addSvdFormat (alloc (2 + i)) format isNative with ⟨edid, index⟩
    rw [outcome] at added
    cases index with
    | none => exact added
    | some index => exact added.trans (stepped_setYCbCr420 edid index)

theorem stepped_capMapStep (s : CeaState) (svd : U8) : Stepped s.edid (capMapStep s svd).edid := by
  unfold capMapStep
  split
  case h_1 => exact .refl s.edid
  case h_2 format isNative _ =>
    split
    case h_1 => exact .refl s.edid
    case h_2 index _ => exact stepped_setYCbCr420 s.edid index

theorem stepped_ceaDataBlock (blockIndex : Nat) (s : CeaState)
    : Stepped s.edid (ceaDataBlock block alloc blockIndex s).edid := by
  unfold ceaDataBlock
  split
  · exact .refl s.edid
  · split
    · exact stepped_foldl (List.range (payloadLength block)) (stepped_svdStep block alloc)
        { s with
          svdData := Function.update s.svdData blockIndex
            ((List.range (payloadLength block)).map fun j => block (1 + j)) }
    · split
      · exact .refl s.edid
      · split
        · unfold cbEdidModuleParseCeaExtBlock
          split
          · exact .refl s.edid
          · split
            · exact stepped_foldl _ (stepped_yCbCr420VideoStep block alloc) s
            · split
              · exact stepped_foldl _ stepped_capMapStep s
              · exact .refl s.edid
        · exact .refl s.edid

end Blocks

-----------------------------------------------------------------------------------------
-- The passes over an EDID
-----------------------------------------------------------------------------------------

section Edid

variable (allocs : Allocs) (buffer : Nat → U8) (totalBlocks : Nat)

theorem stepped_ceaExtension (s : CeaState) (blockIndex : Nat)
    : Stepped s.edid (ceaExtension allocs buffer s blockIndex).edid := by
  unfold ceaExtension
  split
  case isFalse => exact .refl s.edid
  case isTrue =>
    have detailed := plain_ceaDetailedModes (edidBlock buffer blockIndex 0)
      (allocs.ceaDetailed blockIndex) 7 (edidBlock buffer blockIndex 0 2).toNat s.edid
    refine detailed.stepped.trans ?_
    exact stepped_foldl (dataBlocks buffer blockIndex)
      (fun s i => stepped_ceaDataBlock _ _ blockIndex s) { s with edid := _ }

theorem stepped_hdmiVicStep (edid : EdidStructureData) (vic : Nat × Nat)
    : Stepped edid (hdmiVicStep allocs edid vic) := by
  unfold hdmiVicStep
  split
  case h_1 => exact .refl edid
  case h_2 format _ => exact stepped_addSvdFormat edid _ format false

/-- `cbEDIDModule_GetCEA861Mode` behind any number of its extensions. -/
theorem stepped_behindExtensions (isCea861Audio : Bool) (s : CeaState) (blocks more : Nat)
    : Stepped ((List.range' 1 blocks).foldl (ceaExtension allocs buffer) s).edid
        (cbEdidModuleGetCea861Mode allocs buffer (blocks + more + 1) isCea861Audio s).edid := by
  have rest := stepped_foldl (List.range' (1 + blocks) more) (stepped_ceaExtension allocs buffer)
    ((List.range' 1 blocks).foldl (ceaExtension allocs buffer) s)
  rw [← List.foldl_append, List.range'_append_1] at rest
  refine rest.trans ?_
  exact SteppedBy.foldl _ (fun edid vic _ => stepped_hdmiVicStep allocs edid vic) _

theorem plain_getDisplayIdMode (edid : EdidStructureData)
    : SteppedBy PlainStep edid (cbEdidModuleGetDisplayIdMode allocs buffer totalBlocks edid) := by
  refine SteppedBy.foldl _ (fun edid blockIndex _ => ?_) edid
  unfold displayIdExtension
  extract_lets block
  split
  case isFalse => exact .refl edid
  case isTrue =>
    refine SteppedBy.foldl _ (fun edid i _ => ?_) edid
    unfold displayIdBlockAt
    extract_lets block
    split
    case isFalse => exact .refl edid
    case isTrue =>
      exact SteppedBy.foldl _ (fun edid i _ => plain_displayIdTimingStep block _ edid i) edid

theorem plain_addMode (isCea861Hdmi alloc : Bool) (timingType : TimingType)
    (simple : timingType = .est ∨ timingType = .std) (xRes yRes refreshRate : U16)
    (edid : EdidStructureData)
    : SteppedBy PlainStep edid (addMode isCea861Hdmi alloc timingType xRes yRes refreshRate edid) := by
  unfold addMode
  split
  case isTrue => exact .refl edid
  case isFalse =>
    split
    case h_1 => exact .refl edid
    case h_2 =>
      refine stepped_plain edid alloc rfl fun detailed => ?_
      rcases simple with rfl | rfl <;> rcases detailed with type | type | type <;> cases type

theorem plain_getEstablishMode (isCea861Hdmi : Bool) (edid : EdidStructureData)
    : SteppedBy PlainStep edid (cbEdidModuleGetEstablishMode allocs buffer isCea861Hdmi edid) := by
  refine SteppedBy.foldl _ (fun edid mode _ => ?_) edid
  unfold establishStep
  split
  case isTrue => exact plain_addMode isCea861Hdmi _ .est (.inl rfl) _ _ _ edid
  case isFalse => exact .refl edid

theorem plain_getStandardMode (isCea861Hdmi : Bool) (edid : EdidStructureData)
    : SteppedBy PlainStep edid (cbEdidModuleGetStandardMode allocs buffer isCea861Hdmi edid) := by
  refine SteppedBy.foldl _ (fun edid i _ => ?_) edid
  unfold standardStep
  extract_lets byte1 byte2 xRes yRes refresh
  split
  case isTrue => exact .refl edid
  case isFalse => exact plain_addMode isCea861Hdmi _ .std (.inr rfl) _ _ _ edid

-----------------------------------------------------------------------------------------
-- cbEDIDModule_ParseEDID
-----------------------------------------------------------------------------------------

/-- The passes behind the one over the CTA extensions. -/
theorem plain_modes (isCea861Hdmi : Bool) (edid : EdidStructureData)
    : SteppedBy PlainStep edid
      (cbEdidModuleGetStandardMode allocs buffer isCea861Hdmi
        (cbEdidModuleGetEstablishMode allocs buffer isCea861Hdmi edid)) :=
  (plain_getEstablishMode allocs buffer isCea861Hdmi edid).trans
    (plain_getStandardMode allocs buffer isCea861Hdmi _)

theorem plain_getDetailedMode (edid : EdidStructureData)
    : SteppedBy PlainStep edid (cbEdidModuleGetDetailedMode buffer allocs.detailed edid) :=
  SteppedBy.foldl _ (fun edid i _ => plain_detailedModeStep buffer _ edid i) edid

/-- All passes behind the one over the base block. -/
theorem stepped_parseTimings (attrib : MonitorAttrib)
    : Stepped (cbEdidModuleGetDetailedMode buffer allocs.detailed attrib.structureData)
      (parseTimings allocs buffer totalBlocks attrib).edid := by
  unfold parseTimings
  split
  case isFalse => exact (plain_modes allocs buffer _ _).stepped
  case isTrue many =>
    obtain ⟨more, rfl⟩ : ∃ more, totalBlocks = 0 + more + 1 := ⟨totalBlocks - 1, by omega⟩
    have extensions := stepped_behindExtensions allocs buffer attrib.isCea861Audio
      (CeaState.start (cbEdidModuleGetDetailedMode buffer allocs.detailed attrib.structureData))
      0 more
    exact (extensions.trans (plain_getDisplayIdMode allocs buffer _ _).stepped).trans
      (plain_modes allocs buffer _ _).stepped

theorem structureData_ok (attrib : MonitorAttrib) : attrib.structureData.TimingListOk where
  fits := Nat.le_refl 0
  allocated := fun _ => rfl
  well := wellListed_nil

theorem getDetailedMode_ok (attrib : MonitorAttrib)
    : (cbEdidModuleGetDetailedMode buffer allocs.detailed attrib.structureData).TimingListOk :=
  (plain_getDetailedMode allocs buffer attrib.structureData).stepped.ok (structureData_ok attrib)

/-- The list of timings that `cbEDIDModule_ParseEDID` leaves, whatever the bytes of the EDID are and
whichever allocations fail.
-/
theorem parseEdid_timingListOk (monitorID monitorName : List U8)
    : (cbEdidModuleParseEdid allocs buffer totalBlocks monitorID monitorName).2.edid.TimingListOk :=
  (stepped_parseTimings allocs buffer totalBlocks _).ok (getDetailedMode_ok allocs buffer _)

end Edid

end Cx4Kernel.Cbios
