import Cx4Kernel.Cbios.CeaBlocks
import Cx4Kernel.Foundation.Folds

/-! The two tables of audio formats that a run of `cbEDIDModule_ParseEDID` fills from the audio data
blocks of an EDID, and the data blocks that its two walks visit.
-/

namespace Cx4Kernel.Cbios

open Foundation

-----------------------------------------------------------------------------------------
-- Short audio descriptors
-----------------------------------------------------------------------------------------

/-- A short audio descriptor of a data block. -/
def sadAt (block : Nat → U8) (j : Nat) : U8 × U8 × U8 :=
  (block (1 + j * 3), block (2 + j * 3), block (3 + j * 3))

def sadBytes (sad : U8 × U8 × U8) : List U8 := [sad.1, sad.2.1, sad.2.2]

/-- The entry of `HDAudioFormat` for a descriptor. -/
def sadInfo (sad : U8 × U8 × U8) : HdmiAudioInfo := audioInfo sad.1 sad.2.1 sad.2.2

/-- The descriptor names a format. -/
def namesFormat (sad : U8 × U8 × U8) : Bool := audioFormatCode sad.1 ≠ 0

/-- The descriptors of a data block. -/
def audioSads (block : Nat → U8) : List (U8 × U8 × U8) :=
  if tagCode block = audioDataBlockTag then
    (List.range (payloadLength block / 3)).map (sadAt block)
  else []

section Edid

variable (buffer : Nat → U8) (totalBlocks : Nat)

/-- The descriptors of the data blocks at some places of an extension. -/
def sadsAt (blockIndex : Nat) (places : List Nat) : List (U8 × U8 × U8) :=
  places.flatMap fun i => audioSads (edidBlock buffer blockIndex i)

/-- The descriptors that `cbEDIDModule_GetMonitorAttrib` visits. -/
def attribSads : List (U8 × U8 × U8) :=
  (List.range' 1 (totalBlocks - 1)).flatMap fun blockIndex =>
    if isAttribExtension buffer blockIndex then
      sadsAt buffer blockIndex (attribBlocks buffer blockIndex)
    else []

/-- The descriptors that `cbEDIDModule_GetCEA861Mode` visits. -/
def modeSads : List (U8 × U8 × U8) :=
  (List.range' 1 (totalBlocks - 1)).flatMap fun blockIndex =>
    if isCeaExtension buffer blockIndex then
      sadsAt buffer blockIndex (dataBlocks buffer blockIndex)
    else []

end Edid

/-- The bytes of some descriptors in a row, by induction on their number. -/
theorem range_sadBytes (block : Nat → U8) (count : Nat)
    : (List.range (count * 3)).map (fun k => block (1 + k))
      = ((List.range count).map (sadAt block)).flatMap sadBytes := by
  induction count with
  | zero => rfl
  | succ count ih =>
    have three : (count + 1) * 3 = count * 3 + 1 + 1 + 1 := by omega
    rw [three, List.range_succ, List.range_succ, List.range_succ, List.range_succ]
    simp only [List.map_append, List.flatMap_append, ih, List.append_assoc]
    have second : 1 + (count * 3 + 1) = 2 + count * 3 := by omega
    have third : 1 + (count * 3 + 1 + 1) = 3 + count * 3 := by omega
    simp [sadAt, sadBytes, second, third]

-----------------------------------------------------------------------------------------
-- CEA_SADs
-----------------------------------------------------------------------------------------

/-- `CEA_SADs` holds the first of some descriptors. -/
structure HoldsSads (sads : List (U8 × U8 × U8)) (attrib : MonitorAttrib) : Prop where
  count : attrib.sadCount = min maxSadCount sads.length
  entries : attrib.ceaSads = (sads.take maxSadCount).flatMap sadBytes

variable {sads : List (U8 × U8 × U8)}

theorem HoldsSads.copySads {attrib : MonitorAttrib} (holds : HoldsSads sads attrib)
    {block : Nat → U8} (audio : tagCode block = audioDataBlockTag)
    : HoldsSads (sads ++ audioSads block) (copySads block attrib) where
  count := by
    simp only [Cbios.copySads, audioSads, if_pos audio, holds.count, List.length_append,
      List.length_map, List.length_range]
    omega
  entries := by
    simp only [Cbios.copySads, audioSads, if_pos audio, holds.count, holds.entries]
    rw [List.take_append, List.flatMap_append, range_sadBytes]
    congr 2
    rw [← List.map_take, List.take_range]
    congr 2
    omega

theorem HoldsSads.dataBlock {s : AttribState} (holds : HoldsSads sads s.attrib) (block : Nat → U8)
    : HoldsSads (sads ++ audioSads block) (attribDataBlock block s).attrib := by
  have quiet : tagCode block ≠ audioDataBlockTag → sads ++ audioSads block = sads := by
    intro other
    rw [audioSads, if_neg other, List.append_nil]
  unfold attribDataBlock
  split
  case isTrue vendor =>
    rw [quiet (by rw [vendor]; decide)]
    exact holds
  case isFalse =>
    split
    case isTrue audio => exact holds.copySads audio
    case isFalse other =>
      rw [quiet other]
      split
      · exact ⟨holds.count, holds.entries⟩
      · exact holds

theorem HoldsSads.extension {s : AttribState} (buffer : Nat → U8)
    (holds : HoldsSads sads s.attrib) (blockIndex : Nat)
    : HoldsSads
        (sads
          ++ if isAttribExtension buffer blockIndex then
              sadsAt buffer blockIndex (attribBlocks buffer blockIndex)
            else [])
        (attribExtension buffer s blockIndex).attrib := by
  unfold attribExtension
  split
  case isFalse =>
    rw [List.append_nil]
    exact holds
  case isTrue =>
    have header : HoldsSads sads (attribHeader (edidBlock buffer blockIndex 0) s.attrib) :=
      ⟨holds.count, holds.entries⟩
    have blocks := foldl_collects (fun sads (s : AttribState) => HoldsSads sads s.attrib)
      (attribBlocks buffer blockIndex)
      (fun sads s i _ holds => holds.dataBlock (edidBlock buffer blockIndex i))
      (s := { s with attrib := attribHeader (edidBlock buffer blockIndex 0) s.attrib }) header
    exact ⟨blocks.count, blocks.entries⟩

/-- `CEA_SADs` holds the first 15 descriptors of the EDID, as `SAD_Count` tells. -/
theorem getMonitorAttrib_holdsSads (buffer : Nat → U8) (totalBlocks : Nat)
    (monitorID monitorName : List U8)
    : HoldsSads (attribSads buffer totalBlocks)
        (cbEdidModuleGetMonitorAttrib buffer totalBlocks monitorID monitorName) := by
  have start : HoldsSads [] (baseAttrib buffer { monitorID, monitorName }) := by
    unfold baseAttrib
    split <;> exact ⟨rfl, rfl⟩
  exact foldl_collects (fun sads (s : AttribState) => HoldsSads sads s.attrib)
    (List.range' 1 (totalBlocks - 1))
    (fun sads s blockIndex _ holds => holds.extension buffer blockIndex)
    (s := ⟨baseAttrib buffer { monitorID, monitorName }, false⟩) start

-----------------------------------------------------------------------------------------
-- HDAudioFormat
-----------------------------------------------------------------------------------------

/-- `HDAudioFormat` holds the first of the descriptors that name a format. -/
def HoldsFormats (sads : List (U8 × U8 × U8)) (formats : List HdmiAudioInfo) : Prop :=
  formats = ((sads.filter namesFormat).take cbiosHdmiAudioFormatCounts).map sadInfo

theorem HoldsFormats.step {formats : List HdmiAudioInfo} (holds : HoldsFormats sads formats)
    (block : Nat → U8) (j : Nat)
    : HoldsFormats (sads ++ [sadAt block j]) (audioFormatStep block formats j) := by
  have length : formats.length
      = min cbiosHdmiAudioFormatCounts (sads.filter namesFormat).length := by
    rw [holds, List.length_map, List.length_take]
  unfold HoldsFormats audioFormatStep
  rw [List.filter_append, List.filter_singleton, List.take_append, List.map_append, ← holds]
  cases named : namesFormat (sadAt block j) with
  | false =>
    have code : audioFormatCode (block (1 + j * 3)) = 0 := not_not.mp (of_decide_eq_false named)
    simp [code]
  | true =>
    have code : audioFormatCode (block (1 + j * 3)) ≠ 0 := of_decide_eq_true named
    by_cases room : formats.length < cbiosHdmiAudioFormatCounts
    · have left : cbiosHdmiAudioFormatCounts - (sads.filter namesFormat).length
          = cbiosHdmiAudioFormatCounts - (sads.filter namesFormat).length - 1 + 1 := by omega
      rw [if_pos ⟨room, code⟩, left]
      simp [sadInfo, sadAt]
    · have full : cbiosHdmiAudioFormatCounts - (sads.filter namesFormat).length = 0 := by omega
      rw [if_neg (fun both => room both.1), full]
      simp

section Blocks

variable (block : Nat → U8) (alloc : Nat → Bool)

theorem hdAudioFormat_svdStep (s : CeaState) (j : Nat)
    : (svdStep block alloc s j).hdAudioFormat = s.hdAudioFormat := by
  unfold svdStep
  split <;> rfl

theorem hdAudioFormat_yCbCr420VideoStep (s : CeaState) (i : Nat)
    : (yCbCr420VideoStep block alloc s i).hdAudioFormat = s.hdAudioFormat := by
  unfold yCbCr420VideoStep
  split
  case h_1 => rfl
  case h_2 format isNative _ =>
    rcases s.edid.addSvdFormat (alloc (2 + i)) format isNative with ⟨edid, index⟩
    cases index <;> rfl

theorem hdAudioFormat_capMapStep (s : CeaState) (svd : U8)
    : (capMapStep s svd).hdAudioFormat = s.hdAudioFormat := by
  unfold capMapStep
  split
  case h_1 => rfl
  case h_2 => split <;> rfl

/-- Data blocks of other kinds leave `HDAudioFormat` alone. -/
theorem hdAudioFormat_otherBlock (blockIndex : Nat) (s : CeaState)
    (other : tagCode block ≠ audioDataBlockTag)
    : (ceaDataBlock block alloc blockIndex s).hdAudioFormat = s.hdAudioFormat := by
  unfold ceaDataBlock
  rw [if_neg other]
  split
  · exact foldl_keeps CeaState.hdAudioFormat (hdAudioFormat_svdStep block alloc) _ _
  · split
    · rfl
    · split
      · unfold cbEdidModuleParseCeaExtBlock
        split
        · rfl
        · split
          · exact foldl_keeps CeaState.hdAudioFormat (hdAudioFormat_yCbCr420VideoStep block alloc) _ s
          · split
            · exact foldl_keeps CeaState.hdAudioFormat hdAudioFormat_capMapStep _ s
            · rfl
      · rfl

/-- A data block adds the descriptors that it has, by what it is. -/
theorem HoldsFormats.dataBlock {s : CeaState} (holds : HoldsFormats sads s.hdAudioFormat)
    (blockIndex : Nat)
    : HoldsFormats (sads ++ audioSads block)
        (ceaDataBlock block alloc blockIndex s).hdAudioFormat := by
  by_cases audio : tagCode block = audioDataBlockTag
  · have steps := foldl_collects HoldsFormats (List.range (payloadLength block / 3))
      (fun sads formats j _ holds => holds.step block j) holds
    rw [← List.map_eq_flatMap] at steps
    rw [ceaDataBlock, if_pos audio, audioSads, if_pos audio]
    exact steps
  · rw [hdAudioFormat_otherBlock block alloc blockIndex s audio, audioSads, if_neg audio,
      List.append_nil]
    exact holds

end Blocks

section Edid

variable (allocs : Allocs) (buffer : Nat → U8) (totalBlocks : Nat)

theorem HoldsFormats.extension {s : CeaState} (holds : HoldsFormats sads s.hdAudioFormat)
    (blockIndex : Nat)
    : HoldsFormats
        (sads
          ++ if isCeaExtension buffer blockIndex then
              sadsAt buffer blockIndex (dataBlocks buffer blockIndex)
            else [])
        (ceaExtension allocs buffer s blockIndex).hdAudioFormat := by
  unfold ceaExtension
  split
  case isFalse =>
    rw [List.append_nil]
    exact holds
  case isTrue =>
    exact foldl_collects (fun sads (s : CeaState) => HoldsFormats sads s.hdAudioFormat)
      (dataBlocks buffer blockIndex)
      (fun sads s i _ holds => holds.dataBlock (edidBlock buffer blockIndex i) _ blockIndex) holds

theorem getCea861Mode_hdAudioFormat (isCea861Audio : Bool) {s : CeaState}
    (none : s.hdAudioFormat = [])
    : (cbEdidModuleGetCea861Mode allocs buffer totalBlocks isCea861Audio s).hdAudioFormat
      = cbEdidPatchHdmiAudio isCea861Audio
        ((((modeSads buffer totalBlocks).filter namesFormat).take cbiosHdmiAudioFormatCounts).map
          sadInfo) := by
  have start : HoldsFormats [] s.hdAudioFormat := none
  have holds := foldl_collects (fun sads (s : CeaState) => HoldsFormats sads s.hdAudioFormat)
    (List.range' 1 (totalBlocks - 1))
    (fun sads s blockIndex _ holds => holds.extension allocs buffer blockIndex) start
  exact congrArg (cbEdidPatchHdmiAudio isCea861Audio) holds

end Edid

-----------------------------------------------------------------------------------------
-- Basic audio
-----------------------------------------------------------------------------------------

section Patch

variable {isCea861Audio : Bool} {formats : List HdmiAudioInfo}

/-- The table has what a monitor with basic audio takes. -/
def hasBasicAudio (isCea861Audio : Bool) (formats : List HdmiAudioInfo) : Prop :=
  isCea861Audio = true → ∃ info ∈ formats, info.format = audioFormatLpcm

theorem patchHdmiAudio_of_hasBasicAudio (has : hasBasicAudio isCea861Audio formats)
    : cbEdidPatchHdmiAudio isCea861Audio formats = formats := by
  refine if_neg ?_
  rintro ⟨basic, noLpcm⟩
  obtain ⟨info, listed, lpcm⟩ := has basic
  exact noLpcm info listed lpcm

/-- A table without linear PCM gets an entry for it, which takes the last place of a full table. -/
theorem patchHdmiAudio_of_not_hasBasicAudio (lacks : ¬ hasBasicAudio isCea861Audio formats)
    (fits : formats.length ≤ cbiosHdmiAudioFormatCounts)
    : ∃ info, info.format = audioFormatLpcm
      ∧ cbEdidPatchHdmiAudio isCea861Audio formats
        = formats.take (cbiosHdmiAudioFormatCounts - 1) ++ [info] := by
  have patched : isCea861Audio = true ∧ ∀ info ∈ formats, info.format ≠ audioFormatLpcm := by
    unfold hasBasicAudio at lacks
    push Not at lacks
    exact lacks
  unfold cbEdidPatchHdmiAudio
  rw [if_pos patched]
  split
  case isTrue full =>
    have last : cbiosHdmiAudioFormatCounts - 1 < formats.length := full
    have none : formats.drop (cbiosHdmiAudioFormatCounts - 1 + 1) = [] :=
      List.drop_eq_nil_of_le fits
    rw [List.modify_eq_take_cons_drop last, none]
    exact ⟨_, rfl, rfl⟩
  case isFalse room =>
    rw [List.take_of_length_le (Nat.le_sub_one_of_lt (Nat.not_le.mp room))]
    exact ⟨_, rfl, rfl⟩

end Patch

-----------------------------------------------------------------------------------------
-- Both tables
-----------------------------------------------------------------------------------------

section Run

variable (allocs : Allocs) (buffer : Nat → U8) (totalBlocks : Nat)

/-- The entries of `HDAudioFormat` before basic audio is looked at. -/
def modeFormats : List HdmiAudioInfo :=
  (((modeSads buffer totalBlocks).filter namesFormat).take cbiosHdmiAudioFormatCounts).map sadInfo

theorem length_modeFormats_le
    : (modeFormats buffer totalBlocks).length ≤ cbiosHdmiAudioFormatCounts := by
  rw [modeFormats, List.length_map, List.length_take]
  exact Nat.min_le_left _ _

/-- Without an extension no descriptor is visited, and basic audio is not set. -/
theorem modeFormats_of_le_one (one : totalBlocks ≤ 1) : modeFormats buffer totalBlocks = [] := by
  rw [modeFormats, modeSads, Nat.sub_eq_zero_of_le one]
  rfl

theorem getMonitorAttrib_isCea861Audio_of_le_one (one : totalBlocks ≤ 1)
    (monitorID monitorName : List U8)
    : (cbEdidModuleGetMonitorAttrib buffer totalBlocks monitorID monitorName).isCea861Audio
      = false := by
  rw [cbEdidModuleGetMonitorAttrib, Nat.sub_eq_zero_of_le one]
  change (baseAttrib buffer { monitorID, monitorName }).isCea861Audio = false
  unfold baseAttrib
  split <;> rfl

/-- The table of a run is the one that the extensions give, patched for basic audio. -/
theorem parseEdid_hdAudioFormat (monitorID monitorName : List U8)
    : let result := cbEdidModuleParseEdid allocs buffer totalBlocks monitorID monitorName
      result.2.hdAudioFormat
        = cbEdidPatchHdmiAudio result.1.isCea861Audio (modeFormats buffer totalBlocks) := by
  change (parseTimings allocs buffer totalBlocks _).hdAudioFormat = _
  unfold parseTimings
  by_cases more : 1 < totalBlocks
  · simp only [if_pos more]
    exact getCea861Mode_hdAudioFormat allocs buffer totalBlocks _ rfl
  · have one := Nat.not_lt.mp more
    simp only [if_neg more]
    rw [modeFormats_of_le_one buffer totalBlocks one]
    change [] = cbEdidPatchHdmiAudio
      (cbEdidModuleGetMonitorAttrib buffer totalBlocks monitorID monitorName).isCea861Audio []
    rw [getMonitorAttrib_isCea861Audio_of_le_one buffer totalBlocks one]
    rfl

/-- What the tables hold at the end of a run. -/
structure AudioTables (attrib : MonitorAttrib) (formats : List HdmiAudioInfo) : Prop where
  sads : HoldsSads (attribSads buffer totalBlocks) attrib
  fits : formats.length ≤ cbiosHdmiAudioFormatCounts
  first : (modeFormats buffer totalBlocks).take (cbiosHdmiAudioFormatCounts - 1) <+: formats
  basic : hasBasicAudio attrib.isCea861Audio formats
  unpatched : hasBasicAudio attrib.isCea861Audio (modeFormats buffer totalBlocks)
    → formats = modeFormats buffer totalBlocks

/-- `CEA_SADs` holds the first 15 descriptors of the EDID. `HDAudioFormat` holds the first 16 that
name a format, except that a monitor with basic audio always has linear PCM among them.
-/
theorem parseEdid_audioTables (monitorID monitorName : List U8)
    : let result := cbEdidModuleParseEdid allocs buffer totalBlocks monitorID monitorName
      AudioTables buffer totalBlocks result.1 result.2.hdAudioFormat := by
  intro result
  have table : result.2.hdAudioFormat
      = cbEdidPatchHdmiAudio result.1.isCea861Audio (modeFormats buffer totalBlocks) :=
    parseEdid_hdAudioFormat allocs buffer totalBlocks monitorID monitorName
  have sads : HoldsSads (attribSads buffer totalBlocks) result.1 :=
    getMonitorAttrib_holdsSads buffer totalBlocks monitorID monitorName
  have fits := length_modeFormats_le buffer totalBlocks
  by_cases has : hasBasicAudio result.1.isCea861Audio (modeFormats buffer totalBlocks)
  · rw [table, patchHdmiAudio_of_hasBasicAudio has]
    exact ⟨sads, fits, List.take_prefix _ _, has, fun _ => rfl⟩
  · obtain ⟨info, lpcm, patched⟩ := patchHdmiAudio_of_not_hasBasicAudio has fits
    rw [table, patched]
    refine ⟨sads, ?_, List.prefix_append _ _, fun _ => ⟨info, by simp, lpcm⟩, (absurd · has)⟩
    rw [List.length_append, List.length_take, List.length_singleton]
    simp only [cbiosHdmiAudioFormatCounts]
    omega

-----------------------------------------------------------------------------------------
-- The data blocks that are visited
-----------------------------------------------------------------------------------------

/-- A data block for the speakers at a place of an extension has the length that
`cbEDIDModule_GetMonitorAttrib` takes it to have, or is the last one by both lengths.
-/
def SpeakerBlockFits (blockIndex i : Nat) : Prop :=
  let block := edidBlock buffer blockIndex i
  let limit := (edidBlock buffer blockIndex 0 2).toNat
  tagCode block = speakerAllocationDataBlockTag
    → payloadLength block = 3 ∨ limit ≤ i + 1 + payloadLength block ∧ limit ≤ i + 1 + 3

end Run

end Cx4Kernel.Cbios
