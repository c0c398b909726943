import Cx4Kernel.Cbios.EdidTimingFields

/-! Which timings of the list are the numbers of their descriptors: the totals and the products of
the clock have to fit the integers of the parser.
-/

namespace Cx4Kernel.Cbios

open Cx4Kernel.Foundation

-----------------------------------------------------------------------------------------
-- Refresh rates
-----------------------------------------------------------------------------------------

/-- The clocks of a second over the pixels of a frame, in hundredths of a hertz. -/
def hundredths (clock hTotal vTotal : Nat) : Nat := clock * 10000 / (hTotal * vTotal)

/-- The rate of a frame, rounded to a whole hertz. -/
def wholeRate (clock hTotal vTotal : Nat) : Nat := 100 * ((hundredths clock hTotal vTotal + 50) / 100)

/-- The hundredths that are left when the rate of the lines is cut first. -/
def cutHundredths (clock hTotal vTotal : Nat) : Nat := clock * 100 / hTotal * 100 / vTotal

/-- Cutting the rate of the lines loses at most one hundredth. -/
theorem cutHundredths_bounds {hTotal vTotal : Nat} (clock : Nat) (wide : 0 < hTotal)
    (tall : 100 ≤ vTotal)
    : cutHundredths clock hTotal vTotal ≤ hundredths clock hTotal vTotal
      ∧ hundredths clock hTotal vTotal ≤ cutHundredths clock hTotal vTotal + 1 := by
  have whole := Nat.div_mul_le_self (clock * 100) hTotal
  have rest := (Nat.lt_div_mul_add wide : clock * 100 < clock * 100 / hTotal * hTotal + hTotal)
  have low : clock * 100 / hTotal * 100 ≤ clock * 10000 / hTotal := by
    rw [Nat.le_div_iff_mul_le wide]
    calc
      clock * 100 / hTotal * 100 * hTotal = clock * 100 / hTotal * hTotal * 100 := by ring
      _ ≤ clock * 100 * 100 := Nat.mul_le_mul_right 100 whole
      _ = clock * 10000 := by ring
  have high : clock * 10000 / hTotal < clock * 100 / hTotal * 100 + 100 := by
    rw [Nat.div_lt_iff_lt_mul wide]
    calc
      clock * 10000 = clock * 100 * 100 := by ring
      _ < (clock * 100 / hTotal * hTotal + hTotal) * 100 := by omega
      _ = (clock * 100 / hTotal * 100 + 100) * hTotal := by ring
  unfold hundredths cutHundredths
  rw [← Nat.div_div_eq_div_mul]
  constructor
  · exact Nat.div_le_div_right low
  · calc
      clock * 10000 / hTotal / vTotal ≤ (clock * 100 / hTotal * 100 + vTotal) / vTotal :=
        Nat.div_le_div_right (by omega)
      _ = clock * 100 / hTotal * 100 / vTotal + 1 := Nat.add_div_right _ (by omega)

/-- A product of the clock that wraps loses a whole hertz or more. -/
theorem cutHundredths_wrapped {clock hTotal vTotal : Nat} (wide : 0 < hTotal)
    (tall : 0 < vTotal) (hSmall : hTotal < 65536) (vSmall : vTotal < 65536)
    (wraps : 2 ^ 32 ≤ clock * 100)
    : clock * 100 % 2 ^ 32 / hTotal * 100 / vTotal + 100 ≤ hundredths clock hTotal vTotal := by
  have pixels : hTotal * vTotal ≤ 2 ^ 32 := by
    calc
      hTotal * vTotal ≤ 65536 * 65536 := Nat.mul_le_mul (Nat.le_of_lt hSmall) (Nat.le_of_lt vSmall)
      _ = 2 ^ 32 := by norm_num
  have lost : clock * 100 % 2 ^ 32 + 2 ^ 32 ≤ clock * 100 := by omega
  unfold hundredths
  rw [Nat.le_div_iff_mul_le (Nat.mul_pos wide tall)]
  generalize clock * 100 % 2 ^ 32 = kept at lost
  have frame : kept / hTotal * 100 / vTotal * (hTotal * vTotal) ≤ kept * 100 := by
    calc
      kept / hTotal * 100 / vTotal * (hTotal * vTotal)
        = kept / hTotal * 100 / vTotal * vTotal * hTotal := by ring
      _ ≤ kept / hTotal * 100 * hTotal :=
        Nat.mul_le_mul_right _ (Nat.div_mul_le_self _ _)
      _ = kept / hTotal * hTotal * 100 := by ring
      _ ≤ kept * 100 := Nat.mul_le_mul_right _ (Nat.div_mul_le_self _ _)
  calc
    (kept / hTotal * 100 / vTotal + 100) * (hTotal * vTotal)
      = kept / hTotal * 100 / vTotal * (hTotal * vTotal) + 100 * (hTotal * vTotal) := by ring
    _ ≤ kept * 100 + 100 * 2 ^ 32 := Nat.add_le_add frame (Nat.mul_le_mul_left _ pixels)
    _ ≤ clock * 10000 := by omega

/-- The rate does not wrap at 16 bits, and cutting the rate of the lines does not take it below a
half.
-/
structure RateExact (clock hTotal vTotal : Nat) : Prop where
  product : clock * 100 < 2 ^ 32
  slow : cutHundredths clock hTotal vTotal < 65536
  half : hundredths clock hTotal vTotal % 100 = 50
    → hundredths clock hTotal vTotal * vTotal ≤ clock * 100 / hTotal * 100

/-- The rate is that of the frame exactly under the condition. -/
theorem wholeRate_iff {clock hTotal vTotal : Nat} (wide : 0 < hTotal) (tall : 100 ≤ vTotal)
    (hSmall : hTotal < 65536) (vSmall : vTotal < 65536)
    : 100 * ((clock * 100 % 2 ^ 32 / hTotal * 100 / vTotal % 65536 + 50) / 100)
        = wholeRate clock hTotal vTotal
      ↔ RateExact clock hTotal vTotal := by
  unfold wholeRate
  by_cases product : clock * 100 < 2 ^ 32
  · rw [Nat.mod_eq_of_lt product]
    have bounds := cutHundredths_bounds clock wide tall
    have half : hundredths clock hTotal vTotal ≤ cutHundredths clock hTotal vTotal
        ↔ hundredths clock hTotal vTotal * vTotal ≤ clock * 100 / hTotal * 100 :=
      Nat.le_div_iff_mul_le (by omega)
    change 100 * ((cutHundredths clock hTotal vTotal % 65536 + 50) / 100) = _ ↔ _
    constructor
    · intro same
      exact ⟨product, by omega, fun fifty => half.mp (by omega)⟩
    · intro exact
      have slow := exact.slow
      have kept := fun fifty => half.mpr (exact.half fifty)
      omega
  · have wrapped := cutHundredths_wrapped wide (by omega) hSmall vSmall (Nat.le_of_not_lt product)
    generalize clock * 100 % 2 ^ 32 / hTotal * 100 / vTotal = cut at wrapped
    constructor
    · intro same
      omega
    · intro exact
      exact absurd exact.product product

-----------------------------------------------------------------------------------------
-- Timings over the integers
-----------------------------------------------------------------------------------------

namespace IntTiming

/-- The entry has the numbers of the descriptor. -/
structure Matches (fields : IntTiming) (timing : TimingAttrib) : Prop where
  pixelClock : timing.pixelClock.toNat = fields.pixelClock
  xRes : timing.xRes.toNat = fields.hor.res
  horTotal : timing.horTotal.toNat = fields.hor.res + fields.hor.blank
  horSyncStart : timing.horSyncStart.toNat = fields.hor.res + fields.hor.syncOffset
  horSyncEnd : timing.horSyncEnd.toNat
    = fields.hor.res + fields.hor.syncOffset + fields.hor.syncWidth
  yRes : timing.yRes.toNat = fields.ver.res
  verTotal : timing.verTotal.toNat = fields.ver.res + fields.ver.blank
  verSyncStart : timing.verSyncStart.toNat = fields.ver.res + fields.ver.syncOffset
  verSyncEnd : timing.verSyncEnd.toNat
    = fields.ver.res + fields.ver.syncOffset + fields.ver.syncWidth
  refreshRate : timing.refreshRate.toNat
    = wholeRate fields.pixelClock (fields.hor.res + fields.hor.blank)
        (fields.ver.res + fields.ver.blank)

end IntTiming

/-- The totals and the ends of the syncs fit 16 bits. -/
structure IntAxis.Fits (fields : IntAxis) : Prop where
  total : fields.res + fields.blank < 65536
  sync : fields.res + fields.syncOffset + fields.syncWidth < 65536

/-- The descriptor does not make the parser wrap or cut its rate below a half. -/
structure IntTiming.Exact (fields : IntTiming) : Prop where
  hor : fields.hor.Fits
  ver : fields.ver.Fits
  rate : RateExact fields.pixelClock (fields.hor.res + fields.hor.blank)
    (fields.ver.res + fields.ver.blank)

theorem toNat_cbCalcRefreshRate {pixelClock : U32} {hTotal vTotal : U16}
    (wide : 640 ≤ hTotal.toNat) (tall : 0 < vTotal.toNat)
    : (cbCalcRefreshRate pixelClock hTotal vTotal).toNat
      = pixelClock.toNat * 100 % 2 ^ 32 / hTotal.toNat * 100 / vTotal.toNat % 65536 := by
  have hSome : hTotal ≠ 0 := by
    intro none
    rw [none] at wide
    exact absurd wide (by decide)
  have vSome : vTotal ≠ 0 := by
    intro none
    rw [none] at tall
    exact absurd tall (by decide)
  have hSmall := hTotal.isLt
  have vSmall := vTotal.isLt
  have lines : pixelClock.toNat * 100 % 2 ^ 32 / hTotal.toNat * 100 < 2 ^ 32 := by
    have less : pixelClock.toNat * 100 % 2 ^ 32 / hTotal.toNat
        ≤ pixelClock.toNat * 100 % 2 ^ 32 / 640 := Nat.div_le_div_left wide (by decide)
    omega
  rw [cbCalcRefreshRate, if_neg (by simp only [hSome, vSome, or_self, not_false_eq_true])]
  rw [BitVec.toNat_setWidth, BitVec.toNat_udiv, BitVec.toNat_mul, BitVec.toNat_udiv,
    BitVec.toNat_mul, BitVec.toNat_setWidth, BitVec.toNat_setWidth,
    Nat.mod_eq_of_lt (by omega : hTotal.toNat < 2 ^ 32),
    Nat.mod_eq_of_lt (by omega : vTotal.toNat < 2 ^ 32), show (100 : U32).toNat = 100 from rfl,
    Nat.mod_eq_of_lt lines]

/-- Rounding to the nearest hundred. -/
theorem toNat_roundedRate (rate : U16)
    : ((100 * cbRound (rate.setWidth 32) 100 .nearest).setWidth 16 : U16).toNat
      = 100 * ((rate.toNat + 50) / 100) := by
  have small := rate.isLt
  have wide : (rate.setWidth 32).toNat = rate.toNat := by
    rw [BitVec.toNat_setWidth]
    omega
  have rounded : (cbRound (rate.setWidth 32) 100 .nearest).toNat = (rate.toNat + 50) / 100 := by
    rw [cbRound, if_neg (by decide)]
    simp only [BitVec.le_def, BitVec.toNat_mul, BitVec.toNat_umod, wide]
    change BitVec.toNat (if 100 ≤ rate.toNat % 100 * 2 % 2 ^ 32 then _ else _) = _
    split
    · rw [BitVec.toNat_add, BitVec.toNat_udiv, wide]
      change (rate.toNat / 100 + 1) % 2 ^ 32 = _
      omega
    · rw [BitVec.toNat_udiv, wide]
      change rate.toNat / 100 = _
      omega
  rw [BitVec.toNat_setWidth, BitVec.toNat_mul, rounded, show (100 : U32).toNat = 100 from rfl]
  omega

/-- The sums of one direction are those of the fields exactly when they fit. -/
theorem Axis.CutFrom.sums {axis : Axis} {fields : IntAxis} (cut : axis.CutFrom fields)
    (res : axis.res.toNat = fields.res)
    : ((axis.res + axis.blank).toNat = fields.res + fields.blank
        ↔ fields.res + fields.blank < 65536)
      ∧ (axis.res + axis.syncOffset).toNat = (fields.res + fields.syncOffset) % 65536
      ∧ ((axis.res + axis.syncOffset + axis.syncWidth).toNat
          = fields.res + fields.syncOffset + fields.syncWidth
        ↔ fields.res + fields.syncOffset + fields.syncWidth < 65536) := by
  have blank := cut.blank
  have syncOffset := cut.syncOffset
  have syncWidth := cut.syncWidth
  simp only [BitVec.toNat_add]
  omega

/-- An entry has the numbers of its descriptor exactly under the condition. -/
theorem fillTiming_matches {pixelClock : U32} {hor ver : Axis} {fields : IntTiming}
    (clock : pixelClock.toNat = fields.pixelClock) (horCut : hor.CutFrom fields.hor)
    (verCut : ver.CutFrom fields.ver) (wide : 640 ≤ hor.res.toNat) (tall : 480 ≤ ver.res.toNat)
    (horRes : fields.hor.res ≤ 65536) (verRes : fields.ver.res ≤ 65536) (hvPolarity : U16)
    : fields.Matches (fillTiming pixelClock hor ver hvPolarity) ↔ fields.Exact := by
  have xRes : hor.res.toNat = fields.hor.res := by
    have cut := horCut.res
    omega
  have yRes : ver.res.toNat = fields.ver.res := by
    have cut := verCut.res
    omega
  obtain ⟨hTotal, hStart, hEnd⟩ := horCut.sums xRes
  obtain ⟨vTotal, vStart, vEnd⟩ := verCut.sums yRes
  have rate (h : (hor.res + hor.blank).toNat = fields.hor.res + fields.hor.blank)
      (v : (ver.res + ver.blank).toNat = fields.ver.res + fields.ver.blank)
      : (fillTiming pixelClock hor ver hvPolarity).refreshRate.toNat
          = wholeRate fields.pixelClock (fields.hor.res + fields.hor.blank)
            (fields.ver.res + fields.ver.blank)
        ↔ RateExact fields.pixelClock (fields.hor.res + fields.hor.blank)
          (fields.ver.res + fields.ver.blank) := by
    have hSmall := (hor.res + hor.blank).isLt
    have vSmall := (ver.res + ver.blank).isLt
    rw [fillTiming, toNat_roundedRate, toNat_cbCalcRefreshRate (by omega) (by omega), clock, h, v]
    exact wholeRate_iff (by omega) (by omega) (by omega) (by omega)
  constructor
  · intro same
    have h := hTotal.mp same.horTotal
    have v := vTotal.mp same.verTotal
    exact ⟨⟨h, hEnd.mp same.horSyncEnd⟩, ⟨v, vEnd.mp same.verSyncEnd⟩,
      (rate same.horTotal same.verTotal).mp same.refreshRate⟩
  · intro exact
    have h := hTotal.mpr exact.hor.total
    have v := vTotal.mpr exact.ver.total
    have hSync := exact.hor.sync
    have vSync := exact.ver.sync
    exact
      { pixelClock := clock
        xRes := xRes
        horTotal := h
        horSyncStart := hStart.trans (Nat.mod_eq_of_lt (by omega))
        horSyncEnd := hEnd.mpr hSync
        yRes := yRes
        verTotal := v
        verSyncStart := vStart.trans (Nat.mod_eq_of_lt (by omega))
        verSyncEnd := vEnd.mpr vSync
        refreshRate := (rate h v).mpr exact.rate }

-----------------------------------------------------------------------------------------
-- Entries of the list
-----------------------------------------------------------------------------------------

/-- What a pass can read. -/
inductive Descriptor where
  | dtl (data : Nat → U8)
  | did (type7 : Bool) (blockRevision : U8) (data : Nat → U8)

namespace Descriptor

def fields : Descriptor → IntTiming
  | .dtl data => dtlFields data
  | .did type7 _ data => didFields type7 data

def parse : Descriptor → Option DeviceTimingInfo
  | .dtl data => cbEdidModuleParseDtlTiming data
  | .did type7 blockRevision data => parseDidTiming data type7 blockRevision

/-- The parser takes the descriptor, its timing is that of the entry, and it is not too small. -/
structure LeadsTo (descriptor : Descriptor) (entry : DeviceTimingInfo) : Prop where
  parsed : descriptor.parse.map DeviceTimingInfo.fullTiming = some entry.fullTiming
  fast : cbiosMinPixelClk ≤ entry.fullTiming.pixelClock
  wide : cbiosMinTimingX ≤ entry.fullTiming.xRes
  tall : cbiosMinTimingY ≤ entry.fullTiming.yRes

/-- An entry has the numbers of the descriptor that leads to it exactly under the condition. -/
theorem LeadsTo.matches {descriptor : Descriptor} {entry : DeviceTimingInfo}
    (leads : descriptor.LeadsTo entry)
    : descriptor.fields.Matches entry.fullTiming ↔ descriptor.fields.Exact := by
  obtain ⟨mapped, -, wide, tall⟩ := leads
  obtain ⟨timing, parsed, same⟩ := Option.map_eq_some_iff.mp mapped
  rw [← same] at wide tall ⊢
  cases descriptor with
  | dtl data =>
    simp only [parse, cbEdidModuleParseDtlTiming] at parsed
    split at parsed
    · cases parsed
    · split at parsed
      · cases parsed
      · obtain rfl := Option.some.inj parsed
        have horRes := toNat_dtlHor data
        have verRes := toNat_dtlVer data
        have horSmall := (dtlHor data).res.isLt
        have verSmall := (dtlVer data).res.isLt
        refine fillTiming_matches (toNat_dtlPixelClock data) (dtlHor_cut data) (dtlVer_cut data)
          wide tall ?_ ?_ _
        · omega
        · omega
  | did type7 blockRevision data =>
    simp only [parse, parseDidTiming] at parsed
    split at parsed
    · cases parsed
    · obtain rfl := Option.some.inj parsed
      have b4 := (data 4).isLt
      have b5 := (data 5).isLt
      have b12 := (data 12).isLt
      have b13 := (data 13).isLt
      refine fillTiming_matches (toNat_didPixelClock data type7) (didHor_cut data type7)
        (didVer_cut data type7) wide tall ?_ ?_ _
      · change (data 4).toNat + 256 * (data 5).toNat + 1 ≤ 65536
        omega
      · change (data 12).toNat + 256 * (data 13).toNat + 1 ≤ 65536
        omega

end Descriptor

/-- Adding a timing adds that one at most. -/
theorem EdidStructureData.mem_addDeviceTiming {alloc : Bool} {timing entry : DeviceTimingInfo}
    {edid : EdidStructureData} (member : entry ∈ (edid.addDeviceTiming alloc timing).timings)
    : entry ∈ edid.timings ∨ entry = timing := by
  unfold addDeviceTiming at member
  extract_lets opened grown at member
  have start : ∀ old ∈ opened.timings, old ∈ edid.timings := by
    intro old inside
    simp only [opened] at inside
    split at inside
    · exact inside
    · cases inside
  have same : grown.timings = opened.timings := by
    simp only [grown]
    split <;> rfl
  split at member
  · rcases List.mem_append.mp member with old | new
    · exact .inl (start entry (same ▸ old))
    · exact .inr (List.mem_singleton.mp new)
  · exact .inl (start entry (same ▸ member))

/-- A timing that passes the check leads to its entries, whatever their flags are. -/
theorem Descriptor.leadsTo_of_validate {descriptor : Descriptor} {timing checked : DeviceTimingInfo}
    {edid : EdidStructureData} (parsed : descriptor.parse = some timing)
    (same : checked.fullTiming = timing.fullTiming)
    (valid : cbEdidModuleValidateTiming edid checked = true) {entry : DeviceTimingInfo}
    (isEntry : entry.fullTiming = checked.fullTiming)
    : descriptor.LeadsTo entry := by
  unfold cbEdidModuleValidateTiming at valid
  split at valid
  · cases valid
  · rename_i large
    rw [← isEntry] at large
    simp only [not_or, BitVec.not_lt] at large
    refine ⟨?_, large.1, large.2.1, large.2.2⟩
    rw [parsed, Option.map_some, isEntry, same]

/-- A pass over the descriptors of a block. -/
inductive TimingPass where
  | detailed (edid : Nat → U8)
  | ceaDetailed (block : Nat → U8) (dtlOffset : U8)
  | displayId (block : Nat → U8)

namespace TimingPass

/-- The pass, where `alloc` tells which allocations succeed. -/
def run (alloc : Nat → Bool) : TimingPass → EdidStructureData → EdidStructureData
  | .detailed edid => cbEdidModuleGetDetailedMode edid alloc
  | .ceaDetailed block dtlOffset => cbEdidModuleGetCeaDetailedMode block dtlOffset alloc
  | .displayId block => cbEdidModuleGetDisplayIdTiming block alloc

/-- The descriptors that a pass reads. -/
def Reads : TimingPass → Descriptor → Prop
  | .detailed edid, descriptor =>
      ∃ i < 4, descriptor = .dtl (fun k => edid (0x36 + 18 * i + k))
  | .ceaDetailed block _, descriptor =>
      ∃ i, i + 18 < 128 ∧ descriptor = .dtl (fun k => block (i + k))
  | .displayId block, descriptor =>
      ∃ i < (block 2).toNat / didDescriptorLen block,
        descriptor = .did (didType7 block) (block 1 &&& 7) (didDescriptor block i)

end TimingPass

/-- Every entry after the step is an old one, or a descriptor leads to it. -/
def Extends (reads : Descriptor → Prop) (before after : EdidStructureData) : Prop :=
  ∀ entry ∈ after.timings, entry ∈ before.timings
    ∨ ∃ descriptor, reads descriptor ∧ descriptor.LeadsTo entry

theorem Extends.refl (reads : Descriptor → Prop) (edid : EdidStructureData)
    : Extends reads edid edid :=
  fun _ member => .inl member

theorem Extends.trans {reads : Descriptor → Prop} {before middle after : EdidStructureData}
    (first : Extends reads before middle) (second : Extends reads middle after)
    : Extends reads before after := by
  intro entry member
  rcases second entry member with old | new
  · exact first entry old
  · exact .inr new

theorem Extends.mono {less more : Descriptor → Prop} {before after : EdidStructureData}
    (step : Extends less before after) (grow : ∀ descriptor, less descriptor → more descriptor)
    : Extends more before after := by
  intro entry member
  rcases step entry member with old | ⟨descriptor, read, leads⟩
  · exact .inl old
  · exact .inr ⟨descriptor, grow descriptor read, leads⟩

/-- A fold of steps that each extend the list extends it. -/
theorem Extends.foldl {Item : Type} {reads : Descriptor → Prop}
    {step : EdidStructureData → Item → EdidStructureData} {positions : List Item}
    (each : ∀ i ∈ positions, ∀ edid, Extends reads edid (step edid i)) (edid : EdidStructureData)
    : Extends reads edid (positions.foldl step edid) := by
  induction positions generalizing edid with
  | nil => exact .refl reads edid
  | cons i rest ih =>
    exact (each i List.mem_cons_self edid).trans
      (ih (fun j later => each j (List.mem_cons_of_mem i later)) (step edid i))

/-- A step that checks and adds a timing of the descriptor extends the list. -/
theorem extends_add {reads : Descriptor → Prop} {descriptor : Descriptor} (read : reads descriptor)
    {timing checked added : DeviceTimingInfo} (parsed : descriptor.parse = some timing)
    (same : checked.fullTiming = timing.fullTiming) (isAdded : added.fullTiming = checked.fullTiming)
    {edid : EdidStructureData} (alloc : Bool) (valid : cbEdidModuleValidateTiming edid checked = true)
    : Extends reads edid (edid.addDeviceTiming alloc added) := by
  intro entry member
  rcases EdidStructureData.mem_addDeviceTiming member with old | rfl
  · exact .inl old
  · exact .inr ⟨descriptor, read, Descriptor.leadsTo_of_validate parsed same valid isAdded⟩

/-- Taking a native format changes neither the list nor the timing. -/
theorem markNative_same {edid marked : EdidStructureData} {timing checked : DeviceTimingInfo}
    (mark : markNative edid timing = (marked, checked))
    : marked.timings = edid.timings ∧ checked.fullTiming = timing.fullTiming := by
  unfold markNative at mark
  split at mark <;> cases mark <;> exact ⟨rfl, rfl⟩

theorem Extends.of_same {reads : Descriptor → Prop} {before after : EdidStructureData}
    (same : after.timings = before.timings)
    : Extends reads before after :=
  fun _ member => .inl (same ▸ member)

theorem extends_detailedModeStep (edid : Nat → U8) (alloc : Nat → Bool) {i : Nat} (inside : i < 4)
    (before : EdidStructureData)
    : Extends (TimingPass.detailed edid).Reads before (detailedModeStep edid alloc before i) := by
  unfold detailedModeStep
  cases parsed : cbEdidModuleParseDtlTiming (fun k => edid (0x36 + 18 * i + k)) with
  | none => exact .refl _ before
  | some timing =>
    rcases mark : markNative before { timing with timingType := .dtl } with ⟨marked, checked⟩
    obtain ⟨sameList, sameTiming⟩ := markNative_same mark
    simp only [mark]
    refine Extends.trans (.of_same sameList) ?_
    have read : (TimingPass.detailed edid).Reads (.dtl (fun k => edid (0x36 + 18 * i + k))) :=
      ⟨i, inside, rfl⟩
    split
    · rename_i valid
      refine extends_add read parsed sameTiming ?_ (alloc i) valid
      split <;> rfl
    · exact .refl _ marked

theorem extends_ceaDetailedModes (block : Nat → U8) (dtlOffset : U8) (alloc : Nat → Bool)
    (count i : Nat) (before : EdidStructureData)
    : Extends (TimingPass.ceaDetailed block dtlOffset).Reads before
        (ceaDetailedModes block alloc count i before) := by
  induction count generalizing i before with
  | zero => exact .refl _ before
  | succ count ih =>
    unfold ceaDetailedModes
    split
    · rename_i inside
      cases parsed : cbEdidModuleParseDtlTiming (fun k => block (i + k)) with
      | none => exact .refl _ before
      | some timing =>
        rcases mark : markNative before { timing with timingType := .dtd } with ⟨marked, checked⟩
        obtain ⟨sameList, sameTiming⟩ := markNative_same mark
        simp only [mark]
        refine Extends.trans (.of_same sameList) (Extends.trans ?_ (ih (i + 18) _))
        have read : (TimingPass.ceaDetailed block dtlOffset).Reads (.dtl (fun k => block (i + k))) :=
          ⟨i, inside, rfl⟩
        split
        · rename_i valid
          exact extends_add read parsed sameTiming rfl (alloc i) valid
        · exact .refl _ marked
    · exact .refl _ before

theorem extends_displayIdTimingStep (block : Nat → U8) (alloc : Nat → Bool) {i : Nat}
    (inside : i < (block 2).toNat / didDescriptorLen block) (before : EdidStructureData)
    : Extends (TimingPass.displayId block).Reads before
        (displayIdTimingStep block alloc before i) := by
  unfold displayIdTimingStep
  cases parsed : parseDidTiming (didDescriptor block i) (didType7 block) (block 1 &&& 7) with
  | none => exact .refl _ before
  | some timing =>
    have read : (TimingPass.displayId block).Reads
        (.did (didType7 block) (block 1 &&& 7) (didDescriptor block i)) := ⟨i, inside, rfl⟩
    dsimp only
    split
    · rename_i valid
      exact extends_add read parsed rfl rfl (alloc i) valid
    · exact .refl _ before

/-- A pass adds entries of its own descriptors only. -/
theorem extends_run (pass : TimingPass) (alloc : Nat → Bool) (before : EdidStructureData)
    : Extends pass.Reads before (pass.run alloc before) := by
  cases pass with
  | detailed edid =>
    refine Extends.foldl (fun i member before => ?_) before
    exact extends_detailedModeStep edid alloc (List.mem_range.mp member) before
  | ceaDetailed block dtlOffset =>
    exact extends_ceaDetailedModes block dtlOffset alloc 7 dtlOffset.toNat before
  | displayId block =>
    refine Extends.foldl (fun i member before => ?_) before
    exact extends_displayIdTimingStep block alloc (List.mem_range.mp member) before

-----------------------------------------------------------------------------------------
-- Runs of the parser
-----------------------------------------------------------------------------------------

/-- Passes one after the other, with the allocations of each. -/
def runPasses (passes : List (TimingPass × (Nat → Bool))) (edid : EdidStructureData)
    : EdidStructureData :=
  passes.foldl (fun edid pass => pass.1.run pass.2 edid) edid

/-- After any passes, every new entry has a descriptor that leads to it, and an entry has the
numbers of such a descriptor exactly under the condition.
-/
theorem runPasses_matches (passes : List (TimingPass × (Nat → Bool))) (edid : EdidStructureData)
    {entry : DeviceTimingInfo} (member : entry ∈ (runPasses passes edid).timings)
    : (entry ∈ edid.timings
        ∨ ∃ descriptor, (∃ pass ∈ passes, pass.1.Reads descriptor) ∧ descriptor.LeadsTo entry)
      ∧ ∀ descriptor : Descriptor, descriptor.LeadsTo entry
        → (descriptor.fields.Matches entry.fullTiming ↔ descriptor.fields.Exact) := by
  have grown : Extends (fun descriptor => ∃ pass ∈ passes, pass.1.Reads descriptor) edid
      (runPasses passes edid) := by
    refine Extends.foldl (fun pass inside before => ?_) edid
    exact (extends_run pass.1 pass.2 before).mono (fun descriptor read => ⟨pass, inside, read⟩)
  exact ⟨grown entry member, fun descriptor leads => leads.matches⟩

/-- A base block with one detailed timing descriptor. -/
def blockWith (descriptor : List U8) : Nat → U8 := fun i =>
  if 0x36 ≤ i then descriptor.getD (i - 0x36) 0 else 0

/-- No timings yet. -/
def emptyEdid : EdidStructureData :=
  { monitorID := [], monitorName := [], nativeFormatNum := 0, nativeNumUsed := 0,
    listAllocated := false, timingArraySize := 0, timings := [] }

/-- The pass over such a block, and the descriptor in it. -/
def passesOf (descriptor : List U8) : List (TimingPass × (Nat → Bool)) :=
  [(.detailed (blockWith descriptor), fun _ => true)]

def descriptorOf (descriptor : List U8) : Descriptor :=
  .dtl (fun k => blockWith descriptor (0x36 + k))

/-- 1920x1080 at 60 Hz. -/
def fullHdDescriptor : List U8 :=
  [0x02, 0x3A, 0x80, 0x18, 0x71, 0x38, 0x2D, 0x40, 0x58, 0x2C, 0x45, 0x00, 0x0F, 0x28, 0x21, 0x00,
    0x00, 0x1E]

theorem runPasses_matches_fullHd
    : ∃ entry ∈ (runPasses (passesOf fullHdDescriptor) emptyEdid).timings,
        entry.fullTiming.refreshRate = 6000
        ∧ (descriptorOf fullHdDescriptor).fields.Matches entry.fullTiming := by
  obtain ⟨entry, member, rate, parsed, fast, wide, tall⟩
      : ∃ entry ∈ (runPasses (passesOf fullHdDescriptor) emptyEdid).timings,
        entry.fullTiming.refreshRate = 6000
        ∧ (descriptorOf fullHdDescriptor).parse.map DeviceTimingInfo.fullTiming
          = some entry.fullTiming
        ∧ cbiosMinPixelClk ≤ entry.fullTiming.pixelClock
        ∧ cbiosMinTimingX ≤ entry.fullTiming.xRes ∧ cbiosMinTimingY ≤ entry.fullTiming.yRes := by
    decide +kernel
  have numbers := (runPasses_matches (passesOf fullHdDescriptor) emptyEdid member).2
    (descriptorOf fullHdDescriptor) ⟨parsed, fast, wide, tall⟩
  exact ⟨entry, member, rate, numbers.mpr ⟨⟨by decide, by decide⟩, ⟨by decide, by decide⟩,
    ⟨by decide, by decide, by decide⟩⟩⟩

/-- 720x480 with 800x500 in all at 280 MHz, which is 700 Hz. -/
def fastDescriptor : List U8 :=
  [0x60, 0x6D, 0xD0, 0x50, 0x20, 0xE0, 0x14, 0x10, 0x10, 0x20, 0x35, 0x00, 0x00, 0x00, 0x00, 0x00,
    0x00, 0x1E]

/-- The rate of 700 Hz is cut to 16 bits, and the entry says 45 Hz. -/
theorem runPasses_fast
    : ∃ entry ∈ (runPasses (passesOf fastDescriptor) emptyEdid).timings,
        (descriptorOf fastDescriptor).LeadsTo entry ∧ entry.fullTiming.refreshRate = 4500
        ∧ ¬ (descriptorOf fastDescriptor).fields.Matches entry.fullTiming := by
  obtain ⟨entry, member, rate, parsed, fast, wide, tall⟩
      : ∃ entry ∈ (runPasses (passesOf fastDescriptor) emptyEdid).timings,
        entry.fullTiming.refreshRate = 4500
        ∧ (descriptorOf fastDescriptor).parse.map DeviceTimingInfo.fullTiming
          = some entry.fullTiming
        ∧ cbiosMinPixelClk ≤ entry.fullTiming.pixelClock
        ∧ cbiosMinTimingX ≤ entry.fullTiming.xRes ∧ cbiosMinTimingY ≤ entry.fullTiming.yRes := by
    decide +kernel
  refine ⟨entry, member, ⟨parsed, fast, wide, tall⟩, rate, ?_⟩
  intro numbers
  have same := numbers.refreshRate
  rw [rate] at same
  exact absurd same (by decide)

end Cx4Kernel.Cbios
