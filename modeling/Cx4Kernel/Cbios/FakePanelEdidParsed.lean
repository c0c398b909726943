import Cx4Kernel.Cbios.FakePanelEdid

/-! What the parser makes of a faked EDID: every field of the timing but the clock, which is written
in other units than it is read in.
-/

namespace Cx4Kernel.Cbios

open Cx4Kernel.Foundation

-----------------------------------------------------------------------------------------
-- Buffers
-----------------------------------------------------------------------------------------

@[simp]
theorem length_fakePanelBytes (timing : TimingAttrib)
    : (fakePanelBytes ⟨timing, none⟩).length = 128 := by
  simp [fakePanelBytes, cbEdidModuleFakeDetailedTiming]

/-- The last byte makes the sum of the block 0. -/
theorem checksum_storeBytes_last {edid : List U8} (size : edid.length = 128)
    : checksum (storeBytes edid 0x7F [0xFF - checksum (edid.take 127) + 1]) = 0 := by
  have closes : ∀ sum : U8, sum + (0xFF - sum + 1) = 0 := by decide
  have split : storeBytes edid 0x7F [0xFF - checksum (edid.take 127) + 1]
      = edid.take 127 ++ [0xFF - checksum (edid.take 127) + 1] := by
    apply List.ext_getElem
    · simp [size]
    · intro i inside _
      rw [length_storeBytes, size] at inside
      rw [List.getElem_append]
      simp only [storeBytes, List.getElem_mapIdx, List.length_take, size, List.getElem_take]
      by_cases before : i < 127
      · simp [before, Nat.not_le.mpr before]
      · have last : i = 127 := by omega
        simp [last]
  rw [split, checksum, List.foldl_append]
  exact closes _

/-- The EDID that is faked for a panel with this timing. -/
def fakedEdid (timing : TimingAttrib) : List U8 :=
  let edid := fakePanelBytes ⟨timing, none⟩
  storeBytes edid 0x7F [0xFF - checksum (edid.take 127) + 1]

theorem fake_eq (timing : TimingAttrib)
    : cbEdidModuleFakePanelEdid ⟨timing, none⟩ 128 = some (fakedEdid timing) := by
  rw [cbEdidModuleFakePanelEdid, if_neg (by decide), fakedEdid]

@[simp]
theorem length_fakedEdid (timing : TimingAttrib) : (fakedEdid timing).length = 128 := by
  simp [fakedEdid]

theorem fakedEdid_header (timing : TimingAttrib) {i : Nat} (inside : i < 8)
    : (fakedEdid timing).getD i 0 = edid1header.getD i 0 := by
  rw [fakedEdid]
  interval_cases i
  all_goals
    simp [fakePanelBytes, cbEdidModuleFakeDetailedTiming, getD_storeBytes, edid1header,
      -List.getD_eq_getElem?_getD]

theorem fakedEdid_isValid (timing : TimingAttrib)
    : cbEdidModuleIsEdidValid (fakedEdid timing) = true := by
  have header : (fakedEdid timing).take 8 = edid1header := by
    apply List.ext_getElem
    · simp [edid1header]
    · intro i below inside
      have byte := fakedEdid_header timing inside
      have first : i < (fakedEdid timing).length := by
        rw [length_fakedEdid]
        exact Nat.lt_trans inside (by decide)
      rw [List.getD_eq_getElem _ _ first, List.getD_eq_getElem _ _ inside] at byte
      rw [List.getElem_take, byte]
  have whole : (fakedEdid timing).take 128 = fakedEdid timing :=
    List.take_of_length_le (by simp)
  have sum : checksum (fakedEdid timing) = 0 := checksum_storeBytes_last (length_fakePanelBytes timing)
  simp only [cbEdidModuleIsEdidValid, cbEdidModuleIsEdidHeaderValid, cbIsEdidChecksumValid,
    Bool.and_eq_true, decide_eq_true_eq, length_fakedEdid]
  refine ⟨header, ⟨by decide, rfl⟩, ?_⟩
  rw [List.all_eq_true]
  intro k inside
  have first : k = 0 := by
    rw [List.mem_range] at inside
    exact Nat.lt_one_iff.mp inside
  rw [first]
  exact decide_eq_true (whole.symm ▸ sum)

/-- The bytes of the first descriptor. -/
theorem fakedEdid_descriptor (timing : TimingAttrib)
    : let data := firstDescriptor (fakedEdid timing)
      let hor := fakeHor timing
      let ver := fakeVer timing
      data 0 = timing.pixelClock.setWidth 8 ∧ data 1 = (timing.pixelClock >>> 8).setWidth 8
      ∧ data 2 = (hor.res &&& 0xFF).setWidth 8 ∧ data 3 = (hor.blank &&& 0xFF).setWidth 8
      ∧ data 4 = highNibbles hor.res hor.blank
      ∧ data 5 = (ver.res &&& 0xFF).setWidth 8 ∧ data 6 = (ver.blank &&& 0xFF).setWidth 8
      ∧ data 7 = highNibbles ver.res ver.blank
      ∧ data 8 = (hor.syncOffset &&& 0xFF).setWidth 8
      ∧ data 9 = (hor.syncWidth &&& 0xFF).setWidth 8
      ∧ data 10 = ((ver.syncOffset &&& 0x0F) <<< 4 ||| (ver.syncWidth &&& 0x0F)).setWidth 8
      ∧ data 11 = highSyncBits hor ver
      ∧ data 17 = 0x18 ||| (if timing.hvPolarity &&& horNegative = 0 then 0x2 else 0)
        ||| (if timing.hvPolarity &&& verNegative = 0 then 0x4 else 0) := by
  simp [firstDescriptor, fakedEdid, fakePanelBytes, cbEdidModuleFakeDetailedTiming, getD_storeBytes,
    -List.getD_eq_getElem?_getD, List.getD_cons_zero, List.getD_cons_succ]

-----------------------------------------------------------------------------------------
-- Fields
-----------------------------------------------------------------------------------------

theorem get_lowByte (value : U16)
    : BitField.get ⟨0, 8⟩ ((value &&& 0xFF).setWidth 8 : U8) = BitField.get ⟨0, 8⟩ value := by
  apply BitField.get_congr
  intro i below
  interval_cases i <;> simp

theorem get_highNibbles (high low : U16)
    : BitField.get ⟨4, 4⟩ (highNibbles high low) = BitField.get ⟨8, 4⟩ high
      ∧ BitField.get ⟨0, 4⟩ (highNibbles high low) = BitField.get ⟨8, 4⟩ low := by
  constructor
  all_goals
    apply BitField.get_congr
    intro i below
    interval_cases i <;> simp [highNibbles]

theorem get_highSyncBits (hor ver : Axis)
    : BitField.get ⟨6, 2⟩ (highSyncBits hor ver) = BitField.get ⟨8, 2⟩ hor.syncOffset
      ∧ BitField.get ⟨4, 2⟩ (highSyncBits hor ver) = BitField.get ⟨8, 2⟩ hor.syncWidth
      ∧ BitField.get ⟨2, 2⟩ (highSyncBits hor ver) = BitField.get ⟨4, 2⟩ ver.syncOffset
      ∧ BitField.get ⟨0, 2⟩ (highSyncBits hor ver) = BitField.get ⟨4, 2⟩ ver.syncWidth := by
  refine ⟨?_, ?_, ?_, ?_⟩
  all_goals
    apply BitField.get_congr
    intro i below
    interval_cases i <;> simp [highSyncBits]

theorem get_verSyncByte (offset width : U16)
    : BitField.get ⟨4, 4⟩ (((offset &&& 0x0F) <<< 4 ||| (width &&& 0x0F)).setWidth 8 : U8)
        = BitField.get ⟨0, 4⟩ offset
      ∧ BitField.get ⟨0, 4⟩ (((offset &&& 0x0F) <<< 4 ||| (width &&& 0x0F)).setWidth 8 : U8)
        = BitField.get ⟨0, 4⟩ width := by
  constructor
  all_goals
    apply BitField.get_congr
    intro i below
    interval_cases i <;> simp

/-- A field of a descriptor is read back where its two parts are parts of the value. -/
theorem mapMaskU16_eq (data : Nat → U8) {low high : Nat} {lowMask highMask : U8} {value : U16}
    (lowField highField : BitField)
    (lowBits : maskBits lowMask = List.range' lowField.offset lowField.width)
    (highBits : maskBits highMask = List.range' highField.offset highField.width)
    (room : lowField.width + highField.width ≤ 16)
    (lowPart : lowField.get (data low) = BitField.get ⟨0, lowField.width⟩ value)
    (highPart : highField.get (data high)
      = BitField.get ⟨lowField.width, highField.width⟩ value)
    (fits : value.toNat < 2 ^ (lowField.width + highField.width))
    : mapMaskU16 data [(low, lowMask), (high, highMask)] = value := by
  have parts := BitField.get_append value 0 lowField.width highField.width
  rw [Nat.zero_add] at parts
  apply BitVec.eq_of_toNat_eq
  rw [toNat_mapMaskU16_pair data lowField highField lowBits highBits room, lowPart, highPart,
    parts, BitField.get_low fits]

/-- The values of one direction have room in the fields. -/
structure Axis.Fits (axis : Axis) (offsetBits widthBits : Nat) : Prop where
  res : axis.res.toNat < 2 ^ 12
  blank : axis.blank.toNat < 2 ^ 12
  syncOffset : axis.syncOffset.toNat < 2 ^ offsetBits
  syncWidth : axis.syncWidth.toNat < 2 ^ widthBits

theorem dtlHor_fake {timing : TimingAttrib} (fits : (fakeHor timing).Fits 10 10)
    : dtlHor (firstDescriptor (fakedEdid timing)) = fakeHor timing := by
  obtain ⟨-, -, b2, b3, b4, -, -, -, b8, b9, -, b11, -⟩ := fakedEdid_descriptor timing
  obtain ⟨high, low⟩ := get_highNibbles (fakeHor timing).res (fakeHor timing).blank
  obtain ⟨offset, width, -, -⟩ := get_highSyncBits (fakeHor timing) (fakeVer timing)
  rw [dtlHor, edidHorizontalActive, edidHorizontalBlanking, edidHorizontalSyncOffset,
    edidHorizontalSyncPulseWidth,
    mapMaskU16_eq _ ⟨0, 8⟩ ⟨4, 4⟩ (by decide) (by decide) (by decide)
      (by rw [b2]; exact get_lowByte _) (by rw [b4]; exact high) fits.res,
    mapMaskU16_eq _ ⟨0, 8⟩ ⟨0, 4⟩ (by decide) (by decide) (by decide)
      (by rw [b3]; exact get_lowByte _) (by rw [b4]; exact low) fits.blank,
    mapMaskU16_eq _ ⟨0, 8⟩ ⟨6, 2⟩ (by decide) (by decide) (by decide)
      (by rw [b8]; exact get_lowByte _) (by rw [b11]; exact offset) fits.syncOffset,
    mapMaskU16_eq _ ⟨0, 8⟩ ⟨4, 2⟩ (by decide) (by decide) (by decide)
      (by rw [b9]; exact get_lowByte _) (by rw [b11]; exact width) fits.syncWidth]

/-- The byte of the polarities says that the timing is progressive. -/
theorem dtlPolarity_fake {timing : TimingAttrib}
    (polarity : timing.hvPolarity ∈ [0, horNegative, verNegative, horNegative ||| verNegative])
    : dtlInterlaced (firstDescriptor (fakedEdid timing)) = false
      ∧ dtlPolarity (firstDescriptor (fakedEdid timing)) = timing.hvPolarity := by
  obtain ⟨-, -, -, -, -, -, -, -, -, -, -, -, b17⟩ := fakedEdid_descriptor timing
  rw [dtlInterlaced, dtlPolarity, b17]
  simp only [List.mem_cons, List.not_mem_nil, or_false] at polarity
  obtain h | h | h | h := polarity
  all_goals
    rw [h]
    decide

theorem dtlVer_fake {timing : TimingAttrib} (fits : (fakeVer timing).Fits 6 6)
    (polarity : timing.hvPolarity ∈ [0, horNegative, verNegative, horNegative ||| verNegative])
    : dtlVer (firstDescriptor (fakedEdid timing)) = fakeVer timing := by
  obtain ⟨-, -, -, -, -, b5, b6, b7, -, -, b10, b11, -⟩ := fakedEdid_descriptor timing
  obtain ⟨high, low⟩ := get_highNibbles (fakeVer timing).res (fakeVer timing).blank
  obtain ⟨-, -, offset, width⟩ := get_highSyncBits (fakeHor timing) (fakeVer timing)
  obtain ⟨lowOffset, lowWidth⟩ :=
    get_verSyncByte (fakeVer timing).syncOffset (fakeVer timing).syncWidth
  rw [dtlVer, (dtlPolarity_fake polarity).1, if_neg Bool.false_ne_true]
  rw [edidVerticalActive, edidVerticalBlanking, edidVerticalSyncOffset,
    edidVerticalSyncPulseWidth,
    mapMaskU16_eq _ ⟨0, 8⟩ ⟨4, 4⟩ (by decide) (by decide) (by decide)
      (by rw [b5]; exact get_lowByte _) (by rw [b7]; exact high) fits.res,
    mapMaskU16_eq _ ⟨0, 8⟩ ⟨0, 4⟩ (by decide) (by decide) (by decide)
      (by rw [b6]; exact get_lowByte _) (by rw [b7]; exact low) fits.blank,
    mapMaskU16_eq _ ⟨4, 4⟩ ⟨2, 2⟩ (by decide) (by decide) (by decide)
      (by rw [b10]; exact lowOffset) (by rw [b11]; exact offset) fits.syncOffset,
    mapMaskU16_eq _ ⟨0, 4⟩ ⟨0, 2⟩ (by decide) (by decide) (by decide)
      (by rw [b10]; exact lowWidth) (by rw [b11]; exact width) fits.syncWidth]

-----------------------------------------------------------------------------------------
-- The timing
-----------------------------------------------------------------------------------------

/-- The values that are derived have room where the timing has, and give its positions back. -/
theorem AxisFits.derived {resolution total disEnd bStart bEnd syncStart syncEnd : U16}
    {offsetBits widthBits : Nat}
    (fits : AxisFits resolution total disEnd bStart bEnd syncStart syncEnd offsetBits widthBits)
    : (⟨resolution, bEnd - bStart, syncStart - bStart, syncEnd - syncStart⟩ : Axis).Fits
        offsetBits widthBits
      ∧ resolution + (bEnd - bStart) = total
      ∧ resolution + (syncStart - bStart) = syncStart
      ∧ resolution + (syncStart - bStart) + (syncEnd - syncStart) = syncEnd := by
  obtain ⟨-, rfl, rfl, ⟨blankOrder, syncOrder, widthOrder⟩, active, blanking, offset, width⟩ := fits
  refine ⟨⟨active, ?_, ?_, ?_⟩, ?_, ?_, ?_⟩
  · change (bEnd - bStart).toNat < 2 ^ 12
    rwa [BitVec.toNat_sub_of_le blankOrder]
  · change (syncStart - bStart).toNat < 2 ^ offsetBits
    rwa [BitVec.toNat_sub_of_le syncOrder]
  · change (syncEnd - syncStart).toNat < 2 ^ widthBits
    rwa [BitVec.toNat_sub_of_le widthOrder]
  · rw [BitVec.add_comm, BitVec.sub_add_cancel]
  · rw [BitVec.add_comm, BitVec.sub_add_cancel]
  · rw [BitVec.add_comm bStart, BitVec.sub_add_cancel, BitVec.add_comm, BitVec.sub_add_cancel]

/-- The clock keeps its low 16 bits, and is read in units of 10 kHz. -/
theorem pixelClock_fake (timing : TimingAttrib)
    : (mapMaskRead (firstDescriptor (fakedEdid timing)) edidPixelClock * 100).toNat
      = timing.pixelClock.toNat % 65536 * 100 := by
  obtain ⟨b0, b1, -⟩ := fakedEdid_descriptor timing
  rw [toNat_dtlPixelClock, dtlFields]
  simp only [b0, b1, BitVec.toNat_setWidth, BitVec.toNat_ushiftRight, Nat.shiftRight_eq_div_pow]
  omega

/-- All but the clock is read back. -/
theorem sameGeometry_fake {timing : TimingAttrib} (fits : FitsDescriptor timing)
    {info : DeviceTimingInfo}
    (parsed : cbEdidModuleParseDtlTiming (firstDescriptor (fakedEdid timing)) = some info)
    : SameGeometry info.fullTiming timing
      ∧ info.fullTiming.pixelClock.toNat = timing.pixelClock.toNat % 65536 * 100 := by
  obtain ⟨horFits, horTotal, horSyncStart, horSyncEnd⟩ := fits.hor.derived
  obtain ⟨verFits, verTotal, verSyncStart, verSyncEnd⟩ := fits.ver.derived
  have read := pixelClock_fake timing
  simp only [cbEdidModuleParseDtlTiming, dtlHor_fake horFits, dtlVer_fake verFits fits.polarity,
    (dtlPolarity_fake fits.polarity).2] at parsed
  split at parsed
  · cases parsed
  split at parsed
  · cases parsed
  rw [Option.some.injEq] at parsed
  refine ⟨?_, ?_⟩
  · rw [← parsed]
    exact
      { xRes := rfl
        yRes := rfl
        horTotal := horTotal
        verTotal := verTotal
        horDisEnd := fits.hor.disEnd.symm
        verDisEnd := fits.ver.disEnd.symm
        horBlank := ⟨fits.hor.bStart.symm, horTotal.trans fits.hor.bEnd.symm⟩
        verBlank := ⟨fits.ver.bStart.symm, verTotal.trans fits.ver.bEnd.symm⟩
        horSync := ⟨horSyncStart, horSyncEnd⟩
        verSync := ⟨verSyncStart, verSyncEnd⟩
        hvPolarity := rfl }
  · rw [← parsed]
    exact read

/-- No clock is its low 16 bits times 100. -/
theorem not_roundTrips (timing : TimingAttrib) : ¬ RoundTrips timing := by
  rintro ⟨edid, info, faked, -, -, parsed, -, clock⟩
  rw [fake_eq, Option.some.injEq] at faked
  rw [← faked] at parsed
  have read := pixelClock_fake timing
  simp only [cbEdidModuleParseDtlTiming] at parsed
  split at parsed
  · cases parsed
  rename_i present
  split at parsed
  · cases parsed
  rw [Option.some.injEq] at parsed
  have same : mapMaskRead (firstDescriptor (fakedEdid timing)) edidPixelClock * 100
      = timing.pixelClock := by
    rw [← clock, ← parsed]
    rfl
  have some := toNat_pos_of_ne_zero present
  rw [same] at read some
  -- 99 times the clock would be a multiple of 2^16.
  omega

/-- Full HD at 60 Hz. -/
def fullHdPanel : TimingAttrib where
  formatVIC := 0
  xRes := 1920
  yRes := 1080
  refreshRate := 6000
  hvPolarity := 0
  pixelClock := 1485000
  horTotal := 2200
  horDisEnd := 1920
  horBStart := 1920
  horBEnd := 2200
  horSyncStart := 2008
  horSyncEnd := 2052
  verTotal := 1125
  verDisEnd := 1080
  verBStart := 1080
  verBEnd := 1125
  verSyncStart := 1084
  verSyncEnd := 1089

theorem fullHdPanel_fits : FitsDescriptor fullHdPanel :=
  { hor := ⟨rfl, rfl, rfl, by decide, by decide, by decide, by decide, by decide⟩
    ver := ⟨rfl, rfl, rfl, by decide, by decide, by decide, by decide, by decide⟩
    polarity := by decide
    pixelClock := ⟨14850, by decide, by decide, by decide⟩ }

end Cx4Kernel.Cbios
