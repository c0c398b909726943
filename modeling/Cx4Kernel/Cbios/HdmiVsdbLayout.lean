import Mathlib.Data.List.GetD
import Cx4Kernel.Cbios.HdmiVsdb

/-! What the layout of the HDMI vendor-specific data block places inside its payload, and the
blocks for which `cbEDIDModule_ParseHDMIVSDB` stores that, whatever lies behind them.
-/

namespace Cx4Kernel.Cbios

-----------------------------------------------------------------------------------------
-- The layout
-----------------------------------------------------------------------------------------

/-- A vendor-specific data block with a length that is not too small. -/
structure VendorBlock where
  payload : List U8
  long : 5 ≤ payload.length
  short : payload.length ≤ 31

/-- The bytes from the block on: tag and length, payload, and what lies behind. -/
def VendorBlock.memory (block : VendorBlock) (beyond : Nat → U8) : Nat → U8
  | 0 => BitVec.ofNat 8 (0x60 + block.payload.length)
  | i + 1 => if i < block.payload.length then block.payload.getD i 0 else beyond (i + 1)

section Layout

variable (payload : List U8)

/-- A byte by its number in the layout. Beyond the payload it is 0, which leaves the field of a
byte as it was.
-/
def byteAt (number : Nat) : U8 := payload.getD (number - 1) 0

/-- The 3D entries among the `left` bytes behind the first `start` ones. An entry of which only
the detail lies beyond the payload has no detail.
-/
def layoutFormats : Nat → Nat → List Hdmi3DFormat
  | 0, _ => []
  | 1, start =>
      if start < payload.length then
        [hdmi3DFormat (byteAt payload (start + 1)) (byteAt payload (start + 2))]
      else []
  | left + 2, start =>
      if start < payload.length then
        hdmi3DFormat (byteAt payload (start + 1)) (byteAt payload (start + 2))
          :: if hasDetail (byteAt payload (start + 1)) then layoutFormats left (start + 2)
            else layoutFormats (left + 1) (start + 1)
      else []

/-- The bytes of `3D_Structure_ALL` and `3D_MASK` that `3D_Multi_present` announces. -/
def stereoSize (multiPresent : U8) : Nat :=
  if multiPresent = 1 then 2 else if multiPresent = 2 then 4 else 0

/-- What `3D_Structure_ALL`, `3D_MASK` and the 3D entries hold. -/
def layoutHdmi3D (hdmi3DLen : Nat) (multiPresent : U8) (start : Nat) : Hdmi3D :=
  let size := stereoSize multiPresent
  let hdmi3DForamt := layoutFormats payload (hdmi3DLen - size) (start + size)
  { hdmi3DStructAll :=
      if 2 ≤ size ∧ start + 2 ≤ payload.length then
        word (byteAt payload (start + 1)) (byteAt payload (start + 2))
      else 0,
    hdmi3DMask :=
      if size = 4 ∧ start + 4 ≤ payload.length then
        word (byteAt payload (start + 3)) (byteAt payload (start + 4))
      else 0xFFFF,
    hdmi3DForamt,
    hdmi3DFormatCount := hdmi3DForamt.length }

/-- `HDMI_3D_LEN`. -/
def hdmi3DLenAt (start : Nat) : Nat := (byteAt payload (start + 2) &&& 0x1F).toNat

/-- `HDMI_VIC_LEN`. -/
def hdmiVicLenAt (start : Nat) : Nat := ((byteAt payload (start + 2) >>> 5) &&& 7).toNat

/-- The HDMI VICs among `count` bytes. -/
def layoutVics (count start : Nat) : List U8 :=
  ((payload.drop start).take count).filter isHdmiVic

/-- What the fields that `HDMI_Video_present` announces hold. -/
def layoutHdmiVideo (start : Nat) : HdmiVideo :=
  let hdmi3DPresentFlags := byteAt payload (start + 1)
  let hdmiVic := layoutVics payload (hdmiVicLenAt payload start) (start + 2)
  { hdmi3DPresentFlags,
    hdmi3DLen := hdmi3DLenAt payload start,
    hdmiVicLen := hdmiVic.length,
    hdmiVic,
    stereo := layoutHdmi3D payload (hdmi3DLenAt payload start)
      (hdmi3DMultiPresent hdmi3DPresentFlags) (start + 2 + hdmiVicLenAt payload start) }

/-- Where the interlaced latencies begin. -/
def interlacedStart : Nat := if latencyFieldsPresent (byteAt payload 8) then 10 else 8

/-- Where the video fields begin. -/
def videoStart : Nat :=
  if iLatencyFieldsPresent (byteAt payload 8) then interlacedStart payload + 2
  else interlacedStart payload

/-- What the layout places inside the payload. -/
def layout : HdmiVsdbExtention where
  vsdbLength := payload.length
  vsdbTag := vendorSpecificDataBlockTag
  registrationIdByte0 := byteAt payload 1
  registrationIdByte1 := byteAt payload 2
  registrationIdByte2 := byteAt payload 3
  sourcePhyAddr := word (byteAt payload 4) (byteAt payload 5)
  supportCaps := byteAt payload 6
  maxTmdsClock := (byteAt payload 7).setWidth 16 * 5
  presentFlags := byteAt payload 8
  latency :=
    if latencyFieldsPresent (byteAt payload 8) then latencyAt (byteAt payload) 8 else {}
  interlacedLatency :=
    if iLatencyFieldsPresent (byteAt payload 8) then
      latencyAt (byteAt payload) (interlacedStart payload)
    else {}
  hdmiVideo :=
    if hdmiVideoPresent (byteAt payload 8) then layoutHdmiVideo payload (videoStart payload)
    else {}

-----------------------------------------------------------------------------------------
-- Whole blocks
-----------------------------------------------------------------------------------------

/-- No detail and no entry that `HDMI_3D_LEN` announces is beyond the payload. -/
def FormatsWhole : Nat → Nat → Prop
  | 0, _ => True
  | 1, start =>
      start < payload.length
      ∧ (hasDetail (byteAt payload (start + 1)) → start + 2 ≤ payload.length)
  | left + 2, start =>
      (start < payload.length
        ∧ (hasDetail (byteAt payload (start + 1)) → start + 2 ≤ payload.length))
      ∧ if hasDetail (byteAt payload (start + 1)) then FormatsWhole left (start + 2)
        else FormatsWhole (left + 1) (start + 1)

/-- The payload does not end inside `3D_Structure_ALL` and `3D_MASK`, nor among the entries. -/
def Hdmi3DWhole (hdmi3DLen : Nat) (multiPresent : U8) (start : Nat) : Prop :=
  let size := stereoSize multiPresent
  start + size ≤ payload.length
  ∧ (start + size < payload.length → FormatsWhole payload (hdmi3DLen - size) (start + size))

/-- If the byte of the lengths is there, so are the HDMI VICs that it announces, and the payload
ends at one of the places that the parser looks at, or behind all fields.
-/
def VideoWhole (start : Nat) : Prop :=
  let vicsEnd := start + 2 + hdmiVicLenAt payload start
  start + 2 ≤ payload.length
  → vicsEnd ≤ payload.length
    ∧ (vicsEnd < payload.length
      → Hdmi3DWhole payload (hdmi3DLenAt payload start)
        (hdmi3DMultiPresent (byteAt payload (start + 1))) vicsEnd)

/-- No group of bytes that begins inside the payload ends beyond it. -/
structure Whole : Prop where
  latency : latencyFieldsPresent (byteAt payload 8) → payload.length ≠ 9
  interlaced
    : iLatencyFieldsPresent (byteAt payload 8)
      → payload.length ≠ interlacedStart payload + 1
  video : hdmiVideoPresent (byteAt payload 8) → VideoWhole payload (videoStart payload)

end Layout

-----------------------------------------------------------------------------------------
-- Bytes
-----------------------------------------------------------------------------------------

theorem VendorBlock.memory_inside (block : VendorBlock) (beyond : Nat → U8) {i : Nat}
    (inside : i < block.payload.length)
    : block.memory beyond (i + 1) = byteAt block.payload (i + 1) :=
  if_pos inside

theorem VendorBlock.memory_beyond (block : VendorBlock) (beyond : Nat → U8) {i : Nat}
    (outside : block.payload.length ≤ i)
    : block.memory beyond (i + 1) = beyond (i + 1) :=
  if_neg (Nat.not_lt.mpr outside)

theorem byteAt_beyond (payload : List U8) {i : Nat} (outside : payload.length ≤ i)
    : byteAt payload (i + 1) = 0 :=
  List.getD_eq_default payload 0 outside

/-- The first byte holds the tag and the length. -/
theorem VendorBlock.header (block : VendorBlock) (beyond : Nat → U8)
    : block.memory beyond 0 >>> 5 = vendorSpecificDataBlockTag
      ∧ (block.memory beyond 0 &&& 0x1F).toNat = block.payload.length := by
  have all : ∀ length : Fin 32, BitVec.ofNat 8 (0x60 + length) >>> 5 = (3 : U8)
      ∧ (BitVec.ofNat 8 (0x60 + length) &&& 0x1F).toNat = length := by
    decide
  exact all ⟨block.payload.length, Nat.lt_succ_of_le block.short⟩

-----------------------------------------------------------------------------------------
-- 3D entries
-----------------------------------------------------------------------------------------

/-- Entries of which nothing is inside are not there. -/
theorem layoutFormats_beyond (payload : List U8) (left : Nat) {start : Nat}
    (outside : payload.length ≤ start)
    : layoutFormats payload left start = [] := by
  match left with
  | 0 => rfl
  | 1 | _ + 2 => exact if_neg (Nat.not_lt.mpr outside)

/-- An entry depends on what lies behind the payload exactly if it has a detail there. -/
theorem hdmi3DFormat_iff (block : VendorBlock) {start : Nat}
    (inside : start < block.payload.length)
    : (∀ beyond,
        hdmi3DFormat (block.memory beyond (start + 1)) (block.memory beyond (start + 2))
        = hdmi3DFormat (byteAt block.payload (start + 1)) (byteAt block.payload (start + 2)))
      ↔ (hasDetail (byteAt block.payload (start + 1)) → start + 2 ≤ block.payload.length) := by
  constructor
  · intro same detail
    by_contra outside
    have next : block.payload.length ≤ start + 1 := by omega
    have entry := congrArg Hdmi3DFormat.hdmi3DDetail (same fun _ => 0x10)
    simp [hdmi3DFormat, block.memory_inside _ inside, block.memory_beyond _ next,
      byteAt_beyond _ next, detail] at entry
  · intro whole beyond
    rw [block.memory_inside beyond inside]
    rcases detail : hasDetail (byteAt block.payload (start + 1)) with _ | _
    · simp [hdmi3DFormat, detail]
    · rw [block.memory_inside beyond (whole detail)]

/-- The loop over the 3D entries stores those of the layout, whatever lies behind the payload,
exactly if they are whole; by induction on what is left of them.
-/
theorem hdmi3DFormats_iff (block : VendorBlock) (left start : Nat)
    : (∀ beyond, hdmi3DFormats (block.memory beyond) left (start + 1)
        = layoutFormats block.payload left start)
      ↔ FormatsWhole block.payload left start := by
  induction left using Nat.strong_induction_on generalizing start with
  | h left ih =>
  match left with
  | 0 => simp [hdmi3DFormats, layoutFormats, FormatsWhole]
  | 1 =>
      by_cases inside : start < block.payload.length
      · simpa [hdmi3DFormats, layoutFormats, FormatsWhole, inside]
          using hdmi3DFormat_iff block inside
      · simp [hdmi3DFormats, layoutFormats, FormatsWhole, inside]
  | left + 2 =>
      by_cases inside : start < block.payload.length
      · simp only [hdmi3DFormats, layoutFormats, FormatsWhole, inside, if_true, true_and,
          List.cons.injEq, forall_and, block.memory_inside _ inside]
        refine and_congr ?_ ?_
        · have entry := hdmi3DFormat_iff block inside
          simpa only [block.memory_inside _ inside] using entry
        · split
          · exact ih left (by omega) (start + 2)
          · exact ih (left + 1) (by omega) (start + 1)
      · simp [hdmi3DFormats, layoutFormats, FormatsWhole, inside]

-----------------------------------------------------------------------------------------
-- HDMI VICs
-----------------------------------------------------------------------------------------

/-- The loop over the HDMI VICs stores those of the layout, whatever lies behind the payload,
exactly if their bytes are inside; by induction on the number of bytes.
-/
theorem hdmiVics_iff (block : VendorBlock) (count start : Nat)
    (inside : start ≤ block.payload.length)
    : (∀ beyond, hdmiVics (block.memory beyond) count (start + 1)
        = layoutVics block.payload count start)
      ↔ start + count ≤ block.payload.length := by
  induction count generalizing start with
  | zero => simp [hdmiVics, layoutVics, inside]
  | succ count ih =>
      rcases Nat.lt_or_eq_of_le inside with inside | atEnd
      · have head : block.payload.drop start
            = byteAt block.payload (start + 1) :: block.payload.drop (start + 1) := by
          rw [List.drop_eq_getElem_cons inside]
          exact congrArg (· :: _) (List.getD_eq_getElem _ 0 inside).symm
        have rest := ih (start + 1) inside
        rw [show start + (count + 1) = start + 1 + count by omega, ← rest]
        simp only [hdmiVics, layoutVics, block.memory_inside _ inside, head, List.take_succ_cons,
          List.filter_cons]
        split <;> simp
      · constructor
        · intro same
          have first := same fun _ => 1
          rw [hdmiVics, block.memory_beyond _ (Nat.le_of_eq atEnd.symm), layoutVics,
            List.drop_eq_nil_of_le (Nat.le_of_eq atEnd.symm)] at first
          simp [isHdmiVic, cbiosHdmiExtenedVicCounts] at first
        · omega

/-- Beyond the payload there is no HDMI VIC. -/
theorem layoutVics_beyond (payload : List U8) (count : Nat) {start : Nat}
    (outside : payload.length ≤ start)
    : layoutVics payload count start = [] := by
  rw [layoutVics, List.drop_eq_nil_of_le outside, List.take_nil, List.filter_nil]

-----------------------------------------------------------------------------------------
-- 3D fields
-----------------------------------------------------------------------------------------

/-- `HDMI3DFormatLength` is above `HDMI3DLen` exactly if the subtraction is below 0. -/
theorem hdmi3DFormatLength_toNat {hdmi3DLen size : Nat} (small : hdmi3DLen ≤ 31)
    (few : size ≤ 4)
    : (BitVec.ofNat 32 hdmi3DLen - BitVec.ofNat 32 size).toNat
      = if size ≤ hdmi3DLen then hdmi3DLen - size else 2 ^ 32 + hdmi3DLen - size := by
  rw [BitVec.toNat_sub, BitVec.toNat_ofNat, BitVec.toNat_ofNat]
  split <;> omega

/-- Behind `3D_Structure_ALL` and `3D_MASK` only the entries can be cut. -/
theorem parseHdmi3DFormats_iff (block : VendorBlock) {hdmi3DLen size : Nat}
    (small : hdmi3DLen ≤ 31) (few : size ≤ 4) (hdmi3DStructAll hdmi3DMask : BitVec 16)
    (start : Nat)
    : (∀ beyond, parseHdmi3DFormats (block.memory beyond) hdmi3DLen
          (BitVec.ofNat 32 hdmi3DLen - BitVec.ofNat 32 size)
          { hdmi3DStructAll, hdmi3DMask } start
        = { hdmi3DStructAll, hdmi3DMask,
            hdmi3DForamt := layoutFormats block.payload (hdmi3DLen - size) start,
            hdmi3DFormatCount := (layoutFormats block.payload (hdmi3DLen - size) start).length })
      ↔ FormatsWhole block.payload (hdmi3DLen - size) start := by
  simp only [parseHdmi3DFormats, hdmi3DFormatLength_toNat small few]
  by_cases enough : size ≤ hdmi3DLen
  · have noError : ¬ hdmi3DLen < hdmi3DLen - size := by omega
    simp only [if_pos enough, if_neg noError, ← hdmi3DFormats_iff]
    constructor
    · intro same beyond
      exact congrArg Hdmi3D.hdmi3DForamt (same beyond)
    · intro same beyond
      rw [same beyond]
  · have error : hdmi3DLen < 2 ^ 32 + hdmi3DLen - size := by omega
    have none : hdmi3DLen - size = 0 := by omega
    simp only [if_neg enough, if_pos error, none, layoutFormats, FormatsWhole, List.length_nil,
      implies_true]

/-- The second byte of a word. -/
theorem word_low (dataHigh dataLow : U8) : (word dataHigh dataLow).setWidth 8 = dataLow :=
  BitVec.setWidth_append_eq_right

theorem stereoSize_cases (multiPresent : U8)
    : stereoSize multiPresent = 0 ∨ stereoSize multiPresent = 2 ∨ stereoSize multiPresent = 4 := by
  unfold stereoSize
  split
  · exact .inr (.inl rfl)
  · split
    · exact .inr (.inr rfl)
    · exact .inl rfl

/-- `HDMI3DStructAll` and `HDMI3DMask` from bytes that may lie anywhere. -/
def stereoAt (data : Nat → U8) (size start : Nat) : Hdmi3D where
  hdmi3DStructAll := if 2 ≤ size then word (data (start + 1)) (data (start + 2)) else 0
  hdmi3DMask := if size = 4 then word (data (start + 3)) (data (start + 4)) else 0xFFFF

/-- The branches of the parser differ in the number of bytes only. -/
theorem parseHdmi3D_eq (data : Nat → U8) (vsdbLength hdmi3DLen : Nat) (multiPresent : U8)
    {start : Nat} (inside : start < vsdbLength)
    : parseHdmi3D data vsdbLength hdmi3DLen multiPresent start
      = if vsdbLength ≤ start + stereoSize multiPresent then
          stereoAt data (stereoSize multiPresent) start
        else
          parseHdmi3DFormats data hdmi3DLen
            (BitVec.ofNat 32 hdmi3DLen - BitVec.ofNat 32 (stereoSize multiPresent))
            (stereoAt data (stereoSize multiPresent) start) (start + stereoSize multiPresent) := by
  by_cases one : multiPresent = 1
  · subst one
    rfl
  · by_cases two : multiPresent = 2
    · subst two
      rfl
    · have size : stereoSize multiPresent = 0 := (if_neg one).trans (if_neg two)
      rw [parseHdmi3D, if_neg one, if_neg two, size, Nat.add_zero,
        if_neg (Nat.not_le.mpr inside)]
      exact congrArg (parseHdmi3DFormats data hdmi3DLen · {} start) (BitVec.sub_zero _).symm

/-- Bytes that all are inside the payload. -/
theorem stereoAt_inside (block : VendorBlock) (beyond : Nat → U8) (multiPresent : U8)
    {start : Nat} (inside : start + stereoSize multiPresent ≤ block.payload.length)
    : stereoAt (block.memory beyond) (stereoSize multiPresent) start
      = stereoAt (byteAt block.payload) (stereoSize multiPresent) start := by
  rcases stereoSize_cases multiPresent with size | size | size <;> rw [size] at inside ⊢
  · rfl
  · simp [stereoAt, block.memory_inside beyond (show start < _ by omega),
      block.memory_inside beyond (show start + 1 < _ by omega)]
  · simp [stereoAt, block.memory_inside beyond (show start < _ by omega),
      block.memory_inside beyond (show start + 1 < _ by omega),
      block.memory_inside beyond (show start + 2 < _ by omega),
      block.memory_inside beyond (show start + 3 < _ by omega)]

/-- If some of the bytes are beyond the payload, the last one is, and it shows. -/
theorem stereoAt_cut (block : VendorBlock) (hdmi3DLen : Nat) (multiPresent : U8) {start : Nat}
    (inside : start ≤ block.payload.length)
    (cut : block.payload.length < start + stereoSize multiPresent)
    : stereoAt (block.memory fun _ => 1) (stereoSize multiPresent) start
      ≠ layoutHdmi3D block.payload hdmi3DLen multiPresent start := by
  intro same
  rcases stereoSize_cases multiPresent with size | size | size <;> rw [size] at cut same
  · omega
  · have low := congrArg (·.hdmi3DStructAll.setWidth 8) same
    have outside : block.payload.length ≤ start + 1 := by omega
    simp [stereoAt, layoutHdmi3D, size, word_low, block.memory_beyond _ outside,
      Nat.not_le.mpr cut] at low
  · have low := congrArg (·.hdmi3DMask.setWidth 8) same
    have outside : block.payload.length ≤ start + 3 := by omega
    simp [stereoAt, layoutHdmi3D, size, word_low, block.memory_beyond _ outside,
      Nat.not_le.mpr cut] at low

/-- Inside the payload the layout has the same bytes. -/
theorem layoutHdmi3D_inside (payload : List U8) (hdmi3DLen : Nat) (multiPresent : U8) {start : Nat}
    (inside : start + stereoSize multiPresent ≤ payload.length)
    : layoutHdmi3D payload hdmi3DLen multiPresent start
      = { stereoAt (byteAt payload) (stereoSize multiPresent) start with
          hdmi3DForamt := layoutFormats payload (hdmi3DLen - stereoSize multiPresent)
            (start + stereoSize multiPresent),
          hdmi3DFormatCount :=
            (layoutFormats payload (hdmi3DLen - stereoSize multiPresent)
              (start + stereoSize multiPresent)).length } := by
  rcases stereoSize_cases multiPresent with size | size | size <;> rw [size] at inside
  · simp [layoutHdmi3D, stereoAt, size]
  · simp [layoutHdmi3D, stereoAt, size, inside]
  · have first : start + 2 ≤ payload.length := by omega
    simp [layoutHdmi3D, stereoAt, size, inside, first]

/-- The fields behind the HDMI VICs are those of the layout, whatever lies behind the payload,
exactly if they are whole.
-/
theorem parseHdmi3D_iff (block : VendorBlock) {hdmi3DLen start : Nat} (small : hdmi3DLen ≤ 31)
    (multiPresent : U8) (inside : start < block.payload.length)
    : (∀ beyond, parseHdmi3D (block.memory beyond) block.payload.length hdmi3DLen multiPresent
          start
        = layoutHdmi3D block.payload hdmi3DLen multiPresent start)
      ↔ Hdmi3DWhole block.payload hdmi3DLen multiPresent start := by
  have few : stereoSize multiPresent ≤ 4 := by
    rcases stereoSize_cases multiPresent with size | size | size <;> omega
  simp only [parseHdmi3D_eq _ _ hdmi3DLen multiPresent inside, Hdmi3DWhole]
  rcases Nat.lt_or_ge block.payload.length (start + stereoSize multiPresent) with cut | whole
  · simp only [Nat.le_of_lt cut, if_true]
    constructor
    · intro same
      exact absurd (same _) (stereoAt_cut block hdmi3DLen multiPresent (Nat.le_of_lt inside) cut)
    · intro fits
      exact absurd fits.1 (Nat.not_le.mpr cut)
  · simp only [stereoAt_inside block _ multiPresent whole, layoutHdmi3D_inside _ _ _ whole]
    by_cases done : block.payload.length ≤ start + stereoSize multiPresent
    · simp only [done, if_true, layoutFormats_beyond, List.length_nil, Nat.not_lt.mpr done,
        false_implies, and_true, whole, iff_true]
      exact fun _ => rfl
    · simp only [done, if_false, whole, true_and, Nat.not_le.mp done, forall_const]
      exact parseHdmi3DFormats_iff block small few _ _ _

/-- Beyond the payload the 3D fields keep their initial values. -/
theorem layoutHdmi3D_beyond (payload : List U8) (hdmi3DLen : Nat) (multiPresent : U8)
    {start : Nat} (outside : payload.length ≤ start)
    : layoutHdmi3D payload hdmi3DLen multiPresent start = {} := by
  have noFormats := layoutFormats_beyond payload (hdmi3DLen - stereoSize multiPresent)
    (Nat.le_trans outside (Nat.le_add_right start (stereoSize multiPresent)))
  have noAll : ¬ start + 2 ≤ payload.length := by omega
  have noMask : ¬ start + 4 ≤ payload.length := by omega
  simp only [layoutHdmi3D, noFormats, noAll, noMask, and_false, if_false, List.length_nil]

-----------------------------------------------------------------------------------------
-- Video fields
-----------------------------------------------------------------------------------------

/-- If nothing lies behind the HDMI VICs, only the fields before that are placed. -/
theorem layoutHdmiVideo_vicsLast (payload : List U8) {start : Nat}
    (last : payload.length ≤ start + 2 + hdmiVicLenAt payload start)
    : layoutHdmiVideo payload start
      = { hdmi3DPresentFlags := byteAt payload (start + 1),
          hdmi3DLen := hdmi3DLenAt payload start,
          hdmiVicLen := (layoutVics payload (hdmiVicLenAt payload start) (start + 2)).length,
          hdmiVic := layoutVics payload (hdmiVicLenAt payload start) (start + 2) } :=
  congrArg (HdmiVideo.mk _ _ _ _) (layoutHdmi3D_beyond payload _ _ last)

/-- Without the bytes of HDMI VICs there are the flags and the lengths. -/
theorem layoutHdmiVideo_lensLast (payload : List U8) {start : Nat}
    (last : payload.length ≤ start + 2)
    : layoutHdmiVideo payload start
      = { hdmi3DPresentFlags := byteAt payload (start + 1),
          hdmi3DLen := hdmi3DLenAt payload start } := by
  rw [layoutHdmiVideo_vicsLast payload (Nat.le_trans last (Nat.le_add_right _ _)),
    layoutVics_beyond payload _ last]
  rfl

/-- Without the byte of the lengths there are the flags. -/
theorem layoutHdmiVideo_flagsLast (payload : List U8) {start : Nat}
    (last : payload.length ≤ start + 1)
    : layoutHdmiVideo payload start = { hdmi3DPresentFlags := byteAt payload (start + 1) } := by
  rw [layoutHdmiVideo_lensLast payload (Nat.le_trans last (Nat.le_succ _)), hdmi3DLenAt,
    byteAt_beyond payload last]
  rfl

/-- Beyond the payload the video fields keep their initial values. -/
theorem layoutHdmiVideo_beyond (payload : List U8) {start : Nat}
    (outside : payload.length ≤ start)
    : layoutHdmiVideo payload start = {} := by
  rw [layoutHdmiVideo_flagsLast payload (Nat.le_trans outside (Nat.le_succ _)),
    byteAt_beyond payload outside]

/-- `HDMI_3D_LEN` has five bits. -/
theorem hdmi3DLenAt_le (payload : List U8) (start : Nat) : hdmi3DLenAt payload start ≤ 31 := by
  rw [hdmi3DLenAt, BitVec.toNat_and]
  exact Nat.and_le_right

/-- The fields from the byte of the lengths on, if it is inside. -/
theorem parseHdmiVideo_lens (block : VendorBlock) (beyond : Nat → U8) {start : Nat}
    (lens : start + 1 < block.payload.length)
    : parseHdmiVideo (block.memory beyond) block.payload.length start
      = if block.payload.length ≤ start + 2 then
          { hdmi3DPresentFlags := byteAt block.payload (start + 1),
            hdmi3DLen := hdmi3DLenAt block.payload start,
            hdmiVicLen := hdmiVicLenAt block.payload start }
        else
          let hdmiVic := hdmiVics (block.memory beyond) (hdmiVicLenAt block.payload start) (start + 3)
          { hdmi3DPresentFlags := byteAt block.payload (start + 1),
            hdmi3DLen := hdmi3DLenAt block.payload start,
            hdmiVicLen := hdmiVic.length,
            hdmiVic,
            stereo :=
              if block.payload.length ≤ start + 2 + hdmiVicLenAt block.payload start then {}
              else
                parseHdmi3D (block.memory beyond) block.payload.length
                  (hdmi3DLenAt block.payload start)
                  (hdmi3DMultiPresent (byteAt block.payload (start + 1)))
                  (start + 2 + hdmiVicLenAt block.payload start) } := by
  simp only [parseHdmiVideo, block.memory_inside beyond (Nat.lt_of_succ_lt lens),
    block.memory_inside beyond lens, Nat.not_le.mpr lens, if_false]
  rw [hdmi3DLenAt, hdmiVicLenAt]
  split
  · rfl
  · split <;> rfl

/-- With bytes behind that of the lengths, the HDMI VICs and what follows them decide. -/
theorem parseHdmiVideo_vics_iff (block : VendorBlock) {start : Nat}
    (vics : start + 2 < block.payload.length)
    : (∀ beyond, parseHdmiVideo (block.memory beyond) block.payload.length start
        = layoutHdmiVideo block.payload start)
      ↔ VideoWhole block.payload start := by
  have both
      : (∀ beyond, parseHdmiVideo (block.memory beyond) block.payload.length start
          = layoutHdmiVideo block.payload start)
        ↔ (∀ beyond,
            hdmiVics (block.memory beyond) (hdmiVicLenAt block.payload start) (start + 3)
            = layoutVics block.payload (hdmiVicLenAt block.payload start) (start + 2))
          ∧ ∀ beyond,
            (if block.payload.length ≤ start + 2 + hdmiVicLenAt block.payload start then {}
              else
                parseHdmi3D (block.memory beyond) block.payload.length
                  (hdmi3DLenAt block.payload start)
                  (hdmi3DMultiPresent (byteAt block.payload (start + 1)))
                  (start + 2 + hdmiVicLenAt block.payload start))
            = (layoutHdmiVideo block.payload start).stereo := by
    simp only [parseHdmiVideo_lens block _ (Nat.lt_of_succ_lt vics), Nat.not_le.mpr vics,
      if_false]
    constructor
    · intro same
      exact ⟨fun beyond => congrArg HdmiVideo.hdmiVic (same beyond),
        fun beyond => congrArg HdmiVideo.stereo (same beyond)⟩
    · rintro ⟨sameVics, sameStereo⟩ beyond
      rw [sameVics beyond, sameStereo beyond]
      rfl
  rw [both, hdmiVics_iff block _ _ (Nat.le_of_lt vics)]
  simp only [VideoWhole, Nat.le_of_lt vics, forall_const]
  apply and_congr_right
  intro inside
  rcases Nat.lt_or_eq_of_le inside with more | last
  · simp only [Nat.not_le.mpr more, if_false, more, forall_const]
    exact parseHdmi3D_iff block (hdmi3DLenAt_le _ _) _ more
  · have done := Nat.le_of_eq last.symm
    simp only [done, if_true, Nat.not_lt.mpr done, false_implies, iff_true]
    rw [layoutHdmiVideo_vicsLast _ done]
    exact fun _ => rfl

/-- The video fields are those of the layout, whatever lies behind the payload, exactly if they
are whole.
-/
theorem parseHdmiVideo_iff (block : VendorBlock) {start : Nat}
    (inside : start < block.payload.length)
    : (∀ beyond, parseHdmiVideo (block.memory beyond) block.payload.length start
        = layoutHdmiVideo block.payload start)
      ↔ VideoWhole block.payload start := by
  rcases Nat.lt_or_ge (start + 2) block.payload.length with vics | noVics
  · exact parseHdmiVideo_vics_iff block vics
  · rcases Nat.lt_or_ge (start + 1) block.payload.length with lens | noLens
    · have last : block.payload.length = start + 2 := by omega
      simp only [parseHdmiVideo_lens block _ lens, VideoWhole, noVics, if_true,
        layoutHdmiVideo_lensLast _ noVics, HdmiVideo.mk.injEq, true_and, and_true, forall_const]
      omega
    · have notThere : ¬ start + 2 ≤ block.payload.length := by omega
      simp [VideoWhole, notThere, layoutHdmiVideo_flagsLast _ noLens, parseHdmiVideo, noLens,
        block.memory_inside _ inside]

-----------------------------------------------------------------------------------------
-- Latencies
-----------------------------------------------------------------------------------------

/-- A pair of latencies is that of the payload, whatever lies behind it, unless it is cut. -/
theorem latencyAt_iff (block : VendorBlock) {start : Nat} (inside : start < block.payload.length)
    : (∀ beyond, latencyAt (block.memory beyond) start = latencyAt (byteAt block.payload) start)
      ↔ block.payload.length ≠ start + 1 := by
  simp only [latencyAt, block.memory_inside _ inside, Latency.mk.injEq, true_and]
  constructor
  · rintro same cut
    have audio := same fun _ => 1
    rw [block.memory_beyond _ (Nat.le_of_eq cut), byteAt_beyond _ (Nat.le_of_eq cut)] at audio
    exact absurd audio (by decide)
  · intro whole beyond
    exact block.memory_inside beyond (by omega)

/-- Beyond the payload a pair of latencies keeps its initial values. -/
theorem latencyAt_beyond (payload : List U8) {start : Nat} (outside : payload.length ≤ start)
    : latencyAt (byteAt payload) start = {} := by
  simp only [latencyAt, byteAt_beyond payload outside,
    byteAt_beyond payload (Nat.le_trans outside (Nat.le_add_right start 1))]

/-- The layout from the interlaced latencies on. -/
def layoutILatency (payload : List U8) (presentFlags : U8) (start : Nat) : Latency × HdmiVideo :=
  (if iLatencyFieldsPresent presentFlags then latencyAt (byteAt payload) start else {},
    if hdmiVideoPresent presentFlags then
      layoutHdmiVideo payload (if iLatencyFieldsPresent presentFlags then start + 2 else start)
    else {})

/-- `Whole` from the interlaced latencies on. -/
def ILatencyWhole (payload : List U8) (presentFlags : U8) (start : Nat) : Prop :=
  (iLatencyFieldsPresent presentFlags → payload.length ≠ start + 1)
  ∧ (hdmiVideoPresent presentFlags
    → VideoWhole payload (if iLatencyFieldsPresent presentFlags then start + 2 else start))

theorem layoutILatency_beyond (payload : List U8) (presentFlags : U8) {start : Nat}
    (outside : payload.length ≤ start)
    : layoutILatency payload presentFlags start = ({}, {}) := by
  have later : payload.length
      ≤ if iLatencyFieldsPresent presentFlags then start + 2 else start := by
    split <;> omega
  rw [layoutILatency, latencyAt_beyond payload outside, layoutHdmiVideo_beyond payload later,
    ite_self, ite_self]

theorem ILatencyWhole.beyond (payload : List U8) (presentFlags : U8) {start : Nat}
    (outside : payload.length ≤ start)
    : ILatencyWhole payload presentFlags start := by
  refine ⟨fun _ => by omega, fun _ lens => ?_⟩
  split at lens <;> omega

/-- The video fields are those of the layout exactly if they are whole or not announced. -/
theorem parseHdmiVideoPresent_iff (block : VendorBlock) (presentFlags : U8) {start : Nat}
    (inside : start < block.payload.length)
    : (∀ beyond,
        parseHdmiVideoPresent (block.memory beyond) block.payload.length presentFlags start
        = if hdmiVideoPresent presentFlags then layoutHdmiVideo block.payload start else {})
      ↔ (hdmiVideoPresent presentFlags → VideoWhole block.payload start) := by
  rcases video : hdmiVideoPresent presentFlags with _ | _
  · simp [parseHdmiVideoPresent, video]
  · simpa [parseHdmiVideoPresent, video] using parseHdmiVideo_iff block inside

/-- From the interlaced latencies on. -/
theorem parseILatency_iff (block : VendorBlock) (presentFlags : U8) {start : Nat}
    (inside : start < block.payload.length)
    : (∀ beyond, parseILatency (block.memory beyond) block.payload.length presentFlags start
        = layoutILatency block.payload presentFlags start)
      ↔ ILatencyWhole block.payload presentFlags start := by
  rcases interlaced : iLatencyFieldsPresent presentFlags with _ | _
  · simp only [parseILatency, layoutILatency, ILatencyWhole, interlaced, Bool.false_eq_true,
      if_false, Prod.mk.injEq, true_and, false_implies]
    exact parseHdmiVideoPresent_iff block presentFlags inside
  · simp only [parseILatency, layoutILatency, ILatencyWhole, interlaced, if_true, forall_const]
    rcases Nat.lt_or_ge (start + 2) block.payload.length with more | done
    · simp only [Nat.not_le.mpr more, if_false, Prod.mk.injEq, forall_and]
      exact and_congr (latencyAt_iff block inside) (parseHdmiVideoPresent_iff block _ more)
    · have noVideo : VideoWhole block.payload (start + 2) := fun lens => by omega
      simp only [done, if_true, layoutHdmiVideo_beyond block.payload done, ite_self,
        Prod.mk.injEq, and_true, noVideo, implies_true]
      exact latencyAt_iff block inside

/-- From the latencies on. -/
theorem parseLatency_iff (block : VendorBlock) (presentFlags : U8)
    (inside : 8 < block.payload.length)
    : (∀ beyond, parseLatency (block.memory beyond) block.payload.length presentFlags 8
        = (if latencyFieldsPresent presentFlags then latencyAt (byteAt block.payload) 8 else {},
          layoutILatency block.payload presentFlags
            (if latencyFieldsPresent presentFlags then 10 else 8)))
      ↔ (latencyFieldsPresent presentFlags → block.payload.length ≠ 9)
        ∧ ILatencyWhole block.payload presentFlags
          (if latencyFieldsPresent presentFlags then 10 else 8) := by
  rcases present : latencyFieldsPresent presentFlags with _ | _
  · simp only [parseLatency, present, Bool.false_eq_true, if_false, Prod.mk.injEq, true_and,
      false_implies]
    exact parseILatency_iff block presentFlags inside
  · simp only [parseLatency, present, if_true, forall_const]
    rcases Nat.lt_or_ge 10 block.payload.length with more | done
    · simp only [Nat.not_le.mpr more, if_false, Prod.mk.injEq, forall_and]
      exact and_congr (latencyAt_iff block inside) (parseILatency_iff block _ more)
    · simp only [done, if_true, layoutILatency_beyond block.payload _ done, Prod.mk.injEq,
        and_true, ILatencyWhole.beyond block.payload _ done]
      exact latencyAt_iff block inside

-----------------------------------------------------------------------------------------
-- The whole block
-----------------------------------------------------------------------------------------

/-- Up to byte 8 every byte is looked at only if it is inside the payload. -/
theorem cbEdidModuleParseHdmiVsdb_eq (block : VendorBlock) (beyond : Nat → U8)
    : cbEdidModuleParseHdmiVsdb (block.memory beyond)
      = let latencies :=
          if block.payload.length ≤ 8 then ({}, {}, {})
          else
            parseLatency (block.memory beyond) block.payload.length (byteAt block.payload 8) 8
        ({ layout block.payload with
            latency := latencies.1,
            interlacedLatency := latencies.2.1,
            hdmiVideo := latencies.2.2 },
          block.payload.length + 1) := by
  have long := block.long
  obtain ⟨tag, length⟩ := block.header beyond
  have byte (i : Nat) (inside : i < block.payload.length) := block.memory_inside beyond inside
  have zero (i : Nat) (outside : block.payload.length ≤ i) := byteAt_beyond block.payload outside
  simp only [cbEdidModuleParseHdmiVsdb, tag, length, layout, byte 0 (by omega),
    byte 1 (by omega), byte 2 (by omega), byte 3 (by omega), byte 4 (by omega), ne_eq,
    not_true, false_or, Nat.not_lt.mpr long, if_false]
  rcases Nat.lt_or_ge 5 block.payload.length with caps | done
  · rcases Nat.lt_or_ge 6 block.payload.length with clock | done
    · rcases Nat.lt_or_ge 7 block.payload.length with flags | done
      · simp only [Nat.not_le.mpr caps, Nat.not_le.mpr clock, Nat.not_le.mpr flags, if_false,
          byte 5 caps, byte 6 clock, byte 7 flags]
        split <;> rfl
      · simp [Nat.not_le.mpr caps, Nat.not_le.mpr clock, done, byte 5 caps, byte 6 clock,
          zero 7 done, Nat.le_succ_of_le done]
    · simp [Nat.not_le.mpr caps, done, byte 5 caps, zero 6 done, zero 7 (by omega),
        show block.payload.length ≤ 8 by omega]
  · simp [done, zero 5 done, zero 6 (by omega), zero 7 (by omega),
      show block.payload.length ≤ 8 by omega]

/-- What the parser stores is what the layout places inside the payload, whatever lies behind
it, exactly if no group of bytes is cut.
-/
theorem parse_eq_layout_iff (block : VendorBlock)
    : (∀ beyond, (cbEdidModuleParseHdmiVsdb (block.memory beyond)).1 = layout block.payload)
      ↔ Whole block.payload := by
  have whole : Whole block.payload
      ↔ (latencyFieldsPresent (byteAt block.payload 8) → block.payload.length ≠ 9)
        ∧ ILatencyWhole block.payload (byteAt block.payload 8) (interlacedStart block.payload) :=
    ⟨fun w => ⟨w.latency, w.interlaced, w.video⟩, fun w => ⟨w.1, w.2.1, w.2.2⟩⟩
  rw [whole]
  rcases Nat.lt_or_ge 8 block.payload.length with more | done
  · rw [interlacedStart, ← parseLatency_iff block _ more]
    simp only [cbEdidModuleParseHdmiVsdb_eq, Nat.not_le.mpr more, if_false]
    constructor
    · intro same beyond
      exact Prod.ext (congrArg HdmiVsdbExtention.latency (same beyond))
        (Prod.ext (congrArg HdmiVsdbExtention.interlacedLatency (same beyond))
          (congrArg HdmiVsdbExtention.hdmiVideo (same beyond)))
    · intro same beyond
      rw [same beyond]
      rfl
  · have start : block.payload.length ≤ interlacedStart block.payload := by
      unfold interlacedStart
      split <;> omega
    have noILatency := layoutILatency_beyond block.payload (byteAt block.payload 8) start
    have initial : (layout block.payload).latency = {}
        ∧ (layout block.payload).interlacedLatency = {}
        ∧ (layout block.payload).hdmiVideo = {} := by
      refine ⟨?_, congrArg Prod.fst noILatency, congrArg Prod.snd noILatency⟩
      simp only [layout, latencyAt_beyond block.payload done, ite_self]
    refine iff_of_true (fun beyond => ?_)
      ⟨fun _ => by omega, ILatencyWhole.beyond block.payload _ start⟩
    simp only [cbEdidModuleParseHdmiVsdb_eq, done, if_true]
    generalize layout block.payload = vsdb at initial
    rcases vsdb
    obtain ⟨rfl, rfl, rfl⟩ := initial
    rfl

-----------------------------------------------------------------------------------------
-- HDMI VIC modes
-----------------------------------------------------------------------------------------

/-- As many VICs as are stored are added. -/
theorem cbEdidModuleGetHdmiVicMode_stored (vsdb : HdmiVsdbExtention)
    (counted : vsdb.hdmiVideo.hdmiVicLen = vsdb.hdmiVideo.hdmiVic.length)
    : cbEdidModuleGetHdmiVicMode vsdb
      = vsdb.hdmiVideo.hdmiVic.map fun byte => byte.toNat + cbiosHdmiNormalVicCounts := by
  apply List.ext_getElem
  · simp [cbEdidModuleGetHdmiVicMode, counted]
  · intro i _ inside
    rw [List.length_map] at inside
    simp [cbEdidModuleGetHdmiVicMode, inside]

/-- The layout counts the HDMI VICs that it holds. -/
theorem layout_counted (payload : List U8)
    : (layout payload).hdmiVideo.hdmiVicLen = (layout payload).hdmiVideo.hdmiVic.length := by
  rcases video : hdmiVideoPresent (byteAt payload 8) with _ | _
  · simp [layout, video]
  · simp [layout, video, layoutHdmiVideo]

/-- A block that ends with the byte of the lengths, which announces one HDMI VIC. -/
def blockWithoutVics : VendorBlock where
  payload := [0x03, 0x0C, 0x00, 0x10, 0x00, 0x00, 0x2D, 0x20, 0x00, 0x20]
  long := by decide
  short := by decide

end Cx4Kernel.Cbios
