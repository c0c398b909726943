import Cx4Kernel.Cbios.MapMask
import Cx4Kernel.Cbios.Registers
import Cx4Kernel.Foundation.BitScatter

/-! The byte registers by group and index, and the numbers that `cbMapMaskWrite` and
`cbMapMaskRead` of `CBiosUtilHw.c` keep in them.
-/

namespace Cx4Kernel.Cbios

open Cx4Kernel.Foundation

/-- The register groups of the clocks and of the CRTC timings. -/
inductive RegType where
  | cr
  | crB
  | crT
  | crF
  | crC
  | sr
  | srB
  | srT
  | srF
deriving DecidableEq

/-- A `type_index`. -/
structure ByteReg where
  type : RegType
  index : U8
deriving DecidableEq

/-- The IGAs, and `CBIOS_NOIGAENCODERINDEX`. -/
inductive IgaIndex where
  | iga1
  | iga2
  | iga3
  | iga4
  | noIga
deriving DecidableEq

/-- What every byte register holds. -/
abbrev ByteRegs := ByteReg → U8

/-- The group that `cbBiosMMIOReadReg` and `cbBiosMMIOWriteReg` take for an IGA. -/
def RegType.inType (type : RegType) : IgaIndex → RegType
  | .iga2 =>
      match type with
      | .cr => .crB
      | .sr => .srB
      | type => type
  | .iga3 =>
      match type with
      | .cr => .crT
      | .sr => .srT
      | type => type
  | .iga4 =>
      match type with
      | .cr => .crF
      | .sr => .srF
      | type => type
  | .iga1 => type
  | .noIga => type

/-- The register of an IGA. -/
def ByteReg.forIga (reg : ByteReg) (igaIndex : IgaIndex) : ByteReg :=
  { reg with type := reg.type.inType igaIndex }

/-- `cbMMIOWriteReg`, on the groups that are memory-mapped. -/
def ByteRegs.writeReg (regs : ByteRegs) (reg : ByteReg) (value mask : U8) : ByteRegs :=
  if value &&& mask ≠ 0 then regs
  else if mask = 0xFF then regs
  else fun other => if other = reg then (regs reg &&& mask) ||| value else regs other

/-- `cbBiosMMIOReadReg`. -/
def ByteRegs.biosReadReg (regs : ByteRegs) (reg : ByteReg) (igaIndex : IgaIndex) : U8 :=
  regs (reg.forIga igaIndex)

/-- `cbBiosMMIOWriteReg`. -/
def ByteRegs.biosWriteReg (regs : ByteRegs) (reg : ByteReg) (value mask : U8) (igaIndex : IgaIndex)
    : ByteRegs :=
  regs.writeReg (reg.forIga igaIndex) value mask

/-- `cbMapMaskRead`. -/
def cbMapMaskRead (regs : ByteRegs) (regTable : List (ByteReg × U8)) (igaIndex : IgaIndex) : U32 :=
  mapMaskRead (fun reg => regs.biosReadReg reg igaIndex) regTable

/-- The inner loop of `cbMapMaskWrite`: the places that the mask selects take the bits of the
value from bit `j` on.
-/
def mapMaskByte (value : U32) (mask : U8) (positions : List Nat) (state : U8 × Nat) : U8 × Nat :=
  positions.foldl
    (fun (byWritten, j) i =>
      if mask.getLsbD i then
        (byWritten + (if value.getLsbD j then (1 : U8) <<< i else 0), j + 1)
      else (byWritten, j))
    state

/-- The loop of `cbMapMaskWrite` from bit `j` on. -/
def mapMaskWriteFrom (value : U32) (igaIndex : IgaIndex)
    : Nat → List (ByteReg × U8) → ByteRegs → ByteRegs
  | _, [], regs => regs
  | j, (reg, mask) :: rest, regs =>
      let (byWritten, j) := mapMaskByte value mask (List.range 8) (0, j)
      mapMaskWriteFrom value igaIndex j rest
        (regs.biosWriteReg reg byWritten (~~~mask) igaIndex)

/-- `cbMapMaskWrite`. -/
def cbMapMaskWrite (regs : ByteRegs) (value : U32) (regTable : List (ByteReg × U8))
    (igaIndex : IgaIndex) : ByteRegs :=
  mapMaskWriteFrom value igaIndex 0 regTable regs

-----
-- Writes of one register

/-- The byte registers behave as those of `Mmio`. -/
theorem u8_writeReg (regs : Mmio) (place : RegGroup → RegType) (injective : place.Injective)
    (bytes : ByteRegs) (same : ∀ group index, bytes ⟨place group, index⟩ = regs.u8 group index)
    (type : RegGroup) (index value mask : U8) (group : RegGroup) (index' : U8)
    : (regs.writeReg type index value mask).u8 group index'
      = bytes.writeReg ⟨place type, index⟩ value mask ⟨place group, index'⟩ := by
  simp only [Mmio.writeReg, ByteRegs.writeReg]
  split
  · exact (same _ _).symm
  · split
    · exact (same _ _).symm
    · simp only [Mmio.setU8, ByteReg.mk.injEq, injective.eq_iff, same]

/-- A write that is no conflict is a write under the mask. -/
theorem ByteRegs.writeReg_apply (regs : ByteRegs) (reg : ByteReg) {value mask : U8}
    (free : value &&& mask = 0) (other : ByteReg)
    : regs.writeReg reg value mask other
      = if other = reg then writeMasked (regs reg) value mask else regs other := by
  have agree : (regs reg &&& mask) ||| value = writeMasked (regs reg) value mask := by
    apply BitVec.eq_of_getLsbD_eq
    intro i inside
    have bit := congrArg (BitVec.getLsbD · i) free
    rw [getLsbD_writeMasked, BitVec.getLsbD_or, BitVec.getLsbD_and]
    simp only [BitVec.getLsbD_and, BitVec.ofNat_eq_ofNat, BitVec.getLsbD_zero] at bit
    cases set : mask.getLsbD i with
    | false => simp
    | true =>
      rw [set, Bool.and_true] at bit
      simp [bit]
  rw [ByteRegs.writeReg, if_neg (not_not.mpr free)]
  split
  · rename_i full
    split
    · rename_i isReg
      subst isReg full
      apply BitVec.eq_of_getLsbD_eq
      intro i inside
      have set : (0xFF : U8).getLsbD i = true := by
        rw [show (0xFF : U8) = BitVec.allOnes 8 from rfl, BitVec.getLsbD_allOnes]
        exact decide_eq_true inside
      rw [getLsbD_writeMasked, set, if_pos rfl]
    · rfl
  · rw [agree]

-----
-- Tables

/-- Adding a bit above all that are set places it. -/
theorem getLsbD_addBit {byWritten : U8} {i : Nat} (below : byWritten.toNat < 2 ^ i) (inside : i < 8)
    (bit : Bool) (p : Nat)
    : (byWritten + (if bit then (1 : U8) <<< i else 0)).getLsbD p
      = if p = i then bit else byWritten.getLsbD p := by
  have power : 2 ^ (i + 1) ≤ 2 ^ 8 := Nat.pow_le_pow_right (by decide) inside
  have value : (byWritten + (if bit then (1 : U8) <<< i else 0)).toNat
      = 2 ^ i * bit.toNat + byWritten.toNat := by
    rw [BitVec.toNat_add]
    cases bit with
    | false => simpa using byWritten.isLt
    | true =>
      rw [if_pos rfl, BitVec.toNat_shiftLeft, Nat.shiftLeft_eq, Bool.toNat_true]
      change (_ + 1 * 2 ^ i % 2 ^ 8) % 2 ^ 8 = _
      omega
  rw [BitVec.getLsbD, value, Nat.testBit_two_pow_mul_add _ below]
  split
  · rename_i low
    rw [if_neg (Nat.ne_of_lt low), BitVec.testBit_toNat]
  · rename_i high
    by_cases here : p = i
    · subst here
      cases bit <;> simp
    · have clear : byWritten.getLsbD p = false :=
        Nat.testBit_lt_two_pow
          (Nat.lt_of_lt_of_le below (Nat.pow_le_pow_right (by decide) (Nat.le_of_not_lt high)))
      obtain ⟨above, isAbove⟩ : ∃ above, p - i = above + 1 := ⟨p - i - 1, by omega⟩
      rw [if_neg here, clear, isAbove]
      cases bit <;> simp [Nat.testBit_succ]

/-- The byte of the inner loop, and where the next one starts. -/
theorem mapMaskByte_spec (value : U32) (mask : U8) {k i j : Nat} {byWritten : U8}
    (below : byWritten.toNat < 2 ^ i) (inside : i + k ≤ 8)
    : let places := (List.range' i k).filter mask.getLsbD
      let result := mapMaskByte value mask (List.range' i k) (byWritten, j)
      result.2 = j + places.length
      ∧ places.map result.1.getLsbD = (List.range' j places.length).map value.getLsbD
      ∧ ∀ p, p < i ∨ mask.getLsbD p = false → result.1.getLsbD p = byWritten.getLsbD p := by
  induction k generalizing i j byWritten with
  | zero => simp [mapMaskByte]
  | succ k ih =>
    have grow : (2 : Nat) ^ (i + 1) = 2 ^ i * 2 := Nat.pow_succ 2 i
    rw [List.range'_succ]
    cases set : mask.getLsbD i with
    | false =>
      have step : mapMaskByte value mask (i :: List.range' (i + 1) k) (byWritten, j)
          = mapMaskByte value mask (List.range' (i + 1) k) (byWritten, j) := by
        simp only [mapMaskByte, List.foldl_cons, set, if_false, Bool.false_eq_true]
      rw [List.filter_cons_of_neg (by simp [set]), step]
      have bound : byWritten.toNat < 2 ^ (i + 1) := by omega
      obtain ⟨position, bits, others⟩ := ih (j := j) bound (by omega)
      exact ⟨position, bits, fun p apart => others p (apart.imp_left Nat.lt_succ_of_lt)⟩
    | true =>
      obtain ⟨added, isAdded⟩ : ∃ added,
          added = byWritten + if value.getLsbD j then (1 : U8) <<< i else 0 := ⟨_, rfl⟩
      have bit (p) : added.getLsbD p = if p = i then value.getLsbD j else byWritten.getLsbD p := by
        rw [isAdded]
        exact getLsbD_addBit below (by omega) _ p
      have bound : added.toNat < 2 ^ (i + 1) := by
        apply Nat.lt_pow_two_of_testBit
        intro p high
        rw [BitVec.testBit_toNat, bit, if_neg (by omega)]
        exact Nat.testBit_lt_two_pow
          (Nat.lt_of_lt_of_le below (Nat.pow_le_pow_right (by decide) (by omega)))
      have step : mapMaskByte value mask (i :: List.range' (i + 1) k) (byWritten, j)
          = mapMaskByte value mask (List.range' (i + 1) k) (added, j + 1) := by
        rw [isAdded]
        simp only [mapMaskByte, List.foldl_cons, set, if_true]
      rw [List.filter_cons_of_pos set, step]
      obtain ⟨position, bits, others⟩ := ih (j := j + 1) bound (by omega)
      refine ⟨?_, ?_, ?_⟩
      · rw [position, List.length_cons]
        omega
      · rw [List.map_cons, List.length_cons, List.range'_succ, List.map_cons, bits,
          others i (Or.inl (Nat.lt_succ_self i)), bit, if_pos rfl]
      · intro p apart
        rw [others p (apart.imp_left Nat.lt_succ_of_lt), bit, if_neg]
        rintro rfl
        rcases apart with low | clear
        · omega
        · rw [set] at clear
          cases clear

/-- The places of a table at an IGA. -/
def placesForIga (regTable : List (ByteReg × U8)) (igaIndex : IgaIndex) : List (ByteReg × U8) :=
  regTable.map fun entry => (entry.1.forIga igaIndex, entry.2)

/-- `cbMapMaskWrite` spreads the value over the places of the table. -/
theorem scattered_mapMaskWriteFrom (value : U32) (igaIndex : IgaIndex) (j : Nat)
    (regTable : List (ByteReg × U8)) (regs : ByteRegs)
    : Scattered value j (placesForIga regTable igaIndex) regs
        (mapMaskWriteFrom value igaIndex j regTable regs) := by
  induction regTable generalizing j regs with
  | nil => exact .nil j regs
  | cons entry rest ih =>
    obtain ⟨reg, mask⟩ := entry
    have empty : (0 : U8).toNat < 2 ^ 0 := by decide
    obtain ⟨position, bits, others⟩ :=
      mapMaskByte_spec value mask (k := 8) (j := j) empty (by decide)
    rw [← List.range_eq_range'] at position bits others
    obtain ⟨result, isResult⟩ : ∃ result,
        mapMaskByte value mask (List.range 8) (0, j) = result := ⟨_, rfl⟩
    have unfolded : mapMaskWriteFrom value igaIndex j ((reg, mask) :: rest) regs
        = mapMaskWriteFrom value igaIndex (mapMaskByte value mask (List.range 8) (0, j)).2 rest
            (regs.biosWriteReg reg (mapMaskByte value mask (List.range 8) (0, j)).1 (~~~mask)
              igaIndex) := rfl
    rw [unfolded]
    rw [isResult] at position bits others ⊢
    have free : result.1 &&& ~~~mask = 0 := by
      apply BitVec.eq_of_getLsbD_eq
      intro p inside
      rw [BitVec.getLsbD_and, BitVec.getLsbD_not, decide_eq_true inside, Bool.true_and]
      cases set : mask.getLsbD p with
      | true => simp
      | false => simp [others p (Or.inr set)]
    have write (key) := ByteRegs.writeReg_apply regs (reg.forIga igaIndex) free key
    rw [position]
    exact .cons ⟨free, bits⟩ (by rw [ByteRegs.biosWriteReg, write, if_pos rfl])
      (fun key other => by rw [ByteRegs.biosWriteReg, write, if_neg other]) (ih _ _)

/-- The number that a table holds for an IGA. -/
theorem toNat_cbMapMaskRead (regs : ByteRegs) {regTable : List (ByteReg × U8)}
    (room : tableBits regTable ≤ 32) (igaIndex : IgaIndex)
    : (cbMapMaskRead regs regTable igaIndex).toNat
      = gather regs (placesForIga regTable igaIndex) := by
  rw [cbMapMaskRead, toNat_mapMaskRead _ room]
  simp only [gather, placesForIga, List.flatMap_map, ByteRegs.biosReadReg]

/-- What `cbMapMaskWrite` writes is what `cbMapMaskRead` reads, as far as the table has bits. -/
theorem cbMapMaskRead_cbMapMaskWrite (regs : ByteRegs) (value : U32)
    {regTable : List (ByteReg × U8)} {igaIndex : IgaIndex} (room : tableBits regTable ≤ 32)
    (apart : (placesForIga regTable igaIndex).Pairwise PlacesApart)
    : (cbMapMaskRead (cbMapMaskWrite regs value regTable igaIndex) regTable igaIndex).toNat
      = value.toNat % 2 ^ tableBits regTable := by
  have width : tableWidth (placesForIga regTable igaIndex) = tableBits regTable := by
    rw [tableWidth, placesForIga, List.map_map]
    rfl
  rw [toNat_cbMapMaskRead _ room, cbMapMaskWrite,
    (scattered_mapMaskWriteFrom value igaIndex 0 regTable regs).gather_eq apart, width]
  rfl

/-- A number in a table apart from the one that is written stays. -/
theorem cbMapMaskRead_cbMapMaskWrite_other (regs : ByteRegs) (value : U32)
    {regTable other : List (ByteReg × U8)} {igaIndex otherIga : IgaIndex}
    (room : tableBits other ≤ 32)
    (apart : TablesApart (placesForIga regTable igaIndex) (placesForIga other otherIga))
    : cbMapMaskRead (cbMapMaskWrite regs value regTable igaIndex) other otherIga
      = cbMapMaskRead regs other otherIga := by
  apply BitVec.eq_of_toNat_eq
  rw [toNat_cbMapMaskRead _ room, toNat_cbMapMaskRead _ room, cbMapMaskWrite]
  exact (scattered_mapMaskWriteFrom value igaIndex 0 regTable regs).gather_other apart

-----
-- Several tables

/-- Several numbers are written for an IGA, one after the other. -/
def writeTables (igaIndex : IgaIndex) (entries : List (U32 × List (ByteReg × U8)))
    (regs : ByteRegs) : ByteRegs :=
  entries.foldl (fun regs entry => cbMapMaskWrite regs entry.1 entry.2 igaIndex) regs

/-- The tables have no bit in common at an IGA. -/
def ApartAt (igaIndex : IgaIndex) (table other : List (ByteReg × U8)) : Prop :=
  TablesApart (placesForIga table igaIndex) (placesForIga other igaIndex)

instance (igaIndex : IgaIndex) (table other : List (ByteReg × U8))
    : Decidable (ApartAt igaIndex table other) :=
  inferInstanceAs (Decidable (TablesApart _ _))

/-- A number stays whose table is apart from all that are written. -/
theorem cbMapMaskRead_writeTables_other (regs : ByteRegs)
    {entries : List (U32 × List (ByteReg × U8))} {other : List (ByteReg × U8)}
    {igaIndex otherIga : IgaIndex} (room : tableBits other ≤ 32)
    (apart : ∀ entry ∈ entries,
      TablesApart (placesForIga entry.2 igaIndex) (placesForIga other otherIga))
    : cbMapMaskRead (writeTables igaIndex entries regs) other otherIga
      = cbMapMaskRead regs other otherIga := by
  induction entries generalizing regs with
  | nil => rfl
  | cons entry rest ih =>
    rw [writeTables, List.foldl_cons, ← writeTables,
      ih _ fun later member => apart later (List.mem_cons_of_mem _ member)]
    exact cbMapMaskRead_cbMapMaskWrite_other regs entry.1 room (apart entry List.mem_cons_self)

/-- Every number is read back when its table is apart from those that are written later. -/
theorem cbMapMaskRead_writeTables (regs : ByteRegs)
    {entries : List (U32 × List (ByteReg × U8))} {igaIndex : IgaIndex}
    (apart : (entries.map Prod.snd).Pairwise fun table later => ApartAt igaIndex later table)
    {entry : U32 × List (ByteReg × U8)} (member : entry ∈ entries)
    (room : tableBits entry.2 ≤ 32)
    (selfApart : (placesForIga entry.2 igaIndex).Pairwise PlacesApart)
    : (cbMapMaskRead (writeTables igaIndex entries regs) entry.2 igaIndex).toNat
      = entry.1.toNat % 2 ^ tableBits entry.2 := by
  induction entries generalizing regs with
  | nil => cases member
  | cons first rest ih =>
    rw [List.map_cons, List.pairwise_cons] at apart
    rw [writeTables, List.foldl_cons, ← writeTables]
    rcases List.mem_cons.mp member with rfl | later
    · rw [cbMapMaskRead_writeTables_other _ room fun written isWritten =>
        apart.1 written.2 (List.mem_map_of_mem isWritten)]
      exact cbMapMaskRead_cbMapMaskWrite regs entry.1 room selfApart
    · exact ih _ apart.2 later

-----
-- Writes of whole registers

/-- A number is read from the registers of its table only. -/
theorem cbMapMaskRead_congr {regs regs' : ByteRegs} {regTable : List (ByteReg × U8)}
    {igaIndex : IgaIndex}
    (same : ∀ place ∈ regTable, regs (place.1.forIga igaIndex) = regs' (place.1.forIga igaIndex))
    : cbMapMaskRead regs regTable igaIndex = cbMapMaskRead regs' regTable igaIndex := by
  simp only [cbMapMaskRead, mapMaskRead, ByteRegs.biosReadReg]
  congr 1
  apply List.foldl_ext
  intro state place member
  rw [same place member]

/-- A write leaves the other registers. -/
theorem ByteRegs.writeReg_other (regs : ByteRegs) {reg other : ByteReg} (value mask : U8)
    (elsewhere : other ≠ reg)
    : regs.writeReg reg value mask other = regs other := by
  unfold ByteRegs.writeReg
  split
  · rfl
  · split
    · rfl
    · exact if_neg elsewhere

/-- A register write outside of a table leaves its number. -/
theorem cbMapMaskRead_writeReg_other (regs : ByteRegs) (reg : ByteReg) (value mask : U8)
    {other : List (ByteReg × U8)} {otherIga : IgaIndex}
    (apart : ∀ place ∈ other, place.1.forIga otherIga ≠ reg)
    : cbMapMaskRead (regs.writeReg reg value mask) other otherIga
      = cbMapMaskRead regs other otherIga :=
  cbMapMaskRead_congr fun place member =>
    ByteRegs.writeReg_other regs value mask (apart place member)

/-- A number that is written leaves the registers outside of its table. -/
theorem cbMapMaskWrite_other (regs : ByteRegs) (value : U32) {regTable : List (ByteReg × U8)}
    {igaIndex : IgaIndex} {reg : ByteReg}
    (outside : ∀ place ∈ regTable, place.1.forIga igaIndex ≠ reg)
    : cbMapMaskWrite regs value regTable igaIndex reg = regs reg := by
  apply (scattered_mapMaskWriteFrom value igaIndex 0 regTable regs).apply_other
  intro place member
  obtain ⟨entry, isEntry, rfl⟩ := List.mem_map.mp member
  exact outside entry isEntry

/-- So do several numbers. -/
theorem writeTables_other (regs : ByteRegs) {entries : List (U32 × List (ByteReg × U8))}
    {igaIndex : IgaIndex} {reg : ByteReg}
    (outside : ∀ entry ∈ entries, ∀ place ∈ entry.2, place.1.forIga igaIndex ≠ reg)
    : writeTables igaIndex entries regs reg = regs reg := by
  induction entries generalizing regs with
  | nil => rfl
  | cons entry rest ih =>
    rw [writeTables, List.foldl_cons, ← writeTables,
      ih _ fun later member => outside later (List.mem_cons_of_mem _ member)]
    exact cbMapMaskWrite_other regs entry.1 (outside entry List.mem_cons_self)

/-- A write of a field whose value fits. -/
theorem ByteRegs.writeReg_field (regs : ByteRegs) (reg : ByteReg) (field : BitField) {value : U8}
    (fits : value.toNat < 2 ^ field.width) (other : ByteReg)
    : regs.writeReg reg (value <<< field.offset) (~~~field.mask) other
      = if other = reg then field.put (regs reg) value.toNat else regs other := by
  have free : value <<< field.offset &&& ~~~field.mask = 0 := by
    apply BitVec.eq_of_getLsbD_eq
    intro i inside
    rw [BitVec.getLsbD_and, BitVec.getLsbD_not, BitField.getLsbD_mask, BitVec.getLsbD_shiftLeft]
    by_cases mine : field.offset ≤ i ∧ i < field.offset + field.width
    · simp [inside, mine]
    · by_cases low : i < field.offset
      · simp [low]
      · have clear : value.getLsbD (i - field.offset) = false :=
          Nat.testBit_lt_two_pow
            (Nat.lt_of_lt_of_le fits (Nat.pow_le_pow_right (by decide) (by omega)))
        simp [clear]
  rw [ByteRegs.writeReg_apply regs reg free other, BitField.put, BitVec.ofNat_toNat,
    BitVec.setWidth_eq]

end Cx4Kernel.Cbios
