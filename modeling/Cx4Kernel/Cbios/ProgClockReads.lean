import Cx4Kernel.Cbios.ProgClock
import Cx4Kernel.Foundation.FixedPoint
import Cx4Kernel.Foundation.Sweep

/-! What `cbGetProgClock` reads after `cbProgClock`, for one clock and over whole runs of
`cbProgramDclk`.
-/

namespace Cx4Kernel.Cbios

open Cx4Kernel.Foundation

-----
-- The tables of the branches

/-- The tables of a branch. -/
def DclkBranch.tables (branch : DclkBranch) : List (List (ByteReg × U8)) :=
  [branch.integerMap, branch.fractionMap, branch.rMap] ++ branch.divMap.toList

/-- The tables of a branch select distinct bits, they have room for a word, and the register
writes behind them are to other registers.
-/
structure DclkBranch.Sound (branch : DclkBranch) : Prop where
  selfApart : ∀ table ∈ branch.tables, (placesForIga table .noIga).Pairwise PlacesApart
  apart : branch.tables.Pairwise fun table later => ApartAt .noIga later table
  integerBits : tableBits branch.integerMap = 8
  fractionBits : tableBits branch.fractionMap = 20
  rBits : tableBits branch.rMap ≤ 3
  divBits : ∀ table ∈ branch.divMap.toList, tableBits table = 2
  loads : ∀ table ∈ branch.tables, ∀ place ∈ table, ∀ load ∈ branch.loads,
    place.1.forIga .noIga ≠ load.1

/-- What a branch writes leaves the tables of another. -/
structure DclkBranch.Leaves (branch other : DclkBranch) : Prop where
  tables : ∀ table ∈ branch.tables, ∀ table' ∈ other.tables, ApartAt .noIga table table'
  loads : ∀ table ∈ other.tables, ∀ place ∈ table, ∀ load ∈ branch.loads,
    place.1.forIga .noIga ≠ load.1

theorem dclkBranch_sound (chipId : ChipId) (clockType : DclkType)
    : (dclkBranch chipId clockType).Sound := by
  cases chipId <;> cases clockType <;>
    exact ⟨by decide, by decide, by decide, by decide, by decide, by decide, by decide⟩

theorem dclkBranch_leaves (chipId : ChipId) {clockType other : DclkType} (ne : clockType ≠ other)
    : (dclkBranch chipId clockType).Leaves (dclkBranch chipId other) := by
  cases chipId <;> cases clockType <;> cases other <;>
    first
    | exact absurd rfl ne
    | exact ⟨by decide, by decide⟩

/-- The registers that `cbProgramDclk` and `cbProgClock` write in front of the tables. -/
def frontRegs : List ByteReg := [⟨.sr, 0x1B⟩, ⟨.sr, 0x30⟩, ⟨.crC, 0xAB⟩]

theorem dclkBranch_front (chipId : ChipId) (clockType : DclkType)
    : ∀ table ∈ (dclkBranch chipId clockType).tables, ∀ place ∈ table, ∀ reg ∈ frontRegs,
        place.1.forIga .noIga ≠ reg := by
  cases chipId <;> cases clockType <;> decide

-----
-- Reading behind the writes of a branch

variable {branch other : DclkBranch}

/-- What `progDclk` writes into which table. -/
def DclkBranch.entries (branch : DclkBranch) (clkInfo : ClockInfo)
    : List (U32 × List (ByteReg × U8)) :=
  [(clkInfo.integer.setWidth 32, branch.integerMap), (clkInfo.fraction, branch.fractionMap),
      (clkInfo.r.setWidth 32, branch.rMap)]
    ++ branch.divMap.toList.map fun divMap => (clkInfo.pllDiv.setWidth 32, divMap)

theorem progDclk_eq (branch : DclkBranch) (clkInfo : ClockInfo) (regs : ByteRegs)
    : progDclk branch clkInfo regs
      = (writeTables .noIga (branch.entries clkInfo) regs).writeRegs branch.loads := by
  obtain ⟨integerMap, fractionMap, rMap, divMap, loads⟩ := branch
  cases divMap <;> rfl

theorem entries_tables (branch : DclkBranch) (clkInfo : ClockInfo)
    : (branch.entries clkInfo).map Prod.snd = branch.tables := by
  obtain ⟨integerMap, fractionMap, rMap, divMap, loads⟩ := branch
  cases divMap <;> rfl

theorem cbMapMaskRead_writeRegs_other (regs : ByteRegs) {writes : List (ByteReg × U8 × U8)}
    {table : List (ByteReg × U8)}
    (apart : ∀ place ∈ table, ∀ write ∈ writes, place.1.forIga .noIga ≠ write.1)
    : cbMapMaskRead (regs.writeRegs writes) table .noIga = cbMapMaskRead regs table .noIga := by
  induction writes generalizing regs with
  | nil => rfl
  | cons write rest ih =>
    rw [ByteRegs.writeRegs, List.foldl_cons, ← ByteRegs.writeRegs,
      ih _ fun place member later isLater => apart place member later
        (List.mem_cons_of_mem _ isLater)]
    exact cbMapMaskRead_writeReg_other regs write.1 write.2.1 write.2.2
      fun place member => apart place member write List.mem_cons_self

/-- A table of the branch is read as it was written, as far as it has bits. -/
theorem cbMapMaskRead_progDclk (sound : branch.Sound) (clkInfo : ClockInfo) (regs : ByteRegs)
    (value : U32) (table : List (ByteReg × U8)) (member : (value, table) ∈ branch.entries clkInfo)
    (room : tableBits table ≤ 32)
    : (cbMapMaskRead (progDclk branch clkInfo regs) table .noIga).toNat
      = value.toNat % 2 ^ tableBits table := by
  have isTable : table ∈ branch.tables := by
    rw [← entries_tables branch clkInfo]
    exact List.mem_map_of_mem member
  rw [progDclk_eq, cbMapMaskRead_writeRegs_other _ (sound.loads table isTable)]
  refine cbMapMaskRead_writeTables regs ?_ member room (sound.selfApart table isTable)
  rw [entries_tables]
  exact sound.apart

/-- The clock values that are read are those that were programmed, as far as the tables have
bits.
-/
theorem getDclk_progDclk (sound : branch.Sound) (clkInfo : ClockInfo) (regs : ByteRegs)
    : let back := getDclk branch (progDclk branch clkInfo regs)
      back.integer.toNat = clkInfo.integer.toNat % 2 ^ 8
      ∧ back.fraction.toNat = clkInfo.fraction.toNat % 2 ^ 20
      ∧ back.r.toNat = clkInfo.r.toNat % 2 ^ tableBits branch.rMap
      ∧ back.pllDiv.toNat = if branch.divMap = none then 0 else clkInfo.pllDiv.toNat % 2 ^ 2 := by
  have narrow (word : U32) (bits : Nat) (few : bits ≤ 8) (value : Nat)
      (small : word.toNat = value % 2 ^ bits)
      : ((word.setWidth 8).setWidth 16 : U16).toNat = value % 2 ^ bits := by
    have bound : word.toNat < 2 ^ 8 := by
      rw [small]
      exact Nat.lt_of_lt_of_le (Nat.mod_lt _ (Nat.two_pow_pos bits))
        (Nat.pow_le_pow_right (by decide) few)
    simp only [BitVec.toNat_setWidth]
    omega
  have wide (word : U16) : (word.setWidth 32 : U32).toNat = word.toNat := by
    rw [BitVec.toNat_setWidth]
    omega
  have read := cbMapMaskRead_progDclk sound clkInfo regs
  have integer := read (clkInfo.integer.setWidth 32) branch.integerMap
    (by simp [DclkBranch.entries]) (by rw [sound.integerBits]; decide)
  have fraction := read clkInfo.fraction branch.fractionMap
    (by simp [DclkBranch.entries]) (by rw [sound.fractionBits]; decide)
  have r := read (clkInfo.r.setWidth 32) branch.rMap
    (by simp [DclkBranch.entries]) (Nat.le_trans sound.rBits (by decide))
  rw [wide, sound.integerBits] at integer
  rw [sound.fractionBits] at fraction
  rw [wide] at r
  refine ⟨narrow _ 8 (by decide) _ integer, fraction,
    narrow _ _ (Nat.le_trans sound.rBits (by decide)) _ r, ?_⟩
  cases isDiv : branch.divMap with
  | none => simp [getDclk, isDiv]
  | some divMap =>
    have bits : tableBits divMap = 2 := sound.divBits divMap (by simp [isDiv])
    have div := read (clkInfo.pllDiv.setWidth 32) divMap (by simp [DclkBranch.entries, isDiv])
      (by rw [bits]; decide)
    rw [wide, bits] at div
    simp only [getDclk, isDiv, reduceCtorEq, if_false]
    exact narrow _ 2 (by decide) _ div

/-- The clock values are read from the tables of the branch. -/
theorem getDclk_congr {regs regs' : ByteRegs}
    (same : ∀ table ∈ branch.tables,
      cbMapMaskRead regs table .noIga = cbMapMaskRead regs' table .noIga)
    : getDclk branch regs = getDclk branch regs' := by
  have integer := same branch.integerMap (by simp [DclkBranch.tables])
  have fraction := same branch.fractionMap (by simp [DclkBranch.tables])
  have r := same branch.rMap (by simp [DclkBranch.tables])
  rw [getDclk, getDclk, integer, fraction, r]
  cases isDiv : branch.divMap with
  | none => rfl
  | some divMap =>
    have div := same divMap (by simp [DclkBranch.tables, isDiv])
    simp only [div]

theorem DclkBranch.Sound.room (sound : branch.Sound) {table : List (ByteReg × U8)}
    (member : table ∈ branch.tables) : tableBits table ≤ 32 := by
  simp only [DclkBranch.tables, List.mem_append, List.mem_cons, List.not_mem_nil, or_false]
    at member
  rcases member with (rfl | rfl | rfl) | isDiv
  · rw [sound.integerBits]
    decide
  · rw [sound.fractionBits]
    decide
  · exact Nat.le_trans sound.rBits (by decide)
  · rw [sound.divBits table isDiv]
    decide

/-- The clock values of another branch are read as before. -/
theorem getDclk_progDclk_other (leaves : branch.Leaves other) (sound : other.Sound)
    (clkInfo : ClockInfo) (regs : ByteRegs)
    : getDclk other (progDclk branch clkInfo regs) = getDclk other regs := by
  apply getDclk_congr
  intro table member
  rw [progDclk_eq, cbMapMaskRead_writeRegs_other _ (leaves.loads table member)]
  apply cbMapMaskRead_writeTables_other regs (sound.room member)
  intro entry isEntry
  apply leaves.tables entry.2 _ table member
  rw [← entries_tables branch clkInfo]
  exact List.mem_map_of_mem isEntry

/-- So are they behind a write of a register in front of the tables. -/
theorem getDclk_writeReg_front (chipId : ChipId) (clockType : DclkType) (regs : ByteRegs)
    {reg : ByteReg} (front : reg ∈ frontRegs) (value mask : U8)
    : getDclk (dclkBranch chipId clockType) (regs.writeReg reg value mask)
      = getDclk (dclkBranch chipId clockType) regs :=
  getDclk_congr fun table member =>
    cbMapMaskRead_writeReg_other regs reg value mask fun place isPlace =>
      dclkBranch_front chipId clockType table member place isPlace reg front

-----
-- The divider values

variable {chip : ClockChip} {clockFreq : U32} {clkInfo : ClockInfo}

/-- The VCO value behind the divider. -/
def vcoFreq (clockFreq : U32) (i : Nat) : Nat := (clockFreq <<< i).toNat

theorem ulRefFreq_toNat (chip : ClockChip)
    : 240000 ≤ (ulRefFreq chip).toNat ∧ (ulRefFreq chip).toNat ≤ 270000 := by
  unfold ulRefFreq
  split <;> decide

theorem ulVcoValue_toNat (chipId : ChipId)
    : (ulVcoValue chipId).toNat = if chipId.fromChx004 then 16000000 else 12000000 := by
  unfold ulVcoValue
  split <;> rfl

/-- The divider that the loop takes puts the VCO in its range, and no larger one does. -/
theorem vcoDivider_spec {chipId : ChipId} {i : Nat} (found : vcoDivider chipId clockFreq = some i)
    : i ≤ rRange chipId
      ∧ (ulVcoValue chipId).toNat ≤ vcoFreq clockFreq i
      ∧ vcoFreq clockFreq i ≤ 2 * (ulVcoValue chipId).toNat := by
  have double : (2 * ulVcoValue chipId).toNat = 2 * (ulVcoValue chipId).toNat := by
    unfold ulVcoValue
    split <;> decide
  have member := List.mem_of_find?_eq_some found
  have holds := List.find?_some found
  rw [List.mem_reverse, List.mem_range] at member
  simp only [Bool.not_eq_true', Bool.or_eq_false_iff, decide_eq_false_iff_not, BitVec.lt_def,
    double, Nat.not_lt] at holds
  exact ⟨Nat.le_of_lt_succ member, holds⟩

/-- `cbCalCLK` accepts a frequency with a VCO in range and computes its divider values, none of
which is cut.
-/
theorem cbCalClk_spec (accepted : cbCalClk chip clockFreq = some clkInfo)
    : ∃ i, vcoDivider chip.chipId clockFreq = some i
      ∧ clkInfo.integer.toNat + 2 = vcoFreq clockFreq i / (ulRefFreq chip).toNat
      ∧ clkInfo.integer.toNat < 2 ^ 8
      ∧ clkInfo.fraction.toNat
        = vcoFreq clockFreq i % (ulRefFreq chip).toNat * 2 ^ 20 / (ulRefFreq chip).toNat
      ∧ clkInfo.fraction.toNat < 2 ^ 20
      ∧ clkInfo.r.toNat = (if chip.chipId = .e3k ∧ 3 < i then 3 else i)
      ∧ clkInfo.pllDiv.toNat = (if chip.chipId = .e3k ∧ 3 < i then i - 3 else 0) := by
  rw [cbCalClk] at accepted
  cases found : vcoDivider chip.chipId clockFreq with
  | none =>
    rw [found] at accepted
    cases accepted
  | some i =>
    rw [found] at accepted
    cases accepted
    obtain ⟨few, low, high⟩ := vcoDivider_spec found
    rw [ulVcoValue_toNat] at low high
    have range : rRange chip.chipId ≤ 7 := by
      unfold rRange
      split <;> decide
    obtain ⟨refLow, refHigh⟩ := ulRefFreq_toNat chip
    have quotientHigh : vcoFreq clockFreq i / (ulRefFreq chip).toNat ≤ 133 := by
      have step := Nat.div_le_div (show vcoFreq clockFreq i ≤ 32000000 by split at high <;> omega)
        refLow (by decide)
      exact Nat.le_trans step (by decide)
    have quotientLow : 44 ≤ vcoFreq clockFreq i / (ulRefFreq chip).toNat := by
      have step := Nat.div_le_div (show 12000000 ≤ vcoFreq clockFreq i by split at low <;> omega)
        refHigh (by omega)
      exact Nat.le_trans (by decide) step
    have rest : vcoFreq clockFreq i % (ulRefFreq chip).toNat < (ulRefFreq chip).toNat :=
      Nat.mod_lt _ (by omega)
    have fractionBound : vcoFreq clockFreq i % (ulRefFreq chip).toNat * 2 ^ 20
        / (ulRefFreq chip).toNat < 2 ^ 20 := by
      apply Nat.div_lt_of_lt_mul
      exact Nat.mul_lt_mul_of_pos_right rest (by decide)
    have shifted : ((clockFreq <<< i % ulRefFreq chip).setWidth 64 <<< 20 : U64).toNat
        = vcoFreq clockFreq i % (ulRefFreq chip).toNat * 2 ^ 20 := by
      rw [BitVec.toNat_shiftLeft, BitVec.toNat_setWidth, BitVec.toNat_umod, Nat.shiftLeft_eq]
      change vcoFreq clockFreq i % (ulRefFreq chip).toNat % 2 ^ 64 * 2 ^ 20 % 2 ^ 64 = _
      omega
    have fraction : ((((clockFreq <<< i % ulRefFreq chip).setWidth 64 <<< 20 : U64)
          / (ulRefFreq chip).setWidth 64).setWidth 32 : U32).toNat
        = vcoFreq clockFreq i % (ulRefFreq chip).toNat * 2 ^ 20 / (ulRefFreq chip).toNat := by
      have wide : ((ulRefFreq chip).setWidth 64 : U64).toNat = (ulRefFreq chip).toNat := by
        rw [BitVec.toNat_setWidth]
        omega
      rw [BitVec.toNat_setWidth, BitVec.toNat_udiv, shifted, wide]
      exact Nat.mod_eq_of_lt (Nat.lt_trans fractionBound (by decide))
    have integer : (((clockFreq <<< i / ulRefFreq chip).setWidth 8).setWidth 16 - 2 : U16).toNat + 2
        = vcoFreq clockFreq i / (ulRefFreq chip).toNat := by
      rw [BitVec.toNat_sub, BitVec.toNat_setWidth, BitVec.toNat_setWidth, BitVec.toNat_udiv]
      change (2 ^ 16 - 2 + vcoFreq clockFreq i / (ulRefFreq chip).toNat % 2 ^ 8 % 2 ^ 16) % 2 ^ 16
        + 2 = _
      omega
    refine ⟨i, rfl, integer, by dsimp only; omega, fraction, by rw [fraction]; exact fractionBound, ?_, ?_⟩
    · rw [BitVec.toNat_ofNat]
      split <;> omega
    · rw [BitVec.toNat_ofNat]
      split <;> omega

/-- `cbCalFreq` overflows on no values that the tables can hold. -/
theorem toNat_cbCalFreq (chip : ClockChip) {clock : ClockInfo}
    (integer : clock.integer.toNat < 2 ^ 8) (fraction : clock.fraction.toNat < 2 ^ 20)
    : (cbCalFreq chip clock).toNat
      = ((clock.integer.toNat + 2) * (ulRefFreq chip).toNat
          + clock.fraction.toNat * (ulRefFreq chip).toNat / 2 ^ 20)
        / 2 ^ (clock.r.toNat + clock.pllDiv.toNat) := by
  obtain ⟨refLow, refHigh⟩ := ulRefFreq_toNat chip
  have wholeBound : (clock.integer.toNat + 2) * (ulRefFreq chip).toNat ≤ 258 * 270000 :=
    Nat.mul_le_mul (by omega) refHigh
  have partBound : clock.fraction.toNat * (ulRefFreq chip).toNat ≤ 2 ^ 20 * 270000 :=
    Nat.mul_le_mul (by omega) refHigh
  have whole : ((clock.integer.setWidth 32 + 2) * ulRefFreq chip : U32).toNat
      = (clock.integer.toNat + 2) * (ulRefFreq chip).toNat := by
    rw [BitVec.toNat_mul, BitVec.toNat_add, BitVec.toNat_setWidth]
    change (clock.integer.toNat % 2 ^ 32 + 2) % 2 ^ 32 * _ % 2 ^ 32 = _
    rw [show (clock.integer.toNat % 2 ^ 32 + 2) % 2 ^ 32 = clock.integer.toNat + 2 by omega]
    omega
  have part : ((((clock.fraction.setWidth 64 * (ulRefFreq chip).setWidth 64 : U64) >>> 20)).setWidth
        32 : U32).toNat = clock.fraction.toNat * (ulRefFreq chip).toNat / 2 ^ 20 := by
    rw [BitVec.toNat_setWidth, BitVec.toNat_ushiftRight, BitVec.toNat_mul, BitVec.toNat_setWidth,
      BitVec.toNat_setWidth, Nat.shiftRight_eq_div_pow]
    have wide : clock.fraction.toNat % 2 ^ 64 * ((ulRefFreq chip).toNat % 2 ^ 64) % 2 ^ 64
        = clock.fraction.toNat * (ulRefFreq chip).toNat := by
      rw [show clock.fraction.toNat % 2 ^ 64 = clock.fraction.toNat by omega,
        show (ulRefFreq chip).toNat % 2 ^ 64 = (ulRefFreq chip).toNat by omega]
      omega
    rw [wide]
    omega
  rw [cbCalFreq, BitVec.toNat_ushiftRight, BitVec.toNat_add, whole, part,
    Nat.shiftRight_eq_div_pow]
  congr 1
  omega

/-- A frequency as it was asked for, or one less. -/
def Near (freq clockFreq : U32) : Prop :=
  freq.toNat ≤ clockFreq.toNat ∧ clockFreq.toNat ≤ freq.toNat + 1

instance (freq clockFreq : U32) : Decidable (Near freq clockFreq) :=
  inferInstanceAs (Decidable (_ ∧ _))

/-- The chip keeps the divider of the DCLK in a table of two bits and no other. -/
def NarrowDivider (chipId : ChipId) (clockType : DclkType) : Prop :=
  chipId = .other ∨ chipId.fromChx004 = true ∧ clockType = .dclk4

instance (chipId : ChipId) (clockType : DclkType) : Decidable (NarrowDivider chipId clockType) :=
  inferInstanceAs (Decidable (_ ∨ _))

/-- What the tables keep of the dividers for the divider `i` of the VCO. -/
theorem divider_bits (chipId : ChipId) (clockType : DclkType) {i : Nat} (few : i ≤ rRange chipId)
    : (if chipId = .e3k ∧ 3 < i then 3 else i)
          % 2 ^ tableBits (dclkBranch chipId clockType).rMap
        + (if (dclkBranch chipId clockType).divMap = none then 0
            else (if chipId = .e3k ∧ 3 < i then i - 3 else 0) % 2 ^ 2)
      = if NarrowDivider chipId clockType then i % 4 else i := by
  revert i
  cases chipId <;> cases clockType <;> decide

/-- What is read is the VCO value that was chosen, up to one, behind the divider bits that are
kept.
-/
theorem cbGetProgClock_progDclk (clockType : DclkType)
    (accepted : cbCalClk chip clockFreq = some clkInfo) (regs : ByteRegs)
    : ∃ i back, vcoDivider chip.chipId clockFreq = some i
      ∧ back ≤ vcoFreq clockFreq i ∧ vcoFreq clockFreq i ≤ back + 1
      ∧ (cbGetProgClock chip clockType
          (progDclk (dclkBranch chip.chipId clockType) clkInfo regs)).toNat
        = back / 2 ^ (if NarrowDivider chip.chipId clockType then i % 4 else i) := by
  obtain ⟨i, found, integer, integerBound, fraction, fractionBound, r, pllDiv⟩ :=
    cbCalClk_spec accepted
  obtain ⟨few, -, -⟩ := vcoDivider_spec found
  obtain ⟨refLow, refHigh⟩ := ulRefFreq_toNat chip
  obtain ⟨integerBack, fractionBack, rBack, pllDivBack⟩ :=
    getDclk_progDclk (dclkBranch_sound chip.chipId clockType) clkInfo regs
  obtain ⟨clock, isClock⟩ : ∃ clock, getDclk (dclkBranch chip.chipId clockType)
    (progDclk (dclkBranch chip.chipId clockType) clkInfo regs) = clock := ⟨_, rfl⟩
  rw [isClock] at integerBack fractionBack rBack pllDivBack
  rw [Nat.mod_eq_of_lt integerBound] at integerBack
  rw [Nat.mod_eq_of_lt fractionBound] at fractionBack
  rw [r] at rBack
  rw [pllDiv] at pllDivBack
  have shift : clock.r.toNat + clock.pllDiv.toNat
      = if NarrowDivider chip.chipId clockType then i % 4 else i := by
    rw [rBack, pllDivBack]
    exact divider_bits chip.chipId clockType few
  obtain ⟨below, above⟩ := quotient_fraction_back (vcoFreq clockFreq i) 20
    (show 0 < (ulRefFreq chip).toNat by omega) (Nat.le_trans refHigh (by decide))
  refine ⟨i, _, found, below, above, ?_⟩
  rw [cbGetProgClock, isClock, toNat_cbCalFreq chip (by omega) (by omega), integerBack,
    fractionBack, integer, fraction, shift]

-----
-- One clock

/-- The frequencies that a DCLK takes as they are: the VCO value does not wrap, and the table of
the divider has room.
-/
def Programmable (chipId : ChipId) (clockType : DclkType) (clockFreq : U32) : Prop :=
  clockFreq.toNat ≤ 2 * (ulVcoValue chipId).toNat
  ∧ (NarrowDivider chipId clockType → (ulVcoValue chipId).toNat < 8 * clockFreq.toNat)

instance (chipId : ChipId) (clockType : DclkType) (clockFreq : U32)
    : Decidable (Programmable chipId clockType clockFreq) :=
  inferInstanceAs (Decidable (_ ∧ (_ → _)))

/-- Up to twice the VCO frequency, and one more, no shift of the loop loses a bit. -/
theorem vcoFreq_eq {chipId : ChipId} (small : clockFreq.toNat ≤ 2 * (ulVcoValue chipId).toNat + 1)
    {i : Nat} (few : i ≤ rRange chipId) : vcoFreq clockFreq i = clockFreq.toNat * 2 ^ i := by
  rw [vcoFreq, BitVec.toNat_shiftLeft, Nat.shiftLeft_eq]
  apply Nat.mod_eq_of_lt
  have power : 2 ^ i ≤ 2 ^ rRange chipId := Nat.pow_le_pow_right (by decide) few
  have product := Nat.mul_le_mul small power
  have room : (2 * (ulVcoValue chipId).toNat + 1) * 2 ^ rRange chipId < 2 ^ 32 := by
    cases chipId <;> decide
  omega

/-- The divider is the largest that keeps the VCO below its maximum. -/
theorem vcoDivider_largest {chipId : ChipId} {i : Nat}
    (small : clockFreq.toNat ≤ 2 * (ulVcoValue chipId).toNat)
    (found : vcoDivider chipId clockFreq = some i)
    : 3 < i ↔ 8 * clockFreq.toNat ≤ (ulVcoValue chipId).toNat := by
  obtain ⟨few, low, high⟩ := vcoDivider_spec found
  rw [vcoFreq_eq (Nat.le_succ_of_le small) few] at low high
  constructor
  · intro large
    have power : 2 ^ 4 ≤ 2 ^ i := Nat.pow_le_pow_right (by decide) large
    have product := Nat.mul_le_mul_left clockFreq.toNat power
    omega
  · intro slow
    by_contra little
    -- the next larger divider would still be in range
    have range : i + 1 ≤ rRange chipId := by
      unfold rRange
      split <;> omega
    have power : 2 ^ (i + 1) ≤ 2 ^ 4 := Nat.pow_le_pow_right (by decide) (by omega)
    have product := Nat.mul_le_mul_left clockFreq.toNat power
    have next := find?_reverse_range found (i + 1) (Nat.lt_succ_self i) (Nat.lt_succ_of_le range)
    have double : (2 * ulVcoValue chipId).toNat = 2 * (ulVcoValue chipId).toNat := by
      cases chipId <;> decide
    have value := vcoFreq_eq (Nat.le_succ_of_le small) range
    rw [vcoFreq] at value
    have grow : clockFreq.toNat * 2 ^ (i + 1) = clockFreq.toNat * 2 ^ i * 2 := by
      rw [Nat.pow_succ, Nat.mul_assoc]
    simp only [Bool.not_eq_false', Bool.or_eq_true, decide_eq_true_eq, BitVec.lt_def, double,
      value] at next
    omega

/-- An accepted frequency is written behind the reset modes of `CR_C_AB`. -/
theorem cbProgClock_accepted (running : chip.bRunOnQt = false) {clockType : DclkType}
    {regs : ByteRegs} (accepted : (cbProgClock chip clockFreq clockType regs).1 = true)
    : ∃ clkInfo, cbCalClk chip clockFreq = some clkInfo
      ∧ (cbProgClock chip clockFreq clockType regs).2
        = progDclk (dclkBranch chip.chipId clockType) clkInfo
            (regs.writeReg ⟨.crC, 0xAB⟩ 0 0xFC) := by
  rw [cbProgClock, running] at accepted ⊢
  cases calculated : cbCalClk chip clockFreq with
  | none =>
    rw [calculated] at accepted
    cases accepted
  | some clkInfo => exact ⟨clkInfo, rfl, rfl⟩

/-- An accepted frequency is read back, up to one, exactly when it is at most twice the VCO
frequency and its divider fits the table of the DCLK.
-/
theorem cbGetProgClock_near_iff (running : chip.bRunOnQt = false) (clockType : DclkType)
    (regs : ByteRegs) (accepted : (cbProgClock chip clockFreq clockType regs).1 = true)
    : Near (cbGetProgClock chip clockType (cbProgClock chip clockFreq clockType regs).2) clockFreq
      ↔ Programmable chip.chipId clockType clockFreq := by
  obtain ⟨clkInfo, calculated, written⟩ := cbProgClock_accepted running accepted
  obtain ⟨i, back, found, below, above, read⟩ :=
    cbGetProgClock_progDclk clockType calculated (regs.writeReg ⟨.crC, 0xAB⟩ 0 0xFC)
  obtain ⟨few, low, high⟩ := vcoDivider_spec found
  rw [written, Near, read]
  constructor
  · rintro ⟨notAbove, near⟩
    have bound : back / 2 ^ (if NarrowDivider chip.chipId clockType then i % 4 else i) ≤ back :=
      Nat.div_le_self _ _
    have unwrapped := vcoFreq_eq (show clockFreq.toNat
      ≤ 2 * (ulVcoValue chip.chipId).toNat + 1 by omega) few
    have grown : clockFreq.toNat * 1 ≤ clockFreq.toNat * 2 ^ i :=
      Nat.mul_le_mul_left _ (Nat.one_le_two_pow)
    have small : clockFreq.toNat ≤ 2 * (ulVcoValue chip.chipId).toNat := by omega
    refine ⟨small, fun narrow => ?_⟩
    by_contra slow
    have large := (vcoDivider_largest small found).mpr (Nat.le_of_not_lt slow)
    have power : 2 ^ 4 ≤ 2 ^ i := Nat.pow_le_pow_right (by decide) large
    have power' : 2 ^ (i % 4) ≤ 2 ^ 3 := Nat.pow_le_pow_right (by decide) (by omega)
    have vco := Nat.mul_le_mul_left clockFreq.toNat power
    have vcoValue := ulVcoValue_toNat chip.chipId
    rw [if_pos narrow] at notAbove near
    have kept := Nat.lt_div_mul_add (a := back) (Nat.two_pow_pos (i % 4))
    have product := Nat.mul_le_mul notAbove power'
    split at vcoValue <;> omega
  · rintro ⟨small, fits⟩
    have unwrapped := vcoFreq_eq (Nat.le_succ_of_le small) few
    have divider : (if NarrowDivider chip.chipId clockType then i % 4 else i) = i := by
      split
      · rename_i narrow
        have large := fits narrow
        have bound := vcoDivider_largest small found
        omega
      · rfl
    rw [divider]
    rw [unwrapped] at below above
    exact multiple_back (Nat.two_pow_pos i) below above

theorem cbGetProgClock_near_iff_uhd
    : Near (cbGetProgClock ⟨.chx004, false, false⟩ .dclk1
          (cbProgClock ⟨.chx004, false, false⟩ 5940000 .dclk1 fun _ => 0).2) 5940000
      ↔ Programmable .chx004 .dclk1 5940000 :=
  cbGetProgClock_near_iff rfl .dclk1 _ (by decide)

/-- The other DCLKs are read as before. -/
theorem cbGetProgClock_other {clockType other : DclkType} (ne : clockType ≠ other)
    (regs : ByteRegs)
    : cbGetProgClock chip other (cbProgClock chip clockFreq clockType regs).2
      = cbGetProgClock chip other regs := by
  rw [cbProgClock]
  split
  · rfl
  · cases cbCalClk chip clockFreq with
    | none => rfl
    | some clkInfo =>
      simp only [cbGetProgClock]
      rw [getDclk_progDclk_other (dclkBranch_leaves chip.chipId ne)
        (dclkBranch_sound chip.chipId other), getDclk_writeReg_front _ _ _ (by decide)]

-----
-- Runs of `cbProgramDclk`

/-- A call of `cbProgramDclk`. -/
structure DclkRequest where
  igaIndex : IgaIndex
  clockFreq : U32

/-- Calls of `cbProgramDclk` in a row. -/
def programDclks (chip : ClockChip) (requests : List DclkRequest) (regs : ByteRegs) : ByteRegs :=
  requests.foldl
    (fun regs request => cbProgramDclk chip request.igaIndex request.clockFreq regs) regs

/-- The frequency that a DCLK should run at: the last one that was accepted for it. -/
def lastAccepted (chip : ClockChip) (requests : List DclkRequest) (clockType : DclkType)
    : Option U32 :=
  (requests.filter fun request =>
    decide (dclkOfIga request.igaIndex = clockType)
      && (cbCalClk chip request.clockFreq).isSome).getLast?.map DclkRequest.clockFreq

/-- The register writes in front of the tables change no clock. -/
theorem cbGetProgClock_front (clockType : DclkType) (regs : ByteRegs) {reg : ByteReg}
    (front : reg ∈ frontRegs) (value mask : U8)
    : cbGetProgClock chip clockType (regs.writeReg reg value mask)
      = cbGetProgClock chip clockType regs := by
  rw [cbGetProgClock, getDclk_writeReg_front _ _ _ front, ← cbGetProgClock]

/-- `cbProgramDclk` is `cbProgClock` on registers that have the same clocks. -/
theorem cbProgramDclk_eq (chip : ClockChip) (request : DclkRequest) (regs : ByteRegs)
    : ∃ regs', (∀ clockType, cbGetProgClock chip clockType regs' = cbGetProgClock chip clockType regs)
      ∧ cbProgramDclk chip request.igaIndex request.clockFreq regs
        = (cbProgClock chip request.clockFreq (dclkOfIga request.igaIndex) regs').2 := by
  refine ⟨_, fun clockType => ?_, rfl⟩
  rw [cbGetProgClock_front _ _ (by decide)]
  split
  · exact cbGetProgClock_front _ _ (by decide) _ _
  · rfl

/-- A DCLK reads the last frequency that was accepted for it, up to one, and what it read at first
when there is none.
-/
def ReadsLast (chip : ClockChip) (requests : List DclkRequest) (clockType : DclkType)
    (regs : ByteRegs) : Prop :=
  match lastAccepted chip requests clockType with
  | some clockFreq =>
      Near (cbGetProgClock chip clockType (programDclks chip requests regs)) clockFreq
  | none =>
      cbGetProgClock chip clockType (programDclks chip requests regs)
        = cbGetProgClock chip clockType regs

/-- After any calls of `cbProgramDclk` for any IGAs, every DCLK reads the last frequency that was
accepted for it.
-/
theorem programDclks_reads (running : chip.bRunOnQt = false) (requests : List DclkRequest)
    (programmable : ∀ request ∈ requests,
      Programmable chip.chipId (dclkOfIga request.igaIndex) request.clockFreq)
    (clockType : DclkType) (regs : ByteRegs)
    : ReadsLast chip requests clockType regs := by
  unfold ReadsLast
  induction requests using List.reverseRecOn with
  | nil => rfl
  | append_singleton requests request ih =>
    have earlier := ih fun other member => programmable other (List.mem_append_left _ member)
    obtain ⟨before, sameClocks, step⟩ :=
      cbProgramDclk_eq chip request (programDclks chip requests regs)
    have run : programDclks chip (requests ++ [request]) regs
        = (cbProgClock chip request.clockFreq (dclkOfIga request.igaIndex) before).2 := by
      rw [← step, programDclks, List.foldl_append]
      rfl
    rw [run]
    by_cases mine : dclkOfIga request.igaIndex = clockType
    · cases calculated : cbCalClk chip request.clockFreq with
      | some clkInfo =>
        have last : lastAccepted chip (requests ++ [request]) clockType
            = some request.clockFreq := by
          simp [lastAccepted, List.filter_append, mine, calculated]
        have accepted : (cbProgClock chip request.clockFreq clockType before).1 = true := by
          simp [cbProgClock, running, calculated]
        rw [last, mine]
        apply (cbGetProgClock_near_iff running clockType before accepted).mpr
        rw [← mine]
        exact programmable request (List.mem_append_right _ (List.mem_singleton_self request))
      | none =>
        have last : lastAccepted chip (requests ++ [request]) clockType
            = lastAccepted chip requests clockType := by
          simp [lastAccepted, List.filter_append, calculated]
        have unchanged : (cbProgClock chip request.clockFreq (dclkOfIga request.igaIndex) before).2
            = before := by
          simp [cbProgClock, running, calculated]
        rw [last, unchanged, sameClocks]
        exact earlier
    · have last : lastAccepted chip (requests ++ [request]) clockType
          = lastAccepted chip requests clockType := by
        simp [lastAccepted, List.filter_append, mine]
      rw [last, cbGetProgClock_other mine, sameClocks]
      exact earlier

/-- The clocks of 1080p60 and VGA, where the second IGA is set twice. -/
theorem programDclks_reads_twoIgas
    : ReadsLast ⟨.chx004, true, false⟩ [⟨.iga2, 1485000⟩, ⟨.iga1, 1485000⟩, ⟨.iga2, 251750⟩] .dclk2
        fun _ => 0x5A :=
  programDclks_reads rfl _ (by decide) .dclk2 _

end Cx4Kernel.Cbios
