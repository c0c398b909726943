import Cx4Kernel.Cbios.ProgClockReads
import Cx4Kernel.Cbios.SrTiming

/-! Which registers `cbDstTimingRegSetting` writes, and what the timing tables of an IGA hold
afterwards.
-/

namespace Cx4Kernel.Cbios

open Cx4Kernel.Foundation

-----
-- The registers of a timing

/-- The tables of a device timing. -/
def srTimingTables : List (List (ByteReg × U8)) :=
  [hss2RegIndex, ht2RegIndex, hse2RegIndex, hde2RegIndex, hbs2RegIndex, hbe2RegIndex, vt2RegIndex,
    vde2RegIndex, vbs2RegIndex, vbe2RegIndex, vss2RegIndex, vse2RegIndex]

/-- The registers that `cbSetSRTimingReg_E3K` writes for the first IGA. -/
def srTimingRegs : List ByteReg :=
  [⟨.cr, 0x58⟩, ⟨.cr, 0x72⟩, ⟨.cr, 0x73⟩, ⟨.sr, 0x57⟩, ⟨.sr, 0x58⟩]
    ++ srTimingTables.flatten.map Prod.fst

theorem srTimingTables_regs
    : ∀ table ∈ srTimingTables, ∀ place ∈ table, place.1 ∈ srTimingRegs := by
  decide

/-- The tables select distinct bits for every IGA. -/
theorem srTimingTables_apart (igaIndex : IgaIndex)
    : srTimingTables.Pairwise fun table later => ApartAt igaIndex later table := by
  cases igaIndex <;> decide

theorem srTimingTables_selfApart (igaIndex : IgaIndex)
    : ∀ table ∈ srTimingTables, (placesForIga table igaIndex).Pairwise PlacesApart := by
  cases igaIndex <;> decide

theorem srTimingTables_bits : ∀ table ∈ srTimingTables, tableBits table ≤ 16 := by
  decide

/-- The three registers with single bits are in no table. -/
theorem srTimingTables_single
    : ∀ table ∈ srTimingTables, ∀ place ∈ table, ∀ index ∈ [0x57, 0x58, 0x72, 0x73],
        place.1.index ≠ index := by
  decide

@[simp]
theorem ByteReg.forIga_index (reg : ByteReg) (igaIndex : IgaIndex)
    : (reg.forIga igaIndex).index = reg.index :=
  rfl

/-- The IGAs have groups of their own. -/
theorem srTimingRegs_forIga {igaIndex other : IgaIndex} (ne : igaIndex ≠ other)
    (isIga : igaIndex ≠ .noIga) (isIga' : other ≠ .noIga)
    : ∀ reg ∈ srTimingRegs, ∀ reg' ∈ srTimingRegs, reg.forIga igaIndex ≠ reg'.forIga other := by
  have types : ∀ reg ∈ srTimingRegs, reg.type = .cr ∨ reg.type = .sr := by decide
  have groups : ∀ type ∈ [RegType.cr, .sr], ∀ type' ∈ [RegType.cr, .sr],
      type.inType igaIndex ≠ type'.inType other := by
    cases igaIndex <;> cases other <;>
      first
      | exact absurd rfl ne
      | exact absurd rfl isIga
      | exact absurd rfl isIga'
      | decide
  intro reg member reg' member' same
  exact groups reg.type (by simpa using types reg member) reg'.type
    (by simpa using types reg' member') (congrArg ByteReg.type same)

-----
-- What is written

/-- `cbSetSRTimingReg_E3K` writes the timing registers of its IGA only. -/
theorem cbSetSrTimingRegE3k_other (timing : TimingAttrib) {igaIndex : IgaIndex} (regs : ByteRegs)
    {reg : ByteReg} (outside : ∀ own ∈ srTimingRegs, own.forIga igaIndex ≠ reg)
    : cbSetSrTimingRegE3k timing igaIndex regs reg = regs reg := by
  have write (regs : ByteRegs) (own : ByteReg) (value mask : U8) (isOwn : own ∈ srTimingRegs)
      : regs.biosWriteReg own value mask igaIndex reg = regs reg :=
    ByteRegs.writeReg_other regs value mask (outside own isOwn).symm
  have hde (regs : ByteRegs) (horDisEnd : U16)
      : setHdeRemainder horDisEnd igaIndex regs reg = regs reg := by
    unfold setHdeRemainder
    split
    · rw [write _ _ _ _ (by decide), write _ _ _ _ (by decide)]
    · rw [write _ _ _ _ (by decide)]
  have tables (entries : List (U32 × List (ByteReg × U8)))
      (areTables : ∀ entry ∈ entries, entry.2 ∈ srTimingTables) (regs : ByteRegs)
      : writeTables igaIndex entries regs reg = regs reg :=
    writeTables_other regs fun entry member place isPlace =>
      outside place.1 (srTimingTables_regs entry.2 (areTables entry member) place isPlace)
  unfold cbSetSrTimingRegE3k
  dsimp only
  split <;>
    rw [write _ _ _ _ (by decide), write _ _ _ _ (by decide),
      tables _ (by simp [srDisplayEntries, srTimingTables]), hde,
      tables _ (by simp [srSyncEntries, srTimingTables]), write _ _ _ _ (by decide),
      write _ _ _ _ (by decide), write _ _ _ _ (by decide)]

/-- The registers that programming a DCLK writes. -/
def dclkRegs (chipId : ChipId) (clockType : DclkType) : List ByteReg :=
  frontRegs ++ (dclkBranch chipId clockType).tables.flatten.map Prod.fst
    ++ (dclkBranch chipId clockType).loads.map Prod.fst

/-- `cbProgramDclk` writes the registers of its DCLK only. -/
theorem cbProgramDclk_other (chip : ClockChip) (igaIndex : IgaIndex) (clockFreq : U32)
    (regs : ByteRegs) {reg : ByteReg}
    (outside : ∀ own ∈ dclkRegs chip.chipId (dclkOfIga igaIndex), own ≠ reg)
    : cbProgramDclk chip igaIndex clockFreq regs reg = regs reg := by
  have front (regs : ByteRegs) (own : ByteReg) (value mask : U8) (isFront : own ∈ frontRegs)
      : regs.writeReg own value mask reg = regs reg := by
    apply ByteRegs.writeReg_other regs value mask (outside own _).symm
    simp [dclkRegs, isFront]
  have loads (writes : List (ByteReg × U8 × U8)) (regs : ByteRegs)
      (outside : ∀ write ∈ writes, write.1 ≠ reg)
      : regs.writeRegs writes reg = regs reg := by
    induction writes generalizing regs with
    | nil => rfl
    | cons write rest ih =>
      rw [ByteRegs.writeRegs, List.foldl_cons, ← ByteRegs.writeRegs,
        ih _ fun later member => outside later (List.mem_cons_of_mem _ member)]
      exact ByteRegs.writeReg_other regs _ _ (outside write List.mem_cons_self).symm
  have branch (clkInfo : ClockInfo) (regs : ByteRegs)
      : progDclk (dclkBranch chip.chipId (dclkOfIga igaIndex)) clkInfo regs reg = regs reg := by
    rw [progDclk_eq, loads _ _ fun write member => outside _ (by
      simp only [dclkRegs, List.mem_append, List.mem_map]
      exact Or.inr ⟨write, member, rfl⟩)]
    apply writeTables_other
    intro entry member place isPlace
    apply outside
    simp only [dclkRegs, List.mem_append, List.mem_map, List.mem_flatten]
    refine Or.inl (Or.inr ⟨place, ⟨entry.2, ?_, isPlace⟩, rfl⟩)
    rw [← entries_tables _ clkInfo]
    exact List.mem_map_of_mem member
  have prog (regs : ByteRegs)
      : (cbProgClock chip clockFreq (dclkOfIga igaIndex) regs).2 reg = regs reg := by
    rw [cbProgClock]
    split
    · rfl
    · cases cbCalClk chip clockFreq with
      | none => rfl
      | some clkInfo =>
        dsimp only
        rw [branch, front _ _ _ _ (by decide)]
  unfold cbProgramDclk
  rw [prog, front _ _ _ _ (by decide)]
  split
  · exact front _ _ _ _ (by decide)
  · rfl

/-- What `cbDstTimingRegSetting` does behind the DCLK. -/
def dstCounters (params : DispModeParams) (igaIndex : IgaIndex) (regs : ByteRegs) : ByteRegs :=
  let regs := regs.biosWriteReg ⟨.cr, 0x23⟩ 0 0 igaIndex
  let regs := regs.biosWriteReg ⟨.cr, 0x29⟩ 0 0 igaIndex
  let regs := regs.biosWriteReg ⟨.cr, 0x26⟩ 0 0 igaIndex
  let regs := regs.writeReg ⟨.crB, 0xF5⟩ 0x00 0xDF
  cbSetPixelRepetition params.pixelRepitition igaIndex regs

theorem cbDstTimingRegSetting_eq (chip : ClockChip) (params : DispModeParams)
    (igaIndex : IgaIndex) (regs : ByteRegs)
    : cbDstTimingRegSetting chip params igaIndex regs
      = dstCounters params igaIndex (cbProgramDclk chip igaIndex params.pllClock
          (cbSetSrTimingRegE3k params.targetTiming igaIndex regs)) :=
  rfl

/-- The registers that `dstCounters` writes. -/
def dstCounterRegs (igaIndex : IgaIndex) : List ByteReg :=
  [ByteReg.forIga ⟨.cr, 0x23⟩ igaIndex, ByteReg.forIga ⟨.cr, 0x29⟩ igaIndex,
    ByteReg.forIga ⟨.cr, 0x26⟩ igaIndex, ⟨.crB, 0xF5⟩, ⟨.cr, 0xF1⟩]

theorem dstCounters_other (params : DispModeParams) {igaIndex : IgaIndex} (regs : ByteRegs)
    {reg : ByteReg} (outside : ∀ own ∈ dstCounterRegs igaIndex, own ≠ reg)
    : dstCounters params igaIndex regs reg = regs reg := by
  have write (regs : ByteRegs) (own : ByteReg) (value mask : U8)
      (isOwn : own ∈ dstCounterRegs igaIndex) : regs.writeReg own value mask reg = regs reg :=
    ByteRegs.writeReg_other regs value mask (outside own isOwn).symm
  have f1 : (⟨.cr, 0xF1⟩ : ByteReg) ∈ dstCounterRegs igaIndex := by simp [dstCounterRegs]
  have repetition (regs : ByteRegs)
      : cbSetPixelRepetition params.pixelRepitition igaIndex regs reg = regs reg := by
    unfold cbSetPixelRepetition
    dsimp only
    split
    · split <;> exact write _ _ _ _ f1
    · split
      · split <;> exact write _ _ _ _ f1
      · split
        · split <;> exact write _ _ _ _ f1
        · rfl
  unfold dstCounters ByteRegs.biosWriteReg
  rw [repetition, write _ _ _ _ (by simp [dstCounterRegs]), write _ _ _ _ (by simp [dstCounterRegs]),
    write _ _ _ _ (by simp [dstCounterRegs]), write _ _ _ _ (by simp [dstCounterRegs])]

-----
-- What a timing leaves in the registers of its IGA

/-- The registers of an IGA hold a timing. -/
structure SrTimingHolds (patch : HbackPatch) (igaIndex : IgaIndex) (regs : ByteRegs) : Prop where
  tables : ∀ entry ∈ srSyncEntries (srTimingReg patch.timing)
      ++ srDisplayEntries (srTimingReg patch.timing),
    (cbMapMaskRead regs entry.2 igaIndex).toNat = entry.1.toNat % 2 ^ tableBits entry.2
  hssRemainder : BitField.get ⟨0, 3⟩ (regs (ByteReg.forIga ⟨.cr, 0x72⟩ igaIndex))
    = (srTimingReg patch.timing).hssRemainder.toNat
  hSyncRemainder : BitField.get ⟨3, 3⟩ (regs (ByteReg.forIga ⟨.cr, 0x72⟩ igaIndex))
    = (srTimingReg patch.timing).hSyncRemainder.toNat
  hBackPorchRemainder : BitField.get ⟨0, 3⟩ (regs (ByteReg.forIga ⟨.cr, 0x73⟩ igaIndex))
    = (srTimingReg patch.timing).hBackPorchRemainder.toNat
  hdeRemainder : BitField.get ⟨0, 4⟩ (regs (ByteReg.forIga ⟨.cr, 0x58⟩ igaIndex))
    = if patch.timing.horDisEnd.toNat % 8 = 0 then 0
      else 8 + (patch.timing.horDisEnd.toNat % 8 - 1)
  hSyncDelay : (regs (ByteReg.forIga ⟨.sr, 0x57⟩ igaIndex)).toNat
    = patch.hSyncDelay.toNat % 2 ^ 8
  vSyncDelay : BitField.get ⟨0, 6⟩ (regs (ByteReg.forIga ⟨.sr, 0x58⟩ igaIndex))
    = patch.vSyncDelay.toNat

/-- The registers of the IGA tell whether they hold a timing. -/
theorem SrTimingHolds.congr {patch : HbackPatch} {igaIndex : IgaIndex} {regs regs' : ByteRegs}
    (holds : SrTimingHolds patch igaIndex regs)
    (same : ∀ reg ∈ srTimingRegs, regs' (reg.forIga igaIndex) = regs (reg.forIga igaIndex))
    : SrTimingHolds patch igaIndex regs' where
  tables := by
    intro entry member
    have isTable : entry.2 ∈ srTimingTables := by
      have all : ∀ entry ∈ srSyncEntries (srTimingReg patch.timing)
          ++ srDisplayEntries (srTimingReg patch.timing), entry.2 ∈ srTimingTables := by
        simp [srSyncEntries, srDisplayEntries, srTimingTables]
      exact all entry member
    rw [← holds.tables entry member, cbMapMaskRead_congr]
    exact fun place isPlace => same place.1 (srTimingTables_regs entry.2 isTable place isPlace)
  hssRemainder := by rw [same _ (by decide)]; exact holds.hssRemainder
  hSyncRemainder := by rw [same _ (by decide)]; exact holds.hSyncRemainder
  hBackPorchRemainder := by rw [same _ (by decide)]; exact holds.hBackPorchRemainder
  hdeRemainder := by rw [same _ (by decide)]; exact holds.hdeRemainder
  hSyncDelay := by rw [same _ (by decide)]; exact holds.hSyncDelay
  vSyncDelay := by rw [same _ (by decide)]; exact holds.vSyncDelay

/-- `cbSetSRTimingReg_E3K` up to the delays of the scaler. -/
def srTimingBody (timing : TimingAttrib) (igaIndex : IgaIndex) (regs : ByteRegs) : ByteRegs :=
  let reg := srTimingReg timing
  let regs := regs.biosWriteReg ⟨.cr, 0x72⟩ reg.hssRemainder 0xF8 igaIndex
  let regs := regs.biosWriteReg ⟨.cr, 0x72⟩ (reg.hSyncRemainder <<< 3) 0xC7 igaIndex
  let regs := regs.biosWriteReg ⟨.cr, 0x73⟩ reg.hBackPorchRemainder 0xF8 igaIndex
  let regs := writeTables igaIndex (srSyncEntries reg) regs
  let regs := setHdeRemainder timing.horDisEnd igaIndex regs
  writeTables igaIndex (srDisplayEntries reg) regs

/-- The delays of the scaler. -/
def setDelays (hSyncDelay vSyncDelay : U8) (igaIndex : IgaIndex) (regs : ByteRegs) : ByteRegs :=
  let regs := regs.biosWriteReg ⟨.sr, 0x57⟩ hSyncDelay 0x0 igaIndex
  regs.biosWriteReg ⟨.sr, 0x58⟩ vSyncDelay 0xC0 igaIndex

/-- The delays are those of the patch, and it has at most one line. -/
theorem hbackPatch_delays (timing : TimingAttrib)
    : (hbackPatch timing).vSyncDelay.toNat ≤ 1
      ∧ ((hbackPatch timing).isUseHbackPatch = false
        → (hbackPatch timing).hSyncDelay = 0 ∧ (hbackPatch timing).vSyncDelay = 0) := by
  unfold hbackPatch
  dsimp only
  split
  · split <;> simp
  · simp

theorem cbSetSrTimingRegE3k_eq (timing : TimingAttrib) (igaIndex : IgaIndex) (regs : ByteRegs)
    : cbSetSrTimingRegE3k timing igaIndex regs
      = setDelays ((hbackPatch timing).hSyncDelay.setWidth 8)
          ((hbackPatch timing).vSyncDelay.setWidth 8) igaIndex
          (srTimingBody (hbackPatch timing).timing igaIndex regs) := by
  unfold cbSetSrTimingRegE3k setDelays srTimingBody
  dsimp only
  cases used : (hbackPatch timing).isUseHbackPatch with
  | true => rfl
  | false =>
    obtain ⟨hSyncDelay, vSyncDelay⟩ := (hbackPatch_delays timing).2 used
    rw [hSyncDelay, vSyncDelay]
    rfl

variable {igaIndex : IgaIndex}

/-- Writes of the tables leave the registers with single bits. -/
theorem writeTables_single {entries : List (U32 × List (ByteReg × U8))}
    (areTables : ∀ entry ∈ entries, entry.2 ∈ srTimingTables) (regs : ByteRegs) {reg : ByteReg}
    (single : reg.index ∈ ([0x57, 0x58, 0x72, 0x73] : List U8))
    : writeTables igaIndex entries regs (reg.forIga igaIndex) = regs (reg.forIga igaIndex) :=
  writeTables_other regs fun entry member place isPlace same =>
    srTimingTables_single entry.2 (areTables entry member) place isPlace reg.index single
      (by simpa using congrArg ByteReg.index same)

theorem srSyncEntries_tables (reg : TimingRegE3k)
    : ∀ entry ∈ srSyncEntries reg, entry.2 ∈ srTimingTables := by
  simp [srSyncEntries, srTimingTables]

theorem srDisplayEntries_tables (reg : TimingRegE3k)
    : ∀ entry ∈ srDisplayEntries reg, entry.2 ∈ srTimingTables := by
  simp [srDisplayEntries, srTimingTables]

theorem setHdeRemainder_other (horDisEnd : U16) (regs : ByteRegs) {reg : ByteReg}
    (ne : reg ≠ ByteReg.forIga ⟨.cr, 0x58⟩ igaIndex)
    : setHdeRemainder horDisEnd igaIndex regs reg = regs reg := by
  unfold setHdeRemainder ByteRegs.biosWriteReg
  split
  · rw [ByteRegs.writeReg_other _ _ _ ne, ByteRegs.writeReg_other _ _ _ ne]
  · rw [ByteRegs.writeReg_other _ _ _ ne]

/-- The adjustment of `HorDisEnd` and whether it is on. -/
theorem setHdeRemainder_own (horDisEnd : U16) (regs : ByteRegs)
    : BitField.get ⟨0, 4⟩
        (setHdeRemainder horDisEnd igaIndex regs (ByteReg.forIga ⟨.cr, 0x58⟩ igaIndex))
      = if horDisEnd.toNat % 8 = 0 then 0 else 8 + (horDisEnd.toNat % 8 - 1) := by
  have rest : ((horDisEnd % 8).setWidth 8 : U8).toNat = horDisEnd.toNat % 8 := by
    rw [BitVec.toNat_setWidth, BitVec.toNat_umod]
    change horDisEnd.toNat % 8 % 2 ^ 8 = _
    omega
  unfold setHdeRemainder ByteRegs.biosWriteReg
  dsimp only
  by_cases whole : horDisEnd.toNat % 8 = 0
  · have zero : ((horDisEnd % 8).setWidth 8 : U8) = 0 := by
      apply BitVec.eq_of_toNat_eq
      rw [rest, whole]
      rfl
    have write := ByteRegs.writeReg_field regs (ByteReg.forIga ⟨.cr, 0x58⟩ igaIndex) ⟨0, 4⟩
      (show (0x00 : U8).toNat < 2 ^ 4 by decide) (ByteReg.forIga ⟨.cr, 0x58⟩ igaIndex)
    rw [if_pos rfl, show ~~~(BitField.mk 0 4).mask = (0xF0 : U8) by decide,
      show (0x00 : U8) <<< (BitField.mk 0 4).offset = 0x00 by decide] at write
    rw [if_neg (not_not.mpr zero), if_pos whole, write, BitField.get_put _ _ _ (by decide)]
    rfl
  · obtain ⟨adjust, isAdjust⟩ : ∃ adjust : U8,
        ((horDisEnd % 8).setWidth 8 - 1 : U8) &&& 0x07 = adjust := ⟨_, rfl⟩
    have value : adjust.toNat = horDisEnd.toNat % 8 - 1 := by
      have less : ((horDisEnd % 8).setWidth 8 - 1 : U8).toNat = horDisEnd.toNat % 8 - 1 := by
        rw [BitVec.toNat_sub, rest]
        change (2 ^ 8 - 1 + horDisEnd.toNat % 8) % 2 ^ 8 = _
        omega
      rw [← isAdjust, BitVec.toNat_and, less]
      change _ &&& (2 ^ 3 - 1) = _
      rw [Nat.and_two_pow_sub_one_eq_mod]
      omega
    have first := ByteRegs.writeReg_field regs (ByteReg.forIga ⟨.cr, 0x58⟩ igaIndex) ⟨0, 3⟩
      (show adjust.toNat < 2 ^ 3 by omega) (ByteReg.forIga ⟨.cr, 0x58⟩ igaIndex)
    rw [if_pos rfl, show ~~~(BitField.mk 0 3).mask = (0xF8 : U8) by decide,
      BitVec.shiftLeft_zero] at first
    have second := ByteRegs.writeReg_field
      (regs.writeReg (ByteReg.forIga ⟨.cr, 0x58⟩ igaIndex) adjust 0xF8)
      (ByteReg.forIga ⟨.cr, 0x58⟩ igaIndex) ⟨3, 1⟩ (show (0x01 : U8).toNat < 2 ^ 1 by decide)
      (ByteReg.forIga ⟨.cr, 0x58⟩ igaIndex)
    rw [if_pos rfl, show ~~~(BitField.mk 3 1).mask = (0xF7 : U8) by decide,
      show (0x01 : U8) <<< (BitField.mk 3 1).offset = 0x08 by decide, first] at second
    have nonzero : ((horDisEnd % 8).setWidth 8 : U8) ≠ 0 := by
      intro zero
      rw [zero] at rest
      exact whole rest.symm
    rw [if_pos nonzero, if_neg whole, isAdjust, second,
      ← BitField.get_append _ 0 3 1, BitField.get_put_other (by decide),
      BitField.get_put _ _ _ (by decide), BitField.get_put _ _ _ (by decide), value]
    simp
    omega

/-- Every table holds its number. -/
theorem cbMapMaskRead_srTimingBody (timing : TimingAttrib) (regs : ByteRegs)
    {entry : U32 × List (ByteReg × U8)}
    (member : entry ∈ srSyncEntries (srTimingReg timing) ++ srDisplayEntries (srTimingReg timing))
    : (cbMapMaskRead (srTimingBody timing igaIndex regs) entry.2 igaIndex).toNat
      = entry.1.toNat % 2 ^ tableBits entry.2 := by
  obtain ⟨reg, isReg⟩ : ∃ reg, srTimingReg timing = reg := ⟨_, rfl⟩
  have isTable : entry.2 ∈ srTimingTables := by
    rcases List.mem_append.mp member with sync | display
    · exact srSyncEntries_tables _ entry sync
    · exact srDisplayEntries_tables _ entry display
  have room : tableBits entry.2 ≤ 32 := Nat.le_trans (srTimingTables_bits entry.2 isTable) (by decide)
  have selfApart := srTimingTables_selfApart igaIndex entry.2 isTable
  have apart : ((srSyncEntries reg).map Prod.snd
      ++ (srDisplayEntries reg).map Prod.snd).Pairwise
      fun table later => ApartAt igaIndex later table := by
    have perm : ((srSyncEntries reg).map Prod.snd ++ (srDisplayEntries reg).map Prod.snd)
        = srTimingTables := rfl
    rw [perm]
    exact srTimingTables_apart igaIndex
  obtain ⟨syncApart, displayApart, across⟩ := List.pairwise_append.mp apart
  unfold srTimingBody
  rw [isReg] at member ⊢
  rcases List.mem_append.mp member with sync | display
  · rw [cbMapMaskRead_writeTables_other _ room fun later isLater =>
      across _ (List.mem_map_of_mem sync) _ (List.mem_map_of_mem isLater)]
    have kept (regs : ByteRegs)
        : cbMapMaskRead (setHdeRemainder timing.horDisEnd igaIndex regs) entry.2 igaIndex
          = cbMapMaskRead regs entry.2 igaIndex := by
      apply cbMapMaskRead_congr
      intro place isPlace
      apply setHdeRemainder_other
      intro same
      exact srTimingTables_single entry.2 isTable place isPlace 0x58 (by decide)
        (by simpa using congrArg ByteReg.index same)
    rw [kept]
    exact cbMapMaskRead_writeTables _ syncApart sync room selfApart
  · exact cbMapMaskRead_writeTables _ displayApart display room selfApart

/-- The three remainders in front of the tables. -/
def setRemainders (reg : TimingRegE3k) (igaIndex : IgaIndex) (regs : ByteRegs) : ByteRegs :=
  let regs := regs.biosWriteReg ⟨.cr, 0x72⟩ reg.hssRemainder 0xF8 igaIndex
  let regs := regs.biosWriteReg ⟨.cr, 0x72⟩ (reg.hSyncRemainder <<< 3) 0xC7 igaIndex
  regs.biosWriteReg ⟨.cr, 0x73⟩ reg.hBackPorchRemainder 0xF8 igaIndex

/-- Nothing behind them writes their registers. -/
theorem srTimingBody_remainders (timing : TimingAttrib) (regs : ByteRegs) (index : U8)
    (isRemainder : index ∈ ([0x72, 0x73] : List U8))
    : srTimingBody timing igaIndex regs (ByteReg.forIga ⟨.cr, index⟩ igaIndex)
      = setRemainders (srTimingReg timing) igaIndex regs
          (ByteReg.forIga ⟨.cr, index⟩ igaIndex) := by
  have all : ∀ index ∈ ([0x72, 0x73] : List U8),
      index ∈ ([0x57, 0x58, 0x72, 0x73] : List U8) ∧ index ≠ 0x58 := by decide
  obtain ⟨single, ne⟩ := all index isRemainder
  have apart : ByteReg.forIga ⟨.cr, index⟩ igaIndex ≠ ByteReg.forIga ⟨.cr, 0x58⟩ igaIndex :=
    fun same => ne (by simpa using congrArg ByteReg.index same)
  unfold srTimingBody
  rw [writeTables_single (srDisplayEntries_tables _) _ single,
    setHdeRemainder_other timing.horDisEnd _ apart,
    writeTables_single (srSyncEntries_tables _) _ single]
  rfl

/-- The remainders are in the fields of `CR_72` and `CR_73`. -/
theorem setRemainders_fields (igaIndex : IgaIndex) {reg : TimingRegE3k} (regs : ByteRegs)
    (hss : reg.hssRemainder.toNat < 2 ^ 3) (hSync : reg.hSyncRemainder.toNat < 2 ^ 3)
    (hBackPorch : reg.hBackPorchRemainder.toNat < 2 ^ 3)
    : let regs' := setRemainders reg igaIndex regs
      BitField.get ⟨0, 3⟩ (regs' (ByteReg.forIga ⟨.cr, 0x72⟩ igaIndex)) = reg.hssRemainder.toNat
      ∧ BitField.get ⟨3, 3⟩ (regs' (ByteReg.forIga ⟨.cr, 0x72⟩ igaIndex))
        = reg.hSyncRemainder.toNat
      ∧ BitField.get ⟨0, 3⟩ (regs' (ByteReg.forIga ⟨.cr, 0x73⟩ igaIndex))
        = reg.hBackPorchRemainder.toNat := by
  have ne : ByteReg.forIga ⟨.cr, 0x72⟩ igaIndex ≠ ByteReg.forIga ⟨.cr, 0x73⟩ igaIndex :=
    fun same => absurd (congrArg ByteReg.index same) (by simp)
  have low (regs : ByteRegs) (own : ByteReg) {value : U8} (fits : value.toNat < 2 ^ 3)
      : regs.writeReg own value 0xF8 own = BitField.put ⟨0, 3⟩ (regs own) value.toNat := by
    have write := ByteRegs.writeReg_field regs own ⟨0, 3⟩ fits own
    rwa [if_pos rfl, show ~~~(BitField.mk 0 3).mask = (0xF8 : U8) by decide,
      BitVec.shiftLeft_zero] at write
  have middle (regs : ByteRegs) (own : ByteReg)
      : regs.writeReg own (reg.hSyncRemainder <<< 3) 0xC7 own
        = BitField.put ⟨3, 3⟩ (regs own) reg.hSyncRemainder.toNat := by
    have write := ByteRegs.writeReg_field regs own ⟨3, 3⟩ hSync own
    rwa [if_pos rfl, show ~~~(BitField.mk 3 3).mask = (0xC7 : U8) by decide] at write
  unfold setRemainders ByteRegs.biosWriteReg
  dsimp only
  refine ⟨?_, ?_, ?_⟩
  · rw [ByteRegs.writeReg_other _ _ _ ne, middle, low _ _ hss, BitField.get_put_other (by decide),
      BitField.get_put _ _ _ (by decide)]
    exact Nat.mod_eq_of_lt hss
  · rw [ByteRegs.writeReg_other _ _ _ ne, middle, BitField.get_put _ _ _ (by decide)]
    exact Nat.mod_eq_of_lt hSync
  · rw [low _ _ hBackPorch, BitField.get_put _ _ _ (by decide)]
    exact Nat.mod_eq_of_lt hBackPorch

theorem srTimingReg_remainders (timing : TimingAttrib)
    : (srTimingReg timing).hssRemainder.toNat < 2 ^ 3
      ∧ (srTimingReg timing).hSyncRemainder.toNat < 2 ^ 3
      ∧ (srTimingReg timing).hBackPorchRemainder.toNat < 2 ^ 3 := by
  have narrow16 (x : U16) : ((x % 8).setWidth 8 : U8).toNat < 2 ^ 3 := by
    rw [BitVec.toNat_setWidth, BitVec.toNat_umod]
    change x.toNat % 8 % 2 ^ 8 < _
    omega
  have narrow32 (x : U32) : ((x % 8).setWidth 8 : U8).toNat < 2 ^ 3 := by
    rw [BitVec.toNat_setWidth, BitVec.toNat_umod]
    change x.toNat % 8 % 2 ^ 8 < _
    omega
  exact ⟨narrow16 _, narrow32 _, narrow32 _⟩

/-- The delays leave what has another index. -/
theorem setDelays_other (hSyncDelay vSyncDelay : U8) (regs : ByteRegs) {reg : ByteReg}
    (ne : reg ≠ ByteReg.forIga ⟨.sr, 0x57⟩ igaIndex)
    (ne' : reg ≠ ByteReg.forIga ⟨.sr, 0x58⟩ igaIndex)
    : setDelays hSyncDelay vSyncDelay igaIndex regs reg = regs reg := by
  unfold setDelays ByteRegs.biosWriteReg
  rw [ByteRegs.writeReg_other _ _ _ ne', ByteRegs.writeReg_other _ _ _ ne]

/-- The delays are in `SR_57` and in the low bits of `SR_58`. -/
theorem setDelays_fields (igaIndex : IgaIndex) (hSyncDelay vSyncDelay : U8) (regs : ByteRegs)
    (line : vSyncDelay.toNat ≤ 1)
    : setDelays hSyncDelay vSyncDelay igaIndex regs (ByteReg.forIga ⟨.sr, 0x57⟩ igaIndex)
        = hSyncDelay
      ∧ BitField.get ⟨0, 6⟩
          (setDelays hSyncDelay vSyncDelay igaIndex regs (ByteReg.forIga ⟨.sr, 0x58⟩ igaIndex))
        = vSyncDelay.toNat := by
  have ne : ByteReg.forIga ⟨.sr, 0x57⟩ igaIndex ≠ ByteReg.forIga ⟨.sr, 0x58⟩ igaIndex :=
    fun same => absurd (congrArg ByteReg.index same) (by simp)
  unfold setDelays ByteRegs.biosWriteReg
  constructor
  · rw [ByteRegs.writeReg_other _ _ _ ne, ByteRegs.writeReg_apply _ _ (by simp), if_pos rfl]
    apply BitVec.eq_of_getLsbD_eq
    intro i inside
    simp
  · have write := ByteRegs.writeReg_field
      (regs.writeReg (ByteReg.forIga ⟨.sr, 0x57⟩ igaIndex) hSyncDelay 0x0)
      (ByteReg.forIga ⟨.sr, 0x58⟩ igaIndex) ⟨0, 6⟩
      (show vSyncDelay.toNat < 2 ^ 6 from Nat.lt_of_le_of_lt line (by decide))
      (ByteReg.forIga ⟨.sr, 0x58⟩ igaIndex)
    rw [if_pos rfl, show ~~~(BitField.mk 0 6).mask = (0xC0 : U8) by decide,
      BitVec.shiftLeft_zero] at write
    rw [write, BitField.get_put _ _ _ (by decide)]
    exact Nat.mod_eq_of_lt (Nat.lt_of_le_of_lt line (by decide))

/-- `cbSetSRTimingReg_E3K` leaves its timing in the registers of the IGA. -/
theorem srTimingHolds_cbSetSrTimingRegE3k (timing : TimingAttrib) (regs : ByteRegs)
    : SrTimingHolds (hbackPatch timing) igaIndex (cbSetSrTimingRegE3k timing igaIndex regs) := by
  obtain ⟨patch, isPatch⟩ : ∃ patch, hbackPatch timing = patch := ⟨_, rfl⟩
  obtain ⟨line, -⟩ := hbackPatch_delays timing
  obtain ⟨hss, hSync, hBackPorch⟩ := srTimingReg_remainders patch.timing
  obtain ⟨hssField, hSyncField, hBackPorchField⟩ :=
    setRemainders_fields igaIndex regs hss hSync hBackPorch
  rw [cbSetSrTimingRegE3k_eq]
  rw [isPatch] at line ⊢
  have vDelay : (patch.vSyncDelay.setWidth 8 : U8).toNat = patch.vSyncDelay.toNat := by
    rw [BitVec.toNat_setWidth]
    omega
  obtain ⟨hDelayField, vDelayField⟩ := setDelays_fields igaIndex (patch.hSyncDelay.setWidth 8)
    (patch.vSyncDelay.setWidth 8) (srTimingBody patch.timing igaIndex regs)
    (by rw [vDelay]; exact line)
  have kept (index : U8) (isCr : index ∈ ([0x58, 0x72, 0x73] : List U8))
      : setDelays (patch.hSyncDelay.setWidth 8) (patch.vSyncDelay.setWidth 8) igaIndex
          (srTimingBody patch.timing igaIndex regs) (ByteReg.forIga ⟨.cr, index⟩ igaIndex)
        = srTimingBody patch.timing igaIndex regs (ByteReg.forIga ⟨.cr, index⟩ igaIndex) := by
    have groups : RegType.inType .cr igaIndex ≠ RegType.inType .sr igaIndex := by
      cases igaIndex <;> decide
    exact setDelays_other _ _ _ (fun same => groups (congrArg ByteReg.type same))
      fun same => groups (congrArg ByteReg.type same)
  exact {
    tables := by
      intro entry member
      have isTable : entry.2 ∈ srTimingTables := by
        rcases List.mem_append.mp member with sync | display
        · exact srSyncEntries_tables _ entry sync
        · exact srDisplayEntries_tables _ entry display
      rw [← cbMapMaskRead_srTimingBody patch.timing regs member]
      refine congrArg BitVec.toNat (cbMapMaskRead_congr fun place isPlace => ?_)
      apply setDelays_other
      · intro same
        exact srTimingTables_single entry.2 isTable place isPlace 0x57 (by decide)
          (by simpa using congrArg ByteReg.index same)
      · intro same
        exact srTimingTables_single entry.2 isTable place isPlace 0x58 (by decide)
          (by simpa using congrArg ByteReg.index same)
    hssRemainder := by
      rw [kept 0x72 (by decide), srTimingBody_remainders _ _ 0x72 (by decide), hssField]
    hSyncRemainder := by
      rw [kept 0x72 (by decide), srTimingBody_remainders _ _ 0x72 (by decide), hSyncField]
    hBackPorchRemainder := by
      rw [kept 0x73 (by decide), srTimingBody_remainders _ _ 0x73 (by decide), hBackPorchField]
    hdeRemainder := by
      rw [kept 0x58 (by decide)]
      unfold srTimingBody
      rw [writeTables_single (srDisplayEntries_tables _) _ (by decide)]
      exact setHdeRemainder_own _ _
    hSyncDelay := by
      rw [hDelayField, BitVec.toNat_setWidth]
    vSyncDelay := by
      rw [vDelayField, vDelay]
  }

-----
-- Timings and clocks do not meet

/-- The clocks and the timings have no index in common. -/
theorem srTimingRegs_dclkRegs (chipId : ChipId) (clockType : DclkType)
    : ∀ reg ∈ srTimingRegs, ∀ own ∈ dclkRegs chipId clockType, own.index ≠ reg.index := by
  cases chipId <;> cases clockType <;> decide

theorem srTimingRegs_dstCounterRegs (igaIndex : IgaIndex)
    : ∀ reg ∈ srTimingRegs, ∀ own ∈ dstCounterRegs igaIndex, own.index ≠ reg.index := by
  cases igaIndex <;> decide

theorem dclkRegs_dstCounterRegs (chipId : ChipId) (clockType : DclkType) (igaIndex : IgaIndex)
    : ∀ reg ∈ dclkRegs chipId clockType, ∀ own ∈ dstCounterRegs igaIndex, own ≠ reg := by
  cases chipId <;> cases clockType <;> cases igaIndex <;> decide

/-- What follows the timing leaves the timing registers of every IGA. -/
theorem cbDstTimingRegSetting_timing (chip : ClockChip) (params : DispModeParams)
    (igaIndex other : IgaIndex) (regs : ByteRegs) {reg : ByteReg} (member : reg ∈ srTimingRegs)
    : cbDstTimingRegSetting chip params igaIndex regs (reg.forIga other)
      = cbSetSrTimingRegE3k params.targetTiming igaIndex regs (reg.forIga other) := by
  rw [cbDstTimingRegSetting_eq, dstCounters_other, cbProgramDclk_other]
  · intro own isOwn same
    apply srTimingRegs_dclkRegs chip.chipId (dclkOfIga igaIndex) reg member own isOwn
    rw [same, ByteReg.forIga_index]
  · intro own isOwn same
    apply srTimingRegs_dstCounterRegs igaIndex reg member own isOwn
    rw [same, ByteReg.forIga_index]

/-- A timing leaves the timing registers of the other IGAs. -/
theorem cbDstTimingRegSetting_timing_other (chip : ClockChip) (params : DispModeParams)
    {igaIndex other : IgaIndex} (ne : igaIndex ≠ other) (isIga : igaIndex ≠ .noIga)
    (isIga' : other ≠ .noIga) (regs : ByteRegs) {reg : ByteReg} (member : reg ∈ srTimingRegs)
    : cbDstTimingRegSetting chip params igaIndex regs (reg.forIga other)
      = regs (reg.forIga other) := by
  rw [cbDstTimingRegSetting_timing chip params igaIndex other regs member]
  apply cbSetSrTimingRegE3k_other
  intro own isOwn
  exact srTimingRegs_forIga ne isIga isIga' own isOwn reg member

/-- The clocks are read from the tables of their DCLKs. -/
theorem cbGetProgClock_congr {chip : ClockChip} {clockType : DclkType} {regs regs' : ByteRegs}
    (same : ∀ reg ∈ dclkRegs chip.chipId clockType, regs reg = regs' reg)
    : cbGetProgClock chip clockType regs = cbGetProgClock chip clockType regs' := by
  refine congrArg (cbCalFreq chip) (getDclk_congr fun table isTable => ?_)
  apply cbMapMaskRead_congr
  intro place member
  apply same
  simp only [dclkRegs, List.mem_append, List.mem_map, List.mem_flatten]
  exact Or.inl (Or.inr ⟨place, ⟨table, isTable, member⟩, rfl⟩)

/-- The clocks behind `cbDstTimingRegSetting` are those behind its `cbProgramDclk`. -/
theorem cbGetProgClock_cbDstTimingRegSetting (chip : ClockChip) (params : DispModeParams)
    (igaIndex : IgaIndex) (regs : ByteRegs)
    : ∃ regs', (∀ clockType, cbGetProgClock chip clockType regs'
          = cbGetProgClock chip clockType regs)
      ∧ ∀ clockType, cbGetProgClock chip clockType (cbDstTimingRegSetting chip params igaIndex regs)
        = cbGetProgClock chip clockType
            (cbProgramDclk chip igaIndex params.pllClock regs') := by
  refine ⟨cbSetSrTimingRegE3k params.targetTiming igaIndex regs, fun clockType => ?_,
    fun clockType => ?_⟩
  · apply cbGetProgClock_congr
    intro reg isReg
    apply cbSetSrTimingRegE3k_other
    intro own member same
    apply srTimingRegs_dclkRegs chip.chipId clockType own member reg isReg
    rw [← same, ByteReg.forIga_index]
  · apply cbGetProgClock_congr
    intro reg isReg
    rw [cbDstTimingRegSetting_eq]
    exact dstCounters_other params _ (dclkRegs_dstCounterRegs chip.chipId clockType igaIndex reg isReg)

end Cx4Kernel.Cbios
