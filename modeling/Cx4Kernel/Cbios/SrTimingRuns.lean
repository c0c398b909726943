import Cx4Kernel.Cbios.SrTimingExact

/-! The device timings of all IGAs over whole runs of `cbDstTimingRegSetting`, and the shift that
its back porch patch makes.
-/

namespace Cx4Kernel.Cbios

open Cx4Kernel.Foundation

-----
-- The back porch patch

variable {timing : TimingAttrib}

/-- The order of the positions in a line. -/
structure LineOrder (timing : TimingAttrib) : Prop where
  display : timing.horDisEnd.toNat ≤ timing.horSyncStart.toNat
  sync : timing.horSyncStart.toNat ≤ timing.horSyncEnd.toNat
  total : timing.horSyncEnd.toNat ≤ timing.horTotal.toNat

/-- The pixels of the back porch. -/
def backPorch (timing : TimingAttrib) : Nat := timing.horTotal.toNat - timing.horSyncEnd.toNat

/-- The least shift of at least three pixels that makes the back porch a multiple of 8. -/
def patchShift (porch : Nat) : Nat := if porch % 8 ≤ 5 then 8 - porch % 8 else 16 - porch % 8

theorem patchShift_spec (porch : Nat)
    : 3 ≤ patchShift porch ∧ patchShift porch ≤ 10 ∧ (porch + patchShift porch) % 8 = 0
      ∧ ∀ shift, 3 ≤ shift → shift < patchShift porch → (porch + shift) % 8 ≠ 0 := by
  unfold patchShift
  split <;> refine ⟨by omega, by omega, by omega, fun shift => by omega⟩

/-- The loop of the patch after `done` rounds stops at the shift, if the front porch lasts. -/
theorem hbackPatchLoop_eq (order : LineOrder timing) (room done : Nat)
    (early : done < patchShift (backPorch timing))
    (inside : timing.horDisEnd.toNat + done + room ≤ timing.horSyncStart.toNat)
    : hbackPatchLoop timing room (timing.horSyncStart - BitVec.ofNat 16 done)
        (timing.horSyncEnd - BitVec.ofNat 16 done)
      = if patchShift (backPorch timing) ≤ done + room then
          some (timing.horSyncStart - BitVec.ofNat 16 (patchShift (backPorch timing)),
            timing.horSyncEnd - BitVec.ofNat 16 (patchShift (backPorch timing)),
            BitVec.ofNat 16 (patchShift (backPorch timing)))
        else none := by
  obtain ⟨display, sync, total⟩ := order
  obtain ⟨low, high, whole, least⟩ := patchShift_spec (backPorch timing)
  induction room generalizing done with
  | zero =>
    rw [hbackPatchLoop, if_neg (by omega)]
  | succ room ih =>
    have bound := timing.horTotal.isLt
    have start : timing.horSyncStart - BitVec.ofNat 16 done - 1
        = timing.horSyncStart - BitVec.ofNat 16 (done + 1) := by
      apply BitVec.eq_of_toNat_eq
      rw [BitVec.toNat_sub, BitVec.toNat_sub, BitVec.toNat_sub, BitVec.toNat_ofNat,
        BitVec.toNat_ofNat]
      change (2 ^ 16 - 1 + _) % 2 ^ 16 = _
      omega
    have ends : timing.horSyncEnd - BitVec.ofNat 16 done - 1
        = timing.horSyncEnd - BitVec.ofNat 16 (done + 1) := by
      apply BitVec.eq_of_toNat_eq
      rw [BitVec.toNat_sub, BitVec.toNat_sub, BitVec.toNat_sub, BitVec.toNat_ofNat,
        BitVec.toNat_ofNat]
      change (2 ^ 16 - 1 + _) % 2 ^ 16 = _
      omega
    have endValue : (timing.horSyncEnd - BitVec.ofNat 16 (done + 1)).toNat
        = timing.horSyncEnd.toNat - (done + 1) := by
      rw [BitVec.toNat_sub, BitVec.toNat_ofNat]
      omega
    have porch : (difference timing.horTotal
        (timing.horSyncEnd - BitVec.ofNat 16 (done + 1))).toNat = backPorch timing + (done + 1) := by
      rw [toNat_difference (by omega), endValue, backPorch]
      omega
    have delay : timing.horSyncStart - (timing.horSyncStart - BitVec.ofNat 16 (done + 1))
        = BitVec.ofNat 16 (done + 1) := by
      apply BitVec.eq_of_toNat_eq
      rw [BitVec.toNat_sub, BitVec.toNat_sub, BitVec.toNat_ofNat]
      omega
    have isWhole : difference timing.horTotal (timing.horSyncEnd - BitVec.ofNat 16 (done + 1)) % 8 = 0
        ↔ (backPorch timing + (done + 1)) % 8 = 0 := by
      rw [← BitVec.toNat_inj, BitVec.toNat_umod, porch]
      rfl
    have isLong : 2 < (BitVec.ofNat 16 (done + 1)).toNat ↔ 3 ≤ done + 1 := by
      rw [BitVec.toNat_ofNat]
      omega
    rw [hbackPatchLoop, start, ends, delay]
    by_cases now : done + 1 = patchShift (backPorch timing)
    · rw [if_pos ⟨isWhole.mpr (by rw [now]; exact whole), isLong.mpr (by omega)⟩,
        if_pos (by omega), now]
    · have notYet : ¬ (difference timing.horTotal
            (timing.horSyncEnd - BitVec.ofNat 16 (done + 1)) % 8 = 0
          ∧ 2 < (BitVec.ofNat 16 (done + 1)).toNat) := by
        rintro ⟨isMultiple, long⟩
        exact least (done + 1) (isLong.mp long) (by omega) (isWhole.mp isMultiple)
      rw [if_neg notYet, ih (done + 1) (by omega) (by omega)]
      congr 1
      rw [eq_iff_iff]
      omega

/-- The patch moves the horizontal sync left by the least shift of three pixels or more that makes
the back porch a multiple of 8, when the back porch is below 32 and no such multiple and the front
porch keeps 16 pixels. The vertical sync moves one line up, and the scaler delays both.
-/
theorem hbackPatch_eq (order : LineOrder timing)
    : hbackPatch timing
      = if backPorch timing < 32 ∧ backPorch timing % 8 ≠ 0
            ∧ timing.horDisEnd.toNat + 16 + patchShift (backPorch timing)
              ≤ timing.horSyncStart.toNat then
          {
            timing :=
              { timing with
                horSyncStart :=
                  timing.horSyncStart - BitVec.ofNat 16 (patchShift (backPorch timing))
                horSyncEnd :=
                  timing.horSyncEnd - BitVec.ofNat 16 (patchShift (backPorch timing))
                verSyncStart := timing.verSyncStart - 1
                verSyncEnd := timing.verSyncEnd - 1 }
            hSyncDelay := BitVec.ofNat 16 (patchShift (backPorch timing)) - 2
            vSyncDelay := 1
            isUseHbackPatch := true
          }
        else ⟨timing, 0, 0, false⟩ := by
  have porch : (difference timing.horTotal timing.horSyncEnd).toNat = backPorch timing :=
    toNat_difference order.total
  have small : difference timing.horTotal timing.horSyncEnd < 32 ↔ backPorch timing < 32 := by
    rw [BitVec.lt_def, porch]
    rfl
  have odd : difference timing.horTotal timing.horSyncEnd % 8 ≠ 0 ↔ backPorch timing % 8 ≠ 0 := by
    rw [ne_eq, ← BitVec.toNat_inj, BitVec.toNat_umod, porch]
    rfl
  have need := and_congr small odd
  unfold hbackPatch
  dsimp only
  by_cases needed : backPorch timing < 32 ∧ backPorch timing % 8 ≠ 0
  · have shift := patchShift_spec (backPorch timing)
    rw [if_pos (need.mpr needed)]
    have display := order.display
    have loop := hbackPatchLoop_eq order
      (timing.horSyncStart.toNat - (timing.horDisEnd.toNat + 16)) 0 (by omega) (by omega)
    have unmoved (position : U16) : position - BitVec.ofNat 16 0 = position :=
      BitVec.sub_zero position
    rw [unmoved, unmoved, Nat.zero_add] at loop
    rw [loop]
    by_cases room : timing.horDisEnd.toNat + 16 + patchShift (backPorch timing)
        ≤ timing.horSyncStart.toNat
    · rw [if_pos (by omega), if_pos ⟨needed.1, needed.2, room⟩]
    · rw [if_neg (by omega), if_neg fun all => room all.2.2]
  · rw [if_neg fun both => needed (need.mp both), if_neg fun all => needed ⟨all.1, all.2.1⟩]

/-- The panel timing of 1366x768 with a back porch of 20 pixels. -/
def panelTiming : TimingAttrib :=
  ⟨0, 1366, 768, 6000, 0, 760000, 1500, 1366, 1368, 1500, 1430, 1480, 790, 768, 768, 790, 771, 780⟩

theorem hbackPatch_eq_panel
    : hbackPatch panelTiming
      = if backPorch panelTiming < 32 ∧ backPorch panelTiming % 8 ≠ 0
            ∧ panelTiming.horDisEnd.toNat + 16 + patchShift (backPorch panelTiming)
              ≤ panelTiming.horSyncStart.toNat then
          {
            timing :=
              { panelTiming with
                horSyncStart :=
                  panelTiming.horSyncStart - BitVec.ofNat 16 (patchShift (backPorch panelTiming))
                horSyncEnd :=
                  panelTiming.horSyncEnd - BitVec.ofNat 16 (patchShift (backPorch panelTiming))
                verSyncStart := panelTiming.verSyncStart - 1
                verSyncEnd := panelTiming.verSyncEnd - 1 }
            hSyncDelay := BitVec.ofNat 16 (patchShift (backPorch panelTiming)) - 2
            vSyncDelay := 1
            isUseHbackPatch := true
          }
        else ⟨panelTiming, 0, 0, false⟩ :=
  hbackPatch_eq ⟨by decide, by decide, by decide⟩

/-- A timing that the registers can hold is still one behind the patch, when its vertical sync does
not start in the first line.
-/
theorem SrReadable.hbackPatch (readable : SrReadable timing) (order : LineOrder timing)
    (later : 1 < timing.verSyncStart.toNat)
    : SrReadable (hbackPatch timing).timing := by
  rw [hbackPatch_eq order]
  split
  · rename_i used
    obtain ⟨-, -, room⟩ := used
    have display := order.display
    obtain ⟨low, high, -, -⟩ := patchShift_spec (backPorch timing)
    obtain ⟨syncLow, syncHigh⟩ := readable.hSync
    have porch := readable.hBackPorch
    obtain ⟨vSyncLow, vSyncOrder, vSyncLines, vSyncEnd⟩ := readable.vSync
    have shifted (position : U16) (behind : patchShift (backPorch timing) ≤ position.toNat)
        : (position - BitVec.ofNat 16 (patchShift (backPorch timing))).toNat
          = position.toNat - patchShift (backPorch timing) := by
      rw [BitVec.toNat_sub, BitVec.toNat_ofNat]
      omega
    have up (line : U16) (behind : 0 < line.toNat) : (line - 1).toNat = line.toNat - 1 := by
      rw [BitVec.toNat_sub]
      change (2 ^ 16 - 1 + _) % 2 ^ 16 = _
      omega
    have start := shifted timing.horSyncStart (by omega)
    have ends := shifted timing.horSyncEnd (by omega)
    have vStart := up timing.verSyncStart (by omega)
    have vEnd := up timing.verSyncEnd (by omega)
    exact {
      display := readable.display
      hSync := by dsimp only; omega
      hBackPorch := by dsimp only; omega
      horTotal := readable.horTotal
      horBStart := readable.horBStart
      horBEnd := readable.horBEnd
      verDisEnd := readable.verDisEnd
      verTotal := readable.verTotal
      verBStart := readable.verBStart
      verBEnd := readable.verBEnd
      vSync := by dsimp only; omega
    }
  · exact readable

-----
-- Runs over all IGAs

/-- A call of `cbDstTimingRegSetting`. -/
structure ModeSet where
  igaIndex : IgaIndex
  params : DispModeParams

/-- Calls of `cbDstTimingRegSetting` in a row. -/
def setModes (chip : ClockChip) (sets : List ModeSet) (regs : ByteRegs) : ByteRegs :=
  sets.foldl (fun regs set => cbDstTimingRegSetting chip set.params set.igaIndex regs) regs

/-- The last mode that was set for an IGA. -/
def lastMode (sets : List ModeSet) (igaIndex : IgaIndex) : Option DispModeParams :=
  (sets.filter fun set => decide (set.igaIndex = igaIndex)).getLast?.map ModeSet.params

/-- A mode of an IGA whose timing fits the registers and whose clock its DCLK takes. -/
structure ModeSet.Fits (chip : ClockChip) (set : ModeSet) : Prop where
  isIga : set.igaIndex ≠ .noIga
  timing : SrReadable (hbackPatch set.params.targetTiming).timing
  accepted : (cbCalClk chip set.params.pllClock).isSome = true
  programmable : Programmable chip.chipId (dclkOfIga set.igaIndex) set.params.pllClock

/-- An IGA reads the mode that was set last, with a clock that is off by at most one, and what it
read at first when no mode was set.
-/
def ReadsLastMode (chip : ClockChip) (sets : List ModeSet) (igaIndex : IgaIndex) (regs : ByteRegs)
    : Prop :=
  match lastMode sets igaIndex with
  | some params =>
      ∃ clock, Near clock params.pllClock
        ∧ getSrTiming chip igaIndex (setModes chip sets regs)
          = readTiming (hbackPatch params.targetTiming).timing clock
  | none =>
      getSrTiming chip igaIndex (setModes chip sets regs) = getSrTiming chip igaIndex regs

/-- A timing is read from the registers of its IGA. -/
theorem cbGetSrTimingRegE3k_congr {regs regs' : ByteRegs} {igaIndex : IgaIndex}
    (same : ∀ reg ∈ srTimingRegs, regs (reg.forIga igaIndex) = regs' (reg.forIga igaIndex))
    (currPllClock : U32)
    : cbGetSrTimingRegE3k regs igaIndex currPllClock
      = cbGetSrTimingRegE3k regs' igaIndex currPllClock := by
  have table : ∀ table ∈ srTimingTables,
      cbMapMaskRead regs table igaIndex = cbMapMaskRead regs' table igaIndex := fun table isTable =>
    cbMapMaskRead_congr fun place member =>
      same place.1 (srTimingTables_regs table isTable place member)
  simp only [srTimingTables, List.forall_mem_cons, List.not_mem_nil, false_imp_iff, implies_true,
    and_true] at table
  obtain ⟨hss, ht, hse, hde, hbs, hbe, vt, vde, vbs, vbe, vss, vse⟩ := table
  unfold cbGetSrTimingRegE3k ByteRegs.biosReadReg
  rw [same ⟨.cr, 0x72⟩ (by decide), same ⟨.cr, 0x73⟩ (by decide), same ⟨.cr, 0x58⟩ (by decide)]
  dsimp only
  rw [hss, ht, hse, hde, hbs, hbe, vt, vde, vbs, vbe, vss, vse]

variable {chip : ClockChip}

/-- A mode is read back by its IGA. -/
theorem getSrTiming_own (running : chip.bRunOnQt = false) {set : ModeSet} (fits : set.Fits chip)
    (regs : ByteRegs)
    : ∃ clock, Near clock set.params.pllClock
      ∧ getSrTiming chip set.igaIndex (cbDstTimingRegSetting chip set.params set.igaIndex regs)
        = readTiming (hbackPatch set.params.targetTiming).timing clock := by
  obtain ⟨regs', -, clocks⟩ :=
    cbGetProgClock_cbDstTimingRegSetting chip set.params set.igaIndex regs
  obtain ⟨before, -, program⟩ :=
    cbProgramDclk_eq chip ⟨set.igaIndex, set.params.pllClock⟩ regs'
  dsimp only at program
  have accepted : (cbProgClock chip set.params.pllClock (dclkOfIga set.igaIndex) before).1 = true := by
    obtain ⟨clkInfo, calculated⟩ := Option.isSome_iff_exists.mp fits.accepted
    simp [cbProgClock, running, calculated]
  have near := (cbGetProgClock_near_iff running (dclkOfIga set.igaIndex) before accepted).mpr
    fits.programmable
  rw [← program, ← clocks] at near
  have holds : SrTimingHolds (hbackPatch set.params.targetTiming) set.igaIndex
      (cbDstTimingRegSetting chip set.params set.igaIndex regs) :=
    (srTimingHolds_cbSetSrTimingRegE3k set.params.targetTiming regs).congr fun reg member =>
      cbDstTimingRegSetting_timing chip set.params set.igaIndex set.igaIndex regs member
  exact ⟨_, near, holds.read fits.timing _⟩

/-- The other IGAs read what they read before. -/
theorem getSrTiming_other (params : DispModeParams) {igaIndex other : IgaIndex}
    (ne : igaIndex ≠ other) (isIga : igaIndex ≠ .noIga) (isIga' : other ≠ .noIga)
    (regs : ByteRegs)
    : getSrTiming chip other (cbDstTimingRegSetting chip params igaIndex regs)
      = getSrTiming chip other regs := by
  obtain ⟨regs', same, clocks⟩ := cbGetProgClock_cbDstTimingRegSetting chip params igaIndex regs
  obtain ⟨before, sameBefore, program⟩ := cbProgramDclk_eq chip ⟨igaIndex, params.pllClock⟩ regs'
  dsimp only at program
  have apart : dclkOfIga igaIndex ≠ dclkOfIga other := by
    cases igaIndex <;> cases other <;>
      first
      | exact absurd rfl ne
      | exact absurd rfl isIga
      | exact absurd rfl isIga'
      | decide
  rw [getSrTiming, getSrTiming, clocks, program, cbGetProgClock_other apart, sameBefore, same]
  exact cbGetSrTimingRegE3k_congr
    (fun reg member =>
      cbDstTimingRegSetting_timing_other chip params ne isIga isIga' regs member) _

/-- Over any modes that are set for any IGAs, every IGA reads its last mode: timings and clocks of
the others do not reach it.
-/
theorem setModes_reads (running : chip.bRunOnQt = false) (sets : List ModeSet)
    (fits : ∀ set ∈ sets, set.Fits chip) {igaIndex : IgaIndex} (isIga : igaIndex ≠ .noIga)
    (regs : ByteRegs)
    : ReadsLastMode chip sets igaIndex regs := by
  unfold ReadsLastMode
  induction sets using List.reverseRecOn with
  | nil => rfl
  | append_singleton sets set ih =>
    have earlier := ih fun other member => fits other (List.mem_append_left _ member)
    have own := fits set (List.mem_append_right _ (List.mem_singleton_self set))
    have run : setModes chip (sets ++ [set]) regs
        = cbDstTimingRegSetting chip set.params set.igaIndex (setModes chip sets regs) := by
      rw [setModes, List.foldl_append]
      rfl
    rw [run]
    by_cases mine : set.igaIndex = igaIndex
    · have last : lastMode (sets ++ [set]) igaIndex = some set.params := by
        simp [lastMode, List.filter_append, mine]
      rw [last, ← mine]
      exact getSrTiming_own running own _
    · have last : lastMode (sets ++ [set]) igaIndex = lastMode sets igaIndex := by
        simp [lastMode, List.filter_append, mine]
      rw [last, getSrTiming_other set.params mine own.isIga isIga]
      exact earlier

/-- A timing of 1080p60 on the third IGA, and then the panel on the second. -/
def twoModes : List ModeSet :=
  [⟨.iga3, ⟨⟨16, 1920, 1080, 6000, 0, 1485000, 2200, 1920, 1920, 2200, 2008, 2052, 1125, 1080, 1080,
      1125, 1084, 1089⟩, 1485000, 1⟩⟩,
    ⟨.iga2, ⟨panelTiming, 760000, 1⟩⟩]

theorem twoModes_fit : ∀ set ∈ twoModes, set.Fits ⟨.chx004, true, false⟩ := by
  intro set member
  simp only [twoModes, List.mem_cons, List.not_mem_nil, or_false] at member
  rcases member with rfl | rfl
  · exact ⟨by decide, ⟨by decide, by decide, by decide, by decide, by decide, by decide, by decide,
      by decide, by decide, by decide, by decide⟩, by decide, by decide⟩
  · exact ⟨by decide, ⟨by decide, by decide, by decide, by decide, by decide, by decide, by decide,
      by decide, by decide, by decide, by decide⟩, by decide, by decide⟩

theorem setModes_reads_twoModes
    : ReadsLastMode ⟨.chx004, true, false⟩ twoModes .iga3 fun _ => 0 :=
  setModes_reads rfl twoModes twoModes_fit (by decide) _

end Cx4Kernel.Cbios
