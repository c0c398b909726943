import Mathlib.Data.List.Nodup
import Mathlib.Data.List.Pairwise
import Cx4Kernel.Vidmm.PageTablesLive

/-! Mappings and unmappings in any order keep the page tables of a private `vma_space` in line
with the pages that are mapped.
-/

namespace Cx4Kernel.Vidmm

open Cx4Kernel.Foundation

-----------------------------------------------------------------------------------------
-- Whole ranges
-----------------------------------------------------------------------------------------

theorem Covered.congr {mapped pages : Nat → Prop} {leaf : Nat}
    (same : ∀ page < 2 ^ 28, page / 1024 = leaf → (mapped page ↔ pages page))
    : Covered mapped leaf ↔ Covered pages leaf := by
  constructor
  · rintro ⟨page, fits, on, now⟩
    exact ⟨page, fits, on, (same page fits on).mp now⟩
  · rintro ⟨page, fits, on, now⟩
    exact ⟨page, fits, on, (same page fits on).mpr now⟩

namespace VmPtInfo

variable {tables : VmPtInfo} {mapped : Nat → Prop}

/-- The same pages are mapped. -/
theorem Holds.same {pages : Nat → Prop} (h : tables.Holds mapped (Covered mapped))
    (same : ∀ page < 2 ^ 28, (mapped page ↔ pages page))
    : tables.Holds pages (Covered pages) :=
  h.congr same fun _ _ => Covered.congr fun page fits _ => same page fits

/-- A round of `vidmmi_vm_release_pt`, for a page table that exists or not. -/
theorem Holds.releaseRound (h : tables.Holds mapped (Covered mapped)) {sAddr nptes : Nat}
    (fits : sAddr < 2 ^ 28) (positive : 0 < nptes) (in_table : sAddr % 1024 + nptes ≤ 1024)
    : let released :=
        match vidmmiVmGetPtEntry tables sAddr with
        | some path =>
            if (tables path).buffer then releasePtEntry tables path sAddr nptes else tables
        | none => tables
      let rest := fun page => mapped page ∧ ¬ (sAddr ≤ page ∧ page < sAddr + nptes)
      released.Holds rest (Covered rest) := by
  intro released rest
  by_cases there : Covered mapped (sAddr / 1024)
  · have buffer := (h.buffer _ (by omega)).mpr there
    have is_entry : released = releasePtEntry tables (leafPath (sAddr / 1024)) sAddr nptes := by
      simp only [released, getPtEntry_of_live h fits there, buffer, if_true]
    rw [is_entry]
    exact h.releaseEntry fits positive in_table there
  · have unchanged : released = tables := by
      have no_buffer := mt (h.buffer (sAddr / 1024) (by omega)).mp there
      simp only [released, vidmmiVmGetPtEntry_eq h fits]
      split
      · rename_i found
        split at found
        · cases found
          exact if_neg no_buffer
        · cases found
      · rfl
    rw [unchanged]
    refine h.same fun page inside => ⟨fun now => ⟨now, fun here => there ?_⟩, And.left⟩
    exact ⟨page, inside, by omega, now⟩

/-- `vidmmi_vm_release_pt` clears the bits of its pages, by induction on the rounds. -/
theorem Holds.releasePt {last : Nat} (fits : last < 2 ^ 28) {rounds first : Nat}
    (h : tables.Holds mapped (Covered mapped)) (enough : last + 1 - first ≤ rounds)
    : let rest := fun page => mapped page ∧ ¬ (first ≤ page ∧ page ≤ last)
      (vidmmiVmReleasePt ((last + 1) <<< vmPageShift - 1) rounds tables
        (first <<< vmPageShift)).Holds rest (Covered rest) := by
  induction rounds generalizing tables mapped first with
  | zero =>
      refine h.same fun page _ => ⟨fun now => ⟨now, ?_⟩, And.left⟩
      omega
  | succ rounds ih =>
      rw [vidmmiVmReleasePt]
      by_cases left : first ≤ last
      · obtain ⟨positive, within, in_table⟩ := numPtes_bounds left fits
        have fewer : last + 1 - (first + numPtes first last) ≤ rounds := by omega
        rw [if_pos (startAddr_lt.mpr left)]
        simp only [startAddr_shift, endAddr_shift]
        refine (ih (h.releaseRound (by omega) positive in_table) fewer).same fun page _ => ?_
        constructor
        · rintro ⟨⟨now, before⟩, after⟩
          exact ⟨now, by omega⟩
        · rintro ⟨now, outside⟩
          exact ⟨⟨now, by omega⟩, by omega⟩
      · rw [if_neg (mt startAddr_lt.mp left)]
        refine h.same fun page _ => ⟨fun now => ⟨now, ?_⟩, And.left⟩
        omega

/-- A mapping succeeds, and its pages are mapped afterwards. -/
theorem Holds.mapNode (h : tables.Holds mapped (Covered mapped)) (range : PageRange)
    : let pages := fun page => mapped page ∨ range.first ≤ page ∧ page ≤ range.last
      (tables.mapNode range).succeeded ∧ (tables.mapNode range).tables.Holds pages (Covered pages) := by
  intro pages
  have in_order := range.first_le
  have fits := range.last_lt
  have accepted : refusedByRoot range.first range.last = false := by
    rw [refusedByRoot]
    refine decide_eq_false ?_
    rw [vmPtNumEntries_zero, vmAccumPdBitsCount_zero, Nat.shiftRight_eq_div_pow,
      Nat.shiftRight_eq_div_pow]
    omega
  have result : tables.mapNode range
      = vidmmVmUpdatePtes ((range.last + 1) <<< vmPageShift - 1) range.rounds
          (vidmmVmAllocPd 2 tables [] range.first range.last) (range.first <<< vmPageShift) := by
    rw [VmPtInfo.mapNode]
    simp only [PageRange.startAddr, PageRange.endAddr, startAddr_shift, endAddr_shift, accepted]
    rfl
  obtain ⟨succeeded, holds⟩ := (h.alloc in_order fits).updatePtes fits Nat.le.refl
    fun leaf above below => .inr ⟨above, below⟩
  rw [result]
  refine ⟨succeeded, holds.congr (fun _ _ => .rfl) fun leaf _ => ?_⟩
  constructor
  · rintro (⟨page, inside, on, now⟩ | now)
    · exact ⟨page, inside, on, .inl now⟩
    · -- the first page that the page table shares with the range
      refine ⟨max range.first (leaf * 1024), ?_, ?_, .inr ⟨?_, ?_⟩⟩ <;> omega
  · rintro ⟨page, inside, on, now | now⟩
    · exact .inl ⟨page, inside, on, now⟩
    · exact .inr (by omega)

/-- After an unmapping its pages are not mapped. -/
theorem Holds.unmapNode (h : tables.Holds mapped (Covered mapped)) (range : PageRange)
    : let rest := fun page => mapped page ∧ ¬ (range.first ≤ page ∧ page ≤ range.last)
      (tables.unmapNode range).Holds rest (Covered rest) :=
  h.releasePt range.last_lt Nat.le.refl

end VmPtInfo

-----------------------------------------------------------------------------------------
-- Runs
-----------------------------------------------------------------------------------------

theorem PageRange.Apart.symm {range other : PageRange} (h : range.Apart other)
    : other.Apart range :=
  Or.symm h

theorem PageRange.Apart.ne {range other : PageRange} (h : range.Apart other) : range ≠ other := by
  rintro rfl
  have := range.first_le
  rcases h with h | h <;> omega

namespace MapState

/-- A page of a mapped node. -/
def Mapped (state : MapState) (page : Nat) : Prop :=
  ∃ range ∈ state.mapped, range.first ≤ page ∧ page ≤ range.last

/-- The tables fit the mapped nodes, and these share no pages. -/
structure Sound (state : MapState) : Prop where
  holds : state.tables.Holds state.Mapped (Covered state.Mapped)
  apart : state.mapped.Pairwise PageRange.Apart

theorem start_sound : start.Sound where
  holds :=
    { root_buffer := rfl
      directory_bitmap := nofun
      above := fun _ _ ⟨_, _, _, _, member, _⟩ => nomatch member
      buffer := fun _ _ => ⟨nofun, fun ⟨_, _, _, _, member, _⟩ => nomatch member⟩
      parent_bit := fun _ _ => ⟨nofun, fun ⟨_, _, _, _, member, _⟩ => nomatch member⟩
      bitmap := fun _ _ ⟨_, _, _, _, member, _⟩ => nomatch member
      entries := fun _ _ => rfl
      bit := fun _ _ => ⟨nofun, fun ⟨_, member, _⟩ => nomatch member⟩
      mapped_live := fun _ _ ⟨_, member, _⟩ => nomatch member }
  apart := .nil

variable {state : MapState} {range : PageRange}

/-- Mapping a node. -/
theorem Sound.map (sound : state.Sound) (handed : state.Handed range)
    : Sound ⟨(state.tables.mapNode range).tables,
        if range ∈ state.mapped then state.mapped else range :: state.mapped⟩ := by
  have holds := (sound.holds.mapNode range).2
  by_cases member : range ∈ state.mapped
  · rw [if_pos member]
    refine ⟨holds.same fun page _ => ?_, sound.apart⟩
    exact ⟨fun now => now.elim id fun now => ⟨range, member, now⟩, .inl⟩
  · rw [if_neg member]
    refine ⟨holds.same fun page _ => ?_, .cons (handed.resolve_left member) sound.apart⟩
    constructor
    · rintro (⟨other, there, now⟩ | now)
      · exact ⟨other, List.mem_cons_of_mem _ there, now⟩
      · exact ⟨range, List.mem_cons_self, now⟩
    · rintro ⟨other, there, now⟩
      rcases List.mem_cons.mp there with rfl | there
      · exact .inr now
      · exact .inl ⟨other, there, now⟩

/-- Other nodes than a handed one have none of its pages. -/
theorem Sound.handed_apart (sound : state.Sound) (handed : state.Handed range)
    {other : PageRange} (there : other ∈ state.mapped) (different : other ≠ range)
    : range.Apart other := by
  rcases handed with member | apart
  · have : Std.Symm PageRange.Apart := ⟨fun _ _ => PageRange.Apart.symm⟩
    exact sound.apart.forall member there different.symm
  · exact apart other there

/-- Unmapping a node. -/
theorem Sound.unmap (sound : state.Sound) (handed : state.Handed range)
    : Sound ⟨state.tables.unmapNode range, state.mapped.erase range⟩ := by
  have nodup : state.mapped.Nodup := sound.apart.imp PageRange.Apart.ne
  refine ⟨(sound.holds.unmapNode range).same fun page _ => ?_,
    sound.apart.sublist List.erase_sublist⟩
  constructor
  · rintro ⟨⟨other, there, now⟩, outside⟩
    refine ⟨other, nodup.mem_erase_iff.mpr ⟨?_, there⟩, now⟩
    rintro rfl
    exact outside now
  · rintro ⟨other, there, now⟩
    obtain ⟨different, there⟩ := nodup.mem_erase_iff.mp there
    refine ⟨⟨other, there, now⟩, ?_⟩
    rcases sound.handed_apart handed there different with apart | apart <;> omega

/-- Every step keeps the tables in line. -/
theorem Sound.next {before after : MapState} {action : MapAction} (sound : before.Sound)
    (taken : before.next action = some after)
    : after.Sound := by
  cases action with
  | map range =>
      rw [MapState.next, Option.ite_none_right_eq_some] at taken
      obtain ⟨handed, same⟩ := taken
      exact Option.some.inj same ▸ sound.map handed
  | unmap range =>
      rw [MapState.next, Option.ite_none_right_eq_some] at taken
      obtain ⟨handed, same⟩ := taken
      exact Option.some.inj same ▸ sound.unmap handed

theorem reachable_sound (reached : system.Reachable state) : state.Sound := by
  apply reached.invariant
  · rintro _ rfl
    exact start_sound
  · intro before action after sound taken
    exact sound.next taken

/-- The run theorem: a page table has a buffer, and a bit in its directory, exactly as long as
one of its pages is mapped, and its own bits are those of the mapped pages.
-/
theorem page_tables_kept (reached : system.Reachable state) {directory index : Nat}
    (directory_lt : directory < 256) (index_lt : index < 1024)
    : (∀ i < 1024, ((state.tables [directory, index]).bit i
          ↔ state.Mapped ((directory * 1024 + index) * 1024 + i)))
      ∧ ((state.tables [directory, index]).buffer
          ↔ ∃ i < 1024, state.Mapped ((directory * 1024 + index) * 1024 + i))
      ∧ ((state.tables [directory]).bit index ↔ (state.tables [directory, index]).buffer) := by
  have holds := (reachable_sound reached).holds
  have is_directory : (directory * 1024 + index) / 1024 = directory := by omega
  have is_index : (directory * 1024 + index) % 1024 = index := by omega
  have inside : directory * 1024 + index < 2 ^ 18 := by omega
  have path : leafPath (directory * 1024 + index) = [directory, index] := by
    rw [leafPath, is_directory, is_index]
  have bits (i : Nat) (small : i < 1024) : (state.tables [directory, index]).bit i
      ↔ state.Mapped ((directory * 1024 + index) * 1024 + i) := by
    have bit := holds.page_bit inside small
    rwa [path] at bit
  have covered := holds.exists_bit inside
  have buffer := holds.buffer _ inside
  have parent_bit := holds.parent_bit _ inside
  rw [path] at covered buffer
  rw [is_directory, is_index] at parent_bit
  refine ⟨bits, ?_, parent_bit.trans buffer.symm⟩
  rw [buffer, ← covered]
  exact exists_congr fun i => and_congr_right fun small => bits i small

/-- A node of three page tables comes and goes, and a small one stays in the first of them. -/
def smallNodeLeft : Option MapState :=
  System.replay next start
    [.map ⟨1000, 2100, by decide, by decide⟩, .map ⟨0, 3, by decide, by decide⟩,
      .unmap ⟨1000, 2100, by decide, by decide⟩]

/-- The steps can be taken. -/
theorem smallNodeLeft_isSome : smallNodeLeft.isSome := by rfl

/-- The first page table is still there, with the pages of the small node. -/
theorem page_tables_kept_smallNodeLeft
    : let state := smallNodeLeft.get smallNodeLeft_isSome
      ((state.tables [0, 0]).bit 3 ∧ ¬ (state.tables [0, 0]).bit 1000
          ∧ ¬ (state.tables [0, 1]).buffer)
        ∧ ((state.tables [0, 0]).buffer ↔ ∃ i < 1024, state.Mapped i)
        ∧ ((state.tables [0]).bit 0 ↔ (state.tables [0, 0]).buffer) := by
  intro state
  have reached : system.Reachable state :=
    .replay _ rfl (Option.some_get smallNodeLeft_isSome).symm
  have kept := (@page_tables_kept state reached 0 0 (by decide) (by decide)).2
  simp only [Nat.zero_mul, Nat.zero_add] at kept
  exact ⟨by decide +kernel, kept⟩

end MapState

end Cx4Kernel.Vidmm
