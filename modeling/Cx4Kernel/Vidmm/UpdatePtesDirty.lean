import Cx4Kernel.Vidmm.DirtyWindow
import Cx4Kernel.Vidmm.UpdatePtesRounds

/-! What an update of the page table entries of a range adds to the dirty range of an engine:
a window for each page table, which covers the pages whose entries are written.
-/

namespace Cx4Kernel.Vidmm

open Cx4Kernel.Foundation

/-- The address of a page. -/
def pageVa (page : Nat) : U64 := BitVec.ofNat 64 (page * 4096)

/-- The pages of an allocation that a round from `page` on writes entries for. -/
def wholePagesInTable (pageShift page last : Nat) : Nat :=
  pagesInTable page last / 2 ^ (pageShift - gpuPageShift)

/-- What the rounds of `vidmm_vm_update_ptes` from `page` to `last` do to a dirty range, for
an allocation in pages of size `2 ^ pageShift`.
-/
def dirtyPtesFrom (pageShift last : Nat) : (rounds page : Nat) → GartDirty → GartDirty
  | 0, _, range => range
  | rounds + 1, page, range =>
      if page ≤ last then
        let mask := level2Mask pageShift (pageVa page) (wholePagesInTable pageShift page last)
        dirtyPtesFrom pageShift last rounds (page + pagesInTable page last)
          (range.add (pageVa page) mask)
      else range

/-- The pages whose entries these rounds write. -/
def writtenPagesFrom (pageShift last : Nat) : (rounds page : Nat) → List Nat
  | 0, _ => []
  | rounds + 1, page =>
      if page ≤ last then
        List.range' page
            (wholePagesInTable pageShift page last * 2 ^ (pageShift - gpuPageShift))
          ++ writtenPagesFrom pageShift last rounds (page + pagesInTable page last)
      else []

-----------------------------------------------------------------------------------------
-- Growing
-----------------------------------------------------------------------------------------

/-- A dirty range covers at least as much as before. -/
structure GartDirty.Grows (range later : GartDirty) : Prop where
  dirty : range.dirty = true → later.dirty = true
  covers : ∀ va, range.Covers va → later.Covers va

/-- A range that stays as it is. -/
theorem GartDirty.Grows.refl (range : GartDirty) : range.Grows range := ⟨id, fun _ => id⟩

/-- Growing twice. -/
theorem GartDirty.Grows.trans {first second third : GartDirty} (h : first.Grows second)
    (h' : second.Grows third)
    : first.Grows third :=
  ⟨fun dirty => h'.dirty (h.dirty dirty), fun va covered => h'.covers va (h.covers va covered)⟩

/-- Adding to a range grows it. -/
theorem GartDirty.grows_add (range : GartDirty) (startVa mask : U64)
    : range.Grows (range.add startVa mask) :=
  ⟨fun _ => range.dirty_add startVa mask, fun _ covered => covered.add startVa mask⟩

/-- The rounds grow a range, by induction on them. -/
theorem dirtyPtesFrom_grows (pageShift last rounds page : Nat) (range : GartDirty)
    : range.Grows (dirtyPtesFrom pageShift last rounds page range) := by
  induction rounds generalizing page range with
  | zero => exact .refl range
  | succ rounds ih =>
      rw [dirtyPtesFrom]
      split
      · exact (range.grows_add _ _).trans (ih _ _)
      · exact .refl range

/-- The rounds for some page leave a range dirty. -/
theorem dirty_dirtyPtesFrom {pageShift last rounds page : Nat} (range : GartDirty)
    (inside : page ≤ last) (some : 0 < rounds)
    : (dirtyPtesFrom pageShift last rounds page range).dirty = true := by
  obtain ⟨rounds, rfl⟩ := Nat.exists_eq_add_one_of_ne_zero some.ne'
  rw [dirtyPtesFrom, if_pos inside]
  exact (dirtyPtesFrom_grows _ _ _ _ _).dirty (range.dirty_add _ _)

/-- A call of `vidmm_update_ptes_e3k` grows the level-2 ranges of all engines, by cases on
the level.
-/
theorem vidmmUpdatePtesE3k_grows {adapter : Adapter} {vmaSpace after : VmaSpace}
    {engineIndex : Nat} {arg : UpdatePtesArg} {command : CopyImm}
    (h : vidmmUpdatePtesE3k adapter vmaSpace engineIndex arg = some (after, command))
    (engine : Nat)
    : (vmaSpace.dtlbDirtys engine).Grows (after.dtlbDirtys engine) := by
  unfold vidmmUpdatePtesE3k at h
  split at h
  case h_1 =>
    obtain ⟨_, _, h⟩ := Option.bind_eq_some_iff.mp h
    cases h
    exact .refl _
  case h_2 =>
    obtain ⟨_, _, h⟩ := Option.bind_eq_some_iff.mp h
    cases h
    exact .refl _
  case h_3 =>
    obtain ⟨_, _, h⟩ := Option.bind_eq_some_iff.mp h
    cases h
    dsimp only
    rcases eq_or_ne engine engineIndex with same | other
    · rw [same, Function.update_self]
      exact GartDirty.grows_add _ _ _
    · rw [Function.update_of_ne other]
      exact .refl _
  case h_4 => cases h
  case h_5 => cases h

-----------------------------------------------------------------------------------------
-- Covering
-----------------------------------------------------------------------------------------

/-- The first round covers the pages it writes. -/
theorem dirtyRound_covers {pageShift page last written : Nat} (range : GartDirty)
    (large : gpuPageShift ≤ pageShift) (inside : page ≤ last)
    (member : written ∈ List.range' page
      (wholePagesInTable pageShift page last * 2 ^ (pageShift - gpuPageShift)))
    : (range.add (pageVa page)
        (level2Mask pageShift (pageVa page)
          (wholePagesInTable pageShift page last))).Covers (pageVa written) := by
  obtain ⟨low, high⟩ := List.mem_range'_1.mp member
  obtain ⟨k, rfl⟩ := Nat.exists_eq_add_of_le low
  have bound : k < wholePagesInTable pageShift page last * 2 ^ (pageShift - gpuPageShift) :=
    Nat.lt_of_add_lt_add_left high
  have few : wholePagesInTable pageShift page last * 2 ^ (pageShift - gpuPageShift) ≤ 1024 :=
    (Nat.div_mul_le_self _ _).trans (pagesInTable_bounds inside).2.2
  let arg : UpdatePtesArg :=
    ⟨.level2, 0, pageVa page, 0, 0, .allocation ⟨false, false, .fragments []⟩, 0, 0⟩
  have entry : arg.entryVa k = pageVa (page + k) := by
    rw [pageVa, Nat.add_mul, BitVec.ofNat_add]
    rfl
  rw [← entry]
  exact @level2_covers arg pageShift _ k range rfl large bound (by omega)

/-- The rounds cover the pages they write, by induction on them. -/
theorem dirtyPtesFrom_covers {pageShift last rounds page written : Nat} (range : GartDirty)
    (large : gpuPageShift ≤ pageShift)
    (member : written ∈ writtenPagesFrom pageShift last rounds page)
    : (dirtyPtesFrom pageShift last rounds page range).Covers (pageVa written) := by
  induction rounds generalizing page range with
  | zero => cases member
  | succ rounds ih =>
      rw [writtenPagesFrom] at member
      rw [dirtyPtesFrom]
      split at member
      · next inside =>
          rw [if_pos inside]
          rcases List.mem_append.mp member with here | later
          · exact (dirtyPtesFrom_grows _ _ _ _ _).covers _
              (dirtyRound_covers range large inside here)
          · exact ih _ later
      · cases member

/-- From a whole page to a whole page, the pages of a round are whole. -/
theorem dvd_pagesInTable {size page last : Nat} (table : size ∣ 1024) (start : size ∣ page)
    (stop : size ∣ last + 1)
    : size ∣ pagesInTable page last := by
  rw [pagesInTable]
  refine Nat.dvd_sub ?_ start
  rcases min_choice (last + 1) ((page / 1024 + 1) * 1024) with same | same
  · rw [same]
    exact stop
  · rw [same]
    exact table.mul_left _

/-- From a whole page to a whole page the rounds write all entries, by induction on them. -/
theorem mem_writtenPagesFrom {pageShift last rounds page written : Nat}
    (table : 2 ^ (pageShift - gpuPageShift) ∣ 1024)
    (start : 2 ^ (pageShift - gpuPageShift) ∣ page)
    (stop : 2 ^ (pageShift - gpuPageShift) ∣ last + 1) (after : page ≤ written)
    (inside : written ≤ last) (enough : last + 1 ≤ page + rounds)
    : written ∈ writtenPagesFrom pageShift last rounds page := by
  induction rounds generalizing page with
  | zero => omega
  | succ rounds ih =>
      obtain ⟨progress, -, -⟩ := pagesInTable_bounds (after.trans inside)
      have whole := dvd_pagesInTable table start stop
      rw [writtenPagesFrom, if_pos (after.trans inside), List.mem_append]
      rcases Nat.lt_or_ge written (page + pagesInTable page last) with here | later
      · refine .inl (List.mem_range'_1.mpr ⟨after, ?_⟩)
        rw [wholePagesInTable, Nat.div_mul_cancel whole]
        exact here
      · exact .inr (ih (Nat.dvd_add start whole) later (by omega))

namespace PtesRequest.Spans

variable {request : PtesRequest} {first last page : Nat}

/-- What one round leaves behind. -/
theorem vidmmUpdatePtesE3k_dirty {adapter : Adapter} {pteDstVa : U64}
    {vmaSpace after : VmaSpace} {command : CopyImm} (h : request.Spans first last)
    (inside : page ≤ last)
    (ran : vidmmUpdatePtesE3k adapter vmaSpace request.engineIndex
      (request.updatePteArg pteDstVa (BitVec.ofNat 64 page)) = some (after, command))
    : let pageShift := level2PageShift adapter request.entity
      let mask := level2Mask pageShift (pageVa page) (wholePagesInTable pageShift page last)
      after =
        { vmaSpace with
          dtlbDirtys :=
            Function.update vmaSpace.dtlbDirtys request.engineIndex
              ((vmaSpace.dtlbDirtys request.engineIndex).add (pageVa page) mask) } := by
  have start : (request.updatePteArg pteDstVa (BitVec.ofNat 64 page)).curBufVaOnFill
      = pageVa page := by
    have small := h.small
    apply BitVec.eq_of_toNat_eq
    simp only [PtesRequest.updatePteArg, pageVa, BitVec.toNat_shiftLeft, BitVec.toNat_ofNat,
      Nat.shiftLeft_eq]
    omega
  obtain ⟨⟨data, mask⟩, found, ran⟩ := Option.bind_eq_some_iff.mp ran
  cases ran
  simp only [level2Entries] at found
  split at found
  · cases found
  obtain ⟨pas, -, found⟩ := Option.bind_eq_some_iff.mp found
  cases found
  rw [start, h.toNat_pteCount_updatePteArg pteDstVa inside]
  rfl

/-- What the rounds leave behind, if none of them fails, by induction on them. -/
theorem updatePtesFrom_dirty {adapter : Adapter} {tables : PageTables} {rounds : Nat}
    {vmaSpace : VmaSpace} {updated : PtesUpdated} (h : request.Spans first last)
    (inside : page ≤ last + 1)
    (ran : request.updatePtesFrom adapter tables rounds (BitVec.ofNat 64 (page * 4096)) vmaSpace
      = some updated)
    (succeeded : updated.succeeded = true)
    : updated.vmaSpace =
        { vmaSpace with
          dtlbDirtys :=
            Function.update vmaSpace.dtlbDirtys request.engineIndex
              (dirtyPtesFrom (level2PageShift adapter request.entity) last rounds page
                (vmaSpace.dtlbDirtys request.engineIndex)) } := by
  induction rounds generalizing page vmaSpace updated with
  | zero =>
      rw [PtesRequest.updatePtesFrom] at ran
      split at ran
      · cases ran
      · cases ran
        rw [dirtyPtesFrom, Function.update_eq_self]
  | succ rounds ih =>
      rw [PtesRequest.updatePtesFrom] at ran
      rcases Nat.lt_or_ge last page with past | left
      · have done : ¬ BitVec.ofNat 64 (page * 4096) < request.endAddr := by
          rw [h.lt_endAddr_iff inside]
          omega
        rw [if_neg done] at ran
        cases ran
        rw [dirtyPtesFrom, if_neg (Nat.not_le.mpr past), Function.update_eq_self]
      · obtain ⟨-, bound, -⟩ := pagesInTable_bounds left
        rw [if_pos ((h.lt_endAddr_iff inside).mpr left), h.startPage inside] at ran
        dsimp only at ran
        split at ran
        · cases ran
          cases succeeded
        · obtain ⟨⟨after, command⟩, first, ran⟩ := Option.bind_eq_some_iff.mp ran
          obtain ⟨later, rest, ran⟩ := Option.bind_eq_some_iff.mp ran
          cases ran
          rw [h.nextPage left] at rest
          rw [ih bound rest succeeded, h.vidmmUpdatePtesE3k_dirty left first, dirtyPtesFrom,
            if_pos left]
          simp only [Function.update_self, Function.update_idem]

end PtesRequest.Spans

end Cx4Kernel.Vidmm
