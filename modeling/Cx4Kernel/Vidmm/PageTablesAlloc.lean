import Cx4Kernel.Foundation.LocalStore
import Cx4Kernel.Vidmm.PageTables

/-! What `vidmm_vm_alloc_pd` does to each page table of a private `vma_space`. -/

namespace Cx4Kernel.Vidmm

open Cx4Kernel.Foundation LocalStore

-----------------------------------------------------------------------------------------
-- Numbers
-----------------------------------------------------------------------------------------

theorem vmPtNumEntries_zero : vmPtNumEntries 0 = 256 := rfl

theorem vmPtNumEntries_one : vmPtNumEntries 1 = 1024 := rfl

theorem vmPtNumEntries_two : vmPtNumEntries 2 = 1024 := rfl

theorem vmAccumPdBitsCount_zero : vmAccumPdBitsCount 0 = 20 := rfl

theorem vmAccumPdBitsCount_one : vmAccumPdBitsCount 1 = 10 := rfl

/-- The path of a leaf table by its number. -/
def leafPath (leaf : Nat) : List Nat := [leaf / 1024, leaf % 1024]

theorem leafPath_injective {leaf other : Nat} (h : leafPath leaf = leafPath other)
    : leaf = other := by
  simp only [leafPath, List.cons.injEq, and_true] at h
  omega

theorem leafPath_ne_singleton (leaf index : Nat) : leafPath leaf ≠ [index] := by
  intro h
  cases h

namespace VmPtInfo

theorem change_self (tables : VmPtInfo) (path : List Nat) (update : VmPt → VmPt)
    : tables.change path update path = update (tables path) :=
  Function.update_self ..

theorem change_of_ne (tables : VmPtInfo) {path other : List Nat} (update : VmPt → VmPt)
    (different : other ≠ path)
    : tables.change path update other = tables other :=
  Function.update_of_ne different ..

/-- Two changes of one table are one change of it. -/
theorem change_change (tables : VmPtInfo) (path : List Nat) (first second : VmPt → VmPt)
    : (tables.change path first).change path second
      = tables.change path fun entry => second (first entry) := by
  rw [VmPtInfo.change, change_self, VmPtInfo.change, Function.update_idem]
  rfl

end VmPtInfo

/-- A bit of a table, clear where it has no bitmap. -/
def VmPt.bit (entry : VmPt) (i : Nat) : Bool := (entry.updateBitmap.getD fun _ => false) i

/-- A bit after a range of bits is set or cleared. -/
theorem bit_updateBitmap {entry : VmPt} {sIdx eIdx : Nat} {value : Bool} (i : Nat)
    (some : entry.updateBitmap.isSome)
    : (vmPtUpdateBitmap sIdx eIdx value entry).bit i
      = if sIdx ≤ i ∧ i ≤ eIdx then value else entry.bit i := by
  obtain ⟨bitmap, found⟩ := Option.isSome_iff_exists.mp some
  rw [VmPt.bit, VmPt.bit, vmPtUpdateBitmap, found]
  rfl

namespace VmPtInfo

/-- A table with a buffer has the bits it had before. -/
theorem bit_allocPtBuffer (entry : VmPt) (i : Nat) : (allocPtBuffer entry).bit i = entry.bit i := by
  rw [allocPtBuffer]
  split
  · rfl
  · rfl

theorem buffer_allocPtBuffer (entry : VmPt) : (allocPtBuffer entry).buffer = true := by
  rw [allocPtBuffer]
  split
  · assumption
  · rfl

theorem entries_allocPtBuffer (entry : VmPt) : (allocPtBuffer entry).entries = entry.entries := by
  rw [allocPtBuffer]
  split <;> rfl

theorem isSome_allocPtBuffer {entry : VmPt} (h : entry.buffer → entry.updateBitmap.isSome)
    : (allocPtBuffer entry).updateBitmap.isSome := by
  rw [allocPtBuffer]
  split
  · rename_i buffer
    exact h buffer
  · rfl

-----------------------------------------------------------------------------------------
-- One level
-----------------------------------------------------------------------------------------

/-- What `vidmm_vm_alloc_pd` does to the directory itself. -/
def openDirectory (first last : Nat) (entry : VmPt) : VmPt :=
  vmPtUpdateBitmap first last true { entry with entries := true }

/-- Bits that are all set already may be set again. -/
theorem updateBitmap_of_check {entry : VmPt} {sIdx eIdx : Nat}
    (h : vmPtCheckBitmap entry sIdx eIdx)
    : vmPtUpdateBitmap sIdx eIdx true entry = entry := by
  obtain ⟨buffer, bitmap, entries⟩ := entry
  cases bitmap with
  | none => rfl
  | some bitmap =>
      obtain ⟨_, all⟩ := Bool.and_eq_true_iff.mp h
      have set := List.all_eq_true.mp all
      rw [vmPtUpdateBitmap]
      congr 1
      refine congrArg some (funext fun i => ?_)
      by_cases inside : sIdx ≤ i ∧ i ≤ eIdx
      · change (if _ then _ else _) = _
        rw [if_pos inside]
        exact (set i (List.mem_range'_1.mpr (by omega))).symm
      · exact if_neg inside

/-- The part of the address range that a directory entry gets. -/
def subRange (saddr eaddr shift first last idx : Nat) : Nat × Nat :=
  (if idx = first then saddr % 2 ^ shift else 0,
    if idx = last then eaddr % 2 ^ shift else 2 ^ shift - 1)

/-- The work on one directory entry. -/
def allocSub (remaining : Nat) (parent : List Nat) (saddr eaddr shift first last idx : Nat)
    (tables : VmPtInfo) : VmPtInfo :=
  vidmmVmAllocPd remaining (tables.change (parent ++ [idx]) allocPtBuffer) (parent ++ [idx])
    (subRange saddr eaddr shift first last idx).1 (subRange saddr eaddr shift first last idx).2

/-- One level of `vidmm_vm_alloc_pd` for a range that fits: whether the bits were set does not
matter.
-/
theorem vidmmVmAllocPd_succ {remaining saddr eaddr shift first last : Nat} {tables : VmPtInfo}
    {parent : List Nat} (is_shift : vmAccumPdBitsCount parent.length = shift)
    (is_first : saddr >>> shift = first) (is_last : eaddr >>> shift = last)
    (fits : first < vmPtNumEntries parent.length ∧ last < vmPtNumEntries parent.length)
    : vidmmVmAllocPd (remaining + 1) tables parent saddr eaddr
      = (List.range' first (last + 1 - first)).foldl
          (fun tables idx => allocSub remaining parent saddr eaddr shift first last idx tables)
          (tables.change parent (openDirectory first last)) := by
  subst is_shift is_first is_last
  have marked (first last : Nat)
      : (if vmPtCheckBitmap (tables.change parent ({ · with entries := true }) parent) first last
          then tables.change parent ({ · with entries := true })
          else (tables.change parent ({ · with entries := true })).change parent
            (vmPtUpdateBitmap first last true))
        = tables.change parent (openDirectory first last) := by
    split
    · rename_i set
      rw [change_self] at set
      rw [VmPtInfo.change, VmPtInfo.change, openDirectory, updateBitmap_of_check set]
    · exact change_change ..
  rw [vidmmVmAllocPd]
  simp only
  rw [if_neg (by omega), marked]
  simp only [Nat.one_shiftLeft, Nat.and_two_pow_sub_one_eq_mod]
  rfl

-----------------------------------------------------------------------------------------
-- The directories below the root
-----------------------------------------------------------------------------------------

/-- The work on one entry of a directory below the root touches its page table only. -/
theorem allocSub_zero_local {directory saddr eaddr shift first last idx : Nat}
    : LocalTo (· = [directory, idx])
        (allocSub 0 [directory] saddr eaddr shift first last idx) :=
  localTo_update [directory, idx] allocPtBuffer

variable {directory saddr eaddr first last : Nat} {tables : VmPtInfo}

/-- Page tables of one directory are different. -/
theorem sub_disjoint (first second : Nat) (path : List Nat) (h : path = [directory, first])
    (h' : path = [directory, second])
    : first = second := by
  subst h
  simpa using h'

/-- The loop of a directory below the root. -/
theorem allocPd_one_eq (in_order : saddr ≤ eaddr) (fits : eaddr < 2 ^ 20)
    : vidmmVmAllocPd 1 tables [directory] saddr eaddr
      = (List.range' (saddr / 1024) (eaddr / 1024 + 1 - saddr / 1024)).foldl
          (fun tables idx => allocSub 0 [directory] saddr eaddr 10 (saddr / 1024)
            (eaddr / 1024) idx tables)
          (tables.change [directory] (openDirectory (saddr / 1024) (eaddr / 1024))) := by
  have is_shift : vmAccumPdBitsCount [directory].length = 10 := rfl
  have is_first : saddr >>> 10 = saddr / 1024 := Nat.shiftRight_eq_div_pow ..
  have is_last : eaddr >>> 10 = eaddr / 1024 := Nat.shiftRight_eq_div_pow ..
  apply vidmmVmAllocPd_succ is_shift is_first is_last
  change _ < 1024 ∧ _ < 1024
  omega

/-- The directory gets its array of entries, and the bits of its range. -/
theorem allocPd_one_directory (in_order : saddr ≤ eaddr) (fits : eaddr < 2 ^ 20)
    : vidmmVmAllocPd 1 tables [directory] saddr eaddr [directory]
      = openDirectory (saddr / 1024) (eaddr / 1024) (tables [directory]) := by
  rw [allocPd_one_eq in_order fits]
  refine (foldl_outside (fun _ _ => allocSub_zero_local) ?_ _).trans (change_self ..)
  intro idx _ same
  cases same

/-- Page tables of the range get a buffer. -/
theorem allocPd_one_inside (in_order : saddr ≤ eaddr) (fits : eaddr < 2 ^ 20) {idx : Nat}
    (above : saddr / 1024 ≤ idx) (below : idx ≤ eaddr / 1024)
    : vidmmVmAllocPd 1 tables [directory] saddr eaddr [directory, idx]
      = allocPtBuffer (tables [directory, idx]) := by
  rw [allocPd_one_eq in_order fits]
  refine (foldl_inside List.nodup_range' (fun _ _ => allocSub_zero_local) sub_disjoint
    (List.mem_range'_1.mpr (by omega)) rfl _).trans ?_
  refine (change_self _ [directory, idx] allocPtBuffer).trans ?_
  rw [change_of_ne _ _ (by simp)]

/-- Nothing else changes. -/
theorem allocPd_one_outside (in_order : saddr ≤ eaddr) (fits : eaddr < 2 ^ 20) {path : List Nat}
    (other : path ≠ [directory])
    (outside : ∀ idx, saddr / 1024 ≤ idx → idx ≤ eaddr / 1024 → path ≠ [directory, idx])
    : vidmmVmAllocPd 1 tables [directory] saddr eaddr path = tables path := by
  rw [allocPd_one_eq in_order fits]
  refine (foldl_outside (fun _ _ => allocSub_zero_local) ?_ _).trans (change_of_ne _ _ other)
  intro idx member
  have bounds := List.mem_range'_1.mp member
  exact outside idx bounds.1 (by omega)

/-- The work on one directory touches nothing outside. -/
theorem allocPd_one_local (in_order : saddr ≤ eaddr) (fits : eaddr < 2 ^ 20)
    : LocalTo ([directory] <+: ·) fun tables => vidmmVmAllocPd 1 tables [directory] saddr eaddr where
  outside tables path off := by
    apply allocPd_one_outside in_order fits
    · rintro rfl
      exact off List.prefix_rfl
    · rintro idx _ _ rfl
      exact off (List.prefix_append [directory] [idx])
  inside tables others same path on := by
    by_cases here : path = [directory]
    · rw [here, allocPd_one_directory in_order fits, allocPd_one_directory in_order fits,
        same _ List.prefix_rfl]
    · by_cases inside : ∃ idx, saddr / 1024 ≤ idx ∧ idx ≤ eaddr / 1024 ∧ path = [directory, idx]
      · obtain ⟨idx, above, below, rfl⟩ := inside
        rw [allocPd_one_inside in_order fits above below,
          allocPd_one_inside in_order fits above below, same _ on]
      · have outside : ∀ idx, saddr / 1024 ≤ idx → idx ≤ eaddr / 1024
            → path ≠ [directory, idx] :=
          fun idx above below there => inside ⟨idx, above, below, there⟩
        rw [allocPd_one_outside in_order fits here outside,
          allocPd_one_outside in_order fits here outside, same path on]

-----------------------------------------------------------------------------------------
-- From the root
-----------------------------------------------------------------------------------------

/-- The part of the address range that a directory below the root gets. -/
def directoryRange (saddr eaddr idx : Nat) : Nat × Nat :=
  subRange saddr eaddr 20 (saddr / 2 ^ 20) (eaddr / 2 ^ 20) idx

/-- Each part is a range, and fits the directory. -/
theorem directoryRange_valid (in_order : saddr ≤ eaddr) (idx : Nat)
    : (directoryRange saddr eaddr idx).1 ≤ (directoryRange saddr eaddr idx).2
      ∧ (directoryRange saddr eaddr idx).2 < 2 ^ 20 := by
  simp only [directoryRange, subRange]
  split <;> split <;> omega

/-- The parts make up the range: an entry of a directory is in its part if its number is in
the range.
-/
theorem directoryRange_iff (in_order : saddr ≤ eaddr) {leaf : Nat}
    (above : saddr / 2 ^ 20 ≤ leaf / 1024) (below : leaf / 1024 ≤ eaddr / 2 ^ 20)
    : (directoryRange saddr eaddr (leaf / 1024)).1 / 1024 ≤ leaf % 1024
        ∧ leaf % 1024 ≤ (directoryRange saddr eaddr (leaf / 1024)).2 / 1024
      ↔ saddr / 1024 ≤ leaf ∧ leaf ≤ eaddr / 1024 := by
  simp only [directoryRange, subRange]
  split <;> split <;> omega

/-- The work on one directory touches nothing outside. -/
theorem allocSub_one_local (in_order : saddr ≤ eaddr) (idx : Nat)
    : LocalTo ([idx] <+: ·)
        (allocSub 1 [] saddr eaddr 20 (saddr / 2 ^ 20) (eaddr / 2 ^ 20) idx) := by
  have valid := directoryRange_valid in_order idx
  have buffer : LocalTo ([idx] <+: ·) fun tables : VmPtInfo => tables.change [idx] allocPtBuffer := by
    refine (localTo_update [idx] allocPtBuffer).mono ?_
    rintro _ rfl
    exact List.prefix_rfl
  exact buffer.comp (allocPd_one_local valid.1 valid.2)

/-- Tables of different directories are different. -/
theorem directory_disjoint (first second : Nat) (path : List Nat) (h : [first] <+: path)
    (h' : [second] <+: path)
    : first = second := by
  obtain ⟨_, rfl⟩ := h
  obtain ⟨_, same⟩ := h'
  exact (List.cons.inj same.symm).1

/-- The loop of the root. -/
theorem allocPd_two_eq (in_order : saddr ≤ eaddr) (fits : eaddr < 2 ^ 28)
    : vidmmVmAllocPd 2 tables [] saddr eaddr
      = (List.range' (saddr / 2 ^ 20) (eaddr / 2 ^ 20 + 1 - saddr / 2 ^ 20)).foldl
          (fun tables idx => allocSub 1 [] saddr eaddr 20 (saddr / 2 ^ 20)
            (eaddr / 2 ^ 20) idx tables)
          (tables.change [] (openDirectory (saddr / 2 ^ 20) (eaddr / 2 ^ 20))) := by
  have is_shift : vmAccumPdBitsCount ([] : List Nat).length = 20 := rfl
  have is_first : saddr >>> 20 = saddr / 2 ^ 20 := Nat.shiftRight_eq_div_pow ..
  have is_last : eaddr >>> 20 = eaddr / 2 ^ 20 := Nat.shiftRight_eq_div_pow ..
  apply vidmmVmAllocPd_succ is_shift is_first is_last
  change _ < 256 ∧ _ < 256
  omega

/-- The root gets its array of entries. -/
theorem allocPd_root (in_order : saddr ≤ eaddr) (fits : eaddr < 2 ^ 28)
    : vidmmVmAllocPd 2 tables [] saddr eaddr []
      = openDirectory (saddr / 2 ^ 20) (eaddr / 2 ^ 20) (tables []) := by
  rw [allocPd_two_eq in_order fits]
  refine (foldl_outside (fun idx _ => allocSub_one_local in_order idx) ?_ _).trans
    (change_self ..)
  intro idx _ below
  simp at below

/-- A table below a directory of the range changes as if the directory were the only one. -/
theorem allocPd_below (in_order : saddr ≤ eaddr) (fits : eaddr < 2 ^ 28) {idx : Nat}
    {path : List Nat} (above : saddr / 2 ^ 20 ≤ idx) (below : idx ≤ eaddr / 2 ^ 20)
    (under : [idx] <+: path)
    : vidmmVmAllocPd 2 tables [] saddr eaddr path
      = vidmmVmAllocPd 1 (tables.change [idx] allocPtBuffer) [idx]
          (directoryRange saddr eaddr idx).1 (directoryRange saddr eaddr idx).2 path := by
  rw [allocPd_two_eq in_order fits]
  refine (foldl_inside List.nodup_range' (fun idx _ => allocSub_one_local in_order idx)
    directory_disjoint (List.mem_range'_1.mpr (by omega)) under _).trans ?_
  refine (allocSub_one_local in_order idx).inside _ _ ?_ path under
  rintro _ ⟨_, rfl⟩
  exact change_of_ne _ _ (by simp)

/-- A table below a directory outside the range does not change. -/
theorem allocPd_beside (in_order : saddr ≤ eaddr) (fits : eaddr < 2 ^ 28) {idx : Nat}
    {path : List Nat} (outside : ¬ (saddr / 2 ^ 20 ≤ idx ∧ idx ≤ eaddr / 2 ^ 20))
    (under : [idx] <+: path)
    : vidmmVmAllocPd 2 tables [] saddr eaddr path = tables path := by
  rw [allocPd_two_eq in_order fits]
  obtain ⟨rest, rfl⟩ := under
  refine (foldl_outside (fun idx _ => allocSub_one_local in_order idx) ?_ _).trans
    (change_of_ne _ _ (by simp))
  intro other member on_other
  have bounds := List.mem_range'_1.mp member
  have same : idx = other := directory_disjoint _ _ _ (List.prefix_append _ _) on_other
  omega

/-- A directory of the range gets a buffer, its array of entries and the bits of its part. -/
theorem allocPd_directory (in_order : saddr ≤ eaddr) (fits : eaddr < 2 ^ 28) {idx : Nat}
    (above : saddr / 2 ^ 20 ≤ idx) (below : idx ≤ eaddr / 2 ^ 20)
    : vidmmVmAllocPd 2 tables [] saddr eaddr [idx]
      = openDirectory ((directoryRange saddr eaddr idx).1 / 1024)
          ((directoryRange saddr eaddr idx).2 / 1024) (allocPtBuffer (tables [idx])) := by
  have valid := directoryRange_valid in_order idx
  rw [allocPd_below in_order fits above below List.prefix_rfl,
    allocPd_one_directory valid.1 valid.2, change_self]

/-- A page table gets a buffer if it is in the range, and does not change otherwise. -/
theorem allocPd_leaf (in_order : saddr ≤ eaddr) (fits : eaddr < 2 ^ 28) (leaf : Nat)
    : vidmmVmAllocPd 2 tables [] saddr eaddr (leafPath leaf)
      = if saddr / 1024 ≤ leaf ∧ leaf ≤ eaddr / 1024 then allocPtBuffer (tables (leafPath leaf))
        else tables (leafPath leaf) := by
  have under : [leaf / 1024] <+: leafPath leaf := List.prefix_append [_] [_]
  have valid := directoryRange_valid in_order (leaf / 1024)
  have other : leafPath leaf ≠ [leaf / 1024] := leafPath_ne_singleton leaf _
  by_cases here : saddr / 2 ^ 20 ≤ leaf / 1024 ∧ leaf / 1024 ≤ eaddr / 2 ^ 20
  · rw [allocPd_below in_order fits here.1 here.2 under]
    have part := directoryRange_iff in_order here.1 here.2
    by_cases inside : saddr / 1024 ≤ leaf ∧ leaf ≤ eaddr / 1024
    · obtain ⟨above, below⟩ := part.mpr inside
      rw [if_pos inside]
      refine (allocPd_one_inside valid.1 valid.2 above below).trans ?_
      exact congrArg allocPtBuffer (change_of_ne _ _ other)
    · rw [if_neg inside]
      refine (allocPd_one_outside valid.1 valid.2 other ?_).trans (change_of_ne _ _ other)
      intro idx above below same
      have same_idx : leaf % 1024 = idx := by simpa [leafPath] using same
      exact inside (part.mp (same_idx ▸ ⟨above, below⟩))
  · rw [allocPd_beside in_order fits here under, if_neg (by omega)]

end VmPtInfo

end Cx4Kernel.Vidmm
