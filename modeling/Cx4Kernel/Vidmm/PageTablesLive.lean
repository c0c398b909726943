import Cx4Kernel.Vidmm.PageTablesAlloc

/-! Which page tables exist: a page table is there as long as one of its pages is mapped. -/

namespace Cx4Kernel.Vidmm

open Cx4Kernel.Foundation

-----------------------------------------------------------------------------------------
-- What the tables say
-----------------------------------------------------------------------------------------

/-- The tables say that `mapped` pages are mapped and that `live` page tables exist. -/
structure VmPtInfo.Holds (tables : VmPtInfo) (mapped live : Nat → Prop) : Prop where
  root_buffer : (tables []).buffer
  directory_bitmap : ∀ i, (tables [i]).buffer → (tables [i]).updateBitmap.isSome
  /-- The directories above a page table that exists have their arrays. -/
  above : ∀ leaf < 2 ^ 18, live leaf →
    (tables []).entries ∧ (tables [leaf / 1024]).buffer ∧ (tables [leaf / 1024]).entries
  buffer : ∀ leaf < 2 ^ 18, ((tables (leafPath leaf)).buffer ↔ live leaf)
  parent_bit : ∀ leaf < 2 ^ 18, ((tables [leaf / 1024]).bit (leaf % 1024) ↔ live leaf)
  bitmap : ∀ leaf < 2 ^ 18, live leaf → (tables (leafPath leaf)).updateBitmap.isSome
  entries : ∀ leaf < 2 ^ 18, (tables (leafPath leaf)).entries = false
  bit : ∀ page < 2 ^ 28, ((tables (leafPath (page / 1024))).bit (page % 1024) ↔ mapped page)
  mapped_live : ∀ page < 2 ^ 28, mapped page → live (page / 1024)

/-- The page tables that some mapped page needs. -/
def Covered (mapped : Nat → Prop) (leaf : Nat) : Prop :=
  ∃ page, page < 2 ^ 28 ∧ page / 1024 = leaf ∧ mapped page

namespace VmPtInfo

variable {tables : VmPtInfo} {mapped live : Nat → Prop}

/-- Only what holds of pages and page tables matters. -/
theorem Holds.congr {pages kept : Nat → Prop} (h : tables.Holds mapped live)
    (same_pages : ∀ page < 2 ^ 28, (mapped page ↔ pages page))
    (same_tables : ∀ leaf < 2 ^ 18, (live leaf ↔ kept leaf))
    : tables.Holds pages kept where
  root_buffer := h.root_buffer
  directory_bitmap := h.directory_bitmap
  above leaf inside there := h.above leaf inside ((same_tables leaf inside).mpr there)
  buffer leaf inside := (h.buffer leaf inside).trans (same_tables leaf inside)
  parent_bit leaf inside := (h.parent_bit leaf inside).trans (same_tables leaf inside)
  bitmap leaf inside there := h.bitmap leaf inside ((same_tables leaf inside).mpr there)
  entries := h.entries
  bit page inside := (h.bit page inside).trans (same_pages page inside)
  mapped_live page inside there :=
    (same_tables _ (by omega)).mp (h.mapped_live page inside ((same_pages page inside).mpr there))

-----------------------------------------------------------------------------------------
-- Looking up
-----------------------------------------------------------------------------------------

/-- The index into the root is the number of the directory. -/
theorem root_index {sAddr : Nat} (inside : sAddr < 2 ^ 28)
    : (sAddr &&& vmPtAddrMask 0) >>> vmAccumPdBitsCount 0 = sAddr / 1024 / 1024 := by
  change (sAddr &&& 255 <<< 20) >>> 20 = _
  rw [Nat.shiftRight_and_distrib, Nat.shiftLeft_shiftRight,
    show (255 : Nat) = 2 ^ 8 - 1 from rfl, Nat.and_two_pow_sub_one_eq_mod,
    Nat.shiftRight_eq_div_pow]
  omega

/-- The index into a directory is the number of the page table in it. -/
theorem directory_index (sAddr : Nat)
    : (sAddr &&& vmPtAddrMask 1) >>> vmAccumPdBitsCount 1 = sAddr / 1024 % 1024 := by
  change (sAddr &&& 1023 <<< 10) >>> 10 = _
  rw [Nat.shiftRight_and_distrib, Nat.shiftLeft_shiftRight,
    show (1023 : Nat) = 2 ^ 10 - 1 from rfl, Nat.and_two_pow_sub_one_eq_mod,
    Nat.shiftRight_eq_div_pow]

/-- A look-up that gets through both directories ends at the page table of the address. -/
theorem getPtEntry_eq {sAddr : Nat} (root_buffer : (tables []).buffer)
    (leaf_entries : (tables (leafPath (sAddr / 1024))).entries = false)
    (inside : sAddr < 2 ^ 28)
    : vidmmiVmGetPtEntry tables sAddr
      = if (tables []).entries ∧ (tables [sAddr / 1024 / 1024]).entries
            ∧ (tables [sAddr / 1024 / 1024]).buffer then some (leafPath (sAddr / 1024))
        else none := by
  have leaf : (tables [sAddr / 1024 / 1024, sAddr / 1024 % 1024]).entries = false :=
    leaf_entries
  have root_idx := root_index inside
  have directory_idx := directory_index sAddr
  rw [vidmmiVmGetPtEntry, walkEntries]
  simp only [List.length_nil, root_buffer, root_idx, List.nil_append, if_true]
  by_cases root : (tables []).entries
  · rw [if_pos root, walkEntries]
    simp only [List.length_singleton, directory_idx, List.singleton_append]
    by_cases directory : (tables [sAddr / 1024 / 1024]).entries
    · rw [if_pos directory]
      by_cases buffer : (tables [sAddr / 1024 / 1024]).buffer
      · rw [if_pos buffer, walkEntries, if_neg (by simp [leaf]),
          if_pos ⟨root, directory, buffer⟩]
        rfl
      · rw [if_neg buffer, if_neg fun all => buffer all.2.2]
        rfl
    · rw [if_neg directory, if_neg fun all => directory all.2.1]
      rfl
  · rw [if_neg root, if_neg fun all => root all.1]
    rfl

theorem vidmmiVmGetPtEntry_eq {sAddr : Nat} (h : tables.Holds mapped live)
    (inside : sAddr < 2 ^ 28)
    : vidmmiVmGetPtEntry tables sAddr
      = if (tables []).entries ∧ (tables [sAddr / 1024 / 1024]).entries
            ∧ (tables [sAddr / 1024 / 1024]).buffer then some (leafPath (sAddr / 1024))
        else none :=
  getPtEntry_eq h.root_buffer (h.entries (sAddr / 1024) (by omega)) inside

/-- A page table that exists is found. -/
theorem getPtEntry_of_live {sAddr : Nat} (h : tables.Holds mapped live) (inside : sAddr < 2 ^ 28)
    (there : live (sAddr / 1024))
    : vidmmiVmGetPtEntry tables sAddr = some (leafPath (sAddr / 1024)) := by
  obtain ⟨root, buffer, directory⟩ := h.above (sAddr / 1024) (by omega) there
  rw [vidmmiVmGetPtEntry_eq h inside, if_pos ⟨root, directory, buffer⟩]

-----------------------------------------------------------------------------------------
-- Allocating
-----------------------------------------------------------------------------------------

/-- The entries of a directory from a level below. -/
theorem openDirectory_bit {first last : Nat} {entry : VmPt} (some : entry.updateBitmap.isSome)
    (i : Nat)
    : (openDirectory first last entry).bit i
      = if first ≤ i ∧ i ≤ last then true else entry.bit i :=
  bit_updateBitmap i some

theorem openDirectory_isSome {first last : Nat} {entry : VmPt}
    (some : entry.updateBitmap.isSome)
    : (openDirectory first last entry).updateBitmap.isSome := by
  rw [openDirectory, vmPtUpdateBitmap, Option.isSome_map]
  exact some

variable {saddr eaddr : Nat}

/-- What a directory looks like after an allocation, in its part of the range or not. -/
theorem Holds.alloc_directory (h : tables.Holds mapped live) (in_order : saddr ≤ eaddr)
    (fits : eaddr < 2 ^ 28) (idx : Nat)
    : let allocated := vidmmVmAllocPd 2 tables [] saddr eaddr [idx]
      (allocated.buffer → allocated.updateBitmap.isSome)
        ∧ ((tables [idx]).buffer → allocated.buffer)
        ∧ ((tables [idx]).entries → allocated.entries)
        ∧ (saddr / 2 ^ 20 ≤ idx → idx ≤ eaddr / 2 ^ 20 → allocated.buffer ∧ allocated.entries) := by
  by_cases inside : saddr / 2 ^ 20 ≤ idx ∧ idx ≤ eaddr / 2 ^ 20
  · rw [allocPd_directory in_order fits inside.1 inside.2]
    have some := isSome_allocPtBuffer (h.directory_bitmap idx)
    have buffer := buffer_allocPtBuffer (tables [idx])
    exact ⟨fun _ => openDirectory_isSome some, fun _ => buffer, fun _ => rfl,
      fun _ _ => ⟨buffer, rfl⟩⟩
  · rw [allocPd_beside in_order fits inside List.prefix_rfl]
    exact ⟨h.directory_bitmap idx, id, id, fun above below => absurd ⟨above, below⟩ inside⟩

/-- The bit of a page table in its directory after an allocation. -/
theorem Holds.alloc_parent_bit (h : tables.Holds mapped live) (in_order : saddr ≤ eaddr)
    (fits : eaddr < 2 ^ 28) {leaf : Nat} (inside : leaf < 2 ^ 18)
    : (vidmmVmAllocPd 2 tables [] saddr eaddr [leaf / 1024]).bit (leaf % 1024)
      ↔ live leaf ∨ saddr / 1024 ≤ leaf ∧ leaf ≤ eaddr / 1024 := by
  have before := h.parent_bit leaf inside
  by_cases here : saddr / 2 ^ 20 ≤ leaf / 1024 ∧ leaf / 1024 ≤ eaddr / 2 ^ 20
  · have some := isSome_allocPtBuffer (h.directory_bitmap (leaf / 1024))
    rw [allocPd_directory in_order fits here.1 here.2, openDirectory_bit some,
      bit_allocPtBuffer]
    have part := directoryRange_iff in_order here.1 here.2
    split
    · rename_i now
      exact ⟨fun _ => .inr (part.mp now), fun _ => rfl⟩
    · rename_i absent
      rw [before]
      exact ⟨.inl, fun either => either.resolve_right fun now => absent (part.mpr now)⟩
  · rw [allocPd_beside in_order fits here List.prefix_rfl, before]
    refine ⟨.inl, fun either => either.resolve_right ?_⟩
    omega

/-- After an allocation the page tables of its range exist too. -/
theorem Holds.alloc (h : tables.Holds mapped live) (in_order : saddr ≤ eaddr)
    (fits : eaddr < 2 ^ 28)
    : (vidmmVmAllocPd 2 tables [] saddr eaddr).Holds mapped
        fun leaf => live leaf ∨ saddr / 1024 ≤ leaf ∧ leaf ≤ eaddr / 1024 where
  root_buffer := by
    rw [allocPd_root in_order fits]
    exact h.root_buffer
  directory_bitmap idx := (h.alloc_directory in_order fits idx).1
  above leaf inside there := by
    obtain ⟨_, keeps_buffer, keeps_entries, opened⟩ :=
      h.alloc_directory in_order fits (leaf / 1024)
    refine ⟨by rw [allocPd_root in_order fits]; rfl, ?_⟩
    rcases there with there | there
    · obtain ⟨_, buffer, entries⟩ := h.above leaf inside there
      exact ⟨keeps_buffer buffer, keeps_entries entries⟩
    · exact opened (by omega) (by omega)
  buffer leaf inside := by
    rw [allocPd_leaf in_order fits]
    split
    · rename_i now
      exact ⟨fun _ => .inr now, fun _ => buffer_allocPtBuffer _⟩
    · rename_i absent
      rw [h.buffer leaf inside]
      exact ⟨.inl, fun either => either.resolve_right absent⟩
  parent_bit leaf inside := h.alloc_parent_bit in_order fits inside
  bitmap leaf inside there := by
    rw [allocPd_leaf in_order fits]
    have before (buffer : (tables (leafPath leaf)).buffer)
        : (tables (leafPath leaf)).updateBitmap.isSome :=
      h.bitmap leaf inside ((h.buffer leaf inside).mp buffer)
    split
    · exact isSome_allocPtBuffer before
    · rename_i absent
      exact h.bitmap leaf inside (there.resolve_right absent)
  entries leaf inside := by
    rw [allocPd_leaf in_order fits]
    split
    · rw [entries_allocPtBuffer]
      exact h.entries leaf inside
    · exact h.entries leaf inside
  bit page inside := by
    rw [allocPd_leaf in_order fits, ← h.bit page inside]
    split
    · rw [bit_allocPtBuffer]
    · exact .rfl
  mapped_live page inside there := .inl (h.mapped_live page inside there)

-----------------------------------------------------------------------------------------
-- Rounds of the loops
-----------------------------------------------------------------------------------------

/-- The mask of the loops clears the bits of a page in its page table. -/
theorem and_mask {page : Nat} (inside : page < 2 ^ 28)
    : page &&& (0xFFFFFFFF - (vmPtNumEntries 2 - 1)) = page / 1024 * 1024 := by
  change page &&& 0xFFFFFC00 = _
  have high : (page &&& 0xFFFFFC00) / 2 ^ 10 = page / 1024 := by
    rw [Nat.and_div_two_pow]
    change page / 1024 &&& (2 ^ 22 - 1) = _
    rw [Nat.and_two_pow_sub_one_eq_mod]
    omega
  have low : (page &&& 0xFFFFFC00) % 2 ^ 10 = 0 := by
    rw [Nat.and_mod_two_pow]
    exact Nat.and_zero _
  omega

/-- The place of a page in its page table. -/
theorem and_num_entries (page : Nat) : page &&& (vmPtNumEntries 2 - 1) = page % 1024 :=
  Nat.and_two_pow_sub_one_eq_mod page 10

/-- A round takes pages up to the end of the range or of their page table. -/
theorem numPtes_bounds {sAddr eAddr : Nat} (in_order : sAddr ≤ eAddr) (fits : eAddr < 2 ^ 28)
    : 0 < numPtes sAddr eAddr ∧ sAddr + numPtes sAddr eAddr ≤ eAddr + 1
      ∧ sAddr % 1024 + numPtes sAddr eAddr ≤ 1024 := by
  have start_fits : sAddr < 2 ^ 28 := Nat.lt_of_le_of_lt in_order fits
  rw [numPtes]
  simp only [and_mask fits, and_mask start_fits, and_num_entries]
  rw [vmPtNumEntries_two]
  split <;> omega

/-- The addresses of a range, in pages. -/
theorem startAddr_shift (first : Nat) : (first <<< vmPageShift) >>> vmPageShift = first :=
  Nat.shiftLeft_shiftRight first vmPageShift

theorem endAddr_shift (last : Nat) : ((last + 1) <<< vmPageShift - 1) >>> vmPageShift = last := by
  rw [Nat.shiftLeft_eq, Nat.shiftRight_eq_div_pow, vmPageShift]
  omega

/-- The loops go on as long as pages are left. -/
theorem startAddr_lt {first last : Nat}
    : first <<< vmPageShift < (last + 1) <<< vmPageShift - 1 ↔ first ≤ last := by
  rw [Nat.shiftLeft_eq, Nat.shiftLeft_eq, vmPageShift]
  omega

/-- Setting or clearing bits of a page table that exists. -/
theorem Holds.update (h : tables.Holds mapped live) (leaf : Nat) (inside : leaf < 2 ^ 18)
    (there : live leaf) (sIdx eIdx : Nat) (value : Bool)
    : (tables.change (leafPath leaf) (vmPtUpdateBitmap sIdx eIdx value)).Holds
        (fun page =>
          if page / 1024 = leaf ∧ sIdx ≤ page % 1024 ∧ page % 1024 ≤ eIdx then value = true
          else mapped page)
        live := by
  have root : tables.change (leafPath leaf) (vmPtUpdateBitmap sIdx eIdx value) [] = tables [] :=
    change_of_ne _ _ nofun
  have directory (i : Nat)
      : tables.change (leafPath leaf) (vmPtUpdateBitmap sIdx eIdx value) [i] = tables [i] :=
    change_of_ne _ _ (leafPath_ne_singleton leaf i).symm
  have beside {other : Nat} (different : other ≠ leaf)
      : tables.change (leafPath leaf) (vmPtUpdateBitmap sIdx eIdx value) (leafPath other)
        = tables (leafPath other) :=
    change_of_ne _ _ fun same => different (leafPath_injective same)
  refine
    { root_buffer := root ▸ h.root_buffer
      directory_bitmap := fun i => directory i ▸ h.directory_bitmap i
      above := fun other inside there => root ▸ directory _ ▸ h.above other inside there
      buffer := fun other inside => ?_
      parent_bit := fun other inside => directory _ ▸ h.parent_bit other inside
      bitmap := fun other inside there => ?_
      entries := fun other inside => ?_
      bit := fun page fits => ?_
      mapped_live := fun page fits now => ?_ }
  · rcases eq_or_ne other leaf with rfl | different
    · rw [change_self]
      exact h.buffer other inside
    · rw [beside different]
      exact h.buffer other inside
  · rcases eq_or_ne other leaf with rfl | different
    · rw [change_self, vmPtUpdateBitmap, Option.isSome_map]
      exact h.bitmap other inside there
    · rw [beside different]
      exact h.bitmap other inside there
  · rcases eq_or_ne other leaf with rfl | different
    · rw [change_self]
      exact h.entries other inside
    · rw [beside different]
      exact h.entries other inside
  · rcases eq_or_ne (page / 1024) leaf with rfl | different
    · rw [change_self, bit_updateBitmap _ (h.bitmap _ (by omega) there)]
      simp only [true_and]
      split
      · exact .rfl
      · exact h.bit page fits
    · rw [beside different, if_neg fun here => different here.1]
      exact h.bit page fits
  · split at now
    · rename_i here
      rw [here.1]
      exact there
    · exact h.mapped_live page fits now

variable {last : Nat}

/-- `vidmm_vm_update_ptes` succeeds on page tables that exist, and sets the bits of its pages,
by induction on the rounds.
-/
theorem Holds.updatePtes (fits : last < 2 ^ 28) {rounds first : Nat}
    (h : tables.Holds mapped live) (enough : last + 1 - first ≤ rounds)
    (there : ∀ leaf, first / 1024 ≤ leaf → leaf ≤ last / 1024 → live leaf)
    : let result := vidmmVmUpdatePtes ((last + 1) <<< vmPageShift - 1) rounds tables
        (first <<< vmPageShift)
      result.succeeded
        ∧ result.tables.Holds (fun page => mapped page ∨ first ≤ page ∧ page ≤ last) live := by
  induction rounds generalizing tables mapped first with
  | zero =>
      have none_left : ¬ first ≤ last := by omega
      refine ⟨decide_eq_true (Nat.le_of_not_lt (mt startAddr_lt.mp none_left)), h.congr ?_ ?_⟩
      · intro page _
        exact ⟨.inl, fun either => either.resolve_right (by omega)⟩
      · exact fun _ _ => .rfl
  | succ rounds ih =>
      rw [vidmmVmUpdatePtes]
      by_cases left : first ≤ last
      · have exists_here : live (first / 1024) := there _ Nat.le.refl (by omega)
        have buffer := (h.buffer _ (by omega)).mpr exists_here
        rw [if_pos (startAddr_lt.mpr left)]
        simp only [startAddr_shift, endAddr_shift, and_num_entries,
          getPtEntry_of_live h (by omega) exists_here, buffer, if_true]
        obtain ⟨positive, within, in_table⟩ := numPtes_bounds left fits
        have fewer : last + 1 - (first + numPtes first last) ≤ rounds := by omega
        have marked := h.update (first / 1024) (by omega) exists_here (first % 1024)
          (first % 1024 + numPtes first last - 1) true
        obtain ⟨succeeded, holds⟩ := ih marked fewer
          fun leaf above below => there leaf (by omega) below
        refine ⟨succeeded, holds.congr ?_ fun _ _ => .rfl⟩
        intro page _
        split
        · rename_i here
          exact ⟨fun _ => .inr (by omega), fun _ => .inl rfl⟩
        · constructor
          · rintro (now | now)
            · exact .inl now
            · exact .inr (by omega)
          · rintro (now | now)
            · exact .inl now
            · exact .inr (by omega)
      · rw [if_neg (mt startAddr_lt.mp left)]
        refine ⟨rfl, h.congr ?_ fun _ _ => .rfl⟩
        intro page _
        exact ⟨.inl, fun either => either.resolve_right (by omega)⟩

-----------------------------------------------------------------------------------------
-- Releasing
-----------------------------------------------------------------------------------------

/-- A bitmap without set bits, as `zx_find_first_bit` finds out. -/
theorem zxFindFirstBit_lt {bitmap : Nat → Bool} {size : Nat}
    : zxFindFirstBit bitmap size < size ↔ ∃ i < size, bitmap i := by
  rw [zxFindFirstBit]
  cases found : (List.range size).find? bitmap with
  | none =>
      have absent := List.find?_eq_none.mp found
      refine ⟨fun h => absurd h (Nat.lt_irrefl size), ?_⟩
      rintro ⟨i, inside, set⟩
      exact absurd set (absent i (List.mem_range.mpr inside))
  | some i =>
      have inside := List.mem_range.mp (List.mem_of_find?_eq_some found)
      exact ⟨fun _ => ⟨i, inside, List.find?_some found⟩, fun _ => inside⟩

/-- The bits of a page table, by their place in it. -/
theorem Holds.page_bit (h : tables.Holds mapped live) {leaf i : Nat} (inside : leaf < 2 ^ 18)
    (small : i < 1024)
    : (tables (leafPath leaf)).bit i ↔ mapped (leaf * 1024 + i) := by
  have page_leaf : (leaf * 1024 + i) / 1024 = leaf := by omega
  have page_bit : (leaf * 1024 + i) % 1024 = i := by omega
  have bit := h.bit (leaf * 1024 + i) (by omega)
  rwa [page_leaf, page_bit] at bit

/-- A page table has a set bit if one of its pages is mapped. -/
theorem Holds.exists_bit (h : tables.Holds mapped live) {leaf : Nat} (inside : leaf < 2 ^ 18)
    : (∃ i < 1024, (tables (leafPath leaf)).bit i) ↔ Covered mapped leaf := by
  constructor
  · rintro ⟨i, small, set⟩
    exact ⟨leaf * 1024 + i, by omega, by omega, (h.page_bit inside small).mp set⟩
  · rintro ⟨page, fits, rfl, now⟩
    exact ⟨page % 1024, Nat.mod_lt _ (by decide), (h.bit page fits).mpr now⟩

/-- A page table without mapped pages may go, with its bit in the directory. -/
theorem Holds.destroy (h : tables.Holds mapped live) (leaf : Nat) (inside : leaf < 2 ^ 18)
    (there : live leaf) (empty : ∀ page < 2 ^ 28, page / 1024 = leaf → ¬ mapped page)
    : ((tables.change (leafPath leaf) ({ · with buffer := false, updateBitmap := none })).change
          [leaf / 1024] (vmPtUpdateBitmap (leaf % 1024) (leaf % 1024) false)).Holds mapped
        fun other => live other ∧ other ≠ leaf := by
  generalize after : (tables.change (leafPath leaf) _).change _ _ = destroyed
  have root : destroyed [] = tables [] := by
    rw [← after]
    refine (change_of_ne _ _ ?_).trans (change_of_ne _ _ ?_)
    · exact (List.cons_ne_nil _ _).symm
    · exact (List.cons_ne_nil _ _).symm
  have parent : destroyed [leaf / 1024]
      = vmPtUpdateBitmap (leaf % 1024) (leaf % 1024) false (tables [leaf / 1024]) := by
    rw [← after, change_self, change_of_ne _ _ (leafPath_ne_singleton leaf _).symm]
  have directory {i : Nat} (different : i ≠ leaf / 1024) : destroyed [i] = tables [i] := by
    rw [← after, change_of_ne _ _ fun same => different (List.cons.inj same).1]
    exact change_of_ne _ _ (leafPath_ne_singleton leaf i).symm
  have gone : destroyed (leafPath leaf)
      = { tables (leafPath leaf) with buffer := false, updateBitmap := none } := by
    rw [← after, change_of_ne _ _ (leafPath_ne_singleton leaf _), change_self]
  have beside {other : Nat} (different : other ≠ leaf)
      : destroyed (leafPath other) = tables (leafPath other) := by
    rw [← after, change_of_ne _ _ (leafPath_ne_singleton other _)]
    exact change_of_ne _ _ fun same => different (leafPath_injective same)
  have parent_some := h.directory_bitmap _ (h.above leaf inside there).2.1
  refine
    { root_buffer := root ▸ h.root_buffer
      directory_bitmap := fun i => ?_
      above := fun other inside now => ?_
      buffer := fun other inside => ?_
      parent_bit := fun other inside => ?_
      bitmap := fun other inside now => beside now.2 ▸ h.bitmap other inside now.1
      entries := fun other inside => ?_
      bit := fun page fits => ?_
      mapped_live := fun page fits now =>
        ⟨h.mapped_live page fits now, fun same => empty page fits same now⟩ }
  · rcases eq_or_ne i (leaf / 1024) with rfl | different
    · rw [parent, vmPtUpdateBitmap, Option.isSome_map]
      exact fun _ => parent_some
    · rw [directory different]
      exact h.directory_bitmap i
  · obtain ⟨root_entries, buffer, entries⟩ := h.above other inside now.1
    rw [root]
    rcases eq_or_ne (other / 1024) (leaf / 1024) with same | different
    · rw [same] at buffer entries ⊢
      rw [parent]
      exact ⟨root_entries, buffer, entries⟩
    · rw [directory different]
      exact ⟨root_entries, buffer, entries⟩
  · rcases eq_or_ne other leaf with rfl | different
    · rw [gone]
      exact ⟨fun set => absurd set Bool.false_ne_true, fun now => absurd rfl now.2⟩
    · rw [beside different, h.buffer other inside]
      exact ⟨fun now => ⟨now, different⟩, And.left⟩
  · have before := h.parent_bit other inside
    rcases eq_or_ne (other / 1024) (leaf / 1024) with same | different
    · rw [same] at before ⊢
      rw [parent, bit_updateBitmap _ parent_some]
      split
      · refine ⟨fun set => absurd set Bool.false_ne_true, fun now => absurd ?_ now.2⟩
        omega
      · rw [before]
        refine ⟨fun now => ⟨now, ?_⟩, And.left⟩
        rintro rfl
        omega
    · rw [directory different, before]
      refine ⟨fun now => ⟨now, ?_⟩, And.left⟩
      rintro rfl
      exact different rfl
  · rcases eq_or_ne other leaf with rfl | different
    · rw [gone]
      exact h.entries other inside
    · rw [beside different]
      exact h.entries other inside
  · rcases eq_or_ne (page / 1024) leaf with same | different
    · rw [same, gone]
      exact ⟨fun set => absurd set Bool.false_ne_true, fun now => absurd now (empty page fits same)⟩
    · rw [beside different]
      exact h.bit page fits

/-- A round of `vidmmi_vm_release_pt` on a page table that exists. -/
theorem Holds.releaseEntry (h : tables.Holds mapped (Covered mapped)) {sAddr nptes : Nat}
    (fits : sAddr < 2 ^ 28) (positive : 0 < nptes) (in_table : sAddr % 1024 + nptes ≤ 1024)
    (there : Covered mapped (sAddr / 1024))
    : let rest := fun page => mapped page ∧ ¬ (sAddr ≤ page ∧ page < sAddr + nptes)
      (releasePtEntry tables (leafPath (sAddr / 1024)) sAddr nptes).Holds rest (Covered rest) := by
  intro rest
  have inside : sAddr / 1024 < 2 ^ 18 := by omega
  have cleared : (tables.change (leafPath (sAddr / 1024)) (vmPtUpdateBitmap (sAddr % 1024)
      (sAddr % 1024 + nptes - 1) false)).Holds rest (Covered mapped) := by
    refine (h.update (sAddr / 1024) inside there _ _ _).congr ?_ fun _ _ => .rfl
    intro page _
    split
    · exact ⟨nofun, fun now => absurd (by omega) now.2⟩
    · exact ⟨fun now => ⟨now, by omega⟩, And.left⟩
  -- Other page tables keep their pages.
  have others {leaf : Nat} (different : leaf ≠ sAddr / 1024)
      : Covered mapped leaf ↔ Covered rest leaf := by
    constructor
    · rintro ⟨page, fits, rfl, now⟩
      exact ⟨page, fits, rfl, now, by omega⟩
    · rintro ⟨page, fits, rfl, now, _⟩
      exact ⟨page, fits, rfl, now⟩
  rw [releasePtEntry]
  simp only [and_num_entries]
  rw [vmPtNumEntries_two]
  split
  · rename_i found
    have still := (cleared.exists_bit inside).mp (zxFindFirstBit_lt.mp found)
    refine cleared.congr (fun _ _ => .rfl) fun leaf _ => ?_
    rcases eq_or_ne leaf (sAddr / 1024) with rfl | different
    · exact ⟨fun _ => still, fun _ => there⟩
    · exact others different
  · rename_i absent
    have gone := mt (fun still => zxFindFirstBit_lt.mpr ((cleared.exists_bit inside).mpr still)) absent
    have parent : (sAddr >>> vmAccumPdBitsCount 1) &&& (vmPtNumEntries 1 - 1)
        = sAddr / 1024 % 1024 := by
      rw [vmAccumPdBitsCount_one, vmPtNumEntries_one, Nat.shiftRight_eq_div_pow]
      exact Nat.and_two_pow_sub_one_eq_mod _ 10
    rw [parent]
    refine (cleared.destroy (sAddr / 1024) inside there fun page fits same now =>
      gone ⟨page, fits, same, now⟩).congr (fun _ _ => .rfl) fun leaf _ => ?_
    rcases eq_or_ne leaf (sAddr / 1024) with rfl | different
    · exact ⟨fun now => absurd rfl now.2, fun now => absurd now gone⟩
    · rw [← others different]
      exact ⟨And.left, fun now => ⟨now, different⟩⟩

end VmPtInfo

end Cx4Kernel.Vidmm
