import Cx4Kernel.Vidmm.UpdatePtesFrames

/-! When `vidmm_vm_update_ptes` maps a range to the pages it should. -/

namespace Cx4Kernel.Vidmm

open Cx4Kernel.Foundation

-----------------------------------------------------------------------------------------
-- Rounds of whole pages
-----------------------------------------------------------------------------------------

/-- The range can be cut at the tables without cutting a page of `ratio` 4K pages. -/
def CutsWholePages (ratio first last : Nat) : Prop :=
  ratio ∣ last + 1 - first ∧ (first / 1024 ≠ last / 1024 → ratio ∣ first)

/-- Every round starts whole pages after the first one. -/
theorem CutsWholePages.dvd_sub {ratio first last page : Nat}
    (h : CutsWholePages ratio first last) (table : ratio ∣ 1024) (after : first ≤ page)
    (inside : page ≤ last) (cut : IsCut first page)
    : ratio ∣ page - first := by
  rcases cut with same | aligned
  · rw [same, Nat.sub_self]
    exact Nat.dvd_zero ratio
  · rcases Nat.lt_or_ge (first / 1024) (last / 1024) with several | one
    · exact Nat.dvd_sub (Nat.dvd_trans table (Nat.dvd_of_mod_eq_zero aligned))
        (h.2 (Nat.ne_of_lt several))
    · rw [show page - first = 0 by omega]
      exact Nat.dvd_zero ratio

/-- The rounds are whole pages exactly when the cuts are. -/
theorem pagesInTable_dvd_iff {ratio first last : Nat} (table : ratio ∣ 1024)
    (ordered : first ≤ last)
    : (∀ page, first ≤ page → page ≤ last → IsCut first page → ratio ∣ pagesInTable page last)
      ↔ CutsWholePages ratio first last := by
  have tables : ∀ number, ratio ∣ number * 1024 := fun number =>
    Nat.dvd_trans table (Nat.dvd_mul_left 1024 number)
  constructor
  · intro rounds
    have firstRound := rounds first (Nat.le_refl _) ordered (.inl rfl)
    rcases Nat.lt_or_ge (first / 1024) (last / 1024) with several | one
    · have toEnd : pagesInTable first last = (first / 1024 + 1) * 1024 - first := by
        rw [pagesInTable]
        omega
      have wholeFirst : ratio ∣ first :=
        (Nat.dvd_sub_iff_right (by omega) (tables _)).mp (toEnd ▸ firstRound)
      have lastRound := rounds (last / 1024 * 1024) (by omega) (by omega)
        (.inr (Nat.mul_mod_left _ _))
      have fromStart : pagesInTable (last / 1024 * 1024) last
          = last + 1 - last / 1024 * 1024 := by
        rw [pagesInTable]
        omega
      have wholeLast : ratio ∣ last + 1 :=
        (Nat.dvd_sub_iff_left (by omega) (tables _)).mp (fromStart ▸ lastRound)
      exact ⟨Nat.dvd_sub wholeLast wholeFirst, fun _ => wholeFirst⟩
    · have whole : pagesInTable first last = last + 1 - first := by
        rw [pagesInTable]
        omega
      exact ⟨whole ▸ firstRound, fun several => absurd several (by omega)⟩
  · intro h page after inside cut
    have distance := h.dvd_sub table after inside cut
    rcases Nat.lt_or_ge (page / 1024) (last / 1024) with before | lastTable
    · have toEnd : pagesInTable page last = (page / 1024 + 1) * 1024 - page := by
        rw [pagesInTable]
        omega
      have wholeFirst := h.2 (by omega)
      have wholePage : ratio ∣ page := by
        rw [show page = page - first + first by omega]
        exact Nat.dvd_add distance wholeFirst
      exact toEnd ▸ Nat.dvd_sub (tables _) wholePage
    · have toLast : pagesInTable page last = last + 1 - first - (page - first) := by
        rw [pagesInTable]
        omega
      exact toLast ▸ Nat.dvd_sub h.1 distance

-----------------------------------------------------------------------------------------
-- The whole range
-----------------------------------------------------------------------------------------

/-- The byte of the allocation that belongs at a page of the range. -/
def PtesRequest.byteOf (request : PtesRequest) (first page : Nat) : Nat :=
  request.entityOffset.toNat + (page - first) * 4096

/-- The entries that were written, with the frames in them. -/
def PtesUpdated.frames (updated : PtesUpdated) : List (PteSlot × Option (BitVec 28)) :=
  (updated.commands.flatMap CopyImm.writes).map fun write => (write.1, write.2.map addrField)

/-- The entries of the range, with the frames that belong there. -/
def PtesRequest.frames (request : PtesRequest) (adapter : Adapter) (tables : PageTables)
    (mapped : Allocation) (first last : Nat) : List (PteSlot × Option (BitVec 28)) :=
  (List.range' first (last + 1 - first)).map fun page =>
    (slotOf tables page, mapped.frameAt adapter (request.byteOf first page))

/-- The call succeeds and writes one entry for each page of the range and no other one, with
the frame that belongs there.
-/
def WritesEachPage (adapter : Adapter) (tables : PageTables) (mapped : Allocation)
    (request : PtesRequest) (first last : Nat) (result : Option PtesUpdated) : Prop :=
  ∃ updated, result = some updated ∧ updated.succeeded = true
    ∧ updated.frames.Perm (request.frames adapter tables mapped first last)

/-- The range is cut in whole pages of the allocation, no page is 2 GiB or more into its
block, and in local memory `vidsch_get_pte_value` moves no page.
-/
structure Exact (adapter : Adapter) (mapped : Allocation) (request : PtesRequest)
    (first last : Nat) : Prop where
  cuts : CutsWholePages (request.subpages adapter) first last
  near : ∀ page block offset, first ≤ page → page ≤ last
    → mapped.byteAt (request.byteOf first page) = some (block, offset) → offset < 2 ^ 31
  still : ∀ page block offset, first ≤ page → page ≤ last
    → mapped.byteAt (request.byteOf first page) = some (block, offset)
    → mapped.backing.isLocal = true
    → ¬ Moved adapter mapped.supportSnoop (block.base + BitVec.ofNat 64 offset)

namespace PtesRequest.Valid

variable {request : PtesRequest} {adapter : Adapter} {tables : PageTables}
  {mapped : Allocation} {first last : Nat}

/-- A page table holds whole pages of the allocation. -/
theorem subpages_dvd (h : request.Valid adapter tables mapped first last)
    : request.subpages adapter ∣ 1024 := by
  have large := h.largePages
  rw [show (1024 : Nat) = 2 ^ 10 from rfl]
  exact Nat.pow_dvd_pow 2 (by rw [gpuPageShift]; omega)

/-- The pages of the range are different entries. -/
theorem slotOf_injective (h : request.Valid adapter tables mapped first last)
    : ∀ page ∈ List.range' first (last + 1 - first),
      ∀ other ∈ List.range' first (last + 1 - first),
        slotOf tables page = slotOf tables other → page = other := by
  intro page member other memberOther same
  have bounds := List.mem_range'_1.mp member
  have boundsOther := List.mem_range'_1.mp memberOther
  obtain ⟨table, index⟩ := Prod.mk.inj same
  have sameTable := h.distinct page other (by omega) (by omega) (by omega) (by omega) table
  have sameIndex := congrArg BitVec.toNat index
  rw [BitVec.toNat_ofNat, BitVec.toNat_ofNat] at sameIndex
  omega

/-- The call writes the words of its rounds to the entries of the range. -/
theorem vidmmVmUpdatePtes_writes (h : request.Valid adapter tables mapped first last)
    (vmaSpace : VmaSpace)
    : ∃ updated, vidmmVmUpdatePtes adapter tables vmaSpace request = some updated
        ∧ updated.succeeded = true
        ∧ updated.commands.flatMap CopyImm.writes
          = (List.range' first (last + 1 - first)).map fun page =>
              (slotOf tables page,
                (request.wordsAt adapter tables (cutOf first page))[page - cutOf first page]?) := by
  have spans := h.spans
  have rounds : (request.endAddr >>> 12).toNat + 1 - (request.vmVa >>> 12).toNat
      = last + 1 - first := by
    have small := spans.small
    have ordered := spans.ordered
    rw [spans.endPage, spans.vmVa, spans.startPage (by omega), BitVec.toNat_ofNat,
      BitVec.toNat_ofNat]
    omega
  have found : ∀ page, first ≤ page → page ≤ last → IsCut first page
      → ∃ mask, level2Entries adapter (request.argAt tables page)
        = some (request.wordsAt adapter tables page, mask) := by
    intro page after inside _
    obtain ⟨pas, mask, found, _⟩ := h.level2Entries_spec after inside
    exact ⟨mask, by rw [PtesRequest.wordsAt, found]; rfl⟩
  simp only [vidmmVmUpdatePtes]
  rw [rounds, spans.vmVa]
  exact spans.updatePtesFrom_writes h.present found (Nat.le_refl _) (by have := spans.ordered; omega)
    (fun _ => .inl rfl) (by omega)

/-- The page of a round that is `k` pages after its start. -/
theorem cut_facts (h : request.Valid adapter tables mapped first last) {page : Nat}
    (after : first ≤ page) (inside : page ≤ last)
    : first ≤ cutOf first page ∧ cutOf first page ≤ page ∧ IsCut first (cutOf first page)
      ∧ page - cutOf first page < pagesInTable (cutOf first page) last := by
  have ordered := h.spans.ordered
  have cut : IsCut first (cutOf first page) := by
    rw [cutOf]
    rcases Nat.le_total first (page / 1024 * 1024) with later | earlier
    · rw [Nat.max_eq_right later]
      exact .inr (Nat.mul_mod_left _ _)
    · rw [Nat.max_eq_left earlier]
      exact .inl rfl
  refine ⟨Nat.le_max_left _ _, ?_, cut, ?_⟩
  · rw [cutOf]
    omega
  · rw [pagesInTable, cutOf]
    omega

/-- The frame written for a page, when the rounds are whole pages. -/
theorem written_frame (h : request.Valid adapter tables mapped first last) {page : Nat}
    (cuts : CutsWholePages (request.subpages adapter) first last) (after : first ≤ page)
    (inside : page ≤ last)
    : ∃ block offset lost,
        mapped.byteAt (request.byteOf first page) = some (block, offset)
        ∧ lost ≤ 255 ∧ (lost = 0 ↔ offset < 2 ^ 31)
        ∧ (request.wordsAt adapter tables (cutOf first page))[page - cutOf first page]?.map
            addrField
          = some
              (pteFrame adapter mapped.supportSnoop
                (block.base + BitVec.ofNat 64 offset - BitVec.ofNat 64 (lost * 2 ^ 32))) := by
  have table := h.subpages_dvd
  obtain ⟨cutAfter, cutBefore, cut, within⟩ := h.cut_facts after inside
  have steps := cuts.dvd_sub table cutAfter (Nat.le_trans cutBefore inside) cut
  have whole := (pagesInTable_dvd_iff table h.spans.ordered).mpr cuts _ cutAfter
    (Nat.le_trans cutBefore inside) cut
  have frame := h.wordsAt_frame cutAfter (Nat.le_trans cutBefore inside) steps
    (show page - cutOf first page < _ by rwa [Nat.div_mul_cancel whole])
  rwa [Nat.add_sub_cancel' cutBefore] at frame

/-- Every byte of the range is in a block. -/
theorem byteAt_isSome (h : request.Valid adapter tables mapped first last) {page : Nat}
    (after : first ≤ page) (inside : page ≤ last)
    : ∃ block offset, mapped.byteAt (request.byteOf first page) = some (block, offset) := by
  have fits := h.fits
  apply Blocks.locate_of_lt_total
  rw [PtesRequest.byteOf]
  omega

/-- A page that is written with some frame is not lost at the end of a round. -/
theorem cuts_of_written (h : request.Valid adapter tables mapped first last)
    (written : ∀ page, first ≤ page → page ≤ last
      → (request.wordsAt adapter tables (cutOf first page))[page - cutOf first page]?.isSome)
    : CutsWholePages (request.subpages adapter) first last := by
  have table := h.subpages_dvd
  refine (pagesInTable_dvd_iff table h.spans.ordered).mp fun cut after inside isCut => ?_
  have positive : 0 < pagesInTable cut last ∧ cut + pagesInTable cut last ≤ last + 1 := by
    rw [pagesInTable]
    omega
  -- the last page of the round
  have last_cut : cutOf first (cut + (pagesInTable cut last - 1)) = cut :=
    cutOf_eq isCut after (Nat.le_add_right _ _)
      (Nat.add_lt_add_left (Nat.sub_lt positive.1 Nat.one_pos) cut)
  have there := written (cut + (pagesInTable cut last - 1)) (by omega) (by omega)
  rw [last_cut, Nat.add_sub_cancel_left] at there
  rcases Nat.lt_or_ge (pagesInTable cut last - 1)
    (pagesInTable cut last / request.subpages adapter * request.subpages adapter) with
    inRow | outside
  · have whole := Nat.div_mul_le_self (pagesInTable cut last) (request.subpages adapter)
    rw [show pagesInTable cut last
      = pagesInTable cut last / request.subpages adapter * request.subpages adapter by omega]
    exact Nat.dvd_mul_left _ _
  · rw [h.wordsAt_end after inside outside] at there
    cases there

/-- The frame written for a page is the one that belongs there when nothing of the address
was lost and, in local memory, nothing was moved.
-/
theorem frame_eq_iff (h : request.Valid adapter tables mapped first last) {page : Nat}
    (cuts : CutsWholePages (request.subpages adapter) first last) (after : first ≤ page)
    (inside : page ≤ last)
    : (request.wordsAt adapter tables (cutOf first page))[page - cutOf first page]?.map
          addrField
        = mapped.frameAt adapter (request.byteOf first page)
      ↔ ∀ block offset, mapped.byteAt (request.byteOf first page) = some (block, offset)
        → offset < 2 ^ 31
          ∧ (mapped.backing.isLocal = true
            → ¬ Moved adapter mapped.supportSnoop (block.base + BitVec.ofNat 64 offset)) := by
  obtain ⟨block, offset, lost, byte, bound, near, written⟩ :=
    h.written_frame cuts after inside
  have unique : (∀ block' offset',
      mapped.byteAt (request.byteOf first page) = some (block', offset')
        → offset' < 2 ^ 31 ∧ (mapped.backing.isLocal = true
          → ¬ Moved adapter mapped.supportSnoop (block'.base + BitVec.ofNat 64 offset')))
      ↔ offset < 2 ^ 31 ∧ (mapped.backing.isLocal = true
          → ¬ Moved adapter mapped.supportSnoop (block.base + BitVec.ofNat 64 offset)) := by
    rw [byte]
    constructor
    · intro all
      exact all block offset rfl
    · intro here block' offset' same
      cases same
      exact here
  rw [unique, written, Allocation.frameAt, byte, Option.map_some, Option.some_inj, ← near]
  rcases mapped.backing.isLocal with _ | _
  · simpa using pteFrame_eq_pteFrame_iff h.lowTop bound
  · simpa using pteFrame_eq_frame_iff h.lowTop bound

/-- The call maps every page of the range to the page of the allocation that belongs there
exactly when the request is exact.
-/
theorem writesEachPage_iff (h : request.Valid adapter tables mapped first last)
    (vmaSpace : VmaSpace)
    : WritesEachPage adapter tables mapped request first last
        (vidmmVmUpdatePtes adapter tables vmaSpace request)
      ↔ Exact adapter mapped request first last := by
  obtain ⟨updated, ran, succeeded, writes⟩ := h.vidmmVmUpdatePtes_writes vmaSpace
  have pointwise : WritesEachPage adapter tables mapped request first last
        (vidmmVmUpdatePtes adapter tables vmaSpace request)
      ↔ ∀ page ∈ List.range' first (last + 1 - first),
        (request.wordsAt adapter tables (cutOf first page))[page - cutOf first page]?.map
            addrField
          = mapped.frameAt adapter (request.byteOf first page) := by
    rw [← perm_map_pair_iff h.slotOf_injective, WritesEachPage, ran]
    constructor
    · intro found
      obtain ⟨updated', same, _, perm⟩ := found
      cases same
      rwa [PtesUpdated.frames, writes, List.map_map] at perm
    · intro perm
      refine ⟨updated, rfl, succeeded, ?_⟩
      rwa [PtesUpdated.frames, writes, List.map_map]
  have pages : ∀ page, page ∈ List.range' first (last + 1 - first)
      ↔ first ≤ page ∧ page ≤ last := by
    intro page
    have ordered := h.spans.ordered
    rw [List.mem_range'_1]
    omega
  rw [pointwise]
  constructor
  · intro agree
    have cuts := h.cuts_of_written fun page after inside => by
      obtain ⟨block, offset, byte⟩ := h.byteAt_isSome after inside
      have frame := agree page ((pages page).mpr ⟨after, inside⟩)
      rw [Allocation.frameAt, byte, Option.map_some] at frame
      obtain ⟨word, there, _⟩ := Option.map_eq_some_iff.mp frame
      rw [there]
      rfl
    have each := fun page after inside => (h.frame_eq_iff cuts after inside).mp
      (agree page ((pages page).mpr ⟨after, inside⟩))
    exact
      { cuts := cuts
        near := fun page block offset after inside byte =>
          (each page after inside block offset byte).1
        still := fun page block offset after inside byte =>
          (each page after inside block offset byte).2 }
  · intro exact_ page member
    obtain ⟨after, inside⟩ := (pages page).mp member
    refine (h.frame_eq_iff exact_.cuts after inside).mpr fun block offset byte => ⟨?_, ?_⟩
    · exact exact_.near page block offset after inside byte
    · exact exact_.still page block offset after inside byte

end PtesRequest.Valid

/-- An adapter with the non-snoop patch, on a system with 64K pages. -/
def patchedAdapter : Adapter where
  osPageShift := 16
  nonsnoopPatchEnable := true
  lowTopAddress := 0xc0000000
  shareSpaceCoverLocal := true
  sharedGpuVaOffset := 0
  sharedGpuVaSize := 0x100000000
  totalLocalMemorySize := 0x100000000

/-- Page tables in consecutive buffers. -/
def bufferedTables : PageTables :=
  fun _ => some fun table => some (BitVec.ofNat 64 (0x100000 + table * 4096))

/-- An allocation in local memory. -/
def localAllocation (nodes : List RangeNode) : Allocation := ⟨false, false, .fragments nodes⟩

/-- An allocation of one 64K system page. -/
def systemAllocation : Allocation :=
  ⟨false, false, .pages ⟨[⟨0, 0x10000, 0x20000, 0x10000, 0x20000⟩], true⟩⟩

/-- A request for the pages from `first` to `last`. -/
def requestFor (mapped : Allocation) (entityOffset : U64) (first last : Nat) : PtesRequest where
  engineIndex := 0
  entityOffset := entityOffset
  vmVa := BitVec.ofNat 64 (first * 4096)
  endAddr := BitVec.ofNat 64 (last * 4096 + 4095)
  entity := .allocation mapped

/-- No dirty ranges. -/
def cleanSpace : VmaSpace := ⟨fun _ => ⟨0, 0, false⟩, fun _ => ⟨0, 0, false⟩⟩

/-- Three pages of two fragments, across the end of a table. -/
def twoFragments : Allocation := localAllocation [⟨0x5000, 0x2000⟩, ⟨0x9000, 0x1000⟩]

/-- A valid request. -/
theorem twoFragments_valid
    : (requestFor twoFragments 0 1022 1024).Valid patchedAdapter bufferedTables twoFragments
        1022 1024 where
  spans := ⟨rfl, rfl, by decide, by decide⟩
  entity := rfl
  present := fun _ _ _ => rfl
  distinct := by
    intro page other after inside after' inside' same
    have cases1 : page = 1022 ∨ page = 1023 ∨ page = 1024 := by omega
    have cases2 : other = 1022 ∨ other = 1023 ∨ other = 1024 := by omega
    rcases cases1 with rfl | rfl | rfl <;> rcases cases2 with rfl | rfl | rfl <;>
      first | rfl | exact absurd same (by decide)
  lowTop := ⟨by decide, by decide⟩
  pageShift := by decide
  largePages := by decide
  positive := by decide
  whole := by decide
  bounded := by decide
  total := by decide
  noOffsets := fun _ other => by cases other
  aligned := by decide
  fits := by decide

/-- Both fragments are small and low. -/
theorem twoFragments_exact
    : Exact patchedAdapter twoFragments (requestFor twoFragments 0 1022 1024) 1022 1024 where
  cuts := ⟨by decide, by decide⟩
  near := by
    intro page block offset _ _ byte
    obtain ⟨member, inside⟩ := Blocks.locate_some byte
    have small : ∀ block ∈ twoFragments.backing.blocks, block.bytes ≤ 0x2000 := by decide
    have bytes := small block member
    omega
  still := by
    intro page block offset _ _ byte _ moved
    obtain ⟨member, inside⟩ := Blocks.locate_some byte
    have small : ∀ block ∈ twoFragments.backing.blocks,
        block.bytes ≤ 0x2000 ∧ block.base.toNat ≤ 0x9000 := by decide
    have bytes := small block member
    have above : ((0xc0000000 : U64) >>> 12).toNat
        < ((block.base + BitVec.ofNat 64 offset) >>> 12).toNat := moved.2.2
    rw [BitVec.toNat_ushiftRight, BitVec.toNat_ushiftRight, BitVec.toNat_add,
      BitVec.toNat_ofNat, Nat.shiftRight_eq_div_pow, Nat.shiftRight_eq_div_pow] at above
    have low : (0xc0000000 : U64).toNat = 0xc0000000 := rfl
    omega

/-- The three pages are mapped. -/
theorem writesEachPage_twoFragments
    : WritesEachPage patchedAdapter bufferedTables twoFragments
        (requestFor twoFragments 0 1022 1024) 1022 1024
        (vidmmVmUpdatePtes patchedAdapter bufferedTables cleanSpace
          (requestFor twoFragments 0 1022 1024)) :=
  (twoFragments_valid.writesEachPage_iff cleanSpace).mpr twoFragments_exact

/-- The same adapter without the patch. -/
def unpatchedAdapter : Adapter := { patchedAdapter with nonsnoopPatchEnable := false }

/-- One local frame above the low memory. -/
def highFragment : Allocation := localAllocation [⟨0xd0000000, 0x1000⟩]

/-- A fragment of 4 GiB. -/
def largeFragment : Allocation := localAllocation [⟨0x1000, 0x100000000⟩]

/-- The entry for one page gets a wrong frame when the frame is local and above the low
memory, when the page is 2 GiB into a fragment, and no frame at all when the OS page is
larger than the range.
-/
theorem writesEachPage_fails
    : (¬ WritesEachPage patchedAdapter bufferedTables highFragment
          (requestFor highFragment 0 5 5) 5 5
          (vidmmVmUpdatePtes patchedAdapter bufferedTables cleanSpace
            (requestFor highFragment 0 5 5)))
      ∧ (¬ WritesEachPage unpatchedAdapter bufferedTables largeFragment
          (requestFor largeFragment 0x80000000 5 5) 5 5
          (vidmmVmUpdatePtes unpatchedAdapter bufferedTables cleanSpace
            (requestFor largeFragment 0x80000000 5 5)))
      ∧ ¬ WritesEachPage unpatchedAdapter bufferedTables systemAllocation
          (requestFor systemAllocation 0 5 5) 5 5
          (vidmmVmUpdatePtes unpatchedAdapter bufferedTables cleanSpace
            (requestFor systemAllocation 0 5 5)) := by
  have refute : ∀ {adapter : Adapter} {mapped : Allocation} {request : PtesRequest}
      {result : Option PtesUpdated} (frames : List (PteSlot × Option (BitVec 28))),
      result.map PtesUpdated.frames = some frames
        → ¬ frames.Perm (request.frames adapter bufferedTables mapped 5 5)
        → ¬ WritesEachPage adapter bufferedTables mapped request 5 5 result := by
    intro adapter mapped request result frames wrote wrong claim
    obtain ⟨updated, ran, _, perm⟩ := claim
    rw [ran] at wrote
    exact wrong (Option.some.inj wrote ▸ perm)
  refine ⟨?_, ?_, ?_⟩
  · exact refute [((0x1000, 5), some 0x90000)] (by decide) (by decide)
  · exact refute [((0x1000, 5), some 0xff80001)] (by decide) (by decide)
  · exact refute [((0x1000, 5), none)] (by decide) (by decide)

end Cx4Kernel.Vidmm
