import Mathlib.Data.List.Perm.Basic
import Mathlib.Tactic.Ring
import Cx4Kernel.Vidmm.PageWalk
import Cx4Kernel.Vidmm.UpdatePtesRounds

/-! Which page each entry written by `vidmm_vm_update_ptes` points at, compared with the
page of the allocation that belongs there.
-/

namespace Cx4Kernel.Vidmm

open Cx4Kernel.Foundation

-----------------------------------------------------------------------------------------
-- The frame in an entry
-----------------------------------------------------------------------------------------

/-- The `Addr` field for an address. -/
def pteFrame (adapter : Adapter) (snoop : Bool) (pa : U64) : BitVec 28 :=
  (vidschGetPteValue adapter snoop pa >>> 12).setWidth 28

/-- `vidsch_get_pte_value` moves the address. -/
def Moved (adapter : Adapter) (snoop : Bool) (pa : U64) : Prop :=
  adapter.nonsnoopPatchEnable = true ∧ snoop = false
    ∧ adapter.lowTopAddress >>> 12 < pa >>> 12

/-- The top of the low memory is the one of a 32-bit address, and not 0. -/
def LowTop (adapter : Adapter) : Prop :=
  0 < (adapter.lowTopAddress >>> 12).toNat ∧ (adapter.lowTopAddress >>> 12).toNat < 2 ^ 20

@[simp]
theorem addrField_level2Entry (adapter : Adapter) (pte : Pte) (ptePa : U64) (j : Nat)
    : addrField (level2Entry adapter pte ptePa j)
      = pteFrame adapter pte.snoop (ptePa + BitVec.ofNat 64 (j * 4096)) := by
  simp [level2Entry, pteFrame]

/-- Shifting a page number to an address and back keeps its low 52 bits. -/
theorem toNat_shiftLeft_ushiftRight (frame : U64)
    : (frame <<< 12 >>> 12).toNat % 2 ^ 28 = frame.toNat % 2 ^ 28 := by
  simp only [BitVec.toNat_ushiftRight, BitVec.toNat_shiftLeft, Nat.shiftRight_eq_div_pow,
    Nat.shiftLeft_eq]
  omega

/-- The frame of an address that is not moved. -/
theorem toNat_pteFrame {adapter : Adapter} {snoop : Bool} {pa : U64}
    (h : ¬ Moved adapter snoop pa)
    : (pteFrame adapter snoop pa).toNat = pa.toNat / 2 ^ 12 % 2 ^ 28 := by
  have value : vidschGetPteValue adapter snoop pa >>> 12 = pa >>> 12 := by
    simp only [vidschGetPteValue]
    split
    · rename_i patch
      simp only [Bool.and_eq_true, Bool.not_eq_true'] at patch
      have low : ¬ pa >>> 12 > adapter.lowTopAddress >>> 12 :=
        fun above => h ⟨patch.1, patch.2, above⟩
      rw [if_neg low]
      apply BitVec.eq_of_toNat_eq
      simp only [BitVec.toNat_ushiftRight, BitVec.toNat_shiftLeft, Nat.shiftRight_eq_div_pow,
        Nat.shiftLeft_eq]
      omega
    · rfl
  rw [pteFrame, value, BitVec.toNat_setWidth, BitVec.toNat_ushiftRight,
    Nat.shiftRight_eq_div_pow]

/-- The frame of an address that is moved. -/
theorem toNat_pteFrame_moved {adapter : Adapter} {snoop : Bool} {pa : U64}
    (h : Moved adapter snoop pa) (lowTop : LowTop adapter)
    : (pteFrame adapter snoop pa).toNat
      = (pa.toNat / 2 ^ 12 + 2 ^ 28 + (adapter.lowTopAddress >>> 12).toNat - 2 ^ 20)
        % 2 ^ 28 := by
  obtain ⟨patch, noSnoop, above⟩ := h
  obtain ⟨_, low⟩ := lowTop
  simp only [pteFrame, vidschGetPteValue, patch, noSnoop, Bool.not_false, Bool.and_self,
    if_true, gt_iff_lt, if_pos above]
  generalize adapter.lowTopAddress >>> 12 = top at low
  have gap : (0x100000 - top).toNat = 2 ^ 20 - top.toNat :=
    BitVec.toNat_sub_of_le (by rw [BitVec.le_def]; exact Nat.le_of_lt low)
  rw [BitVec.toNat_setWidth, toNat_shiftLeft_ushiftRight, BitVec.toNat_sub, gap,
    BitVec.toNat_ushiftRight, Nat.shiftRight_eq_div_pow]
  generalize pa.toNat / 2 ^ 12 = number
  omega

/-- The frame of an address that has lost a multiple of 2^32. -/
theorem toNat_sub_lost (pa : U64) {lost : Nat} (bound : lost ≤ 255)
    : (pa - BitVec.ofNat 64 (lost * 2 ^ 32)).toNat / 2 ^ 12
      = (pa.toNat / 2 ^ 12 + 2 ^ 52 - lost * 2 ^ 20) % 2 ^ 52 := by
  rw [BitVec.toNat_sub, BitVec.toNat_ofNat]
  omega

/-- A move takes less than 2^20 frames away from an address, and some if it takes place. -/
theorem exists_toNat_pteFrame {adapter : Adapter} (lowTop : LowTop adapter) (snoop : Bool)
    (pa : U64)
    : ∃ shift < 2 ^ 20, (shift = 0 ↔ ¬ Moved adapter snoop pa)
      ∧ (pteFrame adapter snoop pa).toNat
        = (pa.toNat / 2 ^ 12 + 2 ^ 28 - shift) % 2 ^ 28 := by
  rcases Classical.em (Moved adapter snoop pa) with moved | still
  · obtain ⟨positive, low⟩ := lowTop
    refine ⟨2 ^ 20 - (adapter.lowTopAddress >>> 12).toNat, by omega, ?_, ?_⟩
    · exact iff_of_false (Nat.sub_ne_zero_of_lt low) (not_not.mpr moved)
    · rw [toNat_pteFrame_moved moved ⟨positive, low⟩]
      generalize (adapter.lowTopAddress >>> 12).toNat = top at positive low
      generalize pa.toNat / 2 ^ 12 = number
      omega
  · refine ⟨0, Nat.two_pow_pos 20, iff_of_true rfl still, ?_⟩
    rw [toNat_pteFrame still, Nat.sub_zero, Nat.add_mod_right]

/-- An address that has lost nothing. -/
theorem sub_lost_zero (pa : U64) : pa - BitVec.ofNat 64 (0 * 2 ^ 32) = pa := by
  rw [Nat.zero_mul, BitVec.sub_zero]

/-- An entry has the frame of `pa` itself when nothing of the address was lost and it is not
moved. Neither error makes up for the other one: one is a multiple of 2^20 frames, the other
is not.
-/
theorem pteFrame_eq_frame_iff {adapter : Adapter} {snoop : Bool} {pa : U64} {lost : Nat}
    (lowTop : LowTop adapter) (bound : lost ≤ 255)
    : pteFrame adapter snoop (pa - BitVec.ofNat 64 (lost * 2 ^ 32))
        = (pa >>> 12).setWidth 28
      ↔ lost = 0 ∧ ¬ Moved adapter snoop pa := by
  have frame : ((pa >>> 12).setWidth 28).toNat = pa.toNat / 2 ^ 12 % 2 ^ 28 := by
    rw [BitVec.toNat_setWidth, BitVec.toNat_ushiftRight, Nat.shiftRight_eq_div_pow]
  obtain ⟨shift, small, moved, value⟩ :=
    exists_toNat_pteFrame lowTop snoop (pa - BitVec.ofNat 64 (lost * 2 ^ 32))
  rw [← BitVec.toNat_inj, frame, value, toNat_sub_lost pa bound]
  generalize pa.toNat / 2 ^ 12 = number
  constructor
  · intro equal
    have nothing : lost = 0 ∧ shift = 0 := by omega
    obtain ⟨rfl, unmoved⟩ := nothing
    exact ⟨rfl, sub_lost_zero pa ▸ moved.mp unmoved⟩
  · rintro ⟨rfl, still⟩
    have unmoved : shift = 0 := moved.mpr (by rwa [sub_lost_zero])
    omega

/-- An entry has the frame that `vidsch_get_pte_value` gives for `pa` when nothing of the
address was lost.
-/
theorem pteFrame_eq_pteFrame_iff {adapter : Adapter} {snoop : Bool} {pa : U64} {lost : Nat}
    (lowTop : LowTop adapter) (bound : lost ≤ 255)
    : pteFrame adapter snoop (pa - BitVec.ofNat 64 (lost * 2 ^ 32)) = pteFrame adapter snoop pa
      ↔ lost = 0 := by
  refine ⟨fun equal => ?_, fun none => by rw [none, sub_lost_zero]⟩
  obtain ⟨shift, small, -, value⟩ :=
    exists_toNat_pteFrame lowTop snoop (pa - BitVec.ofNat 64 (lost * 2 ^ 32))
  obtain ⟨shift', small', -, value'⟩ := exists_toNat_pteFrame lowTop snoop pa
  rw [← BitVec.toNat_inj, value, value', toNat_sub_lost pa bound] at equal
  generalize pa.toNat / 2 ^ 12 = number at equal
  omega

-----------------------------------------------------------------------------------------
-- The words of one round
-----------------------------------------------------------------------------------------

/-- A bound that is a multiple of the page size bounds the pages and their parts alike. -/
theorem mul_add_lt_iff {size page rest bound : Nat} (part : rest < size) (whole : size ∣ bound)
    : size * page < bound ↔ size * page + rest < bound := by
  obtain ⟨count, rfl⟩ := whole
  constructor
  · intro below
    have next : page + 1 ≤ count := Nat.lt_of_mul_lt_mul_left below
    calc
      size * page + rest < size * (page + 1) := by
        rw [Nat.mul_add_one]
        omega
      _ ≤ size * count := Nat.mul_le_mul_left _ next
  · intro below
    omega

/-- An `int` shift of a page number. -/
theorem ofNat_shiftLeft (page pageShift : Nat)
    : BitVec.ofNat 32 page <<< pageShift = BitVec.ofNat 32 (2 ^ pageShift * page) := by
  apply BitVec.eq_of_toNat_eq
  rw [BitVec.toNat_shiftLeft, BitVec.toNat_ofNat, BitVec.toNat_ofNat, Nat.shiftLeft_eq,
    Nat.mod_mul_mod, Nat.mul_comm]

/-- A page offset that is cut to an `int` loses a multiple of 2^32. -/
theorem blockPa_eq {α : Type} {base : α → U64} {pageShift page rest : Nat} {block : α}
    (low : 2 ^ pageShift * page < 2 ^ 40 - 2 ^ 32) (part : rest < 2 ^ pageShift)
    (whole : 2 ^ pageShift ∣ 2 ^ 31)
    : ∃ lost ≤ 255, (lost = 0 ↔ 2 ^ pageShift * page + rest < 2 ^ 31)
      ∧ blockPa base pageShift (block, page) + BitVec.ofNat 64 rest
        = base block + BitVec.ofNat 64 (2 ^ pageShift * page + rest)
          - BitVec.ofNat 64 (lost * 2 ^ 32) := by
  obtain ⟨lost, bound, none, cut⟩ := signExtend_ofNat low
  refine ⟨lost, bound, none.trans (mul_add_lt_iff part whole), ?_⟩
  rw [blockPa, ofNat_shiftLeft, cut, BitVec.ofNat_add]
  generalize BitVec.ofNat 64 (2 ^ pageShift * page) = offset
  generalize BitVec.ofNat 64 (lost * 2 ^ 32) = lostBits
  generalize BitVec.ofNat 64 rest = restBits
  generalize base block = start
  bv_omega

/-- The words of equally long rows, laid end to end; by induction on the rows. -/
theorem getElem?_flatMap_range {α β : Type} (word : α → Nat → β) {count : Nat}
    (positive : 0 < count) (rows : List α) (k : Nat)
    : (rows.flatMap fun row => (List.range count).map (word row))[k]?
      = rows[k / count]?.map fun row => word row (k % count) := by
  induction rows generalizing k with
  | nil => simp
  | cons row rest ih =>
      rw [List.flatMap_cons]
      rcases Nat.lt_or_ge k count with inside | outside
      · rw [List.getElem?_append_left (by simpa using inside), Nat.div_eq_of_lt inside,
          Nat.mod_eq_of_lt inside]
        simp [inside]
      · obtain ⟨more, rfl⟩ := Nat.exists_eq_add_of_le outside
        rw [List.getElem?_append_right (by simp), List.length_map, List.length_range,
          Nat.add_sub_cancel_left, ih, Nat.add_div_left _ positive, Nat.add_mod_left]
        rfl

/-- Two lists over the same keys are the same up to order exactly when they agree on every
key.
-/
theorem perm_map_pair_iff {α β γ : Type} {keys : List α} {key : α → β} {left right : α → γ}
    (injective : ∀ a ∈ keys, ∀ b ∈ keys, key a = key b → a = b)
    : (keys.map fun a => (key a, left a)).Perm (keys.map fun a => (key a, right a))
      ↔ ∀ a ∈ keys, left a = right a := by
  constructor
  · intro same a member
    have found := same.mem_iff.mp (List.mem_map.mpr ⟨a, member, rfl⟩)
    obtain ⟨b, memberB, equal⟩ := List.mem_map.mp found
    obtain ⟨sameKey, value⟩ := Prod.mk.inj equal
    rw [injective b memberB a member sameKey] at value
    exact value.symm
  · intro agree
    rw [List.map_congr_left fun a member => by rw [agree a member]]

-----------------------------------------------------------------------------------------
-- Requests
-----------------------------------------------------------------------------------------

/-- A contiguous piece of memory. -/
structure Block where
  base : U64
  bytes : Nat

/-- The pages of a block. -/
def Block.pages (pageShift : Nat) (block : Block) : Nat := block.bytes / 2 ^ pageShift

/-- The pieces of memory that make up an allocation, in order. -/
def Backing.blocks : Backing → List Block
  | .fragments nodes => nodes.map fun node => ⟨node.start, node.size.toNat⟩
  | .pages memory => memory.sgl.map fun sg => ⟨memory.address sg, memory.bytes sg⟩

/-- The pages of fragments are those of their blocks. -/
theorem pages_fragments
    : (fun node : RangeNode => Block.pages gpuPageShift ⟨node.start, node.size.toNat⟩)
      = RangeNode.pages := by
  funext node
  rw [Block.pages, RangeNode.pages, BitVec.toNat_ushiftRight, Nat.shiftRight_eq_div_pow]

/-- Walking fragments is walking their blocks. -/
theorem locate_fragments (nodes : List RangeNode) (page : Nat)
    : (Blocks.locate (Block.pages gpuPageShift) (Backing.fragments nodes).blocks page).map
        (blockPa Block.base gpuPageShift)
      = (Blocks.locate RangeNode.pages nodes page).map fragmentPa := by
  rw [Backing.blocks, Blocks.locate_map, pages_fragments, Option.map_map]
  rfl

/-- Walking scatter entries is walking their blocks. -/
theorem locate_pages (memory : OsPagesMemory) (pageShift page : Nat)
    : (Blocks.locate (Block.pages pageShift) (Backing.pages memory).blocks page).map
        (blockPa Block.base pageShift)
      = (Blocks.locate (memory.pages pageShift) memory.sgl page).map
          (memory.pagePa pageShift) := by
  rw [Backing.blocks, Blocks.locate_map, Option.map_map]
  rfl

/-- The block a byte of an allocation is in, and its offset there. -/
def Allocation.byteAt (mapped : Allocation) (byte : Nat) : Option (Block × Nat) :=
  Blocks.locate Block.bytes mapped.backing.blocks byte

/-- The frame that belongs in the entry for a byte: the local frame, or what
`vidsch_get_pte_value` makes of the system address.
-/
def Allocation.frameAt (adapter : Adapter) (mapped : Allocation) (byte : Nat)
    : Option (BitVec 28) :=
  (mapped.byteAt byte).map fun found =>
    let address := found.1.base + BitVec.ofNat 64 found.2
    if mapped.backing.isLocal then (address >>> 12).setWidth 28
    else pteFrame adapter mapped.supportSnoop address

/-- `page_shift` for the entity of a request. -/
abbrev PtesRequest.pageShift (request : PtesRequest) (adapter : Adapter) : Nat :=
  level2PageShift adapter request.entity

/-- The number of 4K pages in a page of that size. -/
abbrev PtesRequest.subpages (request : PtesRequest) (adapter : Adapter) : Nat :=
  2 ^ (request.pageShift adapter - gpuPageShift)

/-- What the callers of `vidmm_vm_update_ptes` provide: the page tables of the range, each in
a buffer of its own; and an allocation that is large enough, in blocks of whole pages, each
smaller than the address space.
-/
structure PtesRequest.Valid (request : PtesRequest) (adapter : Adapter) (tables : PageTables)
    (mapped : Allocation) (first last : Nat) : Prop where
  spans : request.Spans first last
  entity : request.entity = .allocation mapped
  present : ∀ page, first ≤ page → page ≤ last → (tableOf tables page).isSome
  distinct : ∀ page other, first ≤ page → page ≤ last → first ≤ other → other ≤ last
    → (slotOf tables page).1 = (slotOf tables other).1 → page / 1024 = other / 1024
  lowTop : LowTop adapter
  pageShift : gpuPageShift ≤ request.pageShift adapter
  largePages : request.pageShift adapter ≤ 22
  positive : ∀ block ∈ mapped.backing.blocks, 0 < block.bytes
  whole : ∀ block ∈ mapped.backing.blocks,
    2 ^ request.pageShift adapter ∣ block.bytes
  bounded : ∀ block ∈ mapped.backing.blocks, block.bytes ≤ 2 ^ 40 - 2 ^ 32
  total : Blocks.total Block.bytes mapped.backing.blocks ≤ 2 ^ 40
  noOffsets : ∀ memory, mapped.backing = .pages memory → ∀ sg ∈ memory.sgl, sg.offset = 0
  aligned : 2 ^ request.pageShift adapter ∣ request.entityOffset.toNat
  fits : request.entityOffset.toNat + (last + 1 - first) * 4096
    ≤ Blocks.total Block.bytes mapped.backing.blocks

namespace PtesRequest.Valid

variable {request : PtesRequest} {adapter : Adapter} {tables : PageTables}
  {mapped : Allocation} {first last : Nat}

/-- The total in pages. -/
theorem total_pages (h : request.Valid adapter tables mapped first last)
    : Blocks.total Block.bytes mapped.backing.blocks
      = 2 ^ request.pageShift adapter
        * Blocks.total (Block.pages (request.pageShift adapter))
            mapped.backing.blocks :=
  Blocks.total_mul fun block member => (Nat.mul_div_cancel' (h.whole block member)).symm

/-- Fewer than 2^31 pages. -/
theorem total_pages_lt (h : request.Valid adapter tables mapped first last)
    : Blocks.total (Block.pages (request.pageShift adapter))
        mapped.backing.blocks < 2 ^ 31 := by
  have size := h.total
  have shift : 2 ^ 12 ≤ 2 ^ request.pageShift adapter :=
    Nat.pow_le_pow_right (by decide) h.pageShift
  rw [h.total_pages] at size
  have bound := Nat.le_trans (Nat.mul_le_mul_right _ shift) size
  omega

/-- The addresses that the walks find for the pages of an allocation. -/
theorem level2Pas_spec (h : request.Valid adapter tables mapped first last)
    {startPageIdx : U32} {pteCount : Nat}
    (inside : startPageIdx.toNat + pteCount
      ≤ Blocks.total (Block.pages (request.pageShift adapter))
          mapped.backing.blocks)
    : ∃ pas, level2Pas (request.pageShift adapter) request.entity startPageIdx
          pteCount = some pas
        ∧ ∀ k < pteCount, pas[k]?
          = (Blocks.locate (Block.pages (request.pageShift adapter))
              mapped.backing.blocks (startPageIdx.toNat + k)).map
              (blockPa Block.base (request.pageShift adapter)) := by
  have pagePositive : ∀ block ∈ mapped.backing.blocks,
      0 < Block.pages (request.pageShift adapter) block := fun block member =>
    Nat.div_pos (Nat.le_of_dvd (h.positive block member) (h.whole block member))
      (Nat.two_pow_pos _)
  have small := h.total_pages_lt
  have positive := h.positive
  have whole := h.whole
  have noOffsets := h.noOffsets
  have shiftBound := h.largePages
  rw [PtesRequest.pageShift, h.entity] at inside pagePositive small whole shiftBound ⊢
  rcases backing : mapped.backing with nodes | memory
  · have shift : level2PageShift adapter (.allocation mapped) = gpuPageShift := by
      simp [level2PageShift, Entity.backing, backing]
    rw [shift, backing] at inside pagePositive small
    rw [shift]
    have total : Blocks.total (Block.pages gpuPageShift) (Backing.fragments nodes).blocks
        = Blocks.total RangeNode.pages nodes := by
      rw [Backing.blocks, Blocks.total_map, pages_fragments]
    rw [total] at small inside
    simp only [locate_fragments]
    refine level2Pas_fragments backing ⟨fun node member => ?_, small⟩ inside
    rw [← pages_fragments]
    exact pagePositive _ (List.mem_map.mpr ⟨node, member, rfl⟩)
  · have shift : level2PageShift adapter (.allocation mapped) = adapter.osPageShift := by
      simp [level2PageShift, Entity.backing, backing]
    rw [shift, backing] at inside pagePositive small whole
    rw [shift] at shiftBound ⊢
    rw [backing] at positive
    have total : Blocks.total (Block.pages adapter.osPageShift) (Backing.pages memory).blocks
        = Blocks.total (memory.pages adapter.osPageShift) memory.sgl :=
      Blocks.total_map _ _ _
    rw [total] at small inside
    simp only [locate_pages]
    refine level2Pas_pages backing (by omega) ⟨noOffsets memory backing, ?_, ?_, small⟩ inside
    · intro sg member
      exact positive _ (List.mem_map.mpr ⟨sg, member, rfl⟩)
    · intro sg member
      exact whole _ (List.mem_map.mpr ⟨sg, member, rfl⟩)

/-- 4K pages in a page of the allocation. -/
theorem two_pow_pageShift (h : request.Valid adapter tables mapped first last)
    : 2 ^ request.pageShift adapter
      = request.subpages adapter * 4096 := by
  rw [show (4096 : Nat) = 2 ^ gpuPageShift from rfl, ← Nat.pow_add,
    Nat.sub_add_cancel h.pageShift]

/-- The index of the first page of a round. -/
theorem toNat_startPageIdx (h : request.Valid adapter tables mapped first last) {page : Nat}
    (after : first ≤ page) (inside : page ≤ last)
    : ((request.argAt tables page).startPageIdx
          (request.pageShift adapter)).toNat
      = (page - first) / request.subpages adapter
        + request.entityOffset.toNat / 2 ^ request.pageShift adapter := by
  have small := h.spans.small
  have offset : request.entityOffset.toNat ≤ 2 ^ 40 := by
    have fits := h.fits
    have total := h.total
    omega
  have power := h.two_pow_pageShift
  have distance : (BitVec.ofNat 64 page <<< 12 - request.vmVa).toNat = (page - first) * 4096 := by
    rw [h.spans.vmVa, BitVec.toNat_sub, BitVec.toNat_shiftLeft, BitVec.toNat_ofNat,
      BitVec.toNat_ofNat, Nat.shiftLeft_eq]
    omega
  have pages : (page - first) * 4096 / 2 ^ request.pageShift adapter
      = (page - first) / request.subpages adapter := by
    rw [power, Nat.mul_div_mul_right _ _ (by decide)]
  have fewer : (page - first) / request.subpages adapter
      ≤ page - first := Nat.div_le_self _ _
  have start : request.entityOffset.toNat / 2 ^ request.pageShift adapter
      ≤ 2 ^ 40 / 4096 :=
    Nat.div_le_div offset (by rw [power]; exact Nat.le_mul_of_pos_left _ (Nat.two_pow_pos _))
      (by decide)
  simp only [UpdatePtesArg.startPageIdx, argAt, updatePteArg]
  rw [BitVec.toNat_add, BitVec.toNat_setWidth, BitVec.toNat_setWidth, BitVec.toNat_ushiftRight,
    BitVec.toNat_ushiftRight, distance, Nat.shiftRight_eq_div_pow, Nat.shiftRight_eq_div_pow,
    pages]
  generalize (page - first) / request.subpages adapter
    = before at fewer
  generalize request.entityOffset.toNat / 2 ^ request.pageShift adapter
    = skipped at start
  omega

/-- The pages of a round are inside of the allocation. -/
theorem round_fits (h : request.Valid adapter tables mapped first last) {page : Nat}
    (after : first ≤ page) (inside : page ≤ last)
    : (page - first) / request.subpages adapter
        + request.entityOffset.toNat / 2 ^ request.pageShift adapter
        + pagesInTable page last
          / request.subpages adapter
      ≤ Blocks.total (Block.pages (request.pageShift adapter))
          mapped.backing.blocks := by
  have fits := h.fits
  rw [h.total_pages] at fits
  have power := h.two_pow_pageShift
  obtain ⟨skipped, offset⟩ := h.aligned
  have positive : 0 < 2 ^ request.pageShift adapter := Nat.two_pow_pos _
  have last_page : page - first + pagesInTable page last ≤ last + 1 - first := by
    rw [pagesInTable]
    omega
  rw [offset, Nat.mul_div_cancel_left skipped positive]
  generalize request.subpages adapter = ratio at power ⊢
  generalize 2 ^ request.pageShift adapter = size at *
  have first_pages := Nat.div_mul_le_self (page - first) ratio
  have round_pages := Nat.div_mul_le_self (pagesInTable page last) ratio
  refine Nat.le_of_mul_le_mul_left ?_ positive
  calc
    size * ((page - first) / ratio + skipped + pagesInTable page last / ratio)
      = size * skipped
        + ((page - first) / ratio * ratio + pagesInTable page last / ratio * ratio) * 4096 := by
        rw [power]
        ring
    _ ≤ request.entityOffset.toNat + (last + 1 - first) * 4096 := by
        rw [offset]
        omega
    _ ≤ _ := fits

/-- The words of a round: the entries of whole pages are written, with the addresses that
the walk finds.
-/
theorem level2Entries_spec (h : request.Valid adapter tables mapped first last) {page : Nat}
    (after : first ≤ page) (inside : page ≤ last)
    : ∃ (pas : List U64) (mask : U64), level2Entries adapter (request.argAt tables page)
        = some
            (pas.flatMap fun ptePa =>
              (List.range (request.subpages adapter)).map
                (level2Entry adapter request.entity.ptePrototype ptePa),
              mask)
      ∧ pas.length = pagesInTable page last
          / request.subpages adapter
      ∧ ∀ i < pas.length, pas[i]?
        = (Blocks.locate (Block.pages (request.pageShift adapter))
            mapped.backing.blocks
            ((page - first) / request.subpages adapter
              + request.entityOffset.toNat / 2 ^ request.pageShift adapter
              + i)).map
            (blockPa Block.base (request.pageShift adapter)) := by
  have start := h.toNat_startPageIdx after inside
  have fits := h.round_fits after inside
  rw [← start] at fits
  obtain ⟨pas, found, addresses⟩ := h.level2Pas_spec fits
  have length := length_level2Pas found
  refine ⟨pas, level2Mask (request.pageShift adapter)
    (request.argAt tables page).curBufVaOnFill
    (pagesInTable page last / request.subpages adapter),
    ?_, length, ?_⟩
  · have count := h.spans.toNat_pteCount tables inside
    have shift := h.pageShift
    simp only [level2Entries, count, PtesRequest.entity_argAt]
    rw [if_neg (Nat.not_lt.mpr shift)]
    exact Option.bind_eq_some_iff.mpr ⟨pas, found, rfl⟩
  · rw [← start]
    intro i bound
    exact addresses i (length ▸ bound)

end PtesRequest.Valid

/-- The words that the round from a page on writes. -/
def PtesRequest.wordsAt (request : PtesRequest) (adapter : Adapter) (tables : PageTables)
    (page : Nat) : List U32 :=
  ((level2Entries adapter (request.argAt tables page)).map Prod.fst).getD []

namespace PtesRequest.Valid

variable {request : PtesRequest} {adapter : Adapter} {tables : PageTables}
  {mapped : Allocation} {first last : Nat}

/-- Where the words end early, an entry is not written with anything known. -/
theorem wordsAt_end (h : request.Valid adapter tables mapped first last) {page k : Nat}
    (after : first ≤ page) (inside : page ≤ last)
    (late : pagesInTable page last
      / request.subpages adapter
      * request.subpages adapter ≤ k)
    : (request.wordsAt adapter tables page)[k]? = none := by
  obtain ⟨pas, mask, found, length, _⟩ := h.level2Entries_spec after inside
  rw [PtesRequest.wordsAt, found]
  simpa [length] using late

/-- The frame in an entry, compared with the byte that belongs there. -/
theorem wordsAt_frame (h : request.Valid adapter tables mapped first last) {page k : Nat}
    (after : first ≤ page) (inside : page ≤ last)
    (steps : request.subpages adapter ∣ page - first)
    (written : k < pagesInTable page last
      / request.subpages adapter
      * request.subpages adapter)
    : ∃ block offset lost,
        mapped.byteAt (request.entityOffset.toNat + (page + k - first) * 4096)
          = some (block, offset)
        ∧ lost ≤ 255 ∧ (lost = 0 ↔ offset < 2 ^ 31)
        ∧ (request.wordsAt adapter tables page)[k]?.map addrField
          = some
              (pteFrame adapter mapped.supportSnoop
                (block.base + BitVec.ofNat 64 offset - BitVec.ofNat 64 (lost * 2 ^ 32))) := by
  obtain ⟨pas, mask, found, length, addresses⟩ := h.level2Entries_spec after inside
  have power := h.two_pow_pageShift
  have fits := h.round_fits after inside
  have snoop : request.entity.ptePrototype.snoop = mapped.supportSnoop := by
    rw [h.entity]
    rfl
  have whole31 : 2 ^ request.pageShift adapter ∣ 2 ^ 31 :=
    Nat.pow_dvd_pow 2 (Nat.le_trans h.largePages (by decide))
  have positive : 0 < request.subpages adapter :=
    Nat.two_pow_pos _
  obtain ⟨before, distance⟩ := steps
  obtain ⟨skipped, offset⟩ := h.aligned
  have row : k / request.subpages adapter < pas.length := by
    rw [length]
    exact (Nat.div_lt_iff_lt_mul positive).mpr written
  have sub : k % request.subpages adapter < request.subpages adapter := Nat.mod_lt k positive
  have part : k % request.subpages adapter * 4096 < 2 ^ request.pageShift adapter := by
    rw [power]
    exact Nat.mul_lt_mul_of_pos_right sub (by decide)
  -- the byte, as a page of the allocation and an offset in it
  have byte : request.entityOffset.toNat + (page + k - first) * 4096
      = 2 ^ request.pageShift adapter
          * (before + skipped + k / request.subpages adapter)
        + k % request.subpages adapter * 4096 := by
    calc
      request.entityOffset.toNat + (page + k - first) * 4096
        = request.entityOffset.toNat + (page - first + k) * 4096 := by
          congr 2
          omega
      _ = 2 ^ request.pageShift adapter * skipped
          + (request.subpages adapter * before
            + (request.subpages adapter * (k / request.subpages adapter)
              + k % request.subpages adapter)) * 4096 := by
          rw [Nat.div_add_mod, ← distance, ← offset]
      _ = _ := by
          rw [power]
          ring
  have index : (page - first) / request.subpages adapter
      + request.entityOffset.toNat / 2 ^ request.pageShift adapter
      = before + skipped := by
    rw [distance, offset, Nat.mul_div_cancel_left _ positive,
      Nat.mul_div_cancel_left _ (Nat.two_pow_pos _)]
  rw [index, ← length] at fits
  rw [index] at addresses
  have inside_blocks : before + skipped + k / request.subpages adapter
      < Blocks.total (Block.pages (request.pageShift adapter)) mapped.backing.blocks :=
    Nat.lt_of_lt_of_le (Nat.add_lt_add_left row _) fits
  obtain ⟨block, inBlock, there⟩ := Blocks.locate_of_lt_total inside_blocks
  obtain ⟨member, within⟩ := Blocks.locate_some there
  have blockBytes := Nat.mul_div_cancel' (h.whole block member)
  have low : 2 ^ request.pageShift adapter * inBlock < 2 ^ 40 - 2 ^ 32 := by
    calc
      2 ^ request.pageShift adapter * inBlock
        < 2 ^ request.pageShift adapter * (block.pages (request.pageShift adapter)) :=
          Nat.mul_lt_mul_of_pos_left within (Nat.two_pow_pos _)
      _ = block.bytes := blockBytes
      _ ≤ 2 ^ 40 - 2 ^ 32 := h.bounded block member
  obtain ⟨lost, bound, none, pa⟩ := @blockPa_eq _ Block.base _ _ _ block low part whole31
  refine ⟨block, _, lost, ?_, bound, none, ?_⟩
  · rw [Allocation.byteAt, byte, Blocks.locate_mul_add
      (fun block member => (Nat.mul_div_cancel' (h.whole block member)).symm) part]
    rw [show Blocks.locate (fun block => block.bytes / 2 ^ request.pageShift adapter)
      mapped.backing.blocks _ = _ from there]
    rfl
  · rw [PtesRequest.wordsAt, found, Option.map_some, Option.getD_some,
      getElem?_flatMap_range _ positive, addresses _ row, there, Option.map_some,
      Option.map_some, Option.map_some, addrField_level2Entry, snoop, pa]

end PtesRequest.Valid

end Cx4Kernel.Vidmm
