import Cx4Kernel.Foundation.Blocks
import Cx4Kernel.Vidmm.UpdatePtes

/-! Where the walks over fragments and scatter entries find the pages of an allocation. -/

namespace Cx4Kernel.Vidmm

open Cx4Kernel.Foundation

/-- The address both walks compute for a page of a block: the offset is an `int`. -/
def blockPa {α : Type} (base : α → U64) (pageShift : Nat) (found : α × Nat) : U64 :=
  base found.1 + (BitVec.ofNat 32 found.2 <<< pageShift).signExtend 64

-----------------------------------------------------------------------------------------
-- Fragments
-----------------------------------------------------------------------------------------

/-- The number of 4K pages of a fragment. -/
def RangeNode.pages (node : RangeNode) : Nat := (node.size >>> gpuPageShift).toNat

/-- The address the loop computes for a page of a fragment. -/
def fragmentPa (found : RangeNode × Nat) : U64 := blockPa RangeNode.start gpuPageShift found

/-- Fragments with at least one page each, in page counts that an `int` holds. -/
structure Walkable (nodes : List RangeNode) : Prop where
  positive : ∀ node ∈ nodes, 0 < node.pages
  small : Blocks.total RangeNode.pages nodes < 2 ^ 31

/-- Fewer fragments are walkable too. -/
theorem Walkable.suffix {nodes rest : List RangeNode} (h : Walkable nodes)
    (part : rest <:+ nodes)
    : Walkable rest where
  positive := fun node member => h.positive node (part.subset member)
  small := by
    obtain ⟨front, rfl⟩ := part
    have small := h.small
    rw [Blocks.total_append] at small
    omega

/-- The page counter stands inside the current fragment. -/
def InFragment (nodes : List RangeNode) (currentPage : U32) : Prop :=
  ∀ node ∈ nodes.head?, currentPage.toNat < node.pages

/-- The counter reaches the end of a fragment exactly when it equals the page count. -/
theorem signExtend_eq_pages {node : RangeNode} {currentPage : U32}
    (small : currentPage.toNat < 2 ^ 31)
    : currentPage.signExtend 64 = node.size >>> gpuPageShift
      ↔ currentPage.toNat = node.pages := by
  rw [← BitVec.toNat_inj, toNat_signExtend_of_lt small, RangeNode.pages]

/-- `this_skip` is the smaller one of the fragment and what is left to skip. -/
theorem toNat_thisSkip {startPageIdx total : U32} (node : RangeNode)
    (less : total.toNat < startPageIdx.toNat)
    : (if node.size >>> gpuPageShift < (startPageIdx - total).setWidth 64 then
          (node.size >>> gpuPageShift).setWidth 32
        else startPageIdx - total).toNat
      = min node.pages (startPageIdx.toNat - total.toNat) := by
  have left : (startPageIdx - total).toNat = startPageIdx.toNat - total.toNat := by
    rw [BitVec.toNat_sub]
    omega
  have wide : ((startPageIdx - total).setWidth 64).toNat
      = startPageIdx.toNat - total.toNat := by
    rw [BitVec.toNat_setWidth, left]
    omega
  split
  · rename_i smaller
    rw [BitVec.lt_def, wide] at smaller
    rw [BitVec.toNat_setWidth, RangeNode.pages]
    omega
  · rename_i larger
    rw [BitVec.lt_def, wide] at larger
    rw [left, RangeNode.pages]
    omega

/-- The skipping loop ends at the page that was asked for: the pages from there on are the
pages from its cursor on. By induction on the fragments.
-/
theorem skipPages_spec {nodes : List RangeNode} {startPageIdx total : U32}
    (walkable : Walkable nodes) (before : total.toNat ≤ startPageIdx.toNat)
    (inside : startPageIdx.toNat ≤ total.toNat + Blocks.total RangeNode.pages nodes)
    : ∃ rest currentPage,
        skipPages gpuPageShift startPageIdx nodes total 0 = some (rest, currentPage)
        ∧ rest <:+ nodes ∧ InFragment rest currentPage
        ∧ ∀ more, Blocks.locate RangeNode.pages nodes
              (startPageIdx.toNat - total.toNat + more)
            = Blocks.locate RangeNode.pages rest (currentPage.toNat + more) := by
  induction nodes generalizing total with
  | nil =>
      have done : ¬ total < startPageIdx := by
        rw [BitVec.lt_def]
        simp only [Blocks.total_nil] at inside
        omega
      refine ⟨[], 0, ?_, List.suffix_refl _, by simp [InFragment], fun _ => rfl⟩
      rw [skipPages, if_neg done]
  | cons node rest ih =>
      have positive := walkable.positive node List.mem_cons_self
      have small := walkable.small
      rw [Blocks.total_cons] at small inside
      simp only [skipPages]
      split
      · rename_i less
        rw [BitVec.lt_def] at less
        have skip := toNat_thisSkip node less
        generalize (if node.size >>> gpuPageShift < (startPageIdx - total).setWidth 64 then
          (node.size >>> gpuPageShift).setWidth 32 else startPageIdx - total) = thisSkip
          at skip ⊢
        rw [show (0 : U32) + thisSkip = thisSkip from BitVec.zero_add thisSkip]
        have advanced : (total + thisSkip).toNat = total.toNat + thisSkip.toNat := by
          rw [BitVec.toNat_add]
          omega
        split
        · -- the fragment is skipped as a whole
          rename_i whole
          rw [signExtend_eq_pages (by omega)] at whole
          obtain ⟨rest', currentPage, ran, part, inFragment, same⟩ :=
            @ih (total + thisSkip) (walkable.suffix (List.suffix_cons node rest)) (by omega)
              (by omega)
          refine ⟨rest', currentPage, ran, part.trans (List.suffix_cons node rest),
            inFragment, fun more => ?_⟩
          have place : startPageIdx.toNat - total.toNat + more
              = node.pages + (startPageIdx.toNat - (total + thisSkip).toNat + more) := by
            omega
          rw [place, Blocks.locate_tail]
          exact same more
        · -- the page is in this fragment
          rename_i inner
          rw [signExtend_eq_pages (by omega)] at inner
          have done : ¬ total + thisSkip < startPageIdx := by
            rw [BitVec.lt_def]
            omega
          refine ⟨node :: rest, thisSkip, if_neg done, List.suffix_refl _, ?_, fun more => ?_⟩
          · intro first member
            cases member
            omega
          · congr 2
            omega
      · rename_i done
        rw [BitVec.lt_def] at done
        refine ⟨node :: rest, 0, rfl, List.suffix_refl _, ?_, ?_⟩
        · simpa [InFragment] using positive
        · intro more
          rw [show startPageIdx.toNat - total.toNat = 0 by omega]
          rfl

/-- Where the loop stands after a page: at the next one, in the same fragment or in the
next.
-/
theorem fragmentPas_next {node : RangeNode} {rest : List RangeNode} {currentPage : U32}
    (walkable : Walkable (node :: rest)) (inFragment : InFragment (node :: rest) currentPage)
    : ∃ nodes nextPage, nodes <:+ node :: rest ∧ InFragment nodes nextPage
        ∧ (∀ k, Blocks.locate RangeNode.pages (node :: rest) (currentPage.toNat + (k + 1))
            = Blocks.locate RangeNode.pages nodes (nextPage.toNat + k))
        ∧ ∀ pteCount, fragmentPas gpuPageShift (pteCount + 1) (node :: rest) currentPage
            = (fragmentPas gpuPageShift pteCount nodes nextPage).map
                (fragmentPa (node, currentPage.toNat) :: ·) := by
  have here : currentPage.toNat < node.pages := inFragment node rfl
  have small := walkable.small
  rw [Blocks.total_cons] at small
  have one : (1 : U32).toNat = 1 := rfl
  have next : (currentPage + 1).toNat = currentPage.toNat + 1 := by
    rw [BitVec.toNat_add]
    omega
  have pa : node.start + (currentPage <<< gpuPageShift).signExtend 64
      = fragmentPa (node, currentPage.toNat) := by
    simp [fragmentPa, blockPa]
  have more : (currentPage + 1).signExtend 64 = node.size >>> gpuPageShift
      ↔ currentPage.toNat + 1 = node.pages := by
    rw [signExtend_eq_pages (by omega), next]
  rcases Nat.lt_or_ge (currentPage.toNat + 1) node.pages with within | beyond
  · refine ⟨node :: rest, currentPage + 1, List.suffix_refl _, ?_, fun k => ?_, ?_⟩
    · intro first member
      cases member
      omega
    · rw [next]
      congr 1
      omega
    · intro pteCount
      rw [fragmentPas, if_neg (mt more.mp (by omega)), pa]
  · refine ⟨rest, 0, List.suffix_cons node rest, ?_, fun k => ?_, ?_⟩
    · intro first member
      exact walkable.positive first (List.mem_cons_of_mem node (List.mem_of_head? member))
    · have place : currentPage.toNat + (k + 1) = node.pages + ((0 : U32).toNat + k) := by
        rw [show (0 : U32).toNat = 0 from rfl]
        omega
      rw [place, Blocks.locate_tail]
    · intro pteCount
      rw [fragmentPas, if_pos (more.mpr (by omega)), pa]

/-- The addresses the loop computes from its cursor on are those of the pages there, by
induction on their number.
-/
theorem fragmentPas_spec {nodes : List RangeNode} {pteCount : Nat} {currentPage : U32}
    (walkable : Walkable nodes) (inFragment : InFragment nodes currentPage)
    (inside : ∀ k < pteCount,
      (Blocks.locate RangeNode.pages nodes (currentPage.toNat + k)).isSome)
    : ∃ pas, fragmentPas gpuPageShift pteCount nodes currentPage = some pas
        ∧ ∀ k < pteCount, pas[k]?
          = (Blocks.locate RangeNode.pages nodes (currentPage.toNat + k)).map fragmentPa := by
  induction pteCount generalizing nodes currentPage with
  | zero => exact ⟨[], rfl, by simp⟩
  | succ pteCount ih =>
      cases nodes with
      | nil => exact absurd (inside 0 (Nat.succ_pos _)) (by simp [Blocks.locate])
      | cons node rest =>
          obtain ⟨nodes, nextPage, part, inFragment', moved, ran⟩ :=
            fragmentPas_next walkable inFragment
          have inside' : ∀ k < pteCount,
              (Blocks.locate RangeNode.pages nodes (nextPage.toNat + k)).isSome := by
            intro k bound
            rw [← moved]
            exact inside (k + 1) (by omega)
          obtain ⟨pas, found, addresses⟩ := ih (walkable.suffix part) inFragment' inside'
          refine ⟨fragmentPa (node, currentPage.toNat) :: pas, ?_, ?_⟩
          · rw [ran, found]
            rfl
          · intro k bound
            cases k with
            | zero =>
                rw [Nat.add_zero, Blocks.locate_head (inFragment node rfl)]
                rfl
            | succ k =>
                rw [moved]
                exact addresses k (by omega)

/-- The pages of an allocation in local memory, from page `startPageIdx` on. -/
theorem level2Pas_fragments {nodes : List RangeNode} {mapped : Allocation}
    {startPageIdx : U32} {pteCount : Nat} (backing : mapped.backing = .fragments nodes)
    (walkable : Walkable nodes)
    (inside : startPageIdx.toNat + pteCount ≤ Blocks.total RangeNode.pages nodes)
    : ∃ pas, level2Pas gpuPageShift (.allocation mapped) startPageIdx pteCount = some pas
        ∧ ∀ k < pteCount, pas[k]?
          = (Blocks.locate RangeNode.pages nodes (startPageIdx.toNat + k)).map fragmentPa := by
  obtain ⟨rest, currentPage, skipped, part, inFragment, same⟩ :=
    @skipPages_spec nodes startPageIdx 0 walkable (Nat.zero_le _)
      (by rw [show (0 : U32).toNat = 0 from rfl]; omega)
  have there : ∀ k, Blocks.locate RangeNode.pages rest (currentPage.toNat + k)
      = Blocks.locate RangeNode.pages nodes (startPageIdx.toNat + k) :=
    fun k => (same k).symm
  have inside' : ∀ k < pteCount,
      (Blocks.locate RangeNode.pages rest (currentPage.toNat + k)).isSome := by
    intro k bound
    obtain ⟨node, offset, found⟩ := @Blocks.locate_of_lt_total _ RangeNode.pages nodes
      (startPageIdx.toNat + k) (by omega)
    rw [there, found]
    rfl
  obtain ⟨pas, found, addresses⟩ := fragmentPas_spec (walkable.suffix part) inFragment inside'
  refine ⟨pas, ?_, fun k bound => ?_⟩
  · have ran : (skipPages gpuPageShift startPageIdx nodes 0 0).bind
        (fun cursor => fragmentPas gpuPageShift pteCount cursor.1 cursor.2) = some pas :=
      Option.bind_eq_some_iff.mpr ⟨_, skipped, found⟩
    simpa [level2Pas, Entity.backing, backing] using ran
  · rw [addresses k bound, there]

-----------------------------------------------------------------------------------------
-- System pages
-----------------------------------------------------------------------------------------

namespace OsPagesMemory

/-- The bytes of an entry that the device sees. -/
def bytes (memory : OsPagesMemory) (sg : Scatterlist) : Nat :=
  (if memory.hasDmaMap then sg.dmaLen else sg.length).toNat

/-- The pages of an entry. -/
def pages (memory : OsPagesMemory) (pageShift : Nat) (sg : Scatterlist) : Nat :=
  memory.bytes sg / 2 ^ pageShift

/-- The entries are whole pages, with page counts that an `int` holds. -/
structure WholePages (memory : OsPagesMemory) (pageShift : Nat) : Prop where
  offset : ∀ sg ∈ memory.sgl, sg.offset = 0
  positive : ∀ sg ∈ memory.sgl, 0 < memory.bytes sg
  whole : ∀ sg ∈ memory.sgl, 2 ^ pageShift ∣ memory.bytes sg
  small : Blocks.total (memory.pages pageShift) memory.sgl < 2 ^ 31

/-- The address computed for a page of an entry. -/
def pagePa (memory : OsPagesMemory) (pageShift : Nat) (found : Scatterlist × Nat) : U64 :=
  blockPa memory.address pageShift found

/-- Aligning does not change the bits above the page offset, it only adds the mask. -/
theorem pageAlign_ushiftRight (pageShift : Nat) (length : U32)
    : pageAlign pageShift length >>> pageShift
      = (length + BitVec.ofNat 32 (2 ^ pageShift - 1)) >>> pageShift := by
  ext i bound
  simp only [pageAlign, BitVec.getElem_ushiftRight, BitVec.getLsbD_and, BitVec.getLsbD_not,
    BitVec.getLsbD_ofNat, Nat.testBit_two_pow_sub_one]
  rcases Nat.lt_or_ge (pageShift + i) 32 with inside | outside
  · simp [inside]
  · simp [BitVec.getLsbD_of_ge _ _ outside]

/-- The page count of an entry of whole pages. -/
theorem toNat_pageCnt {memory : OsPagesMemory} {pageShift : Nat} {sg : Scatterlist}
    (shift : pageShift < 32) (offset : sg.offset = 0)
    (whole : 2 ^ pageShift ∣ memory.bytes sg)
    : (memory.pageCnt pageShift sg).toNat = memory.pages pageShift sg := by
  obtain ⟨count, length⟩ := whole
  have bound : memory.bytes sg < 2 ^ 32 := BitVec.isLt _
  have power : 2 ^ 32 = 2 ^ pageShift * 2 ^ (32 - pageShift) := by
    rw [← Nat.pow_add, Nat.add_sub_cancel' (by omega)]
  have positive : 0 < 2 ^ pageShift := Nat.two_pow_pos _
  have room : memory.bytes sg + 2 ^ pageShift ≤ 2 ^ 32 := by
    rw [power, length, ← Nat.mul_add_one]
    refine Nat.mul_le_mul_left _ (Nat.lt_of_mul_lt_mul_left (a := 2 ^ pageShift) ?_)
    rw [← power, ← length]
    exact bound
  have mask : (BitVec.ofNat 32 (2 ^ pageShift - 1)).toNat = 2 ^ pageShift - 1 :=
    Nat.mod_eq_of_lt (by omega)
  have sum : ((0 : U32) + (if memory.hasDmaMap then sg.dmaLen else sg.length)
      + BitVec.ofNat 32 (2 ^ pageShift - 1)).toNat = memory.bytes sg + (2 ^ pageShift - 1) := by
    rw [show ∀ x : U32, 0 + x = x from BitVec.zero_add, BitVec.toNat_add, mask]
    exact Nat.mod_eq_of_lt (by rw [bytes] at room; omega)
  rw [pageCnt, pageAlign_ushiftRight, offset, BitVec.toNat_ushiftRight,
    Nat.shiftRight_eq_div_pow, sum, pages, length, Nat.mul_add_div positive,
    Nat.div_eq_of_lt (by omega), Nat.mul_div_cancel_left count positive, Nat.add_zero]

/-- The address of a page is the one computed for it, by induction on the entries. -/
theorem physAddressFrom_spec {memory : OsPagesMemory} {pageShift : Nat} {pageNum : U32}
    {sgl : List Scatterlist} {pageStart : U32}
    (counts : ∀ sg ∈ sgl, (memory.pageCnt pageShift sg).toNat = memory.pages pageShift sg)
    (positive : ∀ sg ∈ sgl, 0 < memory.pages pageShift sg)
    (small : pageStart.toNat + Blocks.total (memory.pages pageShift) sgl < 2 ^ 31)
    (before : pageStart.toNat ≤ pageNum.toNat)
    (inside : pageNum.toNat < pageStart.toNat + Blocks.total (memory.pages pageShift) sgl)
    : some (memory.physAddressFrom pageShift pageNum sgl pageStart)
      = (Blocks.locate (memory.pages pageShift) sgl (pageNum.toNat - pageStart.toNat)).map
          (memory.pagePa pageShift) := by
  induction sgl generalizing pageStart with
  | nil =>
      rw [Blocks.total_nil] at inside
      omega
  | cons sg rest ih =>
      have count := counts sg List.mem_cons_self
      have some_page := positive sg List.mem_cons_self
      rw [Blocks.total_cons] at small inside
      have one : (1 : U32).toNat = 1 := rfl
      have next : (pageStart + memory.pageCnt pageShift sg).toNat
          = pageStart.toNat + memory.pages pageShift sg := by
        rw [BitVec.toNat_add]
        omega
      have last : (pageStart + memory.pageCnt pageShift sg - 1).toNat
          = pageStart.toNat + memory.pages pageShift sg - 1 := by
        rw [BitVec.toNat_sub, next]
        omega
      have here : pageNum.sle (pageStart + memory.pageCnt pageShift sg - 1)
          ↔ pageNum.toNat - pageStart.toNat < memory.pages pageShift sg := by
        rw [BitVec.sle_iff_toInt_le, BitVec.toInt_eq_toNat_of_lt (by omega),
          BitVec.toInt_eq_toNat_of_lt (by omega), last]
        omega
      simp only [physAddressFrom]
      split
      · rename_i found
        have offset : pageNum - pageStart = BitVec.ofNat 32 (pageNum.toNat - pageStart.toNat) := by
          apply BitVec.eq_of_toNat_eq
          rw [BitVec.toNat_sub, BitVec.toNat_ofNat]
          omega
        rw [Blocks.locate_head (here.mp found), offset]
        rfl
      · rename_i later
        rw [here] at later
        have place : pageNum.toNat - pageStart.toNat = memory.pages pageShift sg
            + (pageNum.toNat - (pageStart + memory.pageCnt pageShift sg).toNat) := by
          omega
        rw [place, Blocks.locate_tail]
        exact ih (fun sg member => counts sg (List.mem_cons_of_mem _ member))
          (fun sg member => positive sg (List.mem_cons_of_mem _ member)) (by omega) (by omega)
          (by omega)

/-- The address of each page of whole-page memory. -/
theorem zxGetPagePhysAddress_spec {memory : OsPagesMemory} {pageShift : Nat} {pageNum : U32}
    (shift : pageShift < 32) (valid : memory.WholePages pageShift)
    (inside : pageNum.toNat < Blocks.total (memory.pages pageShift) memory.sgl)
    : some (memory.zxGetPagePhysAddress pageShift pageNum)
      = (Blocks.locate (memory.pages pageShift) memory.sgl pageNum.toNat).map
          (memory.pagePa pageShift) := by
  refine physAddressFrom_spec ?_ ?_ ?_ (Nat.zero_le _) ?_
  · intro sg member
    exact toNat_pageCnt shift (valid.offset sg member) (valid.whole sg member)
  · intro sg member
    exact Nat.div_pos (Nat.le_of_dvd (valid.positive sg member) (valid.whole sg member))
      (Nat.two_pow_pos _)
  · simpa using valid.small
  · simpa using inside

end OsPagesMemory

/-- The pages of an entity in system memory, from page `startPageIdx` on. -/
theorem level2Pas_pages {memory : OsPagesMemory} {pageShift : Nat} {entity : Entity}
    {startPageIdx : U32} {pteCount : Nat} (backing : entity.backing = .pages memory)
    (shift : pageShift < 32) (valid : memory.WholePages pageShift)
    (inside : startPageIdx.toNat + pteCount
      ≤ Blocks.total (memory.pages pageShift) memory.sgl)
    : ∃ pas, level2Pas pageShift entity startPageIdx pteCount = some pas
        ∧ ∀ k < pteCount, pas[k]?
          = (Blocks.locate (memory.pages pageShift) memory.sgl (startPageIdx.toNat + k)).map
              (memory.pagePa pageShift) := by
  have small := valid.small
  refine ⟨_, by simp [level2Pas, backing]; rfl, fun k bound => ?_⟩
  have place : (BitVec.ofNat 32 k + startPageIdx).toNat = startPageIdx.toNat + k := by
    rw [BitVec.toNat_add, BitVec.toNat_ofNat]
    omega
  rw [List.getElem?_map, List.getElem?_range bound, Option.map_some,
    memory.zxGetPagePhysAddress_spec shift valid (by omega), place]

end Cx4Kernel.Vidmm
