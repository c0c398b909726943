import Cx4Kernel.Foundation.MachineInt

/-! What GPU mappings point to: the memory behind allocations and segment memory, and the
formats of page table entries. A result `none` stands for a failed `zx_assert` or a read
past the end of a list.
-/

namespace Cx4Kernel.Vidmm

/-- `GPU_PAGE_SHIFT`. -/
def gpuPageShift : Nat := 12

/-- `GPU_PAGE_SIZE`. -/
def gpuPageSize : Nat := 4096

/-- The fields of `adapter_t` that mappings depend on. -/
structure Adapter where
  osPageShift : Nat
  /-- `hw_caps.nonsnoop_patch_enable` -/
  nonsnoopPatchEnable : Bool
  lowTopAddress : U64
  /-- `ctl_flags.share_space_cover_local` -/
  shareSpaceCoverLocal : Bool
  sharedGpuVaOffset : U64
  sharedGpuVaSize : U64
  totalLocalMemorySize : U64

/-- `vidsch_get_pte_value`. -/
def vidschGetPteValue (adapter : Adapter) (snoop : Bool) (phyAddr : U64) : U64 :=
  if adapter.nonsnoopPatchEnable && !snoop then
    let lowTop := adapter.lowTopAddress >>> 12
    let frame := phyAddr >>> 12
    let frame := if frame > lowTop then frame - (0x100000 - lowTop) else frame
    frame <<< 12
  else phyAddr

-----------------------------------------------------------------------------------------
-- Page table entries
-----------------------------------------------------------------------------------------

/-- The fields of `PTE_L1_t` and of the 4K form of `PTE_L3_t`, which agree. -/
structure Pte where
  valid : Bool
  /-- `NStable` in `PTE_L1_t` -/
  ns : Bool
  snoop : Bool
  segment : Bool
  addr : BitVec 28

/-- The word of an entry, the first field in the lowest bit. -/
def Pte.uint (pte : Pte) : U32 :=
  pte.addr ++ BitVec.ofBool pte.segment ++ BitVec.ofBool pte.snoop ++ BitVec.ofBool pte.ns
    ++ BitVec.ofBool pte.valid

/-- The `_4k_d` form of `PTE_L2_t`, whose top bit is `LargePage`. -/
def pteL2Uint (ns snoop segment : Bool) (addr : BitVec 27) : U32 :=
  BitVec.ofBool false ++ addr ++ BitVec.ofBool segment ++ BitVec.ofBool snoop
    ++ BitVec.ofBool ns ++ BitVec.ofBool true

/-- The `Addr` field of an entry word. -/
def addrField (word : U32) : BitVec 28 := word.extractLsb' 4 28

/-- The address of an entry is read back from its word. -/
@[simp]
theorem addrField_uint (pte : Pte) : addrField pte.uint = pte.addr := by
  ext i bound
  simp only [addrField, Pte.uint, BitVec.getElem_extractLsb', BitVec.getLsbD_append]
  simp [show ¬ 4 + i < 1 by omega, BitVec.getLsbD_eq_getElem bound]

-----------------------------------------------------------------------------------------
-- Local fragments and system pages
-----------------------------------------------------------------------------------------

/-- `struct range_node`, a fragment of local memory. -/
structure RangeNode where
  start : U64
  size : U64

/-- `struct scatterlist`. -/
structure Scatterlist where
  offset : U32
  length : U32
  /-- `sg_phys` -/
  phys : U64
  /-- `sg_dma_len` -/
  dmaLen : U32
  /-- `sg_dma_address` -/
  dmaAddress : U64

/-- `struct os_pages_memory`, with the entries up to `nents`. -/
structure OsPagesMemory where
  sgl : List Scatterlist
  hasDmaMap : Bool

/-- `PAGE_ALIGN` of a 32-bit length. -/
def pageAlign (pageShift : Nat) (length : U32) : U32 :=
  let mask : U32 := BitVec.ofNat 32 (2 ^ pageShift - 1)
  (length + mask) &&& ~~~mask

namespace OsPagesMemory

/-- `page_cnt` of an entry, an `int`. -/
def pageCnt (memory : OsPagesMemory) (pageShift : Nat) (sg : Scatterlist) : U32 :=
  let length := if memory.hasDmaMap then sg.dmaLen else sg.length
  pageAlign pageShift (sg.offset + length) >>> pageShift

/-- The address the device sees an entry at. -/
def address (memory : OsPagesMemory) (sg : Scatterlist) : U64 :=
  if memory.hasDmaMap then sg.dmaAddress else sg.phys

/-- `for_each_sg` of `zx_get_page_phys_address`. -/
def physAddressFrom (memory : OsPagesMemory) (pageShift : Nat) (pageNum : U32)
    : List Scatterlist → (pageStart : U32) → U64
  | [], _ => 0
  | sg :: rest, pageStart =>
      let pageCnt := memory.pageCnt pageShift sg
      if pageNum.sle (pageStart + pageCnt - 1) then
        -- an `int` is shifted here, and widened only afterwards
        memory.address sg + ((pageNum - pageStart) <<< pageShift).signExtend 64
      else memory.physAddressFrom pageShift pageNum rest (pageStart + pageCnt)

/-- `zx_get_page_phys_address`. -/
def zxGetPagePhysAddress (memory : OsPagesMemory) (pageShift : Nat) (pageNum : U32) : U64 :=
  memory.physAddressFrom pageShift pageNum memory.sgl 0

/-- The loop of `zx_pages_memory_for_each_continues`. The callback ends it with `none`. -/
def forEachFrom {Arg : Type} (memory : OsPagesMemory) (pageShift : Nat)
    (callback : Arg → (pageStart pageCnt : U32) → (dmaAddr : U64) → Option Arg)
    : List Scatterlist → (pageStart : U32) → Arg → Arg
  | [], _, arg => arg
  | sg :: rest, pageStart, arg =>
      let pageCnt := memory.pageCnt pageShift sg
      match callback arg pageStart pageCnt (memory.address sg) with
      | none => arg
      | some arg => memory.forEachFrom pageShift callback rest (pageStart + pageCnt) arg

/-- `zx_pages_memory_for_each_continues`. -/
def zxPagesMemoryForEachContinues {Arg : Type} (memory : OsPagesMemory) (pageShift : Nat)
    (arg : Arg) (callback : Arg → (pageStart pageCnt : U32) → (dmaAddr : U64) → Option Arg)
    : Arg :=
  memory.forEachFrom pageShift callback memory.sgl 0 arg

end OsPagesMemory

/-- The memory of a segment: `fb_pages_mem` of a local one, `pages_mem` of another. -/
inductive Backing where
  | fragments (rangeNodeList : List RangeNode)
  | pages (memory : OsPagesMemory)

/-- The segment is in local memory. -/
def Backing.isLocal : Backing → Bool
  | .fragments _ => true
  | .pages _ => false

/-- The fields of `vidmm_allocation_t` and its segment that mappings depend on. -/
structure Allocation where
  /-- `flag.secured` -/
  secured : Bool
  /-- `flags.support_snoop` of the segment -/
  supportSnoop : Bool
  backing : Backing

/-- The fields of `vidmm_segment_memory_t` and its segment that mappings depend on. -/
structure SegmentMemory where
  /-- `flag.security` -/
  security : Bool
  /-- `flag.snooping_enabled` -/
  snoopingEnabled : Bool
  /-- `flags.support_snoop` of the segment -/
  supportSnoop : Bool
  backing : Backing

/-- A mapped entity, tagged with its `ZX_VM_NODE_TYPE`. -/
inductive Entity where
  | allocation (allocation : Allocation)
  | segmentMemory (segmentMemory : SegmentMemory)

/-- The memory an entity is backed by. -/
def Entity.backing : Entity → Backing
  | .allocation mapped => mapped.backing
  | .segmentMemory mapped => mapped.backing

end Cx4Kernel.Vidmm
