import Mathlib.Logic.Function.Basic
import Cx4Kernel.Foundation.MachineInt
import Cx4Kernel.Foundation.Transition

/-! The memory behind allocations: placement, eviction, page-in, save and restore on the GPU
path, from `vidmm_allocate.c` and `vidmm_paging.c`. A call is one step together with the
release of its paging task. A result `none` stands for a failed `zx_assert` or a read through
`NULL`.
-/

namespace Cx4Kernel.Vidmm

/-- `SEGMENT_ID_INVALID`. -/
def segmentIdInvalid : Nat := 0

/-- `SEGMENT_ID_LOCAL`. -/
def segmentIdLocal : Nat := 1

/-- `SEGMENT_ID_PCIE_UNSNOOPABLE_ELT3K`. -/
def segmentIdPcieUnsnoopable : Nat := 2

/-- `SEGMENT_ID_PCIE_SNOOPABLE_ELT3K`. -/
def segmentIdPcieSnoopable : Nat := 3

/-- An `fb_pages_memory_t` or an `os_pages_memory`: whose data it holds, and how often it was
freed.
-/
structure MemoryObject where
  data : Option Nat
  freed : Nat
deriving DecidableEq

/-- The error codes that are told apart. -/
inductive PagingStatus where
  | ok
  | fail
  | outOfMemory
  | unexpected
  | pageoutAllocationBusy
deriving DecidableEq

/-- The fields of `vidmm_allocation_t` that paging looks at. Memory objects are named by their
positions, and `file_storage` by the data it holds.
-/
structure PagedAllocation where
  size : U64
  segmentId : Nat
  preferredSegment : List Nat
  pagesMem : Option Nat
  fbPagesMem : Option Nat
  fileStorage : Option Nat
  global : Bool
  needSaveWhenAcpi : Bool
  tempUnpagable : Nat
deriving DecidableEq

/-- `vidmm_segment_memory_t`, with its `pages_mem` or, if it is local, its `fb_pages_mem`. -/
structure PagedSegmentMemory where
  segmentId : Nat
  size : U64
  isLocal : Bool
  memory : Option Nat

/-- `vidmm_mgr_t` with its segments, all memory objects ever allocated, the allocations and
the segment memories. What was destroyed leaves its place empty.
-/
structure PagingState where
  /-- `hw_caps.system_only` -/
  systemOnly : Bool
  pagingSegmentId : Nat
  osPageShift : Nat
  /-- `used_size` of each segment -/
  usedSize : Nat → Int
  usedPagesNum : Int
  fbPages : List MemoryObject
  systemPages : List MemoryObject
  allocations : List (Option PagedAllocation)
  segmentMemories : List (Option PagedSegmentMemory)

/-- How the inner steps of an eviction end. -/
structure EvictOutcome where
  getSystemPages : Bool
  buildPagingBuffer : Bool

/-- How the inner steps of a placement or a page-in end: which segments have room at first,
which allocations are evicted to make room, and which segments have room then.
-/
structure PageInOutcome where
  getSystemPages : Bool
  swapIn : Bool
  allocates : Nat → Bool
  evictions : List (Nat × EvictOutcome)
  allocatesAfter : Nat → Bool
  buildPagingBuffer : Bool

/-- How the inner steps of creating a segment memory end: with memory of a size, at first or
after evictions, after which a last pass may find nothing to evict.
-/
structure SegmentMemoryOutcome where
  allocates : Bool
  evictions : List (Nat × EvictOutcome)
  pagingResult : Bool
  allocatesAfter : Bool
  fbSize : U64

/-- What a call that builds a paging task leaves behind: its temporary allocations and its
result.
-/
structure PagingCall where
  state : PagingState
  tempAllocationSrc : Option PagedAllocation
  tempAllocationDst : Option PagedAllocation
  status : PagingStatus

/-- A temporary allocation of the size of another one. -/
def PagedAllocation.temp (allocation : PagedAllocation) (segmentId : Nat)
    (pagesMem fbPagesMem : Option Nat) : PagedAllocation where
  size := allocation.size
  segmentId := segmentId
  preferredSegment := []
  pagesMem := pagesMem
  fbPagesMem := fbPagesMem
  fileStorage := none
  global := allocation.global
  needSaveWhenAcpi := false
  tempUnpagable := 0

namespace PagingState

/-- `flags.local` of a segment, as `vidmm_init_segments_e3k` sets it. -/
def isLocal (state : PagingState) (segmentId : Nat) : Bool :=
  segmentId = segmentIdLocal && !state.systemOnly

/-- `page_num`. -/
def pageNum (state : PagingState) (size : U64) : U32 :=
  ((size + (1 <<< state.osPageShift) - 1) >>> state.osPageShift).setWidth 32

/-- The allocation at a position. -/
def allocation? (state : PagingState) (index : Nat) : Option PagedAllocation :=
  state.allocations[index]?.join

/-- Change the allocation at a position. -/
def setAllocation (state : PagingState) (index : Nat) (allocation : PagedAllocation)
    : PagingState :=
  { state with allocations := state.allocations.set index (some allocation) }

-----------------------------------------------------------------------------------------
-- Memory objects
-----------------------------------------------------------------------------------------

/-- A new object of local memory, the last one. -/
def newFbPages (state : PagingState) : PagingState :=
  { state with fbPages := state.fbPages ++ [⟨none, 0⟩] }

/-- A new object of system pages, the last one. -/
def newSystemPages (state : PagingState) : PagingState :=
  { state with systemPages := state.systemPages ++ [⟨none, 0⟩] }

/-- The ranges of an object of local memory are released. -/
def freeFbPages (state : PagingState) (memory : Nat) : PagingState :=
  { state with
    fbPages := state.fbPages.modify memory fun object =>
      { object with freed := object.freed + 1 } }

/-- `release_system_pages`. -/
def releaseSystemPages (state : PagingState) (memory : Nat) : PagingState :=
  { state with
    systemPages := state.systemPages.modify memory fun object =>
      { object with freed := object.freed + 1 } }

/-- `segment->used_size += size`. -/
def addUsedSize (state : PagingState) (segmentId : Nat) (size : Int) : PagingState :=
  { state with
    usedSize := Function.update state.usedSize segmentId (state.usedSize segmentId + size) }

/-- `mm_mgr->used_pages_num += page_num`. -/
def addUsedPages (state : PagingState) (pages : Int) : PagingState :=
  { state with usedPagesNum := state.usedPagesNum + pages }

/-- `vidmmi_release_video_memory`. -/
def vidmmiReleaseVideoMemory (state : PagingState) (allocation : PagedAllocation)
    : PagingState :=
  match allocation.fbPagesMem with
  | some memory =>
      (state.freeFbPages memory).addUsedSize allocation.segmentId (-allocation.size.toNat)
  | none => state

/-- `vidmmi_release_system_memory`. -/
def vidmmiReleaseSystemMemory (state : PagingState) (allocation : PagedAllocation)
    : PagingState :=
  match allocation.pagesMem with
  | some memory =>
      (state.releaseSystemPages memory).addUsedPages (-(state.pageNum allocation.size).toNat)
  | none => state

/-- `vidmm_destroy_allocation`, for a temporary allocation or for one that is not in the list
of allocations any more.
-/
def vidmmDestroyAllocation (state : PagingState) (allocation : PagedAllocation)
    : PagingState :=
  (state.vidmmiReleaseVideoMemory allocation).vidmmiReleaseSystemMemory allocation

/-- `vidmm_release_temp_paging_allocation`. -/
def vidmmReleaseTempPagingAllocation (state : PagingState)
    (tempAllocationSrc tempAllocationDst : Option PagedAllocation) : PagingState :=
  let released := tempAllocationSrc.elim state state.vidmmDestroyAllocation
  tempAllocationDst.elim released released.vidmmDestroyAllocation

/-- `vidmmi_allocate_fb_memory_try`: the first preferred local segment that has room. -/
def vidmmiAllocateFbMemoryTry (state : PagingState) (allocation : PagedAllocation)
    (allocates : Nat → Bool) : Option (PagingState × PagedAllocation) :=
  (allocation.preferredSegment.find? fun segmentId =>
    segmentId != segmentIdInvalid && state.isLocal segmentId && allocates segmentId).map
      fun segmentId =>
        (state.newFbPages,
          { allocation with segmentId, fbPagesMem := some state.fbPages.length })

-----------------------------------------------------------------------------------------
-- Paging out
-----------------------------------------------------------------------------------------

/-- `PAGING_OUT_SRC` of `vidmmi_create_temp_paging_allocation`. -/
def pagingOutSrc (allocation : PagedAllocation) : PagedAllocation :=
  allocation.temp allocation.segmentId none allocation.fbPagesMem

/-- `PAGING_OUT_DST` of `vidmmi_create_temp_paging_allocation`. -/
def pagingOutDst (state : PagingState) (allocation : PagedAllocation) (getSystemPages : Bool)
    : PagingState × Option PagedAllocation :=
  match allocation.pagesMem with
  | some memory => (state, some (allocation.temp state.pagingSegmentId (some memory) none))
  | none =>
      if getSystemPages then
        (state.newSystemPages.addUsedPages (state.pageNum allocation.size).toNat,
          some (allocation.temp state.pagingSegmentId (some state.systemPages.length) none))
      else (state, none)

/-- `vidmmi_paging_out`. -/
def vidmmiPagingOut (state : PagingState) (allocation : PagedAllocation) (saveRestore : Bool)
    (outcome : EvictOutcome) : PagingCall :=
  if !state.isLocal allocation.segmentId then ⟨state, none, none, .ok⟩
  else if allocation.global && !saveRestore then ⟨state, none, none, .unexpected⟩
  else if allocation.fbPagesMem.isNone then ⟨state, none, none, .unexpected⟩
  else if allocation.pagesMem.isSome then ⟨state, none, none, .unexpected⟩
  else
    let src := pagingOutSrc allocation
    match state.pagingOutDst allocation outcome.getSystemPages with
    | (state, none) => ⟨state, some src, none, .outOfMemory⟩
    | (state, some dst) =>
        ⟨state, some src, some dst, if outcome.buildPagingBuffer then .ok else .fail⟩

/-- The copy commands of a task from local memory to system pages are executed. -/
def copyOut (state : PagingState) (src dst : PagedAllocation) : PagingState :=
  match src.fbPagesMem, dst.pagesMem with
  | some source, some target =>
      { state with
        systemPages := state.systemPages.modify target fun object =>
          { object with data := state.fbPages[source]?.bind MemoryObject.data } }
  | _, _ => state

/-- `vidmmi_unresident_one_allocation`. -/
def vidmmiUnresidentOneAllocation (state : PagingState) (index : Nat)
    (allocation : PagedAllocation) (outcome : EvictOutcome)
    : Option (PagingState × PagingStatus) :=
  if 0 < allocation.tempUnpagable then some (state, .pageoutAllocationBusy)
  else if allocation.segmentId = segmentIdInvalid || !state.isLocal allocation.segmentId
      || allocation.global then
    some (state, .unexpected)
  else
    let call := state.vidmmiPagingOut allocation false outcome
    match call.status, call.tempAllocationSrc, call.tempAllocationDst with
    | .ok, some src, some dst =>
        let moved :=
          (call.state.copyOut src dst).setAllocation index
            { allocation with fbPagesMem := none, pagesMem := dst.pagesMem }
        some
          (moved.vidmmReleaseTempPagingAllocation (some src)
            (some { dst with pagesMem := none }), .ok)
    | .ok, _, _ => none
    | status, src, dst =>
        some
          (call.state.vidmmReleaseTempPagingAllocation
            (src.map fun src => { src with fbPagesMem := none }) dst, status)

/-- An eviction as `vidmm_unresident_one_allocation` does it: an evicted allocation goes to
the cache list. `vidmmi_segment_unresident_allocations` does so for one allocation after the
other.
-/
def vidmmUnresidentOneAllocation (state : PagingState) (index : Nat) (outcome : EvictOutcome)
    : Option (PagingState × PagingStatus) := do
  let allocation ← state.allocation? index
  let (state, status) ← state.vidmmiUnresidentOneAllocation index allocation outcome
  if status = .ok then
    let evicted ← state.allocation? index
    return (state.setAllocation index { evicted with segmentId := segmentIdInvalid }, .ok)
  else return (state, status)

/-- The evictions of `vidmmi_segment_unresident_allocations`. -/
def vidmmiSegmentUnresidentAllocations (state : PagingState)
    : List (Nat × EvictOutcome) → Option PagingState
  | [] => some state
  | (index, outcome) :: rest => do
      let (state, _) ← state.vidmmUnresidentOneAllocation index outcome
      state.vidmmiSegmentUnresidentAllocations rest

end PagingState

end Cx4Kernel.Vidmm
