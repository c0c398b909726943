import Cx4Kernel.Vidmm.Paging

/-! Page-in, save and restore of allocations, their first placement, and segment memories, from
`vidmm_allocate.c` and `vidmm_paging.c`.
-/

namespace Cx4Kernel.Vidmm.PagingState

/-- The pages of a swapped out allocation are read back, at the head of `vidmmi_paging_in`.
Without pages to read them into an assertion fails.
-/
def swapIn (state : PagingState) (allocation : PagedAllocation) (outcome : PageInOutcome)
    : Option (PagingState × PagedAllocation × PagingStatus) :=
  match allocation.pagesMem, allocation.fileStorage with
  | some _, _ => some (state, allocation, .ok)
  | none, none => some (state, allocation, .unexpected)
  | none, some data =>
      if !outcome.getSystemPages then none
      else
        let memory := state.systemPages.length
        let taken := state.newSystemPages.addUsedPages (state.pageNum allocation.size).toNat
        let allocation := { allocation with pagesMem := some memory }
        if !outcome.swapIn then
          some
            (taken.vidmmiReleaseSystemMemory allocation, { allocation with pagesMem := none },
              .outOfMemory)
        else
          some
            ({ taken with
                systemPages := taken.systemPages.modify memory fun object =>
                  { object with data := some data } },
              { allocation with fileStorage := none }, .ok)

/-- `PAGING_IN_SRC` of `vidmmi_create_temp_paging_allocation`. -/
def pagingInSrc (state : PagingState) (allocation : PagedAllocation) : PagedAllocation :=
  allocation.temp state.pagingSegmentId allocation.pagesMem none

/-- `PAGING_IN_DST` of `vidmmi_create_temp_paging_allocation`: local memory that the
allocation kept, or new one, for which other allocations may be evicted.
-/
def pagingInDst (state : PagingState) (allocation : PagedAllocation) (outcome : PageInOutcome)
    : Option (PagingState × Option PagedAllocation) :=
  match allocation.fbPagesMem with
  | some memory =>
      some (state, some (allocation.temp allocation.segmentId none (some memory)))
  | none =>
      let temp :=
        { allocation.temp segmentIdInvalid none none with
          preferredSegment := allocation.preferredSegment }
      match state.vidmmiAllocateFbMemoryTry temp outcome.allocates with
      | some (state, temp) => some (state, some temp)
      | none =>
          (state.vidmmiSegmentUnresidentAllocations outcome.evictions).map fun state =>
            match state.vidmmiAllocateFbMemoryTry temp outcome.allocatesAfter with
            | some (state, temp) => (state, some temp)
            | none => (state, none)

/-- `vidmmi_paging_in`. -/
def vidmmiPagingIn (state : PagingState) (index : Nat) (allocation : PagedAllocation)
    (saveRestore : Bool) (outcome : PageInOutcome) : Option PagingCall :=
  match state.swapIn allocation outcome with
  | none => none
  | some (state, allocation, status) =>
      let state := state.setAllocation index allocation
      if status ≠ .ok then some ⟨state, none, none, status⟩
      else if allocation.global && (!saveRestore || allocation.fbPagesMem.isNone) then
        some ⟨state, none, none, .unexpected⟩
      else if allocation.fbPagesMem.isSome && !saveRestore then
        some ⟨state, none, none, .unexpected⟩
      else
        let src := state.pagingInSrc allocation
        (state.pagingInDst allocation outcome).map fun
          | (state, none) => ⟨state, some src, none, .outOfMemory⟩
          | (state, some dst) =>
              ⟨state, some src, some dst, if outcome.buildPagingBuffer then .ok else .fail⟩

/-- The copy commands of a task from system pages to local memory are executed. -/
def copyIn (state : PagingState) (src dst : PagedAllocation) : PagingState :=
  match src.pagesMem, dst.fbPagesMem with
  | some source, some target =>
      { state with
        fbPages := state.fbPages.modify target fun object =>
          { object with data := state.systemPages[source]?.bind MemoryObject.data } }
  | _, _ => state

/-- `vidmm_resident_one_allocation`. Only an allocation of the cache list may be taken off it. -/
def vidmmResidentOneAllocation (state : PagingState) (index : Nat) (outcome : PageInOutcome)
    : Option (PagingState × PagingStatus) := do
  let allocation ← state.allocation? index
  if allocation.global then return (state, .unexpected)
  else if state.pagingSegmentId ≠ segmentIdInvalid
      ∧ state.pagingSegmentId ∈ allocation.preferredSegment then
    if allocation.segmentId ≠ segmentIdInvalid then none
    else
      some
        (state.setAllocation index { allocation with segmentId := state.pagingSegmentId }, .ok)
  else
    let call ← state.vidmmiPagingIn index allocation false outcome
    let allocation ← call.state.allocation? index
    match call.status, call.tempAllocationSrc, call.tempAllocationDst with
    | .ok, some src, some dst =>
        if allocation.segmentId ≠ segmentIdInvalid then none
        else
          let moved :=
            (call.state.copyIn src dst).setAllocation index
              { allocation with
                pagesMem := none
                fbPagesMem := dst.fbPagesMem
                segmentId := dst.segmentId }
          some
            (moved.vidmmReleaseTempPagingAllocation (some src)
              (some { dst with fbPagesMem := none }), .ok)
    | .ok, _, _ => none
    | status, src, dst =>
        some
          (call.state.vidmmReleaseTempPagingAllocation
            (src.map fun src => { src with pagesMem := none }) dst, status)

-----------------------------------------------------------------------------------------
-- Save and restore
-----------------------------------------------------------------------------------------

/-- `vidmm_save_allocation`, where `vidmmi_prepare_allocation_by_gpu` does the work. -/
def vidmmSaveAllocation (state : PagingState) (index : Nat) (outcome : EvictOutcome)
    : Option (PagingState × PagingStatus) := do
  let allocation ← state.allocation? index
  if allocation.pagesMem.isSome || !allocation.needSaveWhenAcpi then return (state, .ok)
  else
    let call := state.vidmmiPagingOut allocation true outcome
    match call.status, call.tempAllocationSrc, call.tempAllocationDst with
    | .ok, some src, some dst =>
        let saved :=
          (call.state.copyOut src dst).setAllocation index
            { allocation with pagesMem := dst.pagesMem }
        some
          (saved.vidmmReleaseTempPagingAllocation (some { src with fbPagesMem := none })
            (some { dst with pagesMem := none }), .ok)
    | .ok, _, _ => none
    | status, src, dst =>
        some
          (call.state.vidmmReleaseTempPagingAllocation
            (src.map fun src => { src with fbPagesMem := none }) dst, status)

/-- `vidmm_restore_allocation`, where `vidmmi_prepare_allocation_by_gpu` does the work. If it
fails, only the source gives its memory up.
-/
def vidmmRestoreAllocation (state : PagingState) (index : Nat) (outcome : PageInOutcome)
    : Option (PagingState × PagingStatus) := do
  let allocation ← state.allocation? index
  if allocation.segmentId = segmentIdInvalid || !state.isLocal allocation.segmentId then
    return (state, .ok)
  else if !allocation.needSaveWhenAcpi then
    return (state.setAllocation index { allocation with needSaveWhenAcpi := true }, .ok)
  else
    let call ← state.vidmmiPagingIn index allocation true outcome
    let allocation ← call.state.allocation? index
    match call.status, call.tempAllocationSrc, call.tempAllocationDst with
    | .ok, some src, some dst =>
        let restored :=
          (call.state.copyIn src dst).setAllocation index { allocation with pagesMem := none }
        some
          (restored.vidmmReleaseTempPagingAllocation (some src)
            (some { dst with fbPagesMem := none }), .ok)
    | .ok, _, _ => none
    | status, src, dst =>
        some
          (call.state.vidmmReleaseTempPagingAllocation
            (src.map fun src => { src with pagesMem := none }) dst, status)

-----------------------------------------------------------------------------------------
-- Placement
-----------------------------------------------------------------------------------------

/-- `vidmm_create_allocation`: a new allocation, the last one, without memory. -/
def vidmmCreateAllocation (state : PagingState) (size : U64) (preferredSegment : List Nat)
    (global : Bool) : PagingState :=
  { state with
    allocations := state.allocations ++
      [some
        { size
          segmentId := segmentIdInvalid
          preferredSegment
          pagesMem := none
          fbPagesMem := none
          fileStorage := none
          global
          needSaveWhenAcpi := false
          tempUnpagable := 0 }] }

/-- The segment where `vidmm_allocate_physical_memory` finds room, the first preferred one. -/
def segmentWithRoom (allocation : PagedAllocation) (allocates : Nat → Bool) : Option Nat :=
  allocation.preferredSegment.find? fun segmentId =>
    segmentId != segmentIdInvalid && allocates segmentId

/-- `vidmmi_allocate_physical_memory`, where it succeeds. -/
def vidmmiAllocatePhysicalMemory (state : PagingState) (index : Nat)
    (allocation : PagedAllocation) (segmentId : Nat) : PagingState :=
  if state.isLocal segmentId then
    (state.newFbPages.setAllocation index
      { allocation with
        segmentId
        fbPagesMem := some state.fbPages.length }).addUsedSize segmentId allocation.size.toNat
  else
    state.newSystemPages.setAllocation index
      { allocation with
        segmentId
        pagesMem := some state.systemPages.length }

/-- `vidmm_allocate_physical_memory`. -/
def vidmmAllocatePhysicalMemory (state : PagingState) (index : Nat)
    (allocation : PagedAllocation) (allocates : Nat → Bool) : PagingState × PagingStatus :=
  match segmentWithRoom allocation allocates with
  | some segmentId => (state.vidmmiAllocatePhysicalMemory index allocation segmentId, .ok)
  | none => (state, .outOfMemory)

/-- `vidmm_make_resident_locked`. -/
def vidmmMakeResidentLocked (state : PagingState) (index : Nat) (outcome : PageInOutcome)
    : Option (PagingState × PagingStatus) := do
  let allocation ← state.allocation? index
  if 0 < allocation.segmentId then return (state, .ok)
  else if allocation.fileStorage.isSome || allocation.pagesMem.isSome then
    state.vidmmResidentOneAllocation index outcome
  else if allocation.fbPagesMem.isSome then return (state, .ok)
  else
    match segmentWithRoom allocation outcome.allocates with
    | some segmentId =>
        return (state.vidmmiAllocatePhysicalMemory index allocation segmentId, .ok)
    | none =>
        let state ← state.vidmmiSegmentUnresidentAllocations outcome.evictions
        return state.vidmmAllocatePhysicalMemory index allocation outcome.allocatesAfter

/-- `vidmm_destroy_allocation` of an allocation. -/
def vidmmDestroyAllocationAt (state : PagingState) (index : Nat) : Option PagingState := do
  let allocation ← state.allocation? index
  return { state with allocations := state.allocations.set index none }.vidmmDestroyAllocation
    allocation

-----------------------------------------------------------------------------------------
-- Segment memories
-----------------------------------------------------------------------------------------

/-- `util_align` of a 64-bit size to a 32-bit page size: its mask is a 32-bit number. -/
def utilAlign (size : U64) (align : U32) : U64 :=
  (size + align.setWidth 64 - 1) &&& (~~~(align - 1)).setWidth 64

/-- A new segment memory, the last one. -/
def addSegmentMemory (state : PagingState) (memory : PagedSegmentMemory) : PagingState :=
  { state with segmentMemories := state.segmentMemories ++ [some memory] }.addUsedSize
    memory.segmentId memory.size.toNat

/-- A new segment memory in local memory. -/
def addLocalSegmentMemory (state : PagingState) (segmentId : Nat) (fbSize : U64)
    : PagingState :=
  state.newFbPages.addSegmentMemory ⟨segmentId, fbSize, true, some state.fbPages.length⟩

/-- `vidmm_create_segment_memory`. If the last pass of evictions fails, the segment memory
is made without any memory.
-/
def vidmmCreateSegmentMemory (state : PagingState) (segmentId : Nat) (size : U64)
    (outcome : SegmentMemoryOutcome) : Option PagingState := do
  if !state.isLocal segmentId then
    if outcome.allocates then
      return state.newSystemPages.addSegmentMemory
        ⟨segmentId, utilAlign size (1 <<< state.osPageShift), false,
          some state.systemPages.length⟩
    else return state
  else if outcome.allocates then return state.addLocalSegmentMemory segmentId outcome.fbSize
  else
    let state ← state.vidmmiSegmentUnresidentAllocations outcome.evictions
    if !outcome.pagingResult then
      return state.addSegmentMemory ⟨segmentId, 0, false, none⟩
    else if outcome.allocatesAfter then
      return state.addLocalSegmentMemory segmentId outcome.fbSize
    else return state

/-- `vidmm_destroy_segment_memory`. -/
def vidmmDestroySegmentMemory (state : PagingState) (index : Nat) : Option PagingState := do
  let segmentMemory ← state.segmentMemories[index]?.join
  let memory ← segmentMemory.memory
  let removed := { state with segmentMemories := state.segmentMemories.set index none }
  let released :=
    if segmentMemory.isLocal then removed.freeFbPages memory
    else removed.releaseSystemPages memory
  return released.addUsedSize segmentMemory.segmentId (-segmentMemory.size.toNat)

end Cx4Kernel.Vidmm.PagingState
