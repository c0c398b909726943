import Cx4Kernel.Foundation.Bag
import Cx4Kernel.Vidmm.PagingIn

/-! What each call on the memory behind allocations can do, as one state change for each
outcome. Invariants are read off these changes.
-/

namespace Cx4Kernel.Vidmm.PagingState

open Cx4Kernel.Foundation

variable {state next : PagingState} {index : Nat} {allocation : PagedAllocation}
  {status : PagingStatus}

/-- The allocation at a position is there. -/
theorem getElem?_of_allocation? (h : state.allocation? index = some allocation)
    : state.allocations[index]? = some (some allocation) :=
  Option.join_eq_some_iff.mp h

theorem allocation?_of_getElem? (h : state.allocations[index]? = some (some allocation))
    : state.allocation? index = some allocation := by
  rw [allocation?, h]
  rfl

-----------------------------------------------------------------------------------------
-- Paging out
-----------------------------------------------------------------------------------------

/-- New system pages are given back at once. -/
def systemPagesDiscarded (state : PagingState) : PagingState :=
  { state with systemPages := state.systemPages ++ [⟨none, 1⟩] }

/-- Data of local memory is in new system pages, which are counted. -/
def copiedOut (state : PagingState) (allocation : PagedAllocation) (memory : Nat)
    : PagingState :=
  { state with
    usedPagesNum := state.usedPagesNum + (state.pageNum allocation.size).toNat
    systemPages := state.systemPages ++ [⟨state.fbPages[memory]?.bind MemoryObject.data, 0⟩] }

/-- An allocation is moved from local memory to new system pages, and is in a segment then. -/
def movedOut (state : PagingState) (index : Nat) (allocation : PagedAllocation) (memory : Nat)
    (segmentId : Nat) : PagingState :=
  ((state.copiedOut allocation memory).freeFbPages memory
    |>.addUsedSize allocation.segmentId (-allocation.size.toNat)).setAllocation index
      { allocation with
        segmentId
        pagesMem := some state.systemPages.length
        fbPagesMem := none }

/-- An allocation in local memory is copied to new system pages. -/
def saved (state : PagingState) (index : Nat) (allocation : PagedAllocation) (memory : Nat)
    : PagingState :=
  (state.copiedOut allocation memory).setAllocation index
    { allocation with pagesMem := some state.systemPages.length }

/-- An allocation may be paged out of its local memory. -/
structure PagesOut (state : PagingState) (allocation : PagedAllocation) (memory : Nat) : Prop
    where
  isLocal : state.isLocal allocation.segmentId
  fbPagesMem : allocation.fbPagesMem = some memory
  pagesMem : allocation.pagesMem = none

/-- Paging out stops before it takes anything, or has its source and new system pages, or
only its source.
-/
theorem vidmmiPagingOut_cases (saveRestore : Bool) (outcome : EvictOutcome)
    : (∃ status, state.vidmmiPagingOut allocation saveRestore outcome
          = ⟨state, none, none, status⟩)
      ∨ ∃ memory, state.PagesOut allocation memory
        ∧ (allocation.global = true → saveRestore = true)
        ∧ (state.vidmmiPagingOut allocation saveRestore outcome
            = ⟨state, some (pagingOutSrc allocation), none, .outOfMemory⟩
          ∨ ∃ status, (status = .ok ∨ status = .fail)
            ∧ state.vidmmiPagingOut allocation saveRestore outcome
            = ⟨state.newSystemPages.addUsedPages (state.pageNum allocation.size).toNat,
                some (pagingOutSrc allocation),
                some
                  (allocation.temp state.pagingSegmentId (some state.systemPages.length) none),
                status⟩) := by
  unfold vidmmiPagingOut
  split
  case isTrue => exact .inl ⟨_, rfl⟩
  case isFalse isLocal =>
    split
    case isTrue => exact .inl ⟨_, rfl⟩
    case isFalse shared =>
      cases fbPagesMem : allocation.fbPagesMem with
      | none => exact .inl ⟨_, rfl⟩
      | some memory =>
          cases pagesMem : allocation.pagesMem with
          | some pages => exact .inl ⟨_, rfl⟩
          | none =>
              have whole : allocation.global = true → saveRestore = true := by
                simpa using shared
              refine .inr ⟨memory, ⟨by simpa using isLocal, fbPagesMem, pagesMem⟩, whole, ?_⟩
              simp only [Option.isNone_some, Option.isSome_none, Bool.false_eq_true, if_false,
                pagingOutDst, pagesMem]
              cases outcome.getSystemPages with
              | false => exact .inl rfl
              | true =>
                  refine .inr ⟨if outcome.buildPagingBuffer then .ok else .fail, ?_, rfl⟩
                  cases outcome.buildPagingBuffer with
                  | false => exact .inr rfl
                  | true => exact .inl rfl

/-- The new system pages of a task that is given up are taken and given back. -/
theorem newSystemPages_released (pages : Int)
    : ((state.newSystemPages.addUsedPages pages).releaseSystemPages
        state.systemPages.length).addUsedPages (-pages)
      = state.systemPagesDiscarded := by
  simp only [newSystemPages, addUsedPages, releaseSystemPages, systemPagesDiscarded,
    Int.add_neg_cancel_right, Bag.modify_concat]

/-- The copy of local memory lands in the new system pages. -/
theorem copyOut_newSystemPages {memory : Nat} (out : state.PagesOut allocation memory)
    : (state.newSystemPages.addUsedPages (state.pageNum allocation.size).toNat).copyOut
        (pagingOutSrc allocation)
        (allocation.temp state.pagingSegmentId (some state.systemPages.length) none)
      = state.copiedOut allocation memory := by
  have held : (pagingOutSrc allocation).fbPagesMem = some memory := out.fbPagesMem
  simp only [copyOut, held, PagedAllocation.temp, newSystemPages, addUsedPages,
    Bag.modify_concat, copiedOut]

/-- What `vidmmi_unresident_one_allocation` can do: it moves the allocation to new system
pages, or it fails, and then at most system pages were taken and given back.
-/
theorem vidmmiUnresidentOneAllocation_cases {outcome : EvictOutcome}
    (h : state.vidmmiUnresidentOneAllocation index allocation outcome = some (next, status))
    : (status ≠ .ok ∧ (next = state ∨ next = state.systemPagesDiscarded))
      ∨ (status = .ok ∧ ∃ memory, state.PagesOut allocation memory
        ∧ next = state.movedOut index allocation memory allocation.segmentId) := by
  rw [vidmmiUnresidentOneAllocation] at h
  split at h
  case isTrue =>
    cases h
    exact .inl ⟨PagingStatus.noConfusion, .inl rfl⟩
  case isFalse =>
    split at h
    case isTrue =>
      cases h
      exact .inl ⟨PagingStatus.noConfusion, .inl rfl⟩
    case isFalse =>
      rcases @vidmmiPagingOut_cases state allocation false outcome with
        ⟨result, call⟩ | ⟨memory, out, _, call | ⟨result, ok | fail, call⟩⟩
      · rw [call] at h
        cases result with
        | ok => cases h
        | fail | outOfMemory | unexpected | pageoutAllocationBusy =>
            cases h
            exact .inl ⟨PagingStatus.noConfusion, .inl rfl⟩
      · rw [call] at h
        cases h
        exact .inl ⟨PagingStatus.noConfusion, .inl rfl⟩
      · rw [call, ok] at h
        cases h
        refine .inr ⟨rfl, memory, out, ?_⟩
        simp only [copyOut_newSystemPages out]
        simp only [Option.elim_some, vidmmReleaseTempPagingAllocation, vidmmDestroyAllocation,
          vidmmiReleaseVideoMemory, pagingOutSrc, out.fbPagesMem]
        rfl
      · rw [call, fail] at h
        cases h
        exact .inl ⟨PagingStatus.noConfusion, .inr (newSystemPages_released _)⟩

/-- The allocation at the position of the one that was set. -/
theorem allocation?_setAllocation {old : PagedAllocation}
    (h : state.allocation? index = some old) (new : PagedAllocation)
    : (state.setAllocation index new).allocation? index = some new := by
  have bound := (List.getElem?_eq_some_iff.mp (getElem?_of_allocation? h)).1
  exact allocation?_of_getElem? (List.getElem?_set_self bound)

/-- To set an allocation twice is to set it once. -/
theorem setAllocation_setAllocation (first second : PagedAllocation)
    : (state.setAllocation index first).setAllocation index second
      = state.setAllocation index second := by
  simp only [setAllocation, List.set_set]

/-- To set an allocation to what it is changes nothing. -/
theorem setAllocation_self (h : state.allocation? index = some allocation)
    : state.setAllocation index allocation = state := by
  obtain ⟨bound, at_⟩ := List.getElem?_eq_some_iff.mp (getElem?_of_allocation? h)
  rw [setAllocation, ← at_, List.set_getElem_self]

/-- What an eviction can do: it moves an allocation to new system pages and to the cache
list, or it fails, and then at most system pages were taken and given back.
-/
theorem vidmmUnresidentOneAllocation_cases {outcome : EvictOutcome}
    (h : state.vidmmUnresidentOneAllocation index outcome = some (next, status))
    : ∃ allocation, state.allocation? index = some allocation
      ∧ ((status ≠ .ok ∧ (next = state ∨ next = state.systemPagesDiscarded))
        ∨ (status = .ok ∧ ∃ memory, state.PagesOut allocation memory
          ∧ next = state.movedOut index allocation memory segmentIdInvalid)) := by
  rw [vidmmUnresidentOneAllocation] at h
  obtain ⟨allocation, found, h⟩ := Option.bind_eq_some_iff.mp h
  obtain ⟨⟨paged, result⟩, evicts, h⟩ := Option.bind_eq_some_iff.mp h
  refine ⟨allocation, found, ?_⟩
  rcases vidmmiUnresidentOneAllocation_cases evicts with
    ⟨failed, same⟩ | ⟨rfl, memory, out, rfl⟩
  · simp only [if_neg failed] at h
    cases h
    exact .inl ⟨failed, same⟩
  · refine .inr ?_
    simp only at h
    obtain ⟨moved, found', h⟩ := Option.bind_eq_some_iff.mp h
    obtain rfl := Option.some.inj ((allocation?_setAllocation found _).symm.trans found')
    cases h
    exact ⟨rfl, memory, out, setAllocation_setAllocation _ _⟩

/-- A property that every eviction keeps is kept by a series of them, by induction on it. -/
theorem evictions_invariant {property : PagingState → Prop}
    (kept : ∀ {before after : PagingState} {index : Nat} {outcome : EvictOutcome}
      {status : PagingStatus}, property before
      → before.vidmmUnresidentOneAllocation index outcome = some (after, status)
      → property after)
    {evictions : List (Nat × EvictOutcome)} (held : property state)
    (h : state.vidmmiSegmentUnresidentAllocations evictions = some next)
    : property next := by
  induction evictions generalizing state with
  | nil =>
      cases h
      exact held
  | cons eviction rest ih =>
      obtain ⟨⟨after, status⟩, evicts, h⟩ := Option.bind_eq_some_iff.mp h
      exact ih (kept held evicts) h

/-- What no call changes: which segments are local, where paging goes, and the page size. -/
def config (state : PagingState) : Bool × Nat × Nat :=
  (state.systemOnly, state.pagingSegmentId, state.osPageShift)

theorem isLocal_congr (h : next.config = state.config) (segmentId : Nat)
    : next.isLocal segmentId = state.isLocal segmentId := by
  simp only [config, Prod.mk.injEq] at h
  rw [isLocal, isLocal, h.1]

theorem pageNum_congr (h : next.config = state.config) (size : U64)
    : next.pageNum size = state.pageNum size := by
  simp only [config, Prod.mk.injEq] at h
  rw [pageNum, pageNum, h.2.2]

/-- An eviction leaves the configuration as it is. -/
theorem vidmmUnresidentOneAllocation_config {outcome : EvictOutcome}
    (h : state.vidmmUnresidentOneAllocation index outcome = some (next, status))
    : next.config = state.config := by
  obtain ⟨_, _, ⟨_, rfl | rfl⟩ | ⟨_, _, _, rfl⟩⟩ := vidmmUnresidentOneAllocation_cases h
  · rfl
  · rfl
  · rfl

/-- Evictions leave the configuration as it is. -/
theorem evictions_config {evictions : List (Nat × EvictOutcome)}
    (h : state.vidmmiSegmentUnresidentAllocations evictions = some next)
    : next.config = state.config := by
  refine @evictions_invariant state next (fun after => after.config = state.config) ?_ evictions
    rfl h
  intro before after index outcome status held evicts
  exact (vidmmUnresidentOneAllocation_config evicts).trans held

/-- Evictions do not touch an allocation that is not in local memory. -/
theorem evictions_remote {evictions : List (Nat × EvictOutcome)}
    (found : state.allocation? index = some allocation)
    (remote : state.isLocal allocation.segmentId = false)
    (h : state.vidmmiSegmentUnresidentAllocations evictions = some next)
    : next.allocation? index = some allocation := by
  have kept : next.allocation? index = some allocation ∧ next.config = state.config := by
    refine @evictions_invariant state next
      (fun after => after.allocation? index = some allocation ∧ after.config = state.config)
      ?_ evictions ⟨found, rfl⟩ h
    rintro before after other outcome status ⟨found', config⟩ evicts
    obtain ⟨evicted, at_, ⟨_, rfl | rfl⟩ | ⟨_, memory, out, rfl⟩⟩ :=
      vidmmUnresidentOneAllocation_cases evicts
    · exact ⟨found', config⟩
    · exact ⟨found', config⟩
    · refine ⟨?_, config⟩
      have different : other ≠ index := by
        rintro rfl
        obtain rfl := Option.some.inj (at_.symm.trans found')
        have isLocal := out.isLocal
        rw [isLocal_congr config, remote] at isLocal
        exact Bool.false_ne_true isLocal
      exact (congrArg Option.join (List.getElem?_set_ne different)).trans found'
  exact kept.1

/-- What `vidmm_save_allocation` can do: it copies the allocation to new system pages, or
nothing happens but that system pages may be taken and given back.
-/
theorem vidmmSaveAllocation_cases {outcome : EvictOutcome}
    (h : state.vidmmSaveAllocation index outcome = some (next, status))
    : ∃ allocation, state.allocation? index = some allocation
      ∧ (next = state ∨ next = state.systemPagesDiscarded
        ∨ ∃ memory, state.PagesOut allocation memory
          ∧ next = (state.copiedOut allocation memory).setAllocation index
            { allocation with pagesMem := some state.systemPages.length }) := by
  rw [vidmmSaveAllocation] at h
  obtain ⟨allocation, found, h⟩ := Option.bind_eq_some_iff.mp h
  refine ⟨allocation, found, ?_⟩
  split at h
  case isTrue =>
    cases h
    exact .inl rfl
  case isFalse =>
    rcases @vidmmiPagingOut_cases state allocation true outcome with
      ⟨result, call⟩ | ⟨memory, out, _, call | ⟨result, ok | fail, call⟩⟩
    · rw [call] at h
      cases result with
      | ok => cases h
      | fail | outOfMemory | unexpected | pageoutAllocationBusy =>
          cases h
          exact .inl rfl
    · rw [call] at h
      cases h
      exact .inl rfl
    · rw [call, ok] at h
      cases h
      refine .inr (.inr ⟨memory, out, ?_⟩)
      simp only [copyOut_newSystemPages out]
      rfl
    · rw [call, fail] at h
      cases h
      exact .inr (.inl (newSystemPages_released _))

-----------------------------------------------------------------------------------------
-- Paging in
-----------------------------------------------------------------------------------------

/-- Stored data is in new system pages, which are counted. -/
def storageRead (state : PagingState) (allocation : PagedAllocation) (data : Nat)
    : PagingState :=
  { state with
    usedPagesNum := state.usedPagesNum + (state.pageNum allocation.size).toNat
    systemPages := state.systemPages ++ [⟨some data, 0⟩] }

/-- The allocation that is paged in, with the state, after its pages were read back. -/
inductive SwapsIn (state : PagingState) (index : Nat) (allocation : PagedAllocation)
    : PagingState → PagedAllocation → Prop
  | kept : SwapsIn state index allocation state allocation
  | discarded : allocation.pagesMem = none
      → SwapsIn state index allocation state.systemPagesDiscarded allocation
  | readBack (data : Nat) : allocation.pagesMem = none → allocation.fileStorage = some data
      → SwapsIn state index allocation
        ((state.storageRead allocation data).setAllocation index
          { allocation with
            pagesMem := some state.systemPages.length
            fileStorage := none })
        { allocation with
          pagesMem := some state.systemPages.length
          fileStorage := none }

/-- The pages are read back, and without an error there are pages. -/
theorem swapIn_cases {outcome : PageInOutcome} {taken : PagingState}
    {read : PagedAllocation} (found : state.allocation? index = some allocation)
    (h : state.swapIn allocation outcome = some (taken, read, status))
    : state.SwapsIn index allocation (taken.setAllocation index read) read
      ∧ (status = .ok → read.pagesMem.isSome
        ∧ (allocation.pagesMem.isSome ∨ outcome.swapIn = true)) := by
  rw [swapIn] at h
  split at h
  case h_1 pages pagesMem =>
    cases h
    rw [setAllocation_self found]
    have held : allocation.pagesMem.isSome := by rw [pagesMem]; rfl
    exact ⟨.kept, fun _ => ⟨held, .inl held⟩⟩
  case h_2 =>
    cases h
    rw [setAllocation_self found]
    exact ⟨.kept, nofun⟩
  case h_3 data pagesMem fileStorage =>
    split at h
    case isTrue => cases h
    case isFalse =>
      split at h
      case isTrue =>
        cases h
        refine ⟨?_, nofun⟩
        have unread : ({ allocation with pagesMem := none } : PagedAllocation) = allocation := by
          rw [← pagesMem]
        have released := @newSystemPages_released state (state.pageNum allocation.size).toNat
        have same : state.systemPagesDiscarded.setAllocation index allocation
            = state.systemPagesDiscarded :=
          setAllocation_self found
        rw [unread]
        have discarded := @SwapsIn.discarded state index allocation pagesMem
        rw [← same, ← released] at discarded
        exact discarded
      case isFalse swapped =>
        cases h
        refine ⟨?_, fun _ => ⟨rfl, .inr (by simpa using swapped)⟩⟩
        have readBack := @SwapsIn.readBack state index allocation data pagesMem fileStorage
        simp only [newSystemPages, addUsedPages, Bag.modify_concat]
        exact readBack

/-- A local segment an allocation prefers has room, at first or after evictions. -/
structure HasRoom (state : PagingState) (allocation : PagedAllocation) (outcome : PageInOutcome)
    (segmentId : Nat) : Prop where
  preferred : segmentId ∈ allocation.preferredSegment
  valid : segmentId ≠ segmentIdInvalid
  isLocal : state.isLocal segmentId
  allocates : outcome.allocates segmentId ∨ outcome.allocatesAfter segmentId

/-- The temporary allocation in new local memory. -/
def newDst (state : PagingState) (allocation : PagedAllocation) (segmentId : Nat)
    : PagedAllocation :=
  { allocation.temp segmentId none (some state.fbPages.length) with
    preferredSegment := allocation.preferredSegment }

/-- Memory that is found for a temporary allocation is in a preferred local segment. -/
theorem vidmmiAllocateFbMemoryTry_cases {allocates : Nat → Bool} {temp : PagedAllocation}
    (h : state.vidmmiAllocateFbMemoryTry
        { allocation.temp segmentIdInvalid none none with
          preferredSegment := allocation.preferredSegment } allocates = some (next, temp))
    : next = state.newFbPages ∧ ∃ segmentId, temp = state.newDst allocation segmentId
      ∧ segmentId ∈ allocation.preferredSegment ∧ segmentId ≠ segmentIdInvalid
      ∧ state.isLocal segmentId ∧ allocates segmentId := by
  obtain ⟨segmentId, finds, taken⟩ := Option.map_eq_some_iff.mp h
  cases taken
  have holds := List.find?_some finds
  simp only [Bool.and_eq_true, bne_iff_ne] at holds
  exact ⟨rfl, segmentId, rfl, List.mem_of_find?_eq_some finds, holds.1.1, holds.1.2, holds.2⟩

/-- A task for new local memory has none, or some of a preferred segment, after evictions. -/
theorem pagingInDst_cases {outcome : PageInOutcome} {dst : Option PagedAllocation}
    (unplaced : allocation.fbPagesMem = none)
    (h : state.pagingInDst allocation outcome = some (next, dst))
    : ∃ evictions after, state.vidmmiSegmentUnresidentAllocations evictions = some after
      ∧ ((next = after ∧ dst = none)
        ∨ ∃ segmentId, state.HasRoom allocation outcome segmentId ∧ next = after.newFbPages
          ∧ dst = some (after.newDst allocation segmentId)) := by
  simp only [pagingInDst, unplaced] at h
  split at h
  case h_1 tries =>
    cases h
    obtain ⟨rfl, segmentId, rfl, preferred, valid, isLocal, allocates⟩ :=
      vidmmiAllocateFbMemoryTry_cases tries
    exact ⟨[], state, rfl, .inr ⟨segmentId, ⟨preferred, valid, isLocal, .inl allocates⟩,
      rfl, rfl⟩⟩
  case h_2 =>
    obtain ⟨after, evicts, h⟩ := Option.map_eq_some_iff.mp h
    refine ⟨outcome.evictions, after, evicts, ?_⟩
    split at h
    case h_1 tries =>
      cases h
      obtain ⟨rfl, segmentId, rfl, preferred, valid, isLocal, allocates⟩ :=
        vidmmiAllocateFbMemoryTry_cases tries
      have isLocal' : state.isLocal segmentId := by
        rw [← isLocal_congr (evictions_config evicts)]
        exact isLocal
      exact .inr ⟨segmentId, ⟨preferred, valid, isLocal', .inr allocates⟩, rfl, rfl⟩
    case h_2 =>
      cases h
      exact .inl ⟨rfl, rfl⟩

/-- How a task for paging in is built: not at all, with the local memory that the allocation
kept, or after evictions with new local memory or none.
-/
inductive PagingIn (state : PagingState) (allocation : PagedAllocation) (saveRestore : Bool)
    (outcome : PageInOutcome) (entered : PagingState) (read : PagedAllocation)
    : PagingCall → Prop
  | rejected (status : PagingStatus) : status ≠ .ok
      → PagingIn state allocation saveRestore outcome entered read
        ⟨entered, none, none, status⟩
  | kept (memory : Nat) : read.fbPagesMem = some memory → saveRestore = true
      → read.pagesMem.isSome → (allocation.pagesMem.isSome ∨ outcome.swapIn = true)
      → PagingIn state allocation saveRestore outcome entered read
        ⟨entered, some (entered.pagingInSrc read),
          some (read.temp read.segmentId none (some memory)),
          if outcome.buildPagingBuffer then .ok else .fail⟩
  | noRoom (evictions : List (Nat × EvictOutcome)) (after : PagingState)
      : read.fbPagesMem = none → read.pagesMem.isSome
      → entered.vidmmiSegmentUnresidentAllocations evictions = some after
      → PagingIn state allocation saveRestore outcome entered read
        ⟨after, some (entered.pagingInSrc read), none, .outOfMemory⟩
  | room (evictions : List (Nat × EvictOutcome)) (after : PagingState) (segmentId : Nat)
      : read.fbPagesMem = none → read.pagesMem.isSome
      → (allocation.pagesMem.isSome ∨ outcome.swapIn = true)
      → entered.vidmmiSegmentUnresidentAllocations evictions = some after
      → state.HasRoom allocation outcome segmentId
      → PagingIn state allocation saveRestore outcome entered read
        ⟨after.newFbPages, some (entered.pagingInSrc read),
          some (after.newDst read segmentId),
          if outcome.buildPagingBuffer then .ok else .fail⟩

/-- Reading the pages back changes neither the configuration nor what an allocation
prefers.
-/
theorem SwapsIn.frame {entered : PagingState} {read : PagedAllocation}
    (h : state.SwapsIn index allocation entered read)
    : entered.config = state.config ∧ read.preferredSegment = allocation.preferredSegment
      ∧ read.fbPagesMem = allocation.fbPagesMem ∧ read.segmentId = allocation.segmentId
      ∧ read.size = allocation.size ∧ read.global = allocation.global := by
  cases h with
  | kept => exact ⟨rfl, rfl, rfl, rfl, rfl, rfl⟩
  | discarded _ => exact ⟨rfl, rfl, rfl, rfl, rfl, rfl⟩
  | readBack data _ _ => exact ⟨rfl, rfl, rfl, rfl, rfl, rfl⟩

/-- The allocation that was read back is in its place. -/
theorem SwapsIn.found {entered : PagingState} {read : PagedAllocation}
    (h : state.SwapsIn index allocation entered read)
    (found : state.allocation? index = some allocation)
    : entered.allocation? index = some read := by
  cases h with
  | kept => exact found
  | discarded _ => exact found
  | readBack data _ _ => exact allocation?_setAllocation found _

/-- Pages that are there after reading back were there before, or in a file. -/
theorem SwapsIn.source {entered : PagingState} {read : PagedAllocation} {swapped : Prop}
    (h : state.SwapsIn index allocation entered read) (held : read.pagesMem.isSome)
    (from_ : allocation.pagesMem.isSome ∨ swapped)
    : allocation.pagesMem.isSome ∨ allocation.fileStorage.isSome ∧ swapped := by
  rcases from_ with pages | swapped
  · exact .inl pages
  · cases h with
    | kept => exact .inl held
    | discarded _ => exact .inl held
    | readBack data _ fileStorage => exact .inr ⟨by rw [fileStorage]; rfl, swapped⟩

/-- What `vidmmi_paging_in` can do: it reads the pages back, and then builds a task. -/
theorem vidmmiPagingIn_cases {saveRestore : Bool} {outcome : PageInOutcome} {call : PagingCall}
    (found : state.allocation? index = some allocation)
    (h : state.vidmmiPagingIn index allocation saveRestore outcome = some call)
    : ∃ entered read, state.SwapsIn index allocation entered read
      ∧ PagingIn state allocation saveRestore outcome entered read call := by
  rw [vidmmiPagingIn] at h
  split at h
  case h_1 => cases h
  case h_2 taken read status swaps =>
    obtain ⟨swapsIn, reads⟩ := swapIn_cases found swaps
    refine ⟨taken.setAllocation index read, read, swapsIn, ?_⟩
    obtain ⟨config, preferred, _⟩ := swapsIn.frame
    simp only at h
    split at h
    case isTrue failed =>
      cases h
      exact .rejected status failed
    case isFalse succeeded =>
      obtain ⟨held, from_⟩ := reads (not_not.mp succeeded)
      split at h
      case isTrue =>
        cases h
        exact .rejected _ PagingStatus.noConfusion
      case isFalse =>
        split at h
        case isTrue =>
          cases h
          exact .rejected _ PagingStatus.noConfusion
        case isFalse placed =>
          obtain ⟨⟨next, dst⟩, takes, h⟩ := Option.map_eq_some_iff.mp h
          cases video : read.fbPagesMem with
          | some memory =>
              simp only [pagingInDst, video] at takes
              cases takes
              cases h
              have restores : saveRestore = true := by
                simpa [video] using placed
              exact .kept memory video restores held from_
          | none =>
              obtain ⟨evictions, after, evicts, ⟨rfl, rfl⟩ | ⟨segmentId, room, rfl, rfl⟩⟩ :=
                pagingInDst_cases video takes
              · cases h
                exact .noRoom evictions next video held evicts
              · cases h
                have room' : state.HasRoom allocation outcome segmentId :=
                  ⟨preferred ▸ room.preferred, room.valid, isLocal_congr config _ ▸ room.isLocal,
                    room.allocates⟩
                exact .room evictions after segmentId video held from_ evicts room'

/-- There is one more object of local memory. -/
def withFbPages (state : PagingState) (object : MemoryObject) : PagingState :=
  { state with fbPages := state.fbPages ++ [object] }

/-- New local memory is given back at once. -/
def fbPagesDiscarded (state : PagingState) (segmentId : Nat) (size : U64) : PagingState :=
  (state.withFbPages ⟨none, 1⟩).addUsedSize segmentId (-size.toNat)

/-- System pages are given back, and are not counted any more. -/
def systemPagesReleased (state : PagingState) (allocation : PagedAllocation) (pages : Nat)
    : PagingState :=
  (state.releaseSystemPages pages).addUsedPages (-(state.pageNum allocation.size).toNat)

/-- An allocation is moved from system pages to new local memory of a segment. -/
def movedIn (state : PagingState) (index : Nat) (allocation read : PagedAllocation)
    (pages segmentId : Nat) : PagingState :=
  (state.withFbPages ⟨state.systemPages[pages]?.bind MemoryObject.data, 0⟩
    |>.systemPagesReleased read pages).setAllocation index
    { allocation with
      pagesMem := none
      fbPagesMem := some state.fbPages.length
      segmentId }

/-- A page-in gets as far as new local memory, of a segment that has room. -/
structure TakesLocal (state : PagingState) (allocation : PagedAllocation)
    (outcome : PageInOutcome) (segmentId : Nat) : Prop where
  global : allocation.global = false
  elsewhere : ¬ (state.pagingSegmentId ≠ segmentIdInvalid
    ∧ state.pagingSegmentId ∈ allocation.preferredSegment)
  fbPagesMem : allocation.fbPagesMem = none
  source : allocation.pagesMem.isSome ∨ allocation.fileStorage.isSome ∧ outcome.swapIn
  room : state.HasRoom allocation outcome segmentId

/-- What `vidmm_resident_one_allocation` can do, with the status it returns. -/
inductive Resident (state : PagingState) (index : Nat) (allocation : PagedAllocation)
    (outcome : PageInOutcome) : PagingState → PagingStatus → Prop
  | shared (status : PagingStatus) : status ≠ .ok
      → Resident state index allocation outcome state status
  | inSystem : state.pagingSegmentId ≠ segmentIdInvalid
      → allocation.segmentId = segmentIdInvalid
      → Resident state index allocation outcome
        (state.setAllocation index { allocation with segmentId := state.pagingSegmentId }) .ok
  | rejected (entered : PagingState) (read : PagedAllocation) (status : PagingStatus)
      : state.SwapsIn index allocation entered read → status ≠ .ok
      → Resident state index allocation outcome entered status
  | noRoom (entered : PagingState) (read : PagedAllocation)
      (evictions : List (Nat × EvictOutcome)) (after : PagingState) (status : PagingStatus)
      : state.SwapsIn index allocation entered read → read.fbPagesMem = none
      → entered.vidmmiSegmentUnresidentAllocations evictions = some after → status ≠ .ok
      → Resident state index allocation outcome after status
  | failed (entered : PagingState) (read : PagedAllocation)
      (evictions : List (Nat × EvictOutcome)) (after : PagingState) (segmentId : Nat)
      : state.SwapsIn index allocation entered read → read.fbPagesMem = none
      → entered.vidmmiSegmentUnresidentAllocations evictions = some after
      → state.TakesLocal allocation outcome segmentId
      → Resident state index allocation outcome (after.fbPagesDiscarded segmentId read.size)
        .fail
  | moved (entered : PagingState) (read : PagedAllocation)
      (evictions : List (Nat × EvictOutcome)) (after : PagingState) (segmentId : Nat)
      (pages : Nat) (moved : PagedAllocation)
      : state.SwapsIn index allocation entered read → read.fbPagesMem = none
      → read.pagesMem = some pages
      → entered.vidmmiSegmentUnresidentAllocations evictions = some after
      → state.TakesLocal allocation outcome segmentId
      → after.allocation? index = some moved
      → Resident state index allocation outcome (after.movedIn index moved read pages segmentId)
        .ok

/-- Making an allocation resident leaves the configuration as it is. -/
theorem Resident.config {outcome : PageInOutcome}
    (h : state.Resident index allocation outcome next status)
    : next.config = state.config := by
  cases h with
  | shared _ _ => rfl
  | inSystem _ _ => rfl
  | rejected _ read _ swaps _ => exact swaps.frame.1
  | noRoom entered read evictions _ _ swaps _ evicts _ =>
      exact (evictions_config evicts).trans swaps.frame.1
  | failed entered read evictions after segmentId swaps _ evicts _ =>
      exact (evictions_config evicts).trans swaps.frame.1
  | moved entered read evictions after segmentId pages moved swaps _ _ evicts _ _ =>
      exact (evictions_config evicts).trans swaps.frame.1

/-- The new local memory of a task that is given up is taken and given back. -/
theorem newFbPages_released (read : PagedAllocation) (segmentId : Nat)
    : state.newFbPages.vidmmReleaseTempPagingAllocation
        (some { state.pagingInSrc read with pagesMem := none })
        (some (state.newDst read segmentId))
      = state.fbPagesDiscarded segmentId read.size := by
  simp only [fbPagesDiscarded, withFbPages, ← Bag.modify_concat state.fbPages ⟨none, 0⟩
    fun object => { object with freed := object.freed + 1 }]
  rfl

/-- The copy of system pages lands in the new local memory. -/
theorem copyIn_newFbPages {src dst : PagedAllocation} {pages : Nat}
    (h : src.pagesMem = some pages) (h' : dst.fbPagesMem = some state.fbPages.length)
    : state.newFbPages.copyIn src dst
      = state.withFbPages ⟨state.systemPages[pages]?.bind MemoryObject.data, 0⟩ := by
  simp only [copyIn, h, h', newFbPages, Bag.modify_concat, withFbPages]

/-- What `vidmm_resident_one_allocation` does is one of these, by cases on its task. -/
theorem vidmmResidentOneAllocation_cases {outcome : PageInOutcome}
    (h : state.vidmmResidentOneAllocation index outcome = some (next, status))
    : ∃ allocation, state.allocation? index = some allocation
      ∧ state.Resident index allocation outcome next status := by
  rw [vidmmResidentOneAllocation] at h
  obtain ⟨allocation, found, h⟩ := Option.bind_eq_some_iff.mp h
  refine ⟨allocation, found, ?_⟩
  split at h
  case isTrue =>
    cases h
    exact .shared _ PagingStatus.noConfusion
  case isFalse own =>
    split at h
    case isTrue inSystem =>
      split at h
      case isTrue => cases h
      case isFalse cached =>
        cases h
        exact .inSystem inSystem.1 (not_not.mp cached)
    case isFalse elsewhere =>
      obtain ⟨call, pages, h⟩ := Option.bind_eq_some_iff.mp h
      obtain ⟨moved, found', h⟩ := Option.bind_eq_some_iff.mp h
      obtain ⟨entered, read, swaps, built⟩ := vidmmiPagingIn_cases found pages
      cases built with
      | rejected status failed =>
          cases status with
          | ok => exact absurd rfl failed
          | fail | outOfMemory | unexpected | pageoutAllocationBusy =>
              cases h
              exact .rejected entered read _ swaps PagingStatus.noConfusion
      | kept memory video restores held from_ => cases restores
      | noRoom evictions after video held evicts =>
          cases h
          exact .noRoom entered read evictions _ _ swaps video evicts PagingStatus.noConfusion
      | room evictions after segmentId video held from_ evicts room =>
          have takes : state.TakesLocal allocation outcome segmentId :=
            ⟨by simpa using own, elsewhere, swaps.frame.2.2.1.symm.trans video,
              swaps.source held from_, room⟩
          obtain ⟨pages, held⟩ := Option.isSome_iff_exists.mp held
          cases builds : outcome.buildPagingBuffer with
          | false =>
              simp only [builds, Bool.false_eq_true, if_false] at h
              cases h
              have failed := Resident.failed entered read evictions after segmentId swaps video
                evicts takes
              rw [← newFbPages_released] at failed
              exact failed
          | true =>
              simp only [builds, if_true] at h
              split at h
              case isTrue => cases h
              case isFalse =>
                cases h
                have resident := Resident.moved entered read evictions after segmentId pages moved
                  swaps video held evicts takes found'
                have copied : after.newFbPages.copyIn (entered.pagingInSrc read)
                      (after.newDst read segmentId)
                    = after.withFbPages
                      ⟨after.systemPages[pages]?.bind MemoryObject.data, 0⟩ :=
                  copyIn_newFbPages held rfl
                simp only [copied]
                simp only [vidmmReleaseTempPagingAllocation, Option.elim_some,
                  vidmmDestroyAllocation, vidmmiReleaseSystemMemory, pagingInSrc,
                  PagedAllocation.temp, held]
                exact resident

/-- An allocation is copied back from system pages to the local memory that it kept. -/
def movedBack (state : PagingState) (index : Nat) (allocation : PagedAllocation)
    (pages memory : Nat) : PagingState :=
  ({ state with
      fbPages := state.fbPages.modify memory fun object =>
        { object with data := state.systemPages[pages]?.bind MemoryObject.data }
    } : PagingState).systemPagesReleased allocation pages |>.setAllocation index
      { allocation with pagesMem := none }

/-- A restore has everything it needs but the copy commands. -/
structure LacksCommands (allocation : PagedAllocation) (outcome : PageInOutcome) : Prop where
  pagesMem : allocation.pagesMem.isSome ∨ allocation.fileStorage.isSome ∧ outcome.swapIn
  buildPagingBuffer : outcome.buildPagingBuffer = false

/-- What `vidmm_restore_allocation` can do to an allocation that kept its local memory. -/
inductive Restored (state : PagingState) (index : Nat) (allocation : PagedAllocation)
    (outcome : PageInOutcome) : PagingState → PagingStatus → Prop
  | elsewhere : Restored state index allocation outcome state .ok
  | flagged : Restored state index allocation outcome
      (state.setAllocation index { allocation with needSaveWhenAcpi := true }) .ok
  | rejected (entered : PagingState) (read : PagedAllocation) (status : PagingStatus)
      : state.SwapsIn index allocation entered read → status ≠ .ok
      → Restored state index allocation outcome entered status
  | failed (next : PagingState)
      : state.isLocal allocation.segmentId → allocation.needSaveWhenAcpi
      → LacksCommands allocation outcome
      → Restored state index allocation outcome next .fail
  | moved (entered : PagingState) (read : PagedAllocation) (pages memory : Nat)
      : state.isLocal allocation.segmentId → state.SwapsIn index allocation entered read
      → read.pagesMem = some pages → read.fbPagesMem = some memory
      → Restored state index allocation outcome (entered.movedBack index read pages memory) .ok

/-- What `vidmm_restore_allocation` does is one of these, by cases on its task. -/
theorem vidmmRestoreAllocation_cases {outcome : PageInOutcome}
    (placed : ∀ allocation, state.allocation? index = some allocation
      → state.isLocal allocation.segmentId → allocation.fbPagesMem.isSome)
    (h : state.vidmmRestoreAllocation index outcome = some (next, status))
    : ∃ allocation, state.allocation? index = some allocation
      ∧ state.Restored index allocation outcome next status := by
  rw [vidmmRestoreAllocation] at h
  obtain ⟨allocation, found, h⟩ := Option.bind_eq_some_iff.mp h
  refine ⟨allocation, found, ?_⟩
  split at h
  case isTrue =>
    cases h
    exact .elsewhere
  case isFalse elsewhere =>
    have isLocal : state.isLocal allocation.segmentId := by
      by_contra remote
      exact elsewhere (by simp [remote])
    obtain ⟨memory, video⟩ := Option.isSome_iff_exists.mp (placed allocation found isLocal)
    split at h
    case isTrue =>
      cases h
      exact .flagged
    case isFalse needed =>
      obtain ⟨call, pages, h⟩ := Option.bind_eq_some_iff.mp h
      obtain ⟨moved, found', h⟩ := Option.bind_eq_some_iff.mp h
      obtain ⟨entered, read, swaps, built⟩ := vidmmiPagingIn_cases found pages
      have video' := swaps.frame.2.2.1.trans video
      cases built with
      | rejected status failed =>
          cases status with
          | ok => exact absurd rfl failed
          | fail | outOfMemory | unexpected | pageoutAllocationBusy =>
              cases h
              exact .rejected entered read _ swaps PagingStatus.noConfusion
      | noRoom evictions after none _ _ => cases none.symm.trans video'
      | room evictions after segmentId none _ _ _ _ => cases none.symm.trans video'
      | kept memory' kept _ held from_ =>
          obtain rfl := Option.some.inj (kept.symm.trans video')
          obtain ⟨source, held'⟩ := Option.isSome_iff_exists.mp held
          cases builds : outcome.buildPagingBuffer with
          | false =>
              simp only [builds, Bool.false_eq_true, if_false] at h
              cases h
              exact .failed _ isLocal (by simpa using needed) ⟨swaps.source held from_, builds⟩
          | true =>
              simp only [builds, if_true] at h
              cases h
              obtain rfl := Option.some.inj ((swaps.found found).symm.trans found')
              have restored := @Restored.moved state index allocation outcome entered read source
                memory' isLocal swaps held' kept
              have copied : entered.copyIn (entered.pagingInSrc read)
                    (read.temp read.segmentId none (some memory'))
                  = { entered with
                      fbPages := entered.fbPages.modify memory' fun object =>
                        { object with
                          data := entered.systemPages[source]?.bind MemoryObject.data } } := by
                simp only [copyIn, pagingInSrc, PagedAllocation.temp, held']
              simp only [copied]
              simp only [vidmmReleaseTempPagingAllocation, Option.elim_some,
                vidmmDestroyAllocation, vidmmiReleaseSystemMemory, pagingInSrc,
                PagedAllocation.temp, held']
              exact restored

end Cx4Kernel.Vidmm.PagingState
