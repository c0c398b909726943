import Cx4Kernel.Vidmm.PagingSteps

/-! The used size of local segments and the number of used system pages over whole runs.
Allocations and segment memories are counted where they live, as long as no allocation is
first placed in system pages or paged in to local memory: those calls do not count.
-/

namespace Cx4Kernel.Vidmm

open Cx4Kernel.Foundation

/-- The calls that move memory. -/
inductive PagingAction where
  | createAllocation (size : U64) (preferredSegment : List Nat) (global : Bool)
  | makeResident (index : Nat) (outcome : PageInOutcome)
  | pageIn (index : Nat) (outcome : PageInOutcome)
  | evict (index : Nat) (outcome : EvictOutcome)
  | destroyAllocation (index : Nat)
  | createSegmentMemory (segmentId : Nat) (size : U64) (outcome : SegmentMemoryOutcome)
  | destroySegmentMemory (index : Nat)

namespace PagingState

/-- Before any memory is used. -/
def start (systemOnly snoopOnly : Bool) (osPageShift : Nat) : PagingState where
  systemOnly := systemOnly
  pagingSegmentId := if snoopOnly then segmentIdPcieSnoopable else segmentIdPcieUnsnoopable
  osPageShift := osPageShift
  usedSize := fun _ => 0
  usedPagesNum := 0
  fbPages := []
  systemPages := []
  allocations := []
  segmentMemories := []

/-- One call. -/
def next (state : PagingState) : PagingAction → Option PagingState
  | .createAllocation size preferredSegment global =>
      some (state.vidmmCreateAllocation size preferredSegment global)
  | .makeResident index outcome => (state.vidmmMakeResidentLocked index outcome).map Prod.fst
  | .pageIn index outcome => (state.vidmmResidentOneAllocation index outcome).map Prod.fst
  | .evict index outcome => (state.vidmmUnresidentOneAllocation index outcome).map Prod.fst
  | .destroyAllocation index => state.vidmmDestroyAllocationAt index
  | .createSegmentMemory segmentId size outcome =>
      state.vidmmCreateSegmentMemory segmentId size outcome
  | .destroySegmentMemory index => state.vidmmDestroySegmentMemory index

/-- All runs of calls. -/
def countSystem : System PagingState PagingAction :=
  .ofFunction
    (fun state => ∃ systemOnly snoopOnly osPageShift,
      state = start systemOnly snoopOnly osPageShift)
    next

-----------------------------------------------------------------------------------------
-- What is counted
-----------------------------------------------------------------------------------------

/-- The size of an allocation that has local memory of a segment. -/
def videoBytes (segmentId : Nat) (entry : Option PagedAllocation) : Nat :=
  entry.elim 0 fun allocation =>
    if allocation.fbPagesMem.isSome ∧ allocation.segmentId = segmentId then
      allocation.size.toNat
    else 0

/-- The page count of an allocation that has system pages. -/
def heldPages (state : PagingState) (entry : Option PagedAllocation) : Nat :=
  entry.elim 0 fun allocation =>
    if allocation.pagesMem.isSome then (state.pageNum allocation.size).toNat else 0

/-- The size of a segment memory of a segment. -/
def segmentBytes (segmentId : Nat) (entry : Option PagedSegmentMemory) : Nat :=
  entry.elim 0 fun memory => if memory.segmentId = segmentId then memory.size.toNat else 0

/-- The counters say what is used. -/
structure Exact (state : PagingState) : Prop where
  usedSize : ∀ segmentId, state.isLocal segmentId → state.usedSize segmentId
    = ((state.allocations.map (videoBytes segmentId)).sum
      + (state.segmentMemories.map (segmentBytes segmentId)).sum : Nat)
  usedPagesNum : state.usedPagesNum = ((state.allocations.map state.heldPages).sum : Nat)

variable {state after : PagingState} {index : Nat} {allocation : PagedAllocation}

/-- How many pages an allocation holds depends on the page size only. -/
theorem heldPages_congr (h : after.config = state.config) : after.heldPages = state.heldPages := by
  funext entry
  cases entry with
  | none => rfl
  | some allocation => simp only [heldPages, Option.elim_some, pageNum_congr h]

/-- A call that replaces one allocation keeps the counters exact if they change by what the
allocation holds more or less.
-/
theorem Exact.replaced {old new : Option PagedAllocation} (exact : state.Exact)
    (found : state.allocations[index]? = some old) (config : after.config = state.config)
    (allocations : after.allocations = state.allocations.set index new)
    (memories : after.segmentMemories = state.segmentMemories)
    (usedSize : ∀ segmentId, state.isLocal segmentId
      → after.usedSize segmentId + videoBytes segmentId old
        = state.usedSize segmentId + videoBytes segmentId new)
    (usedPagesNum : after.usedPagesNum + state.heldPages old
      = state.usedPagesNum + state.heldPages new)
    : after.Exact := by
  constructor
  · intro segmentId isLocal
    rw [isLocal_congr config] at isLocal
    have counted := exact.usedSize segmentId isLocal
    have changed := usedSize segmentId isLocal
    have total := Bag.sum_map_set found new (videoBytes segmentId)
    rw [allocations, memories]
    omega
  · have counted := exact.usedPagesNum
    have total := Bag.sum_map_set found new state.heldPages
    rw [allocations, heldPages_congr config]
    omega

/-- The used size of a segment after that of one segment was changed. -/
theorem usedSize_addUsedSize (segmentId other : Nat) (size : Int)
    : (state.addUsedSize segmentId size).usedSize other
      = state.usedSize other + if segmentId = other then size else 0 := by
  refine (Function.update_apply _ _ _ _).trans ?_
  split
  case isTrue same =>
    subst same
    rw [if_pos rfl]
  case isFalse different => rw [if_neg (Ne.symm different), Int.add_zero]

/-- What an allocation with local memory holds. -/
theorem videoBytes_some (segmentId : Nat) (h : allocation.fbPagesMem.isSome)
    : videoBytes segmentId (some allocation)
      = if allocation.segmentId = segmentId then allocation.size.toNat else 0 := by
  simp only [videoBytes, Option.elim_some, h, true_and]

/-- An allocation without local memory holds none. -/
theorem videoBytes_none (segmentId : Nat) (h : allocation.fbPagesMem = none)
    : videoBytes segmentId (some allocation) = 0 := by
  rw [videoBytes, Option.elim_some, h]
  exact if_neg fun both => Bool.false_ne_true both.1

/-- What an allocation with system pages holds. -/
theorem heldPages_some (h : allocation.pagesMem.isSome)
    : state.heldPages (some allocation) = (state.pageNum allocation.size).toNat := by
  rw [heldPages, Option.elim_some, if_pos h]

/-- An allocation without system pages holds none. -/
theorem heldPages_none (h : allocation.pagesMem = none)
    : state.heldPages (some allocation) = 0 := by
  rw [heldPages, Option.elim_some, h]
  exact if_neg Bool.false_ne_true

/-- System pages that are taken and given back are not counted. -/
theorem Exact.systemPagesDiscarded (exact : state.Exact) : state.systemPagesDiscarded.Exact :=
  ⟨exact.usedSize, exact.usedPagesNum⟩

/-- Evicting one allocation keeps the counters exact. -/
theorem Exact.evicted {outcome : EvictOutcome} {status : PagingStatus} (exact : state.Exact)
    (h : state.vidmmUnresidentOneAllocation index outcome = some (after, status))
    : after.Exact := by
  obtain ⟨allocation, found, ⟨_, rfl | rfl⟩ | ⟨_, memory, out, rfl⟩⟩ :=
    vidmmUnresidentOneAllocation_cases h
  · exact exact
  · exact exact.systemPagesDiscarded
  · refine exact.replaced (getElem?_of_allocation? found) rfl rfl rfl ?_ ?_
    · intro segmentId _
      have held : allocation.fbPagesMem.isSome := by rw [out.fbPagesMem]; rfl
      have released := @usedSize_addUsedSize state allocation.segmentId segmentId
        (-allocation.size.toNat)
      rw [videoBytes_some segmentId held, videoBytes_none segmentId rfl]
      refine (congrArg (· + _) released).trans ?_
      split <;> omega
    · rw [heldPages_none out.pagesMem]
      exact Int.add_zero _

/-- Evictions keep the counters exact. -/
theorem Exact.evictions {evictions : List (Nat × EvictOutcome)} (exact : state.Exact)
    (h : state.vidmmiSegmentUnresidentAllocations evictions = some after)
    : after.Exact :=
  evictions_invariant (fun exact evicts => Exact.evicted exact evicts) exact h

/-- Reading pages back keeps the counters exact. -/
theorem Exact.swapsIn {read : PagedAllocation} (exact : state.Exact)
    (found : state.allocation? index = some allocation)
    (h : state.SwapsIn index allocation after read)
    : after.Exact := by
  cases h with
  | kept => exact exact
  | discarded _ => exact exact.systemPagesDiscarded
  | readBack data pagesMem _ =>
      refine exact.replaced (getElem?_of_allocation? found) rfl rfl rfl (fun _ _ => rfl) ?_
      rw [heldPages_none pagesMem]
      exact Int.add_zero _

/-- A page-in that takes no local memory keeps the counters exact. -/
theorem Exact.resident {outcome : PageInOutcome} {status : PagingStatus} (exact : state.Exact)
    (paging : state.isLocal state.pagingSegmentId = false)
    (found : state.allocation? index = some allocation)
    (permitted : ∀ segmentId, ¬ state.TakesLocal allocation outcome segmentId)
    (h : state.Resident index allocation outcome after status)
    : after.Exact := by
  cases h with
  | shared _ _ => exact exact
  | inSystem valid cached =>
      refine exact.replaced (getElem?_of_allocation? found) rfl rfl rfl ?_ rfl
      intro segmentId isLocal
      have before : allocation.segmentId ≠ segmentId := by
        rintro rfl
        rw [cached] at isLocal
        exact Bool.false_ne_true isLocal
      have after : state.pagingSegmentId ≠ segmentId := by
        rintro rfl
        exact Bool.false_ne_true (paging.symm.trans isLocal)
      simp only [videoBytes, Option.elim_some, before, after, and_false, if_false]
      rfl
  | rejected _ read _ swaps _ => exact exact.swapsIn found swaps
  | noRoom entered read evictions _ _ swaps _ evicts _ =>
      exact (exact.swapsIn found swaps).evictions evicts
  | failed _ _ _ _ segmentId _ _ _ takes => exact absurd takes (permitted segmentId)
  | moved _ _ _ _ segmentId _ _ _ _ _ _ takes _ => exact absurd takes (permitted segmentId)

/-- A first placement in local memory keeps the counters exact. -/
theorem Exact.placed {segmentId : Nat} (exact : state.Exact)
    (found : state.allocation? index = some allocation) (isLocal : state.isLocal segmentId)
    (pagesMem : allocation.pagesMem = none) (fbPagesMem : allocation.fbPagesMem = none)
    : (state.vidmmiAllocatePhysicalMemory index allocation segmentId).Exact := by
  rw [vidmmiAllocatePhysicalMemory, if_pos isLocal]
  refine exact.replaced (getElem?_of_allocation? found) rfl rfl rfl ?_ ?_
  · intro other _
    have taken := @usedSize_addUsedSize state segmentId other allocation.size.toNat
    rw [videoBytes_none other fbPagesMem]
    refine (Int.add_zero _).trans (taken.trans ?_)
    simp only [videoBytes, Option.elim_some, Option.isSome_some, true_and, Nat.cast_ite,
      Nat.cast_zero]
  · simp only [heldPages, Option.elim_some, pagesMem]
    rfl

/-- What releasing an allocation takes off the used size of a segment. -/
theorem vidmmDestroyAllocation_usedSize (segmentId : Nat)
    : (state.vidmmDestroyAllocation allocation).usedSize segmentId
        + videoBytes segmentId (some allocation)
      = state.usedSize segmentId := by
  have released : (state.vidmmDestroyAllocation allocation).usedSize segmentId
      = (state.vidmmiReleaseVideoMemory allocation).usedSize segmentId := by
    rw [vidmmDestroyAllocation, vidmmiReleaseSystemMemory]
    split <;> rfl
  rw [released, vidmmiReleaseVideoMemory]
  split
  case h_1 memory held =>
    have changed := @usedSize_addUsedSize state allocation.segmentId segmentId
      (-allocation.size.toNat)
    rw [videoBytes_some segmentId (by rw [held]; rfl)]
    refine (congrArg (· + _) changed).trans ?_
    split <;> omega
  case h_2 none =>
    rw [videoBytes_none segmentId none]
    exact Int.add_zero _

/-- What releasing an allocation takes off the number of used pages. -/
theorem vidmmDestroyAllocation_usedPagesNum
    : (state.vidmmDestroyAllocation allocation).usedPagesNum + state.heldPages (some allocation)
      = state.usedPagesNum := by
  have released : (state.vidmmiReleaseVideoMemory allocation).usedPagesNum = state.usedPagesNum
      ∧ (state.vidmmiReleaseVideoMemory allocation).config = state.config := by
    rw [vidmmiReleaseVideoMemory]
    split <;> exact ⟨rfl, rfl⟩
  rw [vidmmDestroyAllocation, vidmmiReleaseSystemMemory]
  split
  case h_1 memory held =>
    rw [heldPages_some (by rw [held]; rfl), ← released.1, ← pageNum_congr released.2]
    exact Int.neg_add_cancel_right _ _
  case h_2 none =>
    rw [heldPages_none none, released.1]
    exact Int.add_zero _

/-- Releasing an allocation leaves the lists and the configuration as they are. -/
theorem vidmmDestroyAllocation_frame
    : (state.vidmmDestroyAllocation allocation).config = state.config
      ∧ (state.vidmmDestroyAllocation allocation).allocations = state.allocations
      ∧ (state.vidmmDestroyAllocation allocation).segmentMemories = state.segmentMemories := by
  rw [vidmmDestroyAllocation, vidmmiReleaseSystemMemory, vidmmiReleaseVideoMemory]
  split <;> split <;> exact ⟨rfl, rfl, rfl⟩

/-- Destroying an allocation takes what it holds off the counters. -/
theorem Exact.destroyed (exact : state.Exact)
    (h : state.vidmmDestroyAllocationAt index = some after)
    : after.Exact := by
  obtain ⟨allocation, found, h⟩ := Option.bind_eq_some_iff.mp h
  obtain rfl := Option.some.inj h
  let removed : PagingState := { state with allocations := state.allocations.set index none }
  obtain ⟨config, allocations, memories⟩ := @vidmmDestroyAllocation_frame removed allocation
  exact @Exact.replaced state _ index (some allocation) none exact
    (getElem?_of_allocation? found) config allocations memories
    (fun segmentId _ =>
      (@vidmmDestroyAllocation_usedSize removed allocation segmentId).trans
        (Int.add_zero _).symm)
    ((@vidmmDestroyAllocation_usedPagesNum removed allocation).trans (Int.add_zero _).symm)

/-- A new segment memory is counted. -/
theorem Exact.addSegmentMemory (exact : state.Exact) (memory : PagedSegmentMemory)
    : (state.addSegmentMemory memory).Exact := by
  refine ⟨fun segmentId isLocal => ?_, exact.usedPagesNum⟩
  have taken := @usedSize_addUsedSize state memory.segmentId segmentId memory.size.toNat
  have counted := exact.usedSize segmentId isLocal
  have more : ((state.segmentMemories ++ [some memory]).map (segmentBytes segmentId)).sum
      = (state.segmentMemories.map (segmentBytes segmentId)).sum
        + if memory.segmentId = segmentId then memory.size.toNat else 0 := by
    rw [List.map_append, List.sum_append]
    rfl
  refine taken.trans ?_
  refine Eq.trans ?_ (congrArg (fun bytes : Nat =>
    (((state.allocations.map (videoBytes segmentId)).sum + bytes : Nat) : Int)) more.symm)
  split <;> omega

/-- Creating a segment memory counts it, also if it has no memory. -/
theorem Exact.created {segmentId : Nat} {size : U64} {outcome : SegmentMemoryOutcome}
    (exact : state.Exact)
    (h : state.vidmmCreateSegmentMemory segmentId size outcome = some after)
    : after.Exact := by
  have system : state.newSystemPages.Exact := ⟨exact.usedSize, exact.usedPagesNum⟩
  have video : ∀ {state : PagingState}, state.Exact → state.newFbPages.Exact :=
    fun exact => ⟨exact.usedSize, exact.usedPagesNum⟩
  rw [vidmmCreateSegmentMemory] at h
  split at h
  case isTrue =>
    split at h
    case isTrue =>
      cases h
      exact system.addSegmentMemory _
    case isFalse =>
      cases h
      exact exact
  case isFalse =>
    split at h
    case isTrue =>
      cases h
      exact (video exact).addSegmentMemory _
    case isFalse =>
      obtain ⟨evicted, evicts, h⟩ := Option.bind_eq_some_iff.mp h
      have exact' := exact.evictions evicts
      split at h
      case isTrue =>
        cases h
        exact exact'.addSegmentMemory _
      case isFalse =>
        split at h
        case isTrue =>
          cases h
          exact (video exact').addSegmentMemory _
        case isFalse =>
          cases h
          exact exact'

/-- Destroying a segment memory takes it off the counters. -/
theorem Exact.segmentDestroyed (exact : state.Exact)
    (h : state.vidmmDestroySegmentMemory index = some after)
    : after.Exact := by
  obtain ⟨segmentMemory, found, h⟩ := Option.bind_eq_some_iff.mp h
  obtain ⟨memory, held, h⟩ := Option.bind_eq_some_iff.mp h
  obtain rfl := Option.some.inj h
  let removed : PagingState :=
    { state with segmentMemories := state.segmentMemories.set index none }
  let freed := if segmentMemory.isLocal then removed.freeFbPages memory
    else removed.releaseSystemPages memory
  obtain ⟨usedSize, usedPagesNum, config, allocations, memories⟩ :
      freed.usedSize = state.usedSize ∧ freed.usedPagesNum = state.usedPagesNum
        ∧ freed.config = state.config ∧ freed.allocations = state.allocations
        ∧ freed.segmentMemories = state.segmentMemories.set index none := by
    simp only [freed]
    split <;> exact ⟨rfl, rfl, rfl, rfl, rfl⟩
  constructor
  · intro segmentId isLocal
    have counted := exact.usedSize segmentId ((isLocal_congr config segmentId).symm.trans isLocal)
    have total := Bag.sum_map_set (Option.join_eq_some_iff.mp found) none
      (segmentBytes segmentId)
    have changed := @usedSize_addUsedSize freed segmentMemory.segmentId segmentId
      (-segmentMemory.size.toNat)
    rw [usedSize] at changed
    change _ = (((freed.allocations.map _).sum + (freed.segmentMemories.map _).sum : Nat) : Int)
    rw [allocations, memories]
    refine changed.trans ?_
    have gone : segmentBytes segmentId (some segmentMemory)
        = if segmentMemory.segmentId = segmentId then segmentMemory.size.toNat else 0 := rfl
    have none : segmentBytes segmentId none = 0 := rfl
    rw [gone, none] at total
    split at total <;> split <;> omega
  · change freed.usedPagesNum = ((freed.allocations.map freed.heldPages).sum : Nat)
    rw [usedPagesNum, allocations, heldPages_congr config]
    exact exact.usedPagesNum

-----------------------------------------------------------------------------------------
-- The calls that do not count
-----------------------------------------------------------------------------------------

/-- A page-in gets as far as new local memory. -/
def takesLocalMemory (state : PagingState) (allocation : PagedAllocation)
    (outcome : PageInOutcome) : Bool :=
  !allocation.global
    && !(state.pagingSegmentId != segmentIdInvalid
      && allocation.preferredSegment.contains state.pagingSegmentId)
    && allocation.fbPagesMem.isNone
    && (allocation.pagesMem.isSome || allocation.fileStorage.isSome && outcome.swapIn)
    && allocation.preferredSegment.any fun segmentId =>
      segmentId != segmentIdInvalid && state.isLocal segmentId
        && (outcome.allocates segmentId || outcome.allocatesAfter segmentId)

/-- A first placement ends in system pages. -/
def placesInSystem (state : PagingState) (allocation : PagedAllocation)
    (outcome : PageInOutcome) : Bool :=
  match segmentWithRoom allocation outcome.allocates with
  | some segmentId => !state.isLocal segmentId
  | none =>
      (segmentWithRoom allocation outcome.allocatesAfter).any fun segmentId =>
        !state.isLocal segmentId

/-- A call is neither a page-in to new local memory nor a first placement in system pages. -/
def counts (state : PagingState) : PagingAction → Bool
  | .makeResident index outcome =>
      (state.allocation? index).all fun allocation =>
        allocation.segmentId != segmentIdInvalid
          || (if allocation.fileStorage.isSome || allocation.pagesMem.isSome then
              !state.takesLocalMemory allocation outcome
            else allocation.fbPagesMem.isSome || !state.placesInSystem allocation outcome)
  | .pageIn index outcome =>
      (state.allocation? index).all fun allocation =>
        !state.takesLocalMemory allocation outcome
  | _ => true

/-- A page-in that takes local memory is one that the predicate names. -/
theorem TakesLocal.takesLocalMemory {outcome : PageInOutcome} {segmentId : Nat}
    (h : state.TakesLocal allocation outcome segmentId)
    : state.takesLocalMemory allocation outcome = true := by
  have room : (allocation.preferredSegment.any fun segmentId =>
      segmentId != segmentIdInvalid && state.isLocal segmentId
        && (outcome.allocates segmentId || outcome.allocatesAfter segmentId)) = true := by
    refine List.any_eq_true.mpr ⟨segmentId, h.room.preferred, ?_⟩
    simpa [h.room.isLocal, h.room.valid] using h.room.allocates
  have elsewhere := (not_and_or.mp h.elsewhere).imp_left not_not.mp
  have source := h.source
  simp only [PagingState.takesLocalMemory, h.global, h.fbPagesMem, room, Option.isNone_none,
    Bool.not_false, Bool.true_and, Bool.and_true]
  simpa using ⟨elsewhere, source⟩

/-- A placement that is found is preferred, valid and not in system pages, if it counts. -/
theorem Exact.allocated {outcome : PageInOutcome} {status : PagingStatus} (exact : state.Exact)
    (found : state.allocation? index = some allocation)
    (pagesMem : allocation.pagesMem = none) (fbPagesMem : allocation.fbPagesMem = none)
    (counted : (segmentWithRoom allocation outcome.allocatesAfter).any (fun segmentId =>
      !state.isLocal segmentId) = false)
    (h : state.vidmmAllocatePhysicalMemory index allocation outcome.allocatesAfter
      = (after, status))
    : after.Exact := by
  rw [vidmmAllocatePhysicalMemory] at h
  cases room : segmentWithRoom allocation outcome.allocatesAfter with
  | none =>
      rw [room] at h
      cases h
      exact exact
  | some segmentId =>
      rw [room] at h counted
      cases h
      exact exact.placed found (by simpa using counted) pagesMem fbPagesMem

/-- Making an allocation resident keeps the counters exact, if it counts. -/
theorem Exact.madeResident {outcome : PageInOutcome} {status : PagingStatus}
    (exact : state.Exact) (paging : state.isLocal state.pagingSegmentId = false)
    (counted : state.counts (.makeResident index outcome) = true)
    (h : state.vidmmMakeResidentLocked index outcome = some (after, status))
    : after.Exact := by
  rw [vidmmMakeResidentLocked] at h
  obtain ⟨allocation, found, h⟩ := Option.bind_eq_some_iff.mp h
  rw [counts, found, Option.all_some] at counted
  split at h
  case isTrue =>
    cases h
    exact exact
  case isFalse cached =>
    have cached' : allocation.segmentId = segmentIdInvalid := Nat.eq_zero_of_not_pos cached
    rw [cached', bne_self_eq_false, Bool.false_or] at counted
    split at h
    case isTrue stored =>
      rw [if_pos stored] at counted
      obtain ⟨allocation', found', resident⟩ := vidmmResidentOneAllocation_cases h
      obtain rfl := Option.some.inj (found.symm.trans found')
      refine exact.resident paging found ?_ resident
      intro segmentId takes
      rw [takes.takesLocalMemory] at counted
      cases counted
    case isFalse unstored =>
      rw [if_neg unstored] at counted
      split at h
      case isTrue =>
        cases h
        exact exact
      case isFalse unplaced =>
        have pagesMem : allocation.pagesMem = none := by
          cases pagesMem : allocation.pagesMem with
          | none => rfl
          | some pages => simp [pagesMem] at unstored
        have fbPagesMem : allocation.fbPagesMem = none := by simpa using unplaced
        rw [fbPagesMem, Option.isSome_none, Bool.false_or, placesInSystem] at counted
        split at h
        case h_1 segmentId room =>
          rw [room] at counted
          cases h
          exact exact.placed found (by simpa using counted) pagesMem fbPagesMem
        case h_2 full =>
          rw [full] at counted
          obtain ⟨evicted, evicts, h⟩ := Option.bind_eq_some_iff.mp h
          have remote : state.isLocal allocation.segmentId = false := by rw [cached']; rfl
          refine (exact.evictions evicts).allocated (evictions_remote found remote evicts)
            pagesMem fbPagesMem ?_ (Option.some.inj h)
          simp only [isLocal_congr (evictions_config evicts)]
          simpa using counted

-----------------------------------------------------------------------------------------
-- Whole runs
-----------------------------------------------------------------------------------------

/-- Placing an allocation leaves the configuration as it is. -/
theorem vidmmiAllocatePhysicalMemory_config (segmentId : Nat)
    : (state.vidmmiAllocatePhysicalMemory index allocation segmentId).config = state.config := by
  rw [vidmmiAllocatePhysicalMemory]
  split <;> rfl

/-- Making an allocation resident leaves the configuration as it is, by cases on what it
takes.
-/
theorem vidmmMakeResidentLocked_config {outcome : PageInOutcome} {status : PagingStatus}
    (h : state.vidmmMakeResidentLocked index outcome = some (after, status))
    : after.config = state.config := by
  rw [vidmmMakeResidentLocked] at h
  obtain ⟨allocation, found, h⟩ := Option.bind_eq_some_iff.mp h
  split at h
  case isTrue =>
    cases h
    rfl
  case isFalse =>
    split at h
    case isTrue =>
      obtain ⟨_, _, resident⟩ := vidmmResidentOneAllocation_cases h
      exact resident.config
    case isFalse =>
      split at h
      case isTrue =>
        cases h
        rfl
      case isFalse =>
        split at h
        case h_1 =>
          cases h
          exact vidmmiAllocatePhysicalMemory_config _
        case h_2 =>
          obtain ⟨evicted, evicts, h⟩ := Option.bind_eq_some_iff.mp h
          rw [← evictions_config evicts]
          have placed := Option.some.inj h
          rw [vidmmAllocatePhysicalMemory] at placed
          split at placed
          case h_1 =>
            cases placed
            exact vidmmiAllocatePhysicalMemory_config _
          case h_2 =>
            cases placed
            rfl

/-- Creating a segment memory leaves the configuration as it is, by cases on where its memory
comes from.
-/
theorem vidmmCreateSegmentMemory_config {segmentId : Nat} {size : U64}
    {outcome : SegmentMemoryOutcome}
    (h : state.vidmmCreateSegmentMemory segmentId size outcome = some after)
    : after.config = state.config := by
  rw [vidmmCreateSegmentMemory] at h
  split at h
  case isTrue =>
    split at h
    all_goals
      cases h
      rfl
  case isFalse =>
    split at h
    case isTrue =>
      cases h
      rfl
    case isFalse =>
      obtain ⟨evicted, evicts, h⟩ := Option.bind_eq_some_iff.mp h
      rw [← evictions_config evicts]
      split at h
      case isTrue =>
        cases h
        rfl
      case isFalse =>
        split at h
        all_goals
          cases h
          rfl

/-- No call changes the configuration. -/
theorem next_config {action : PagingAction} (h : state.next action = some after)
    : after.config = state.config := by
  cases action with
  | createAllocation size preferredSegment global =>
      cases h
      rfl
  | makeResident index outcome =>
      obtain ⟨⟨after, status⟩, resident, rfl⟩ := Option.map_eq_some_iff.mp h
      exact vidmmMakeResidentLocked_config resident
  | pageIn index outcome =>
      obtain ⟨⟨after, status⟩, resident, rfl⟩ := Option.map_eq_some_iff.mp h
      obtain ⟨_, _, resident⟩ := vidmmResidentOneAllocation_cases resident
      exact resident.config
  | evict index outcome =>
      obtain ⟨⟨after, status⟩, evicts, rfl⟩ := Option.map_eq_some_iff.mp h
      exact vidmmUnresidentOneAllocation_config evicts
  | destroyAllocation index =>
      obtain ⟨allocation, _, h⟩ := Option.bind_eq_some_iff.mp h
      obtain rfl := Option.some.inj h
      exact vidmmDestroyAllocation_frame.1
  | createSegmentMemory segmentId size outcome => exact vidmmCreateSegmentMemory_config h
  | destroySegmentMemory index =>
      obtain ⟨segmentMemory, _, h⟩ := Option.bind_eq_some_iff.mp h
      obtain ⟨memory, _, h⟩ := Option.bind_eq_some_iff.mp h
      obtain rfl := Option.some.inj h
      cases segmentMemory.isLocal <;> rfl

/-- A call that counts keeps the counters exact. -/
theorem Exact.next {action : PagingAction} (exact : state.Exact)
    (paging : state.isLocal state.pagingSegmentId = false)
    (counted : state.counts action = true) (h : state.next action = some after)
    : after.Exact := by
  cases action with
  | createAllocation size preferredSegment global =>
      cases h
      constructor
      · intro segmentId isLocal
        rw [vidmmCreateAllocation, List.map_append, List.sum_append]
        exact exact.usedSize segmentId isLocal
      · rw [vidmmCreateAllocation, List.map_append, List.sum_append]
        exact exact.usedPagesNum
  | makeResident index outcome =>
      obtain ⟨⟨after, status⟩, resident, rfl⟩ := Option.map_eq_some_iff.mp h
      exact exact.madeResident paging counted resident
  | pageIn index outcome =>
      obtain ⟨⟨after, status⟩, resident, rfl⟩ := Option.map_eq_some_iff.mp h
      obtain ⟨allocation, found, resident⟩ := vidmmResidentOneAllocation_cases resident
      refine exact.resident paging found ?_ resident
      intro segmentId takes
      rw [counts, found, Option.all_some, takes.takesLocalMemory] at counted
      cases counted
  | evict index outcome =>
      obtain ⟨⟨after, status⟩, evicts, rfl⟩ := Option.map_eq_some_iff.mp h
      exact exact.evicted evicts
  | destroyAllocation index => exact exact.destroyed h
  | createSegmentMemory segmentId size outcome => exact exact.created h
  | destroySegmentMemory index => exact exact.segmentDestroyed h

/-- What the counters say of the memory in use. -/
structure Accounted (state : PagingState) : Prop where
  exact : state.Exact
  usedSize : ∀ segmentId, state.isLocal segmentId → 0 ≤ state.usedSize segmentId
  usedPagesNum : 0 ≤ state.usedPagesNum

/-- In a run without first placements in system pages and without page-ins to new local
memory, the counters are exact in every state, and never below zero.
-/
theorem memory_accounted
    (reached : countSystem.ReachableUnder (fun state action => state.counts action = true) state)
    : state.Accounted := by
  have kept : state.Exact ∧ state.isLocal state.pagingSegmentId = false := by
    apply reached.invariant
    · rintro _ ⟨systemOnly, snoopOnly, osPageShift, rfl⟩
      refine ⟨⟨fun _ _ => rfl, rfl⟩, ?_⟩
      cases snoopOnly <;> rfl
    · rintro before action after ⟨exact, paging⟩ counted taken
      refine ⟨exact.next paging counted taken, ?_⟩
      have config := next_config taken
      rw [isLocal_congr config]
      simp only [PagingState.config, Prod.mk.injEq] at config
      rw [config.2.1]
      exact paging
  refine ⟨kept.1, ?_, ?_⟩
  · intro segmentId isLocal
    rw [kept.1.usedSize segmentId isLocal]
    exact Int.natCast_nonneg _
  · rw [kept.1.usedPagesNum]
    exact Int.natCast_nonneg _

/-- Every step of an eviction succeeds. -/
def evictSucceeds : EvictOutcome := ⟨true, true⟩

/-- There is room everywhere, and every other step of a page-in succeeds. -/
def pageInSucceeds : PageInOutcome := ⟨true, true, fun _ => true, [], fun _ => true, true⟩

/-- An allocation is placed in local memory, a segment memory is created, the allocation is
evicted and the segment memory is destroyed.
-/
def countedActions : List PagingAction :=
  [.createAllocation 8192 [segmentIdLocal] false, .makeResident 0 pageInSucceeds,
    .createSegmentMemory segmentIdLocal 4096 ⟨true, [], true, true, 4096⟩,
    .evict 0 evictSucceeds, .destroySegmentMemory 0]

/-- The state these calls end in. -/
def countedOnce : Option PagingState := System.replay next (start false false 12) countedActions

/-- The calls can be made. -/
theorem countedOnce_isSome : countedOnce.isSome := by rfl

/-- The allocation has two pages there, and no local memory is used. -/
theorem memory_accounted_countedOnce
    : (countedOnce.get countedOnce_isSome).usedPagesNum = 2
      ∧ (countedOnce.get countedOnce_isSome).Accounted := by
  refine ⟨by rfl, memory_accounted ?_⟩
  exact .replay countedActions ⟨false, false, 12, rfl⟩ (by decide)
    (Option.some_get countedOnce_isSome).symm

/-- An allocation that is first placed in system pages is destroyed. -/
def placedInSystem : Option PagingState :=
  System.replay next (start false false 12)
    [.createAllocation 4096 [segmentIdPcieSnoopable] false, .makeResident 0 pageInSucceeds,
      .destroyAllocation 0]

/-- An allocation in local memory is evicted, paged in again and destroyed. -/
def pagedIn : Option PagingState :=
  System.replay next (start false false 12)
    [.createAllocation 4096 [segmentIdLocal] false, .makeResident 0 pageInSucceeds,
      .evict 0 evictSucceeds, .makeResident 0 pageInSucceeds, .destroyAllocation 0]

/-- The calls of the first run can be made. -/
theorem placedInSystem_isSome : placedInSystem.isSome := by rfl

/-- The calls of the second run can be made. -/
theorem pagedIn_isSome : pagedIn.isSome := by rfl

/-- The page count is below zero after the first of these runs, the used size after the
second one.
-/
theorem memory_not_accounted
    : (∃ state, countSystem.Reachable state ∧ state.usedPagesNum = -1)
      ∧ (∃ state, countSystem.Reachable state ∧ state.isLocal segmentIdLocal
        ∧ state.usedSize segmentIdLocal = -4096)
      ∧ ¬ ∀ state, countSystem.Reachable state → state.Accounted := by
  have reached : countSystem.Reachable (placedInSystem.get placedInSystem_isSome) :=
    .replay _ ⟨false, false, 12, rfl⟩ (Option.some_get placedInSystem_isSome).symm
  have reached' : countSystem.Reachable (pagedIn.get pagedIn_isSome) :=
    .replay _ ⟨false, false, 12, rfl⟩ (Option.some_get pagedIn_isSome).symm
  have below : (placedInSystem.get placedInSystem_isSome).usedPagesNum = -1 := by
    rfl
  refine ⟨⟨_, reached, below⟩,
    ⟨_, reached', by decide, by decide⟩, fun accounted => ?_⟩
  have positive := (accounted _ reached).usedPagesNum
  rw [below] at positive
  cases positive

end PagingState

end Cx4Kernel.Vidmm
