import Cx4Kernel.Foundation.Ownership
import Cx4Kernel.Vidmm.PagingSteps

/-! Who owns the memory behind allocations while they are evicted, paged in, saved and
restored. Every object of memory has one owner or was freed once, as long as no restore
fails after its task took the local memory that the allocation kept.
-/

namespace Cx4Kernel.Vidmm

open Cx4Kernel.Foundation Ownership

/-- The operations that move the memory of an allocation. -/
inductive OwnerAction where
  | evict (index : Nat) (outcome : EvictOutcome)
  | pageIn (index : Nat) (outcome : PageInOutcome)
  | save (index : Nat) (outcome : EvictOutcome)
  | restore (index : Nat) (outcome : PageInOutcome)

/-- The allocation that an operation is about. -/
def OwnerAction.index : OwnerAction → Nat
  | .evict index _ | .pageIn index _ | .save index _ | .restore index _ => index

namespace PagingState

/-- One operation, with the status it returns. -/
def perform (state : PagingState) : OwnerAction → Option (PagingState × PagingStatus)
  | .evict index outcome => state.vidmmUnresidentOneAllocation index outcome
  | .pageIn index outcome => state.vidmmResidentOneAllocation index outcome
  | .save index outcome => state.vidmmSaveAllocation index outcome
  | .restore index outcome => state.vidmmRestoreAllocation index outcome

-----------------------------------------------------------------------------------------
-- The invariant
-----------------------------------------------------------------------------------------

/-- The local memory that each allocation refers to. -/
def videoHeld (state : PagingState) : List (Option Nat) :=
  state.allocations.map (·.bind PagedAllocation.fbPagesMem)

/-- The system pages that each allocation refers to. -/
def systemHeld (state : PagingState) : List (Option Nat) :=
  state.allocations.map (·.bind PagedAllocation.pagesMem)

/-- An allocation has local memory if it is in a local segment, and otherwise system pages or
a file.
-/
structure Placed (state : PagingState) (allocation : PagedAllocation) : Prop where
  inLocal : state.isLocal allocation.segmentId
    → allocation.fbPagesMem.isSome ∧ allocation.fileStorage = none
  remote : state.isLocal allocation.segmentId = false
    → allocation.fbPagesMem = none
      ∧ allocation.pagesMem.isSome = allocation.fileStorage.isNone

/-- All memory that an allocation refers to has its data. -/
structure Backed (state : PagingState) (index : Nat) (allocation : PagedAllocation) : Prop where
  fbPagesMem : ∀ memory, allocation.fbPagesMem = some memory
    → state.fbPages[memory]?.bind MemoryObject.data = some index
  pagesMem : ∀ memory, allocation.pagesMem = some memory
    → state.systemPages[memory]?.bind MemoryObject.data = some index
  fileStorage : ∀ data, allocation.fileStorage = some data → data = index

/-- Objects have one owner or were freed once, and allocations have their data. -/
structure Sound (state : PagingState) : Prop where
  video : Owned state.videoHeld (state.fbPages.map MemoryObject.freed)
  system : Owned state.systemHeld (state.systemPages.map MemoryObject.freed)
  placed : ∀ index allocation, state.allocation? index = some allocation
    → state.Placed allocation
  backed : ∀ index allocation, state.allocation? index = some allocation
    → state.Backed index allocation
  paging : state.isLocal state.pagingSegmentId = false

variable {state next : PagingState} {index : Nat} {allocation : PagedAllocation}
  {status : PagingStatus}

theorem videoHeld_at (found : state.allocation? index = some allocation)
    : state.videoHeld[index]? = some allocation.fbPagesMem := by
  rw [videoHeld, List.getElem?_map, getElem?_of_allocation? found]
  rfl

theorem systemHeld_at (found : state.allocation? index = some allocation)
    : state.systemHeld[index]? = some allocation.pagesMem := by
  rw [systemHeld, List.getElem?_map, getElem?_of_allocation? found]
  rfl

/-- A place that is set to what it held stays what it is. -/
theorem set_self {held : List (Option Nat)} {entry : Option Nat}
    (h : held[index]? = some entry)
    : held.set index entry = held := by
  obtain ⟨bound, at_⟩ := List.getElem?_eq_some_iff.mp h
  rw [← at_, List.set_getElem_self]

/-- The objects of one list keep their data in another one. -/
def KeepsData (before after : List MemoryObject) : Prop :=
  ∀ memory data : Nat, before[memory]?.bind MemoryObject.data = some data
    → after[memory]?.bind MemoryObject.data = some data

theorem KeepsData.refl (objects : List MemoryObject) : KeepsData objects objects :=
  fun _ _ h => h

/-- A new object leaves the data of the others as it is. -/
theorem KeepsData.append (objects : List MemoryObject) (object : MemoryObject)
    : KeepsData objects (objects ++ [object]) := by
  intro memory data h
  obtain ⟨found, at_, _⟩ := Option.bind_eq_some_iff.mp h
  rw [List.getElem?_append_left (List.getElem?_eq_some_iff.mp at_).1]
  exact h

/-- Freeing an object leaves the data as it is. -/
theorem KeepsData.modify {objects : List MemoryObject} {memory : Nat}
    {change : MemoryObject → MemoryObject}
    (h : ∀ object, objects[memory]? = some object
      → (change object).data = object.data)
    : KeepsData objects (objects.modify memory change) := by
  intro other data held
  rcases eq_or_ne memory other with rfl | different
  · obtain ⟨object, at_, same⟩ := Option.bind_eq_some_iff.mp held
    rw [List.getElem?_modify_eq, at_]
    exact (h object at_).trans same
  · rw [List.getElem?_modify_ne _ _ different]
    exact held

/-- What has its data keeps it while the objects do. -/
theorem Backed.mono (backed : state.Backed index allocation)
    (video : KeepsData state.fbPages next.fbPages)
    (system : KeepsData state.systemPages next.systemPages)
    : next.Backed index allocation :=
  ⟨fun memory h => video memory index (backed.fbPagesMem memory h),
    fun memory h => system memory index (backed.pagesMem memory h), backed.fileStorage⟩

/-- Where an allocation is placed depends on the segments only. -/
theorem Placed.congr (placed : state.Placed allocation) (config : next.config = state.config)
    : next.Placed allocation := by
  refine ⟨fun isLocal => placed.inLocal ?_, fun remote => placed.remote ?_⟩
  · rw [← isLocal_congr config]
    exact isLocal
  · rw [← isLocal_congr config]
    exact remote

/-- An operation that replaces one allocation keeps the invariant if the ownership of the
objects follows and no data is lost.
-/
theorem Sound.replaced {new : PagedAllocation} (sound : state.Sound)
    (found : state.allocation? index = some allocation) (config : next.config = state.config)
    (allocations : next.allocations = state.allocations.set index (some new))
    (video : Owned (state.videoHeld.set index new.fbPagesMem)
      (next.fbPages.map MemoryObject.freed))
    (system : Owned (state.systemHeld.set index new.pagesMem)
      (next.systemPages.map MemoryObject.freed))
    (videoData : KeepsData state.fbPages next.fbPages)
    (systemData : KeepsData state.systemPages next.systemPages)
    (placed : state.Placed new) (backed : next.Backed index new)
    : next.Sound := by
  have cases_ : ∀ other old, next.allocation? other = some old
      → (other = index ∧ old = new) ∨ state.allocation? other = some old := by
    intro other old found'
    rcases eq_or_ne index other with rfl | different
    · have bound := (List.getElem?_eq_some_iff.mp (getElem?_of_allocation? found)).1
      rw [allocation?, allocations, List.getElem?_set_self bound] at found'
      exact .inl ⟨rfl, (Option.some.inj found').symm⟩
    · rw [allocation?, allocations, List.getElem?_set_ne different] at found'
      exact .inr found'
  constructor
  · rw [videoHeld, allocations, List.map_set]
    exact video
  · rw [systemHeld, allocations, List.map_set]
    exact system
  · intro other old found'
    rcases cases_ other old found' with ⟨rfl, rfl⟩ | before
    · exact placed.congr config
    · exact (sound.placed other old before).congr config
  · intro other old found'
    rcases cases_ other old found' with ⟨rfl, rfl⟩ | before
    · exact backed
    · exact (sound.backed other old before).mono videoData systemData
  · have paging := sound.paging
    rw [isLocal_congr config]
    simp only [PagingState.config, Prod.mk.injEq] at config
    rw [config.2.1]
    exact paging

-----------------------------------------------------------------------------------------
-- What each change does to the invariant
-----------------------------------------------------------------------------------------

/-- The objects after one of them was freed. -/
theorem freed_modify (objects : List MemoryObject) (memory : Nat)
    : (objects.modify memory fun object => { object with freed := object.freed + 1 }).map
        MemoryObject.freed
      = (objects.map MemoryObject.freed).modify memory (· + 1) := by
  refine Bag.map_modify ?_ objects memory
  exact fun _ => rfl

/-- A new object, in a list and in the list of how often each was freed. -/
theorem freed_append (objects : List MemoryObject) (object : MemoryObject)
    : (objects ++ [object]).map MemoryObject.freed
      = objects.map MemoryObject.freed ++ [object.freed] := by
  rw [List.map_append, List.map_singleton]

/-- A place that takes the newest object. -/
theorem owned_takes {held : List (Option Nat)} {objects : List MemoryObject} {data : Option Nat}
    (owned : Owned held (objects.map MemoryObject.freed)) (vacant : held[index]? = some none)
    : Owned (held.set index (some objects.length))
        ((objects ++ [(⟨data, 0⟩ : MemoryObject)]).map MemoryObject.freed) := by
  have taken := owned.take vacant
  rw [List.length_map] at taken
  rw [freed_append]
  exact taken

/-- A place that gives its object up. -/
theorem owned_drops {held : List (Option Nat)} {objects : List MemoryObject} {memory : Nat}
    (owned : Owned held (objects.map MemoryObject.freed))
    (holds : held[index]? = some (some memory))
    : Owned (held.set index none)
        ((objects.modify memory fun object => { object with freed := object.freed + 1 }).map
          MemoryObject.freed) := by
  rw [freed_modify]
  exact owned.drop holds

/-- The newest object has its data. -/
theorem data_append (objects : List MemoryObject) (data : Option Nat)
    : (objects ++ [(⟨data, 0⟩ : MemoryObject)])[objects.length]?.bind MemoryObject.data = data := by
  rw [List.getElem?_append_right (Nat.le_refl _), Nat.sub_self]
  rfl

/-- Freeing an object keeps the data. -/
theorem KeepsData.free (objects : List MemoryObject) (memory : Nat)
    : KeepsData objects
        (objects.modify memory fun object => { object with freed := object.freed + 1 }) :=
  .modify fun _ _ => rfl

/-- System pages that are taken and given back are freed once. -/
theorem Sound.systemPagesDiscarded (sound : state.Sound) : state.systemPagesDiscarded.Sound := by
  refine ⟨sound.video, ?_, fun index allocation found =>
    (sound.placed index allocation found).congr rfl, fun index allocation found =>
    (sound.backed index allocation found).mono (.refl _) (.append _ _), sound.paging⟩
  have discarded := sound.system.discard
  rw [← freed_append state.systemPages ⟨none, 1⟩] at discarded
  exact discarded

/-- Local memory that is taken and given back is freed once. -/
theorem Sound.fbPagesDiscarded (sound : state.Sound) (segmentId : Nat) (size : U64)
    : (state.fbPagesDiscarded segmentId size).Sound := by
  refine ⟨?_, sound.system, fun index allocation found =>
    (sound.placed index allocation found).congr rfl, fun index allocation found =>
    (sound.backed index allocation found).mono (.append _ _) (.refl _), sound.paging⟩
  have discarded := sound.video.discard
  rw [← freed_append state.fbPages ⟨none, 1⟩] at discarded
  exact discarded

/-- What an allocation that may be paged out is. -/
theorem Sound.pagesOut {memory : Nat} (sound : state.Sound)
    (found : state.allocation? index = some allocation)
    (out : state.PagesOut allocation memory)
    : allocation.fileStorage = none
      ∧ state.fbPages[memory]?.bind MemoryObject.data = some index
      ∧ state.videoHeld[index]? = some (some memory)
      ∧ state.systemHeld[index]? = some none := by
  refine ⟨((sound.placed index allocation found).inLocal out.isLocal).2,
    (sound.backed index allocation found).fbPagesMem memory out.fbPagesMem, ?_, ?_⟩
  · rw [videoHeld_at found, out.fbPagesMem]
  · rw [systemHeld_at found, out.pagesMem]

/-- An eviction keeps the invariant. -/
theorem Sound.evicted {outcome : EvictOutcome} (sound : state.Sound)
    (h : state.vidmmUnresidentOneAllocation index outcome = some (next, status))
    : next.Sound := by
  obtain ⟨allocation, found, ⟨_, rfl | rfl⟩ | ⟨_, memory, out, rfl⟩⟩ :=
    vidmmUnresidentOneAllocation_cases h
  · exact sound
  · exact sound.systemPagesDiscarded
  · obtain ⟨unstored, data, video, system⟩ := sound.pagesOut found out
    refine sound.replaced found rfl rfl (owned_drops sound.video video) (owned_takes sound.system system)
      (.free _ _) (.append _ _) ?_ ?_
    · exact ⟨fun isLocal => absurd isLocal Bool.false_ne_true,
        fun _ => ⟨rfl, by rw [unstored]; rfl⟩⟩
    · refine ⟨nofun, ?_, fun data stored => ?_⟩
      · intro pages taken
        obtain rfl := Option.some.inj taken
        exact (data_append _ _).trans data
      · rw [unstored] at stored
        cases stored

/-- A save keeps the invariant. -/
theorem Sound.saved {outcome : EvictOutcome} (sound : state.Sound)
    (h : state.vidmmSaveAllocation index outcome = some (next, status))
    : next.Sound := by
  obtain ⟨allocation, found, rfl | rfl | ⟨memory, out, rfl⟩⟩ := vidmmSaveAllocation_cases h
  · exact sound
  · exact sound.systemPagesDiscarded
  · obtain ⟨unstored, data, video, system⟩ := sound.pagesOut found out
    have backed := sound.backed index allocation found
    refine sound.replaced found rfl rfl ?_ (owned_takes sound.system system) (.refl _) (.append _ _)
      ?_ ?_
    · rw [out.fbPagesMem, set_self video]
      exact sound.video
    · refine ⟨(sound.placed index allocation found).inLocal, fun remote => ?_⟩
      exact absurd out.isLocal (by rw [remote]; exact Bool.false_ne_true)
    · refine ⟨backed.fbPagesMem, ?_, backed.fileStorage⟩
      intro pages taken
      obtain rfl := Option.some.inj taken
      exact (data_append _ _).trans data

/-- Reading the pages of an allocation back keeps the invariant. -/
theorem Sound.swapsIn {read : PagedAllocation} (sound : state.Sound)
    (found : state.allocation? index = some allocation)
    (h : state.SwapsIn index allocation next read)
    : next.Sound := by
  cases h with
  | kept => exact sound
  | discarded _ => exact sound.systemPagesDiscarded
  | readBack data pagesMem fileStorage =>
      have placed := sound.placed index allocation found
      have backed := sound.backed index allocation found
      obtain rfl := backed.fileStorage data fileStorage
      have vacant : state.systemHeld[data]? = some none := by
        rw [systemHeld_at found, pagesMem]
      refine sound.replaced found rfl rfl ?_ (owned_takes sound.system vacant) (.refl _) (.append _ _)
        ?_ ?_
      · rw [set_self (videoHeld_at found)]
        exact sound.video
      · refine ⟨fun isLocal => ⟨(placed.inLocal isLocal).1, rfl⟩,
          fun remote => ⟨(placed.remote remote).1, rfl⟩⟩
      · refine ⟨backed.fbPagesMem, ?_, nofun⟩
        intro pages taken
        obtain rfl := Option.some.inj taken
        exact data_append _ _

/-- Evictions keep the invariant. -/
theorem Sound.evictions {evictions : List (Nat × EvictOutcome)} (sound : state.Sound)
    (h : state.vidmmiSegmentUnresidentAllocations evictions = some next)
    : next.Sound :=
  evictions_invariant (fun sound evicts => Sound.evicted sound evicts) sound h

/-- An allocation without local memory is not in a local segment. -/
theorem Sound.remote (sound : state.Sound) (found : state.allocation? index = some allocation)
    (none : allocation.fbPagesMem = none)
    : state.isLocal allocation.segmentId = false := by
  by_contra isLocal
  have held := ((sound.placed index allocation found).inLocal
    (Bool.eq_true_of_not_eq_false isLocal)).1
  rw [none] at held
  cases held

/-- An allocation that is read back before evictions is in its place after them. -/
theorem Sound.readKept {entered after : PagingState} {read : PagedAllocation}
    {evictions : List (Nat × EvictOutcome)} (sound : state.Sound)
    (found : state.allocation? index = some allocation)
    (swaps : state.SwapsIn index allocation entered read) (none : read.fbPagesMem = none)
    (evicts : entered.vidmmiSegmentUnresidentAllocations evictions = some after)
    : after.Sound ∧ after.allocation? index = some read := by
  have entered_sound := sound.swapsIn found swaps
  exact ⟨entered_sound.evictions evicts,
    evictions_remote (swaps.found found) (entered_sound.remote (swaps.found found) none) evicts⟩

/-- Moving an allocation to new local memory keeps the invariant. -/
theorem Sound.movedIn {pages segmentId : Nat} (sound : state.Sound)
    (found : state.allocation? index = some allocation) (none : allocation.fbPagesMem = none)
    (held : allocation.pagesMem = some pages) (isLocal : state.isLocal segmentId)
    : (state.movedIn index allocation allocation pages segmentId).Sound := by
  have placed := sound.placed index allocation found
  have backed := sound.backed index allocation found
  have vacant : state.videoHeld[index]? = some Option.none := by rw [videoHeld_at found, none]
  have holds : state.systemHeld[index]? = some (some pages) := by rw [systemHeld_at found, held]
  have data := backed.pagesMem pages held
  have unstored : allocation.fileStorage = Option.none := by
    have same := (placed.remote (sound.remote found none)).2
    rw [held] at same
    exact Option.isNone_iff_eq_none.mp same.symm
  refine sound.replaced found rfl rfl (owned_takes sound.video vacant)
    (owned_drops sound.system holds) (.append _ _) (.free _ _) ?_ ?_
  · exact ⟨fun _ => ⟨rfl, unstored⟩,
      fun remote => absurd isLocal (by rw [remote]; exact Bool.false_ne_true)⟩
  · refine ⟨?_, nofun, backed.fileStorage⟩
    intro memory taken
    obtain rfl := Option.some.inj taken
    exact (data_append _ _).trans data

/-- A page-in keeps the invariant. -/
theorem Sound.resident {outcome : PageInOutcome} (sound : state.Sound)
    (found : state.allocation? index = some allocation)
    (h : state.Resident index allocation outcome next status)
    : next.Sound := by
  cases h with
  | shared _ _ => exact sound
  | inSystem valid cached =>
      have remote : state.isLocal allocation.segmentId = false := by rw [cached]; rfl
      have placed := (sound.placed index allocation found).remote remote
      have backed := sound.backed index allocation found
      refine sound.replaced found rfl rfl ?_ ?_ (.refl _) (.refl _) ?_ ?_
      · rw [set_self (videoHeld_at found)]
        exact sound.video
      · rw [set_self (systemHeld_at found)]
        exact sound.system
      · exact ⟨fun isLocal => absurd (sound.paging.symm.trans isLocal) Bool.false_ne_true,
          fun _ => placed⟩
      · exact ⟨backed.fbPagesMem, backed.pagesMem, backed.fileStorage⟩
  | rejected _ read _ swaps _ => exact sound.swapsIn found swaps
  | noRoom entered read evictions _ _ swaps none evicts _ =>
      exact (sound.readKept found swaps none evicts).1
  | failed entered read evictions after segmentId swaps none evicts _ =>
      exact (sound.readKept found swaps none evicts).1.fbPagesDiscarded _ _
  | moved entered read evictions after segmentId pages moved swaps none held evicts takes found' =>
      obtain ⟨kept, at_⟩ := sound.readKept found swaps none evicts
      obtain rfl := Option.some.inj (at_.symm.trans found')
      refine kept.movedIn at_ none held ?_
      rw [isLocal_congr ((evictions_config evicts).trans swaps.frame.1)]
      exact takes.room.isLocal

/-- Copying an allocation back to the local memory that it kept keeps the invariant. -/
theorem Sound.movedBack {pages memory : Nat} (sound : state.Sound)
    (found : state.allocation? index = some allocation)
    (isLocal : state.isLocal allocation.segmentId) (held : allocation.pagesMem = some pages)
    (video : allocation.fbPagesMem = some memory)
    : (state.movedBack index allocation pages memory).Sound := by
  have placed := sound.placed index allocation found
  have backed := sound.backed index allocation found
  have holds : state.systemHeld[index]? = some (some pages) := by rw [systemHeld_at found, held]
  have same : state.systemPages[pages]?.bind MemoryObject.data
      = state.fbPages[memory]?.bind MemoryObject.data :=
    (backed.pagesMem pages held).trans (backed.fbPagesMem memory video).symm
  have rewritten : KeepsData state.fbPages (state.fbPages.modify memory fun object =>
      { object with data := state.systemPages[pages]?.bind MemoryObject.data }) := by
    refine .modify fun object at_ => same.trans ?_
    rw [at_]
    rfl
  refine sound.replaced found rfl rfl ?_ (owned_drops sound.system holds) rewritten (.free _ _)
    ?_ ?_
  · rw [set_self (videoHeld_at found)]
    have unfreed : (state.fbPages.modify memory fun object =>
          { object with data := state.systemPages[pages]?.bind MemoryObject.data }).map
            MemoryObject.freed
        = (state.fbPages.map MemoryObject.freed).modify memory id := by
      refine Bag.map_modify ?_ state.fbPages memory
      exact fun _ => rfl
    rw [List.modify_id] at unfreed
    exact unfreed ▸ sound.video
  · exact ⟨placed.inLocal,
      fun remote => absurd isLocal (by rw [remote]; exact Bool.false_ne_true)⟩
  · exact ⟨fun other h => rewritten other index (backed.fbPagesMem other h), nofun,
      backed.fileStorage⟩

/-- Allocations of local segments have local memory. -/
theorem Sound.inLocal (sound : state.Sound) (allocation : PagedAllocation)
    (found : state.allocation? index = some allocation)
    (isLocal : state.isLocal allocation.segmentId)
    : allocation.fbPagesMem.isSome :=
  ((sound.placed index allocation found).inLocal isLocal).1

-----------------------------------------------------------------------------------------
-- Whole runs
-----------------------------------------------------------------------------------------

/-- An operation is not a restore that fails after its task took the local memory that the
allocation kept.
-/
def keepsOwner (state : PagingState) : OwnerAction → Bool
  | .restore index outcome =>
      (state.allocation? index).all fun allocation =>
        !(state.isLocal allocation.segmentId && allocation.needSaveWhenAcpi
          && (allocation.pagesMem.isSome || allocation.fileStorage.isSome && outcome.swapIn)
          && !outcome.buildPagingBuffer)
  | _ => true

/-- All runs of operations on allocations that are well formed in the beginning. -/
def ownerSystem : System PagingState OwnerAction :=
  .ofFunction Sound fun state action => (state.perform action).map Prod.fst

/-- A permitted restore does not lack commands only. -/
theorem keepsOwner_commands {outcome : PageInOutcome}
    (found : state.allocation? index = some allocation)
    (permitted : state.keepsOwner (.restore index outcome) = true)
    (isLocal : state.isLocal allocation.segmentId) (needed : allocation.needSaveWhenAcpi)
    : ¬ LacksCommands allocation outcome := by
  intro lacks
  have source : (allocation.pagesMem.isSome
      || allocation.fileStorage.isSome && outcome.swapIn) = true := by
    simpa using lacks.pagesMem
  rw [keepsOwner, found, Option.all_some, isLocal, needed, lacks.buildPagingBuffer, source]
    at permitted
  cases permitted

/-- A restore keeps the invariant, unless it lacks commands only. -/
theorem Sound.restored {outcome : PageInOutcome} (sound : state.Sound)
    (found : state.allocation? index = some allocation)
    (permitted : state.keepsOwner (.restore index outcome) = true)
    (h : state.Restored index allocation outcome next status)
    : next.Sound := by
  cases h with
  | elsewhere => exact sound
  | flagged =>
      have placed := sound.placed index allocation found
      have backed := sound.backed index allocation found
      refine sound.replaced found rfl rfl ?_ ?_ (.refl _) (.refl _)
        ⟨placed.inLocal, placed.remote⟩ ⟨backed.fbPagesMem, backed.pagesMem, backed.fileStorage⟩
      · rw [set_self (videoHeld_at found)]
        exact sound.video
      · rw [set_self (systemHeld_at found)]
        exact sound.system
  | rejected _ read _ swaps _ => exact sound.swapsIn found swaps
  | failed _ isLocal needed lacks =>
      exact absurd lacks (keepsOwner_commands found permitted isLocal needed)
  | moved entered read pages memory isLocal swaps held video =>
      refine (sound.swapsIn found swaps).movedBack (swaps.found found) ?_ held video
      rw [isLocal_congr swaps.frame.1, swaps.frame.2.2.2.1]
      exact isLocal

/-- Every permitted operation keeps the invariant. -/
theorem Sound.perform {action : OwnerAction} (sound : state.Sound)
    (permitted : state.keepsOwner action = true) (h : state.perform action = some (next, status))
    : next.Sound := by
  cases action with
  | evict index outcome => exact sound.evicted h
  | pageIn index outcome =>
      obtain ⟨allocation, found, resident⟩ := vidmmResidentOneAllocation_cases h
      exact sound.resident found resident
  | save index outcome => exact sound.saved h
  | restore index outcome =>
      obtain ⟨allocation, found, restored⟩ := vidmmRestoreAllocation_cases
        (fun allocation found => sound.inLocal allocation found) h
      exact sound.restored found permitted restored

/-- The objects that allocations refer to through one of their fields have one owner each;
the others were freed once.
-/
structure OneOwner (state : PagingState) (objects : List MemoryObject)
    (memoryOf : PagedAllocation → Option Nat) : Prop where
  live : ∀ (index memory : Nat) (allocation : PagedAllocation),
    state.allocation? index = some allocation → memoryOf allocation = some memory
    → ∃ object, objects[memory]? = some object ∧ object.freed = 0
  unique : ∀ (index other memory : Nat) (allocation another : PagedAllocation),
    state.allocation? index = some allocation → state.allocation? other = some another
    → memoryOf allocation = some memory → memoryOf another = some memory → index = other
  gone : ∀ (memory : Nat) (object : MemoryObject), objects[memory]? = some object
    → (∀ (index : Nat) (allocation : PagedAllocation),
      state.allocation? index = some allocation → memoryOf allocation ≠ some memory)
    → object.freed = 1

/-- Memory of an allocation that was not freed has its data. -/
def HasBacking (state : PagingState) (index : Nat) (allocation : PagedAllocation) : Prop :=
  (∃ memory, allocation.fbPagesMem = some memory
      ∧ state.fbPages[memory]? = some ⟨some index, 0⟩)
    ∨ (∃ memory, allocation.pagesMem = some memory
      ∧ state.systemPages[memory]? = some ⟨some index, 0⟩)
    ∨ allocation.fileStorage = some index

/-- An allocation is in the segment where it was, with its data. -/
def Kept (before after : PagingState) (index : Nat) : Prop :=
  ∃ allocation kept, before.allocation? index = some allocation
    ∧ after.allocation? index = some kept ∧ kept.segmentId = allocation.segmentId
    ∧ after.HasBacking index kept

/-- Memory has one owner at all times, and an operation that fails leaves its allocation where
it is.
-/
structure PagingOwned (state : PagingState) : Prop where
  video : state.OneOwner state.fbPages PagedAllocation.fbPagesMem
  system : state.OneOwner state.systemPages PagedAllocation.pagesMem
  failed : ∀ action next status, state.keepsOwner action = true
    → state.perform action = some (next, status) → status ≠ .ok
    → state.Kept next action.index

/-- Ownership in terms of allocations and objects. -/
theorem oneOwner {objects : List MemoryObject} {memoryOf : PagedAllocation → Option Nat}
    (owned : Owned (state.allocations.map (·.bind memoryOf)) (objects.map MemoryObject.freed))
    : state.OneOwner objects memoryOf := by
  have holds : ∀ {index memory : Nat} {allocation : PagedAllocation},
      state.allocation? index = some allocation → memoryOf allocation = some memory
      → (state.allocations.map (·.bind memoryOf))[index]? = some (some memory) := by
    intro index memory allocation found refers
    rw [List.getElem?_map, getElem?_of_allocation? found, ← refers]
    rfl
  constructor
  · intro index memory allocation found refers
    have live := owned.live (holds found refers)
    rw [List.getElem?_map] at live
    obtain ⟨object, at_, unfreed⟩ := Option.map_eq_some_iff.mp live
    exact ⟨object, at_, unfreed⟩
  · intro index other memory allocation another found found' refers refers'
    exact owned.unique (holds found refers) (holds found' refers')
  · intro memory object at_ unreferenced
    have bound : memory < (objects.map MemoryObject.freed).length := by
      rw [List.length_map]
      exact (List.getElem?_eq_some_iff.mp at_).1
    have gone := owned.gone bound (by
      intro place held
      rw [List.getElem?_map] at held
      obtain ⟨entry, found, refers⟩ := Option.map_eq_some_iff.mp held
      obtain ⟨allocation, rfl, refers'⟩ := Option.bind_eq_some_iff.mp refers
      exact unreferenced place allocation (allocation?_of_getElem? found) refers')
    rw [List.getElem?_map, at_] at gone
    exact Option.some.inj gone

/-- An object that was not freed and has data. -/
theorem object_of_live {objects : List MemoryObject} {memory : Nat}
    (data : objects[memory]?.bind MemoryObject.data = some index)
    (live : (objects.map MemoryObject.freed)[memory]? = some 0)
    : objects[memory]? = some ⟨some index, 0⟩ := by
  obtain ⟨⟨data', freed⟩, at_, rfl⟩ := Option.bind_eq_some_iff.mp data
  rw [List.getElem?_map, at_] at live
  obtain rfl : freed = 0 := Option.some.inj live
  exact at_

/-- An allocation has backing while the invariant holds. -/
theorem Sound.hasBacking (sound : state.Sound)
    (found : state.allocation? index = some allocation)
    : state.HasBacking index allocation := by
  have placed := sound.placed index allocation found
  have backed := sound.backed index allocation found
  cases isLocal : state.isLocal allocation.segmentId with
  | true =>
      obtain ⟨memory, held⟩ := Option.isSome_iff_exists.mp (placed.inLocal isLocal).1
      have live := sound.video.live ((videoHeld_at found).trans (congrArg some held))
      exact .inl ⟨memory, held, object_of_live (backed.fbPagesMem memory held) live⟩
  | false =>
      have either := (placed.remote isLocal).2
      cases held : allocation.pagesMem with
      | some memory =>
          have live := sound.system.live ((systemHeld_at found).trans (congrArg some held))
          exact .inr (.inl ⟨memory, held, object_of_live (backed.pagesMem memory held) live⟩)
      | none =>
          rw [held] at either
          cases stored : allocation.fileStorage with
          | none =>
              rw [stored] at either
              cases either
          | some data =>
              exact .inr (.inr (stored.trans (congrArg some (backed.fileStorage data stored))))

/-- A failed operation leaves the segment of its allocation. -/
theorem Sound.failed {action : OwnerAction} (sound : state.Sound)
    (permitted : state.keepsOwner action = true) (h : state.perform action = some (next, status))
    (failed : status ≠ .ok)
    : ∃ allocation kept, state.allocation? action.index = some allocation
      ∧ next.allocation? action.index = some kept ∧ kept.segmentId = allocation.segmentId := by
  cases action with
  | evict index outcome =>
      obtain ⟨allocation, found, ⟨_, rfl | rfl⟩ | ⟨ok, _⟩⟩ := vidmmUnresidentOneAllocation_cases h
      · exact ⟨allocation, allocation, found, found, rfl⟩
      · exact ⟨allocation, allocation, found, found, rfl⟩
      · exact absurd ok failed
  | pageIn index outcome =>
      obtain ⟨allocation, found, resident⟩ := vidmmResidentOneAllocation_cases h
      refine ⟨allocation, ?_⟩
      cases resident with
      | shared _ _ => exact ⟨allocation, found, found, rfl⟩
      | inSystem _ _ => exact absurd rfl failed
      | rejected _ read _ swaps _ => exact ⟨read, found, swaps.found found, swaps.frame.2.2.2.1⟩
      | noRoom entered read evictions _ _ swaps none evicts _ =>
          exact ⟨read, found, (sound.readKept found swaps none evicts).2, swaps.frame.2.2.2.1⟩
      | failed entered read evictions after segmentId swaps none evicts _ =>
          exact ⟨read, found, (sound.readKept found swaps none evicts).2, swaps.frame.2.2.2.1⟩
      | moved _ _ _ _ _ _ _ _ _ _ _ _ _ => exact absurd rfl failed
  | save index outcome =>
      obtain ⟨allocation, found, rfl | rfl | ⟨memory, out, rfl⟩⟩ := vidmmSaveAllocation_cases h
      · exact ⟨allocation, allocation, found, found, rfl⟩
      · exact ⟨allocation, allocation, found, found, rfl⟩
      · exact ⟨allocation, _, found, allocation?_setAllocation found _, rfl⟩
  | restore index outcome =>
      obtain ⟨allocation, found, restored⟩ := vidmmRestoreAllocation_cases
        (fun allocation found => sound.inLocal allocation found) h
      refine ⟨allocation, ?_⟩
      cases restored with
      | elsewhere => exact absurd rfl failed
      | flagged => exact absurd rfl failed
      | rejected _ read _ swaps _ => exact ⟨read, found, swaps.found found, swaps.frame.2.2.2.1⟩
      | failed _ isLocal needed lacks =>
          exact absurd lacks (keepsOwner_commands found permitted isLocal needed)
      | moved _ _ _ _ _ _ _ _ => exact absurd rfl failed

/-- After any run of evictions, page-ins, saves and restores in which no restore lacks copy
commands only, memory has one owner, and what fails keeps its allocation.
-/
theorem paging_owned
    (reached : ownerSystem.ReachableUnder (fun state action => state.keepsOwner action = true)
      state)
    : state.PagingOwned := by
  have sound : state.Sound := by
    apply reached.invariant
    · exact fun _ begins => begins
    · intro before action after sound permitted taken
      obtain ⟨⟨after, status⟩, performed, rfl⟩ := Option.map_eq_some_iff.mp taken
      exact sound.perform permitted performed
  refine ⟨oneOwner sound.video, oneOwner sound.system, ?_⟩
  intro action next status permitted performed failed
  obtain ⟨allocation, kept, found, found', same⟩ := sound.failed permitted performed failed
  exact ⟨allocation, kept, found, found', same,
    (sound.perform permitted performed).hasBacking found'⟩

/-- An allocation of a page that has some memory. -/
def onePage (segmentId : Nat) (pagesMem fbPagesMem : Option Nat) : PagedAllocation where
  size := 4096
  segmentId := segmentId
  preferredSegment := [segmentIdLocal]
  pagesMem := pagesMem
  fbPagesMem := fbPagesMem
  fileStorage := none
  global := false
  needSaveWhenAcpi := true
  tempUnpagable := 0

/-- One allocation is in local memory, another one in the cache list. -/
def twoAllocations : PagingState where
  systemOnly := false
  pagingSegmentId := segmentIdPcieUnsnoopable
  osPageShift := 12
  usedSize := fun _ => 4096
  usedPagesNum := 1
  fbPages := [⟨some 0, 0⟩]
  systemPages := [⟨some 1, 0⟩]
  allocations :=
    [some (onePage segmentIdLocal none (some 0)), some (onePage segmentIdInvalid (some 0) none)]
  segmentMemories := []

/-- The two allocations are well formed, each position on its own. -/
theorem twoAllocations_sound : twoAllocations.Sound := by
  have cases_ : ∀ {index : Nat} {allocation : PagedAllocation},
      twoAllocations.allocation? index = some allocation
      → (index = 0 ∧ allocation = onePage segmentIdLocal none (some 0))
        ∨ (index = 1 ∧ allocation = onePage segmentIdInvalid (some 0) none) := by
    intro index allocation found
    match index with
    | 0 => exact .inl ⟨rfl, (Option.some.inj found).symm⟩
    | 1 => exact .inr ⟨rfl, (Option.some.inj found).symm⟩
    | index + 2 => cases found
  constructor
  · constructor
    · intro thing times counted
      match thing with
      | 0 =>
          obtain rfl := Option.some.inj counted
          rfl
      | thing + 1 => cases counted
    · intro place thing holds
      match place with
      | 0 =>
          obtain rfl := Option.some.inj (Option.some.inj holds)
          exact Nat.one_pos
      | 1 => cases holds
      | place + 2 => cases holds
  · constructor
    · intro thing times counted
      match thing with
      | 0 =>
          obtain rfl := Option.some.inj counted
          rfl
      | thing + 1 => cases counted
    · intro place thing holds
      match place with
      | 0 => cases holds
      | 1 =>
          obtain rfl := Option.some.inj (Option.some.inj holds)
          exact Nat.one_pos
      | place + 2 => cases holds
  · intro index allocation found
    rcases cases_ found with ⟨rfl, rfl⟩ | ⟨rfl, rfl⟩
    · exact ⟨fun _ => ⟨rfl, rfl⟩, nofun⟩
    · exact ⟨nofun, fun _ => ⟨rfl, rfl⟩⟩
  · intro index allocation found
    rcases cases_ found with ⟨rfl, rfl⟩ | ⟨rfl, rfl⟩
    · refine ⟨fun memory held => ?_, nofun, nofun⟩
      obtain rfl := Option.some.inj held
      rfl
    · refine ⟨nofun, fun memory held => ?_, nofun⟩
      obtain rfl := Option.some.inj held
      rfl
  · rfl

/-- One operation, without the status. -/
def performed (state : PagingState) (action : OwnerAction) : Option PagingState :=
  (state.perform action).map Prod.fst

/-- There is room everywhere after an eviction of the first allocation. -/
def pageInEvicts (buildPagingBuffer : Bool) : PageInOutcome where
  getSystemPages := true
  swapIn := true
  allocates := fun _ => false
  evictions := [(0, ⟨true, true⟩)]
  allocatesAfter := fun _ => true
  buildPagingBuffer := buildPagingBuffer

/-- The second allocation is paged in once and for all, in place of the first one, and is
saved and restored.
-/
def ownedActions : List OwnerAction :=
  [.pageIn 1 (pageInEvicts false), .pageIn 1 (pageInEvicts true), .save 1 ⟨true, true⟩,
    .restore 1 (pageInEvicts true)]

/-- The state these operations end in. -/
def ownedOnce : Option PagingState := System.replay performed twoAllocations ownedActions

/-- The operations can be performed. -/
theorem ownedOnce_isSome : ownedOnce.isSome := by rfl

/-- Memory has one owner there, and what nobody refers to was freed once. -/
theorem paging_owned_ownedOnce
    : (ownedOnce.get ownedOnce_isSome).fbPages = [⟨some 0, 1⟩, ⟨none, 1⟩, ⟨some 1, 0⟩]
      ∧ (ownedOnce.get ownedOnce_isSome).PagingOwned := by
  refine ⟨by rfl, paging_owned ?_⟩
  exact .replay ownedActions twoAllocations_sound (by decide)
    (Option.some_get ownedOnce_isSome).symm

/-- The first allocation is saved, and to restore it lacks the copy commands only. -/
def restoreFails : Option PagingState :=
  System.replay performed twoAllocations
    [.save 0 ⟨true, true⟩, .restore 0 (pageInEvicts false)]

/-- The operations can be performed. -/
theorem restoreFails_isSome : restoreFails.isSome := by rfl

/-- The allocation refers to local memory that was freed. -/
theorem paging_not_owned
    : (∃ state allocation, ownerSystem.Reachable state ∧ state.allocation? 0 = some allocation
        ∧ allocation.fbPagesMem = some 0 ∧ state.fbPages[0]? = some ⟨some 0, 1⟩)
      ∧ ¬ ∀ state, ownerSystem.Reachable state → state.PagingOwned := by
  have reached : ownerSystem.Reachable (restoreFails.get restoreFails_isSome) :=
    .replay _ twoAllocations_sound (Option.some_get restoreFails_isSome).symm
  have found : (restoreFails.get restoreFails_isSome).allocation? 0
      = some (onePage segmentIdLocal (some 1) (some 0)) := by
    rfl
  have freed : (restoreFails.get restoreFails_isSome).fbPages[0]? = some ⟨some 0, 1⟩ := by
    rfl
  refine ⟨⟨_, _, reached, found, rfl, freed⟩, fun owned => ?_⟩
  obtain ⟨object, at_, unfreed⟩ := (owned _ reached).video.live 0 0 _ found rfl
  obtain rfl := Option.some.inj (freed.symm.trans at_)
  cases unfreed

end PagingState

end Cx4Kernel.Vidmm
