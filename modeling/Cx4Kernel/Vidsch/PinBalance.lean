import Cx4Kernel.Foundation.Bag
import Cx4Kernel.Vidmm.UpdateMapping

/-! Pinning the allocations of render tasks. Preparation pins entry by entry and can stop at
any of them, release unpins all entries or none.
-/

namespace Cx4Kernel.Vidsch

open Cx4Kernel.Foundation
open Cx4Kernel.Vidmm

variable {Pages : Type}

/-- `task_dma_t`, with the pins it holds. -/
structure TaskDma where
  device : Nat
  /-- `primary_allocation_list`, whose entries may be `NULL` -/
  primary : List (Option Nat)
  /-- `resident_allocation_list`, whose entries may be `NULL` -/
  resident : List (Option Nat)
  /-- `flag.has_resident` -/
  hasResident : Bool
  hasPrepared : Bool
  /-- the allocations at the list positions that preparation has pinned -/
  pinned : List Nat

/-- The adapter, and the live tasks in no particular order. -/
structure PinState (Pages : Type) where
  mapping : MappingState Pages
  tasks : List TaskDma

-----------------------------------------------------------------------------------------
-- Preparation
-----------------------------------------------------------------------------------------

/-- How the inner steps for one entry turn out. -/
abbrev EntrySteps (Pages : Type) := Option Pages × (Nat → NodeSteps)

/-- The entries of an allocation list with their steps. -/
def listEntries (addresses : List (Option Nat)) (steps : Nat → EntrySteps Pages)
    : List (ListEntry Pages) :=
  addresses.mapIdx fun position address => ⟨address, (steps position).1, (steps position).2⟩

/-- The allocations that the loop of `vidmm_allocation_list_update_mapping` pins. -/
def pinnedFrom (device : Nat)
    : List (ListEntry Pages) → MappingState Pages → Option (VmUpdateTask Pages) → List Nat
  | [], _, _ => []
  | entry :: rest, state, task =>
      let update := entry.update device state task
      let next := entry.submitOverThreshold rest.isEmpty update
      entry.address.toList
        ++ if update.succeeded then pinnedFrom device rest next.1 next.2 else []

/-- `vidsch_prepare_dma_task`, here or in a vm-prepare task, where
`vidsch_submit_vm_prepare_task` does the same.
-/
def vidschPrepareDmaTask (state : MappingState Pages) (task : TaskDma)
    (primarySteps residentSteps : Nat → EntrySteps Pages)
    : MappingState Pages × TaskDma :=
  let primary := listEntries task.primary primarySteps
  let resident := listEntries task.resident residentSteps
  let first := vidmmAllocationListUpdateMapping task.device state primary
  let pinned := pinnedFrom task.device primary state none
  if first.2 then
    let second := vidmmAllocationListUpdateMapping task.device first.1 resident
    (second.1,
      { task with
        hasPrepared := true
        hasResident := second.2
        pinned := pinned ++ pinnedFrom task.device resident first.1 none })
  else (first.1, { task with hasPrepared := true, pinned := pinned })

/-- A loop of `vidschi_release_dma_task`; `none` where `vidmm_mark_pagable` reads `NULL`. -/
def markListPagable : List (Option Nat) → MappingState Pages → Option (MappingState Pages)
  | [], state => some state
  | none :: _, _ => none
  | some address :: rest, state =>
      markListPagable rest (state.set address (vidmmMarkPagable (state.allocations address)))

/-- `vidschi_release_dma_task`. The entries it clears are freed with the task. -/
def vidschiReleaseDmaTask (state : MappingState Pages) (task : TaskDma)
    : Option (MappingState Pages) :=
  if task.hasResident then do
    let state ← markListPagable task.primary state
    markListPagable task.resident state
  else some state

-----------------------------------------------------------------------------------------
-- Runs
-----------------------------------------------------------------------------------------

/-- What the workers do with the tasks. Submitting a task, or discarding it, leaves its pins
alone.
-/
inductive PinAction (Pages : Type) where
  | create (device : Nat) (primary resident : List (Option Nat))
  | prepare (position : Nat) (primarySteps residentSteps : Nat → EntrySteps Pages)
  | release (position : Nat)
  /-- nodes come and go, and an allocation nobody has pinned is evicted -/
  | map (address device : Nat) (shared : Bool)
  | unmap (address node : Nat)
  | evict (address : Nat)

namespace PinState

/-- One step; `none` for a step that is not possible or that reads `NULL`. -/
def next (state : PinState Pages) : PinAction Pages → Option (PinState Pages)
  | .create device primary resident =>
      some { state with tasks := ⟨device, primary, resident, false, false, []⟩ :: state.tasks }
  | .prepare position primarySteps residentSteps => do
      let task ← state.tasks[position]?
      if task.hasPrepared then none
      else
        let prepared := vidschPrepareDmaTask state.mapping task primarySteps residentSteps
        return ⟨prepared.1, prepared.2 :: state.tasks.eraseIdx position⟩
  | .release position => do
      let task ← state.tasks[position]?
      let mapping ← vidschiReleaseDmaTask state.mapping task
      return ⟨mapping, state.tasks.eraseIdx position⟩
  | .map address device shared =>
      some { state with mapping := state.mapping.mapNode address device shared }
  | .unmap address node =>
      some { state with mapping := state.mapping.unmapNode address node }
  | .evict address => do
      let mapping ← state.mapping.evict address
      return { state with mapping := mapping }

end PinState

/-- No task is there and nothing is pinned. -/
def PinState.Unpinned (state : PinState Pages) : Prop :=
  state.tasks = [] ∧ ∀ address, (state.mapping.allocations address).tempUnpagable = 0

/-- The tasks of an adapter over time. -/
def pinSystem (Pages : Type) : System (PinState Pages) (PinAction Pages) :=
  .ofFunction PinState.Unpinned PinState.next

/-- No entry of a list is `NULL` and none of them fails. -/
def SucceedsFrom (device : Nat)
    : List (ListEntry Pages) → MappingState Pages → Option (VmUpdateTask Pages) → Prop
  | [], _, _ => True
  | entry :: rest, state, task =>
      let update := entry.update device state task
      let next := entry.submitOverThreshold rest.isEmpty update
      entry.address.isSome = true ∧ update.succeeded = true
        ∧ SucceedsFrom device rest next.1 next.2

/-- No entry of a task is `NULL` when it is prepared, and no step of the preparation fails. -/
def PrepareSucceeds (state : MappingState Pages) (task : TaskDma)
    (primarySteps residentSteps : Nat → EntrySteps Pages)
    : Prop :=
  let primary := listEntries task.primary primarySteps
  let resident := listEntries task.resident residentSteps
  SucceedsFrom task.device primary state none
  ∧ SucceedsFrom task.device resident
      (vidmmAllocationListUpdateMapping task.device state primary).1 none

/-- The preparations of a run succeed. -/
def PreparesSucceed (state : PinState Pages) : PinAction Pages → Prop
  | .prepare position primarySteps residentSteps =>
      ∀ task ∈ state.tasks[position]?,
        PrepareSucceeds state.mapping task primarySteps residentSteps
  | _ => True

-----------------------------------------------------------------------------------------
-- Counting pins
-----------------------------------------------------------------------------------------

section Pins

variable {device : Nat} {state : MappingState Pages} {task : Option (VmUpdateTask Pages)}

/-- The pins of an allocation. -/
def pins (state : MappingState Pages) (address : Nat) : Int :=
  (state.allocations address).tempUnpagable

/-- Replacing an allocation changes its own pins only. -/
theorem pins_set (state : MappingState Pages) (changed address : Nat)
    (allocation : MappedAllocation Pages)
    : pins (state.set changed allocation) address
      = if address = changed then allocation.tempUnpagable else pins state address := by
  simp only [pins, MappingState.set, Function.update_apply]
  split
  · rfl
  · rfl

/-- Replacing an allocation by one with the same pins changes none. -/
theorem pins_set_same (state : MappingState Pages) (changed address : Nat)
    (allocation : MappedAllocation Pages)
    (same : allocation.tempUnpagable = (state.allocations changed).tempUnpagable)
    : pins (state.set changed allocation) address = pins state address := by
  rw [pins_set]
  split
  · next here => rw [same, here, pins]
  · rfl

/-- Submitting a task changes no pins. -/
theorem pins_submit (state : MappingState Pages) (task : Option (VmUpdateTask Pages))
    (address : Nat)
    : pins (state.submit task) address = pins state address := by
  cases task <;> rfl

/-- Pinning counts whether or not the allocation can be made resident. -/
theorem vidmmPrepareAndMarkUnpagable_tempUnpagable (allocation : MappedAllocation Pages)
    (found : Option Pages)
    : (vidmmPrepareAndMarkUnpagable allocation found).1.tempUnpagable
      = allocation.tempUnpagable + 1 := by
  simp only [vidmmPrepareAndMarkUnpagable, vidmmMakeResidentLocked]
  split
  · rfl
  · cases found with
    | none => rfl
    | some pages => rfl

/-- An entry pins its allocation once, however its update ends. -/
theorem pins_update (entry : ListEntry Pages) (address : Nat)
    : pins (entry.update device state task).state address
      = pins state address + entry.address.toList.count address := by
  unfold ListEntry.update
  split
  · next null => simp [null]
  · next pinned found =>
      have pin : pins (state.set pinned
            (vidmmPrepareAndMarkUnpagable (state.allocations pinned) entry.found).1) address
          = pins state address + [pinned].count address := by
        rw [pins_set, vidmmPrepareAndMarkUnpagable_tempUnpagable]
        rcases eq_or_ne address pinned with rfl | different
        · simp [pins]
        · simp [different, Ne.symm different]
      rw [found, Option.toList_some, ← pin]
      dsimp only
      split
      · exact pins_set_same _ _ _ _ rfl
      · rfl

/-- A list call pins the allocations of `pinnedFrom`, by induction on the entries. -/
theorem pins_updateMappingFrom (entries : List (ListEntry Pages)) (address : Nat)
    : pins (updateMappingFrom device entries state task).1 address
      = pins state address + (pinnedFrom device entries state task).count address := by
  induction entries generalizing state task with
  | nil => simp [updateMappingFrom, pinnedFrom, pins_submit]
  | cons entry rest ih =>
      have pin := @pins_update _ device state task entry address
      have next : pins (entry.submitOverThreshold rest.isEmpty
            (entry.update device state task)).1 address
          = pins (entry.update device state task).state address := by
        simp only [ListEntry.submitOverThreshold]
        split
        · exact pins_submit _ _ _
        · rfl
      unfold updateMappingFrom pinnedFrom
      dsimp only
      split
      · rw [ih, next, pin, List.count_append]
        push_cast
        omega
      · rw [pin, List.append_nil]

/-- A list call that succeeds pins every entry, by induction on the entries. -/
theorem pinnedFrom_of_succeeds (entries : List (ListEntry Pages))
    (h : SucceedsFrom device entries state task)
    : (updateMappingFrom device entries state task).2 = true
      ∧ entries.map ListEntry.address
        = (pinnedFrom device entries state task).map some := by
  induction entries generalizing state task with
  | nil => exact ⟨rfl, rfl⟩
  | cons entry rest ih =>
      obtain ⟨isSome, succeeded, later⟩ := h
      obtain ⟨address, found⟩ := Option.isSome_iff_exists.mp isSome
      obtain ⟨done, pinned⟩ := ih later
      unfold updateMappingFrom pinnedFrom
      dsimp only
      rw [if_pos succeeded, if_pos succeeded]
      refine ⟨done, ?_⟩
      rw [List.map_cons, pinned, found]
      rfl

/-- The entries of a list have its addresses. -/
theorem listEntries_address (addresses : List (Option Nat)) (steps : Nat → EntrySteps Pages)
    : (listEntries addresses steps).map ListEntry.address = addresses := by
  refine List.ext_getElem? fun position => ?_
  rw [List.getElem?_map, listEntries, List.getElem?_mapIdx, Option.map_map]
  exact Option.map_id_apply

/-- Releasing a list without `NULL` unpins each entry, by list induction. -/
theorem markListPagable_some (state : MappingState Pages) (addresses : List Nat)
    : ∃ after, markListPagable (addresses.map some) state = some after
        ∧ ∀ address, pins after address = pins state address - addresses.count address := by
  induction addresses generalizing state with
  | nil => exact ⟨state, rfl, fun address => by simp⟩
  | cons first rest ih =>
      obtain ⟨after, done, counts⟩ :=
        ih (state.set first (vidmmMarkPagable (state.allocations first)))
      refine ⟨after, done, fun address => ?_⟩
      rw [counts, pins_set, List.count_cons]
      split
      · next here =>
          subst here
          simp [vidmmMarkPagable, pins]
          omega
      · next other => simp [Ne.symm other]

end Pins

-----------------------------------------------------------------------------------------
-- Runs
-----------------------------------------------------------------------------------------

/-- A task holds no pins yet, or one for each of its entries, which are not `NULL`. -/
def TaskDma.Pinned (task : TaskDma) : Prop :=
  task.hasPrepared = false ∧ task.hasResident = false ∧ task.pinned = []
  ∨ task.hasPrepared = true ∧ task.hasResident = true
    ∧ ∃ primary resident,
        task.primary = primary.map some ∧ task.resident = resident.map some
        ∧ task.pinned = primary ++ resident

/-- Every pin is held by a live task. -/
structure PinState.Balanced (state : PinState Pages) : Prop where
  tasks : ∀ task ∈ state.tasks, task.Pinned
  pins
    : ∀ address,
        pins state.mapping address = (state.tasks.flatMap TaskDma.pinned).count address

/-- A preparation that succeeds pins each entry once. -/
theorem vidschPrepareDmaTask_pinned {state : MappingState Pages} {task : TaskDma}
    {primarySteps residentSteps : Nat → EntrySteps Pages}
    (h : PrepareSucceeds state task primarySteps residentSteps)
    : let prepared := vidschPrepareDmaTask state task primarySteps residentSteps
      prepared.2.Pinned
      ∧ ∀ address,
          pins prepared.1 address = pins state address + prepared.2.pinned.count address := by
  obtain ⟨primary, resident⟩ := h
  obtain ⟨donePrimary, pinnedPrimary⟩ := pinnedFrom_of_succeeds _ primary
  obtain ⟨doneResident, pinnedResident⟩ := pinnedFrom_of_succeeds _ resident
  rw [listEntries_address] at pinnedPrimary pinnedResident
  simp only [vidschPrepareDmaTask]
  rw [if_pos (show (vidmmAllocationListUpdateMapping _ _ _).2 = true from donePrimary)]
  constructor
  · exact .inr ⟨rfl, doneResident, _, _, pinnedPrimary, pinnedResident, rfl⟩
  · intro address
    rw [vidmmAllocationListUpdateMapping, pins_updateMappingFrom,
      vidmmAllocationListUpdateMapping, pins_updateMappingFrom, List.count_append]
    push_cast
    omega

/-- The release of a task gives up the pins it holds. -/
theorem vidschiReleaseDmaTask_pins (state : MappingState Pages) {task : TaskDma}
    (h : task.Pinned)
    : ∃ after, vidschiReleaseDmaTask state task = some after
        ∧ ∀ address, pins after address = pins state address - task.pinned.count address := by
  rcases h with ⟨-, absent, none⟩ | ⟨-, present, primary, resident, first, second, pinned⟩
  · refine ⟨state, by simp [vidschiReleaseDmaTask, absent], fun address => ?_⟩
    simp [none]
  · obtain ⟨middle, donePrimary, unpinnedPrimary⟩ :=
      markListPagable_some state primary
    obtain ⟨after, doneResident, unpinnedResident⟩ :=
      markListPagable_some middle resident
    refine ⟨after, ?_, fun address => ?_⟩
    · rw [vidschiReleaseDmaTask, if_pos present, first, second, donePrimary]
      exact doneResident
    · rw [unpinnedResident, unpinnedPrimary, pinned, List.count_append]
      push_cast
      omega

/-- Every step whose preparation succeeds keeps the pins balanced. -/
theorem PinState.next_balanced {state after : PinState Pages} {action : PinAction Pages}
    (h : state.Balanced) (succeeds : PreparesSucceed state action)
    (taken : state.next action = some after)
    : after.Balanced := by
  cases action with
  | create device primary resident =>
      cases taken
      refine ⟨?_, fun address => ?_⟩
      · rintro task (_ | ⟨_, member⟩)
        · exact .inl ⟨rfl, rfl, rfl⟩
        · exact h.tasks task member
      · rw [h.pins]
        rfl
  | prepare position primarySteps residentSteps =>
      obtain ⟨task, found, taken⟩ := Option.bind_eq_some_iff.mp taken
      have perm := Bag.perm_cons_eraseIdx found
      split at taken
      · cases taken
      next unprepared =>
      cases taken
      obtain ⟨pinned, counts⟩ := vidschPrepareDmaTask_pinned (succeeds task found)
      refine ⟨?_, fun address => ?_⟩
      · rintro other (_ | ⟨_, member⟩)
        · exact pinned
        · exact h.tasks other (perm.mem_iff.mpr (List.mem_cons_of_mem _ member))
      · have none : task.pinned = [] := by
          rcases h.tasks task (perm.mem_iff.mpr List.mem_cons_self) with ⟨-, -, none⟩ | ⟨done, -⟩
          · exact none
          · exact absurd done unprepared
        rw [counts, h.pins, Bag.count_flatMap_perm perm, List.flatMap_cons, List.flatMap_cons,
          none, List.nil_append, List.count_append]
        push_cast
        omega
  | release position =>
      obtain ⟨task, found, taken⟩ := Option.bind_eq_some_iff.mp taken
      obtain ⟨mapping, released, taken⟩ := Option.bind_eq_some_iff.mp taken
      cases taken
      have perm := Bag.perm_cons_eraseIdx found
      obtain ⟨_, done, counts⟩ := vidschiReleaseDmaTask_pins state.mapping
        (h.tasks task (perm.mem_iff.mpr List.mem_cons_self))
      cases released.symm.trans done
      refine ⟨fun other member => ?_, fun address => ?_⟩
      · exact h.tasks other (perm.mem_iff.mpr (List.mem_cons_of_mem _ member))
      · rw [counts, h.pins, Bag.count_flatMap_perm perm, List.flatMap_cons, List.count_append]
        push_cast
        omega
  | map address device shared =>
      cases taken
      let allocation := state.mapping.allocations address
      refine ⟨h.tasks, fun other => Eq.trans ?_ (h.pins other)⟩
      exact pins_set_same state.mapping address other { allocation with gpuVmList := _ } rfl
  | unmap address node =>
      cases taken
      let allocation := state.mapping.allocations address
      refine ⟨h.tasks, fun other => Eq.trans ?_ (h.pins other)⟩
      exact pins_set_same state.mapping address other { allocation with gpuVmList := _ } rfl
  | evict address =>
      obtain ⟨mapping, evicted, taken⟩ := Option.bind_eq_some_iff.mp taken
      cases taken
      simp only [MappingState.evict] at evicted
      split at evicted
      · cases evicted
        let allocation := state.mapping.allocations address
        refine ⟨h.tasks, fun other => Eq.trans ?_ (h.pins other)⟩
        exact pins_set_same state.mapping address other { allocation with resident := false } rfl
      · cases evicted

/-- In every run whose preparations succeed, with no `NULL` in their lists, each allocation
is pinned as often as live tasks hold pins on it, not at all once all tasks are released,
and every task can be released.
-/
theorem tempUnpagable_balanced {state : PinState Pages}
    (reached : (pinSystem Pages).ReachableUnder PreparesSucceed state)
    : (∀ address,
        (state.mapping.allocations address).tempUnpagable
        = (state.tasks.flatMap TaskDma.pinned).count address)
      ∧ (state.tasks = []
        → ∀ address, (state.mapping.allocations address).tempUnpagable = 0)
      ∧ ∀ position < state.tasks.length, (state.next (.release position)).isSome := by
  have balanced : state.Balanced := by
    apply reached.invariant
    · rintro first ⟨empty, unpinned⟩
      refine ⟨by simp [empty], fun address => ?_⟩
      rw [empty]
      exact unpinned address
    · intro before action after h succeeds taken
      exact PinState.next_balanced h succeeds taken
  refine ⟨balanced.pins, fun released address => ?_, fun position bound => ?_⟩
  · have counted := balanced.pins address
    rw [released] at counted
    exact counted
  · have found : state.tasks[position]? = some state.tasks[position] :=
      List.getElem?_eq_getElem bound
    obtain ⟨after, done, -⟩ := vidschiReleaseDmaTask_pins state.mapping
      (balanced.tasks _ (List.getElem_mem bound))
    simp [PinState.next, found, done]

/-- Nothing is pinned, and no allocation has a node. -/
def noneTasks : PinState Unit where
  mapping := ⟨fun _ => ⟨false, 0, (), 0, []⟩, [], 0⟩
  tasks := []

/-- Each allocation can be made resident, up to a position of the list. -/
def residentBefore (bound : Nat) (position : Nat) : EntrySteps Unit :=
  (if position < bound then some () else none, fun _ => ⟨true, true, true, true, 64⟩)

/-- A task that uses allocation 0 twice is prepared. -/
theorem tempUnpagable_balanced_repeated
    : ∃ state : PinState Unit,
        System.replay PinState.next noneTasks
            [.create 1 [some 0] [some 0, some 2], .prepare 0 (residentBefore 9) (residentBefore 9)]
          = some state
        ∧ (∀ address,
            (state.mapping.allocations address).tempUnpagable
            = (state.tasks.flatMap TaskDma.pinned).count address)
        ∧ (state.tasks = []
          → ∀ address, (state.mapping.allocations address).tempUnpagable = 0)
        ∧ ∀ position < state.tasks.length, (state.next (.release position)).isSome := by
  have begins : noneTasks.Unpinned := ⟨rfl, fun _ => rfl⟩
  refine ⟨_, rfl, tempUnpagable_balanced (System.ReachableUnder.replay
    [.create 1 [some 0] [some 0, some 2], .prepare 0 (residentBefore 9) (residentBefore 9)]
    begins ?_ rfl)⟩
  refine ⟨trivial, fun after created => ⟨?_, fun _ _ => trivial⟩⟩
  cases created
  rintro task ⟨⟩
  exact ⟨⟨rfl, rfl, trivial⟩, rfl, rfl, rfl, rfl, trivial⟩

/-- When the second of two allocations cannot be made resident, both stay pinned after the
task is gone. When a list has a `NULL` entry, the release of the prepared task reads it.
-/
theorem tempUnpagable_leaks
    : (∃ state : PinState Unit,
        System.replay PinState.next noneTasks
            [.create 1 [some 0, some 1] [], .prepare 0 (residentBefore 1) (residentBefore 1),
              .release 0]
          = some state
        ∧ state.tasks = [] ∧ (state.mapping.allocations 0).tempUnpagable = 1
        ∧ (state.mapping.allocations 1).tempUnpagable = 1)
      ∧ ∃ state : PinState Unit,
        System.replay PinState.next noneTasks
            [.create 1 [] [none], .prepare 0 (residentBefore 9) (residentBefore 9)]
          = some state
        ∧ state.tasks.length = 1 ∧ state.next (.release 0) = none :=
  ⟨⟨_, rfl, rfl, rfl, rfl⟩, ⟨_, rfl, rfl, rfl⟩⟩

end Cx4Kernel.Vidsch
