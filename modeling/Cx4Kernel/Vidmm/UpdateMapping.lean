import Mathlib.Logic.Function.Basic
import Cx4Kernel.Foundation.Transition

/-! Bringing the mappings of allocations up to date before a task runs,
`vidmm_allocation_list_update_mapping` and what it calls. Residency, task allocation and
page table updates can fail; how they turn out is given with each call.
-/

namespace Cx4Kernel.Vidmm

variable {Pages : Type}

/-- The PTE commands `vidmm_vm_update_ptes` writes for a `vm_node`, for the pages its
allocation has had since its `resident_age` was `age`.
-/
structure PteCommands (Pages : Type) where
  vmNode : Nat
  age : Int
  pages : Pages
deriving DecidableEq

/-- `task_vm_update_t`. -/
structure VmUpdateTask (Pages : Type) where
  dmaSize : Nat
  commands : List (PteCommands Pages)

/-- `zx_vm_node_t` of an allocation. -/
structure VmNode where
  /-- its address, which tells it from all other nodes -/
  address : Nat
  device : Nat
  /-- `zone->vma_space == adapter->reserved_vma` -/
  shared : Bool
  age : Int
deriving DecidableEq

/-- The fields of `vidmm_allocation_t` that residency and mappings depend on. -/
structure MappedAllocation (Pages : Type) where
  /-- `segment_id > 0` -/
  resident : Bool
  residentAge : Int
  /-- the pages it got when `resident_age` was last increased -/
  pages : Pages
  /-- `status.temp_unpagable` -/
  tempUnpagable : Int
  gpuVmList : List VmNode

/-- The commands that map the current pages of an allocation at a node. -/
def MappedAllocation.pteCommands (allocation : MappedAllocation Pages) (node : VmNode)
    : PteCommands Pages :=
  ⟨node.address, allocation.residentAge, allocation.pages⟩

-----------------------------------------------------------------------------------------
-- Residency
-----------------------------------------------------------------------------------------

/-- `vidmm_make_resident_locked`, with the pages it finds or `none` where it fails. -/
def vidmmMakeResidentLocked (allocation : MappedAllocation Pages) (found : Option Pages)
    : MappedAllocation Pages × Bool :=
  if allocation.resident then (allocation, true)
  else
    match found with
    | none => (allocation, false)
    | some pages =>
        ({ allocation with
            resident := true
            pages := pages
            residentAge := allocation.residentAge + 1 },
          true)

/-- `vidmm_prepare_and_mark_unpagable`. -/
def vidmmPrepareAndMarkUnpagable (allocation : MappedAllocation Pages)
    (found : Option Pages)
    : MappedAllocation Pages × Bool :=
  vidmmMakeResidentLocked
    { allocation with tempUnpagable := allocation.tempUnpagable + 1 } found

/-- `vidmm_mark_pagable`. -/
def vidmmMarkPagable (allocation : MappedAllocation Pages) : MappedAllocation Pages :=
  { allocation with tempUnpagable := allocation.tempUnpagable - 1 }

-----------------------------------------------------------------------------------------
-- One allocation
-----------------------------------------------------------------------------------------

/-- `MAX_UPDATE_VM_DMA_SIZE`. -/
def maxUpdateVmDmaSize : Nat := 8 * 4096

/-- How the inner steps of the update of one node turn out. -/
structure NodeSteps where
  /-- `vidsch_allocate_vm_update_task` finds the memory -/
  allocated : Bool
  /-- `vidmm_vm_alloc_pd` succeeds -/
  allocPd : Bool
  /-- `vidmm_vm_update_pd` succeeds -/
  updatePd : Bool
  /-- `vidmm_vm_update_ptes` succeeds -/
  updatePtes : Bool
  /-- what the commands add to `dma_size` -/
  growth : Nat

/-- What the update of one node leaves behind. -/
structure NodeUpdate (Pages : Type) where
  vmNode : VmNode
  /-- `*update_vm_task` -/
  task : Option (VmUpdateTask Pages)
  succeeded : Bool

/-- `vidmm_vm_update_mapping`. Commands of an update that fails part way are not complete,
and are not counted.
-/
def vidmmVmUpdateMapping (allocation : MappedAllocation Pages) (steps : NodeSteps)
    (task : VmUpdateTask Pages) (node : VmNode)
    : VmUpdateTask Pages × Bool :=
  let grown := { task with dmaSize := task.dmaSize + steps.growth }
  if steps.allocPd && steps.updatePd && steps.updatePtes then
    ({ grown with commands := task.commands ++ [allocation.pteCommands node] }, true)
  else (grown, false)

/-- `vidsch_allocate_vm_update_task`, where there is no task yet. -/
def taskInHand (steps : NodeSteps) : Option (VmUpdateTask Pages) → Option (VmUpdateTask Pages)
  | some task => some task
  | none => if steps.allocated then some ⟨maxUpdateVmDmaSize, []⟩ else none

/-- The body of the loop of `vidmmi_allocation_update_mapping`. -/
def updateVmNode (device : Nat) (allocation : MappedAllocation Pages) (steps : NodeSteps)
    (task : Option (VmUpdateTask Pages)) (node : VmNode)
    : NodeUpdate Pages :=
  let current := { node with age := allocation.residentAge }
  if node.device ≠ device ∨ allocation.residentAge ≤ node.age then ⟨node, task, true⟩
  -- `map_shared_buffer` writes the shared page table at once
  else if node.shared then ⟨current, task, true⟩
  else
    match taskInHand steps task with
    | none => ⟨node, none, false⟩
    | some task =>
        let updated := vidmmVmUpdateMapping allocation steps task node
        ⟨if updated.2 then current else node, some updated.1, updated.2⟩

/-- What the update of the nodes of an allocation leaves behind. -/
structure NodesUpdate (Pages : Type) where
  vmNodes : List VmNode
  task : Option (VmUpdateTask Pages)
  succeeded : Bool

/-- The loop of `vidmmi_allocation_update_mapping`, with the steps of the node at each
position.
-/
def updateVmNodes (device : Nat) (allocation : MappedAllocation Pages)
    (steps : Nat → NodeSteps)
    : List VmNode → (position : Nat) → Option (VmUpdateTask Pages) → NodesUpdate Pages
  | [], _, task => ⟨[], task, true⟩
  | node :: rest, position, task =>
      let first := updateVmNode device allocation (steps position) task node
      if first.succeeded then
        let later := updateVmNodes device allocation steps rest (position + 1) first.task
        { later with vmNodes := first.vmNode :: later.vmNodes }
      else ⟨first.vmNode :: rest, first.task, false⟩

-----------------------------------------------------------------------------------------
-- Lists of allocations
-----------------------------------------------------------------------------------------

/-- The allocations by address, and the tasks that were passed to
`vidsch_submit_vm_update_task`.
-/
structure MappingState (Pages : Type) where
  allocations : Nat → MappedAllocation Pages
  submitted : List (VmUpdateTask Pages)
  /-- the next address for a node -/
  nextVmNode : Nat

namespace MappingState

/-- The commands of the tasks submitted so far. -/
def submittedCommands (state : MappingState Pages) : List (PteCommands Pages) :=
  state.submitted.flatMap VmUpdateTask.commands

/-- Change one allocation. -/
def set (state : MappingState Pages) (address : Nat) (allocation : MappedAllocation Pages)
    : MappingState Pages :=
  { state with allocations := Function.update state.allocations address allocation }

/-- `if (update_vm_task) vidsch_submit_vm_update_task(adapter, update_vm_task)`. -/
def submit (state : MappingState Pages) : Option (VmUpdateTask Pages) → MappingState Pages
  | none => state
  | some task => { state with submitted := state.submitted ++ [task] }

end MappingState

/-- What the update of one allocation leaves behind. -/
structure AllocationUpdate (Pages : Type) where
  state : MappingState Pages
  task : Option (VmUpdateTask Pages)
  succeeded : Bool

/-- `vidmmi_allocation_update_mapping` with a pointer to a task. -/
def vidmmiAllocationUpdateMapping (device : Nat) (state : MappingState Pages)
    (address : Nat) (steps : Nat → NodeSteps) (task : Option (VmUpdateTask Pages))
    : AllocationUpdate Pages :=
  let allocation := state.allocations address
  let updated := updateVmNodes device allocation steps allocation.gpuVmList 0 task
  ⟨state.set address { allocation with gpuVmList := updated.vmNodes }, updated.task,
    updated.succeeded⟩

/-- `vidmmi_allocation_update_mapping` without a task, for the reserved context: a failed
assertion (`none`) when a private node is not up to date.
-/
def vidmmiReservedUpdateMapping (device : Nat) (state : MappingState Pages) (address : Nat)
    : Option (MappingState Pages) := do
  let allocation := state.allocations address
  let vmNodes ← allocation.gpuVmList.mapM fun node =>
    if node.device ≠ device ∨ allocation.residentAge ≤ node.age then some node
    else if node.shared then some { node with age := allocation.residentAge }
    else none
  return state.set address { allocation with gpuVmList := vmNodes }

/-- `vidmm_allocation_update_mapping`, for another than the reserved context. -/
def vidmmAllocationUpdateMapping (device : Nat) (state : MappingState Pages) (address : Nat)
    (steps : Nat → NodeSteps)
    : MappingState Pages × Bool :=
  let update := vidmmiAllocationUpdateMapping device state address steps none
  (if update.succeeded then update.state.submit update.task else update.state,
    update.succeeded)

/-- An entry of an allocation list, which may be `NULL`, with its steps. -/
structure ListEntry (Pages : Type) where
  address : Option Nat
  /-- for `vidmm_make_resident_locked` -/
  found : Option Pages
  steps : Nat → NodeSteps

/-- The size of commands that is submitted without waiting for the rest. -/
def submitThreshold : Nat := 1024 * 4096

/-- The body of the loop of `vidmm_allocation_list_update_mapping`, up to the threshold. -/
def ListEntry.update (entry : ListEntry Pages) (device : Nat) (state : MappingState Pages)
    (task : Option (VmUpdateTask Pages))
    : AllocationUpdate Pages :=
  match entry.address with
  | none => ⟨state, task, true⟩
  | some address =>
      let prepared := vidmmPrepareAndMarkUnpagable (state.allocations address) entry.found
      let state := state.set address prepared.1
      if prepared.2 then vidmmiAllocationUpdateMapping device state address entry.steps task
      else ⟨state, task, false⟩

/-- The end of the loop body, which `continue` leaves out for `NULL`. `last` stands for
`i == list_count - 1`.
-/
def ListEntry.submitOverThreshold (entry : ListEntry Pages) (last : Bool)
    (update : AllocationUpdate Pages)
    : MappingState Pages × Option (VmUpdateTask Pages) :=
  let large := update.task.any fun task => decide (submitThreshold < task.dmaSize)
  if entry.address.isSome && large && !last then (update.state.submit update.task, none)
  else (update.state, update.task)

/-- The loop of `vidmm_allocation_list_update_mapping` and its end. -/
def updateMappingFrom (device : Nat)
    : List (ListEntry Pages) → MappingState Pages → Option (VmUpdateTask Pages)
      → MappingState Pages × Bool
  | [], state, task => (state.submit task, true)
  | entry :: rest, state, task =>
      let update := entry.update device state task
      if update.succeeded then
        let next := entry.submitOverThreshold rest.isEmpty update
        updateMappingFrom device rest next.1 next.2
      -- `goto exit`: the task in hand is released without being submitted
      else (update.state, false)

/-- `vidmm_allocation_list_update_mapping`. -/
def vidmmAllocationListUpdateMapping (device : Nat) (state : MappingState Pages)
    (entries : List (ListEntry Pages))
    : MappingState Pages × Bool :=
  updateMappingFrom device entries state none

namespace MappingState

/-- A node for `vidmm_vm_map_gpu_virtual_address`, added to the list. -/
def mapNode (state : MappingState Pages) (address device : Nat) (shared : Bool)
    : MappingState Pages :=
  let allocation := state.allocations address
  let node := ⟨state.nextVmNode, device, shared, allocation.residentAge - 1⟩
  { state.set address { allocation with gpuVmList := allocation.gpuVmList ++ [node] } with
    nextVmNode := state.nextVmNode + 1 }

/-- A node that `vidmm_vm_unmap_gpu_virtual_address` releases, taken off the list. -/
def unmapNode (state : MappingState Pages) (address node : Nat) : MappingState Pages :=
  let allocation := state.allocations address
  let remaining := allocation.gpuVmList.filter fun other => decide (other.address ≠ node)
  state.set address { allocation with gpuVmList := remaining }

/-- `vidmmi_segment_unresident_allocations` for one allocation, which is not pinned. -/
def evict (state : MappingState Pages) (address : Nat) : Option (MappingState Pages) :=
  let allocation := state.allocations address
  if allocation.tempUnpagable = 0 then
    some (state.set address { allocation with resident := false })
  else none

end MappingState

end Cx4Kernel.Vidmm
