import Mathlib.Data.List.Nodup
import Cx4Kernel.Vidmm.UpdateMapping

/-! A mapping that is marked up to date has its page table writes submitted, exactly as
long as no call fails with written commands in hand.
-/

namespace Cx4Kernel.Vidmm

open Cx4Kernel.Foundation

variable {Pages : Type}

/-- A node is private and has the age of its allocation, so no later call maps it again. -/
def MappedAllocation.MarkedCurrent (allocation : MappedAllocation Pages) (node : VmNode)
    : Prop :=
  node ∈ allocation.gpuVmList ∧ node.shared = false ∧ node.age = allocation.residentAge

/-- What the code relies on when it skips the nodes of an allocation marked current. -/
def MappingState.Submitted (state : MappingState Pages) (address : Nat) : Prop :=
  ∀ node, (state.allocations address).MarkedCurrent node
    → (state.allocations address).pteCommands node ∈ state.submittedCommands

/-- A call of one of the functions that bring mappings up to date. -/
inductive MappingCall (Pages : Type) where
  /-- `vidmm_allocation_list_update_mapping` -/
  | list (device : Nat) (entries : List (ListEntry Pages))
  /-- `vidmm_allocation_update_mapping` -/
  | single (device address : Nat) (steps : Nat → NodeSteps)
  /-- `vidmm_allocation_update_mapping` for the reserved context -/
  | reserved (device address : Nat)

namespace MappingCall

/-- The allocations handed to a call. -/
def addresses : MappingCall Pages → List Nat
  | list _ entries => entries.filterMap ListEntry.address
  | single _ address _ | reserved _ address => [address]

/-- The state in which a call returns. -/
def run (state : MappingState Pages) : MappingCall Pages → Option (MappingState Pages)
  | list device entries => some (vidmmAllocationListUpdateMapping device state entries).1
  | single device address steps =>
      some (vidmmAllocationUpdateMapping device state address steps).1
  | reserved device address => vidmmiReservedUpdateMapping device state address

end MappingCall

/-- The commands in the task in hand. -/
def inHand (task : Option (VmUpdateTask Pages)) : List (PteCommands Pages) :=
  task.elim [] VmUpdateTask.commands

/-- An update that fails does so with no commands in hand. -/
def AllocationUpdate.Careful (update : AllocationUpdate Pages) : Prop :=
  update.succeeded = false → inHand update.task = []

/-- No entry of a list fails with commands in hand. -/
def CarefulFrom (device : Nat)
    : List (ListEntry Pages) → MappingState Pages → Option (VmUpdateTask Pages) → Prop
  | [], _, _ => True
  | entry :: rest, state, task =>
      let update := entry.update device state task
      let next := entry.submitOverThreshold rest.isEmpty update
      update.Careful ∧ (update.succeeded = true → CarefulFrom device rest next.1 next.2)

/-- No step of a call fails with commands in hand. -/
def MappingCall.Careful (state : MappingState Pages) : MappingCall Pages → Prop
  | .list device entries => CarefulFrom device entries state none
  | .single device address steps =>
      (vidmmiAllocationUpdateMapping device state address steps none).Careful
  | .reserved _ _ => True

-----------------------------------------------------------------------------------------
-- Runs
-----------------------------------------------------------------------------------------

/-- What happens to the allocations of an adapter. -/
inductive MappingAction (Pages : Type) where
  | call (call : MappingCall Pages)
  /-- `vidmm_vm_map_gpu_virtual_address` allocates a node -/
  | map (address device : Nat) (shared : Bool)
  /-- `vidmm_vm_unmap_gpu_virtual_address` releases a node -/
  | unmap (address node : Nat)
  /-- `vidmm_prepare_and_mark_unpagable` by another caller -/
  | prepare (address : Nat) (found : Option Pages)
  /-- `vidmm_mark_pagable` -/
  | markPagable (address : Nat)
  /-- `vidmm_restore_allocation` -/
  | restore (address : Nat)
  /-- `vidmmi_segment_unresident_allocations` evicts an allocation -/
  | evict (address : Nat)

namespace MappingState

/-- One step of the adapter. -/
def next (state : MappingState Pages) : MappingAction Pages → Option (MappingState Pages)
  | .call call => call.run state
  | .map address device shared => some (state.mapNode address device shared)
  | .unmap address node => some (state.unmapNode address node)
  | .prepare address found =>
      let prepared := vidmmPrepareAndMarkUnpagable (state.allocations address) found
      some (state.set address prepared.1)
  | .markPagable address =>
      some (state.set address (vidmmMarkPagable (state.allocations address)))
  | .restore address =>
      let allocation := state.allocations address
      some (state.set address { allocation with residentAge := allocation.residentAge + 1 })
  | .evict address => state.evict address

/-- Nothing is mapped yet. -/
def Unmapped (state : MappingState Pages) : Prop :=
  (∀ address, (state.allocations address).gpuVmList = []) ∧ state.submitted = []

end MappingState

/-- The allocations of an adapter over time. -/
def mappingSystem (Pages : Type) : System (MappingState Pages) (MappingAction Pages) :=
  .ofFunction MappingState.Unmapped MappingState.next

/-- The calls of a run are careful. -/
def CarefulStep (state : MappingState Pages) : MappingAction Pages → Prop
  | .call call => call.Careful state
  | _ => True

-----------------------------------------------------------------------------------------
-- What is known about commands while a call runs
-----------------------------------------------------------------------------------------

/-- The nodes of an allocation agree with the commands written so far. -/
structure MappedAllocation.Tracked (allocation : MappedAllocation Pages)
    (commands : List (PteCommands Pages)) (nextVmNode : Nat)
    : Prop where
  notNewer : ∀ node ∈ allocation.gpuVmList, node.age ≤ allocation.residentAge
  written
    : ∀ command ∈ commands, ∀ node ∈ allocation.gpuVmList,
        command.vmNode = node.address → command.age ≤ node.age
  used : ∀ node ∈ allocation.gpuVmList, node.address < nextVmNode
  distinct : (allocation.gpuVmList.map VmNode.address).Nodup
  covered : ∀ node, allocation.MarkedCurrent node → allocation.pteCommands node ∈ commands

/-- All allocations agree with the commands submitted so far and those in `hand`. -/
structure MappingState.Tracked (state : MappingState Pages)
    (hand : List (PteCommands Pages))
    : Prop where
  each
    : ∀ address,
        (state.allocations address).Tracked (state.submittedCommands ++ hand) state.nextVmNode
  used : ∀ command ∈ state.submittedCommands ++ hand, command.vmNode < state.nextVmNode
  apart
    : ∀ left right, left ≠ right
        → ((state.allocations left).gpuVmList.map VmNode.address).Disjoint
            ((state.allocations right).gpuVmList.map VmNode.address)

/-- The commands in hand are new, and map nodes that are marked current, of allocations
that were visited.
-/
def MappingState.Pending (state : MappingState Pages) (visited : List Nat)
    (hand : List (PteCommands Pages))
    : Prop :=
  ∀ command ∈ hand,
    command ∉ state.submittedCommands
    ∧ ∃ address ∈ visited, ∃ node, (state.allocations address).MarkedCurrent node
        ∧ command = (state.allocations address).pteCommands node

namespace MappedAllocation.Tracked

variable {allocation : MappedAllocation Pages} {commands : List (PteCommands Pages)}
  {nextVmNode : Nat}

/-- Only the age, the pages and the nodes matter. -/
theorem congr (h : allocation.Tracked commands nextVmNode)
    {other : MappedAllocation Pages} (age : other.residentAge = allocation.residentAge)
    (pages : other.pages = allocation.pages) (nodes : other.gpuVmList = allocation.gpuVmList)
    : other.Tracked commands nextVmNode := by
  obtain ⟨notNewer, written, used, distinct, covered⟩ := h
  refine ⟨?_, ?_, ?_, ?_, ?_⟩
  · rwa [nodes, age]
  · rwa [nodes]
  · rwa [nodes]
  · rwa [nodes]
  · intro node marked
    rw [MarkedCurrent, nodes, age] at marked
    have found := covered node marked
    rwa [pteCommands, age, pages]

/-- Once the age has grown, no node is marked current. -/
theorem aged (h : allocation.Tracked commands nextVmNode)
    {other : MappedAllocation Pages} (age : allocation.residentAge < other.residentAge)
    (nodes : other.gpuVmList = allocation.gpuVmList)
    : other.Tracked commands nextVmNode := by
  obtain ⟨notNewer, written, used, distinct, -⟩ := h
  refine ⟨?_, ?_, ?_, ?_, ?_⟩
  · intro node member
    rw [nodes] at member
    exact Int.le_trans (notNewer node member) (Int.le_of_lt age)
  · rwa [nodes]
  · rwa [nodes]
  · rwa [nodes]
  · rintro node ⟨member, -, current⟩
    rw [nodes] at member
    have older := notNewer node member
    omega

/-- Fewer nodes are tracked by the same commands. -/
theorem sublist (h : allocation.Tracked commands nextVmNode) {nodes : List VmNode}
    (part : nodes.Sublist allocation.gpuVmList)
    : { allocation with gpuVmList := nodes }.Tracked commands nextVmNode where
  notNewer := fun node member => h.notNewer node (part.subset member)
  written := fun command found node member =>
    h.written command found node (part.subset member)
  used := fun node member => h.used node (part.subset member)
  distinct := h.distinct.sublist (part.map _)
  covered := by
    rintro node ⟨member, isPrivate, current⟩
    exact h.covered node ⟨part.subset member, isPrivate, current⟩

/-- More commands, none of them for these nodes, change nothing. -/
theorem weaken (h : allocation.Tracked commands nextVmNode)
    {more : List (PteCommands Pages)} (keeps : commands ⊆ more)
    (others
      : ∀ command ∈ more,
          command ∈ commands
          ∨ command.vmNode ∉ allocation.gpuVmList.map VmNode.address)
    : allocation.Tracked more nextVmNode where
  notNewer := h.notNewer
  written := by
    intro command found node member same
    rcases others command found with old | other
    · exact h.written command old node member same
    · exact absurd (same ▸ List.mem_map_of_mem member) other
  used := h.used
  distinct := h.distinct
  covered := fun node marked => keeps (h.covered node marked)

/-- A stale node has no commands of the age of its allocation yet. -/
theorem not_written (h : allocation.Tracked commands nextVmNode) {node : VmNode}
    (member : node ∈ allocation.gpuVmList) (stale : node.age < allocation.residentAge)
    : allocation.pteCommands node ∉ commands := by
  intro found
  have older := h.written _ found node member rfl
  exact absurd older (Int.not_le.mpr stale)

/-- Stamping a stale node, with its commands unless it is shared, keeps the nodes tracked. -/
theorem stamp {front rest : List VmNode} {node : VmNode}
    (h : { allocation with gpuVmList := front ++ node :: rest }.Tracked commands nextVmNode)
    : { allocation with
          gpuVmList := front ++ { node with age := allocation.residentAge } :: rest }.Tracked
        (commands ++ if node.shared then [] else [allocation.pteCommands node])
        nextVmNode := by
  obtain ⟨notNewer, written, used, distinct, covered⟩ := h
  let current : VmNode := { node with age := allocation.residentAge }
  have atNode : node ∈ front ++ node :: rest := by simp
  have addresses : (front ++ current :: rest).map VmNode.address
      = (front ++ node :: rest).map VmNode.address := by simp [current]
  have cases_of_mem : ∀ other ∈ front ++ current :: rest,
      other = current ∨ other ∈ front ++ node :: rest ∧ other.address ≠ node.address := by
    intro other member
    rcases List.mem_append.mp member with before | after
    · refine .inr ⟨List.mem_append_left _ before, fun same => ?_⟩
      rw [List.map_append, List.map_cons] at distinct
      exact (List.disjoint_of_nodup_append distinct (List.mem_map_of_mem before))
        (same ▸ List.mem_cons_self)
    · rcases List.mem_cons.mp after with rfl | later
      · exact .inl rfl
      · refine .inr ⟨List.mem_append_right _ (List.mem_cons_of_mem _ later), fun same => ?_⟩
        rw [List.map_append, List.map_cons] at distinct
        exact (List.nodup_cons.mp (List.nodup_append.mp distinct).2.1).1
          (same ▸ List.mem_map_of_mem later)
  refine ⟨?_, ?_, ?_, addresses ▸ distinct, ?_⟩
  · intro other member
    rcases cases_of_mem other member with rfl | ⟨old, -⟩
    · exact Int.le_refl _
    · exact notNewer other old
  · intro command found other member same
    rcases List.mem_append.mp found with old | new
    · rcases cases_of_mem other member with rfl | ⟨kept, -⟩
      · exact Int.le_trans (written command old node atNode same) (notNewer node atNode)
      · exact written command old other kept same
    · split at new
      · cases new
      · rw [List.mem_singleton.mp new] at same ⊢
        rcases cases_of_mem other member with rfl | ⟨-, different⟩
        · exact Int.le_refl _
        · exact absurd same.symm different
  · intro other member
    rcases cases_of_mem other member with rfl | ⟨old, -⟩
    · exact used node atNode
    · exact used other old
  · rintro other ⟨member, isPrivate, isCurrent⟩
    rcases cases_of_mem other member with rfl | ⟨old, -⟩
    · have notShared : ¬ node.shared = true := by simpa [current] using isPrivate
      rw [if_neg notShared]
      exact List.mem_append_right _ (List.mem_singleton.mpr rfl)
    · exact List.mem_append_left _ (covered other ⟨old, isPrivate, isCurrent⟩)

/-- A fresh node is stale and has no commands yet. -/
theorem push (h : allocation.Tracked commands nextVmNode) {node : VmNode}
    (older : ∀ command ∈ commands, command.vmNode < nextVmNode)
    (fresh : node.address = nextVmNode) (stale : node.age < allocation.residentAge)
    : { allocation with gpuVmList := allocation.gpuVmList ++ [node] }.Tracked commands
        (nextVmNode + 1) := by
  have cases_of_mem : ∀ other ∈ allocation.gpuVmList ++ [node],
      other ∈ allocation.gpuVmList ∨ other = node := by
    intro other member
    simpa using member
  refine ⟨?_, ?_, ?_, ?_, ?_⟩
  · intro other member
    rcases cases_of_mem other member with old | rfl
    · exact h.notNewer other old
    · exact Int.le_of_lt stale
  · intro command found other member same
    rcases cases_of_mem other member with old | rfl
    · exact h.written command found other old same
    · have := older command found
      omega
  · intro other member
    rcases cases_of_mem other member with old | rfl
    · exact Nat.lt_succ_of_lt (h.used other old)
    · exact fresh ▸ Nat.lt_succ_self _
  · rw [List.map_append, List.nodup_append]
    refine ⟨h.distinct, by simp, ?_⟩
    rintro _ old _ own rfl
    obtain ⟨other, member, same⟩ := List.mem_map.mp old
    have used := h.used other member
    have := List.mem_singleton.mp own
    omega
  · rintro other ⟨member, isPrivate, current⟩
    rcases cases_of_mem other member with old | rfl
    · exact h.covered other ⟨old, isPrivate, current⟩
    · exact absurd current (Int.ne_of_lt stale)

end MappedAllocation.Tracked

-----------------------------------------------------------------------------------------
-- The nodes of one allocation
-----------------------------------------------------------------------------------------

/-- A round either leaves the node and the commands alone, or stamps a stale node and
writes its commands unless it is shared.
-/
theorem updateVmNode_cases (device : Nat) (allocation : MappedAllocation Pages)
    (steps : NodeSteps) (task : Option (VmUpdateTask Pages)) (node : VmNode)
    : let update := updateVmNode device allocation steps task node
      update.vmNode = node ∧ inHand update.task = inHand task
      ∨ node.age < allocation.residentAge ∧ update.succeeded = true
        ∧ update.vmNode = { node with age := allocation.residentAge }
        ∧ inHand update.task
          = inHand task ++ if node.shared then [] else [allocation.pteCommands node] := by
  simp only [updateVmNode]
  split
  · exact .inl ⟨rfl, rfl⟩
  next stale =>
  have stale : node.age < allocation.residentAge := by
    have := not_or.mp stale
    omega
  split
  · exact .inr ⟨stale, rfl, rfl, (List.append_nil _).symm⟩
  split
  · next missing =>
      cases task with
      | none => exact .inl ⟨rfl, rfl⟩
      | some task => cases missing
  next used taken =>
  have commands : used.commands = inHand task := by
    cases task with
    | some task =>
        cases taken
        rfl
    | none =>
        simp only [taskInHand] at taken
        split at taken
        · cases taken
          rfl
        · cases taken
  simp only [vidmmVmUpdateMapping]
  split
  · refine .inr ⟨stale, rfl, rfl, ?_⟩
    rw [← commands]
    rfl
  · exact .inl ⟨rfl, commands⟩

/-- The addresses of the nodes stay, by list induction. -/
theorem updateVmNodes_addresses (device : Nat) (allocation : MappedAllocation Pages)
    (steps : Nat → NodeSteps) (nodes : List VmNode) (position : Nat)
    (task : Option (VmUpdateTask Pages))
    : (updateVmNodes device allocation steps nodes position task).vmNodes.map VmNode.address
      = nodes.map VmNode.address := by
  induction nodes generalizing position task with
  | nil => rfl
  | cons node rest ih =>
      have address : (updateVmNode device allocation (steps position) task node).vmNode.address
          = node.address := by
        rcases updateVmNode_cases device allocation (steps position) task node
          with ⟨same, -⟩ | ⟨-, -, stamped, -⟩
        · rw [same]
        · rw [stamped]
      simp only [updateVmNodes]
      split
      · rw [List.map_cons, List.map_cons, ih, address]
      · rw [List.map_cons, List.map_cons, address]

/-- Nodes that are not stale stay, by list induction. -/
theorem mem_updateVmNodes {device : Nat} {allocation : MappedAllocation Pages}
    {steps : Nat → NodeSteps} {nodes : List VmNode} (position : Nat)
    (task : Option (VmUpdateTask Pages)) {node : VmNode} (member : node ∈ nodes)
    (current : allocation.residentAge ≤ node.age)
    : node ∈ (updateVmNodes device allocation steps nodes position task).vmNodes := by
  induction nodes generalizing position task with
  | nil => cases member
  | cons first rest ih =>
      simp only [updateVmNodes]
      rcases List.mem_cons.mp member with rfl | later
      · have same : (updateVmNode device allocation (steps position) task node).vmNode
            = node := by
          rcases updateVmNode_cases device allocation (steps position) task node
            with ⟨same, -⟩ | ⟨stale, -⟩
          · exact same
          · omega
        split
        · exact List.mem_cons.mpr (.inl same.symm)
        · exact List.mem_cons.mpr (.inl same.symm)
      · split
        · exact List.mem_cons_of_mem _ (ih _ _ later)
        · exact List.mem_cons_of_mem _ later

/-- What the update of the nodes has added to the commands in hand. -/
structure NodesUpdate.Adds (update : NodesUpdate Pages) (allocation : MappedAllocation Pages)
    (before : List (PteCommands Pages)) (task : Option (VmUpdateTask Pages))
    : Prop where
  keeps : inHand task ⊆ inHand update.task
  new
    : ∀ command ∈ inHand update.task,
        command ∈ inHand task
        ∨ command ∉ before
          ∧ ∃ node ∈ update.vmNodes, node.shared = false
              ∧ node.age = allocation.residentAge ∧ command = allocation.pteCommands node

/-- The loop keeps the nodes tracked, and what it adds is new, by induction on the nodes
that are left; `front` holds those that were visited.
-/
theorem updateVmNodes_tracked (device : Nat) (steps : Nat → NodeSteps)
    {allocation : MappedAllocation Pages} {before : List (PteCommands Pages)} {nextVmNode : Nat}
    (nodes front : List VmNode) (position : Nat) (task : Option (VmUpdateTask Pages))
    (h
      : { allocation with gpuVmList := front ++ nodes }.Tracked (before ++ inHand task)
          nextVmNode)
    : let update := updateVmNodes device allocation steps nodes position task
      { allocation with gpuVmList := front ++ update.vmNodes }.Tracked
          (before ++ inHand update.task) nextVmNode
        ∧ update.Adds allocation before task := by
  induction nodes generalizing front position task with
  | nil => exact ⟨h, List.Subset.refl _, fun command found => .inl found⟩
  | cons node rest ih =>
      let first := updateVmNode device allocation (steps position) task node
      have here : { allocation with gpuVmList := front ++ first.vmNode :: rest }.Tracked
            (before ++ inHand first.task) nextVmNode
          ∧ inHand task ⊆ inHand first.task
          ∧ ∀ command ∈ inHand first.task,
              command ∈ inHand task
              ∨ command ∉ before ∧ first.vmNode.shared = false
                ∧ first.vmNode.age = allocation.residentAge
                ∧ command = allocation.pteCommands first.vmNode := by
        rcases updateVmNode_cases device allocation (steps position) task node
          with ⟨same, hand⟩ | ⟨stale, -, stamped, hand⟩
        · rw [same, hand]
          exact ⟨h, List.Subset.refl _, fun command found => .inl found⟩
        · rw [stamped, hand, ← List.append_assoc]
          refine ⟨h.stamp, List.subset_append_left _ _, fun command found => ?_⟩
          rcases List.mem_append.mp found with old | new
          · exact .inl old
          split at new
          · cases new
          next notShared =>
          cases List.mem_singleton.mp new
          have unwritten := h.not_written (by simp) stale
          refine .inr ⟨fun found => unwritten (List.mem_append_left _ found), ?_, rfl, rfl⟩
          simpa using notShared
      obtain ⟨tracked, keeps, new⟩ := here
      simp only [updateVmNodes]
      split
      · have shifted : { allocation with gpuVmList := (front ++ [first.vmNode]) ++ rest }.Tracked
            (before ++ inHand first.task) nextVmNode := by
          rw [List.append_assoc]
          exact tracked
        obtain ⟨trackedLater, keepsLater, newLater⟩ :=
          ih (front ++ [first.vmNode]) (position + 1) first.task shifted
        rw [List.append_assoc] at trackedLater
        refine ⟨trackedLater, List.Subset.trans keeps keepsLater, fun command found => ?_⟩
        rcases newLater command found with old | ⟨unwritten, other, member, rest⟩
        · rcases new command old with older | ⟨unwritten, found⟩
          · exact .inl older
          · exact .inr ⟨unwritten, _, List.mem_cons_self, found⟩
        · exact .inr ⟨unwritten, other, List.mem_cons_of_mem _ member, rest⟩
      · refine ⟨tracked, keeps, fun command found => ?_⟩
        rcases new command found with old | ⟨unwritten, found⟩
        · exact .inl old
        · exact .inr ⟨unwritten, _, List.mem_cons_self, found⟩

-----------------------------------------------------------------------------------------
-- The allocations of an adapter
-----------------------------------------------------------------------------------------

namespace MappingState

variable {state : MappingState Pages} {hand : List (PteCommands Pages)}

@[simp]
theorem submittedCommands_set (state : MappingState Pages) (address : Nat)
    (allocation : MappedAllocation Pages)
    : (state.set address allocation).submittedCommands = state.submittedCommands := rfl

@[simp]
theorem nextVmNode_set (state : MappingState Pages) (address : Nat)
    (allocation : MappedAllocation Pages)
    : (state.set address allocation).nextVmNode = state.nextVmNode := rfl

@[simp]
theorem allocations_set_self (state : MappingState Pages) (address : Nat)
    (allocation : MappedAllocation Pages)
    : (state.set address allocation).allocations address = allocation :=
  Function.update_self ..

theorem allocations_set_of_ne (state : MappingState Pages) {address other : Nat}
    (allocation : MappedAllocation Pages) (different : other ≠ address)
    : (state.set address allocation).allocations other = state.allocations other :=
  Function.update_of_ne different ..

/-- Submitting a task moves its commands over. -/
@[simp]
theorem submittedCommands_submit (state : MappingState Pages)
    (task : Option (VmUpdateTask Pages))
    : (state.submit task).submittedCommands = state.submittedCommands ++ inHand task := by
  cases task with
  | none => exact (List.append_nil _).symm
  | some task => simp [submit, submittedCommands, inHand]

@[simp]
theorem allocations_submit (state : MappingState Pages) (task : Option (VmUpdateTask Pages))
    : (state.submit task).allocations = state.allocations := by
  cases task <;> rfl

@[simp]
theorem nextVmNode_submit (state : MappingState Pages) (task : Option (VmUpdateTask Pages))
    : (state.submit task).nextVmNode = state.nextVmNode := by
  cases task <;> rfl

/-- Submitting the task in hand keeps the allocations tracked. -/
theorem Tracked.submit {task : Option (VmUpdateTask Pages)} (h : state.Tracked (inHand task))
    : (state.submit task).Tracked [] := by
  refine ⟨?_, ?_, ?_⟩
  · simpa using h.each
  · simpa using h.used
  · simpa using h.apart

/-- What is tracked with nothing in hand is submitted. -/
theorem Tracked.submitted (h : state.Tracked []) (address : Nat) : state.Submitted address := by
  intro node marked
  simpa using (h.each address).covered node marked

/-- Changing one allocation without giving it foreign nodes keeps all allocations tracked,
also if commands for its nodes are added.
-/
theorem Tracked.set (h : state.Tracked hand) {address : Nat}
    {allocation : MappedAllocation Pages} {more : List (PteCommands Pages)}
    (tracked : allocation.Tracked (state.submittedCommands ++ more) state.nextVmNode)
    (nodes
      : allocation.gpuVmList.map VmNode.address
        ⊆ (state.allocations address).gpuVmList.map VmNode.address)
    (keeps : hand ⊆ more)
    (added
      : ∀ command ∈ more,
          command ∈ hand
          ∨ command.vmNode ∈ (state.allocations address).gpuVmList.map VmNode.address)
    : (state.set address allocation).Tracked more := by
  have within : ∀ other, ((state.set address allocation).allocations other).gpuVmList.map
      VmNode.address ⊆ (state.allocations other).gpuVmList.map VmNode.address := by
    intro other
    rcases eq_or_ne other address with rfl | different
    · rwa [allocations_set_self]
    · rw [allocations_set_of_ne _ _ different]
      exact List.Subset.refl _
  refine ⟨?_, ?_, ?_⟩
  · intro other
    rcases eq_or_ne other address with rfl | different
    · rwa [allocations_set_self]
    · rw [allocations_set_of_ne _ _ different, submittedCommands_set, nextVmNode_set]
      refine (h.each other).weaken ?_ ?_
      · exact List.append_subset.mpr ⟨List.subset_append_left _ _,
          List.Subset.trans keeps (List.subset_append_right _ _)⟩
      · intro command found
        rcases List.mem_append.mp found with old | new
        · exact .inl (List.mem_append_left _ old)
        rcases added command new with old | own
        · exact .inl (List.mem_append_right _ old)
        · exact .inr fun foreign => h.apart other address different foreign own
  · intro command found
    rcases List.mem_append.mp found with old | new
    · exact h.used command (List.mem_append_left _ old)
    rcases added command new with old | own
    · exact h.used command (List.mem_append_right _ old)
    · obtain ⟨node, member, same⟩ := List.mem_map.mp own
      exact same ▸ (h.each address).used node member
  · intro left right different found foundRight
    exact fun foundLeft => h.apart left right different (within left foundRight) (within right foundLeft)

/-- Changing one allocation with nothing written. -/
theorem Tracked.set_same (h : state.Tracked hand) {address : Nat}
    {allocation : MappedAllocation Pages}
    (tracked : allocation.Tracked (state.submittedCommands ++ hand) state.nextVmNode)
    (nodes
      : allocation.gpuVmList.map VmNode.address
        ⊆ (state.allocations address).gpuVmList.map VmNode.address)
    : (state.set address allocation).Tracked hand :=
  h.set tracked nodes (List.Subset.refl _) fun _ found => .inl found

/-- A fresh stale node keeps all allocations tracked. -/
theorem Tracked.map (h : state.Tracked hand) (address : Nat) (node : VmNode)
    (fresh : node.address = state.nextVmNode)
    (stale : node.age < (state.allocations address).residentAge)
    : { state.set address
          { state.allocations address with
            gpuVmList := (state.allocations address).gpuVmList ++ [node] } with
        nextVmNode := state.nextVmNode + 1 }.Tracked hand := by
  have within : ∀ other left, left ∈ ((state.set address
      { state.allocations address with
        gpuVmList := (state.allocations address).gpuVmList ++ [node] }).allocations
          other).gpuVmList.map VmNode.address
      → left ∈ (state.allocations other).gpuVmList.map VmNode.address
        ∨ other = address ∧ left = state.nextVmNode := by
    intro other left member
    rcases eq_or_ne other address with rfl | different
    · rw [allocations_set_self, List.map_append] at member
      rcases List.mem_append.mp member with old | own
      · exact .inl old
      · exact .inr ⟨rfl, fresh ▸ List.mem_singleton.mp own⟩
    · rw [allocations_set_of_ne _ _ different] at member
      exact .inl member
  have old_lt : ∀ other, ∀ left ∈ (state.allocations other).gpuVmList.map VmNode.address,
      left < state.nextVmNode := by
    intro other left member
    obtain ⟨old, found, rfl⟩ := List.mem_map.mp member
    exact (h.each other).used old found
  refine ⟨?_, fun command found => Nat.lt_succ_of_lt (h.used command found), ?_⟩
  · intro other
    dsimp only
    rcases eq_or_ne other address with rfl | different
    · rw [allocations_set_self]
      exact (h.each other).push h.used fresh stale
    · rw [allocations_set_of_ne _ _ different]
      obtain ⟨notNewer, written, used, distinct, covered⟩ := h.each other
      exact ⟨notNewer, written, fun node member => Nat.lt_succ_of_lt (used node member),
        distinct, covered⟩
  · intro left right different found foundLeft foundRight
    rcases within left found foundLeft with oldLeft | ⟨here, new⟩
    · rcases within right found foundRight with oldRight | ⟨-, new⟩
      · exact h.apart left right different oldLeft oldRight
      · exact absurd new (Nat.ne_of_lt (old_lt left found oldLeft))
    · rcases within right found foundRight with oldRight | ⟨there, -⟩
      · exact absurd new (Nat.ne_of_lt (old_lt right found oldRight))
      · exact different (here.trans there.symm)

/-- Commands in hand that map a node marked current leave it without submitted commands. -/
theorem Pending.hand_nil {visited : List Nat} (h : state.Pending visited hand)
    (submitted : ∀ address ∈ visited, state.Submitted address)
    : hand = [] := by
  cases hand with
  | nil => rfl
  | cons command rest =>
      obtain ⟨unwritten, address, member, node, marked, rfl⟩ := h command List.mem_cons_self
      exact absurd (submitted address member node marked) unwritten

end MappingState

-----------------------------------------------------------------------------------------
-- Calls
-----------------------------------------------------------------------------------------

section Calls

variable {device : Nat} {state : MappingState Pages} {task : Option (VmUpdateTask Pages)}

/-- The update of an allocation keeps the allocations tracked. -/
theorem vidmmiAllocationUpdateMapping_tracked (device : Nat)
    (h : state.Tracked (inHand task)) (address : Nat) (steps : Nat → NodeSteps)
    : let update := vidmmiAllocationUpdateMapping device state address steps task
      update.state.Tracked (inHand update.task) := by
  obtain ⟨tracked, adds⟩ := updateVmNodes_tracked device steps
    (state.allocations address).gpuVmList [] 0 task (h.each address)
  have addresses := updateVmNodes_addresses device (state.allocations address) steps
    (state.allocations address).gpuVmList 0 task
  refine h.set tracked ?_ adds.keeps fun command found => ?_
  · exact addresses ▸ List.Subset.refl _
  · rcases adds.new command found with old | ⟨-, node, member, -, -, rfl⟩
    · exact .inl old
    · exact .inr (addresses ▸ List.mem_map_of_mem member)

/-- The update of an allocation adds commands of its own nodes to those in hand. -/
theorem vidmmiAllocationUpdateMapping_pending (device : Nat) {visited : List Nat}
    (h : state.Tracked (inHand task)) (pending : state.Pending visited (inHand task))
    (address : Nat) (steps : Nat → NodeSteps)
    : let update := vidmmiAllocationUpdateMapping device state address steps task
      update.state.Pending (visited ++ [address]) (inHand update.task) := by
  obtain ⟨-, adds⟩ := updateVmNodes_tracked device steps
    (state.allocations address).gpuVmList [] 0 task (h.each address)
  intro update command found
  rcases adds.new command found with old | ⟨unwritten, node, member, isPrivate, current, same⟩
  · obtain ⟨unwritten, other, visit, node, marked, rfl⟩ := pending command old
    refine ⟨unwritten, other, List.mem_append_left _ visit, node, ?_⟩
    simp only [update, vidmmiAllocationUpdateMapping]
    rcases eq_or_ne other address with rfl | different
    · rw [MappingState.allocations_set_self]
      obtain ⟨member, isPrivate, current⟩ := marked
      exact ⟨⟨mem_updateVmNodes 0 task member (Int.le_of_eq current.symm), isPrivate, current⟩, rfl⟩
    · rw [MappingState.allocations_set_of_ne _ _ different]
      exact ⟨marked, rfl⟩
  · refine ⟨unwritten, address, by simp, node, ?_⟩
    simp only [update, vidmmiAllocationUpdateMapping, MappingState.allocations_set_self]
    exact ⟨⟨member, isPrivate, current⟩, same⟩

/-- Making an allocation resident leaves it alone or ages it. -/
theorem vidmmMakeResidentLocked_cases (allocation : MappedAllocation Pages)
    (found : Option Pages)
    : vidmmMakeResidentLocked allocation found = (allocation, allocation.resident)
      ∨ allocation.resident = false
        ∧ ∃ aged, vidmmMakeResidentLocked allocation found = (aged, true)
            ∧ aged.residentAge = allocation.residentAge + 1
            ∧ aged.gpuVmList = allocation.gpuVmList ∧ aged.resident = true := by
  cases resident : allocation.resident with
  | true => exact .inl (if_pos resident)
  | false =>
      cases found with
      | none => exact .inl (by simp [vidmmMakeResidentLocked, resident])
      | some pages =>
          refine .inr ⟨rfl, { allocation with
            resident := true, pages := pages, residentAge := allocation.residentAge + 1 }, ?_⟩
          exact ⟨by simp [vidmmMakeResidentLocked, resident], rfl, rfl, rfl⟩

/-- Pinning and making resident keeps the allocations tracked. -/
theorem vidmmPrepareAndMarkUnpagable_tracked {hand : List (PteCommands Pages)}
    (h : state.Tracked hand) (address : Nat) (found : Option Pages)
    : (state.set address
          (vidmmPrepareAndMarkUnpagable (state.allocations address) found).1).Tracked hand := by
  rcases vidmmMakeResidentLocked_cases
      { state.allocations address with
        tempUnpagable := (state.allocations address).tempUnpagable + 1 } found
    with same | ⟨-, aged, moved, age, nodes, -⟩
  · refine h.set_same ?_ ?_
    · rw [vidmmPrepareAndMarkUnpagable, same]
      exact (h.each address).congr rfl rfl rfl
    · rw [vidmmPrepareAndMarkUnpagable, same]
      exact List.Subset.refl _
  · refine h.set_same ?_ ?_
    · rw [vidmmPrepareAndMarkUnpagable, moved]
      exact (h.each address).aged (by rw [age]; exact Int.lt_succ _) nodes
    · rw [vidmmPrepareAndMarkUnpagable, moved, nodes]
      exact List.Subset.refl _

/-- Pinning and making resident leaves the commands in hand current when what was visited
is resident.
-/
theorem vidmmPrepareAndMarkUnpagable_pending {hand : List (PteCommands Pages)}
    {visited : List Nat} (h : state.Pending visited hand)
    (resident : ∀ address ∈ visited, (state.allocations address).resident = true)
    (address : Nat) (found : Option Pages)
    : (state.set address
          (vidmmPrepareAndMarkUnpagable (state.allocations address) found).1).Pending
        visited hand := by
  intro command member
  obtain ⟨unwritten, other, visit, node, marked, rfl⟩ := h command member
  refine ⟨unwritten, other, visit, node, ?_⟩
  rcases eq_or_ne other address with rfl | different
  · rw [MappingState.allocations_set_self]
    rcases vidmmMakeResidentLocked_cases
        { state.allocations other with
          tempUnpagable := (state.allocations other).tempUnpagable + 1 } found
      with same | ⟨absent, -⟩
    · rw [vidmmPrepareAndMarkUnpagable, same]
      exact ⟨marked, rfl⟩
    · exact absurd ((resident other visit).symm.trans absent) (by decide)
  · rw [MappingState.allocations_set_of_ne _ _ different]
    exact ⟨marked, rfl⟩

/-- What holds of a list call after some of its entries. -/
structure MappingState.Walked (state : MappingState Pages) (visited : List Nat)
    (task : Option (VmUpdateTask Pages))
    : Prop where
  tracked : state.Tracked (inHand task)
  pending : state.Pending visited (inHand task)
  resident : ∀ address ∈ visited, (state.allocations address).resident = true

/-- An entry that fails leaves the nodes tracked and the commands in hand pending. -/
theorem ListEntry.update_failed (device : Nat) {visited : List Nat}
    (h : state.Walked visited task) (entry : ListEntry Pages)
    : let update := entry.update device state task
      update.state.Tracked (inHand update.task)
      ∧ update.state.Pending (visited ++ entry.address.toList) (inHand update.task) := by
  obtain ⟨tracked, pending, resident⟩ := h
  unfold update
  split
  · next null =>
      rw [null, Option.toList_none, List.append_nil]
      exact ⟨tracked, pending⟩
  · next address found =>
      rw [found]
      have prepared := vidmmPrepareAndMarkUnpagable_tracked tracked address entry.found
      have kept :=
        vidmmPrepareAndMarkUnpagable_pending pending resident address entry.found
      dsimp only
      split
      · exact ⟨vidmmiAllocationUpdateMapping_tracked device prepared address entry.steps,
          vidmmiAllocationUpdateMapping_pending device prepared kept address entry.steps⟩
      · refine ⟨prepared, fun command member => ?_⟩
        obtain ⟨unwritten, other, visit, rest⟩ := kept command member
        exact ⟨unwritten, other, List.mem_append_left _ visit, rest⟩

/-- Pinning leaves a resident allocation resident, and makes the pinned one resident when
it succeeds.
-/
theorem vidmmPrepareAndMarkUnpagable_resident (allocation : MappedAllocation Pages)
    (found : Option Pages)
    : ((vidmmPrepareAndMarkUnpagable allocation found).2 = true
          ∨ allocation.resident = true)
      → (vidmmPrepareAndMarkUnpagable allocation found).1.resident = true := by
  rcases vidmmMakeResidentLocked_cases
      { allocation with tempUnpagable := allocation.tempUnpagable + 1 } found
    with same | ⟨-, aged, moved, -, -, resident⟩
  · rw [vidmmPrepareAndMarkUnpagable, same]
    rintro (resident | resident)
    · exact resident
    · exact resident
  · rw [vidmmPrepareAndMarkUnpagable, moved]
    exact fun _ => resident

/-- An entry that succeeds keeps a list call walking, over the threshold or not. -/
theorem ListEntry.update_succeeded {visited : List Nat} (h : state.Walked visited task)
    (entry : ListEntry Pages) (succeeded : (entry.update device state task).succeeded = true)
    (last : Bool)
    : let next := entry.submitOverThreshold last (entry.update device state task)
      next.1.Walked (visited ++ entry.address.toList) next.2 := by
  obtain ⟨tracked, pending⟩ := entry.update_failed device h
  have resident : ∀ address ∈ visited ++ entry.address.toList,
      ((entry.update device state task).state.allocations address).resident = true := by
    intro other member
    unfold update at succeeded ⊢
    split at succeeded
    · next null =>
        dsimp only
        rw [null, Option.toList_none, List.append_nil] at member
        exact h.resident other member
    next address found =>
    dsimp only at succeeded ⊢
    split at succeeded
    · next prepared =>
      rw [if_pos prepared]
      simp only [vidmmiAllocationUpdateMapping]
      rw [found, Option.toList_some] at member
      rcases eq_or_ne other address with rfl | different
      · rw [MappingState.allocations_set_self, MappingState.allocations_set_self]
        exact vidmmPrepareAndMarkUnpagable_resident _ _ (.inl prepared)
      · rw [MappingState.allocations_set_of_ne _ _ different,
          MappingState.allocations_set_of_ne _ _ different]
        rcases List.mem_append.mp member with visit | own
        · exact h.resident other visit
        · exact absurd (List.mem_singleton.mp own) different
    · cases succeeded
  simp only [submitOverThreshold]
  split
  · refine ⟨tracked.submit, (fun _ member => nomatch member), ?_⟩
    rwa [MappingState.allocations_submit]
  · exact ⟨tracked, pending, resident⟩

/-- A careful list call leaves nothing but submitted commands behind, and a call that
leaves its allocations so was careful. By induction on the entries that are left.
-/
theorem updateMappingFrom_tracked {visited : List Nat} (entries : List (ListEntry Pages))
    (h : state.Walked visited task)
    : (CarefulFrom device entries state task
        → (updateMappingFrom device entries state task).1.Tracked [])
      ∧ ((∀ address ∈ visited ++ entries.filterMap ListEntry.address,
            (updateMappingFrom device entries state task).1.Submitted address)
        → CarefulFrom device entries state task) := by
  induction entries generalizing state task visited with
  | nil => exact ⟨fun _ => h.tracked.submit, fun _ => trivial⟩
  | cons entry rest ih =>
      have addresses : visited ++ (entry :: rest).filterMap ListEntry.address
          = visited ++ entry.address.toList ++ rest.filterMap ListEntry.address := by
        cases found : entry.address with
        | none => simp [found]
        | some address => simp [found]
      rw [addresses]
      unfold updateMappingFrom CarefulFrom
      dsimp only
      cases succeeded : (entry.update device state task).succeeded with
      | true =>
          obtain ⟨tracked, careful⟩ :=
            ih (entry.update_succeeded h succeeded rest.isEmpty)
          refine ⟨fun ⟨_, later⟩ => tracked (later rfl), fun submitted => ?_⟩
          exact ⟨fun failed => absurd (succeeded.symm.trans failed) (by decide),
            fun _ => careful submitted⟩
      | false =>
          obtain ⟨tracked, pending⟩ := entry.update_failed device h
          refine ⟨fun ⟨careful, _⟩ => careful succeeded ▸ tracked, fun submitted => ?_⟩
          refine ⟨fun _ => pending.hand_nil fun address member => ?_, fun done => nomatch done⟩
          exact submitted address (List.mem_append_left _ member)

end Calls

-----------------------------------------------------------------------------------------
-- Main results
-----------------------------------------------------------------------------------------

/-- Stamping shared nodes writes no commands and keeps the nodes tracked, by induction on
the nodes that are left.
-/
theorem reservedNodes_tracked {device : Nat} {allocation : MappedAllocation Pages}
    {commands : List (PteCommands Pages)} {nextVmNode : Nat} (nodes front : List VmNode)
    {stamped : List VmNode}
    (h : { allocation with gpuVmList := front ++ nodes }.Tracked commands nextVmNode)
    (done
      : (nodes.mapM fun node =>
          if node.device ≠ device ∨ allocation.residentAge ≤ node.age then some node
          else if node.shared then some { node with age := allocation.residentAge }
          else none) = some stamped)
    : { allocation with gpuVmList := front ++ stamped }.Tracked commands nextVmNode
      ∧ stamped.map VmNode.address = nodes.map VmNode.address := by
  induction nodes generalizing front stamped with
  | nil =>
      rw [List.mapM_nil] at done
      cases done
      exact ⟨h, rfl⟩
  | cons node rest ih =>
      rw [List.mapM_cons] at done
      obtain ⟨first, here, done⟩ := Option.bind_eq_some_iff.mp done
      obtain ⟨others, later, done⟩ := Option.bind_eq_some_iff.mp done
      cases done
      have tracked : { allocation with gpuVmList := front ++ first :: rest }.Tracked commands
            nextVmNode
          ∧ first.address = node.address := by
        split at here
        · cases here
          exact ⟨h, rfl⟩
        split at here
        · next shared =>
            cases here
            have stamp := h.stamp
            rw [if_pos shared, List.append_nil] at stamp
            exact ⟨stamp, rfl⟩
        · cases here
      obtain ⟨tracked, address⟩ := tracked
      have shifted : { allocation with gpuVmList := (front ++ [first]) ++ rest }.Tracked commands
          nextVmNode := by
        rw [List.append_assoc]
        exact tracked
      obtain ⟨trackedLater, addresses⟩ := ih (front ++ [first]) shifted later
      rw [List.append_assoc] at trackedLater
      refine ⟨trackedLater, ?_⟩
      rw [List.map_cons, List.map_cons, address, addresses]

/-- A careful call leaves nothing but submitted commands behind, and a call that leaves its
allocations so was careful.
-/
theorem MappingCall.run_tracked {state after : MappingState Pages} (h : state.Tracked [])
    (call : MappingCall Pages) (returns : call.run state = some after)
    : (call.Careful state → after.Tracked [])
      ∧ ((∀ address ∈ call.addresses, after.Submitted address) → call.Careful state) := by
  have nothing : state.Pending [] ([] : List (PteCommands Pages)) := fun _ member => nomatch member
  cases call with
  | list device entries =>
      cases returns
      have walked : state.Walked [] none := ⟨h, nothing, fun _ member => nomatch member⟩
      exact updateMappingFrom_tracked entries walked
  | single device address steps =>
      cases returns
      have empty : state.Tracked (inHand none) := h
      have tracked := vidmmiAllocationUpdateMapping_tracked device empty address steps
      have pending :=
        vidmmiAllocationUpdateMapping_pending device empty nothing address steps
      simp only [vidmmAllocationUpdateMapping, Careful, AllocationUpdate.Careful]
      split
      · next succeeded =>
          refine ⟨fun _ => tracked.submit, fun _ failed => ?_⟩
          exact absurd (succeeded.symm.trans failed) (by decide)
      · next failed =>
          refine ⟨fun careful => careful (by simpa using failed) ▸ tracked, ?_⟩
          exact fun submitted _ => pending.hand_nil submitted
  | reserved device address =>
      obtain ⟨stamped, done, same⟩ := Option.bind_eq_some_iff.mp returns
      cases same
      obtain ⟨tracked, addresses⟩ :=
        reservedNodes_tracked (state.allocations address).gpuVmList [] (h.each address) done
      refine ⟨fun _ => h.set_same tracked ?_, fun _ => trivial⟩
      exact addresses ▸ List.Subset.refl _

/-- Every careful step keeps the allocations tracked. -/
theorem MappingState.next_tracked {state after : MappingState Pages}
    {action : MappingAction Pages} (h : state.Tracked [])
    (careful : CarefulStep state action) (taken : state.next action = some after)
    : after.Tracked [] := by
  cases action with
  | call call => exact (call.run_tracked h taken).1 careful
  | map address device shared =>
      cases taken
      exact h.map address _ rfl (Int.sub_one_lt_iff.mpr (Int.le_refl _))
  | unmap address node =>
      cases taken
      have part := List.filter_sublist (p := fun other : VmNode => decide (other.address ≠ node))
        (l := (state.allocations address).gpuVmList)
      exact h.set_same ((h.each address).sublist part) (part.map _).subset
  | prepare address found =>
      cases taken
      exact vidmmPrepareAndMarkUnpagable_tracked h address found
  | markPagable address =>
      cases taken
      exact h.set_same ((h.each address).congr rfl rfl rfl) (List.Subset.refl _)
  | restore address =>
      cases taken
      exact h.set_same ((h.each address).aged (Int.lt_succ _) rfl) (List.Subset.refl _)
  | evict address =>
      simp only [next, evict] at taken
      split at taken
      · cases taken
        exact h.set_same ((h.each address).congr rfl rfl rfl) (List.Subset.refl _)
      · cases taken

/-- Without nodes there is nothing to track. -/
theorem MappingState.Unmapped.tracked {state : MappingState Pages} (h : state.Unmapped)
    : state.Tracked [] := by
  obtain ⟨empty, nothing⟩ := h
  have none : state.submittedCommands = [] := by rw [submittedCommands, nothing]; rfl
  refine ⟨?_, ?_, ?_⟩
  · intro address
    have nodes := empty address
    refine ⟨?_, ?_, ?_, ?_, ?_⟩
    · simp [nodes]
    · simp [nodes]
    · simp [nodes]
    · simp [nodes]
    · rintro node ⟨member, -⟩
      simp [nodes] at member
  · simp [none]
  · intro left right _
    simp [empty]

/-- In every state that careful steps reach, the allocations are tracked. -/
theorem mappingSystem_tracked {state : MappingState Pages}
    (reached : (mappingSystem Pages).ReachableUnder CarefulStep state)
    : state.Tracked [] := by
  apply reached.invariant
  · intro first unmapped
    exact MappingState.Unmapped.tracked unmapped
  · intro before action after tracked careful taken
    exact MappingState.next_tracked tracked careful taken

/-- After a run of careful steps, a call returns with every mapping of its allocations that
is marked current submitted if and only if none of its steps fails with commands in hand.
-/
theorem mappingCall_submits_iff {state after : MappingState Pages}
    (reached : (mappingSystem Pages).ReachableUnder CarefulStep state)
    (call : MappingCall Pages) (returns : call.run state = some after)
    : (∀ address ∈ call.addresses, after.Submitted address) ↔ call.Careful state := by
  obtain ⟨tracked, careful⟩ := call.run_tracked (mappingSystem_tracked reached) returns
  exact ⟨careful, fun h address _ => (tracked h).submitted address⟩

/-- No allocation has a node. -/
def noneMapped : MappingState Unit where
  allocations _ := ⟨false, 0, (), 0, []⟩
  submitted := []
  nextVmNode := 0

/-- Each of the allocations 0 and 1 has a private node of device 1. -/
def twoMapped : MappingState Unit where
  allocations address :=
    match address with
    | 0 => ⟨false, 0, (), 0, [⟨0, 1, false, -1⟩]⟩
    | 1 => ⟨false, 0, (), 0, [⟨1, 1, false, -1⟩]⟩
    | _ => ⟨false, 0, (), 0, []⟩
  submitted := []
  nextVmNode := 2

/-- The two nodes are mapped one after the other. -/
theorem twoMapped_reached : (mappingSystem Unit).ReachableUnder CarefulStep twoMapped := by
  have begins : noneMapped.Unmapped := ⟨fun _ => rfl, rfl⟩
  refine System.ReachableUnder.replay [.map 0 1 false, .map 1 1 false] begins ?_ ?_
  · exact ⟨trivial, fun _ _ => ⟨trivial, fun _ _ => trivial⟩⟩
  · simp only [System.replay, MappingState.next, Option.bind_some]
    refine congrArg some (congrArg (fun allocations => MappingState.mk allocations [] 2) ?_)
    funext address
    rcases address with _ | _ | address
    · rfl
    · rfl
    · rfl

/-- Entries for both allocations, where each step succeeds but perhaps for making the second
one resident.
-/
def twoEntries (found : Option Unit) : List (ListEntry Unit) :=
  [⟨some 0, some (), fun _ => ⟨true, true, true, true, 64⟩⟩,
    ⟨some 1, found, fun _ => ⟨true, true, true, true, 64⟩⟩]

theorem mappingCall_submits_iff_twoMapped
    : (∀ address ∈ (MappingCall.list 1 (twoEntries (some ()))).addresses,
        (vidmmAllocationListUpdateMapping 1 twoMapped (twoEntries (some ()))).1.Submitted
          address)
      ↔ (MappingCall.list 1 (twoEntries (some ()))).Careful twoMapped :=
  mappingCall_submits_iff twoMapped_reached (.list 1 (twoEntries (some ()))) rfl

/-- When the second allocation cannot be made resident, the first one is marked current and
its commands are gone.
-/
theorem mappingCall_discards
    : (mappingSystem Unit).Reachable twoMapped
      ∧ ¬ ∀ address ∈ (MappingCall.list 1 (twoEntries none)).addresses,
          (vidmmAllocationListUpdateMapping 1 twoMapped (twoEntries none)).1.Submitted
            address := by
  refine ⟨twoMapped_reached.reachable, fun submitted => ?_⟩
  have first := submitted 0 List.mem_cons_self ⟨0, 1, false, 1⟩ ⟨List.mem_cons_self, rfl, rfl⟩
  exact absurd first List.not_mem_nil

end Cx4Kernel.Vidmm
