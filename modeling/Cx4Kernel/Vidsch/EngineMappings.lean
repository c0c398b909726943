import Cx4Kernel.Vidmm.PageTables
import Cx4Kernel.Vidmm.UpdateMappingSubmitted
import Cx4Kernel.Vidmm.UpdatePtesDirty
import Cx4Kernel.Vidsch.PinBalance
import Cx4Kernel.Vidsch.Submit

/-! Render tasks of devices with contexts on several engines, from their preparation to the
ring. The age of a mapping is the same for all engines, while each engine has dirty ranges of
its own in the `vma_space` of a device, and all page table commands are in ring 0.
-/

namespace Cx4Kernel.Vidsch

open Cx4Kernel.Foundation
open Cx4Kernel.Vidmm

variable {Pages : Type}

-----------------------------------------------------------------------------------------
-- Rings
-----------------------------------------------------------------------------------------

/-- What is written to the rings. -/
inductive RingCommand (Pages : Type) where
  /-- the commands of a vm-update task -/
  | vmUpdate (commands : List (PteCommands Pages))
  /-- `engine_set_root_page_table_e3k`, which invalidates both TLBs as a whole -/
  | setRootPageTable (device engine : Nat)
  /-- `engine_invalidate_tlb_command_e3k`, with the dirty ranges it has read -/
  | invalidateTlb (device engine : Nat) (utlb dtlb : GartDirty)
  /-- a render task -/
  | render (device : Nat)

/-- A dirty range covers pages, and is dirty even if there are none. -/
def CoversPages (range : GartDirty) (pages : List Nat) : Prop :=
  range.dirty = true ∧ ∀ page ∈ pages, range.Covers (pageVa page)

/-- A command is a TLB invalidation of an engine for a device that covers the pages. -/
def RingCommand.Invalidates (device engine : Nat) (pages : List Nat) : RingCommand Pages → Prop
  | .setRootPageTable other target => other = device ∧ target = engine
  | .invalidateTlb other target _ dtlb =>
      other = device ∧ target = engine ∧ CoversPages dtlb pages
  | .vmUpdate _ | .render _ => False

-----------------------------------------------------------------------------------------
-- Tasks
-----------------------------------------------------------------------------------------

/-- How far the worker of an engine is with a task. -/
inductive WorkStage (Pages : Type) where
  /-- in `vidmm_allocation_list_update_mapping`, with the entries that are left, the lists
  that are to come, and the vm-update task in hand -/
  | preparing (entries : List (Option Nat)) (lists : List (List (Option Nat)))
      (task : Option (Vidmm.VmUpdateTask Pages))
  | prepared
  /-- `vidsch_choose_vm_id` has allocated a page-table-set task -/
  | wanted
  /-- the commands of that task end before `position` -/
  | issued (position : Nat)
  /-- its dirty ranges are cleared -/
  | cleared (position : Nat)
  /-- `vidsch_choose_vm_id` has returned -/
  | ready

/-- The allocation that is next and the vm-update task in hand. -/
def WorkStage.front : WorkStage Pages → Option (Nat × Option (Vidmm.VmUpdateTask Pages))
  | .preparing (some address :: _) _ task => some (address, task)
  | _ => none

/-- What follows a list, by the lists that are to come. -/
def WorkStage.afterList : List (List (Option Nat)) → WorkStage Pages
  | [] => .prepared
  | list :: lists => .preparing list lists none

/-- A task between the begin of its preparation and the chip's `submit`. -/
structure Work (Pages : Type) where
  device : Nat
  primary : List (Option Nat)
  resident : List (Option Nat)
  /-- the allocations that its preparation has pinned -/
  pinned : List Nat
  stage : WorkStage Pages

/-- The allocations of a task, whose lists may have `NULL` in them. -/
def Work.allocations (work : Work Pages) : List Nat :=
  (work.primary ++ work.resident).reduceOption

/-- The descriptor of the task once it is submitted. -/
def Work.task (work : Work Pages) : TaskDma where
  device := work.device
  primary := work.primary
  resident := work.resident
  hasResident := true
  hasPrepared := true
  pinned := work.pinned

/-- What a run does not change. -/
structure MappingLayout (Pages : Type) where
  adapter : Adapter
  /-- the pages of each `vm_node` -/
  range : Nat → PageRange
  /-- `page_shift` of what backs an allocation -/
  pageShift : Pages → Nat
  large : ∀ pages, gpuPageShift ≤ pageShift pages

/-- The pages of a node whose entries an update writes. -/
def MappingLayout.writtenPages (layout : MappingLayout Pages) (backing : Pages) (node : VmNode)
    : List Nat :=
  let range := layout.range node.address
  writtenPagesFrom (layout.pageShift backing) range.last range.rounds range.first

/-- The pages of a node. -/
def MappingLayout.nodePages (layout : MappingLayout Pages) (node : VmNode) : List Nat :=
  let range := layout.range node.address
  List.range' range.first range.rounds

/-- A node and the page tables consist of whole pages of what backs an allocation. -/
def MappingLayout.WholePages (layout : MappingLayout Pages) (backing : Pages) (node : VmNode)
    : Prop :=
  let size := 2 ^ (layout.pageShift backing - gpuPageShift)
  let range := layout.range node.address
  size ∣ 1024 ∧ size ∣ range.first ∧ size ∣ range.last + 1

instance (layout : MappingLayout Pages) (backing : Pages) (node : VmNode)
    : Decidable (layout.WholePages backing node) :=
  inferInstanceAs (Decidable (_ ∧ _ ∧ _))

/-- The allocations of an adapter, the tasks that reference them, and the rings. -/
structure EngineMappings (Pages : Type) where
  mapping : MappingState Pages
  /-- the commands of all rings in the order they were written, each with its ring -/
  log : List (Nat × RingCommand Pages)
  /-- the commands of a ring before this position are completed -/
  completed : Nat → Nat
  /-- `device->vm`, by device -/
  vmaSpaces : Nat → VmaSpace
  rootPdAge : Nat → Nat
  /-- `pd_age` of the `vm_id` object of each device -/
  pdAge : Nat → Nat
  /-- what the worker of each engine is at -/
  works : Nat → Option (Work Pages)
  /-- the tasks that were submitted and are not released -/
  submitted : List TaskDma
  /-- the allocations that somebody else has pinned -/
  locked : List Nat
  /-- the engine of the task that the commands of a node were last written for, by
  allocation and node -/
  updatedFor : Nat → Nat → Nat

/-- What goes along with the update of an entry of an allocation list. -/
structure EntryUpdate (Pages : Type) where
  /-- for `vidmm_make_resident_locked` -/
  found : Option Pages
  steps : Nat → NodeSteps
  /-- the calls of `vidmm_update_ptes_e3k` for page directories, and those of an update that
  fails -/
  others : List UpdatePtesArg
  /-- how often `root_pd_age` is increased -/
  rootPds : Nat

/-- What the workers, the hardware and the users of the allocations do. -/
inductive EngineAction (Pages : Type) where
  /-- `vidsch_prepare_dma_task` -/
  | begin (engine device : Nat) (primary resident : List (Option Nat))
  | prepareEntry (engine : Nat) (entry : EntryUpdate Pages)
  | endList (engine : Nat)
  /-- `vidsch_choose_vm_id` up to a page-table-set task; `robbed` if another device has taken
  the object of this one -/
  | chooseVmId (engine : Nat) (robbed : Bool)
  /-- the two parts of `vidsch_submit_page_table_set_task` -/
  | setPageTable (engine : Nat)
  | clearDirtyRange (engine : Nat)
  /-- the end of `vidsch_choose_vm_id` -/
  | recordPdAge (engine : Nat)
  | submit (engine : Nat)
  | complete (ring position : Nat)
  | release (position : Nat)
  /-- `vidmmi_segment_unresident_allocations` for an allocation -/
  | evict (address : Nat)
  /-- `vidmm_restore_allocation`, while no engine has a task -/
  | restore (address : Nat)
  /-- `vidmm_prepare_and_mark_unpagable` and `vidmm_mark_pagable` by others -/
  | lock (address : Nat) (found : Option Pages)
  | unlock (address : Nat)

/-- The entry of an allocation list for `vidmm_allocation_list_update_mapping`. -/
def EntryUpdate.listEntry (entry : EntryUpdate Pages) (address : Nat) : ListEntry Pages :=
  ⟨some address, entry.found, entry.steps⟩

namespace EngineMappings

/-- What the worker of an engine is at changes. -/
def setWork (state : EngineMappings Pages) (engine : Nat) (work : Option (Work Pages))
    : EngineMappings Pages :=
  { state with works := Function.update state.works engine work }

/-- Commands at the end of a ring. -/
def write (state : EngineMappings Pages) (ring : Nat) (commands : List (RingCommand Pages))
    : EngineMappings Pages :=
  { state with log := state.log ++ commands.map fun command => (ring, command) }

/-- The vm-update tasks that are passed to `vidsch_submit_vm_update_task` between two states
of the allocations.
-/
def submittedBetween (before after : MappingState Pages) : List (RingCommand Pages) :=
  (after.submitted.drop before.submitted.length).map fun task => .vmUpdate task.commands

-----------------------------------------------------------------------------------------
-- Preparation
-----------------------------------------------------------------------------------------

/-- The private nodes that an update has stamped. -/
def stampedNodes (before after : List VmNode) : List VmNode :=
  after.filter fun node => node ∉ before ∧ node.shared = false

/-- Calls of `vidmm_update_ptes_e3k` for an engine, one after the other. -/
def updateOthers (adapter : Adapter) (engine : Nat)
    : List UpdatePtesArg → VmaSpace → Option VmaSpace
  | [], vmaSpace => some vmaSpace
  | arg :: rest, vmaSpace => do
      let (vmaSpace, _) ← vidmmUpdatePtesE3k adapter vmaSpace engine arg
      updateOthers adapter engine rest vmaSpace

/-- What `vidmm_vm_update_ptes` for these nodes does to the dirty range of the engine. -/
def dirtyNodes (layout : MappingLayout Pages) (backing : Pages) (nodes : List VmNode)
    (dirty : GartDirty) : GartDirty :=
  nodes.foldl
    (fun dirty node =>
      let range := layout.range node.address
      dirtyPtesFrom (layout.pageShift backing) range.last range.rounds range.first dirty)
    dirty

/-- The dirty ranges after an entry was updated. -/
def dirtyEntry (layout : MappingLayout Pages) (engine : Nat) (backing : Pages)
    (stamped : List VmNode) (others : List UpdatePtesArg) (vmaSpace : VmaSpace)
    : Option VmaSpace := do
  let vmaSpace ← updateOthers layout.adapter engine others vmaSpace
  let dirty := dirtyNodes layout backing stamped (vmaSpace.dtlbDirtys engine)
  return { vmaSpace with dtlbDirtys := Function.update vmaSpace.dtlbDirtys engine dirty }

/-- The state once `vidmmi_allocation_update_mapping` has returned for an allocation. -/
def noteEntry (state : EngineMappings Pages) (layout : MappingLayout Pages)
    (engine device : Nat) (entry : EntryUpdate Pages) (address : Nat)
    (mapping : MappingState Pages) : Option (EngineMappings Pages) := do
  let allocation := mapping.allocations address
  let stamped := stampedNodes (state.mapping.allocations address).gpuVmList allocation.gpuVmList
  let vmaSpace ←
    dirtyEntry layout engine allocation.pages stamped entry.others (state.vmaSpaces device)
  let updatedFor node :=
    if node ∈ stamped.map VmNode.address then engine else state.updatedFor address node
  return { state with
    mapping := mapping
    vmaSpaces := Function.update state.vmaSpaces device vmaSpace
    rootPdAge :=
      Function.update state.rootPdAge device (state.rootPdAge device + entry.rootPds)
    updatedFor := Function.update state.updatedFor address updatedFor }

/-- The body of the loop of `vidmm_allocation_list_update_mapping`. -/
def prepareEntry (state : EngineMappings Pages) (layout : MappingLayout Pages) (engine : Nat)
    (entry : EntryUpdate Pages) : Option (EngineMappings Pages) := do
  let work ← state.works engine
  match work.stage with
  | .preparing (none :: rest) lists task =>
      state.setWork engine (some { work with stage := .preparing rest lists task })
  | .preparing (some address :: rest) lists task =>
      let update := (entry.listEntry address).update work.device state.mapping task
      let state ← state.noteEntry layout engine work.device entry address update.state
      if update.succeeded then
        let next := (entry.listEntry address).submitOverThreshold rest.isEmpty update
        let state := state.write reservedEngineIndex (submittedBetween update.state next.1)
        let work :=
          { work with
            pinned := work.pinned ++ [address]
            stage := .preparing rest lists next.2 }
        ({ state with mapping := next.1 } : EngineMappings Pages).setWork engine (some work)
      -- `goto exit`: the task is discarded, and the vm-update task in hand as well
      else state.setWork engine none
  | _ => none

/-- The end of `vidmm_allocation_list_update_mapping`, and the call for the next list. -/
def endList (state : EngineMappings Pages) (engine : Nat) : Option (EngineMappings Pages) := do
  let work ← state.works engine
  match work.stage with
  | .preparing [] lists task =>
      let mapping := state.mapping.submit task
      let state := state.write reservedEngineIndex (submittedBetween state.mapping mapping)
      ({ state with mapping := mapping } : EngineMappings Pages).setWork engine
        (some { work with stage := .afterList lists })
  | _ => none

-----------------------------------------------------------------------------------------
-- Submission
-----------------------------------------------------------------------------------------

/-- `vidsch_choose_vm_id`, up to the allocation of a page-table-set task. Another object than
before has `pd_age` 0.
-/
def chooseVmId (state : EngineMappings Pages) (engine : Nat) (robbed : Bool)
    : Option (EngineMappings Pages) := do
  let work ← state.works engine
  match work.stage with
  | .prepared =>
      let vmaSpace := state.vmaSpaces work.device
      let pdAge := if robbed then 0 else state.pdAge work.device
      let clean := !(vmaSpace.dtlbDirtys engine).dirty && !(vmaSpace.utlbDirtys engine).dirty
      let stage :=
        if state.rootPdAge work.device ≤ pdAge ∧ clean = true then .ready else .wanted
      { state with pdAge := Function.update state.pdAge work.device pdAge }.setWork engine
        (some { work with stage := stage })
  | _ => none

/-- `vidsch_submit_page_table_set_task` up to its unlock of the engine. -/
def setPageTable (state : EngineMappings Pages) (engine : Nat)
    : Option (EngineMappings Pages) := do
  let work ← state.works engine
  match work.stage with
  | .wanted =>
      let vmaSpace := state.vmaSpaces work.device
      let command :=
        if state.pdAge work.device < state.rootPdAge work.device then
          .setRootPageTable work.device engine
        else
          .invalidateTlb work.device engine (vmaSpace.utlbDirtys engine)
            (vmaSpace.dtlbDirtys engine)
      let state := state.write reservedEngineIndex [command]
      state.setWork engine (some { work with stage := .issued state.log.length })
  | _ => none

/-- `vidmm_vm_clear_engine_dirty_range` in `vidsch_submit_page_table_set_task`. -/
def clearDirtyRange (state : EngineMappings Pages) (engine : Nat)
    : Option (EngineMappings Pages) := do
  let work ← state.works engine
  match work.stage with
  | .issued position =>
      let vmaSpace := vidmmVmClearEngineDirtyRange (state.vmaSpaces work.device) engine
      { state with vmaSpaces := Function.update state.vmaSpaces work.device vmaSpace }.setWork
        engine (some { work with stage := .cleared position })
  | _ => none

/-- The end of `vidsch_choose_vm_id`: on a video engine it waits for the fence of the
page-table-set task.
-/
def recordPdAge (state : EngineMappings Pages) (engine : Nat)
    : Option (EngineMappings Pages) := do
  let work ← state.works engine
  match work.stage with
  | .cleared position =>
      if isVideoEngine engine ∧ state.completed reservedEngineIndex < position then none
      else
        let pdAge := max (state.pdAge work.device) (state.rootPdAge work.device)
        { state with pdAge := Function.update state.pdAge work.device pdAge }.setWork engine
          (some { work with stage := .ready })
  | _ => none

/-- The chip's `submit`. -/
def submit (state : EngineMappings Pages) (engine : Nat) : Option (EngineMappings Pages) := do
  let work ← state.works engine
  match work.stage with
  | .ready =>
      let state := state.write engine [.render work.device]
      { state with submitted := work.task :: state.submitted }.setWork engine none
  | _ => none

-----------------------------------------------------------------------------------------
-- Runs
-----------------------------------------------------------------------------------------

/-- An allocation changes. -/
def setAllocation (state : EngineMappings Pages) (address : Nat)
    (allocation : MappedAllocation Pages) : EngineMappings Pages :=
  { state with mapping := state.mapping.set address allocation }

/-- One step; `none` for a step that is not possible. -/
def next (layout : MappingLayout Pages) (state : EngineMappings Pages)
    : EngineAction Pages → Option (EngineMappings Pages)
  | .begin engine device primary resident =>
      let stage := .preparing primary [resident] none
      -- the other engines have `ENGINE_CTRL_DISABLE`, and the reserved device no render tasks
      if (engine = reservedEngineIndex ∨ isVideoEngine engine) ∧ device ≠ 0
          ∧ (state.works engine).isNone then
        state.setWork engine (some ⟨device, primary, resident, [], stage⟩)
      else none
  | .prepareEntry engine entry => state.prepareEntry layout engine entry
  | .endList engine => state.endList engine
  | .chooseVmId engine robbed => state.chooseVmId engine robbed
  | .setPageTable engine => state.setPageTable engine
  | .clearDirtyRange engine => state.clearDirtyRange engine
  | .recordPdAge engine => state.recordPdAge engine
  | .submit engine => state.submit engine
  | .complete ring position =>
      if state.completed ring ≤ position ∧ position ≤ state.log.length then
        some { state with completed := Function.update state.completed ring position }
      else none
  | .release position => do
      let task ← state.submitted[position]?
      let mapping ← vidschiReleaseDmaTask state.mapping task
      return { state with mapping := mapping, submitted := state.submitted.eraseIdx position }
  | .evict address => do
      let mapping ← state.mapping.evict address
      return { state with mapping := mapping }
  | .restore address =>
      let allocation := state.mapping.allocations address
      if ∀ engine < maxEngineCount, (state.works engine).isNone then
        state.setAllocation address
          { allocation with residentAge := allocation.residentAge + 1 }
      else none
  | .lock address found =>
      let prepared := vidmmPrepareAndMarkUnpagable (state.mapping.allocations address) found
      { state with locked := address :: state.locked }.setAllocation address prepared.1
  | .unlock address =>
      if address ∈ state.locked then
        { state with locked := state.locked.erase address }.setAllocation address
          (vidmmMarkPagable (state.mapping.allocations address))
      else none

/-- Nothing is prepared, pinned or written, and no node was ever mapped. -/
structure Unwritten (state : EngineMappings Pages) : Prop where
  unpinned : ∀ address, (state.mapping.allocations address).tempUnpagable = 0
  distinct
    : ∀ address, ((state.mapping.allocations address).gpuVmList.map VmNode.address).Nodup
  stale
    : ∀ address, ∀ node ∈ (state.mapping.allocations address).gpuVmList,
        node.age < (state.mapping.allocations address).residentAge
  works : ∀ engine, state.works engine = none
  submitted : state.submitted = []
  locked : state.locked = []

/-- The tasks of all engines under every interleaving. -/
def system (layout : MappingLayout Pages)
    : System (EngineMappings Pages) (EngineAction Pages) :=
  .ofFunction Unwritten (next layout)

/-- The commands that map the current pages of an allocation at a node are at this place of
ring 0.
-/
def WrittenAt (state : EngineMappings Pages) (position address : Nat) (node : VmNode) : Prop :=
  ∃ commands, state.log[position]? = some (reservedEngineIndex, .vmUpdate commands)
    ∧ (state.mapping.allocations address).pteCommands node ∈ commands

/-- A TLB invalidation of an engine that covers the pages of a node is at this place of
ring 0.
-/
def InvalidatedAt (state : EngineMappings Pages) (layout : MappingLayout Pages)
    (engine position : Nat) (node : VmNode) : Prop :=
  ∃ command, state.log[position]? = some (reservedEngineIndex, command)
    ∧ command.Invalidates node.device engine (layout.nodePages node)

/-- A task of an engine finds each private node of its allocations in order: the commands for
the current pages are written and after them the TLB of the engine is invalidated, in the
same ring as the task or with both completed.
-/
def Fresh (state : EngineMappings Pages) (layout : MappingLayout Pages) (engine : Nat)
    (work : Work Pages) : Prop :=
  ∀ address ∈ work.allocations, ∀ node ∈ (state.mapping.allocations address).gpuVmList,
    node.device = work.device → node.shared = false
      → ∃ written flushed, written < flushed
          ∧ state.WrittenAt written address node
          ∧ state.InvalidatedAt layout engine flushed node
          ∧ (engine = reservedEngineIndex ∨ flushed < state.completed reservedEngineIndex)

/-- An entry is prepared without losing commands in hand. Each private node of the device that
is found current had its commands written for a task of the same engine, and the others
consist of whole pages.
-/
def EntryPermitted (state : EngineMappings Pages) (layout : MappingLayout Pages)
    (engine device address : Nat) (task : Option (Vidmm.VmUpdateTask Pages))
    (entry : EntryUpdate Pages) : Prop :=
  let allocation := state.mapping.allocations address
  let prepared := vidmmPrepareAndMarkUnpagable allocation entry.found
  ((entry.listEntry address).update device state.mapping task).Careful
    ∧ ∀ node ∈ allocation.gpuVmList, node.device = device → node.shared = false
      → if prepared.1.residentAge ≤ node.age then
          state.updatedFor address node.address = engine
        else layout.WholePages prepared.1.pages node

instance (state : EngineMappings Pages) (layout : MappingLayout Pages)
    (engine device address : Nat) (task : Option (Vidmm.VmUpdateTask Pages))
    (entry : EntryUpdate Pages)
    : Decidable (state.EntryPermitted layout engine device address task entry) := by
  unfold EntryPermitted AllocationUpdate.Careful
  infer_instance

/-- The steps of the runs for which tasks find their mappings in order. -/
def Permitted (layout : MappingLayout Pages) (state : EngineMappings Pages)
    : EngineAction Pages → Prop
  | .prepareEntry engine entry =>
      ∀ work ∈ state.works engine, ∀ front ∈ work.stage.front,
        state.EntryPermitted layout engine work.device front.1 front.2 entry
  | _ => True

instance (layout : MappingLayout Pages) (state : EngineMappings Pages)
    : ∀ action, Decidable (Permitted layout state action)
  | .prepareEntry engine entry =>
      inferInstanceAs (Decidable (∀ work ∈ state.works engine, ∀ front ∈ work.stage.front,
        state.EntryPermitted layout engine work.device front.1 front.2 entry))
  | .begin .. | .endList _ | .chooseVmId .. | .setPageTable _ | .clearDirtyRange _
  | .recordPdAge _ | .submit _ | .complete .. | .release _ | .evict _ | .restore _ | .lock ..
  | .unlock _ => .isTrue trivial

end EngineMappings

end Cx4Kernel.Vidsch
