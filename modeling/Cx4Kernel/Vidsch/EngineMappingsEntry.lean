import Cx4Kernel.Vidsch.EngineMappingsCoherent

/-! The preparation of an entry of an allocation list: what it does to the allocation, its
nodes and the dirty ranges, and that it keeps what runs keep.
-/

namespace Cx4Kernel.Vidsch

open Cx4Kernel.Foundation
open Cx4Kernel.Vidmm

variable {Pages : Type}

-----------------------------------------------------------------------------------------
-- What the update of an entry does
-----------------------------------------------------------------------------------------

/-- A round leaves the nodes of other devices alone. -/
theorem updateVmNode_other {device : Nat} (allocation : MappedAllocation Pages)
    (steps : NodeSteps) (task : Option (Vidmm.VmUpdateTask Pages)) {node : VmNode}
    (other : node.device ≠ device)
    : updateVmNode device allocation steps task node = ⟨node, task, true⟩ := by
  rw [updateVmNode, if_pos (.inl other)]

/-- A round that succeeds leaves a node of the device current. -/
theorem updateVmNode_current {device : Nat} {allocation : MappedAllocation Pages}
    {steps : NodeSteps} {task : Option (Vidmm.VmUpdateTask Pages)} {node : VmNode}
    (succeeded : (updateVmNode device allocation steps task node).succeeded = true)
    (own : node.device = device)
    : allocation.residentAge
      ≤ (updateVmNode device allocation steps task node).vmNode.age := by
  simp only [updateVmNode] at succeeded ⊢
  split at succeeded
  · next skipped =>
      rw [if_pos skipped]
      exact skipped.resolve_left (not_not_intro own)
  next stale =>
  rw [if_neg stale]
  split at succeeded
  · next shared =>
      rw [if_pos shared]
  next isPrivate =>
  rw [if_neg isPrivate]
  split at succeeded
  · cases succeeded
  · dsimp only at succeeded ⊢
    rw [if_pos succeeded]

/-- A node after an update is one from before, or a stale one of the device that was stamped,
whose commands are in hand if it is private.
-/
def CameFrom (device : Nat) (allocation : MappedAllocation Pages) (nodes : List VmNode)
    (hand : List (PteCommands Pages)) (node : VmNode) : Prop :=
  node ∈ nodes
  ∨ ∃ old ∈ nodes, old.device = device ∧ old.age < allocation.residentAge
      ∧ node = { old with age := allocation.residentAge }
      ∧ (node.shared = false → allocation.pteCommands node ∈ hand)

/-- More nodes and more commands in hand. -/
theorem CameFrom.mono {device : Nat} {allocation : MappedAllocation Pages}
    {nodes more : List VmNode} {hand later : List (PteCommands Pages)} {node : VmNode}
    (h : CameFrom device allocation nodes hand node) (part : nodes ⊆ more)
    (keeps : hand ⊆ later)
    : CameFrom device allocation more later node := by
  rcases h with old | ⟨old, member, own, stale, stamped, inHand⟩
  · exact .inl (part old)
  · exact .inr ⟨old, part member, own, stale, stamped,
      fun isPrivate => keeps (inHand isPrivate)⟩

/-- What the update of nodes of an allocation leaves behind. -/
structure NodesBrought (device : Nat) (allocation : MappedAllocation Pages)
    (nodes : List VmNode) (task : Option (Vidmm.VmUpdateTask Pages))
    (update : NodesUpdate Pages) : Prop where
  keeps : inHand task ⊆ inHand update.task
  from_old
    : ∀ node ∈ update.vmNodes, CameFrom device allocation nodes (inHand update.task) node
  current
    : update.succeeded = true → ∀ node ∈ update.vmNodes, node.device = device
        → allocation.residentAge ≤ node.age

/-- The loop brings the nodes of the device up to date, by induction on the nodes. -/
theorem updateVmNodes_brought (device : Nat) (allocation : MappedAllocation Pages)
    (steps : Nat → NodeSteps) (nodes : List VmNode) (position : Nat)
    (task : Option (Vidmm.VmUpdateTask Pages))
    : NodesBrought device allocation nodes task
        (updateVmNodes device allocation steps nodes position task) := by
  induction nodes generalizing position task with
  | nil => exact ⟨fun _ => id, fun _ => nofun, fun _ _ => nofun⟩
  | cons node rest ih =>
      let first := updateVmNode device allocation (steps position) task node
      have here : inHand task ⊆ inHand first.task
          ∧ CameFrom device allocation [node] (inHand first.task) first.vmNode
          ∧ first.vmNode.device = node.device := by
        rcases updateVmNode_cases device allocation (steps position) task node
          with ⟨same, hand⟩ | ⟨stale, -, stamped, hand⟩
        · exact ⟨hand ▸ fun _ => id, .inl (same ▸ List.mem_singleton_self _), same ▸ rfl⟩
        · have own : node.device = device := by
            by_contra other
            have untouched := congrArg NodeUpdate.vmNode
              (updateVmNode_other allocation (steps position) task other)
            rw [stamped] at untouched
            exact absurd (congrArg VmNode.age untouched) (Int.ne_of_gt stale)
          refine ⟨?_, .inr ⟨node, List.mem_singleton_self _, own, stale, stamped, ?_⟩, ?_⟩
          · rw [hand]
            exact List.subset_append_left _ _
          · intro isPrivate
            rw [stamped] at isPrivate
            rw [hand, if_neg (by simpa using isPrivate), stamped]
            exact List.mem_append_right _ (List.mem_singleton_self _)
          · rw [stamped]
      obtain ⟨keeps, came, device_eq⟩ := here
      simp only [updateVmNodes]
      split
      · next succeeded =>
          have later := ih (position + 1) first.task
          refine ⟨List.Subset.trans keeps later.keeps, ?_, ?_⟩
          · intro other member
            rcases List.mem_cons.mp member with rfl | member
            · exact came.mono (by simp) later.keeps
            · exact (later.from_old other member).mono (List.subset_cons_self _ _)
                (List.Subset.refl _)
          · intro done other member own
            rcases List.mem_cons.mp member with rfl | member
            · exact updateVmNode_current succeeded (device_eq ▸ own)
            · exact later.current done other member own
      · refine ⟨keeps, ?_, fun done => absurd done Bool.false_ne_true⟩
        intro other member
        rcases List.mem_cons.mp member with rfl | member
        · exact came.mono (by simp) (List.Subset.refl _)
        · exact .inl (List.mem_cons_of_mem _ member)

/-- What pinning leaves of the backing of an allocation. -/
theorem vidmmPrepareAndMarkUnpagable_backing (allocation : MappedAllocation Pages)
    (found : Option Pages)
    : let prepared := vidmmPrepareAndMarkUnpagable allocation found
      prepared.1.gpuVmList = allocation.gpuVmList
      ∧ (prepared.2 = true → prepared.1.resident = true)
      ∧ (prepared.1.residentAge = allocation.residentAge
            ∧ prepared.1.pages = allocation.pages
            ∧ (allocation.resident = true → prepared.1.resident = true)
          ∨ allocation.resident = false
            ∧ prepared.1.residentAge = allocation.residentAge + 1) := by
  simp only [vidmmPrepareAndMarkUnpagable, vidmmMakeResidentLocked]
  split
  · next resident => exact ⟨rfl, fun _ => resident, .inl ⟨rfl, rfl, id⟩⟩
  · next evicted =>
      cases found with
      | none =>
          dsimp only
          exact ⟨rfl, fun failed => absurd failed Bool.false_ne_true, .inl ⟨rfl, rfl, id⟩⟩
      | some pages => exact ⟨rfl, fun _ => rfl, .inr ⟨Bool.eq_false_iff.mpr evicted, rfl⟩⟩

/-- What the update of an entry leaves behind, for its allocation before and after, and the
commands in hand.
-/
structure EntryBrought (device : Nat) (entry : EntryUpdate Pages)
    (before after : MappedAllocation Pages) (hand later : List (PteCommands Pages))
    (succeeded : Bool) : Prop where
  pinned : after.tempUnpagable = before.tempUnpagable + 1
  addresses : after.gpuVmList.map VmNode.address = before.gpuVmList.map VmNode.address
  age
    : after.residentAge = (vidmmPrepareAndMarkUnpagable before entry.found).1.residentAge
  pages : after.pages = (vidmmPrepareAndMarkUnpagable before entry.found).1.pages
  backing
    : after.residentAge = before.residentAge ∧ after.pages = before.pages
          ∧ (before.resident = true → after.resident = true)
        ∨ before.resident = false ∧ after.residentAge = before.residentAge + 1
  resident : succeeded = true → after.resident = true
  keeps : hand ⊆ later
  from_old : ∀ node ∈ after.gpuVmList, CameFrom device after before.gpuVmList later node
  current
    : succeeded = true → ∀ node ∈ after.gpuVmList, node.device = device
        → after.residentAge ≤ node.age

/-- The update of an entry, which changes one allocation only. -/
theorem EntryUpdate.listEntry_brought (entry : EntryUpdate Pages) (device address : Nat)
    (state : MappingState Pages) (task : Option (Vidmm.VmUpdateTask Pages))
    : let update := (entry.listEntry address).update device state task
      update.state.submitted = state.submitted
      ∧ (∀ other ≠ address, update.state.allocations other = state.allocations other)
      ∧ EntryBrought device entry (state.allocations address)
          (update.state.allocations address) (inHand task) (inHand update.task)
          update.succeeded := by
  let prepared := vidmmPrepareAndMarkUnpagable (state.allocations address) entry.found
  have pinned := vidmmPrepareAndMarkUnpagable_tempUnpagable (state.allocations address)
    entry.found
  obtain ⟨nodes, resident, backing⟩ :=
    vidmmPrepareAndMarkUnpagable_backing (state.allocations address) entry.found
  simp only [listEntry, ListEntry.update]
  by_cases succeeded : prepared.2 = true
  · have brought := updateVmNodes_brought device prepared.1 entry.steps prepared.1.gpuVmList 0
      task
    have addresses := updateVmNodes_addresses device prepared.1 entry.steps
      prepared.1.gpuVmList 0 task
    simp only [prepared] at succeeded
    simp only [if_pos succeeded, vidmmiAllocationUpdateMapping,
      MappingState.allocations_set_self]
    refine ⟨rfl, fun other different => ?_, ?_⟩
    · rw [MappingState.allocations_set_of_ne _ _ different,
        MappingState.allocations_set_of_ne _ _ different]
    · refine ⟨pinned, ?_, rfl, rfl, backing, fun _ => resident succeeded, brought.keeps, ?_,
        brought.current⟩
      · exact addresses.trans (congrArg _ nodes)
      · exact nodes ▸ brought.from_old
  · simp only [prepared] at succeeded
    simp only [succeeded, Bool.false_eq_true, if_false]
    refine ⟨rfl, fun other different => ?_, ?_⟩
    · rw [MappingState.allocations_set_of_ne _ _ different]
    · rw [MappingState.allocations_set_self]
      refine ⟨pinned, congrArg _ nodes, rfl, rfl, backing, ?_, List.Subset.refl _, ?_, ?_⟩
      · exact fun done => absurd done Bool.false_ne_true
      · exact fun node member => .inl (nodes ▸ member)
      · exact fun done => absurd done Bool.false_ne_true

-----------------------------------------------------------------------------------------
-- Dirty ranges
-----------------------------------------------------------------------------------------

/-- What covers the written pages of a node covers all of them, if these are whole. -/
theorem CoversPages.nodePages {layout : MappingLayout Pages} {range : GartDirty}
    {backing : Pages} {node : VmNode}
    (h : CoversPages range (layout.writtenPages backing node))
    (whole : layout.WholePages backing node)
    : CoversPages range (layout.nodePages node) := by
  obtain ⟨table, start, stop⟩ := whole
  refine ⟨h.1, fun page member => h.2 page ?_⟩
  obtain ⟨low, high⟩ := List.mem_range'_1.mp member
  rw [PageRange.rounds] at high
  have ordered := (layout.range node.address).first_le
  refine mem_writtenPagesFrom table start stop low (by omega) ?_
  rw [PageRange.rounds]
  omega

namespace EngineMappings

variable {layout : MappingLayout Pages} {state after : EngineMappings Pages}
  {engine device address : Nat} {node : VmNode} {work : Work Pages}

/-- The other calls grow the ranges, by list induction. -/
theorem updateOthers_grows {adapter : Adapter} {others : List UpdatePtesArg}
    {vmaSpace later : VmaSpace} (h : updateOthers adapter engine others vmaSpace = some later)
    (target : Nat)
    : (vmaSpace.dtlbDirtys target).Grows (later.dtlbDirtys target) := by
  induction others generalizing vmaSpace with
  | nil =>
      cases h
      exact .refl _
  | cons arg rest ih =>
      obtain ⟨⟨next, command⟩, first, h⟩ := Option.bind_eq_some_iff.mp h
      exact (vidmmUpdatePtesE3k_grows first target).trans (ih h)

/-- Updating nodes grows the range and covers their pages, by list induction. -/
theorem dirtyNodes_spec (layout : MappingLayout Pages) (backing : Pages) (nodes : List VmNode)
    (dirty : GartDirty)
    : dirty.Grows (dirtyNodes layout backing nodes dirty)
      ∧ ∀ node ∈ nodes,
          CoversPages (dirtyNodes layout backing nodes dirty)
            (layout.writtenPages backing node) := by
  induction nodes generalizing dirty with
  | nil => exact ⟨.refl dirty, fun _ => nofun⟩
  | cons first rest ih =>
      let range := layout.range first.address
      let next := dirtyPtesFrom (layout.pageShift backing) range.last range.rounds range.first
        dirty
      obtain ⟨grows, covers⟩ := ih next
      refine ⟨(dirtyPtesFrom_grows _ _ _ _ _).trans grows, fun node member => ?_⟩
      rcases List.mem_cons.mp member with rfl | later
      · have some : 0 < range.rounds := Nat.sub_pos_of_lt (Nat.lt_succ_of_le range.first_le)
        refine CoversPages.grows ⟨dirty_dirtyPtesFrom dirty range.first_le some, ?_⟩ grows
        intro page written
        exact dirtyPtesFrom_covers dirty (layout.large backing) written
      · exact covers node later

/-- What the update of an entry does to the dirty ranges of a device. -/
theorem dirtyEntry_spec {backing : Pages} {stamped : List VmNode} {others : List UpdatePtesArg}
    {vmaSpace later : VmaSpace}
    (h : dirtyEntry layout engine backing stamped others vmaSpace = some later)
    : (∀ target, (vmaSpace.dtlbDirtys target).Grows (later.dtlbDirtys target))
      ∧ ∀ node ∈ stamped,
          CoversPages (later.dtlbDirtys engine) (layout.writtenPages backing node) := by
  obtain ⟨middle, ran, h⟩ := Option.bind_eq_some_iff.mp h
  cases h
  obtain ⟨grows, covers⟩ := dirtyNodes_spec layout backing stamped (middle.dtlbDirtys engine)
  refine ⟨fun target => (updateOthers_grows ran target).trans ?_, ?_⟩
  · dsimp only
    rcases eq_or_ne target engine with rfl | other
    · rw [Function.update_self]
      exact grows
    · rw [Function.update_of_ne other]
      exact .refl _
  · intro node member
    dsimp only
    rw [Function.update_self]
    exact covers node member

-----------------------------------------------------------------------------------------
-- Preparing an entry
-----------------------------------------------------------------------------------------

/-- What is noted of the update of an allocation, which is now this one: the dirty ranges
cover the nodes that were stamped, and these were updated for the engine.
-/
structure EntryNoted (state after : EngineMappings Pages) (layout : MappingLayout Pages)
    (engine device address : Nat) (allocation : MappedAllocation Pages) : Prop where
  others : ∀ other ≠ address, after.updatedFor other = state.updatedFor other
  grows
    : ∀ other target,
        ((state.vmaSpaces other).dtlbDirtys target).Grows
          ((after.vmaSpaces other).dtlbDirtys target)
  stamped
    : ∀ node ∈ allocation.gpuVmList, node ∉ (state.mapping.allocations address).gpuVmList
        → node.shared = false
        → CoversPages ((after.vmaSpaces device).dtlbDirtys engine)
            (layout.writtenPages allocation.pages node)
          ∧ after.updatedFor address node.address = engine
  found
    : ∀ node ∈ allocation.gpuVmList, node ∈ (state.mapping.allocations address).gpuVmList
        → after.updatedFor address node.address = state.updatedFor address node.address

/-- A node that was there before the update is not among those that were stamped. -/
theorem address_not_stamped {before after : List VmNode}
    (distinct : (after.map VmNode.address).Nodup) (member : node ∈ after)
    (old : node ∈ before)
    : node.address ∉ (stampedNodes before after).map VmNode.address := by
  intro stamped
  obtain ⟨other, there, same⟩ := List.mem_map.mp stamped
  obtain ⟨there, new⟩ := List.mem_filter.mp there
  have equal := List.inj_on_of_nodup_map distinct there member same
  rw [equal] at new
  simp [old] at new

/-- What `noteEntry` changes. -/
theorem noteEntry_noted {noted : EngineMappings Pages} {entry : EntryUpdate Pages}
    {mapping : MappingState Pages}
    (h : state.noteEntry layout engine device entry address mapping = some noted)
    (distinct : ((mapping.allocations address).gpuVmList.map VmNode.address).Nodup)
    : noted
        = { state with
            mapping := mapping
            vmaSpaces := noted.vmaSpaces
            rootPdAge := noted.rootPdAge
            updatedFor := noted.updatedFor }
      ∧ state.EntryNoted noted layout engine device address (mapping.allocations address) := by
  obtain ⟨vmaSpace, dirty, h⟩ := Option.bind_eq_some_iff.mp h
  cases h
  obtain ⟨grows, covers⟩ := dirtyEntry_spec dirty
  refine ⟨rfl, ?_, ?_, ?_, ?_⟩
  · exact fun other different => Function.update_of_ne different ..
  · intro other target
    dsimp only
    rcases eq_or_ne other device with rfl | different
    · rw [Function.update_self]
      exact grows target
    · rw [Function.update_of_ne different]
      exact .refl _
  · intro node member new isPrivate
    have stamped : node ∈ stampedNodes (state.mapping.allocations address).gpuVmList
        (mapping.allocations address).gpuVmList :=
      List.mem_filter.mpr ⟨member, by simp [new, isPrivate]⟩
    dsimp only
    rw [Function.update_self, Function.update_self, if_pos (List.mem_map_of_mem stamped)]
    exact ⟨covers node stamped, rfl⟩
  · intro node member old
    dsimp only
    rw [Function.update_self, if_neg (address_not_stamped distinct member old)]

/-- What the preparation of an entry does to the allocation and to everything else. The
worker goes on with `next`.
-/
structure EntryPrepared (state after : EngineMappings Pages) (layout : MappingLayout Pages)
    (engine address : Nat) (entry : EntryUpdate Pages) (work : Work Pages)
    (hand : List (PteCommands Pages)) (next : Option (Work Pages)) : Prop where
  others
    : ∀ other ≠ address, after.mapping.allocations other = state.mapping.allocations other
  brought
    : EntryBrought work.device entry (state.mapping.allocations address)
        (after.mapping.allocations address) work.stage.hand hand next.isSome
  noted
    : state.EntryNoted after layout engine work.device address
        (after.mapping.allocations address)
  log : ∃ more, after.log = state.log ++ more
  completed : after.completed = state.completed
  submitted : after.submitted = state.submitted
  locked : after.locked = state.locked
  works : after.works = Function.update state.works engine next
  written
    : ∀ commands ∈ hand,
        (∃ (position : Nat) (list : List (PteCommands Pages)),
          after.log[position]? = some (reservedEngineIndex, RingCommand.vmUpdate list)
          ∧ commands ∈ list)
        ∨ ∃ later ∈ next, commands ∈ later.stage.hand
  next_eq
    : ∀ later ∈ next, later.device = work.device
        ∧ later.pinned = work.pinned ++ [address]
        ∧ later.allocations = work.allocations
        ∧ later.stage.flushed = false
        ∧ some address :: later.stage.left = work.stage.left

/-- The task in hand is submitted or kept. -/
theorem submitOverThreshold_cases (entry : ListEntry Pages) (last : Bool)
    (update : AllocationUpdate Pages)
    : entry.submitOverThreshold last update = (update.state.submit update.task, none)
      ∨ entry.submitOverThreshold last update = (update.state, update.task) := by
  simp only [ListEntry.submitOverThreshold]
  split
  · exact .inl rfl
  · exact .inr rfl

/-- The update of an entry either goes on or, with nothing in hand, gives up. -/
theorem prepareEntry_prepared {entry : EntryUpdate Pages} {rest : List (Option Nat)}
    {lists : List (List (Option Nat))} {task : Option (Vidmm.VmUpdateTask Pages)}
    (taken : state.prepareEntry layout engine entry = some after)
    (found : work ∈ state.works engine)
    (stage : work.stage = .preparing (some address :: rest) lists task)
    (careful : ((entry.listEntry address).update work.device state.mapping task).Careful)
    (distinct : ((state.mapping.allocations address).gpuVmList.map VmNode.address).Nodup)
    : ∃ hand next, state.EntryPrepared after layout engine address entry work hand next := by
  obtain ⟨-, others, brought⟩ :=
    entry.listEntry_brought work.device address state.mapping task
  rw [Option.mem_def] at found
  simp only [prepareEntry, found, stage, Option.bind_eq_bind, Option.bind_some] at taken
  generalize (entry.listEntry address).update work.device state.mapping task = update
    at careful others brought taken
  obtain ⟨noted, note, taken⟩ := Option.bind_eq_some_iff.mp taken
  obtain ⟨same, note⟩ := noteEntry_noted note (brought.addresses ▸ distinct)
  have hand : work.stage.hand = inHand task := by rw [stage, WorkStage.hand]
  by_cases succeeded : update.succeeded = true
  · rw [if_pos succeeded] at taken
    cases taken
    rw [succeeded] at brought
    rw [same]
    rcases submitOverThreshold_cases (entry.listEntry address) rest.isEmpty update
      with large | kept
    · rw [large]
      refine ⟨inHand update.task, _, ?_, ?_, ?_, ⟨_, rfl⟩, rfl, rfl, rfl, rfl, ?_, ?_⟩
      · simpa only [setWork, MappingState.allocations_submit] using others
      · simp only [setWork, MappingState.allocations_submit, hand, Option.isSome_some]
        exact brought
      · simp only [setWork, MappingState.allocations_submit]
        exact ⟨note.others, note.grows, note.stamped, note.found⟩
      · intro commands member
        refine .inl (written_submit member (?_ : _ = state.log ++ _))
        simp only [setWork, write, submittedBetween_submit, List.map_map]
        rfl
      · intro later member
        cases member
        exact ⟨rfl, rfl, rfl, rfl, by rw [stage]; rfl⟩
    · rw [kept]
      refine ⟨inHand update.task, _, others, hand ▸ brought, ?_, ⟨_, rfl⟩, rfl, rfl, rfl, rfl, ?_,
        ?_⟩
      · exact ⟨note.others, note.grows, note.stamped, note.found⟩
      · exact fun commands member => .inr ⟨_, rfl, member⟩
      · intro later member
        cases member
        exact ⟨rfl, rfl, rfl, rfl, by rw [stage]; rfl⟩
  · rw [if_neg succeeded] at taken
    cases taken
    rw [Bool.not_eq_true] at succeeded
    rw [succeeded] at brought
    rw [same]
    refine ⟨inHand update.task, none, others, hand ▸ brought, ?_,
      ⟨[], (List.append_nil _).symm⟩, rfl, rfl, rfl, rfl, ?_, ?_⟩
    · exact ⟨note.others, note.grows, note.stamped, note.found⟩
    · intro commands member
      rw [careful succeeded] at member
      cases member
    · intro later member
      cases member

section EntryPrepared

variable {entry : EntryUpdate Pages} {task : Option (Vidmm.VmUpdateTask Pages)}
  {hand : List (PteCommands Pages)} {next : Option (Work Pages)}

/-- A node of the allocation is one from before, or a stale one of the device, which was
stamped for this engine.
-/
theorem EntryPrepared.node_cases
    (h : state.EntryPrepared after layout engine address entry work hand next)
    (distinct : ((state.mapping.allocations address).gpuVmList.map VmNode.address).Nodup)
    (member : node ∈ (after.mapping.allocations address).gpuVmList)
    : node ∈ (state.mapping.allocations address).gpuVmList
        ∧ after.updatedFor address node.address = state.updatedFor address node.address
      ∨ ∃ old ∈ (state.mapping.allocations address).gpuVmList, old.device = work.device
        ∧ old.age < (after.mapping.allocations address).residentAge
        ∧ node = { old with age := (after.mapping.allocations address).residentAge }
        ∧ (node.shared = false → (after.mapping.allocations address).pteCommands node ∈ hand
          ∧ CoversPages ((after.vmaSpaces work.device).dtlbDirtys engine)
              (layout.writtenPages (after.mapping.allocations address).pages node)
          ∧ after.updatedFor address node.address = engine) := by
  rcases h.brought.from_old node member with old | ⟨old, there, own, stale, stamped, inHand⟩
  · exact .inl ⟨old, h.noted.found node member old⟩
  · refine .inr ⟨old, there, own, stale, stamped, fun isPrivate => ⟨inHand isPrivate, ?_⟩⟩
    refine h.noted.stamped node member (fun before => ?_) isPrivate
    have same := List.inj_on_of_nodup_map distinct before there (by rw [stamped])
    have age := congrArg VmNode.age (stamped.symm.trans same)
    exact absurd age (Int.ne_of_gt stale)

/-- What a task has pinned stays as it was brought up to date for it. -/
theorem EntryPrepared.held
    (h : state.EntryPrepared after layout engine address entry work hand next)
    (kept : state.Kept) {target place : Nat} (held : state.Held target device place)
    : after.Held target device place := by
  rcases eq_or_ne place address with rfl | different
  · obtain ⟨age, stays⟩ : (after.mapping.allocations place).residentAge
          = (state.mapping.allocations place).residentAge
        ∧ (after.mapping.allocations place).resident = true := by
      rcases h.brought.backing with ⟨age, -, stays⟩ | ⟨evicted, -⟩
      · exact ⟨age, stays held.resident⟩
      · rw [held.resident] at evicted
        cases evicted
    refine ⟨stays, fun node member own isPrivate => ?_⟩
    rcases h.node_cases (kept.distinct place) member
      with ⟨old, updatedFor⟩ | ⟨old, there, -, stale, rfl, -⟩
    · rw [age, updatedFor]
      exact held.current node old own isPrivate
    · have current := (held.current old there own isPrivate).1
      omega
  · refine ⟨?_, ?_⟩
    · rw [h.others place different]
      exact held.resident
    · rw [h.others place different, h.noted.others place different]
      exact held.current

/-- The allocation itself is brought up to date for the task. -/
theorem EntryPrepared.held_self
    (h : state.EntryPrepared after layout engine address entry work hand next)
    (kept : state.Kept) (some : next.isSome = true)
    (permitted : state.EntryPermitted layout engine work.device address task entry)
    (notNewer
      : ∀ node ∈ (after.mapping.allocations address).gpuVmList,
          node.age ≤ (after.mapping.allocations address).residentAge)
    : after.Held engine work.device address := by
  refine ⟨h.brought.resident some, fun node member own isPrivate => ?_⟩
  have current := h.brought.current some node member own
  refine ⟨Int.le_antisymm (notNewer node member) current, ?_⟩
  rcases h.node_cases (kept.distinct address) member
    with ⟨old, updatedFor⟩ | ⟨_, -, -, -, -, stamped⟩
  · rw [updatedFor]
    have found := permitted.2 node old own isPrivate
    rwa [if_pos (h.brought.age ▸ current)] at found
  · exact (stamped isPrivate).2.2

/-- No node gets newer than its allocation. -/
theorem EntryPrepared.notNewer
    (h : state.EntryPrepared after layout engine address entry work hand next)
    (kept : state.Kept) (place : Nat) {node : VmNode}
    (member : node ∈ (after.mapping.allocations place).gpuVmList)
    : node.age ≤ (after.mapping.allocations place).residentAge := by
  rcases eq_or_ne place address with rfl | different
  · rcases h.node_cases (kept.distinct place) member with ⟨old, -⟩ | ⟨_, -, -, -, stamped, -⟩
    · have before := kept.notNewer place node old
      rcases h.brought.backing with ⟨age, -⟩ | ⟨-, age⟩
      · exact age ▸ before
      · omega
    · exact Int.le_of_eq (congrArg VmNode.age stamped)
  · rw [h.others place different] at member ⊢
    exact kept.notNewer place node member

/-- One pin more on the allocation, which the task remembers if it goes on. -/
theorem EntryPrepared.pinned
    (h : state.EntryPrepared after layout engine address entry work hand next)
    (kept : state.Kept) (found : work ∈ state.works engine) (place : Nat)
    : (after.holds place : Int) ≤ pins after.mapping place := by
  have few : (next.elim [] Work.pinned).count place
      ≤ work.pinned.count place + [address].count place := by
    cases next with
    | none => exact Nat.zero_le _
    | some later =>
        rw [Option.elim_some, (h.next_eq later rfl).2.1, List.count_append]
  have same := heldBy_update state.works (lt_maxEngineCount (kept.engines engine work found))
    next place
  rw [Option.mem_def] at found
  have bound := kept.pinned place
  rw [found, Option.elim_some] at same
  rw [holds, pins] at bound
  rw [holds, h.works, h.submitted, h.locked, pins]
  rcases eq_or_ne place address with rfl | different
  · rw [List.count_singleton_self] at few
    rw [h.brought.pinned]
    omega
  · rw [List.count_singleton, beq_false_of_ne different.symm, if_neg Bool.false_ne_true] at few
    rw [h.others place different]
    omega

/-- What permitted runs keep, but for the TLBs. -/
theorem EntryPrepared.kept
    (h : state.EntryPrepared after layout engine address entry work hand next)
    (kept : state.Kept) (found : work ∈ state.works engine)
    (permitted : state.EntryPermitted layout engine work.device address task entry)
    : after.Kept := by
  have known : ∀ target, ∀ other ∈ after.works target,
      target = engine ∧ other ∈ next ∨ other ∈ state.works target := by
    intro target other member
    rw [h.works, Function.update_apply] at member
    split at member
    · next same => exact .inl ⟨same, member⟩
    · exact .inr member
  refine ⟨?_, ?_, h.submitted ▸ kept.submitted, h.pinned kept found, ?_,
    fun place node => h.notNewer kept place, ?_⟩
  · intro target other member
    rcases known target other member with ⟨rfl, -⟩ | old
    · exact kept.engines target work found
    · exact kept.engines target other old
  · intro target other member
    rcases known target other member with ⟨rfl, mine⟩ | old
    · obtain ⟨-, pinned, allocations, -, left⟩ := h.next_eq other mine
      have all := kept.listed target work found
      rw [← left, List.reduceOption_cons_of_some] at all
      rw [pinned, allocations, List.append_assoc]
      exact all
    · exact kept.listed target other old
  · intro place
    rcases eq_or_ne place address with rfl | different
    · exact h.brought.addresses ▸ kept.distinct place
    · rw [h.others place different]
      exact kept.distinct place
  · intro target other member place pinned
    rcases known target other member with ⟨rfl, mine⟩ | old
    · obtain ⟨device, pinnedMore, -⟩ := h.next_eq other mine
      rw [device]
      rcases List.mem_append.mp (pinnedMore ▸ pinned) with before | last
      · exact h.held kept (kept.held target work found place before)
      · obtain rfl := List.mem_singleton.mp last
        exact h.held_self kept (mine ▸ rfl) permitted fun node => h.notNewer kept place
    · exact h.held kept (kept.held target other old place pinned)

/-- Commands that were on their way or there still are, where the backing stays. -/
theorem EntryPrepared.still
    (h : state.EntryPrepared after layout engine address entry work hand next)
    (found : work ∈ state.works engine) {target place : Nat}
    (ahead : state.Ahead after place)
    (before
      : state.Outstanding layout target place node ∨ state.Flushed layout target place node)
    (preparing : work.stage.position = none)
    : after.Outstanding layout target place node
      ∨ after.Flushed layout target place node := by
  rcases eq_or_ne target engine with rfl | elsewhere
  · rcases before with outstanding | flushed
    · refine .inl (outstanding.ahead ahead (h.noted.grows _ _) ?_ ?_)
      · intro other member inHand
        rw [eq_of_mem_works found member] at inHand
        rcases h.written _ (h.brought.keeps inHand)
          with ⟨position, list, there, among⟩ | ⟨later, mine, among⟩
        · exact .inl ⟨position, list, there, ahead.pteCommands node ▸ among⟩
        · exact .inr ⟨later, h.works ▸ (Function.update_self ..).trans mine, among⟩
      · intro later member _
        rw [h.works, Function.update_self] at member
        exact (h.next_eq later member).2.2.2.1
    · refine .inr (flushed.ahead ahead fun _ other member _ position waited => ?_)
      rw [eq_of_mem_works found member, preparing] at waited
      cases waited
  · have same : after.works target = state.works target := by
      rw [h.works, Function.update_of_ne elsewhere]
    rcases before with outstanding | flushed
    · refine .inl (outstanding.ahead ahead (h.noted.grows _ _) ?_ ?_)
      · exact fun other member inHand => .inr ⟨other, same ▸ member, inHand⟩
      · exact same ▸ outstanding.unflushed
    · exact .inr (flushed.ahead ahead fun _ other member device position waited =>
        .inr ⟨other, same ▸ member, device, waited⟩)

/-- Every mapping that is marked current has its commands on their way or there. -/
theorem EntryPrepared.delivered
    (h : state.EntryPrepared after layout engine address entry work hand next)
    (coherent : state.Coherent layout) (found : work ∈ state.works engine)
    (permitted : state.EntryPermitted layout engine work.device address task entry)
    (preparing : work.stage.position = none)
    : after.Delivered layout := by
  have forward := Nat.le_of_eq (congrFun h.completed reservedEngineIndex).symm
  intro place node marked
  rcases eq_or_ne place address with rfl | different
  · obtain ⟨member, isPrivate, current⟩ := marked
    rcases h.node_cases (coherent.kept.distinct place) member
      with ⟨old, updatedFor⟩ | ⟨before, there, own, stale, stamped, onItsWay⟩
    · rcases h.brought.backing with ⟨age, pages, -⟩ | ⟨-, age⟩
      · rw [updatedFor]
        exact h.still found ⟨h.log, forward, age, pages⟩
          (coherent.delivered place node ⟨old, isPrivate, current.trans age⟩) preparing
      · have notNewer := coherent.kept.notNewer place node old
        omega
    · obtain ⟨inHand, covered, updatedFor⟩ := onItsWay isPrivate
      have device : node.device = work.device := by rw [stamped, ← own]
      have whole := permitted.2 before there own (by rw [← isPrivate, stamped])
      rw [if_neg (Int.not_le.mpr (h.brought.age ▸ stale)), ← h.brought.pages] at whole
      rw [updatedFor]
      refine .inl ⟨device ▸ covered.nodePages (stamped ▸ whole), ?_, ?_⟩
      · rcases h.written _ inHand with written | ⟨later, mine, among⟩
        · exact .inl written
        · exact .inr ⟨later, h.works ▸ (Function.update_self ..).trans mine, among⟩
      · intro later member _
        rw [h.works, Function.update_self] at member
        exact (h.next_eq later member).2.2.2.1
  · have allocation := h.others place different
    rw [allocation] at marked
    rw [h.noted.others place different]
    exact h.still found ⟨h.log, forward, by rw [allocation], by rw [allocation]⟩
      (coherent.delivered place node marked) preparing

end EntryPrepared

/-- Preparing an entry puts the commands of what it stamps in hand, and its pages into the
dirty range of the engine.
-/
theorem Coherent.prepareEntry (h : state.Coherent layout) {entry : EntryUpdate Pages}
    (permitted : Permitted layout state (.prepareEntry engine entry))
    (taken : state.prepareEntry layout engine entry = some after)
    : after.Coherent layout := by
  obtain ⟨work, found, step⟩ := Option.bind_eq_some_iff.mp taken
  dsimp only at step
  split at step
  case h_3 => cases step
  · next rest lists task stage =>
    cases step
    refine ⟨h.kept.restage found ?_ rfl rfl rfl rfl rfl, ?_⟩
    · rw [stage]
      exact (List.reduceOption_cons_of_none _).symm
    refine h.delivered.advance rfl rfl ⟨[], (List.append_nil _).symm⟩ rfl rfl
      (fun _ _ _ => .refl _) fun address node ahead => ⟨fun outstanding => .inl ?_, ?_⟩
    · refine outstanding.ahead ahead (.refl _) ?_ ?_
      · intro other member inHand
        rw [eq_of_mem_works found member, stage] at inHand
        exact .inr ⟨_, Function.update_self .., inHand⟩
      · intro other member _
        rw [works_setWork, Function.update_self] at member
        cases member
        rfl
    · intro flushed
      refine flushed.ahead ahead fun _ other member _ position waited => ?_
      rw [eq_of_mem_works found member, stage] at waited
      cases waited
  · next address rest lists task stage =>
    have permitted : state.EntryPermitted layout engine work.device address task entry :=
      permitted work found (address, task) (by rw [stage]; rfl)
    obtain ⟨hand, next, prepared⟩ :=
      prepareEntry_prepared taken found stage permitted.1 (h.kept.distinct address)
    exact ⟨prepared.kept h.kept found permitted,
      prepared.delivered h found permitted (by rw [stage]; rfl)⟩

end EngineMappings

end Cx4Kernel.Vidsch
