import Mathlib.Algebra.BigOperators.Group.Finset.Basic
import Mathlib.Data.List.ReduceOption
import Cx4Kernel.Vidsch.EngineMappings

/-! What runs of the workers of all engines keep, and the steps of a worker that keep it: the
commands of a mapping that is marked current are on their way to the engine they were written
for, or its TLB was invalidated after them.
-/

namespace Cx4Kernel.Vidsch

open Cx4Kernel.Foundation
open Cx4Kernel.Vidmm

variable {Pages : Type}

-----------------------------------------------------------------------------------------
-- Where the commands of a node are
-----------------------------------------------------------------------------------------

/-- A range that grows covers the same pages. -/
theorem CoversPages.grows {range later : GartDirty} {pages : List Nat}
    (h : CoversPages range pages) (grows : range.Grows later)
    : CoversPages later pages :=
  ⟨grows.dirty h.1, fun page member => grows.covers _ (h.2 page member)⟩

namespace WorkStage

/-- The commands in hand. -/
def hand : WorkStage Pages → List (PteCommands Pages)
  | .preparing _ _ task => inHand task
  | _ => []

/-- The entries that are still to be prepared. -/
def left : WorkStage Pages → List (Option Nat)
  | .preparing entries lists _ => entries ++ lists.flatten
  | _ => []

/-- The TLB was invalidated, or had no need to be. -/
def flushed : WorkStage Pages → Bool
  | .issued _ | .cleared _ | .ready => true
  | _ => false

/-- Where the commands of the page-table-set task end that is waited for. -/
def position : WorkStage Pages → Option Nat
  | .issued position | .cleared position => some position
  | _ => none

@[simp]
theorem left_afterList (lists : List (List (Option Nat)))
    : (afterList lists : WorkStage Pages).left = lists.flatten := by
  cases lists <;> rfl

@[simp]
theorem left_ite (condition : Prop) [Decidable condition]
    : (if condition then .ready else .wanted : WorkStage Pages).left = [] := by
  split <;> rfl

@[simp]
theorem flushed_afterList (lists : List (List (Option Nat)))
    : (afterList lists : WorkStage Pages).flushed = false := by
  cases lists <;> rfl

end WorkStage

namespace EngineMappings

variable {layout : MappingLayout Pages} {state after : EngineMappings Pages}
  {engine device address : Nat} {node : VmNode} {work : Work Pages}

@[simp]
theorem works_setWork (state : EngineMappings Pages) (engine : Nat) (work : Option (Work Pages))
    : (state.setWork engine work).works = Function.update state.works engine work := rfl

/-- The dirty range of the engine covers the node, whose commands are in ring 0 or in hand,
and the worker of the engine has not passed the invalidation.
-/
structure Outstanding (state : EngineMappings Pages) (layout : MappingLayout Pages)
    (engine address : Nat) (node : VmNode) : Prop where
  covered
    : CoversPages ((state.vmaSpaces node.device).dtlbDirtys engine) (layout.nodePages node)
  written
    : (∃ position, state.WrittenAt position address node)
      ∨ ∃ work ∈ state.works engine,
          (state.mapping.allocations address).pteCommands node ∈ work.stage.hand
  unflushed
    : ∀ work ∈ state.works engine, work.device = node.device → work.stage.flushed = false

/-- The TLB of the engine was invalidated after the commands of the node, which for another
ring than 0 is completed or waited for.
-/
def Flushed (state : EngineMappings Pages) (layout : MappingLayout Pages)
    (engine address : Nat) (node : VmNode) : Prop :=
  ∃ written flushed, written < flushed
    ∧ state.WrittenAt written address node
    ∧ state.InvalidatedAt layout engine flushed node
    ∧ (engine = reservedEngineIndex
      ∨ flushed < state.completed reservedEngineIndex
      ∨ ∃ work ∈ state.works engine, work.device = node.device
          ∧ ∃ position ∈ work.stage.position, flushed < position)

/-- An allocation that a task of an engine has pinned: it stays resident, and its private
nodes of the device were brought up to date for the engine.
-/
structure Held (state : EngineMappings Pages) (engine device address : Nat) : Prop where
  resident : (state.mapping.allocations address).resident = true
  current
    : ∀ node ∈ (state.mapping.allocations address).gpuVmList, node.device = device
        → node.shared = false
          → node.age = (state.mapping.allocations address).residentAge
            ∧ state.updatedFor address node.address = engine

/-- The pins of the workers on an allocation. -/
def heldBy (works : Nat → Option (Work Pages)) (address : Nat) : Nat :=
  ∑ engine ∈ Finset.range maxEngineCount, ((works engine).elim [] Work.pinned).count address

/-- The pins on an allocation that somebody is going to give back. -/
def holds (state : EngineMappings Pages) (address : Nat) : Nat :=
  heldBy state.works address + (state.submitted.flatMap TaskDma.pinned).count address
    + state.locked.count address

/-- What holds in every state a permitted run reaches, but for the TLBs. -/
structure Kept (state : EngineMappings Pages) : Prop where
  engines
    : ∀ engine, ∀ work ∈ state.works engine,
        engine = reservedEngineIndex ∨ isVideoEngine engine = true
  listed
    : ∀ engine, ∀ work ∈ state.works engine,
        work.pinned ++ work.stage.left.reduceOption = work.allocations
  submitted
    : ∀ task ∈ state.submitted, task.pinned = (task.primary ++ task.resident).reduceOption
  pinned : ∀ address, (state.holds address : Int) ≤ pins state.mapping address
  distinct
    : ∀ address, ((state.mapping.allocations address).gpuVmList.map VmNode.address).Nodup
  notNewer
    : ∀ address, ∀ node ∈ (state.mapping.allocations address).gpuVmList,
        node.age ≤ (state.mapping.allocations address).residentAge
  held
    : ∀ engine, ∀ work ∈ state.works engine, ∀ address ∈ work.pinned,
        state.Held engine work.device address

/-- The commands of every mapping that is marked current are on their way to the engine they
were written for, or there.
-/
def Delivered (state : EngineMappings Pages) (layout : MappingLayout Pages) : Prop :=
  ∀ address node, (state.mapping.allocations address).MarkedCurrent node
    → state.Outstanding layout (state.updatedFor address node.address) address node
      ∨ state.Flushed layout (state.updatedFor address node.address) address node

-----------------------------------------------------------------------------------------
-- Tasks, pins and nodes
-----------------------------------------------------------------------------------------

/-- The engines with workers are few. -/
theorem lt_maxEngineCount (h : engine = reservedEngineIndex ∨ isVideoEngine engine = true)
    : engine < maxEngineCount := by
  rcases h with rfl | video
  · decide
  · simp only [isVideoEngine, decide_eq_true_eq] at video
    simp only [maxEngineCount]
    omega

/-- The pins of the workers when one of them changes its task. -/
theorem heldBy_update (works : Nat → Option (Work Pages)) (small : engine < maxEngineCount)
    (work : Option (Work Pages)) (address : Nat)
    : heldBy (Function.update works engine work) address
        + ((works engine).elim [] Work.pinned).count address
      = heldBy works address + (work.elim [] Work.pinned).count address := by
  have member := Finset.mem_range.mpr small
  have others : ∀ other ∈ (Finset.range maxEngineCount).erase engine,
      ((Function.update works engine work other).elim [] Work.pinned).count address
        = ((works other).elim [] Work.pinned).count address := by
    intro other different
    rw [Function.update_of_ne (Finset.ne_of_mem_erase different)]
  rw [heldBy, heldBy, ← Finset.add_sum_erase _ _ member, ← Finset.add_sum_erase _ _ member,
    Finset.sum_congr rfl others, Function.update_self]
  omega

/-- The only task of the worker of an engine. -/
theorem eq_of_mem_works {other : Work Pages} (found : work ∈ state.works engine)
    (member : other ∈ state.works engine)
    : other = work :=
  Option.some.inj (member.symm.trans found)

/-- The pins of a worker are among all. -/
theorem count_le_holds (state : EngineMappings Pages) (small : engine < maxEngineCount)
    (found : work ∈ state.works engine) (address : Nat)
    : work.pinned.count address ≤ state.holds address := by
  rw [Option.mem_def] at found
  rw [holds, heldBy, ← Finset.add_sum_erase _ _ (Finset.mem_range.mpr small), found,
    Option.elim_some]
  omega

/-- An allocation that a worker has pinned is not evicted. -/
theorem Kept.pinned_pos (h : state.Kept) (found : work ∈ state.works engine)
    (member : address ∈ work.pinned)
    : 0 < pins state.mapping address := by
  have small := lt_maxEngineCount (h.engines engine work found)
  have some := count_le_holds state small found address
  have one := List.count_pos_iff.mpr member
  have bound := h.pinned address
  omega

/-- What is held depends on the allocation and on the engine its nodes were updated for. -/
theorem Held.congr (h : state.Held engine device address)
    (allocation : after.mapping.allocations address = state.mapping.allocations address)
    (updatedFor : after.updatedFor = state.updatedFor)
    : after.Held engine device address := by
  refine ⟨?_, ?_⟩
  · rw [allocation]
    exact h.resident
  · rw [allocation, updatedFor]
    exact h.current

/-- A worker gets on with its task, without changing what is pinned. -/
theorem Kept.restage (h : state.Kept) (found : work ∈ state.works engine)
    {stage : WorkStage Pages}
    (left : stage.left.reduceOption = work.stage.left.reduceOption)
    (works : after.works = Function.update state.works engine (some { work with stage := stage }))
    (mapping : after.mapping.allocations = state.mapping.allocations)
    (submitted : after.submitted = state.submitted) (locked : after.locked = state.locked)
    (updatedFor : after.updatedFor = state.updatedFor)
    : after.Kept := by
  have known : ∀ other, ∀ next ∈ after.works other, ∃ before ∈ state.works other,
      next.device = before.device ∧ next.pinned = before.pinned
        ∧ next.allocations = before.allocations
        ∧ next.stage.left.reduceOption = before.stage.left.reduceOption := by
    intro other next member
    rw [works, Function.update_apply] at member
    split at member
    · next same =>
        subst same
        cases member
        exact ⟨work, found, rfl, rfl, rfl, left⟩
    · exact ⟨next, member, rfl, rfl, rfl, rfl⟩
  refine ⟨?_, ?_, submitted ▸ h.submitted, ?_, ?_, ?_, ?_⟩
  · intro other next member
    obtain ⟨before, member, -⟩ := known other next member
    exact h.engines other before member
  · intro other next member
    obtain ⟨before, member, -, pinned, allocations, left⟩ := known other next member
    rw [pinned, allocations, left]
    exact h.listed other before member
  · intro address
    have same := heldBy_update state.works (lt_maxEngineCount (h.engines engine work found))
      (some { work with stage := stage }) address
    rw [Option.mem_def] at found
    rw [found] at same
    have bound := h.pinned address
    rw [holds] at bound
    rw [holds, works, submitted, locked, pins, mapping]
    simp only [pins, Option.elim_some] at bound same
    omega
  · exact mapping ▸ h.distinct
  · exact mapping ▸ h.notNewer
  · intro other next member address held
    obtain ⟨before, member, device, pinned, -⟩ := known other next member
    rw [device]
    exact (h.held other before member address (pinned ▸ held)).congr (congrFun mapping address)
      updatedFor

-----------------------------------------------------------------------------------------
-- Commands on their way
-----------------------------------------------------------------------------------------

/-- The rings only get longer, and the backing of an allocation stays. -/
structure Ahead (state after : EngineMappings Pages) (address : Nat) : Prop where
  log : ∃ more, after.log = state.log ++ more
  completed : state.completed reservedEngineIndex ≤ after.completed reservedEngineIndex
  age
    : (after.mapping.allocations address).residentAge
      = (state.mapping.allocations address).residentAge
  pages
    : (after.mapping.allocations address).pages = (state.mapping.allocations address).pages

/-- What is in a ring stays there. -/
theorem Ahead.getElem? (ahead : state.Ahead after address) {position : Nat}
    {entry : Nat × RingCommand Pages} (found : state.log[position]? = some entry)
    : after.log[position]? = some entry := by
  obtain ⟨more, log⟩ := ahead.log
  rw [log, List.getElem?_append_left (List.getElem?_eq_some_iff.mp found).1, found]

/-- The commands of a node are the same. -/
theorem Ahead.pteCommands (ahead : state.Ahead after address) (node : VmNode)
    : (after.mapping.allocations address).pteCommands node
      = (state.mapping.allocations address).pteCommands node := by
  rw [MappedAllocation.pteCommands, MappedAllocation.pteCommands, ahead.age, ahead.pages]

/-- Commands that are written stay written. -/
theorem WrittenAt.ahead {position : Nat} (h : state.WrittenAt position address node)
    (ahead : state.Ahead after address)
    : after.WrittenAt position address node := by
  obtain ⟨commands, found, member⟩ := h
  exact ⟨commands, ahead.getElem? found, ahead.pteCommands node ▸ member⟩

/-- A node whose TLB was invalidated stays so, as long as a position that is waited for is
either still waited for or completed.
-/
theorem Flushed.ahead (h : state.Flushed layout engine address node)
    (ahead : state.Ahead after address)
    (waits
      : engine ≠ reservedEngineIndex → ∀ work ∈ state.works engine,
          work.device = node.device → ∀ position ∈ work.stage.position,
            position ≤ after.completed reservedEngineIndex
            ∨ ∃ later ∈ after.works engine, later.device = node.device
                ∧ position ∈ later.stage.position)
    : after.Flushed layout engine address node := by
  obtain ⟨written, flushed, order, commands, ⟨command, found, covers⟩, progress⟩ := h
  refine ⟨written, flushed, order, commands.ahead ahead, ⟨command, ahead.getElem? found, covers⟩,
    ?_⟩
  by_cases own : engine = reservedEngineIndex
  · exact .inl own
  · refine .inr ?_
    rcases progress with here | done | ⟨work, member, device, position, waited, before⟩
    · exact absurd here own
    · exact .inl (Nat.lt_of_lt_of_le done ahead.completed)
    · rcases waits own work member device position waited
        with done | ⟨later, member, device, waited⟩
      · exact .inl (Nat.lt_of_lt_of_le before done)
      · exact .inr ⟨later, member, device, position, waited, before⟩

/-- A node whose commands are on their way stays so, as long as its commands stay in hand or
are written, and the worker of the engine does not pass the invalidation.
-/
theorem Outstanding.ahead (h : state.Outstanding layout engine address node)
    (ahead : state.Ahead after address)
    (grows
      : ((state.vmaSpaces node.device).dtlbDirtys engine).Grows
          ((after.vmaSpaces node.device).dtlbDirtys engine))
    (hand
      : ∀ work ∈ state.works engine,
          (state.mapping.allocations address).pteCommands node ∈ work.stage.hand
          → (∃ position, after.WrittenAt position address node)
            ∨ ∃ later ∈ after.works engine,
                (state.mapping.allocations address).pteCommands node ∈ later.stage.hand)
    (unflushed
      : ∀ work ∈ after.works engine, work.device = node.device → work.stage.flushed = false)
    : after.Outstanding layout engine address node := by
  refine ⟨h.covered.grows grows, ?_, unflushed⟩
  rw [ahead.pteCommands node]
  rcases h.written with ⟨position, written⟩ | ⟨work, member, inHand⟩
  · exact .inl ⟨position, written.ahead ahead⟩
  · exact hand work member inHand

/-- In particular while the worker of the engine waits for nothing. -/
theorem Flushed.unwaited (h : state.Flushed layout engine address node)
    (ahead : state.Ahead after address) (found : work ∈ state.works engine)
    (unwaited : work.stage.position = none)
    : after.Flushed layout engine address node := by
  refine h.ahead ahead fun _ other member _ position waited => ?_
  rw [eq_of_mem_works found member, unwaited] at waited
  cases waited

/-- In particular while the worker of the engine has nothing in hand. -/
theorem Outstanding.unhanded (h : state.Outstanding layout engine address node)
    (ahead : state.Ahead after address) (found : work ∈ state.works engine)
    (empty : work.stage.hand = [])
    (grows
      : ((state.vmaSpaces node.device).dtlbDirtys engine).Grows
          ((after.vmaSpaces node.device).dtlbDirtys engine))
    (unflushed
      : ∀ work ∈ after.works engine, work.device = node.device → work.stage.flushed = false)
    : after.Outstanding layout engine address node := by
  refine h.ahead ahead grows (fun other member inHand => ?_) unflushed
  rw [eq_of_mem_works found member, empty] at inHand
  cases inHand

/-- When the worker of one engine gets on with its task, only the nodes whose commands were
written for this engine matter.
-/
theorem Delivered.advance (h : state.Delivered layout)
    (mapping : after.mapping.allocations = state.mapping.allocations)
    (updatedFor : after.updatedFor = state.updatedFor)
    (log : ∃ more, after.log = state.log ++ more) (completed : after.completed = state.completed)
    {next : Option (Work Pages)} (works : after.works = Function.update state.works engine next)
    (grows
      : ∀ device, ∀ target ≠ engine,
          ((state.vmaSpaces device).dtlbDirtys target).Grows
            ((after.vmaSpaces device).dtlbDirtys target))
    (own
      : ∀ address node, state.Ahead after address
          → (state.Outstanding layout engine address node
              → after.Outstanding layout engine address node
                ∨ after.Flushed layout engine address node)
            ∧ (state.Flushed layout engine address node
              → after.Flushed layout engine address node))
    : after.Delivered layout := by
  intro address node marked
  have ahead : state.Ahead after address :=
    ⟨log, completed ▸ Nat.le_refl _, by rw [mapping], by rw [mapping]⟩
  rw [mapping] at marked
  rw [updatedFor]
  rcases eq_or_ne (state.updatedFor address node.address) engine with here | elsewhere
  · rw [here]
    rcases here ▸ h address node marked with outstanding | flushed
    · exact (own address node ahead).1 outstanding
    · exact .inr ((own address node ahead).2 flushed)
  · have same : after.works (state.updatedFor address node.address)
        = state.works (state.updatedFor address node.address) := by
      rw [works, Function.update_of_ne elsewhere]
    rcases h address node marked with outstanding | flushed
    · refine .inl (outstanding.ahead ahead (grows _ _ elsewhere) ?_ ?_)
      · exact fun work member inHand => .inr ⟨work, same ▸ member, inHand⟩
      · exact same ▸ outstanding.unflushed
    · exact .inr (flushed.ahead ahead fun _ work member device position waited =>
        .inr ⟨work, same ▸ member, device, waited⟩)

-----------------------------------------------------------------------------------------
-- Steps of one worker
-----------------------------------------------------------------------------------------

/-- What every permitted run keeps. -/
structure Coherent (state : EngineMappings Pages) (layout : MappingLayout Pages) : Prop where
  kept : state.Kept
  delivered : state.Delivered layout

/-- The commands of a vm-update task that is submitted. -/
theorem submittedBetween_submit (mapping : MappingState Pages)
    (task : Option (Vidmm.VmUpdateTask Pages))
    : submittedBetween mapping (mapping.submit task)
      = task.toList.map fun task => .vmUpdate task.commands := by
  cases task with
  | none => simp [submittedBetween, MappingState.submit]
  | some task => simp [submittedBetween, MappingState.submit]

/-- Commands in hand are in ring 0 once the task is submitted. -/
theorem written_submit {task : Option (Vidmm.VmUpdateTask Pages)}
    {log later : List (Nat × RingCommand Pages)} {commands : PteCommands Pages}
    (member : commands ∈ inHand task)
    (submitted
      : later
        = log ++ task.toList.map fun task => (reservedEngineIndex, .vmUpdate task.commands))
    : ∃ (position : Nat) (list : List (PteCommands Pages)),
        later[position]? = some (reservedEngineIndex, .vmUpdate list) ∧ commands ∈ list := by
  cases task with
  | none => cases member
  | some task =>
      refine ⟨log.length, task.commands, ?_, member⟩
      rw [submitted]
      simp

/-- Preparation begins with nothing pinned and no commands in hand. -/
theorem Coherent.begin (h : state.Coherent layout)
    (valid : engine = reservedEngineIndex ∨ isVideoEngine engine = true)
    (idle : state.works engine = none) (device : Nat) (primary resident : List (Option Nat))
    : (state.setWork engine
        (some ⟨device, primary, resident, [], .preparing primary [resident] none⟩)).Coherent
        layout := by
  let work : Work Pages := ⟨device, primary, resident, [], .preparing primary [resident] none⟩
  have known : ∀ other, ∀ next ∈ (state.setWork engine (some work)).works other,
      other = engine ∧ next = work ∨ next ∈ state.works other := by
    intro other next member
    rw [works_setWork, Function.update_apply] at member
    split at member
    · next same => exact .inl ⟨same, (Option.some.inj member).symm⟩
    · exact .inr member
  refine ⟨⟨?_, ?_, h.kept.submitted, ?_, h.kept.distinct, h.kept.notNewer, ?_⟩, ?_⟩
  · intro other next member
    rcases known other next member with ⟨rfl, -⟩ | old
    · exact valid
    · exact h.kept.engines other next old
  · intro other next member
    rcases known other next member with ⟨-, rfl⟩ | old
    · simp [work, WorkStage.left, Work.allocations]
    · exact h.kept.listed other next old
  · intro address
    have same := heldBy_update state.works (lt_maxEngineCount valid) (some work) address
    have bound := h.kept.pinned address
    rw [idle] at same
    rw [holds] at bound
    rw [holds, setWork]
    simp only [work, pins, Option.elim_some, Option.elim_none, List.count_nil] at bound same ⊢
    omega
  · intro other next member address held
    rcases known other next member with ⟨-, rfl⟩ | old
    · cases held
    · exact (h.kept.held other next old address held).congr rfl rfl
  · refine h.delivered.advance rfl rfl ⟨[], (List.append_nil _).symm⟩ rfl rfl
      (fun _ _ _ => .refl _) fun address node ahead => ⟨fun outstanding => .inl ?_, ?_⟩
    · refine outstanding.ahead ahead (.refl _) ?_ ?_
      · intro next member
        rw [idle] at member
        cases member
      · intro next member _
        rcases known engine next member with ⟨-, rfl⟩ | old
        · rfl
        · rw [idle] at old
          cases old
    · intro flushed
      refine flushed.ahead ahead fun _ next member => ?_
      rw [idle] at member
      cases member

/-- The end of a list submits the commands in hand. -/
theorem Coherent.endList (h : state.Coherent layout) (taken : state.endList engine = some after)
    : after.Coherent layout := by
  obtain ⟨work, found, taken⟩ := Option.bind_eq_some_iff.mp taken
  dsimp only at taken
  split at taken
  case h_2 => cases taken
  next lists task stage =>
  cases taken
  refine ⟨h.kept.restage found ?_ rfl (MappingState.allocations_submit _ _) rfl rfl rfl, ?_⟩
  · rw [stage, WorkStage.left_afterList]
    rfl
  refine h.delivered.advance (MappingState.allocations_submit _ _) rfl ⟨_, rfl⟩ rfl rfl
    (fun _ _ _ => .refl _) fun address node ahead => ⟨fun outstanding => .inl ?_, ?_⟩
  · refine outstanding.ahead ahead (.refl _) ?_ ?_
    · intro other member inHand
      rw [eq_of_mem_works found member, stage] at inHand
      refine .inl (written_submit (ahead.pteCommands node ▸ inHand) (?_ : _ = state.log ++ _))
      simp only [setWork, write, submittedBetween_submit, List.map_map]
      rfl
    · intro other member _
      rw [works_setWork, Function.update_self] at member
      cases member
      exact WorkStage.flushed_afterList lists
  · exact fun flushed => flushed.unwaited ahead found (by rw [stage]; rfl)

/-- A page-table-set task is left out only with clean dirty ranges, so no commands are on
their way then.
-/
theorem Coherent.chooseVmId (h : state.Coherent layout) {robbed : Bool}
    (taken : state.chooseVmId engine robbed = some after)
    : after.Coherent layout := by
  obtain ⟨work, found, taken⟩ := Option.bind_eq_some_iff.mp taken
  dsimp only at taken
  split at taken
  case h_2 => cases taken
  next stage =>
  cases taken
  refine ⟨h.kept.restage found ?_ rfl rfl rfl rfl rfl, ?_⟩
  · rw [stage, WorkStage.left_ite]
    rfl
  refine h.delivered.advance rfl rfl ⟨[], (List.append_nil _).symm⟩ rfl rfl
    (fun _ _ _ => .refl _) fun address node ahead => ⟨fun outstanding => .inl ?_, ?_⟩
  · refine outstanding.unhanded ahead found (by rw [stage]; rfl) (.refl _) ?_
    intro other member own
    rw [works_setWork, Function.update_self] at member
    cases member
    have dirty := outstanding.covered.1
    rw [← own] at dirty
    simp only [dirty, Bool.not_true, Bool.false_and, Bool.false_eq_true, and_false, if_false]
    rfl
  · exact fun flushed => flushed.unwaited ahead found (by rw [stage]; rfl)

/-- A page-table-set task invalidates what is dirty, which is all that is on its way. -/
theorem Coherent.setPageTable (h : state.Coherent layout)
    (taken : state.setPageTable engine = some after)
    : after.Coherent layout := by
  obtain ⟨work, found, taken⟩ := Option.bind_eq_some_iff.mp taken
  dsimp only at taken
  split at taken
  case h_2 => cases taken
  next stage =>
  cases taken
  refine ⟨h.kept.restage found ?_ rfl rfl rfl rfl rfl, ?_⟩
  · rw [stage]
    rfl
  refine h.delivered.advance rfl rfl ⟨_, rfl⟩ rfl rfl (fun _ _ _ => .refl _)
    fun address node ahead => ⟨fun outstanding => ?_, ?_⟩
  · have written : ∃ position, state.WrittenAt position address node := by
      rcases outstanding.written with written | ⟨other, member, inHand⟩
      · exact written
      · rw [eq_of_mem_works found member, stage] at inHand
        cases inHand
    obtain ⟨position, written⟩ := written
    have before : position < state.log.length := by
      obtain ⟨commands, there, -⟩ := written
      exact (List.getElem?_eq_some_iff.mp there).1
    by_cases own : work.device = node.device
    · refine .inr ⟨position, state.log.length, before, written.ahead ahead,
        ⟨_, List.getElem?_concat_length, ?_⟩, .inr (.inr ?_)⟩
      · split
        · exact ⟨own, rfl⟩
        · exact ⟨own, rfl, own ▸ outstanding.covered⟩
      · refine ⟨_, Function.update_self .., own, _, rfl, ?_⟩
        simp [write]
    · refine .inl (outstanding.unhanded ahead found (by rw [stage]; rfl) (.refl _) ?_)
      intro other member same
      rw [works_setWork, Function.update_self] at member
      cases member
      exact absurd same own
  · exact fun flushed => flushed.unwaited ahead found (by rw [stage]; rfl)

/-- Clearing the dirty ranges of an engine concerns what was invalidated. -/
theorem Coherent.clearDirtyRange (h : state.Coherent layout)
    (taken : state.clearDirtyRange engine = some after)
    : after.Coherent layout := by
  obtain ⟨work, found, taken⟩ := Option.bind_eq_some_iff.mp taken
  dsimp only at taken
  split at taken
  case h_2 => cases taken
  next position stage =>
  cases taken
  refine ⟨h.kept.restage found ?_ rfl rfl rfl rfl rfl, ?_⟩
  · rw [stage]
    rfl
  refine h.delivered.advance rfl rfl ⟨[], (List.append_nil _).symm⟩ rfl rfl ?_
    fun address node ahead => ⟨fun outstanding => ?_, ?_⟩
  · intro device target elsewhere
    dsimp only [setWork]
    rcases eq_or_ne device work.device with rfl | other
    · rw [Function.update_self, vidmmVmClearEngineDirtyRange]
      dsimp only
      rw [Function.update_of_ne elsewhere]
      exact .refl _
    · rw [Function.update_of_ne other]
      exact .refl _
  · have other : work.device ≠ node.device := by
      intro own
      have unflushed := outstanding.unflushed work found own
      rw [stage] at unflushed
      cases unflushed
    refine .inl (outstanding.unhanded ahead found (by rw [stage]; rfl) ?_ ?_)
    · dsimp only [setWork]
      rw [Function.update_of_ne other.symm]
      exact .refl _
    · intro next member own
      rw [works_setWork, Function.update_self] at member
      cases member
      exact absurd own other
  · intro flushed
    refine flushed.ahead ahead fun _ other member own place waited => .inr ?_
    rw [eq_of_mem_works found member] at own waited
    rw [stage] at waited
    exact ⟨_, Function.update_self .., own, waited⟩

/-- A video engine goes on once the invalidation is completed. -/
theorem Coherent.recordPdAge (h : state.Coherent layout)
    (taken : state.recordPdAge engine = some after)
    : after.Coherent layout := by
  obtain ⟨work, found, taken⟩ := Option.bind_eq_some_iff.mp taken
  dsimp only at taken
  split at taken
  case h_2 => cases taken
  next position stage =>
  split at taken
  · cases taken
  next done =>
  cases taken
  refine ⟨h.kept.restage found ?_ rfl rfl rfl rfl rfl, ?_⟩
  · rw [stage]
    rfl
  refine h.delivered.advance rfl rfl ⟨[], (List.append_nil _).symm⟩ rfl rfl
    (fun _ _ _ => .refl _) fun address node ahead => ⟨fun outstanding => .inl ?_, ?_⟩
  · refine outstanding.unhanded ahead found (by rw [stage]; rfl) (.refl _) ?_
    intro other member own
    rw [works_setWork, Function.update_self] at member
    cases member
    have unflushed := outstanding.unflushed work found own
    rw [stage] at unflushed
    cases unflushed
  · intro flushed
    refine flushed.ahead ahead fun elsewhere other member own place waited => .inl ?_
    rw [eq_of_mem_works found member, stage] at waited
    cases waited
    have video := (h.kept.engines engine work found).resolve_left elsewhere
    exact Nat.le_of_not_lt fun pending => done ⟨video, pending⟩

/-- A task that is submitted keeps its pins, which are those of its lists. -/
theorem Coherent.submit (h : state.Coherent layout) (taken : state.submit engine = some after)
    : after.Coherent layout := by
  obtain ⟨work, found, taken⟩ := Option.bind_eq_some_iff.mp taken
  dsimp only at taken
  split at taken
  case h_2 => cases taken
  next stage =>
  cases taken
  have known : ∀ other, ∀ next ∈ Function.update state.works engine none other,
      next ∈ state.works other := by
    intro other next member
    rw [Function.update_apply] at member
    split at member
    · cases member
    · exact member
  have all := h.kept.listed engine work found
  rw [stage] at all
  refine ⟨⟨?_, ?_, ?_, ?_, h.kept.distinct, h.kept.notNewer, ?_⟩, ?_⟩
  · exact fun other next member => h.kept.engines other next (known other next member)
  · exact fun other next member => h.kept.listed other next (known other next member)
  · intro task member
    rcases List.mem_cons.mp member with rfl | old
    · exact (List.append_nil _).symm.trans all
    · exact h.kept.submitted task old
  · intro address
    have same := heldBy_update state.works (lt_maxEngineCount (h.kept.engines engine work found))
      none address
    have bound := h.kept.pinned address
    rw [found] at same
    rw [holds] at bound
    rw [holds, works_setWork]
    simp only [setWork, write, Work.task, pins, List.flatMap_cons, List.count_append,
      Option.elim_some, Option.elim_none, List.count_nil] at bound same ⊢
    omega
  · exact fun other next member address held =>
      (h.kept.held other next (known other next member) address held).congr rfl rfl
  · refine h.delivered.advance rfl rfl ⟨_, rfl⟩ rfl rfl
      (fun _ _ _ => .refl _) fun address node ahead => ⟨fun outstanding => .inl ?_, ?_⟩
    · refine outstanding.unhanded ahead found (by rw [stage]; rfl) (.refl _) ?_
      intro other member
      rw [works_setWork, Function.update_self] at member
      cases member
    · exact fun flushed => flushed.unwaited ahead found (by rw [stage]; rfl)

/-- The hardware makes progress. -/
theorem Coherent.complete (h : state.Coherent layout) {ring position : Nat}
    (forward : state.completed ring ≤ position)
    : ({ state with completed := Function.update state.completed ring position }
        : EngineMappings Pages).Coherent layout := by
  refine ⟨⟨h.kept.engines, h.kept.listed, h.kept.submitted, h.kept.pinned, h.kept.distinct,
    h.kept.notNewer, ?_⟩, ?_⟩
  · exact fun other work member address held =>
      (h.kept.held other work member address held).congr rfl rfl
  · intro address node marked
    have ahead : state.Ahead
        { state with completed := Function.update state.completed ring position } address := by
      refine ⟨⟨[], (List.append_nil _).symm⟩, ?_, rfl, rfl⟩
      dsimp only
      rw [Function.update_apply]
      split
      · next same => exact same ▸ forward
      · exact Nat.le_refl _
    rcases h.delivered address node marked with outstanding | flushed
    · exact .inl (outstanding.ahead ahead (.refl _)
        (fun work member inHand => .inr ⟨work, member, inHand⟩) outstanding.unflushed)
    · exact .inr (flushed.ahead ahead fun _ work member device position waited =>
        .inr ⟨work, member, device, waited⟩)

end EngineMappings

end Cx4Kernel.Vidsch
