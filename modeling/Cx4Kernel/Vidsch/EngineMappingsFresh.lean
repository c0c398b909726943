import Cx4Kernel.Vidsch.EngineMappingsEntry

/-! A task finds its mappings written and its TLB invalidated, as long as each mapping it finds
current was written for its own engine and no commands are lost.
-/

namespace Cx4Kernel.Vidsch

open Cx4Kernel.Foundation
open Cx4Kernel.Vidmm

variable {Pages : Type}

namespace EngineMappings

variable {layout : MappingLayout Pages} {state after : EngineMappings Pages}
  {engine address : Nat} {node : VmNode} {work : Work Pages}

-----------------------------------------------------------------------------------------
-- Steps on the allocations
-----------------------------------------------------------------------------------------

/-- Allocations keep their nodes, and get new backing only with a greater age and while no
worker has them pinned.
-/
structure Rebacked (state after : EngineMappings Pages) : Prop where
  works : after.works = state.works
  updatedFor : after.updatedFor = state.updatedFor
  log : after.log = state.log
  completed : after.completed = state.completed
  vmaSpaces : after.vmaSpaces = state.vmaSpaces
  nodes
    : ∀ address, (after.mapping.allocations address).gpuVmList
        = (state.mapping.allocations address).gpuVmList
  backing
    : ∀ address,
        (after.mapping.allocations address).residentAge
            = (state.mapping.allocations address).residentAge
          ∧ (after.mapping.allocations address).pages
            = (state.mapping.allocations address).pages
        ∨ (state.mapping.allocations address).residentAge
          < (after.mapping.allocations address).residentAge
  held
    : ∀ engine, ∀ work ∈ state.works engine, ∀ address ∈ work.pinned,
        (state.mapping.allocations address).resident = true
        → (after.mapping.allocations address).resident = true
          ∧ (after.mapping.allocations address).residentAge
            = (state.mapping.allocations address).residentAge

/-- New backing leaves no node marked current, so nothing is on its way for it. -/
theorem Coherent.reback (h : state.Coherent layout) (rebacked : state.Rebacked after)
    (submitted : after.submitted ⊆ state.submitted)
    (pinned : ∀ address, (after.holds address : Int) ≤ pins after.mapping address)
    : after.Coherent layout := by
  have older : ∀ address, (state.mapping.allocations address).residentAge
      ≤ (after.mapping.allocations address).residentAge := by
    intro address
    rcases rebacked.backing address with ⟨age, -⟩ | newer
    · exact age ▸ Int.le_refl _
    · exact Int.le_of_lt newer
  refine ⟨⟨?_, ?_, fun task member => h.kept.submitted task (submitted member), pinned,
    ?_, ?_, ?_⟩, ?_⟩
  · exact rebacked.works ▸ h.kept.engines
  · exact rebacked.works ▸ h.kept.listed
  · exact fun address => rebacked.nodes address ▸ h.kept.distinct address
  · intro address node member
    rw [rebacked.nodes] at member
    exact (h.kept.notNewer address node member).trans (older address)
  · intro engine work member address held
    rw [rebacked.works] at member
    have before := h.kept.held engine work member address held
    obtain ⟨resident, age⟩ := rebacked.held engine work member address held before.resident
    refine ⟨resident, ?_⟩
    rw [rebacked.nodes, age, rebacked.updatedFor]
    exact before.current
  · intro address node marked
    obtain ⟨member, isPrivate, current⟩ := marked
    rw [rebacked.nodes] at member
    rcases rebacked.backing address with ⟨age, pages⟩ | newer
    · have ahead : state.Ahead after address :=
        ⟨⟨[], by rw [rebacked.log, List.append_nil]⟩, rebacked.completed ▸ Nat.le_refl _, age,
          pages⟩
      rw [rebacked.updatedFor]
      rcases h.delivered address node ⟨member, isPrivate, current.trans age⟩
        with outstanding | flushed
      · refine .inl (outstanding.ahead ahead ?_ ?_ ?_)
        · exact rebacked.vmaSpaces ▸ .refl _
        · exact fun work member inHand => .inr ⟨work, rebacked.works ▸ member, inHand⟩
        · exact rebacked.works ▸ outstanding.unflushed
      · exact .inr (flushed.ahead ahead fun _ work member device position waited =>
          .inr ⟨work, rebacked.works ▸ member, device, waited⟩)
    · have notNewer := h.kept.notNewer address node member
      omega

/-- One allocation changes, and who has it pinned. -/
theorem Rebacked.of_set {allocation : MappedAllocation Pages}
    (same
      : after = { state with
          mapping := state.mapping.set address allocation
          submitted := after.submitted
          locked := after.locked })
    (nodes : allocation.gpuVmList = (state.mapping.allocations address).gpuVmList)
    (backing
      : allocation.residentAge = (state.mapping.allocations address).residentAge
            ∧ allocation.pages = (state.mapping.allocations address).pages
          ∨ (state.mapping.allocations address).residentAge < allocation.residentAge)
    (held
      : ∀ engine, ∀ work ∈ state.works engine, address ∈ work.pinned
          → (state.mapping.allocations address).resident = true
          → allocation.resident = true
            ∧ allocation.residentAge = (state.mapping.allocations address).residentAge)
    : state.Rebacked after := by
  have mapping : after.mapping = state.mapping.set address allocation :=
    congrArg EngineMappings.mapping same
  refine ⟨by rw [same], by rw [same], by rw [same], by rw [same], by rw [same], ?_, ?_, ?_⟩
  · intro other
    rw [mapping]
    rcases eq_or_ne other address with rfl | different
    · rw [MappingState.allocations_set_self, nodes]
    · rw [MappingState.allocations_set_of_ne _ _ different]
  · intro other
    rw [mapping]
    rcases eq_or_ne other address with rfl | different
    · rw [MappingState.allocations_set_self]
      exact backing
    · rw [MappingState.allocations_set_of_ne _ _ different]
      exact .inl ⟨rfl, rfl⟩
  · intro engine work member other pinned resident
    rw [mapping]
    rcases eq_or_ne other address with rfl | different
    · rw [MappingState.allocations_set_self]
      exact held engine work member pinned resident
    · rw [MappingState.allocations_set_of_ne _ _ different]
      exact ⟨resident, rfl⟩

/-- Only an allocation that nobody has pinned is evicted. -/
theorem Coherent.evict (h : state.Coherent layout) {mapping : MappingState Pages}
    (taken : state.mapping.evict address = some mapping)
    : ({ state with mapping := mapping } : EngineMappings Pages).Coherent layout := by
  simp only [MappingState.evict, Option.ite_none_right_eq_some, Option.some.injEq] at taken
  obtain ⟨unpinned, rfl⟩ := taken
  refine h.reback (.of_set rfl rfl (.inl ⟨rfl, rfl⟩) ?_) (List.Subset.refl _) fun other => ?_
  · intro engine work member pinned _
    have some := h.kept.pinned_pos member pinned
    rw [pins, unpinned] at some
    exact absurd some (Int.lt_irrefl 0)
  · refine (h.kept.pinned other).trans_eq (pins_set_same _ _ _ _ ?_).symm
    rfl

/-- Resuming increases the age of an allocation while there are no tasks. -/
theorem Coherent.restore (h : state.Coherent layout)
    (idle : ∀ engine < maxEngineCount, (state.works engine).isNone)
    : (state.setAllocation address
        { state.mapping.allocations address with
          residentAge := (state.mapping.allocations address).residentAge + 1 }).Coherent
        layout := by
  refine h.reback (.of_set rfl rfl (.inr (Int.lt_succ _)) ?_) (List.Subset.refl _) fun other => ?_
  · intro engine work member
    have none := idle engine (lt_maxEngineCount (h.kept.engines engine work member))
    rw [Option.mem_def] at member
    rw [member] at none
    cases none
  · refine (h.kept.pinned other).trans_eq (pins_set_same _ _ _ _ ?_).symm
    rfl

/-- Somebody pins an allocation, which may get new backing if it is not resident. -/
theorem Coherent.lock (h : state.Coherent layout) (address : Nat) (found : Option Pages)
    : (setAllocation { state with locked := address :: state.locked } address
        (vidmmPrepareAndMarkUnpagable (state.mapping.allocations address) found).1).Coherent
        layout := by
  obtain ⟨nodes, -, backing⟩ :=
    vidmmPrepareAndMarkUnpagable_backing (state.mapping.allocations address) found
  refine h.reback (.of_set rfl nodes ?_ ?_) (List.Subset.refl _) fun other => ?_
  · rcases backing with ⟨age, pages, -⟩ | ⟨-, newer⟩
    · exact .inl ⟨age, pages⟩
    · exact .inr (newer ▸ Int.lt_succ _)
  · intro engine work _ _ resident
    rcases backing with ⟨age, -, stays⟩ | ⟨evicted, -⟩
    · exact ⟨stays resident, age⟩
    · rw [evicted] at resident
      cases resident
  · have bound := h.kept.pinned other
    rw [holds] at bound
    rw [setAllocation, pins_set, vidmmPrepareAndMarkUnpagable_tempUnpagable, holds]
    dsimp only
    rcases eq_or_ne other address with rfl | different
    · rw [if_pos rfl, List.count_cons_self]
      simp only [pins] at bound
      omega
    · rw [if_neg different, List.count_cons_of_ne different.symm]
      exact bound

/-- Somebody who has pinned an allocation unpins it. -/
theorem Coherent.unlock (h : state.Coherent layout) (locked : address ∈ state.locked)
    : (setAllocation { state with locked := state.locked.erase address } address
        (vidmmMarkPagable (state.mapping.allocations address))).Coherent layout := by
  refine h.reback (.of_set rfl rfl (.inl ⟨rfl, rfl⟩) fun _ _ _ _ resident => ⟨resident, rfl⟩)
    (List.Subset.refl _) fun other => ?_
  have bound := h.kept.pinned other
  rw [holds] at bound
  rw [setAllocation, pins_set, holds]
  dsimp only
  split
  · next here =>
      subst here
      have some := List.count_pos_iff.mpr locked
      rw [List.count_erase_self, vidmmMarkPagable]
      simp only [pins] at bound ⊢
      omega
  · next elsewhere =>
      rw [List.count_erase_of_ne elsewhere]
      exact bound

end EngineMappings

/-- Releasing the entries of a list unpins each of them, by list induction. -/
theorem markListPagable_allocations {list : List (Option Nat)}
    {state after : MappingState Pages} (h : markListPagable list state = some after)
    (address : Nat)
    : after.allocations address
      = { state.allocations address with
          tempUnpagable := (state.allocations address).tempUnpagable
            - list.reduceOption.count address } := by
  induction list generalizing state with
  | nil =>
      cases h
      simp
  | cons entry rest ih =>
      cases entry with
      | none => cases h
      | some first =>
          rw [markListPagable] at h
          rw [ih h, List.reduceOption_cons_of_some, List.count_cons]
          rcases eq_or_ne address first with rfl | different
          · rw [MappingState.allocations_set_self, vidmmMarkPagable]
            simp
            omega
          · rw [MappingState.allocations_set_of_ne _ _ different]
            simp [Ne.symm different]

/-- Releasing a task unpins its allocations, at most. -/
theorem vidschiReleaseDmaTask_allocations {task : TaskDma} {state after : MappingState Pages}
    (h : vidschiReleaseDmaTask state task = some after) (address : Nat)
    : ∃ unpinned ≤ (task.primary ++ task.resident).reduceOption.count address,
        after.allocations address
        = { state.allocations address with
            tempUnpagable := (state.allocations address).tempUnpagable - unpinned } := by
  rw [vidschiReleaseDmaTask] at h
  split at h
  · obtain ⟨middle, first, second⟩ := Option.bind_eq_some_iff.mp h
    refine ⟨_, Nat.le_refl _, ?_⟩
    rw [markListPagable_allocations second, markListPagable_allocations first,
      List.reduceOption_append, List.count_append]
    simp
    omega
  · cases h
    exact ⟨0, Nat.zero_le _, by simp⟩

namespace EngineMappings

variable {layout : MappingLayout Pages} {state after : EngineMappings Pages}
  {engine device address : Nat} {node : VmNode} {work : Work Pages}

/-- A task that is released gives its pins back. -/
theorem Coherent.release (h : state.Coherent layout) {position : Nat} {task : TaskDma}
    {mapping : MappingState Pages} (found : state.submitted[position]? = some task)
    (taken : vidschiReleaseDmaTask state.mapping task = some mapping)
    : ({ state with
          mapping := mapping
          submitted := state.submitted.eraseIdx position }
        : EngineMappings Pages).Coherent layout := by
  have released := vidschiReleaseDmaTask_allocations taken
  refine h.reback ⟨rfl, rfl, rfl, rfl, rfl, ?_, ?_, ?_⟩ (List.eraseIdx_subset) fun other => ?_
  · intro other
    obtain ⟨_, -, same⟩ := released other
    rw [same]
  · intro other
    obtain ⟨_, -, same⟩ := released other
    rw [same]
    exact .inl ⟨rfl, rfl⟩
  · intro engine work _ other _ resident
    obtain ⟨_, -, same⟩ := released other
    rw [same]
    exact ⟨resident, rfl⟩
  · obtain ⟨unpinned, few, same⟩ := released other
    have whole := Bag.count_flatMap_perm (Bag.perm_cons_eraseIdx found) TaskDma.pinned other
    have lists := h.kept.submitted task (List.mem_of_getElem? found)
    have bound := h.kept.pinned other
    rw [List.flatMap_cons, List.count_append, lists] at whole
    rw [holds] at bound
    rw [holds, pins, same]
    simp only [pins] at bound ⊢
    omega

-----------------------------------------------------------------------------------------
-- Runs
-----------------------------------------------------------------------------------------

/-- Before anything is written there is nothing to keep. -/
theorem Unwritten.coherent (h : state.Unwritten) : state.Coherent layout := by
  have idle : ∀ engine, ∀ work ∈ state.works engine, False := by
    intro engine work member
    rw [h.works engine] at member
    cases member
  refine ⟨⟨?_, ?_, ?_, ?_, h.distinct, ?_, ?_⟩, ?_⟩
  · exact fun engine work member => (idle engine work member).elim
  · exact fun engine work member => (idle engine work member).elim
  · exact h.submitted ▸ fun _ => nofun
  · intro address
    simp [holds, heldBy, h.works, h.submitted, h.locked, pins, h.unpinned]
  · exact fun address node member => Int.le_of_lt (h.stale address node member)
  · exact fun engine work member => (idle engine work member).elim
  · intro address node marked
    exact absurd marked.2.2 (Int.ne_of_lt (h.stale address node marked.1))

/-- Each step keeps it. -/
theorem Coherent.next (h : state.Coherent layout) {action : EngineAction Pages}
    (permitted : Permitted layout state action) (taken : next layout state action = some after)
    : after.Coherent layout := by
  cases action with
  | begin engine device primary resident =>
      obtain ⟨⟨valid, -, idle⟩, taken⟩ := Option.ite_none_right_eq_some.mp taken
      cases taken
      exact h.begin valid (Option.isNone_iff_eq_none.mp idle) device primary resident
  | prepareEntry engine entry => exact h.prepareEntry permitted taken
  | endList engine => exact h.endList taken
  | chooseVmId engine robbed => exact h.chooseVmId taken
  | setPageTable engine => exact h.setPageTable taken
  | clearDirtyRange engine => exact h.clearDirtyRange taken
  | recordPdAge engine => exact h.recordPdAge taken
  | submit engine => exact h.submit taken
  | complete ring position =>
      obtain ⟨⟨forward, -⟩, taken⟩ := Option.ite_none_right_eq_some.mp taken
      cases taken
      exact h.complete forward
  | release position =>
      obtain ⟨task, found, taken⟩ := Option.bind_eq_some_iff.mp taken
      obtain ⟨mapping, released, taken⟩ := Option.bind_eq_some_iff.mp taken
      cases taken
      exact h.release found released
  | evict address =>
      obtain ⟨mapping, evicted, taken⟩ := Option.bind_eq_some_iff.mp taken
      cases taken
      exact h.evict evicted
  | restore address =>
      obtain ⟨idle, taken⟩ := Option.ite_none_right_eq_some.mp taken
      cases taken
      exact h.restore idle
  | lock address found =>
      cases taken
      exact h.lock address found
  | unlock address =>
      obtain ⟨locked, taken⟩ := Option.ite_none_right_eq_some.mp taken
      cases taken
      exact h.unlock locked

/-- By induction on the run. -/
theorem coherent_of_reached (reached : (system layout).ReachableUnder (Permitted layout) state)
    : state.Coherent layout := by
  apply reached.invariant
  · exact fun _ begins => Unwritten.coherent begins
  · intro before action after h permitted taken
    exact h.next permitted taken

/-- In every run that loses no commands, and in which each mapping found current was written
for the same engine, a task is submitted with its mappings written and its TLB invalidated.
-/
theorem task_fresh (reached : (system layout).ReachableUnder (Permitted layout) state)
    (found : work ∈ state.works engine)
    (taken : EngineMappings.next layout state (.submit engine) = some after)
    : state.Fresh layout engine work := by
  have coherent := coherent_of_reached reached
  have ready : work.stage = .ready := by
    obtain ⟨other, member, taken⟩ := Option.bind_eq_some_iff.mp taken
    rw [eq_of_mem_works found member] at taken
    dsimp only at taken
    split at taken
    · next stage => exact stage
    · cases taken
  intro address listed node member own isPrivate
  have pinned := coherent.kept.listed engine work found
  rw [ready] at pinned
  replace pinned : work.pinned = work.allocations := (List.append_nil _).symm.trans pinned
  have held := coherent.kept.held engine work found address (pinned ▸ listed)
  obtain ⟨age, updatedFor⟩ := held.current node member own isPrivate
  rcases coherent.delivered address node ⟨member, isPrivate, age⟩ with outstanding | flushed
  · rw [updatedFor] at outstanding
    have unflushed := outstanding.unflushed work found own.symm
    rw [ready] at unflushed
    cases unflushed
  · rw [updatedFor] at flushed
    obtain ⟨written, position, order, commands, invalidated, progress⟩ := flushed
    refine ⟨written, position, order, commands, invalidated, ?_⟩
    rcases progress with same | done | ⟨other, there, -, waited, pending, -⟩
    · exact .inl same
    · exact .inr done
    · rw [eq_of_mem_works found there, ready] at pending
      cases pending

/-- Each allocation has nodes of two pages of 4 KiB. -/
def twoPages : MappingLayout Nat where
  adapter := DirtyState.exampleAdapter
  range _ := ⟨5, 6, by decide, by decide⟩
  pageShift _ := 12
  large _ := by decide

/-- Allocations of device 1, each with a node that was never mapped. -/
def oneNode : EngineMappings Nat where
  mapping := ⟨fun _ => ⟨false, 0, 0, 0, [⟨0, 1, false, -1⟩]⟩, [], 1⟩
  log := []
  completed _ := 0
  vmaSpaces _ := ⟨fun _ => ⟨0, 0, true⟩, fun _ => ⟨0, 0, true⟩⟩
  rootPdAge _ := 1
  pdAge _ := 0
  works _ := none
  submitted := []
  locked := []
  updatedFor _ _ := 0

theorem oneNode_unwritten : oneNode.Unwritten :=
  ⟨fun _ => rfl, fun _ => List.nodup_singleton 0, fun _ => by simp [oneNode], fun _ => rfl, rfl,
    rfl⟩

/-- An entry whose steps succeed. -/
def succeeding (found : Nat) : EntryUpdate Nat :=
  ⟨some found, fun _ => ⟨true, true, true, true, 64⟩, [], 0⟩

/-- A task of engine 0 runs and is released, its allocation is evicted, and a task of engine 7
makes it resident again.
-/
def bothEngines : List (EngineAction Nat) :=
  [.begin 0 1 [] [some 0], .endList 0, .prepareEntry 0 (succeeding 1), .endList 0,
    .chooseVmId 0 false, .setPageTable 0, .clearDirtyRange 0, .recordPdAge 0, .submit 0,
    .complete 0 3, .release 0, .evict 0, .begin 7 1 [] [some 0], .endList 7,
    .prepareEntry 7 (succeeding 2), .endList 7]

/-- The end of the task of engine 7. -/
def secondTask : List (EngineAction Nat) :=
  [.chooseVmId 7 false, .setPageTable 7, .clearDirtyRange 7, .complete 0 5, .recordPdAge 7]

/-- The next task of engine 0. -/
def thirdTask : List (EngineAction Nat) :=
  [.begin 0 1 [] [some 0], .endList 0, .prepareEntry 0 (succeeding 2), .endList 0,
    .chooseVmId 0 false]

/-- The state before the task of engine 7 is submitted. -/
def secondReady : Option (EngineMappings Nat) :=
  System.replay (next twoPages) oneNode (bothEngines ++ secondTask)

/-- The state before the second task of engine 0 is submitted. -/
def thirdReady : Option (EngineMappings Nat) :=
  System.replay (next twoPages) oneNode (bothEngines ++ thirdTask)

theorem secondReady_isSome : secondReady.isSome := by decide

theorem thirdReady_isSome : thirdReady.isSome := by decide

theorem secondReady_reached
    : (system twoPages).ReachableUnder (Permitted twoPages)
        (secondReady.get secondReady_isSome) :=
  .replay (bothEngines ++ secondTask) oneNode_unwritten (by decide)
    (Option.some_get secondReady_isSome).symm

theorem thirdReady_reached
    : (system twoPages).Reachable (thirdReady.get thirdReady_isSome) :=
  .replay (bothEngines ++ thirdTask) oneNode_unwritten (Option.some_get thirdReady_isSome).symm

/-- What is in the rings then. -/
def thirdLog : List (Nat × RingCommand Nat) := (thirdReady.get thirdReady_isSome).log

/-- The task of engine 7, and the second one of engine 0. -/
def readyWork : Work Nat := ⟨1, [], [some 0], [0], .ready⟩

theorem task_fresh_second
    : (secondReady.get secondReady_isSome).Fresh twoPages 7 readyWork :=
  task_fresh secondReady_reached rfl (Option.some_get (by decide)).symm

/-- Engine 0 finds the mapping current that engine 7 has written, and no dirty range of its own,
so it keeps what its TLB has of the old pages.
-/
theorem task_stale
    : ∃ state after, (system twoPages).Reachable state ∧ readyWork ∈ state.works 0
        ∧ next twoPages state (.submit 0) = some after
        ∧ ¬ state.Fresh twoPages 0 readyWork := by
  refine ⟨thirdReady.get thirdReady_isSome, _, thirdReady_reached, rfl,
    (Option.some_get (by decide)).symm, fun fresh => ?_⟩
  obtain ⟨written, flushed, order, ⟨commands, there, member⟩, ⟨command, invalidated, -⟩, -⟩ :=
    fresh 0 (by decide) ⟨0, 1, false, 2⟩ (by decide) rfl rfl
  -- the commands of the new pages are the last of four, so no invalidation follows them
  have last : flushed < 4 := (List.getElem?_eq_some_iff.mp invalidated).1
  have first : thirdLog[0]? = some (0, .vmUpdate [⟨0, 1, 1⟩]) := rfl
  have second : thirdLog[1]? = some (0, .setRootPageTable 1 0) := rfl
  have third : thirdLog[2]? = some (0, .render 1) := rfl
  obtain rfl | rfl | rfl : written = 0 ∨ written = 1 ∨ written = 2 := by omega
  · cases first.symm.trans there
    exact absurd member (by decide)
  · cases second.symm.trans there
  · cases third.symm.trans there

end EngineMappings

end Cx4Kernel.Vidsch
