import Cx4Kernel.Foundation.Bag
import Cx4Kernel.Vidsch.TaskRef

/-! For each task one entry sums up who holds references to it. Every part of a step changes
the entry of at most one task.
-/

namespace Cx4Kernel.Vidsch

open Cx4Kernel.Foundation

/-- How many references a thread holds to its task. -/
def RefStage.references : RefStage → Nat
  | .ready | .submitting _ _ | .finished => 1
  | .queueing => 2
  | .releasing => 0

/-- Whether the submission of the task is still to come from the thread, or from the queue
it is about to link the task to.
-/
def RefStage.chances : RefStage → Nat
  | .ready | .queueing | .submitting _ _ => 1
  | .finished | .releasing => 0

/-- Whether the thread is about to release the task. -/
def RefStage.releases : RefStage → Nat
  | .releasing => 1
  | _ => 0

/-- Whether the node is in a list. -/
def ListItem.lists : ListItem → Nat
  | .linked => 1
  | .own | .removed => 0

/-- Whether the node has ever been in a list. -/
def ListItem.spent : ListItem → Nat
  | .own => 0
  | .linked | .removed => 1

/-- The local list of a pass. -/
def RefRole.taskList : RefRole → List Nat
  | .worker _ taskList => taskList
  | _ => []

@[simp] theorem RefRole.taskList_worker (queue : Nat) (taskList : List Nat)
    : (RefRole.worker queue taskList).taskList = taskList :=
  rfl

/-- What the current task of a thread weighs for `task`. -/
def weighCurrent (weight : RefStage → Nat) (task : Nat) : Option (Nat × RefStage) → Nat
  | some (current, stage) => if current = task then weight stage else 0
  | none => 0

-----------------------------------------------------------------------------------------
-- The entry of a task
-----------------------------------------------------------------------------------------

/-- All that is known about a task: three fields of its own, what the threads weigh that
work on it, and how often it stands in queues and local lists, and in submitted lists.
-/
@[ext]
structure RefEntry where
  refCnt : Int
  released : Nat
  listItem : ListItem
  references : Nat
  chances : Nat
  releases : Nat
  parked : Nat
  listed : Nat

namespace RefEntry

/-- The number of references that are held: by threads, queues and submitted lists. -/
def holders (entry : RefEntry) : Nat := entry.references + entry.parked + entry.listed

/-- The reference count is right, the task is released by the last holder, its node tells
whether it is listed, and it can be submitted only once.
-/
structure Exact (entry : RefEntry) : Prop where
  counted : entry.refCnt = entry.holders
  live : 0 < entry.holders → entry.released + entry.releases = 0
  dead : entry.holders = 0 → entry.released + entry.releases = 1
  linked : entry.listed = entry.listItem.lists
  single : entry.chances + entry.parked + entry.listItem.spent ≤ 1

/-- A thread works on the task in this stage. -/
structure Has (entry : RefEntry) (stage : RefStage) : Prop where
  references : stage.references ≤ entry.references
  chances : stage.chances ≤ entry.chances
  releases : stage.releases ≤ entry.releases

/-- The thread of a task goes from one stage to another, or is done with the task. -/
def move (entry : RefEntry) (stage : RefStage) (next : Option RefStage) : RefEntry :=
  { entry with
    references := entry.references - stage.references + next.elim 0 RefStage.references
    chances := entry.chances - stage.chances + next.elim 0 RefStage.chances
    releases := entry.releases - stage.releases + next.elim 0 RefStage.releases }

/-- Another reference. -/
def incReference (entry : RefEntry) : RefEntry := { entry with refCnt := entry.refCnt + 1 }

/-- One reference less. -/
def decReference (entry : RefEntry) : RefEntry := { entry with refCnt := entry.refCnt - 1 }

/-- The task gets into a queue. -/
def park (entry : RefEntry) : RefEntry := { entry with parked := entry.parked + 1 }

/-- The task gets out of a local list. -/
def unpark (entry : RefEntry) : RefEntry := { entry with parked := entry.parked - 1 }

/-- The task gets into a submitted list. -/
def link (entry : RefEntry) : RefEntry :=
  { entry with listItem := .linked, listed := entry.listed + 1 }

/-- The task gets out of its submitted list. -/
def unlink (entry : RefEntry) : RefEntry :=
  { entry with listItem := .removed, listed := entry.listed - 1 }

/-- A thread starts with the task. -/
def begin (entry : RefEntry) (stage : RefStage) : RefEntry :=
  { entry with
    references := entry.references + stage.references
    chances := entry.chances + stage.chances
    releases := entry.releases + stage.releases }

variable {entry : RefEntry} {mgr : Nat} {fakeSubmit : Bool}

/-- A task that a thread has a chance to submit is neither listed nor was it. -/
theorem Exact.own (exact : entry.Exact) (chance : 0 < entry.chances)
    : entry.listItem = .own := by
  have single := exact.single
  cases item : entry.listItem with
  | own => rfl
  | linked | removed =>
      rw [item, ListItem.spent] at single
      omega

/-- The callback runs at most once. -/
theorem Exact.released_le (exact : entry.Exact) : entry.released + entry.releases ≤ 1 := by
  rcases Nat.eq_zero_or_pos entry.holders with none | some
  · exact Nat.le_of_eq (exact.dead none)
  · exact Nat.le_of_lt_succ (exact.live some ▸ Nat.two_pos)

/-- The thread of a task takes a second reference for a queue. -/
theorem Exact.queueing (exact : entry.Exact) (has : entry.Has .ready)
    : (entry.incReference.move .ready (some .queueing)).Exact := by
  obtain ⟨counted, live, dead, linked, single⟩ := exact
  obtain ⟨references, chances, _⟩ := has
  constructor <;>
    simp only [holders, incReference, move, RefStage.references, RefStage.chances,
      RefStage.releases, Option.elim_some] at * <;>
    omega

/-- The second reference and the chance to submit go to the queue. -/
theorem Exact.park (exact : entry.Exact) (has : entry.Has .queueing)
    : (entry.park.move .queueing (some .finished)).Exact := by
  obtain ⟨counted, live, dead, linked, single⟩ := exact
  obtain ⟨references, chances, _⟩ := has
  constructor <;>
    simp only [holders, RefEntry.park, move, RefStage.references, RefStage.chances,
      RefStage.releases, Option.elim_some] at * <;>
    omega

/-- A pass takes the task out of its local list. -/
theorem Exact.unpark (exact : entry.Exact) (parked : 0 < entry.parked)
    : (entry.unpark.begin .ready).Exact := by
  obtain ⟨counted, live, dead, linked, single⟩ := exact
  constructor <;>
    simp only [holders, RefEntry.unpark, begin, RefStage.references, RefStage.chances,
      RefStage.releases] at * <;>
    omega

/-- A pass puts the task back. -/
theorem Exact.parkBack (exact : entry.Exact) (has : entry.Has .ready)
    : (entry.park.move .ready none).Exact := by
  obtain ⟨counted, live, dead, linked, single⟩ := exact
  obtain ⟨references, chances, _⟩ := has
  constructor <;>
    simp only [holders, RefEntry.park, move, RefStage.references, RefStage.chances,
      RefStage.releases, Option.elim_none] at * <;>
    omega

/-- A submission begins, or a fake one ends. -/
theorem Exact.move (exact : entry.Exact) {stage next : RefStage} (has : entry.Has stage)
    (references : next.references = stage.references) (chances : next.chances ≤ stage.chances)
    (releases : next.releases = stage.releases)
    : (entry.move stage (some next)).Exact := by
  obtain ⟨counted, live, dead, linked, single⟩ := exact
  obtain ⟨references', chances', releases'⟩ := has
  constructor <;>
    simp only [holders, RefEntry.move, Option.elim_some] at * <;>
    omega

/-- A real submission ends: the list gets a reference of its own. -/
theorem Exact.link (exact : entry.Exact) (has : entry.Has (.submitting mgr fakeSubmit))
    : (entry.link.incReference.move (.submitting mgr fakeSubmit) (some .finished)).Exact := by
  have item := exact.own (Nat.lt_of_lt_of_le Nat.one_pos has.chances)
  obtain ⟨counted, live, dead, linked, single⟩ := exact
  obtain ⟨references, chances, _⟩ := has
  rw [item] at linked single
  constructor <;>
    simp only [holders, RefEntry.link, incReference, RefEntry.move, RefStage.references,
      RefStage.chances, RefStage.releases, Option.elim_some, ListItem.lists,
      ListItem.spent] at * <;>
    omega

/-- A completed task is taken off its list by a thread that takes over the reference. -/
theorem Exact.unlink (exact : entry.Exact) (listed : 0 < entry.listed)
    : (entry.unlink.begin .finished).Exact := by
  obtain ⟨counted, live, dead, linked, single⟩ := exact
  have item : entry.listItem = .linked := by
    cases item : entry.listItem with
    | linked => rfl
    | own | removed =>
        rw [item, ListItem.lists] at linked
        omega
  rw [item] at linked single
  constructor <;>
    simp only [holders, RefEntry.unlink, begin, RefStage.references, RefStage.chances,
      RefStage.releases, ListItem.lists, ListItem.spent] at * <;>
    omega

/-- The hang detector takes a reference. -/
theorem Exact.detect (exact : entry.Exact) (listed : 0 < entry.listed)
    : (entry.incReference.begin .finished).Exact := by
  obtain ⟨counted, live, dead, linked, single⟩ := exact
  constructor <;>
    simp only [holders, incReference, begin, RefStage.references, RefStage.chances,
      RefStage.releases] at * <;>
    omega

/-- A reference is dropped, and the thread goes on to release the task exactly if it was the
last one.
-/
theorem Exact.decReference (exact : entry.Exact) {stage : RefStage} (has : entry.Has stage)
    (one : stage.references = 1) (none : stage.releases = 0)
    : (entry.decReference.move stage
        (if entry.refCnt - 1 = 0 then some .releasing else .none)).Exact := by
  obtain ⟨counted, live, dead, linked, single⟩ := exact
  obtain ⟨references, chances, _⟩ := has
  split <;> constructor <;>
    simp only [holders, RefEntry.decReference, RefEntry.move, RefStage.references,
      RefStage.chances, RefStage.releases, Option.elim_some, Option.elim_none] at * <;>
    omega

/-- The callback runs. -/
theorem Exact.release (exact : entry.Exact) (has : entry.Has .releasing)
    : ({ entry with released := entry.released + 1 }.move .releasing none).Exact := by
  obtain ⟨counted, live, dead, linked, single⟩ := exact
  obtain ⟨references, chances, releases⟩ := has
  constructor <;>
    simp only [holders, RefEntry.move, RefStage.references, RefStage.chances,
      RefStage.releases, Option.elim_none] at * <;>
    omega

/-- A new task gets a thread that created it. -/
theorem Exact.create (exact : entry.Exact) (refCnt : entry.refCnt = 0)
    (released : entry.released = 1) (listItem : entry.listItem = .removed)
    : ({ entry with refCnt := 1, released := 0, listItem := .own }.begin .ready).Exact := by
  obtain ⟨counted, live, dead, linked, single⟩ := exact
  rw [listItem] at linked single
  constructor <;>
    simp only [holders, begin, RefStage.references, RefStage.chances, RefStage.releases,
      ListItem.lists, ListItem.spent] at * <;>
    omega

end RefEntry

namespace RefState

variable {state : RefState}

/-- What all threads weigh for a task. -/
def weigh (state : RefState) (weight : RefStage → Nat) (task : Nat) : Nat :=
  (state.threads.map fun thread => weighCurrent weight task thread.current).sum

/-- How often a task stands in queues and local lists. -/
def parked (state : RefState) (task : Nat) : Nat :=
  (state.threads.map fun thread => thread.role.taskList.count task).sum
    + (state.queues.map fun queue => queue.count task).sum

/-- How often a task stands in submitted lists. -/
def listed (state : RefState) (task : Nat) : Nat :=
  (state.mgrs.map fun mgr => mgr.submittedTaskList.count task).sum

/-- The references that are held to a task. -/
def holders (state : RefState) (task : Nat) : Nat :=
  state.weigh RefStage.references task + state.parked task + state.listed task

/-- The entry of a task. One that does not exist is as good as released. -/
def entry (state : RefState) (task : Nat) : RefEntry where
  refCnt := state.tasks[task]?.elim 0 RefTask.refCnt
  released := state.tasks[task]?.elim 1 RefTask.released
  listItem := state.tasks[task]?.elim .removed RefTask.listItem
  references := state.weigh RefStage.references task
  chances := state.weigh RefStage.chances task
  releases := state.weigh RefStage.releases task
  parked := state.parked task
  listed := state.listed task

/-- The number of tasks of an engine that are not released yet. -/
def liveTasks (state : RefState) (engine : Nat) : Nat :=
  (state.tasks.map fun desc => if desc.engine = engine ∧ desc.released = 0 then 1 else 0).sum

-----------------------------------------------------------------------------------------
-- What the parts of a step do to the entries
-----------------------------------------------------------------------------------------

/-- From one state to the other only the entry of `task` changes, by `effect`. -/
structure Touches (before : RefState) (task : Nat) (effect : RefEntry → RefEntry)
    (after : RefState) : Prop where
  entry_eq : after.entry task = effect (before.entry task)
  others : ∀ other, other ≠ task → after.entry other = before.entry other

/-- Two parts of a step that touch the same task. -/
theorem Touches.trans {before middle after : RefState} {task : Nat}
    {first second : RefEntry → RefEntry} (h : before.Touches task first middle)
    (h' : middle.Touches task second after)
    : before.Touches task (fun entry => second (first entry)) after :=
  ⟨h'.entry_eq.trans (congrArg second h.entry_eq),
    fun other ne => (h'.others other ne).trans (h.others other ne)⟩

/-- All entries stay exact if the one that is touched does. -/
theorem Touches.exact {before after : RefState} {task : Nat} {effect : RefEntry → RefEntry}
    (h : before.Touches task effect after) (exact : ∀ task, (before.entry task).Exact)
    (touched : (effect (before.entry task)).Exact)
    : ∀ task, (after.entry task).Exact := by
  intro other
  rcases eq_or_ne other task with rfl | ne
  · exact h.entry_eq ▸ touched
  · exact h.others other ne ▸ exact other

/-- The entry of a task that exists. -/
theorem entry_of_found {task : Nat} {desc : RefTask} (found : state.tasks[task]? = some desc)
    : (state.entry task).refCnt = desc.refCnt
      ∧ (state.entry task).released = desc.released
      ∧ (state.entry task).listItem = desc.listItem := by
  simp only [entry, found, Option.elim_some, and_self]

/-- A change of a task touches its own fields. -/
theorem touches_updateTask {task : Nat} {desc : RefTask}
    (found : state.tasks[task]? = some desc) (change : RefTask → RefTask)
    : state.Touches task
        (fun entry =>
          { entry with
            refCnt := (change desc).refCnt
            released := (change desc).released
            listItem := (change desc).listItem })
        (state.updateTask task change) := by
  constructor
  · have changed : (state.tasks.modify task change)[task]? = some (change desc) := by
      rw [List.getElem?_modify_eq, found, Option.map_eq_map, Option.map_some]
    simp only [entry, updateTask, changed, Option.elim_some]
    rfl
  · intro other ne
    have same : (state.tasks.modify task change)[other]? = state.tasks[other]? :=
      List.getElem?_modify_ne _ _ ne.symm
    simp only [entry, updateTask, same]
    rfl

/-- `vidsch_task_inc_reference`. -/
theorem touches_incReference {task : Nat} {desc : RefTask}
    (found : state.tasks[task]? = some desc)
    : state.Touches task RefEntry.incReference (state.vidschTaskIncReference task) := by
  obtain ⟨entry_eq, others⟩ := touches_updateTask found
    fun desc => { desc with refCnt := desc.refCnt + 1 }
  obtain ⟨refCnt, released, listItem⟩ := entry_of_found found
  refine ⟨entry_eq.trans ?_, others⟩
  ext <;> simp only [RefEntry.incReference, refCnt, released, listItem]

/-- The entry of a task has the stages of its threads. -/
theorem entry_has {index task : Nat} {thread : RefThread} {stage : RefStage}
    (found : state.threads[index]? = some thread) (works : thread.current = some (task, stage))
    : (state.entry task).Has stage := by
  have weighs (weight : RefStage → Nat) : weight stage ≤ state.weigh weight task := by
    have least := Bag.le_sum_map found fun thread => weighCurrent weight task thread.current
    rwa [works, weighCurrent, if_pos rfl] at least
  exact ⟨weighs _, weighs _, weighs _⟩

/-- `zx_atomic_dec(desc->ref_cnt)`. -/
theorem touches_decReference {task : Nat} {desc : RefTask}
    (found : state.tasks[task]? = some desc)
    : state.Touches task RefEntry.decReference
        (state.updateTask task fun desc => { desc with refCnt := desc.refCnt - 1 }) := by
  obtain ⟨entry_eq, others⟩ := touches_updateTask found
    fun desc => { desc with refCnt := desc.refCnt - 1 }
  obtain ⟨refCnt, released, listItem⟩ := entry_of_found found
  refine ⟨entry_eq.trans ?_, others⟩
  ext <;> simp only [RefEntry.decReference, refCnt, released, listItem]

/-- The callback of `vidschi_do_release_task`. -/
theorem touches_released {task : Nat} {desc : RefTask}
    (found : state.tasks[task]? = some desc)
    : state.Touches task (fun entry => { entry with released := entry.released + 1 })
        (state.updateTask task fun desc => { desc with released := desc.released + 1 }) := by
  obtain ⟨entry_eq, others⟩ := touches_updateTask found
    fun desc => { desc with released := desc.released + 1 }
  obtain ⟨refCnt, released, listItem⟩ := entry_of_found found
  refine ⟨entry_eq.trans ?_, others⟩
  ext <;> simp only [refCnt, released, listItem]

/-- What the threads weigh after one of them has gone on. -/
theorem weigh_setCurrent {index : Nat} {thread : RefThread}
    (found : state.threads[index]? = some thread) (current : Option (Nat × RefStage))
    (weight : RefStage → Nat) (task : Nat)
    : (state.setCurrent index current).weigh weight task
        + weighCurrent weight task thread.current
      = state.weigh weight task + weighCurrent weight task current :=
  Bag.sum_map_modify found (fun thread => { thread with current })
    fun thread => weighCurrent weight task thread.current

/-- The stage of a thread has nothing to do with where its task is parked. -/
theorem parked_setCurrent (index : Nat) (current : Option (Nat × RefStage)) (task : Nat)
    : (state.setCurrent index current).parked task = state.parked task := by
  have same : ∀ thread : RefThread,
      ({ thread with current } : RefThread).role.taskList.count task
        = thread.role.taskList.count task :=
    fun _ => rfl
  exact congrArg (· + _) (Bag.sum_map_modify_same same state.threads index)

/-- The entry of a task is what it was if the threads weigh the same for it. -/
theorem entry_of_weigh {after : RefState} {task : Nat} (tasks : after.tasks = state.tasks)
    (listed : after.listed task = state.listed task)
    (kept : ∀ weight, after.weigh weight task = state.weigh weight task)
    (parked : after.parked task = state.parked task)
    : after.entry task = state.entry task := by
  ext
  case references => exact kept _
  case chances => exact kept _
  case releases => exact kept _
  case parked => exact parked
  case listed => exact listed
  all_goals rw [entry, entry, tasks]

/-- Threads that weigh one stage more have begun it. -/
theorem touches_begin {after : RefState} {task : Nat} {stage : RefStage}
    (tasks : after.tasks = state.tasks) (listed : after.listed = state.listed)
    (weighed : ∀ weight other, after.weigh weight other
      = state.weigh weight other + if task = other then weight stage else 0)
    (parked : ∀ other, after.parked other = state.parked other)
    : state.Touches task (RefEntry.begin · stage) after := by
  constructor
  · have moved (weight : RefStage → Nat) := weighed weight task
    simp only [if_pos] at moved
    ext
    case references => exact moved _
    case chances => exact moved _
    case releases => exact moved _
    case parked => exact parked task
    case listed => exact congrFun listed task
    all_goals
      rw [entry, tasks]
      rfl
  · intro other ne
    have kept (weight : RefStage → Nat) := weighed weight other
    simp only [if_neg ne.symm, Nat.add_zero] at kept
    exact entry_of_weigh tasks (congrFun listed other) kept (parked other)

/-- A thread goes on with its task. -/
theorem touches_setCurrent {index task : Nat} {thread : RefThread} {stage : RefStage}
    (found : state.threads[index]? = some thread) (works : thread.current = some (task, stage))
    (next : Option RefStage)
    : state.Touches task (RefEntry.move · stage next)
        (state.setCurrent index (next.map fun stage => (task, stage))) := by
  have weighed := weigh_setCurrent found (next.map fun stage => (task, stage))
  have current (weight : RefStage → Nat) (other : Nat)
      : weighCurrent weight other (next.map fun stage => (task, stage))
        = if task = other then next.elim 0 weight else 0 := by
    cases next with
    | none => exact (ite_self 0).symm
    | some next => rfl
  have before (weight : RefStage → Nat) (other : Nat)
      : weighCurrent weight other thread.current
        = if task = other then weight stage else 0 := by
    rw [works]
    rfl
  simp only [before, current] at weighed
  constructor
  · obtain ⟨references, chances, releases⟩ := entry_has found works
    have moved (weight : RefStage → Nat) := weighed weight task
    simp only [if_pos] at moved
    ext
    case references =>
      have := moved RefStage.references
      simp only [entry, RefEntry.move] at references ⊢
      omega
    case chances =>
      have := moved RefStage.chances
      simp only [entry, RefEntry.move] at chances ⊢
      omega
    case releases =>
      have := moved RefStage.releases
      simp only [entry, RefEntry.move] at releases ⊢
      omega
    case parked => exact parked_setCurrent ..
    all_goals rfl
  · intro other ne
    have kept (weight : RefStage → Nat) := weighed weight other
    simp only [if_neg ne.symm, Nat.add_zero] at kept
    exact entry_of_weigh rfl rfl kept (parked_setCurrent ..)

/-- The same after a part of the step that left the threads alone. -/
theorem Touches.setCurrent {middle : RefState} {index task : Nat} {thread : RefThread}
    {stage : RefStage} {first : RefEntry → RefEntry} (h : state.Touches task first middle)
    (same : middle.threads = state.threads) (found : state.threads[index]? = some thread)
    (works : thread.current = some (task, stage)) (next : Option RefStage)
    : state.Touches task (fun entry => (first entry).move stage next)
        (middle.setCurrent index (next.map fun stage => (task, stage))) :=
  h.trans (touches_setCurrent (same ▸ found) works next)

/-- An idle thread starts with a task. -/
theorem touches_startCurrent {index : Nat} {thread : RefThread}
    (found : state.threads[index]? = some thread) (idle : thread.current = none) (task : Nat)
    (stage : RefStage)
    : state.Touches task (RefEntry.begin · stage)
        (state.setCurrent index (some (task, stage))) := by
  have weighed := weigh_setCurrent found (some (task, stage))
  simp only [idle, weighCurrent, Nat.add_zero] at weighed
  exact touches_begin rfl rfl weighed (parked_setCurrent index _)

/-- A thread starts with a task that is not in its local list. -/
theorem touches_addThread {role : RefRole} (empty : role.taskList = []) (task : Nat)
    (stage : RefStage)
    : state.Touches task (RefEntry.begin · stage)
        (state.addThread role (some (task, stage))) := by
  have weighed (weight : RefStage → Nat) (other : Nat)
      : (state.addThread role (some (task, stage))).weigh weight other
        = state.weigh weight other + if task = other then weight stage else 0 := by
    simp only [weigh, addThread, List.map_append, List.sum_append, List.map_cons, List.map_nil,
      List.sum_cons, List.sum_nil, weighCurrent, Nat.add_zero]
  have parked (other : Nat)
      : (state.addThread role (some (task, stage))).parked other = state.parked other := by
    simp only [RefState.parked, addThread, List.map_append, List.sum_append, List.map_cons,
      List.map_nil, List.sum_cons, List.sum_nil, empty, List.count_nil, Nat.add_zero]
  exact touches_begin rfl rfl weighed parked

/-- A manager keeps the entries if it keeps its submitted list. -/
theorem entry_updateMgr {change : RefMgr → RefMgr}
    (same : ∀ mgr, (change mgr).submittedTaskList = mgr.submittedTaskList) (index task : Nat)
    : (state.updateMgr index change).entry task = state.entry task := by
  ext
  case listed =>
    have counts : ∀ mgr, (change mgr).submittedTaskList.count task
        = mgr.submittedTaskList.count task :=
      fun mgr => congrArg (List.count task) (same mgr)
    exact Bag.sum_map_modify_same counts state.mgrs index
  all_goals rfl

/-- The node of a task changes. -/
theorem touches_listItem {task : Nat} {desc : RefTask}
    (found : state.tasks[task]? = some desc) (listItem : ListItem)
    : state.Touches task (fun entry => { entry with listItem })
        (state.updateTask task fun desc => { desc with listItem }) := by
  obtain ⟨entry_eq, others⟩ := touches_updateTask found fun desc => { desc with listItem }
  obtain ⟨refCnt, released, _⟩ := entry_of_found found
  refine ⟨entry_eq.trans ?_, others⟩
  ext <;> simp only [refCnt, released]

/-- A task gets to the tail of a submitted list. -/
theorem touches_updateMgr {mgr : Nat} (bound : mgr < state.mgrs.length) (task : Nat)
    : state.Touches task (fun entry => { entry with listed := entry.listed + 1 })
        (state.updateMgr mgr fun mgr =>
          { mgr with submittedTaskList := mgr.submittedTaskList ++ [task] }) := by
  have listed (other : Nat)
      : (state.updateMgr mgr fun mgr =>
            { mgr with submittedTaskList := mgr.submittedTaskList ++ [task] }).listed other
        = state.listed other + if task = other then 1 else 0 := by
    have sum := Bag.sum_map_modify (List.getElem?_eq_getElem bound)
      (fun mgr => { mgr with submittedTaskList := mgr.submittedTaskList ++ [task] })
      fun mgr => mgr.submittedTaskList.count other
    simp only [List.count_append, List.count_singleton, beq_iff_eq] at sum
    simp only [RefState.listed, updateMgr]
    omega
  constructor
  · ext
    case listed => exact (listed task).trans (by rw [if_pos rfl]; rfl)
    all_goals rfl
  · intro other ne
    ext
    case listed => exact (listed other).trans (by rw [if_neg ne.symm]; rfl)
    all_goals rfl

/-- A task gets out of the only submitted list it is in. -/
theorem touches_erase {task : Nat} (once : state.listed task = 1)
    : state.Touches task (fun entry => { entry with listed := entry.listed - 1 })
        { state with
          mgrs := state.mgrs.map fun mgr =>
            { mgr with submittedTaskList := mgr.submittedTaskList.erase task } } := by
  constructor
  · ext
    case listed =>
      have gone := Bag.sum_map_pred (Nat.le_of_eq once)
      simp only [entry, once]
      simp only [listed, List.map_map, Function.comp_def, List.count_erase_self]
      exact gone
    all_goals rfl
  · intro other ne
    ext
    case listed =>
      simp only [entry, listed, List.map_map, Function.comp_def]
      exact congrArg List.sum (List.map_congr_left fun mgr _ => List.count_erase_of_ne ne)
    all_goals rfl

/-- `list_add_tail`. -/
theorem touches_listAddTail {mgr task : Nat} {desc : RefTask}
    (found : state.tasks[task]? = some desc) (bound : mgr < state.mgrs.length)
    : state.Touches task RefEntry.link (state.listAddTail mgr task) := by
  refine (touches_listItem found .linked).trans (touches_updateMgr ?_ task)
  exact bound

/-- `list_del`. -/
theorem touches_listDel {task : Nat} {desc : RefTask}
    (found : state.tasks[task]? = some desc) (once : state.listed task = 1)
    : state.Touches task RefEntry.unlink (state.listDel task) := by
  refine (touches_listItem found .removed).trans (touches_erase ?_)
  exact once

/-- A task gets into a queue. -/
theorem touches_updateQueue {queue task : Nat} (bound : queue < state.queues.length)
    : state.Touches task RefEntry.park (state.updateQueue queue (· ++ [task])) := by
  have parked (other : Nat)
      : (state.updateQueue queue (· ++ [task])).parked other
        = state.parked other + if task = other then 1 else 0 := by
    have sum := Bag.sum_map_modify (List.getElem?_eq_getElem bound) (· ++ [task])
      fun queue => queue.count other
    simp only [List.count_append, List.count_singleton, beq_iff_eq] at sum
    simp only [RefState.parked, updateQueue]
    omega
  constructor
  · ext
    case parked => exact (parked task).trans (by rw [if_pos rfl]; rfl)
    all_goals rfl
  · intro other ne
    ext
    case parked => exact (parked other).trans (by rw [if_neg ne.symm]; rfl)
    all_goals rfl

/-- A pass takes the first task out of its local list. -/
theorem touches_setRole {index queue task : Nat} {taskList : List Nat} {thread : RefThread}
    (found : state.threads[index]? = some thread)
    (works : thread.role = .worker queue (task :: taskList))
    : state.Touches task RefEntry.unpark
        (state.setRole index (.worker queue taskList)) := by
  have weighed (weight : RefStage → Nat) (other : Nat)
      : (state.setRole index (.worker queue taskList)).weigh weight other
        = state.weigh weight other := by
    have same : ∀ thread : RefThread,
        weighCurrent weight other
            ({ thread with role := .worker queue taskList } : RefThread).current
          = weighCurrent weight other thread.current :=
      fun _ => rfl
    exact Bag.sum_map_modify_same same state.threads index
  have parked (other : Nat)
      : (state.setRole index (.worker queue taskList)).parked other
          + (if task = other then 1 else 0)
        = state.parked other := by
    have sum := Bag.sum_map_modify found
      (fun thread => { thread with role := .worker queue taskList })
      fun thread => thread.role.taskList.count other
    simp only [works, RefRole.taskList_worker, List.count_cons, beq_iff_eq] at sum
    simp only [RefState.parked, setRole]
    omega
  constructor
  · have moved := parked task
    rw [if_pos rfl] at moved
    ext
    case parked => exact Nat.eq_sub_of_add_eq moved
    case references => exact weighed ..
    case chances => exact weighed ..
    case releases => exact weighed ..
    all_goals rfl
  · intro other ne
    have kept := parked other
    rw [if_neg ne.symm] at kept
    ext
    case parked => exact kept
    case references => exact weighed ..
    case chances => exact weighed ..
    case releases => exact weighed ..
    all_goals rfl

/-- A pass puts its task and its local list back to a queue. -/
theorem touches_spliceBack {index queue task : Nat} {taskList : List Nat} {thread : RefThread}
    (found : state.threads[index]? = some thread) (works : thread.role = .worker queue taskList)
    (bound : queue < state.queues.length)
    : state.Touches task RefEntry.park
        ((state.updateQueue queue (task :: taskList ++ ·)).setRole index (.worker queue [])) := by
  have weighed (weight : RefStage → Nat) (other : Nat)
      : ((state.updateQueue queue (task :: taskList ++ ·)).setRole index
            (.worker queue [])).weigh weight other
        = state.weigh weight other := by
    have same : ∀ thread : RefThread,
        weighCurrent weight other ({ thread with role := .worker queue [] } : RefThread).current
          = weighCurrent weight other thread.current :=
      fun _ => rfl
    exact Bag.sum_map_modify_same same state.threads index
  have parked (other : Nat)
      : ((state.updateQueue queue (task :: taskList ++ ·)).setRole index
            (.worker queue [])).parked other
        = state.parked other + if task = other then 1 else 0 := by
    have given := Bag.sum_map_modify (List.getElem?_eq_getElem bound) (task :: taskList ++ ·)
      fun queue => queue.count other
    have emptied := Bag.sum_map_modify found
      (fun thread => { thread with role := .worker queue [] })
      fun thread => thread.role.taskList.count other
    simp only [List.count_append, List.count_cons, beq_iff_eq] at given
    simp only [works, RefRole.taskList_worker, List.count_nil] at emptied
    simp only [RefState.parked, setRole, updateQueue]
    omega
  constructor
  · ext
    case parked => exact (parked task).trans (by rw [if_pos rfl]; rfl)
    case references => exact weighed ..
    case chances => exact weighed ..
    case releases => exact weighed ..
    all_goals rfl
  · intro other ne
    ext
    case parked => exact (parked other).trans (by rw [if_neg ne.symm]; rfl)
    case references => exact weighed ..
    case chances => exact weighed ..
    case releases => exact weighed ..
    all_goals rfl

/-- A pass takes over a whole queue. -/
theorem entry_spliceOut {queue : Nat} {taskList : List Nat}
    (found : state.queues[queue]? = some taskList) (task : Nat)
    : ((state.updateQueue queue fun _ => []).addThread (.worker queue taskList) none).entry task
      = state.entry task := by
  have weighed (weight : RefStage → Nat)
      : ((state.updateQueue queue fun _ => []).addThread (.worker queue taskList) none).weigh
          weight task
        = state.weigh weight task := by
    simp only [weigh, addThread, updateQueue, List.map_append, List.sum_append, List.map_cons,
      List.map_nil, List.sum_cons, List.sum_nil, weighCurrent, Nat.add_zero]
  ext
  case parked =>
    have emptied := Bag.sum_map_modify found (fun _ => []) fun queue => queue.count task
    simp only [List.count_nil, Nat.add_zero] at emptied
    simp only [entry, parked, addThread, updateQueue, List.map_append, List.sum_append,
      List.map_cons, List.map_nil, List.sum_cons, List.sum_nil, RefRole.taskList_worker]
    omega
  case references => exact weighed _
  case chances => exact weighed _
  case releases => exact weighed _
  all_goals rfl

end RefState

end Cx4Kernel.Vidsch
