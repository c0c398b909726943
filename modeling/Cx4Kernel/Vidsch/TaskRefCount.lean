import Cx4Kernel.Vidsch.TaskRefEntry

/-! Every step keeps the entries of all tasks exact, and the tasks of an engine that are
pending and handled apart by those that live.
-/

namespace Cx4Kernel.Vidsch

open Cx4Kernel.Foundation

namespace RefState

variable {state : RefState}

/-- All entries are exact. -/
def Exact (state : RefState) : Prop := ∀ task, (state.entry task).Exact

/-- A change of fields that do not count leaves the entries alone. -/
theorem entry_updateTask {change : RefTask → RefTask}
    (same : ∀ desc, (change desc).refCnt = desc.refCnt ∧ (change desc).released = desc.released
      ∧ (change desc).listItem = desc.listItem)
    (task other : Nat)
    : (state.updateTask task change).entry other = state.entry other := by
  have kept {α : Type} (field : RefTask → α) (default : α)
      (keeps : ∀ desc, field (change desc) = field desc)
      : (state.tasks.modify task change)[other]?.elim default field
        = state.tasks[other]?.elim default field := by
    rw [List.getElem?_modify]
    cases state.tasks[other]? with
    | none => rfl
    | some desc =>
        by_cases self : task = other
        · exact (congrArg field (if_pos self)).trans (keeps desc)
        · exact congrArg field (if_neg self)
  ext
  case refCnt => exact kept _ _ fun desc => (same desc).1
  case released => exact kept _ _ fun desc => (same desc).2.1
  case listItem => exact kept _ _ fun desc => (same desc).2.2
  all_goals rfl

/-- So it keeps them exact. -/
theorem Exact.updateTask (exact : state.Exact) {change : RefTask → RefTask}
    (same : ∀ desc, (change desc).refCnt = desc.refCnt ∧ (change desc).released = desc.released
      ∧ (change desc).listItem = desc.listItem)
    (task : Nat)
    : (state.updateTask task change).Exact :=
  fun other => (entry_updateTask same task other).symm ▸ exact other

/-- A manager that keeps its submitted list keeps the entries exact. -/
theorem Exact.updateMgr (exact : state.Exact) {change : RefMgr → RefMgr}
    (same : ∀ mgr, (change mgr).submittedTaskList = mgr.submittedTaskList) (index : Nat)
    : (state.updateMgr index change).Exact :=
  fun task => (entry_updateMgr same index task).symm ▸ exact task

/-- New fence counters keep the entries exact. -/
theorem Exact.withFences (exact : state.Exact) (index : Nat) (fences : RefMgr → FenceCounters)
    : (state.updateMgr index fun mgr => { mgr with fences := fences mgr }).Exact := by
  refine Exact.updateMgr exact ?_ index
  exact fun _ => rfl

section Current

variable {after : RefState} {index task : Nat} {thread : RefThread} {stage : RefStage}
  {desc : RefTask}

/-- A submission goes on to the next stage, and it may take a fence id from the manager. -/
theorem submit_cases {mgr : Nat} {fakeSubmit : Bool}
    (taken : state.submit index task desc mgr fakeSubmit = some after)
    : after = state.setCurrent index (some (task, .submitting mgr fakeSubmit))
      ∨ ∃ fenceId fences, after =
          ((state.setCurrent index (some (task, .submitting mgr fakeSubmit))).updateTask task
            fun desc => { desc with fenceId }).updateMgr mgr fun mgr => { mgr with fences } := by
  obtain ⟨_, _, taken⟩ := Option.bind_eq_some_iff.mp taken
  split at taken
  · split at taken
    case h_4 => cases taken
    case h_6 => exact .inr ⟨_, _, (Option.some.inj taken).symm⟩
    all_goals exact .inl (Option.some.inj taken).symm
  · cases taken

/-- An exchange gives a task and its target new fence ids. -/
theorem exchangeFenceIds_cases {mgr target : Nat}
    (taken : state.exchangeFenceIds task desc mgr target = some after)
    : ∃ fenceId targetTask targetFenceId, after =
        (state.updateTask task fun desc => { desc with fenceId }).updateTask targetTask
          fun target => { target with fenceId := targetFenceId } := by
  obtain ⟨_, _, taken⟩ := Option.bind_eq_some_iff.mp taken
  split at taken
  · obtain ⟨_, _, taken⟩ := Option.bind_eq_some_iff.mp taken
    split at taken
    · exact ⟨_, _, _, (Option.some.inj taken).symm⟩
    · cases taken
  · cases taken

/-- The submission of a task keeps the entries exact. -/
theorem Exact.submit (exact : state.Exact) (found : state.threads[index]? = some thread)
    (works : thread.current = some (task, .ready)) {mgr : Nat} {fakeSubmit : Bool}
    (taken : state.submit index task desc mgr fakeSubmit = some after)
    : after.Exact := by
  have sets := touches_setCurrent found works (some (.submitting mgr fakeSubmit))
  have submitting : RefState.Exact
      (state.setCurrent index (some (task, .submitting mgr fakeSubmit))) :=
    sets.exact exact ((exact task).move (entry_has found works) rfl (Nat.le_refl _) rfl)
  rcases submit_cases taken with rfl | ⟨fenceId, fences, rfl⟩
  · exact submitting
  · refine Exact.withFences (Exact.updateTask submitting ?_ task) mgr fun _ => fences
    exact fun _ => ⟨rfl, rfl, rfl⟩

/-- So does the exchange of two fence ids. -/
theorem Exact.exchangeFenceIds (exact : state.Exact) {mgr target : Nat}
    (taken : state.exchangeFenceIds task desc mgr target = some after)
    : after.Exact := by
  obtain ⟨fenceId, targetTask, targetFenceId, rfl⟩ := exchangeFenceIds_cases taken
  refine Exact.updateTask (Exact.updateTask exact ?_ task) ?_ targetTask
  · exact fun _ => ⟨rfl, rfl, rfl⟩
  · exact fun _ => ⟨rfl, rfl, rfl⟩

/-- A task that is being submitted was never listed. -/
theorem Exact.own (exact : state.Exact) (found : state.threads[index]? = some thread)
    {mgr : Nat} {fakeSubmit : Bool}
    (works : thread.current = some (task, .submitting mgr fakeSubmit))
    (exists_ : state.tasks[task]? = some desc)
    : desc.listItem = .own :=
  (entry_of_found exists_).2.2.symm.trans
    ((exact task).own (Nat.lt_of_lt_of_le Nat.one_pos (entry_has found works).chances))

/-- The end of a submission keeps the entries exact. -/
theorem Exact.setTaskSubmitted (exact : state.Exact)
    (found : state.threads[index]? = some thread) {mgr : Nat} {fakeSubmit : Bool}
    (works : thread.current = some (task, .submitting mgr fakeSubmit))
    (exists_ : state.tasks[task]? = some desc) (bound : mgr < state.mgrs.length)
    (taken : (state.setCurrent index (some (task, .finished))).vidschiSetTaskSubmitted mgr task
      desc fakeSubmit = some after)
    : after.Exact := by
  have has := entry_has found works
  have item := exact.own found works exists_
  have sets := touches_setCurrent found works (some .finished)
  cases fakeSubmit with
  | true =>
      simp only [vidschiSetTaskSubmitted, item, if_true] at taken
      obtain rfl := Option.some.inj taken
      have finished := sets.exact exact ((exact task).move has rfl (Nat.zero_le _) rfl)
      refine Exact.updateTask finished ?_ task
      exact fun _ => ⟨rfl, rfl, rfl⟩
  | false =>
      simp only [vidschiSetTaskSubmitted, item, Bool.false_eq_true, if_false,
        Option.map_some] at taken
      obtain rfl := Option.some.inj taken
      refine Exact.updateTask ?_ ?same task
      case same => exact fun _ => ⟨rfl, rfl, rfl⟩
      have links : (state.setCurrent index (some (task, .finished))).Touches task RefEntry.link
          ((state.setCurrent index (some (task, .finished))).listAddTail mgr task) :=
        touches_listAddTail exists_ bound
      have listed : ((state.setCurrent index (some (task, .finished))).listAddTail mgr
          task).tasks[task]? = some { desc with listItem := .linked } := by
        refine (List.getElem?_modify_eq _ _ _).trans ?_
        rw [show (state.setCurrent index (some (task, .finished))).tasks[task]? = some desc
          from exists_]
        rfl
      exact ((sets.trans links).trans (touches_incReference listed)).exact exact
        ((exact task).link has)

/-- Whatever a thread does with its task keeps the entries exact, by cases on the action. -/
theorem Exact.nextCurrent (exact : state.Exact)
    (found : state.threads[index]? = some thread) (works : thread.current = some (task, stage))
    (exists_ : state.tasks[task]? = some desc) {action : RefThreadAction}
    (taken : state.nextCurrent index thread.role task stage desc action = some after)
    : after.Exact := by
  have has := entry_has found works
  cases action with
  | incReference =>
      simp only [RefState.nextCurrent] at taken
      have step (ready : stage = .ready)
          : RefState.Exact ((state.vidschTaskIncReference task).setCurrent index
              (some (task, .queueing))) := by
        subst ready
        exact ((touches_incReference exists_).setCurrent rfl found works
          (some .queueing)).exact exact ((exact task).queueing has)
      split at taken
      case h_4 => cases taken
      all_goals
        obtain rfl := Option.some.inj taken
        exact step rfl
  | linkTask queue =>
      simp only [RefState.nextCurrent] at taken
      split at taken
      case isTrue may =>
        obtain rfl := Option.some.inj taken
        obtain ⟨rfl, bound⟩ := may
        exact ((touches_updateQueue bound).setCurrent rfl found works
          (some .finished)).exact exact ((exact task).park has)
      case isFalse => cases taken
  | submit mgr fakeSubmit =>
      simp only [RefState.nextCurrent] at taken
      split at taken
      case isTrue may =>
        obtain ⟨rfl, _⟩ := may
        exact exact.submit found works taken
      case isFalse => cases taken
  | exchangeFenceIds target =>
      simp only [RefState.nextCurrent] at taken
      split at taken
      · exact exact.exchangeFenceIds taken
      · cases taken
  | setTaskSubmitted =>
      simp only [RefState.nextCurrent] at taken
      split at taken
      · split at taken
        case isTrue bound => exact exact.setTaskSubmitted found works exists_ bound taken
        case isFalse => cases taken
      · cases taken
  | decReference =>
      simp only [RefState.nextCurrent] at taken
      have step (one : stage.references = 1) (none : stage.releases = 0)
          : RefState.Exact (state.vidschTaskDecReference index task desc) := by
        have dropped := (exact task).decReference has one none
        have next : (if desc.refCnt - 1 = 0 then some (task, RefStage.releasing) else .none)
            = (if desc.refCnt - 1 = 0 then some .releasing else .none).map
                fun stage => (task, stage) := by
          split <;> rfl
        rw [vidschTaskDecReference, next]
        rw [(entry_of_found exists_).1] at dropped
        exact ((touches_decReference exists_).setCurrent rfl found works _).exact exact dropped
      split at taken
      case h_3 => cases taken
      all_goals
        obtain rfl := Option.some.inj taken
        exact step rfl rfl
  | doReleaseTask =>
      simp only [RefState.nextCurrent] at taken
      split at taken
      case isTrue releasing =>
        subst releasing
        obtain rfl := Option.some.inj taken
        have released := ((touches_released exists_).setCurrent rfl found works none).exact exact
          ((exact task).release has)
        have handled := Exact.updateMgr released
          (fun mgr => rfl : ∀ mgr : RefMgr,
            ({ mgr with handledTasksNum := mgr.handledTasksNum + 1 } : RefMgr).submittedTaskList
              = mgr.submittedTaskList)
          desc.engine
        exact handled
      case isFalse => cases taken
  | takeTask => cases taken
  | spliceBack =>
      simp only [RefState.nextCurrent] at taken
      split at taken
      case h_1 role stage type queue taskList role_eq type_eq =>
        split at taken
        case isTrue bound =>
          obtain rfl := Option.some.inj taken
          have back := @touches_spliceBack state index queue task taskList thread found role_eq bound
          have found' : (state.threads.modify index fun thread =>
              { thread with role := .worker queue [] })[index]?
                = some { thread with role := .worker queue [] } := by
            rw [List.getElem?_modify_eq, found]
            rfl
          have works' : ({ thread with role := .worker queue [] } : RefThread).current
              = some (task, .ready) :=
            works
          exact (back.trans (touches_setCurrent found' works' none)).exact exact
            ((exact task).parkBack has)
        case isFalse => cases taken
      case h_2 => cases taken

/-- A step of a thread keeps the entries exact. -/
theorem Exact.nextThread (exact : state.Exact) (found : state.threads[index]? = some thread)
    {action : RefThreadAction} (taken : state.nextThread index thread action = some after)
    : after.Exact := by
  simp only [RefState.nextThread] at taken
  split at taken
  case h_1 task stage works =>
    obtain ⟨desc, exists_, taken⟩ := Option.bind_eq_some_iff.mp taken
    exact exact.nextCurrent found works exists_ taken
  case h_2 idle =>
    split at taken
    case h_1 role action queue task taskList role_eq =>
      obtain rfl := Option.some.inj taken
      have parked : 0 < (state.entry task).parked := by
        have least := Bag.le_sum_map found fun thread => thread.role.taskList.count task
        rw [role_eq, RefRole.taskList_worker, List.count_cons_self] at least
        exact Nat.lt_of_lt_of_le (Nat.succ_pos _) (least.trans (Nat.le_add_right _ _))
      have found' : (state.threads.modify index fun thread =>
          { thread with role := .worker queue taskList })[index]?
            = some { thread with role := .worker queue taskList } := by
        rw [List.getElem?_modify_eq, found]
        rfl
      have idle' : ({ thread with role := .worker queue taskList } : RefThread).current = none :=
        idle
      exact ((touches_setRole found role_eq).trans
        (touches_startCurrent found' idle' task .ready)).exact exact
          ((exact task).unpark parked)
    case h_2 => cases taken

/-- The first task of a submitted list is listed. -/
theorem listed_pos {mgr : RefMgr} {rest : List Nat} (found : state.mgrs[index]? = some mgr)
    (list_eq : mgr.submittedTaskList = task :: rest)
    : 0 < state.listed task := by
  have least := Bag.le_sum_map found fun mgr => mgr.submittedTaskList.count task
  rw [list_eq, List.count_cons_self] at least
  exact Nat.lt_of_lt_of_le (Nat.succ_pos _) least

/-- A task that is listed is listed once. -/
theorem Exact.listed (exact : state.Exact) (listed : 0 < state.listed task)
    : state.listed task = 1 := by
  have linked : state.listed task = (state.entry task).listItem.lists := (exact task).linked
  cases item : (state.entry task).listItem with
  | linked => exact linked.trans (by rw [item]; rfl)
  | own | removed =>
      rw [item, ListItem.lists] at linked
      omega

/-- A thread takes a task off the submitted list. -/
theorem Exact.complete (exact : state.Exact) (exists_ : state.tasks[task]? = some desc)
    (listed : 0 < state.listed task)
    : RefState.Exact ((state.listDel task).addThread .completer (some (task, .finished))) := by
  have begins : (state.listDel task).Touches task (RefEntry.begin · .finished)
      ((state.listDel task).addThread .completer (some (task, .finished))) :=
    touches_addThread rfl task .finished
  exact ((touches_listDel exists_ (exact.listed listed)).trans begins).exact exact
    ((exact task).unlink listed)

/-- `vidsch_release_completed_tasks` keeps the entries exact. -/
theorem Exact.vidschReleaseCompletedTasks (exact : state.Exact) {mgr : RefMgr}
    (found : state.mgrs[index]? = some mgr) {newFence : U64}
    (taken : state.vidschReleaseCompletedTasks index mgr newFence = some after)
    : after.Exact := by
  simp only [RefState.vidschReleaseCompletedTasks] at taken
  split at taken
  case h_1 task rest list_eq =>
    obtain ⟨desc, exists_, taken⟩ := Option.map_eq_some_iff.mp taken
    have read := exact.withFences index
      fun _ => (vidschIsFenceBack mgr.fences newFence desc.fenceId).1
    split at taken
    case isTrue back =>
      obtain rfl := taken
      refine read.complete exists_ ?_
      have same : (state.updateMgr index fun other =>
          { other with fences := (vidschIsFenceBack mgr.fences newFence desc.fenceId).1 }).entry
            task = state.entry task := by
        refine entry_updateMgr ?_ index task
        exact fun _ => rfl
      exact (listed_pos found list_eq).trans_eq (congrArg RefEntry.listed same).symm
    case isFalse =>
      obtain rfl := taken
      exact read
  case h_2 => cases taken

/-- So does the hang detector. -/
theorem Exact.vidschiUncompletedTaskExceedWaitTime (exact : state.Exact) {mgr : RefMgr}
    (found : state.mgrs[index]? = some mgr) {newFence : U64} {exceeds : Bool}
    (taken : state.vidschiUncompletedTaskExceedWaitTime mgr newFence exceeds = some after)
    : after.Exact := by
  simp only [RefState.vidschiUncompletedTaskExceedWaitTime] at taken
  split at taken
  case h_1 task rest list_eq =>
    obtain ⟨desc, exists_, taken⟩ := Option.map_eq_some_iff.mp taken
    split at taken
    case isTrue =>
      obtain rfl := taken
      have begins : (state.vidschTaskIncReference task).Touches task
          (RefEntry.begin · .finished)
          ((state.vidschTaskIncReference task).addThread .hangDetector
            (some (task, .finished))) :=
        touches_addThread rfl task .finished
      exact ((touches_incReference exists_).trans begins).exact exact
        ((exact task).detect (listed_pos found list_eq))
    case isFalse =>
      obtain rfl := taken
      exact exact
  case h_2 => cases taken

end Current

/-- A new task gets the entry of one. -/
theorem touches_append (desc : RefTask)
    : state.Touches state.tasks.length
        (fun entry =>
          { entry with
            refCnt := desc.refCnt
            released := desc.released
            listItem := desc.listItem })
        { state with tasks := state.tasks ++ [desc] } := by
  constructor
  · have last : (state.tasks ++ [desc])[state.tasks.length]? = some desc :=
      List.getElem?_concat_length
    simp only [entry, last, Option.elim_some]
    rfl
  · intro other ne
    have same : (state.tasks ++ [desc])[other]? = state.tasks[other]? := by
      rcases Nat.lt_or_gt_of_ne ne with before | behind
      · exact List.getElem?_append_left before
      · rw [List.getElem?_eq_none (Nat.le_of_lt behind), List.getElem?_eq_none]
        rw [List.length_append, List.length_singleton]
        exact behind
    simp only [entry, same]
    rfl

/-- A new task has one holder, the thread that created it. -/
theorem Exact.create (exact : state.Exact) (type : TaskType) (engine : Nat)
    : RefState.Exact ((state.vidschTaskInitDesc type engine).addThread .creator
        (some (state.tasks.length, .ready))) := by
  have absent : state.tasks[state.tasks.length]? = none :=
    List.getElem?_eq_none (Nat.le_refl _)
  let created : RefState :=
    { state with tasks := state.tasks ++ [⟨type, engine, 0, 1, .own, false, false, 0⟩] }
  have begins : created.Touches state.tasks.length (RefEntry.begin · .ready)
      (created.addThread .creator (some (state.tasks.length, .ready))) :=
    touches_addThread rfl _ _
  have added : RefState.Exact
      (created.addThread .creator (some (state.tasks.length, .ready))) := by
    refine ((touches_append _).trans begins).exact exact ((exact _).create ?_ ?_ ?_)
    all_goals simp only [entry, absent, Option.elim_none]
  have pending : RefState.Exact ((created.addThread .creator
      (some (state.tasks.length, .ready))).updateMgr engine fun mgr =>
        { mgr with pendingTasksNum := mgr.pendingTasksNum + 1 }) := by
    refine Exact.updateMgr added ?_ engine
    exact fun _ => rfl
  exact pending

/-- Every step keeps the entries exact, by cases on the action. -/
theorem Exact.next (exact : state.Exact) {action : RefAction} {after : RefState}
    (taken : state.next action = some after)
    : after.Exact := by
  cases action with
  | create type engine =>
      simp only [RefState.next] at taken
      split at taken
      · obtain rfl := Option.some.inj taken
        exact exact.create type engine
      · cases taken
  | thread index action =>
      obtain ⟨thread, found, taken⟩ := Option.bind_eq_some_iff.mp taken
      exact exact.nextThread found taken
  | spliceOut queue =>
      obtain ⟨taskList, found, rfl⟩ := Option.map_eq_some_iff.mp taken
      exact fun task => (entry_spliceOut found task).symm ▸ exact task
  | releaseCompletedTasks index newFence =>
      obtain ⟨mgr, found, taken⟩ := Option.bind_eq_some_iff.mp taken
      exact exact.vidschReleaseCompletedTasks found taken
  | uncompletedTaskExceedWaitTime index newFence exceeds =>
      obtain ⟨mgr, found, taken⟩ := Option.bind_eq_some_iff.mp taken
      exact exact.vidschiUncompletedTaskExceedWaitTime found taken
  | fence index action =>
      obtain rfl := Option.some.inj taken
      exact exact.withFences index fun mgr => mgr.fences.after action

-----------------------------------------------------------------------------------------
-- Pending and handled tasks
-----------------------------------------------------------------------------------------

/-- The pending tasks of each engine are its handled tasks and those that live. -/
def Balanced (state : RefState) : Prop :=
  ∀ engine mgr, state.mgrs[engine]? = some mgr
    → mgr.pendingTasksNum = mgr.handledTasksNum + state.liveTasks engine

/-- From one state to the other no task came, went or was handled. -/
structure SameTasks (before after : RefState) : Prop where
  mgrs : ∀ (engine : Nat) (mgr : RefMgr), after.mgrs[engine]? = some mgr
    → ∃ old : RefMgr, before.mgrs[engine]? = some old
      ∧ old.pendingTasksNum = mgr.pendingTasksNum ∧ old.handledTasksNum = mgr.handledTasksNum
  live : ∀ engine, after.liveTasks engine = before.liveTasks engine

/-- No task was taken off a submitted list. -/
def KeepsLists (before after : RefState) : Prop :=
  ∀ (index : Nat) (old mgr : RefMgr), before.mgrs[index]? = some old
    → after.mgrs[index]? = some mgr → old.submittedTaskList ⊆ mgr.submittedTaskList

/-- Neither of both. -/
structure Keeps (before after : RefState) : Prop extends SameTasks before after where
  lists : before.KeepsLists after

/-- With the same tasks the balance is kept. -/
theorem Balanced.same (balanced : state.Balanced) {after : RefState}
    (same : state.SameTasks after)
    : after.Balanced := by
  intro engine mgr found
  obtain ⟨old, found_old, pending, handled⟩ := same.mgrs engine mgr found
  rw [← pending, ← handled, same.live]
  exact balanced engine old found_old

/-- One after the other. -/
theorem SameTasks.trans {before middle after : RefState} (h : before.SameTasks middle)
    (h' : middle.SameTasks after)
    : before.SameTasks after := by
  refine ⟨?_, fun engine => (h'.live engine).trans (h.live engine)⟩
  intro engine mgr found
  obtain ⟨mid, found_mid, pending, handled⟩ := h'.mgrs engine mgr found
  obtain ⟨old, found_old, pending', handled'⟩ := h.mgrs engine mid found_mid
  exact ⟨old, found_old, pending'.trans pending, handled'.trans handled⟩

/-- One after the other. -/
theorem Keeps.trans {before middle after : RefState} (h : before.Keeps middle)
    (h' : middle.Keeps after)
    : before.Keeps after := by
  refine ⟨h.toSameTasks.trans h'.toSameTasks, ?_⟩
  intro index old mgr found_old found
  obtain ⟨mid, found_mid, _⟩ := h'.mgrs index mgr found
  exact List.Subset.trans (h.lists index old mid found_old found_mid)
    (h'.lists index mid mgr found_mid found)

/-- Only threads and queues change. -/
theorem keeps_of_eq {before after : RefState} (tasks : after.tasks = before.tasks)
    (mgrs : after.mgrs = before.mgrs)
    : before.Keeps after := by
  refine ⟨⟨fun _ mgr found => ⟨mgr, mgrs ▸ found, rfl, rfl⟩, fun _ => ?_⟩, ?_⟩
  · simp only [liveTasks, tasks]
  · intro index old mgr found_old found
    obtain rfl := Option.some.inj (found_old.symm.trans (mgrs ▸ found))
    exact List.Subset.refl _

/-- A task changes in another way than being released. -/
theorem keeps_updateTask {change : RefTask → RefTask}
    (same : ∀ desc, (change desc).engine = desc.engine ∧ (change desc).released = desc.released)
    (task : Nat)
    : state.Keeps (state.updateTask task change) := by
  refine ⟨⟨fun _ mgr found => ⟨mgr, found, rfl, rfl⟩, fun engine => ?_⟩, ?_⟩
  · refine Bag.sum_map_modify_same (fun desc => ?_) state.tasks task
    rw [(same desc).1, (same desc).2]
  · intro index old mgr found_old found
    obtain rfl := Option.some.inj (found_old.symm.trans found)
    exact List.Subset.refl _

/-- A manager changes in another way than taking tasks off its list. -/
theorem keepsLists_updateMgr {change : RefMgr → RefMgr}
    (subset : ∀ mgr : RefMgr, mgr.submittedTaskList ⊆ (change mgr).submittedTaskList)
    (index : Nat)
    : state.KeepsLists (state.updateMgr index change) := by
  intro other old mgr found_old found
  simp only [updateMgr, List.getElem?_modify, found_old, Option.map_eq_map, Option.map_some,
    Option.some.injEq] at found
  subst found
  split
  · exact subset old
  · exact List.Subset.refl _

/-- A manager changes in another way than counting tasks or taking them off its list. -/
theorem keeps_updateMgr {change : RefMgr → RefMgr}
    (same : ∀ mgr, (change mgr).pendingTasksNum = mgr.pendingTasksNum
      ∧ (change mgr).handledTasksNum = mgr.handledTasksNum)
    (subset : ∀ mgr : RefMgr, mgr.submittedTaskList ⊆ (change mgr).submittedTaskList)
    (index : Nat)
    : state.Keeps (state.updateMgr index change) := by
  refine ⟨⟨fun engine mgr found => ?_, fun _ => rfl⟩, keepsLists_updateMgr subset index⟩
  simp only [updateMgr, List.getElem?_modify, Option.map_eq_map, Option.map_eq_some_iff] at found
  obtain ⟨old, found, rfl⟩ := found
  refine ⟨old, found, ?_⟩
  split
  · exact ⟨(same old).1.symm, (same old).2.symm⟩
  · exact ⟨rfl, rfl⟩

/-- `list_del` counts nothing. -/
theorem sameTasks_listDel (task : Nat) : state.SameTasks (state.listDel task) := by
  have node : state.Keeps (state.updateTask task fun desc =>
      { desc with listItem := .removed }) := by
    refine keeps_updateTask ?_ task
    exact fun _ => ⟨rfl, rfl⟩
  refine ⟨fun engine mgr found => ?_, node.live⟩
  simp only [listDel, List.getElem?_map, Option.map_eq_some_iff] at found
  obtain ⟨old, found, rfl⟩ := found
  exact ⟨old, found, rfl, rfl⟩

/-- `list_add_tail` counts nothing. -/
theorem keeps_listAddTail (mgr task : Nat) : state.Keeps (state.listAddTail mgr task) := by
  refine (keeps_updateTask ?_ task).trans (keeps_updateMgr ?_ ?_ mgr)
  · exact fun _ => ⟨rfl, rfl⟩
  · exact fun _ => ⟨rfl, rfl⟩
  · exact fun mgr => List.subset_append_left ..

/-- Nor do new fence counters. -/
theorem keeps_withFences (index : Nat) (fences : RefMgr → FenceCounters)
    : state.Keeps (state.updateMgr index fun mgr => { mgr with fences := fences mgr }) := by
  refine keeps_updateMgr ?_ ?_ index
  · exact fun _ => ⟨rfl, rfl⟩
  · exact fun _ => List.Subset.refl _

/-- Nor does `vidsch_task_inc_reference`. -/
theorem keeps_incReference (task : Nat)
    : state.Keeps (state.vidschTaskIncReference task) := by
  refine keeps_updateTask ?_ task
  exact fun _ => ⟨rfl, rfl⟩

section Current

variable {after : RefState} {index task : Nat} {thread : RefThread} {stage : RefStage}
  {desc : RefTask}

/-- Nor does the submission of a task. -/
theorem keeps_submit {mgr : Nat} {fakeSubmit : Bool}
    (taken : state.submit index task desc mgr fakeSubmit = some after)
    : state.Keeps after := by
  have submitting : state.Keeps
      (state.setCurrent index (some (task, .submitting mgr fakeSubmit))) :=
    keeps_of_eq rfl rfl
  rcases submit_cases taken with rfl | ⟨fenceId, fences, rfl⟩
  · exact submitting
  · refine (submitting.trans (keeps_updateTask ?_ task)).trans
      (keeps_withFences mgr fun _ => fences)
    exact fun _ => ⟨rfl, rfl⟩

/-- Nor does the exchange of two fence ids. -/
theorem keeps_exchangeFenceIds {mgr target : Nat}
    (taken : state.exchangeFenceIds task desc mgr target = some after)
    : state.Keeps after := by
  obtain ⟨fenceId, targetTask, targetFenceId, rfl⟩ := exchangeFenceIds_cases taken
  refine (keeps_updateTask ?_ task).trans (keeps_updateTask ?_ targetTask)
  · exact fun _ => ⟨rfl, rfl⟩
  · exact fun _ => ⟨rfl, rfl⟩

/-- Nor does the end of a submission of a task that is not listed. -/
theorem keeps_setTaskSubmitted {mgr : Nat} {fakeSubmit : Bool} (own : desc.listItem = .own)
    (taken : state.vidschiSetTaskSubmitted mgr task desc fakeSubmit = some after)
    : state.Keeps after := by
  cases fakeSubmit with
  | true =>
      simp only [vidschiSetTaskSubmitted, if_true, own] at taken
      obtain rfl := Option.some.inj taken
      refine keeps_updateTask ?_ task
      exact fun _ => ⟨rfl, rfl⟩
  | false =>
      simp only [vidschiSetTaskSubmitted, Bool.false_eq_true, if_false, own,
        Option.map_some] at taken
      obtain rfl := Option.some.inj taken
      refine ((keeps_listAddTail mgr task).trans (keeps_incReference task)).trans
        (keeps_updateTask ?_ task)
      exact fun _ => ⟨rfl, rfl⟩

/-- A thread that works on its task, other than by releasing it, counts nothing. -/
theorem Exact.keeps_nextCurrent (exact : state.Exact)
    (found : state.threads[index]? = some thread) (works : thread.current = some (task, stage))
    (exists_ : state.tasks[task]? = some desc) {role : RefRole} {action : RefThreadAction}
    (other : action ≠ .doReleaseTask)
    (taken : state.nextCurrent index role task stage desc action = some after)
    : state.Keeps after := by
  cases action with
  | incReference =>
      simp only [RefState.nextCurrent] at taken
      split at taken
      case h_4 => cases taken
      all_goals
        obtain rfl := Option.some.inj taken
        exact (keeps_incReference task).trans (keeps_of_eq rfl rfl)
  | linkTask queue =>
      simp only [RefState.nextCurrent] at taken
      split at taken
      · obtain rfl := Option.some.inj taken
        exact keeps_of_eq rfl rfl
      · cases taken
  | submit mgr fakeSubmit =>
      simp only [RefState.nextCurrent] at taken
      split at taken
      · exact keeps_submit taken
      · cases taken
  | exchangeFenceIds target =>
      simp only [RefState.nextCurrent] at taken
      split at taken
      · exact keeps_exchangeFenceIds taken
      · cases taken
  | setTaskSubmitted =>
      simp only [RefState.nextCurrent] at taken
      split at taken
      · split at taken
        · have own := exact.own found works exists_
          have finished : state.Keeps (state.setCurrent index (some (task, .finished))) :=
            keeps_of_eq rfl rfl
          exact finished.trans (keeps_setTaskSubmitted own taken)
        · cases taken
      · cases taken
  | decReference =>
      have drops : state.Keeps (state.updateTask task fun desc =>
          { desc with refCnt := desc.refCnt - 1 }) := by
        refine keeps_updateTask ?_ task
        exact fun _ => ⟨rfl, rfl⟩
      simp only [RefState.nextCurrent] at taken
      split at taken
      case h_3 => cases taken
      all_goals
        obtain rfl := Option.some.inj taken
        exact drops.trans (keeps_of_eq rfl rfl)
  | doReleaseTask => exact absurd rfl other
  | takeTask => cases taken
  | spliceBack =>
      simp only [RefState.nextCurrent] at taken
      split at taken
      · split at taken
        · obtain rfl := Option.some.inj taken
          exact keeps_of_eq rfl rfl
        · cases taken
      · cases taken

/-- The callback is counted, and the task does not live any more. -/
theorem Balanced.doReleaseTask (balanced : state.Balanced)
    (exists_ : state.tasks[task]? = some desc) (live : desc.released = 0)
    : (state.vidschiDoReleaseTask task desc).Balanced := by
  intro engine mgr found
  simp only [vidschiDoReleaseTask, updateMgr, updateTask, List.getElem?_modify,
    Option.map_eq_map, Option.map_eq_some_iff] at found
  obtain ⟨old, found, rfl⟩ := found
  have before := balanced engine old found
  have counts := Bag.sum_map_modify exists_
    (fun desc => { desc with released := desc.released + 1 })
    fun desc => if desc.engine = engine ∧ desc.released = 0 then 1 else 0
  have after : (state.vidschiDoReleaseTask task desc).liveTasks engine
      + (if desc.engine = engine then 1 else 0) = state.liveTasks engine := by
    simp only [live, and_true, Nat.zero_add, Nat.one_ne_zero, and_false, if_false,
      Nat.add_zero] at counts
    exact counts
  by_cases same : desc.engine = engine
  · simp only [if_pos same] at after ⊢
    omega
  · simp only [if_neg same] at after ⊢
    omega

/-- A new task is pending, and it lives. -/
theorem Balanced.create (balanced : state.Balanced) (type : TaskType) (engine : Nat)
    : (state.vidschTaskInitDesc type engine).Balanced := by
  intro other mgr found
  simp only [vidschTaskInitDesc, updateMgr, List.getElem?_modify, Option.map_eq_map,
    Option.map_eq_some_iff] at found
  obtain ⟨old, found, rfl⟩ := found
  have before := balanced other old found
  have after : (state.vidschTaskInitDesc type engine).liveTasks other
      = state.liveTasks other + if engine = other then 1 else 0 := by
    simp only [liveTasks, vidschTaskInitDesc, updateMgr, List.map_append, List.sum_append,
      List.map_cons, List.map_nil, List.sum_cons, List.sum_nil, and_true, Nat.add_zero]
  by_cases same : engine = other
  · simp only [if_pos same] at after ⊢
    omega
  · simp only [if_neg same] at after ⊢
    omega

/-- A thread that is about to release a task knows that it lives. -/
theorem Exact.releasing (exact : state.Exact) (found : state.threads[index]? = some thread)
    (works : thread.current = some (task, .releasing))
    (exists_ : state.tasks[task]? = some desc)
    : desc.released = 0 := by
  have released : (state.entry task).released = desc.released := (entry_of_found exists_).2.1
  have once := (exact task).released_le
  have last : 1 ≤ (state.entry task).releases := (entry_has found works).releases
  omega

/-- A step of a thread keeps the balance and the submitted lists. -/
theorem Exact.nextThread_counts (exact : state.Exact) (balanced : state.Balanced)
    (found : state.threads[index]? = some thread) {action : RefThreadAction}
    (taken : state.nextThread index thread action = some after)
    : after.Balanced ∧ state.KeepsLists after := by
  simp only [RefState.nextThread] at taken
  split at taken
  case h_1 task stage works =>
    obtain ⟨desc, exists_, taken⟩ := Option.bind_eq_some_iff.mp taken
    by_cases release : action = .doReleaseTask
    · rw [release, RefState.nextCurrent] at taken
      split at taken
      case isTrue releasing =>
        obtain rfl := Option.some.inj taken
        have live := exact.releasing found (releasing ▸ works) exists_
        refine ⟨balanced.doReleaseTask exists_ live, ?_⟩
        exact @keepsLists_updateMgr state
          (fun mgr => { mgr with handledTasksNum := mgr.handledTasksNum + 1 })
          (fun _ => List.Subset.refl _) desc.engine
      case isFalse => cases taken
    · have keeps := exact.keeps_nextCurrent found works exists_ release taken
      exact ⟨balanced.same keeps.toSameTasks, keeps.lists⟩
  case h_2 =>
    split at taken
    · obtain rfl := Option.some.inj taken
      exact ⟨balanced, (keeps_of_eq rfl rfl).lists⟩
    · cases taken

end Current

/-- Whatever is taken off a submitted list has a fence that its engine has read as returned. -/
def TakesOffReturned (before after : RefState) : Prop :=
  ∀ (index : Nat) (old mgr : RefMgr), before.mgrs[index]? = some old
    → after.mgrs[index]? = some mgr
    → ∀ task ∈ old.submittedTaskList, task ∉ mgr.submittedTaskList
    → ∃ desc, after.tasks[task]? = some desc ∧ desc.fenceId ≤ mgr.fences.returnedFenceId

/-- Nothing is taken off a list that is kept. -/
theorem KeepsLists.takesOff {before after : RefState} (kept : before.KeepsLists after)
    : before.TakesOffReturned after :=
  fun index old mgr found_old found _ member gone =>
    absurd (kept index old mgr found_old found member) gone

/-- The head of a list is the only task that is taken off, from this list only. -/
theorem Exact.takesOff_listDel (exact : state.Exact) {index task : Nat} {mgr : RefMgr}
    {desc : RefTask} {fences : FenceCounters} (found : state.mgrs[index]? = some mgr)
    (exists_ : state.tasks[task]? = some desc) (member : task ∈ mgr.submittedTaskList)
    (back : desc.fenceId ≤ fences.returnedFenceId)
    : state.TakesOffReturned
        (((state.updateMgr index fun mgr => { mgr with fences }).listDel task).addThread
          .completer (some (task, .finished))) := by
  intro other old mgr' found_old found' removed member' absent
  simp only [addThread, listDel, RefState.updateTask, RefState.updateMgr, List.getElem?_map,
    List.getElem?_modify, found_old, Option.map_eq_map, Option.map_some,
    Option.some.injEq] at found'
  obtain rfl : removed = task := by
    refine Decidable.byContradiction fun ne => absent ?_
    subst found'
    refine (List.mem_erase_of_ne ne).mpr ?_
    split
    · exact member'
    · exact member'
  obtain rfl : index = other := by
    have once : state.listed removed ≤ 1 :=
      Nat.le_of_eq (exact.listed (Nat.lt_of_lt_of_le (List.count_pos_iff.mpr member)
        (Bag.le_sum_map found fun mgr => mgr.submittedTaskList.count removed)))
    exact Bag.eq_of_sum_map_le_one found found_old (List.count_pos_iff.mpr member)
      (List.count_pos_iff.mpr member') once
  refine ⟨{ desc with listItem := .removed }, ?_, ?_⟩
  · refine (List.getElem?_modify_eq _ _ _).trans ?_
    exact congrArg _ exists_
  · subst found'
    rw [if_pos rfl]
    exact back

/-- `vidsch_release_completed_tasks` keeps the balance, and takes a task off only after its
fence returned.
-/
theorem Exact.vidschReleaseCompletedTasks_counts (exact : state.Exact)
    (balanced : state.Balanced) {after : RefState} {index : Nat} {mgr : RefMgr}
    (found : state.mgrs[index]? = some mgr) {newFence : U64}
    (taken : state.vidschReleaseCompletedTasks index mgr newFence = some after)
    : after.Balanced ∧ state.TakesOffReturned after := by
  simp only [RefState.vidschReleaseCompletedTasks] at taken
  split at taken
  case h_1 task rest list_eq =>
    obtain ⟨desc, exists_, taken⟩ := Option.map_eq_some_iff.mp taken
    have read := @keeps_withFences state index
      fun _ => (vidschIsFenceBack mgr.fences newFence desc.fenceId).1
    split at taken
    case isTrue back =>
      obtain rfl := taken
      have gone := read.toSameTasks.trans (sameTasks_listDel task)
      refine ⟨balanced.same ⟨gone.mgrs, gone.live⟩, ?_⟩
      exact exact.takesOff_listDel found exists_ (list_eq ▸ List.mem_cons_self) (of_decide_eq_true back)
    case isFalse =>
      obtain rfl := taken
      exact ⟨balanced.same read.toSameTasks, read.lists.takesOff⟩
  case h_2 => cases taken

/-- Every step keeps the balance, and takes a task off a submitted list only after its fence
returned.
-/
theorem Exact.next_counts (exact : state.Exact) (balanced : state.Balanced)
    {action : RefAction} {after : RefState} (taken : state.next action = some after)
    : after.Balanced ∧ state.TakesOffReturned after := by
  cases action with
  | create type engine =>
      simp only [RefState.next] at taken
      split at taken
      · obtain rfl := Option.some.inj taken
        have lists := @keepsLists_updateMgr state
          (fun mgr => { mgr with pendingTasksNum := mgr.pendingTasksNum + 1 })
          (fun _ => List.Subset.refl _) engine
        exact ⟨balanced.create type engine, KeepsLists.takesOff lists⟩
      · cases taken
  | thread index action =>
      obtain ⟨thread, found, taken⟩ := Option.bind_eq_some_iff.mp taken
      obtain ⟨balanced', lists⟩ := exact.nextThread_counts balanced found taken
      exact ⟨balanced', lists.takesOff⟩
  | spliceOut queue =>
      obtain ⟨taskList, found, rfl⟩ := Option.map_eq_some_iff.mp taken
      exact ⟨balanced, (keeps_of_eq rfl rfl).lists.takesOff⟩
  | releaseCompletedTasks index newFence =>
      obtain ⟨mgr, found, taken⟩ := Option.bind_eq_some_iff.mp taken
      exact exact.vidschReleaseCompletedTasks_counts balanced found taken
  | uncompletedTaskExceedWaitTime index newFence exceeds =>
      obtain ⟨mgr, found, taken⟩ := Option.bind_eq_some_iff.mp taken
      simp only [RefState.vidschiUncompletedTaskExceedWaitTime] at taken
      split at taken
      case h_1 task rest list_eq =>
        obtain ⟨desc, exists_, taken⟩ := Option.map_eq_some_iff.mp taken
        split at taken
        · obtain rfl := taken
          have same := @keeps_incReference state task
          exact ⟨balanced.same ⟨same.mgrs, same.live⟩, KeepsLists.takesOff same.lists⟩
        · obtain rfl := taken
          exact ⟨balanced, (keeps_of_eq rfl rfl).lists.takesOff⟩
      case h_2 => cases taken
  | fence index action =>
      obtain rfl := Option.some.inj taken
      have same := @keeps_withFences state index fun mgr => mgr.fences.after action
      exact ⟨balanced.same same.toSameTasks, same.lists.takesOff⟩

-----------------------------------------------------------------------------------------
-- All runs
-----------------------------------------------------------------------------------------

/-- No list links a task: no queue, no local list of a pass and no submitted list. -/
structure Unlinked (state : RefState) (task : Nat) : Prop where
  queues : ∀ queue ∈ state.queues, task ∉ queue
  taskLists : ∀ thread ∈ state.threads, task ∉ thread.role.taskList
  mgrs : ∀ mgr ∈ state.mgrs, task ∉ mgr.submittedTaskList

/-- A task without holders is not linked. -/
theorem unlinked_of_holders {task : Nat} (none : state.holders task = 0)
    : state.Unlinked task := by
  simp only [holders, parked, Nat.add_eq_zero_iff, listed, List.sum_eq_zero_iff,
    List.forall_mem_map, List.count_eq_zero] at none
  obtain ⟨⟨_, taskLists, queues⟩, mgrs⟩ := none
  exact ⟨queues, taskLists, mgrs⟩

/-- Some thread is about to call the release callback of a task. -/
def Releasing (state : RefState) (task : Nat) : Prop :=
  ∃ thread ∈ state.threads, thread.current = some (task, .releasing)

/-- Tasks are reference counted exactly. -/
structure Counted (state : RefState) : Prop where
  refCnt : ∀ (task : Nat) (desc : RefTask), state.tasks[task]? = some desc → desc.released = 0
    → desc.refCnt = (state.holders task : Int)
  once : ∀ (task : Nat) (desc : RefTask), state.tasks[task]? = some desc → desc.released ≤ 1
  last : ∀ (task : Nat) (desc : RefTask), state.tasks[task]? = some desc
    → state.holders task = 0 → ¬ state.Releasing task → desc.released = 1
  unlinked : ∀ (task : Nat) (desc : RefTask), state.tasks[task]? = some desc
    → state.Releasing task ∨ desc.released = 1 → state.holders task = 0 ∧ state.Unlinked task
  takesOff : ∀ action after, state.next action = some after → state.TakesOffReturned after
  handled : state.Balanced

/-- The threads that release a task are weighed. -/
theorem releasing_iff {task : Nat}
    : state.Releasing task ↔ state.weigh RefStage.releases task ≠ 0 := by
  constructor
  · rintro ⟨thread, member, works⟩
    obtain ⟨index, found⟩ := List.mem_iff_getElem?.mp member
    exact Nat.pos_iff_ne_zero.mp (entry_has found works).releases
  · intro weighs
    by_contra none
    refine weighs (List.sum_eq_zero_iff.mpr (List.forall_mem_map.mpr fun thread member => ?_))
    cases works : thread.current with
    | none => rfl
    | some pair =>
        obtain ⟨current, stage⟩ := pair
        rw [weighCurrent]
        split
        case isTrue same =>
          cases stage with
          | releasing => exact absurd ⟨thread, member, same ▸ works⟩ none
          | ready | queueing | submitting _ _ | finished => rfl
        case isFalse => rfl

/-- Nothing is held in the beginning. -/
theorem start_exact (hwQueueSizes : List U32) (queues : Nat)
    : (start hwQueueSizes queues).Exact := by
  intro task
  have parked : (start hwQueueSizes queues).parked task = 0 := by
    simp only [parked, start, List.map_nil, List.sum_nil, List.map_replicate, List.count_nil,
      List.sum_replicate_nat, Nat.mul_zero]
  have listed : (start hwQueueSizes queues).listed task = 0 := by
    refine List.sum_eq_zero_iff.mpr ?_
    simp only [start, List.map_map, Function.comp_def, List.forall_mem_map, List.count_nil,
      implies_true]
  constructor <;>
    simp only [RefEntry.holders, entry, parked, listed] <;>
    simp only [start, weigh, List.map_nil, List.sum_nil, List.getElem?_nil, Option.elim_none,
      ListItem.lists, ListItem.spent] <;>
    omega

/-- The reference count of every task is exact in every reachable state. Its release callback
is called once, when no list links the task, and a step takes a task off its submitted list
only after the fence of the task returned. The pending tasks that are not handled are those
that live.
-/
theorem taskReferences_counted (reached : system.Reachable state) : state.Counted := by
  have kept : state.Exact ∧ state.Balanced := by
    apply reached.invariant
    · rintro _ ⟨hwQueueSizes, queues, rfl⟩
      refine ⟨start_exact hwQueueSizes queues, fun engine mgr found => ?_⟩
      simp only [start, List.getElem?_map, Option.map_eq_some_iff] at found
      obtain ⟨_, _, rfl⟩ := found
      rfl
    · rintro before action after ⟨exact, balanced⟩ taken
      exact ⟨exact.next taken, (exact.next_counts balanced taken).1⟩
  obtain ⟨exact, balanced⟩ := kept
  refine ⟨?_, ?_, ?_, ?_, fun action after taken => (exact.next_counts balanced taken).2, balanced⟩
  · intro task desc exists_ _
    exact (entry_of_found exists_).1.symm.trans (exact task).counted
  · intro task desc exists_
    have released := (entry_of_found exists_).2.1
    have once := (exact task).released_le
    omega
  · intro task desc exists_ none idle
    have released := (entry_of_found exists_).2.1
    have once := (exact task).dead none
    have nobody : (state.entry task).releases = 0 :=
      Decidable.byContradiction fun weighs => idle (releasing_iff.mpr weighs)
    omega
  · intro task desc exists_ gone
    have released := (entry_of_found exists_).2.1
    have none : state.holders task = 0 := by
      rcases Nat.eq_zero_or_pos (state.holders task) with none | some
      · exact none
      · have live := (exact task).live some
        rcases gone with releasing | released'
        · have weighs : (state.entry task).releases ≠ 0 := releasing_iff.mp releasing
          omega
        · omega
    exact ⟨none, unlinked_of_holders none⟩

/-- A paging task is submitted, dropped by the thread that created it, completed and released.
-/
def releasedActions : List RefAction :=
  [.create .paging 0, .thread 0 (.submit 0 false), .thread 0 .setTaskSubmitted,
    .thread 0 .decReference, .releaseCompletedTasks 0 1, .thread 1 .decReference,
    .thread 1 .doReleaseTask]

/-- The state these steps end in. -/
def releasedOnce : Option RefState := System.replay next (start [8] 1) releasedActions

/-- The steps can be taken. -/
theorem releasedOnce_isSome : releasedOnce.isSome := by rfl

/-- Everything is counted there, and the task was released. -/
theorem taskReferences_counted_releasedOnce
    : (releasedOnce.get releasedOnce_isSome).tasks.map RefTask.released = [1]
      ∧ (releasedOnce.get releasedOnce_isSome).Counted := by
  have reached : system.Reachable (releasedOnce.get releasedOnce_isSome) :=
    .replay releasedActions ⟨[8], 1, rfl⟩ (Option.some_get releasedOnce_isSome).symm
  exact ⟨by rfl, taskReferences_counted reached⟩

end RefState

end Cx4Kernel.Vidsch
