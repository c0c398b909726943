import Cx4Kernel.Vidsch.Fence
import Cx4Kernel.Vidsch.TaskQueue

/-! The references to tasks and what is done at the last one: `vidsch_task.c`, the submit
helpers of `vidsch_submit.c` and the callers that create tasks, queue them, submit them and
drop them. Each section under a lock and each atomic operation is one step.
-/

namespace Cx4Kernel.Vidsch

open Cx4Kernel.Foundation

/-- Where `list_item` of a task points: to itself, into a list, or to null after
`list_del`.
-/
inductive ListItem where
  | own
  | linked
  | removed
deriving DecidableEq

/-- The fields of `task_desc_t` that its lifetime depends on, and how often its release
callback has run. The memory is freed by the callback. Here it keeps its last values.
-/
structure RefTask where
  type : TaskType
  /-- `context->rb_index` -/
  engine : Nat
  fenceId : U64
  refCnt : Int
  listItem : ListItem
  fakeSubmitted : Bool
  submitted : Bool
  released : Nat

/-- The fields of `vidsch_mgr_t` for the tasks of its engine. -/
structure RefMgr where
  fences : FenceCounters
  submittedTaskList : List Nat
  pendingTasksNum : Nat
  handledTasksNum : Nat

/-- Where a thread stands with the task it works on. It may still pass the task on, has
taken a second reference for a queue, has the fence id of a submission, has only its
reference left to drop, or has dropped the last one.
-/
inductive RefStage where
  | ready
  | queueing
  | submitting (mgr : Nat) (fakeSubmit : Bool)
  | finished
  | releasing
deriving DecidableEq

/-- Who a thread is: one that created its task, a pass of a worker with the local list it
took out of a queue, one that took a task off the submitted list, or the hang detector.
-/
inductive RefRole where
  | creator
  | worker (queue : Nat) (taskList : List Nat)
  | completer
  | hangDetector

/-- Which tasks are submitted by the thread that created them, and which by a worker. -/
def RefRole.submits : RefRole → TaskType → Bool
  | .creator, .paging | .creator, .vmUpdate | .creator, .pageTableSet => true
  | .worker .., .render | .worker .., .vmPrepare | .worker .., .pageTableSet => true
  | _, _ => false

/-- A thread with the task it works on. -/
structure RefThread where
  role : RefRole
  current : Option (Nat × RefStage)

/-- The tasks ever created, the managers of the engines, the task queues and the threads.
Tasks are named by their position in `tasks`.
-/
structure RefState where
  tasks : List RefTask
  mgrs : List RefMgr
  queues : List (List Nat)
  threads : List RefThread

/-- What a thread does next with its task. -/
inductive RefThreadAction where
  | incReference
  | linkTask (queue : Nat)
  | submit (mgr : Nat) (fakeSubmit : Bool)
  | exchangeFenceIds (target : Nat)
  | setTaskSubmitted
  | decReference
  | doReleaseTask
  | takeTask
  | spliceBack
deriving DecidableEq

/-- The steps of all threads. A hang detector looks at a task for too long or not. -/
inductive RefAction where
  | create (type : TaskType) (engine : Nat)
  | thread (index : Nat) (action : RefThreadAction)
  | spliceOut (queue : Nat)
  | releaseCompletedTasks (mgr : Nat) (newFence : U64)
  | uncompletedTaskExceedWaitTime (mgr : Nat) (newFence : U64) (exceeds : Bool)
  | fence (mgr : Nat) (action : FenceAction)

namespace RefState

/-- Change one task. -/
def updateTask (state : RefState) (task : Nat) (change : RefTask → RefTask) : RefState :=
  { state with tasks := state.tasks.modify task change }

/-- Change the manager of one engine. -/
def updateMgr (state : RefState) (mgr : Nat) (change : RefMgr → RefMgr) : RefState :=
  { state with mgrs := state.mgrs.modify mgr change }

/-- Change one queue. -/
def updateQueue (state : RefState) (queue : Nat) (change : List Nat → List Nat) : RefState :=
  { state with queues := state.queues.modify queue change }

/-- Let a thread go on with another task or stage. -/
def setCurrent (state : RefState) (index : Nat) (current : Option (Nat × RefStage))
    : RefState :=
  { state with threads := state.threads.modify index fun thread => { thread with current } }

/-- Change who a thread is, for the local list of a pass. -/
def setRole (state : RefState) (index : Nat) (role : RefRole) : RefState :=
  { state with threads := state.threads.modify index fun thread => { thread with role } }

/-- Start a thread. -/
def addThread (state : RefState) (role : RefRole) (current : Option (Nat × RefStage))
    : RefState :=
  { state with threads := state.threads ++ [⟨role, current⟩] }

/-- `vidsch_task_init_desc`, called with the manager of the context's engine. -/
def vidschTaskInitDesc (state : RefState) (type : TaskType) (engine : Nat) : RefState :=
  let desc : RefTask := ⟨type, engine, 0, 1, .own, false, false, 0⟩
  RefState.updateMgr { state with tasks := state.tasks ++ [desc] } engine
    fun mgr => { mgr with pendingTasksNum := mgr.pendingTasksNum + 1 }

/-- `vidsch_task_inc_reference`. -/
def vidschTaskIncReference (state : RefState) (task : Nat) : RefState :=
  state.updateTask task fun desc => { desc with refCnt := desc.refCnt + 1 }

/-- `zx_atomic_dec(desc->ref_cnt)` of `vidsch_task_dec_reference`, by a thread that goes on
to release the task at zero.
-/
def vidschTaskDecReference (state : RefState) (index task : Nat) (desc : RefTask) : RefState :=
  (state.updateTask task fun desc => { desc with refCnt := desc.refCnt - 1 }).setCurrent index
    (if desc.refCnt - 1 = 0 then some (task, .releasing) else none)

/-- `vidschi_do_release_task`. -/
def vidschiDoReleaseTask (state : RefState) (task : Nat) (desc : RefTask) : RefState :=
  (state.updateTask task fun desc => { desc with released := desc.released + 1 }).updateMgr
    desc.engine fun mgr => { mgr with handledTasksNum := mgr.handledTasksNum + 1 }

/-- `list_add_tail` to the submitted list of a manager. -/
def listAddTail (state : RefState) (mgr task : Nat) : RefState :=
  (state.updateTask task fun desc => { desc with listItem := .linked }).updateMgr mgr
    fun mgr => { mgr with submittedTaskList := mgr.submittedTaskList ++ [task] }

/-- `list_del` from whatever submitted list the task is in. -/
def listDel (state : RefState) (task : Nat) : RefState :=
  { state.updateTask task fun desc => { desc with listItem := .removed } with
    mgrs := state.mgrs.map fun mgr =>
      { mgr with submittedTaskList := mgr.submittedTaskList.erase task } }

/-- `vidschi_set_task_submitted`. A task that is listed is taken off, and with a fake submit
the reference of the list is dropped. The node of a task that was taken off before is null,
where `list_del` faults.
-/
def vidschiSetTaskSubmitted (state : RefState) (mgr task : Nat) (desc : RefTask)
    (fakeSubmit : Bool) : Option RefState :=
  if fakeSubmit then
    let faked := state.updateTask task fun desc => { desc with fakeSubmitted := true }
    match desc.listItem with
    | .own => some faked
    | .linked => some ((faked.listDel task).addThread .completer (some (task, .finished)))
    | .removed => none
  else
    let added? : Option RefState :=
      match desc.listItem with
      | .own => some ((state.listAddTail mgr task).vidschTaskIncReference task)
      | .linked => some ((state.listDel task).listAddTail mgr task)
      | .removed => none
    added?.map fun added => added.updateTask task fun desc => { desc with submitted := true }

/-- Up to the point where the submission of a task leaves the engine's lock. Only a task that
is written to the ring gets a fence id, and only one with commands to skip is faked. A
page-table-set task may go to the manager of another engine, that of its target.
-/
def submit (state : RefState) (index task : Nat) (desc : RefTask) (mgr : Nat)
    (fakeSubmit : Bool) : Option RefState :=
  let submitting := state.setCurrent index (some (task, .submitting mgr fakeSubmit))
  state.mgrs[mgr]?.bind fun found =>
    if desc.type = .pageTableSet ∨ mgr = desc.engine then
      match fakeSubmit, desc.type with
      | true, .render | true, .paging | true, .vmUpdate => some submitting
      | true, _ => none
      | false, .vmPrepare => some submitting
      | false, _ =>
          let (fences, fenceId) := vidschiIncSendFenceId found.fences
          some
            ((submitting.updateTask task fun desc => { desc with fenceId }).updateMgr mgr
              fun mgr => { mgr with fences })
    else none

/-- The part of `vidsch_submit_page_table_set_task` where the task jumps the queue before
its target on the same ring: the two exchange their fence ids.
-/
def exchangeFenceIds (state : RefState) (task : Nat) (desc : RefTask) (mgr target : Nat)
    : Option RefState :=
  state.threads[target]?.bind fun thread =>
    match thread.current with
    | some (targetTask, .submitting targetMgr false) =>
        state.tasks[targetTask]?.bind fun targetDesc =>
          if desc.type = .pageTableSet ∧ targetMgr = mgr ∧ targetTask ≠ task then
            some
              ((state.updateTask task fun desc =>
                { desc with fenceId := targetDesc.fenceId }).updateTask targetTask
                  fun target => { target with fenceId := desc.fenceId })
          else none
    | _ => none

/-- A step of a thread with a task. A creator may drop its task without having passed it on,
when it could not build its commands. A pass that cannot prepare a task puts all it has left
back to the front of its queue.
-/
def nextCurrent (state : RefState) (index : Nat) (role : RefRole) (task : Nat)
    (stage : RefStage) (desc : RefTask) : RefThreadAction → Option RefState
  | .incReference =>
      match role, stage, desc.type with
      | .creator, .ready, .render | .creator, .ready, .vmPrepare
      | .creator, .ready, .pageTableSet =>
          some ((state.vidschTaskIncReference task).setCurrent index (some (task, .queueing)))
      | _, _, _ => none
  | .linkTask queue =>
      if stage = .queueing ∧ queue < state.queues.length then
        some
          ((state.updateQueue queue (· ++ [task])).setCurrent index (some (task, .finished)))
      else none
  | .submit mgr fakeSubmit =>
      if stage = .ready ∧ role.submits desc.type then
        state.submit index task desc mgr fakeSubmit
      else none
  | .exchangeFenceIds target =>
      match stage with
      | .submitting mgr false => state.exchangeFenceIds task desc mgr target
      | _ => none
  | .setTaskSubmitted =>
      match stage with
      | .submitting mgr fakeSubmit =>
          if mgr < state.mgrs.length then
            (state.setCurrent index (some (task, .finished))).vidschiSetTaskSubmitted mgr task
              desc fakeSubmit
          else none
      | _ => none
  | .decReference =>
      match role, stage with
      | _, .finished | .creator, .ready => some (state.vidschTaskDecReference index task desc)
      | _, _ => none
  | .doReleaseTask =>
      if stage = .releasing then
        some ((state.vidschiDoReleaseTask task desc).setCurrent index none)
      else none
  | .spliceBack =>
      match role, stage, desc.type with
      | .worker queue taskList, .ready, .render =>
          if queue < state.queues.length then
            some
              (((state.updateQueue queue (task :: taskList ++ ·)).setRole index
                (.worker queue [])).setCurrent index none)
          else none
      | _, _, _ => none
  | .takeTask => none

/-- A step of a thread. -/
def nextThread (state : RefState) (index : Nat) (thread : RefThread)
    (action : RefThreadAction) : Option RefState :=
  match thread.current with
  | some (task, stage) =>
      state.tasks[task]?.bind fun desc =>
        state.nextCurrent index thread.role task stage desc action
  | none =>
      match thread.role, action with
      | .worker queue (task :: taskList), .takeTask =>
          some
            ((state.setRole index (.worker queue taskList)).setCurrent index
              (some (task, .ready)))
      | _, _ => none

/-- The section of `vidsch_release_completed_tasks` under the lock, with the value `newFence`
in the fence slot. The caller then drops the reference of the list.
-/
def vidschReleaseCompletedTasks (state : RefState) (index : Nat) (mgr : RefMgr)
    (newFence : U64) : Option RefState :=
  match mgr.submittedTaskList with
  | task :: _ =>
      state.tasks[task]?.map fun desc =>
        let (fences, back) := vidschIsFenceBack mgr.fences newFence desc.fenceId
        let read := state.updateMgr index fun mgr => { mgr with fences }
        if back then (read.listDel task).addThread .completer (some (task, .finished)) else read
  | [] => none

/-- The section of `vidschi_uncompleted_task_exceed_wait_time` under the lock. -/
def vidschiUncompletedTaskExceedWaitTime (state : RefState) (mgr : RefMgr) (newFence : U64)
    (exceeds : Bool) : Option RefState :=
  match mgr.submittedTaskList with
  | task :: _ =>
      state.tasks[task]?.map fun desc =>
        if exceeds ∧ mgr.fences.returnedFenceId < desc.fenceId ∧ newFence < desc.fenceId then
          (state.vidschTaskIncReference task).addThread .hangDetector (some (task, .finished))
        else state
  | [] => none

/-- One step. -/
def next (state : RefState) : RefAction → Option RefState
  | .create type engine =>
      if engine < state.mgrs.length then
        some
          ((state.vidschTaskInitDesc type engine).addThread .creator
            (some (state.tasks.length, .ready)))
      else none
  | .thread index action =>
      state.threads[index]?.bind fun thread => state.nextThread index thread action
  | .spliceOut queue =>
      state.queues[queue]?.map fun taskList =>
        (state.updateQueue queue fun _ => []).addThread (.worker queue taskList) none
  | .releaseCompletedTasks index newFence =>
      state.mgrs[index]?.bind fun mgr => state.vidschReleaseCompletedTasks index mgr newFence
  | .uncompletedTaskExceedWaitTime index newFence exceeds =>
      state.mgrs[index]?.bind fun mgr =>
        state.vidschiUncompletedTaskExceedWaitTime mgr newFence exceeds
  | .fence mgr action =>
      some (state.updateMgr mgr fun mgr => { mgr with fences := mgr.fences.after action })

/-- New managers and queues without tasks. -/
def start (hwQueueSizes : List U32) (queues : Nat) : RefState where
  tasks := []
  mgrs := hwQueueSizes.map fun hwQueueSize => ⟨fenceCountersInit hwQueueSize, [], 0, 0⟩
  queues := List.replicate queues []
  threads := []

/-- The references under every interleaving. -/
def system : System RefState RefAction :=
  System.ofFunction (fun state => ∃ hwQueueSizes queues, state = start hwQueueSizes queues) next

end RefState

end Cx4Kernel.Vidsch
