import Mathlib.Logic.Function.Basic
import Cx4Kernel.Foundation.MachineInt
import Cx4Kernel.Foundation.Transition

/-! The task queues of one engine and the passes of its worker thread:
`vidsch_task_queue.c` and `vidsch_workerthread.c`. Each section under a lock and each
atomic operation is one step.
-/

namespace Cx4Kernel.Vidsch

open Cx4Kernel.Foundation

/-- `task_type_t`. -/
inductive TaskType where
  | render
  | vmPrepare
  | paging
  | vmUpdate
  | pageTableSet
deriving DecidableEq

/-- The fields of `task_desc_t` the queues look at, and what tells tasks apart. -/
structure TaskDesc where
  type : TaskType
  uuid : U64
deriving DecidableEq

-----------------------------------------------------------------------------------------
-- vidsch_task_queue.c
-----------------------------------------------------------------------------------------

/-- `vidsch_task_queue_t`. -/
structure TaskQueue where
  priority : Int
  /-- an atomic flag, 0 or 1 -/
  active : Nat
  lastActive : U64
  taskList : List TaskDesc
  taskNum : Nat
  maxNum : Nat
  /-- the count of the semaphore -/
  sema : Nat

/-- `vidsch_task_queue_alloc`. -/
def vidschTaskQueueAlloc (maxNum : Nat) (priority : Int) : TaskQueue where
  priority := priority
  active := 0
  lastActive := 0
  taskList := []
  taskNum := 0
  maxNum := maxNum
  sema := maxNum

/-- `vidsch_task_queue_pool_add`: the pool has priorities from 0 to `maxPriority`. -/
def vidschTaskQueuePoolAdd (maxPriority : Nat) (q : TaskQueue) : TaskQueue :=
  { q with
    priority :=
      if q.priority < 0 then 0
      else if q.priority > maxPriority then maxPriority else q.priority }

/-- `zx_atomic_cmpxchg`: the new value of the atomic, and the one it had. -/
def zxAtomicCmpxchg (value old new : Nat) : Nat × Nat :=
  (if value = old then new else value, value)

namespace TaskQueue

/-- The section of `vidsch_task_queue_add` under the queue's lock. -/
def linkTask (q : TaskQueue) (task : TaskDesc) : TaskQueue :=
  { q with taskList := q.taskList ++ [task], taskNum := q.taskNum + 1 }

/-- The last section of `vidschi_try_submit_task_queue` under the queue's lock. -/
def spliceBack (q : TaskQueue) (taskList : List TaskDesc) (taskNum : Nat) (current : U64)
    : TaskQueue :=
  let q := { q with taskList := taskList ++ q.taskList, taskNum := q.taskNum - taskNum }
  if taskNum > 0 ∨ q.taskList ≠ [] then { q with lastActive := current } else q

/-- `vidsch_task_queue_try_deactive`, and whether it takes the queue off the active list. -/
def tryDeactive (q : TaskQueue) (current : U64) : TaskQueue × Bool :=
  if q.taskList = [] ∧ current - q.lastActive > 2000000000 then
    let (active, old) := zxAtomicCmpxchg q.active 1 0
    ({ q with active := active }, old = 1)
  else (q, false)

end TaskQueue

/-- Where a call of `vidsch_task_queue_add` stands: it has taken the semaphore, it has
linked its task, or it has set the active flag and waits for the pool's lock.
-/
inductive AdderStage where
  | admitted
  | linked
  | activating
deriving DecidableEq

/-- A call of `vidsch_task_queue_add` in some thread. -/
structure Adder where
  queue : Nat
  task : TaskDesc
  stage : AdderStage

-----------------------------------------------------------------------------------------
-- vidsch_workerthread.c
-----------------------------------------------------------------------------------------

/-- What the worker does in a pass: go through the active list, submit the tasks it took
out of a queue, or see whether the queue can leave the list.
-/
inductive WorkerStage where
  | between
  | submitting (queue : Nat) (taskList : List TaskDesc) (taskNum : Nat)
      (upOwed stopped : Bool)
  | deactivating (queue : Nat)

/-- A pass of `vidschi_schedule`, which holds the pool's lock: the list of `priority` is
gone through, `rest` is what is left of it.
-/
structure WorkerPass where
  priority : Nat
  rest : List Nat
  stage : WorkerStage

/-- The pool of one engine with its queues, the calls that add tasks, and the worker. The
last two fields record what was added to each queue and what was submitted from it.
-/
structure PoolState where
  maxPriority : Nat
  queues : Nat → TaskQueue
  activeList : Nat → List Nat
  adders : List Adder
  worker : Option WorkerPass
  /-- `sch_mgr->current` -/
  current : U64
  added : Nat → List TaskDesc
  submitted : Nat → List TaskDesc

/-- The steps of adding calls, by their place in `adders`, and of the worker. -/
inductive PoolAction where
  | down (queue : Nat) (task : TaskDesc)
  | linkTask (adder : Nat)
  | cmpxchgActive (adder : Nat)
  | linkQueue (adder : Nat)
  | schedule (now : U64)
  | getNsecs (now : U64)
  | nextPriority
  | spliceOut
  | submit (canPrepare : Bool)
  | up
  | spliceBack
  | tryDeactive
deriving DecidableEq

namespace PoolState

/-- Change one queue. -/
def setQueue (state : PoolState) (index : Nat) (q : TaskQueue) : PoolState :=
  { state with queues := Function.update state.queues index q }

/-- `active_list + q->priority`. -/
def activeIndex (state : PoolState) (index : Nat) : Nat := (state.queues index).priority.toNat

/-- A step of an adding call, given the call and the other calls. -/
def nextAdder (state : PoolState) (adder : Adder) (others : List Adder)
    : PoolAction → Option PoolState
  | .linkTask _ =>
      if adder.stage = .admitted then
        some
          { state.setQueue adder.queue ((state.queues adder.queue).linkTask adder.task) with
            adders := { adder with stage := .linked } :: others
            added := Function.update state.added adder.queue
              (state.added adder.queue ++ [adder.task]) }
      else none
  | .cmpxchgActive _ =>
      if adder.stage = .linked then
        let (active, old) := zxAtomicCmpxchg (state.queues adder.queue).active 0 1
        some
          { state.setQueue adder.queue { state.queues adder.queue with active := active } with
            adders :=
              if old = 0 then { adder with stage := .activating } :: others else others }
      else none
  | .linkQueue _ =>
      -- the worker holds the pool's lock during a pass
      if adder.stage = .activating ∧ state.worker.isNone then
        some
          { state with
            activeList := Function.update state.activeList (state.activeIndex adder.queue)
              (state.activeList (state.activeIndex adder.queue) ++ [adder.queue])
            adders := others }
      else none
  | _ => none

/-- The worker goes on to the next lower priority, or ends its pass after the lowest. -/
def nextPriority (state : PoolState) (pass : WorkerPass) : Option PoolState :=
  match pass.stage, pass.rest, pass.priority with
  | .between, [], priority + 1 =>
      some { state with worker := some ⟨priority, state.activeList priority, .between⟩ }
  | .between, [], 0 => some { state with worker := none }
  | _, _, _ => none

/-- The first section of `vidschi_try_submit_task_queue`, on the next queue of the list. -/
def spliceOut (state : PoolState) (pass : WorkerPass) : Option PoolState :=
  match pass.stage, pass.rest with
  | .between, index :: rest =>
      let q := state.queues index
      some
        { state.setQueue index { q with taskList := [] } with
          worker :=
            some { pass with
              rest := rest, stage := .submitting index q.taskList 0 false false } }
  | _, _ => none

/-- One round of the loop over the tasks, up to the decision. A task that cannot be
prepared stays the first one and stops the loop, and an unknown one is dropped.
-/
def submit (state : PoolState) (pass : WorkerPass) (canPrepare : Bool) : Option PoolState :=
  match pass.stage with
  | .submitting index (task :: taskList) taskNum false false =>
      match task.type with
      | .render =>
          if canPrepare then
            some
              { state with
                submitted := Function.update state.submitted index
                  (state.submitted index ++ [task])
                worker :=
                  some { pass with
                    stage := .submitting index taskList (taskNum + 1) true false } }
          else
            some
              { state with
                worker :=
                  some { pass with
                    stage := .submitting index (task :: taskList) taskNum false true } }
      | _ =>
          some
            { state with
              worker :=
                some { pass with
                  stage := .submitting index taskList (taskNum + 1) true false } }
  | _ => none

/-- `zx_up(q->sema)` for a task that is done with. -/
def up (state : PoolState) (pass : WorkerPass) : Option PoolState :=
  match pass.stage with
  | .submitting index taskList taskNum true stopped =>
      let q := state.queues index
      some
        { state.setQueue index { q with sema := q.sema + 1 } with
          worker :=
            some { pass with stage := .submitting index taskList taskNum false stopped } }
  | _ => none

/-- The last section of `vidschi_try_submit_task_queue`, after the loop. -/
def spliceBack (state : PoolState) (pass : WorkerPass) : Option PoolState :=
  match pass.stage with
  | .submitting index taskList taskNum false stopped =>
      if taskList = [] ∨ stopped then
        some
          { state.setQueue index
              ((state.queues index).spliceBack taskList taskNum state.current) with
            worker := some { pass with stage := .deactivating index } }
      else none
  | _ => none

/-- `vidsch_task_queue_try_deactive`. An adding call may set the flag again before the queue
is off the list. That is the same as setting it right after, since the call still has to
wait for the pool's lock.
-/
def tryDeactive (state : PoolState) (pass : WorkerPass) : Option PoolState :=
  match pass.stage with
  | .deactivating index =>
      let (q, unlinks) := (state.queues index).tryDeactive state.current
      let priority := state.activeIndex index
      some
        { state.setQueue index q with
          activeList :=
            if unlinks then
              Function.update state.activeList priority
                ((state.activeList priority).erase index)
            else state.activeList
          worker := some { pass with stage := .between } }
  | _ => none

/-- `zx_get_nsecs(&sch_mgr->current)` within a pass, where page table set tasks are
scheduled.
-/
def getNsecs (state : PoolState) (now : U64) : Option PoolState :=
  if state.current ≤ now then some { state with current := now } else none

/-- A step of the worker within a pass. -/
def nextWorker (state : PoolState) (pass : WorkerPass) : PoolAction → Option PoolState
  | .getNsecs now => state.getNsecs now
  | .nextPriority => state.nextPriority pass
  | .spliceOut => state.spliceOut pass
  | .submit canPrepare => state.submit pass canPrepare
  | .up => state.up pass
  | .spliceBack => state.spliceBack pass
  | .tryDeactive => state.tryDeactive pass
  | _ => none

/-- One step. The tasks that are added are render tasks, see `vidschi_handle_dma_task`. -/
def next (state : PoolState) (action : PoolAction) : Option PoolState :=
  match action with
  | .down queue task =>
      let q := state.queues queue
      if 0 < q.sema ∧ task.type = .render then
        some
          { state.setQueue queue { q with sema := q.sema - 1 } with
            adders := ⟨queue, task, .admitted⟩ :: state.adders }
      else none
  | .linkTask index | .cmpxchgActive index | .linkQueue index =>
      state.adders[index]?.bind fun adder =>
        state.nextAdder adder (state.adders.eraseIdx index) action
  | .schedule now =>
      if state.worker.isNone ∧ state.current ≤ now then
        some
          { state with
            current := now
            worker :=
              some ⟨state.maxPriority, state.activeList state.maxPriority, .between⟩ }
      else none
  | _ => state.worker.bind fun pass => state.nextWorker pass action

/-- A pool with new queues. -/
def start (maxPriority : Nat) (maxNum : Nat → Nat) (priority : Nat → Int) : PoolState where
  maxPriority := maxPriority
  queues index :=
    vidschTaskQueuePoolAdd maxPriority (vidschTaskQueueAlloc (maxNum index) (priority index))
  activeList _ := []
  adders := []
  worker := none
  current := 0
  added _ := []
  submitted _ := []

/-- The pool under every interleaving. -/
def system : System PoolState PoolAction :=
  System.ofFunction (fun state => ∃ maxPriority maxNum priority,
    state = start maxPriority maxNum priority) next

end PoolState

end Cx4Kernel.Vidsch
