import Cx4Kernel.Foundation.CreditQueue
import Cx4Kernel.Vidsch.TaskQueueSteps

/-! The task queues lose no task. Each of them is a bounded queue whose consumer is the
worker, which takes all waiting tasks out and puts back what it cannot submit.
-/

namespace Cx4Kernel.Vidsch

open Cx4Kernel.Foundation

namespace WorkerStage

/-- The tasks of the queue `index` on the worker's own list. -/
def inHand (index : Nat) : WorkerStage → List TaskDesc
  | .submitting queue taskList _ _ _ => if queue = index then taskList else []
  | .between | .deactivating _ => []

/-- The worker's `task_num` for the queue `index`: tasks `q->task_num` still counts. -/
def finished (index : Nat) : WorkerStage → Nat
  | .submitting queue _ taskNum _ _ => if queue = index then taskNum else 0
  | .between | .deactivating _ => 0

/-- Of these, the tasks the semaphore has not been raised for. -/
def owed (index : Nat) : WorkerStage → Nat
  | .submitting queue _ _ upOwed _ => if queue = index ∧ upOwed then 1 else 0
  | .between | .deactivating _ => 0

variable {index queue : Nat} {taskList : List TaskDesc} {taskNum : Nat} {upOwed stopped : Bool}

@[simp] theorem inHand_submitting
    : (submitting queue taskList taskNum upOwed stopped).inHand index
      = if queue = index then taskList else [] := rfl

@[simp] theorem finished_submitting
    : (submitting queue taskList taskNum upOwed stopped).finished index
      = if queue = index then taskNum else 0 := rfl

@[simp] theorem owed_submitting
    : (submitting queue taskList taskNum upOwed stopped).owed index
      = if queue = index ∧ upOwed then 1 else 0 := rfl

@[simp] theorem inHand_between : between.inHand index = [] := rfl
@[simp] theorem finished_between : between.finished index = 0 := rfl
@[simp] theorem owed_between : between.owed index = 0 := rfl
@[simp] theorem inHand_deactivating : (deactivating queue).inHand index = [] := rfl
@[simp] theorem finished_deactivating : (deactivating queue).finished index = 0 := rfl
@[simp] theorem owed_deactivating : (deactivating queue).owed index = 0 := rfl

end WorkerStage

namespace PoolState

variable {state after : PoolState}

/-- The worker's stage, `between` outside a pass. -/
def stage (state : PoolState) : WorkerStage := state.worker.elim .between WorkerPass.stage

/-- The queue `index` as a bounded queue: the semaphore counts the credits. -/
def creditQueue (state : PoolState) (index : Nat) : CreditQueue TaskDesc where
  added := state.added index
  consumed := state.submitted index
  inHand := state.stage.inHand index
  waiting := (state.queues index).taskList
  number := (state.queues index).taskNum
  capacity := (state.queues index).maxNum
  credits := (state.queues index).sema
  admitted := callsAt state.adders index .admitted
  finished := state.stage.finished index
  owed := state.stage.owed index

/-- Only render tasks are added. -/
structure OnlyRender (state : PoolState) : Prop where
  calls : ∀ adder ∈ state.adders, adder.task.type = .render
  added : ∀ index, ∀ task ∈ state.added index, task.type = .render

/-- No step adds another kind of task, by cases on the step. -/
theorem OnlyRender.step (only : state.OnlyRender) (step : state.Step after)
    : after.OnlyRender := by
  cases step with
  | down index task free render =>
      refine ⟨?_, only.added⟩
      intro adder member
      rcases List.mem_cons.mp member with rfl | old
      · exact render
      · exact only.calls adder old
  | @linkTask index task others calls =>
      have render : task.type = .render := only.calls _ (calls.mem_iff.mpr List.mem_cons_self)
      constructor
      · intro adder member
        rcases List.mem_cons.mp member with rfl | old
        · exact render
        · exact only.calls adder (calls.mem_iff.mpr (List.mem_cons_of_mem _ old))
      · intro other added member
        simp only [Function.update_apply] at member
        split at member
        · next same =>
            rcases List.mem_append.mp member with old | new
            · exact only.added index added old
            · exact List.mem_singleton.mp new ▸ render
        · exact only.added other added member
  | @activate index task others calls inactive =>
      refine ⟨?_, only.added⟩
      intro adder member
      rcases List.mem_cons.mp member with rfl | old
      · exact only.calls ⟨index, task, .linked⟩ (calls.mem_iff.mpr List.mem_cons_self)
      · exact only.calls adder (calls.mem_iff.mpr (List.mem_cons_of_mem _ old))
  | leave calls active =>
      exact ⟨fun adder member =>
        only.calls adder (calls.mem_iff.mpr (List.mem_cons_of_mem _ member)), only.added⟩
  | linkQueue calls unlocked =>
      exact ⟨fun adder member =>
        only.calls adder (calls.mem_iff.mpr (List.mem_cons_of_mem _ member)), only.added⟩
  | _ => exact ⟨only.calls, only.added⟩

/-- Every step of the pool is a step of each of its bounded queues, or none, by cases on the
step. A task in the worker's hand was added, so it is a render task and not dropped.
-/
theorem Step.creditQueue (only : state.OnlyRender)
    (balanced : ∀ index, (state.creditQueue index).Balanced) (step : state.Step after)
    (other : Nat)
    : after.creditQueue other = state.creditQueue other
      ∨ (state.creditQueue other).Step (after.creditQueue other) := by
  cases step with
  | down index task free render =>
      by_cases same : index = other
      · subst same
        have step : (state.creditQueue index).Step _ := .acquire free
        exact .inr (by simpa [PoolState.creditQueue, setQueue, stage] using step)
      · exact .inl (by simp [PoolState.creditQueue, setQueue, stage, same, Ne.symm same])
  | @linkTask index task others calls =>
      have count := callsAt_perm calls other .admitted
      by_cases same : index = other
      · subst same
        simp only [callsAt_cons, true_and, if_true] at count
        have step : (state.creditQueue index).Step _ := .put task count
        exact .inr (by
          simpa [PoolState.creditQueue, setQueue, stage, TaskQueue.linkTask] using step)
      · exact .inl (by
          simp [PoolState.creditQueue, setQueue, stage, same, Ne.symm same, count])
  | @activate index task others calls inactive =>
      have count := callsAt_perm calls other .admitted
      by_cases same : index = other
      · subst same
        exact .inl (by simp [PoolState.creditQueue, setQueue, stage, count])
      · exact .inl (by
          simp [PoolState.creditQueue, setQueue, stage, same, Ne.symm same, count])
  | leave calls active =>
      have count := callsAt_perm calls other .admitted
      exact .inl (by simp [PoolState.creditQueue, stage, count])
  | linkQueue calls unlocked =>
      have count := callsAt_perm calls other .admitted
      exact .inl (by simp [PoolState.creditQueue, stage, count])
  | schedule now unlocked => exact .inl (by simp [PoolState.creditQueue, stage, unlocked])
  | getNsecs now => exact .inl rfl
  | nextPriority pass => exact .inl (by simp [PoolState.creditQueue, stage, pass])
  | endPass pass => exact .inl (by simp [PoolState.creditQueue, stage, pass])
  | @spliceOut priority index rest pass =>
      by_cases same : index = other
      · subst same
        have step : (state.creditQueue index).Step _ :=
          .takeOut (by simp [PoolState.creditQueue, stage, pass, WorkerStage.inHand])
            (by simp [PoolState.creditQueue, stage, pass, WorkerStage.finished])
        exact .inr (by simpa [PoolState.creditQueue, setQueue, stage, pass] using step)
      · exact .inl (by
          simp [PoolState.creditQueue, setQueue, stage, pass, same, Ne.symm same])
  | @submit priority index taskNum rest task taskList render pass =>
      by_cases same : index = other
      · subst same
        have first : (state.creditQueue index).inHand = task :: taskList := by
          simp [PoolState.creditQueue, stage, pass]
        have step : (state.creditQueue index).Step _ :=
          .consume first (by simp [PoolState.creditQueue, stage, pass])
        exact .inr (by simpa [PoolState.creditQueue, stage, pass] using step)
      · exact .inl (by simp [PoolState.creditQueue, stage, pass, same, Ne.symm same])
  | stop pass => exact .inl (by simp [PoolState.creditQueue, stage, pass])
  | @drop priority index taskNum rest task taskList unknown pass =>
      have history := (balanced index).history
      have member : task ∈ state.added index := by
        simp only [PoolState.creditQueue, stage, pass, Option.elim_some,
          WorkerStage.inHand_submitting, if_true] at history
        rw [history]
        simp
      exact absurd (only.added index task member) unknown
  | @up priority index taskNum rest taskList stopped pass =>
      by_cases same : index = other
      · subst same
        have step : (state.creditQueue index).Step _ :=
          .repay (by simp [PoolState.creditQueue, stage, pass])
        exact .inr (by simpa [PoolState.creditQueue, setQueue, stage, pass] using step)
      · exact .inl (by
          simp [PoolState.creditQueue, setQueue, stage, pass, same, Ne.symm same])
  | @spliceBack priority index taskNum rest taskList stopped pass =>
      by_cases same : index = other
      · subst same
        have step : (state.creditQueue index).Step _ :=
          .putBack (by simp [PoolState.creditQueue, stage, pass])
        exact .inr (by simpa [PoolState.creditQueue, setQueue, stage, pass] using step)
      · exact .inl (by
          simp [PoolState.creditQueue, setQueue, stage, pass, same, Ne.symm same])
  | keep pass => exact .inl (by simp [PoolState.creditQueue, stage, pass])
  | @deactivate priority index rest pass empty active =>
      by_cases same : index = other
      · subst same
        exact .inl (by simp [PoolState.creditQueue, setQueue, stage, pass])
      · exact .inl (by
          simp [PoolState.creditQueue, setQueue, stage, pass, Ne.symm same])

/-- In every reachable state only render tasks are added and each queue is balanced. -/
theorem balanced_of_reachable (reached : system.Reachable state)
    : state.OnlyRender ∧ ∀ index, (state.creditQueue index).Balanced := by
  apply reached.invariant
  · intro first begins
    obtain ⟨maxPriority, maxNum, priority, rfl⟩ := begins
    refine ⟨⟨fun _ member => absurd member List.not_mem_nil,
      fun _ _ member => absurd member List.not_mem_nil⟩, ?_⟩
    intro index
    exact CreditQueue.balanced_new (maxNum index)
  · intro before action after held taken
    obtain ⟨only, balanced⟩ := held
    have step := step_of_next taken
    refine ⟨only.step step, ?_⟩
    intro index
    rcases step.creditQueue only balanced index with same | moved
    · rw [same]
      exact balanced index
    · exact (balanced index).step moved

/-- The worker is in `vidschi_try_submit_task_queue` with the tasks of the queue `index`. -/
def InPass (state : PoolState) (index : Nat) : Prop :=
  ∃ taskList taskNum upOwed stopped,
    state.stage = .submitting index taskList taskNum upOwed stopped

/-- Outside a pass on a queue the worker has nothing of it. -/
theorem outside_pass {index : Nat} (outside : ¬ state.InPass index)
    : (state.creditQueue index).inHand = []
      ∧ (state.creditQueue index).finished = 0 ∧ (state.creditQueue index).owed = 0 := by
  simp only [creditQueue]
  cases found : state.stage with
  | between => exact ⟨rfl, rfl, rfl⟩
  | deactivating queue => exact ⟨rfl, rfl, rfl⟩
  | submitting queue taskList taskNum upOwed stopped =>
      have other : queue ≠ index := by
        intro same
        subst same
        exact outside ⟨taskList, taskNum, upOwed, stopped, found⟩
      simp [other]

/-- In every reachable state, the tasks submitted from a queue are the first ones added to
it, in order and each once, and the rest is in the worker's hand and in the list, in order.
Outside a pass the number of tasks is the length of the list, and it makes up the capacity
with the semaphore and the calls that have taken it and not linked their task.
-/
theorem taskQueue_fifo (reached : system.Reachable state) (index : Nat)
    : state.submitted index <+: state.added index
      ∧ state.added index
        = state.submitted index
          ++ (state.stage.inHand index ++ (state.queues index).taskList)
      ∧ (¬ state.InPass index
        → (state.queues index).taskNum = (state.queues index).taskList.length
          ∧ (state.queues index).maxNum
            = (state.queues index).taskNum
              + ((state.queues index).sema + callsAt state.adders index .admitted)) := by
  have balanced := (balanced_of_reachable reached).2 index
  refine ⟨balanced.consumed_prefix, balanced.history, ?_⟩
  intro outside
  obtain ⟨empty, done, paid⟩ := outside_pass outside
  exact balanced.at_rest empty done paid

/-- A second task comes while the first one is in the worker's hand. -/
def secondTask : Option PoolState :=
  System.replay next (start 0 (fun _ => 2) fun _ => 0)
    [.down 0 ⟨.render, 1⟩, .linkTask 0, .cmpxchgActive 0, .linkQueue 0, .schedule 5,
      .spliceOut, .down 0 ⟨.render, 2⟩, .linkTask 0, .submit true, .up, .spliceBack]

/-- All these steps are possible. -/
theorem secondTask_isSome : secondTask.isSome := by decide

/-- The second task waits behind the first one. -/
theorem taskQueue_fifo_secondTask
    : (secondTask.get secondTask_isSome).submitted 0
      <+: (secondTask.get secondTask_isSome).added 0 := by
  have reached : system.Reachable (secondTask.get secondTask_isSome) :=
    .replay _ ⟨0, fun _ => 2, fun _ => 0, rfl⟩ (Option.some_get secondTask_isSome).symm
  exact (taskQueue_fifo reached 0).1

end PoolState

end Cx4Kernel.Vidsch
