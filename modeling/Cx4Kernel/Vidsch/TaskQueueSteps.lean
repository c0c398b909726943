import Mathlib.Data.List.Perm.Basic
import Cx4Kernel.Vidsch.TaskQueue

/-! What the steps of the task queues can do, with the guards that proofs use. -/

namespace Cx4Kernel.Vidsch

open Cx4Kernel.Foundation

namespace TaskQueue

/-- `vidsch_task_queue_try_deactive` leaves the queue as it is, or takes an empty active one
off the list.
-/
theorem tryDeactive_cases (q : TaskQueue) (current : U64)
    : q.tryDeactive current = (q, false)
      ∨ q.taskList = [] ∧ q.active = 1
        ∧ q.tryDeactive current = ({ q with active := 0 }, true) := by
  rw [tryDeactive]
  split
  · next idle =>
      by_cases active : q.active = 1
      · refine .inr ⟨idle.1, active, ?_⟩
        simp only [zxAtomicCmpxchg, active, if_true, decide_true]
      · refine .inl ?_
        simp only [zxAtomicCmpxchg, active, if_false, decide_false]
  · exact .inl rfl

variable (q : TaskQueue) (taskList : List TaskDesc) (taskNum : Nat) (current : U64)

@[simp] theorem spliceBack_taskList
    : (q.spliceBack taskList taskNum current).taskList = taskList ++ q.taskList := by
  simp only [spliceBack]
  split <;> rfl

@[simp] theorem spliceBack_taskNum
    : (q.spliceBack taskList taskNum current).taskNum = q.taskNum - taskNum := by
  simp only [spliceBack]
  split <;> rfl

/-- Splicing back leaves the other fields alone, but for the time stamp. -/
@[simp] theorem spliceBack_others
    : (q.spliceBack taskList taskNum current).maxNum = q.maxNum
      ∧ (q.spliceBack taskList taskNum current).sema = q.sema
      ∧ (q.spliceBack taskList taskNum current).active = q.active
      ∧ (q.spliceBack taskList taskNum current).priority = q.priority := by
  simp only [spliceBack]
  split <;> exact ⟨rfl, rfl, rfl, rfl⟩

end TaskQueue

namespace PoolState

/-- Calls that add to the queue `index` and have got to `stage`. -/
def callsAt (adders : List Adder) (index : Nat) (stage : AdderStage) : Nat :=
  adders.countP fun adder => adder.queue = index ∧ adder.stage = stage

/-- One more call counts where it stands. -/
@[simp] theorem callsAt_cons (adder : Adder) (others : List Adder) (index : Nat)
    (stage : AdderStage)
    : callsAt (adder :: others) index stage
      = callsAt others index stage
        + if adder.queue = index ∧ adder.stage = stage then 1 else 0 := by
  simp only [callsAt, List.countP_cons, decide_eq_true_eq]

/-- The order of the calls does not count. -/
theorem callsAt_perm {adders others : List Adder} (calls : adders.Perm others) (index : Nat)
    (stage : AdderStage)
    : callsAt adders index stage = callsAt others index stage :=
  calls.countP_eq _

/-- Calls are counted where there are some. -/
theorem exists_of_callsAt_pos {adders : List Adder} {index : Nat} {stage : AdderStage}
    (positive : 0 < callsAt adders index stage)
    : ∃ adder ∈ adders, adder.queue = index ∧ adder.stage = stage := by
  obtain ⟨adder, member, here⟩ := List.countP_pos_iff.mp positive
  exact ⟨adder, member, of_decide_eq_true here⟩

/-- The steps of the pool with their guards. Which call of several equal ones takes a step
does not matter, so the calls are taken up to order.
-/
inductive Step (state : PoolState) : PoolState → Prop where
  | down (index : Nat) (task : TaskDesc) (free : 0 < (state.queues index).sema)
      (render : task.type = .render)
    : Step state
        { state.setQueue index
            { state.queues index with sema := (state.queues index).sema - 1 } with
          adders := ⟨index, task, .admitted⟩ :: state.adders }
  | linkTask {index : Nat} {task : TaskDesc} {others : List Adder}
      (calls : state.adders.Perm (⟨index, task, .admitted⟩ :: others))
    : Step state
        { state.setQueue index ((state.queues index).linkTask task) with
          adders := ⟨index, task, .linked⟩ :: others
          added := Function.update state.added index (state.added index ++ [task]) }
  | activate {index : Nat} {task : TaskDesc} {others : List Adder}
      (calls : state.adders.Perm (⟨index, task, .linked⟩ :: others))
      (inactive : (state.queues index).active = 0)
    : Step state
        { state.setQueue index { state.queues index with active := 1 } with
          adders := ⟨index, task, .activating⟩ :: others }
  | leave {index : Nat} {task : TaskDesc} {others : List Adder}
      (calls : state.adders.Perm (⟨index, task, .linked⟩ :: others))
      (active : (state.queues index).active ≠ 0)
    : Step state { state with adders := others }
  | linkQueue {index : Nat} {task : TaskDesc} {others : List Adder}
      (calls : state.adders.Perm (⟨index, task, .activating⟩ :: others))
      (unlocked : state.worker = none)
    : Step state
        { state with
          activeList := Function.update state.activeList (state.activeIndex index)
            (state.activeList (state.activeIndex index) ++ [index])
          adders := others }
  | schedule (now : U64) (unlocked : state.worker = none)
    : Step state
        { state with
          current := now
          worker := some ⟨state.maxPriority, state.activeList state.maxPriority, .between⟩ }
  | getNsecs (now : U64) : Step state { state with current := now }
  | nextPriority {old priority : Nat} (pass : state.worker = some ⟨old, [], .between⟩)
    : Step state { state with worker := some ⟨priority, state.activeList priority, .between⟩ }
  | endPass {old : Nat} (pass : state.worker = some ⟨old, [], .between⟩)
    : Step state { state with worker := none }
  | spliceOut {priority index : Nat} {rest : List Nat}
      (pass : state.worker = some ⟨priority, index :: rest, .between⟩)
    : Step state
        { state.setQueue index { state.queues index with taskList := [] } with
          worker := some ⟨priority, rest,
            .submitting index (state.queues index).taskList 0 false false⟩ }
  | submit {priority index taskNum : Nat} {rest : List Nat} {task : TaskDesc}
      {taskList : List TaskDesc} (render : task.type = .render)
      (pass : state.worker
        = some ⟨priority, rest, .submitting index (task :: taskList) taskNum false false⟩)
    : Step state
        { state with
          submitted := Function.update state.submitted index (state.submitted index ++ [task])
          worker := some ⟨priority, rest,
            .submitting index taskList (taskNum + 1) true false⟩ }
  | stop {priority index taskNum : Nat} {rest : List Nat} {taskList : List TaskDesc}
      (pass : state.worker
        = some ⟨priority, rest, .submitting index taskList taskNum false false⟩)
    : Step state
        { state with
          worker := some ⟨priority, rest, .submitting index taskList taskNum false true⟩ }
  | drop {priority index taskNum : Nat} {rest : List Nat} {task : TaskDesc}
      {taskList : List TaskDesc} (unknown : task.type ≠ .render)
      (pass : state.worker
        = some ⟨priority, rest, .submitting index (task :: taskList) taskNum false false⟩)
    : Step state
        { state with
          worker := some ⟨priority, rest,
            .submitting index taskList (taskNum + 1) true false⟩ }
  | up {priority index taskNum : Nat} {rest : List Nat} {taskList : List TaskDesc}
      {stopped : Bool}
      (pass : state.worker
        = some ⟨priority, rest, .submitting index taskList taskNum true stopped⟩)
    : Step state
        { state.setQueue index
            { state.queues index with sema := (state.queues index).sema + 1 } with
          worker := some ⟨priority, rest, .submitting index taskList taskNum false stopped⟩ }
  | spliceBack {priority index taskNum : Nat} {rest : List Nat} {taskList : List TaskDesc}
      {stopped : Bool}
      (pass : state.worker
        = some ⟨priority, rest, .submitting index taskList taskNum false stopped⟩)
    : Step state
        { state.setQueue index
            ((state.queues index).spliceBack taskList taskNum state.current) with
          worker := some ⟨priority, rest, .deactivating index⟩ }
  | keep {priority index : Nat} {rest : List Nat}
      (pass : state.worker = some ⟨priority, rest, .deactivating index⟩)
    : Step state { state with worker := some ⟨priority, rest, .between⟩ }
  | deactivate {priority index : Nat} {rest : List Nat}
      (pass : state.worker = some ⟨priority, rest, .deactivating index⟩)
      (empty : (state.queues index).taskList = [])
      (active : (state.queues index).active = 1)
    : Step state
        { state.setQueue index { state.queues index with active := 0 } with
          activeList := Function.update state.activeList (state.activeIndex index)
            ((state.activeList (state.activeIndex index)).erase index)
          worker := some ⟨priority, rest, .between⟩ }

variable {state after : PoolState}

/-- Writing a queue back as it was changes nothing. -/
theorem setQueue_self (state : PoolState) (index : Nat)
    : state.setQueue index (state.queues index) = state := by
  simp only [setQueue, Function.update_eq_self]

/-- The steps of adding calls. -/
theorem step_of_nextAdder {adder : Adder} {others : List Adder} {action : PoolAction}
    (calls : state.adders.Perm (adder :: others))
    (taken : state.nextAdder adder others action = some after)
    : state.Step after := by
  obtain ⟨index, task, stage⟩ := adder
  cases action with
  | linkTask _ =>
      simp only [nextAdder, Option.ite_none_right_eq_some, Option.some.injEq] at taken
      obtain ⟨rfl, rfl⟩ := taken
      exact .linkTask calls
  | cmpxchgActive _ =>
      simp only [nextAdder, Option.ite_none_right_eq_some, Option.some.injEq,
        zxAtomicCmpxchg] at taken
      obtain ⟨rfl, rfl⟩ := taken
      by_cases inactive : (state.queues index).active = 0
      · simp only [inactive, if_true]
        exact .activate calls inactive
      · simp only [inactive, if_false]
        rw [show state.setQueue index { state.queues index with active := (state.queues index).active }
          = state from setQueue_self state index]
        exact .leave calls inactive
  | linkQueue _ =>
      simp only [nextAdder, Option.ite_none_right_eq_some, Option.some.injEq,
        Option.isNone_iff_eq_none] at taken
      obtain ⟨⟨rfl, unlocked⟩, rfl⟩ := taken
      exact .linkQueue calls unlocked
  | _ => cases taken

/-- The worker's steps between two queues. -/
theorem step_of_between {pass : WorkerPass} (working : state.worker = some pass)
    (taken : state.nextPriority pass = some after ∨ state.spliceOut pass = some after)
    : state.Step after := by
  obtain ⟨priority, rest, stage⟩ := pass
  rcases taken with taken | taken
  · rw [nextPriority] at taken
    split at taken
    · next between nil succ =>
        simp only at between nil
        obtain rfl := Option.some.inj taken
        rw [between, nil] at working
        exact .nextPriority working
    · next between nil _ =>
        simp only at between nil
        obtain rfl := Option.some.inj taken
        rw [between, nil] at working
        exact .endPass working
    · cases taken
  · rw [spliceOut] at taken
    split at taken
    · next between cons =>
        simp only at between cons
        obtain rfl := Option.some.inj taken
        rw [between, cons] at working
        exact .spliceOut working
    · cases taken

/-- The worker's steps while it submits the tasks of a queue. -/
theorem step_of_submitting {pass : WorkerPass} (working : state.worker = some pass)
    (taken : (∃ canPrepare, state.submit pass canPrepare = some after)
      ∨ state.up pass = some after ∨ state.spliceBack pass = some after)
    : state.Step after := by
  obtain ⟨priority, rest, stage⟩ := pass
  rcases taken with ⟨canPrepare, taken⟩ | taken | taken
  · rw [submit] at taken
    split at taken
    · next submitting =>
        simp only at submitting
        rw [submitting] at working
        split at taken
        · next render =>
            split at taken
            · obtain rfl := Option.some.inj taken
              exact .submit render working
            · obtain rfl := Option.some.inj taken
              exact .stop working
        · next unknown =>
            obtain rfl := Option.some.inj taken
            exact .drop unknown working
    · cases taken
  · rw [up] at taken
    split at taken
    · next submitting =>
        simp only at submitting
        obtain rfl := Option.some.inj taken
        rw [submitting] at working
        exact .up working
    · cases taken
  · rw [spliceBack] at taken
    split at taken
    · next submitting =>
        simp only at submitting
        rw [submitting] at working
        obtain ⟨_, taken⟩ := Option.ite_none_right_eq_some.mp taken
        obtain rfl := Option.some.inj taken
        exact .spliceBack working
    · cases taken

/-- The worker's last step on a queue. -/
theorem step_of_deactivating {pass : WorkerPass} (working : state.worker = some pass)
    (taken : state.tryDeactive pass = some after)
    : state.Step after := by
  obtain ⟨priority, rest, stage⟩ := pass
  rw [tryDeactive] at taken
  split at taken
  · next index deactivating =>
      simp only at deactivating
      rw [deactivating] at working
      rcases (state.queues index).tryDeactive_cases state.current with kept | removed
      · simp only [kept, Bool.false_eq_true, if_false, setQueue_self] at taken
        obtain rfl := Option.some.inj taken
        exact .keep working
      · obtain ⟨empty, active, removed⟩ := removed
        simp only [removed, if_true] at taken
        obtain rfl := Option.some.inj taken
        exact .deactivate working empty active
  · cases taken

/-- Every step is one of the listed ones, by cases on the action. -/
theorem step_of_next {action : PoolAction} (taken : state.next action = some after)
    : state.Step after := by
  have adding {index : Nat}
      (taken : (state.adders[index]?.bind fun adder =>
        state.nextAdder adder (state.adders.eraseIdx index) action) = some after)
      : state.Step after := by
    obtain ⟨adder, found, taken⟩ := Option.bind_eq_some_iff.mp taken
    obtain ⟨bound, rfl⟩ := List.getElem?_eq_some_iff.mp found
    exact step_of_nextAdder (List.getElem_cons_eraseIdx_perm bound).symm taken
  have working (taken : (state.worker.bind fun pass => state.nextWorker pass action) = some after)
      : ∃ pass, state.worker = some pass ∧ state.nextWorker pass action = some after :=
    Option.bind_eq_some_iff.mp taken
  cases action with
  | down index task =>
      simp only [next, Option.ite_none_right_eq_some, Option.some.injEq] at taken
      obtain ⟨⟨free, render⟩, rfl⟩ := taken
      exact .down index task free render
  | linkTask index => exact adding taken
  | cmpxchgActive index => exact adding taken
  | linkQueue index => exact adding taken
  | schedule now =>
      simp only [next, Option.ite_none_right_eq_some, Option.some.injEq,
        Option.isNone_iff_eq_none] at taken
      obtain ⟨⟨unlocked, _⟩, rfl⟩ := taken
      exact .schedule now unlocked
  | getNsecs now =>
      obtain ⟨pass, _, taken⟩ := working taken
      obtain ⟨_, taken⟩ := Option.ite_none_right_eq_some.mp taken
      obtain rfl := Option.some.inj taken
      exact .getNsecs now
  | nextPriority =>
      obtain ⟨pass, holds, taken⟩ := working taken
      exact step_of_between holds (.inl taken)
  | spliceOut =>
      obtain ⟨pass, holds, taken⟩ := working taken
      exact step_of_between holds (.inr taken)
  | submit canPrepare =>
      obtain ⟨pass, holds, taken⟩ := working taken
      exact step_of_submitting holds (.inl ⟨canPrepare, taken⟩)
  | up =>
      obtain ⟨pass, holds, taken⟩ := working taken
      exact step_of_submitting holds (.inr (.inl taken))
  | spliceBack =>
      obtain ⟨pass, holds, taken⟩ := working taken
      exact step_of_submitting holds (.inr (.inr taken))
  | tryDeactive =>
      obtain ⟨pass, holds, taken⟩ := working taken
      exact step_of_deactivating holds taken

end PoolState

end Cx4Kernel.Vidsch
