import Cx4Kernel.Vidsch.TaskQueueSteps

/-! The task queues forget no work. The active flag of a queue stands for one place on the
active list, which a call takes after it has set the flag and the worker gives up before
it lets go of the queue.
-/

namespace Cx4Kernel.Vidsch

open Cx4Kernel.Foundation

/-- The queue the worker is at. -/
def WorkerStage.visited : WorkerStage → List Nat
  | .submitting queue _ _ _ _ | .deactivating queue => [queue]
  | .between => []

/-- The active flag of a queue stands for one place on the active list of its priority, or
for one call that is about to take it. An inactive queue with tasks has a call that is
about to look at the flag.
-/
structure Linked (active priority : Nat) (taskList : List TaskDesc) (activating pending : Nat)
    (activeList : Nat → List Nat) (index : Nat) : Prop where
  once : activating + (activeList priority).count index = active
  flag : active ≤ 1
  elsewhere : ∀ other, index ∈ activeList other → other = priority
  waiting : active = 0 → taskList ≠ [] → 0 < pending

namespace Linked

variable {active priority activating pending index : Nat} {taskList : List TaskDesc}
  {activeList : Nat → List Nat}

/-- While a call is about to look at the flag, any tasks may be in the list. -/
theorem put (linked : Linked active priority taskList activating pending activeList index)
    (others : List TaskDesc)
    : Linked active priority others activating (pending + 1) activeList index :=
  ⟨linked.once, linked.flag, linked.elsewhere, fun _ _ => Nat.succ_pos _⟩

/-- The tasks and the calls that look at the flag do not matter to an active queue. -/
theorem of_active (linked : Linked active priority taskList activating pending activeList index)
    (set : active ≠ 0) (others : List TaskDesc) (calls : Nat)
    : Linked active priority others activating calls activeList index :=
  ⟨linked.once, linked.flag, linked.elsewhere, fun unset => absurd unset set⟩

/-- A queue without tasks need not be active. -/
theorem takeOut (linked : Linked active priority taskList activating pending activeList index)
    : Linked active priority [] activating pending activeList index :=
  ⟨linked.once, linked.flag, linked.elsewhere, fun _ nonempty => absurd rfl nonempty⟩

/-- Setting the flag makes the call take a place later. -/
theorem activate (linked : Linked 0 priority taskList activating pending activeList index)
    (calls : Nat)
    : Linked 1 priority taskList (activating + 1) calls activeList index := by
  have once := linked.once
  exact ⟨by omega, Nat.le_refl _, linked.elsewhere, fun unset => absurd unset Nat.one_ne_zero⟩

/-- The call takes its place. -/
theorem link
    (linked : Linked active priority taskList (activating + 1) pending activeList index)
    : Linked active priority taskList activating pending
        (Function.update activeList priority (activeList priority ++ [index])) index := by
  refine ⟨?_, linked.flag, ?_, linked.waiting⟩
  · have once := linked.once
    rw [Function.update_self, List.count_append, List.count_singleton_self]
    omega
  · intro other member
    by_cases same : other = priority
    · exact same
    · rw [Function.update_of_ne same] at member
      exact linked.elsewhere other member

/-- An empty queue gives up its place and its flag. -/
theorem unlink (linked : Linked 1 priority [] activating pending activeList index)
    (member : index ∈ activeList priority)
    : Linked 0 priority [] activating pending
        (Function.update activeList priority ((activeList priority).erase index)) index := by
  refine ⟨?_, Nat.zero_le _, ?_, fun _ nonempty => absurd rfl nonempty⟩
  · have once := linked.once
    have positive := List.count_pos_iff.mpr member
    rw [Function.update_self, List.count_erase_self]
    omega
  · intro other there
    by_cases same : other = priority
    · exact same
    · rw [Function.update_of_ne same] at there
      exact linked.elsewhere other there

/-- The place of a queue stays when another one joins or leaves a list. -/
theorem update_other {place : Nat} {list : List Nat}
    (linked : Linked active priority taskList activating pending activeList index)
    (count : list.count index = (activeList place).count index)
    : Linked active priority taskList activating pending
        (Function.update activeList place list) index := by
  refine ⟨?_, linked.flag, ?_, linked.waiting⟩
  · rw [Function.update_apply]
    split
    · next same => rw [count, ← same, linked.once]
    · exact linked.once
  · intro other member
    rw [Function.update_apply] at member
    split at member
    · next same =>
        rw [← List.count_pos_iff, count, List.count_pos_iff, ← same] at member
        exact linked.elsewhere other member
    · exact linked.elsewhere other member

end Linked

namespace PoolState

variable {state after : PoolState}

/-- The queue `index` is linked as its flag says. -/
def QueueLinked (state : PoolState) (index : Nat) : Prop :=
  Linked (state.queues index).active (state.activeIndex index) (state.queues index).taskList
    (callsAt state.adders index .activating) (callsAt state.adders index .linked)
    state.activeList index

/-- What the worker visits and has still to visit is on the active list it goes through. -/
def PassLinked (state : PoolState) : Prop :=
  ∀ priority rest stage, state.worker = some ⟨priority, rest, stage⟩
    → (stage.visited ++ rest).Sublist (state.activeList priority)

/-- A queue the worker visits is active: it is on the list of the pass. -/
theorem PassLinked.active {priority index : Nat} {rest : List Nat} {stage : WorkerStage}
    (passLinked : state.PassLinked) (linked : state.QueueLinked index)
    (pass : state.worker = some ⟨priority, rest, stage⟩) (visited : stage.visited = [index])
    : index ∈ state.activeList (state.activeIndex index)
      ∧ priority = state.activeIndex index ∧ (state.queues index).active ≠ 0 := by
  have sublist := passLinked priority rest stage pass
  rw [visited] at sublist
  have member : index ∈ state.activeList priority := sublist.subset List.mem_cons_self
  obtain rfl := linked.elsewhere priority member
  have once := linked.once
  have positive := List.count_pos_iff.mpr member
  exact ⟨member, rfl, by omega⟩

/-- Every step keeps the flags right, by cases on the step. -/
theorem QueueLinked.step (linked : ∀ index, state.QueueLinked index)
    (passLinked : state.PassLinked) (step : state.Step after) (other : Nat)
    : after.QueueLinked other := by
  have here := linked other
  have moved {index : Nat} {task : TaskDesc} {stage : AdderStage} {others : List Adder}
      (calls : state.adders.Perm (⟨index, task, stage⟩ :: others))
      : Linked (state.queues other).active (state.activeIndex other)
          (state.queues other).taskList
          (callsAt (⟨index, task, stage⟩ :: others) other .activating)
          (callsAt (⟨index, task, stage⟩ :: others) other .linked) state.activeList other := by
    rw [← callsAt_perm calls, ← callsAt_perm calls]
    exact here
  cases step with
  | down index task free render =>
      by_cases same : index = other
      · subst same
        simpa [QueueLinked, setQueue, activeIndex] using here
      · simpa [QueueLinked, setQueue, activeIndex, Ne.symm same] using here
  | @linkTask index task others calls =>
      have here := moved calls
      by_cases same : index = other
      · subst same
        have put := here.put ((state.queues index).linkTask task).taskList
        simpa [QueueLinked, setQueue, activeIndex, TaskQueue.linkTask] using put
      · simpa [QueueLinked, setQueue, activeIndex, same, Ne.symm same] using here
  | @activate index task others calls inactive =>
      have here := moved calls
      by_cases same : index = other
      · subst same
        rw [inactive] at here
        have activated := here.activate (callsAt others index .linked)
        simpa [QueueLinked, setQueue, activeIndex] using activated
      · simpa [QueueLinked, setQueue, activeIndex, same, Ne.symm same] using here
  | @leave index task others calls active =>
      have here := moved calls
      by_cases same : index = other
      · subst same
        have left := here.of_active active (state.queues index).taskList
          (callsAt others index .linked)
        simpa [QueueLinked, activeIndex] using left
      · simpa [QueueLinked, activeIndex, same] using here
  | @linkQueue index task others calls unlocked =>
      have here := moved calls
      by_cases same : index = other
      · subst same
        simp only [callsAt_cons, true_and, if_true] at here
        simpa [QueueLinked, activeIndex] using here.link
      · have kept : (state.activeList (state.activeIndex index) ++ [index]).count other
            = (state.activeList (state.activeIndex index)).count other := by
          rw [List.count_append, List.count_singleton, if_neg (by simpa using same), Nat.add_zero]
        simpa [QueueLinked, activeIndex, same] using here.update_other kept
  | @spliceOut priority index rest pass =>
      by_cases same : index = other
      · subst same
        simpa [QueueLinked, setQueue, activeIndex] using here.takeOut
      · simpa [QueueLinked, setQueue, activeIndex, Ne.symm same] using here
  | @up priority index taskNum rest taskList stopped pass =>
      by_cases same : index = other
      · subst same
        simpa [QueueLinked, setQueue, activeIndex] using here
      · simpa [QueueLinked, setQueue, activeIndex, Ne.symm same] using here
  | @spliceBack priority index taskNum rest taskList stopped pass =>
      by_cases same : index = other
      · subst same
        obtain ⟨_, _, active⟩ := passLinked.active here pass rfl
        have back := here.of_active active (taskList ++ (state.queues index).taskList)
          (callsAt state.adders index .linked)
        simpa [QueueLinked, setQueue, activeIndex] using back
      · simpa [QueueLinked, setQueue, activeIndex, Ne.symm same] using here
  | @deactivate priority index rest pass empty active =>
      by_cases same : index = other
      · subst same
        obtain ⟨member, _, _⟩ := passLinked.active here pass rfl
        rw [QueueLinked, active, empty] at here
        have unlinked := here.unlink member
        simpa [QueueLinked, setQueue, activeIndex, empty] using unlinked
      · have kept : ((state.activeList (state.activeIndex index)).erase index).count other
            = (state.activeList (state.activeIndex index)).count other :=
          List.count_erase_of_ne (Ne.symm same)
        simpa [QueueLinked, setQueue, activeIndex, Ne.symm same] using here.update_other kept
  | _ => exact here

/-- Every step keeps what the worker visits on its list, by cases on the step. Calls cannot
link a queue during a pass, and the worker only takes off the queue it is done with.
-/
theorem PassLinked.step (linked : ∀ index, state.QueueLinked index)
    (passLinked : state.PassLinked) (step : state.Step after)
    : after.PassLinked := by
  intro now later stage working
  cases step with
  | linkQueue calls unlocked => cases unlocked.symm.trans working
  | schedule clock unlocked =>
      cases working
      exact .refl _
  | nextPriority pass =>
      cases working
      exact .refl _
  | endPass pass => cases working
  | spliceOut pass =>
      have sublist := passLinked _ _ _ pass
      cases working
      exact sublist
  | submit render pass =>
      have sublist := passLinked _ _ _ pass
      cases working
      exact sublist
  | stop pass =>
      have sublist := passLinked _ _ _ pass
      cases working
      exact sublist
  | drop unknown pass =>
      have sublist := passLinked _ _ _ pass
      cases working
      exact sublist
  | up pass =>
      have sublist := passLinked _ _ _ pass
      cases working
      exact sublist
  | spliceBack pass =>
      have sublist := passLinked _ _ _ pass
      cases working
      exact sublist
  | keep pass =>
      have sublist := passLinked _ _ _ pass
      cases working
      exact (List.sublist_cons_self _ _).trans sublist
  | @deactivate priority index rest pass empty active =>
      obtain ⟨_, place, _⟩ := passLinked.active (linked index) pass rfl
      have sublist := (passLinked _ _ _ pass).erase index
      cases working
      simp only [WorkerStage.visited, List.cons_append, List.nil_append,
        List.erase_cons_head] at sublist ⊢
      simpa only [← place, Function.update_self] using sublist
  | _ => exact passLinked now later stage working

/-- In every reachable state the flags are right and the worker's queues are on its list. -/
theorem linked_of_reachable (reached : system.Reachable state)
    : (∀ index, state.QueueLinked index) ∧ state.PassLinked := by
  apply reached.invariant
  · intro first begins
    obtain ⟨maxPriority, maxNum, priority, rfl⟩ := begins
    refine ⟨?_, fun _ _ _ working => by cases working⟩
    intro index
    exact ⟨rfl, Nat.zero_le _, fun _ member => absurd member List.not_mem_nil,
      fun _ nonempty => absurd rfl nonempty⟩
  · intro before action after held taken
    obtain ⟨linked, passLinked⟩ := held
    have step := step_of_next taken
    exact ⟨fun index => QueueLinked.step linked passLinked step index,
      passLinked.step linked step⟩

/-- In every reachable state a queue is at most once on an active list, the one of its
priority, and only with its flag set. A queue with tasks is on it, or a call is between
linking its task and linking the queue.
-/
theorem taskQueue_remembered (reached : system.Reachable state) (index : Nat)
    : (state.activeList (state.activeIndex index)).count index ≤ 1
      ∧ (∀ priority, index ∈ state.activeList priority
        → priority = state.activeIndex index ∧ (state.queues index).active = 1)
      ∧ ((state.queues index).taskList ≠ []
        → index ∈ state.activeList (state.activeIndex index)
          ∨ ∃ adder ∈ state.adders, adder.queue = index
            ∧ (adder.stage = .linked ∨ adder.stage = .activating)) := by
  obtain ⟨once, flag, elsewhere, waiting⟩ := (linked_of_reachable reached).1 index
  refine ⟨by omega, ?_, ?_⟩
  · intro priority member
    have place := elsewhere priority member
    rw [place] at member
    have positive := List.count_pos_iff.mpr member
    exact ⟨place, by omega⟩
  · intro nonempty
    by_cases onList : index ∈ state.activeList (state.activeIndex index)
    · exact .inl onList
    · right
      have absent := List.count_eq_zero.mpr onList
      by_cases active : (state.queues index).active = 0
      · obtain ⟨adder, member, queue, stage⟩ :=
          exists_of_callsAt_pos (waiting active nonempty)
        exact ⟨adder, member, queue, .inl stage⟩
      · obtain ⟨adder, member, queue, stage⟩ := exists_of_callsAt_pos
          (show 0 < callsAt state.adders index .activating by omega)
        exact ⟨adder, member, queue, .inr stage⟩

/-- A task comes to a queue that is active and empty, and its call has not yet looked at the
flag.
-/
def activeQueue : Option PoolState :=
  System.replay next (start 1 (fun _ => 2) fun _ => 7)
    [.down 0 ⟨.render, 1⟩, .linkTask 0, .cmpxchgActive 0, .linkQueue 0, .schedule 5,
      .spliceOut, .submit true, .up, .spliceBack, .tryDeactive, .down 0 ⟨.render, 2⟩,
      .linkTask 0]

/-- All these steps are possible. -/
theorem activeQueue_isSome : activeQueue.isSome := by decide

/-- The queue is remembered: it is still on the list of the highest priority. -/
theorem taskQueue_remembered_activeQueue
    : ((activeQueue.get activeQueue_isSome).activeList 1).count 0 ≤ 1 := by
  have reached : system.Reachable (activeQueue.get activeQueue_isSome) :=
    .replay _ ⟨1, fun _ => 2, fun _ => 7, rfl⟩ (Option.some_get activeQueue_isSome).symm
  exact (taskQueue_remembered reached 0).1

end PoolState

end Cx4Kernel.Vidsch
