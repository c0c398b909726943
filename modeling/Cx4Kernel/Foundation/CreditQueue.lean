import Mathlib.Data.List.Basic

/-! A bounded first-in first-out queue whose consumer takes the waiting elements out in bulk.
Producers need a credit for each element, and the consumer gives it back afterwards. The
queue keeps its order and its balance although the elements, their number and the credits
change at different times.
-/

namespace Cx4Kernel.Foundation

/-- The queue with its history. -/
structure CreditQueue (α : Type*) where
  /-- everything that was put in, oldest first -/
  added : List α
  /-- everything the consumer is done with, oldest first -/
  consumed : List α
  /-- what the consumer has taken out -/
  inHand : List α
  waiting : List α
  /-- the number of elements, which still counts the finished ones -/
  number : Nat
  capacity : Nat
  credits : Nat
  /-- producers that have their credit and have not put their element in -/
  admitted : Nat
  /-- elements consumed since the elements were taken out -/
  finished : Nat
  /-- credits to give back for consumed elements -/
  owed : Nat

namespace CreditQueue

variable {α : Type*}

/-- The steps of producers and of the consumer, which may put the rest of its elements back
at any time.
-/
inductive Step (queue : CreditQueue α) : CreditQueue α → Prop where
  | acquire (free : 0 < queue.credits)
    : Step queue
        { queue with credits := queue.credits - 1, admitted := queue.admitted + 1 }
  | put (element : α) {others : Nat} (admitted : queue.admitted = others + 1)
    : Step queue
        { queue with
          added := queue.added ++ [element]
          waiting := queue.waiting ++ [element]
          number := queue.number + 1
          admitted := others }
  | takeOut (empty : queue.inHand = []) (done : queue.finished = 0)
    : Step queue { queue with inHand := queue.waiting, waiting := [] }
  | consume {element : α} {rest : List α} (first : queue.inHand = element :: rest)
      (paid : queue.owed = 0)
    : Step queue
        { queue with
          consumed := queue.consumed ++ [element]
          inHand := rest
          finished := queue.finished + 1
          owed := 1 }
  | repay (owes : queue.owed = 1)
    : Step queue { queue with credits := queue.credits + 1, owed := 0 }
  | putBack (paid : queue.owed = 0)
    : Step queue
        { queue with
          inHand := []
          waiting := queue.inHand ++ queue.waiting
          number := queue.number - queue.finished
          finished := 0 }

/-- What was put in is consumed, in hand or waiting, in this order, and every unit of the
capacity is a credit, an admitted producer or an element.
-/
structure Balanced (queue : CreditQueue α) : Prop where
  history : queue.added = queue.consumed ++ (queue.inHand ++ queue.waiting)
  counted : queue.number = queue.finished + queue.inHand.length + queue.waiting.length
  spared : queue.credits + queue.admitted + queue.number + queue.owed
    = queue.capacity + queue.finished

variable {queue after : CreditQueue α}

/-- A new queue is balanced: all its capacity is credits. -/
theorem balanced_new (capacity : Nat)
    : (⟨[], [], [], [], 0, capacity, capacity, 0, 0, 0⟩ : CreditQueue α).Balanced :=
  ⟨rfl, rfl, rfl⟩

/-- Every step keeps the balance, by cases on the step. -/
theorem Balanced.step (balanced : queue.Balanced) (step : queue.Step after)
    : after.Balanced := by
  obtain ⟨history, counted, spared⟩ := balanced
  cases step with
  | acquire free => exact ⟨history, counted, by simp only; omega⟩
  | put element admitted =>
      refine ⟨?_, ?_, by simp only; omega⟩
      · simp only [history, List.append_assoc]
      · simp only [List.length_append, List.length_singleton]
        omega
  | takeOut empty done =>
      rw [empty] at history counted
      refine ⟨?_, ?_, spared⟩
      · simpa only [List.append_nil, List.nil_append] using history
      · simp only [List.length_nil] at counted ⊢
        omega
  | consume first paid =>
      rw [first] at history counted
      refine ⟨?_, ?_, by simp only; omega⟩
      · simpa only [List.append_assoc, List.cons_append, List.nil_append] using history
      · simp only [List.length_cons] at counted ⊢
        omega
  | repay owes => exact ⟨history, counted, by simp only; omega⟩
  | putBack paid =>
      refine ⟨history, ?_, by simp only; omega⟩
      simp only [List.length_nil, List.length_append]
      omega

/-- The consumed elements are the oldest ones that were put in. -/
theorem Balanced.consumed_prefix (balanced : queue.Balanced)
    : queue.consumed <+: queue.added :=
  ⟨_, balanced.history.symm⟩

/-- While the consumer has nothing out, the number is that of the waiting elements, and with
the credits and the admitted producers it makes up the capacity.
-/
theorem Balanced.at_rest (balanced : queue.Balanced) (empty : queue.inHand = [])
    (done : queue.finished = 0) (paid : queue.owed = 0)
    : queue.number = queue.waiting.length
      ∧ queue.capacity = queue.number + (queue.credits + queue.admitted) := by
  obtain ⟨_, counted, spared⟩ := balanced
  simp only [empty, List.length_nil] at counted
  omega

end CreditQueue

end Cx4Kernel.Foundation
