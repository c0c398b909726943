import Mathlib.Logic.Relation
import Cx4Kernel.Vidmm.Eviction

/-! A pass of evictions without the local list heads: the rounds of `visit` are sequences of
single attempts, each of which moves one allocation from its list to another one.
-/

namespace Cx4Kernel.Vidmm

namespace ResidentLists

variable (lists : ResidentLists) (index segmentId : Nat) (priority : AllocationPriority)

@[simp] theorem setPagable_allocation (items : List Nat)
    : (lists.setPagable segmentId priority items).allocation = lists.allocation :=
  rfl

@[simp] theorem setPagable_unpagable (items : List Nat)
    : (lists.setPagable segmentId priority items).unpagable = lists.unpagable :=
  rfl

/-- A replaced list is in one place, every other list is unchanged. -/
theorem setPagable_pagable (items : List Nat) (segment : Nat) (other : AllocationPriority)
    : (lists.setPagable segmentId priority items).pagable segment other
      = if segment = segmentId ∧ other = priority then items
        else lists.pagable segment other := by
  by_cases here : segment = segmentId
  · subst here
    by_cases same : other = priority
    · subst same
      simp [setPagable]
    · simp [setPagable, same]
  · simp [setPagable, here]

@[simp] theorem setPagable_self (items : List Nat)
    : (lists.setPagable segmentId priority items).pagable segmentId priority = items := by
  rw [setPagable_pagable, if_pos ⟨rfl, rfl⟩]

/-- Lists are equal that agree on allocations and on each list. -/
theorem ext_lists {left right : ResidentLists}
    (allocations : left.allocation = right.allocation)
    (pagables : ∀ segment other, left.pagable segment other = right.pagable segment other)
    (unpagables : left.unpagable = right.unpagable)
    : left = right := by
  obtain ⟨_, _, _⟩ := left
  obtain ⟨_, _, _⟩ := right
  obtain rfl := allocations
  obtain rfl := unpagables
  obtain rfl := funext fun segment => funext fun other => pagables segment other
  rfl

/-- A list that is replaced twice is replaced once. -/
theorem setPagable_setPagable (first last : List Nat)
    : (lists.setPagable segmentId priority first).setPagable segmentId priority last
      = lists.setPagable segmentId priority last := by
  apply ext_lists
  · rfl
  · intro segment other
    simp only [setPagable_pagable]
    split <;> rfl
  · rfl

/-- Replacing a list by itself changes nothing. -/
theorem setPagable_same
    : lists.setPagable segmentId priority (lists.pagable segmentId priority) = lists := by
  apply ext_lists
  · rfl
  · intro segment other
    rw [setPagable_pagable]
    split
    next here => rw [here.1, here.2]
    next => rfl
  · rfl

@[simp] theorem add_allocation
    : (lists.vidmmAddAllocationToSegmentResidentList index).allocation = lists.allocation := by
  unfold vidmmAddAllocationToSegmentResidentList
  dsimp only
  split <;> rfl

/-- An allocation that is not unpagable is added at the end of the list of its segment and
its priority.
-/
theorem add_pagable (pagable : (lists.allocation index).unpagable = false) (segment : Nat)
    (other : AllocationPriority)
    : (lists.vidmmAddAllocationToSegmentResidentList index).pagable segment other
      = if segment = (lists.allocation index).segmentId
            ∧ other = (lists.allocation index).priority then
          lists.pagable segment other ++ [index]
        else lists.pagable segment other := by
  unfold vidmmAddAllocationToSegmentResidentList
  simp only [pagable, Bool.false_eq_true, if_false, setPagable_pagable]
  split
  next here => rw [here.1, here.2]
  next => rfl

/-- An allocation that is not unpagable leaves the lists of unpagable ones alone. -/
theorem add_unpagable (pagable : (lists.allocation index).unpagable = false)
    : (lists.vidmmAddAllocationToSegmentResidentList index).unpagable = lists.unpagable := by
  simp [vidmmAddAllocationToSegmentResidentList, pagable]

/-- Adding to the end of a list and putting items at its front commute. -/
theorem add_setPagable_front (front : List Nat)
    : (lists.setPagable segmentId priority
          (front ++ lists.pagable segmentId priority)).vidmmAddAllocationToSegmentResidentList
        index
      = (lists.vidmmAddAllocationToSegmentResidentList index).setPagable segmentId priority
          (front
            ++ (lists.vidmmAddAllocationToSegmentResidentList index).pagable segmentId
              priority) := by
  cases listed : (lists.allocation index).unpagable with
  | true => simp [vidmmAddAllocationToSegmentResidentList, listed, setPagable]
  | false =>
      apply ext_lists
      · simp
      · intro segment other
        rw [add_pagable _ _ (by simpa using listed), setPagable_pagable, setPagable_pagable,
          add_pagable _ _ listed, add_pagable _ _ listed, setPagable_allocation]
        by_cases here : segment = segmentId ∧ other = priority
        · obtain ⟨rfl, rfl⟩ := here
          simp only [and_self, if_true]
          split <;> simp
        · simp only [here, if_false]
      · rw [add_unpagable _ _ (by simpa using listed), setPagable_unpagable,
          setPagable_unpagable, add_unpagable _ _ listed]

end ResidentLists

namespace EvictionPass

variable (outcome : Nat → PagingStatus) (segmentId : Nat) (priority : AllocationPriority)

/-- Items are put at the front of a list. -/
def splice (front : List Nat) (pass : EvictionPass) : EvictionPass :=
  { pass with
    lists :=
      pass.lists.setPagable segmentId priority
        (front ++ pass.lists.pagable segmentId priority) }

/-- One eviction of an allocation that is still on its list. -/
def attempt (pass : EvictionPass) (index : Nat) : EvictionPass :=
  evict outcome
    { pass with
      lists :=
        pass.lists.setPagable segmentId priority
          ((pass.lists.pagable segmentId priority).erase index) }
    index

/-- Evictions one after the other, until one fails or the budget is used up. -/
def attemptAll : List Nat → EvictionPass → EvictionPass
  | [], pass => pass
  | index :: rest, pass =>
      if (pass.attempt outcome segmentId priority index).done then
        pass.attempt outcome segmentId priority index
      else attemptAll rest (pass.attempt outcome segmentId priority index)

/-- The allocations of a list that may be evicted, in their order. -/
def candidates (pass : EvictionPass) (priority : AllocationPriority) : List Nat :=
  (pass.lists.pagable segmentId priority).filter fun index =>
    (pass.lists.allocation index).evictable

/-- An eviction changes the segment of its allocation only. -/
theorem evict_allocation (pass : EvictionPass) (index other : Nat)
    : ∃ segment, (pass.evict outcome index).lists.allocation other
        = { pass.lists.allocation other with segmentId := segment }
      ∧ (other ≠ index → segment = (pass.lists.allocation other).segmentId) := by
  unfold evict
  dsimp only
  split
  · by_cases same : other = index
    · subst same
      exact ⟨segmentIdInvalid, by simp [ResidentLists.setSegmentId], fun h => absurd rfl h⟩
    · exact ⟨_, by simp [ResidentLists.setSegmentId, same], fun _ => rfl⟩
  · exact ⟨_, by simp, fun _ => rfl⟩

/-- What may be evicted does not change. -/
@[simp] theorem evict_evictable (pass : EvictionPass) (index other : Nat)
    : ((pass.evict outcome index).lists.allocation other).evictable
      = (pass.lists.allocation other).evictable := by
  obtain ⟨segment, same, _⟩ := evict_allocation outcome pass index other
  rw [same]
  rfl

/-- An eviction does not touch the front of a list. -/
theorem evict_splice (front : List Nat) (pass : EvictionPass) (index : Nat)
    : (pass.splice segmentId priority front).evict outcome index
      = (pass.evict outcome index).splice segmentId priority front := by
  unfold evict splice
  dsimp only
  split
  · congr 1
    exact ResidentLists.add_setPagable_front
      (pass.lists.setSegmentId index segmentIdInvalid) index segmentId priority front
  · congr 1
    exact ResidentLists.add_setPagable_front pass.lists index segmentId priority front

/-- An attempt on an allocation in a list takes it out of the middle. -/
theorem attempt_splice {front rest : List Nat} {index : Nat} (fresh : index ∉ front)
    (pass : EvictionPass)
    : (pass.splice segmentId priority (front ++ index :: rest)).attempt outcome segmentId
        priority index
      = (pass.evict outcome index).splice segmentId priority (front ++ rest) := by
  have taken : (front ++ index :: rest ++ pass.lists.pagable segmentId priority).erase index
      = front ++ rest ++ pass.lists.pagable segmentId priority := by
    rw [List.append_assoc, List.erase_append_right _ fresh]
    simp
  rw [← evict_splice]
  unfold attempt splice
  simp only [ResidentLists.setPagable_self, ResidentLists.setPagable_setPagable, taken]

/-- The loop over a local list, once its rest is put back, is a sequence of attempts. The
front of the list holds what the loop has passed already.
-/
theorem visitList_splice (items : List Nat) (front : List Nat) (pass : EvictionPass)
    (once : (front ++ items).Nodup)
    : (visitList outcome items pass).2.splice segmentId priority
        (front ++ (visitList outcome items pass).1)
      = attemptAll outcome segmentId priority
          (items.filter fun index => (pass.lists.allocation index).evictable)
          (pass.splice segmentId priority (front ++ items)) := by
  induction items generalizing front pass with
  | nil => rfl
  | cons index rest ih =>
      have fresh : index ∉ front := fun known =>
        (List.nodup_append.mp once).2.2 index known index (.head rest) rfl
      have later : (front ++ rest).Nodup :=
        once.sublist (List.Sublist.append_left (List.sublist_cons_self index rest) front)
      cases evictable : (pass.lists.allocation index).evictable with
      | true =>
          have next := ih front (pass.evict outcome index) later
          simp only [evict_evictable] at next
          simp only [visitList, evictable, if_true, List.filter_cons_of_pos, attemptAll,
            attempt_splice outcome segmentId priority fresh]
          have same : ((pass.evict outcome index).splice segmentId priority
              (front ++ rest)).done = (pass.evict outcome index).done := rfl
          simp only [same]
          split
          next stops => rfl
          next goesOn => exact next
      | false =>
          have next := ih (front ++ [index]) pass (by simpa using once)
          simp only [List.append_assoc, List.singleton_append] at next
          simpa [visitList, evictable] using next

/-- A round over a priority is a sequence of attempts on what may be evicted there. -/
theorem visit_eq {pass : EvictionPass}
    (once : (pass.lists.pagable segmentId priority).Nodup)
    : pass.visit outcome segmentId priority
      = attemptAll outcome segmentId priority (pass.candidates segmentId priority) pass := by
  have whole := visitList_splice outcome segmentId priority
    (pass.lists.pagable segmentId priority) []
    { pass with lists := pass.lists.setPagable segmentId priority [] } once
  simp only [List.nil_append, splice, ResidentLists.setPagable_self, List.append_nil,
    ResidentLists.setPagable_setPagable, ResidentLists.setPagable_same] at whole
  exact whole

end EvictionPass

end Cx4Kernel.Vidmm
