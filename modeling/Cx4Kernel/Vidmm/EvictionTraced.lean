import Mathlib.Data.BitVec
import Cx4Kernel.Vidmm.EvictionSteps

/-! What holds after any number of eviction attempts of a pass: where each allocation is, and
what the variables of the pass say about the attempts so far.
-/

namespace Cx4Kernel.Vidmm

/-- An allocation is on one list, once, and knows the segment of the list. -/
structure ResidentLists.Only (lists : ResidentLists) (index segment : Nat)
    (priority : AllocationPriority) : Prop where
  count : ∀ other another, (lists.pagable other another).count index
    = if other = segment ∧ another = priority then 1 else 0
  pagable : ∀ other, index ∉ lists.unpagable other
  segmentId : (lists.allocation index).segmentId = segment

/-- Being on one list names the list. -/
theorem ResidentLists.Only.mem_iff {lists : ResidentLists} {index segment : Nat}
    {priority : AllocationPriority} (only : lists.Only index segment priority)
    (other : Nat) (another : AllocationPriority)
    : index ∈ lists.pagable other another ↔ other = segment ∧ another = priority := by
  rw [← List.count_pos_iff, only.count]
  split
  next here => exact ⟨fun _ => here, fun _ => Nat.one_pos⟩
  next away => exact ⟨fun h => absurd h (Nat.lt_irrefl 0), fun here => absurd here away⟩

/-- The listed allocations are on one list each. -/
theorem SegmentState.only (segment : SegmentState) {place : Nat}
    {priority : AllocationPriority} {index : Nat}
    (listed : index ∈ segment.pagable place priority)
    : segment.Only index place priority where
  count other another := by
    split
    next here =>
      obtain ⟨rfl, rfl⟩ := here
      exact List.count_eq_one_of_mem (segment.once _ _) listed
    next away =>
      apply List.count_eq_zero_of_not_mem
      intro found
      exact away (segment.alone found listed)
  pagable := (segment.listed listed).2.2
  segmentId := (segment.listed listed).1

/-- The sizes of some allocations, added up. -/
def ResidentLists.total (lists : ResidentLists) (items : List Nat) : Nat :=
  (items.map fun index => (lists.allocation index).size.toNat).sum

namespace EvictionPass

variable {outcome : Nat → PagingStatus} {segmentId : Nat} {priority : AllocationPriority}

/-- An attempt is noted with its end. -/
theorem attempt_attempts (pass : EvictionPass) (index : Nat)
    : (pass.attempt outcome segmentId priority index).attempts
      = pass.attempts ++ [(index, outcome pass.attempts.length)] := by
  unfold attempt evict
  dsimp only
  split <;> rfl

/-- An attempt sets the result to its end. -/
theorem attempt_ret (pass : EvictionPass) (index : Nat)
    : (pass.attempt outcome segmentId priority index).ret = outcome pass.attempts.length := by
  unfold attempt evict
  dsimp only
  split
  next ends => exact ends.symm ▸ rfl
  next => rfl

/-- A successful attempt adds an allocation to those evicted. -/
theorem attempt_evicted (pass : EvictionPass) (index : Nat)
    : (pass.attempt outcome segmentId priority index).evicted
      = if outcome pass.attempts.length = .ok then pass.evicted ++ [index]
        else pass.evicted := by
  unfold evicted
  rw [attempt_attempts, List.filter_append, List.map_append]
  split
  next ends => simp [ends]
  next ends => simp [ends]

/-- A successful attempt adds the size of its allocation to the sum. -/
theorem attempt_unresidentSize (pass : EvictionPass) (index : Nat)
    : (pass.attempt outcome segmentId priority index).unresidentSize
      = if outcome pass.attempts.length = .ok then
          pass.unresidentSize + (pass.lists.allocation index).size.setWidth 32
        else pass.unresidentSize := by
  unfold attempt evict
  dsimp only
  split <;> rfl

/-- An attempt changes the segment of its allocation only. -/
theorem attempt_allocation (pass : EvictionPass) (index other : Nat)
    : ∃ segment, (pass.attempt outcome segmentId priority index).lists.allocation other
        = { pass.lists.allocation other with segmentId := segment }
      ∧ (other ≠ index → segment = (pass.lists.allocation other).segmentId) :=
  evict_allocation outcome _ index other

/-- What may be evicted does not change. -/
@[simp] theorem attempt_evictable (pass : EvictionPass) (index other : Nat)
    : ((pass.attempt outcome segmentId priority index).lists.allocation other).evictable
      = (pass.lists.allocation other).evictable :=
  evict_evictable outcome _ index other

/-- The segment whose list an attempt ends on. -/
def target (outcome : Nat → PagingStatus) (segmentId : Nat) (pass : EvictionPass) : Nat :=
  if outcome pass.attempts.length = .ok then segmentIdInvalid else segmentId

variable {pass : EvictionPass} {index : Nat}

/-- An attempt moves its allocation to the end of the list of its priority, of the cache or
of its segment.
-/
theorem attempt_pagable (only : pass.lists.Only index segmentId priority)
    (pagable : (pass.lists.allocation index).unpagable = false) (segment : Nat)
    (other : AllocationPriority)
    : (pass.attempt outcome segmentId priority index).lists.pagable segment other
      = (if segment = segmentId ∧ other = priority then
            (pass.lists.pagable segment other).erase index
          else pass.lists.pagable segment other)
        ++ if segment = target outcome segmentId pass
              ∧ other = (pass.lists.allocation index).priority then [index] else [] := by
  have erased : ∀ segment other, (pass.lists.setPagable segmentId priority
      ((pass.lists.pagable segmentId priority).erase index)).pagable segment other
      = if segment = segmentId ∧ other = priority then
          (pass.lists.pagable segment other).erase index
        else pass.lists.pagable segment other := by
    intro segment other
    rw [ResidentLists.setPagable_pagable]
    split
    next here => rw [here.1, here.2]
    next => rfl
  unfold attempt evict target
  dsimp only
  split
  next ends =>
    rw [ResidentLists.add_pagable _ _ (by simpa [ResidentLists.setSegmentId] using pagable)]
    simp only [ResidentLists.setSegmentId, Function.update_self,
      ResidentLists.setPagable_allocation]
    change (if _ then (ResidentLists.pagable _ segment other) ++ [index]
      else ResidentLists.pagable _ segment other) = _
    rw [erased]
    split <;> simp
  next ends =>
    rw [ResidentLists.add_pagable _ _ (by simpa using pagable), erased,
      ResidentLists.setPagable_allocation, only.segmentId]
    split <;> simp

/-- An attempt leaves the lists of unpagable allocations alone. -/
theorem attempt_unpagable (pagable : (pass.lists.allocation index).unpagable = false)
    : (pass.attempt outcome segmentId priority index).lists.unpagable
      = pass.lists.unpagable := by
  unfold attempt evict
  dsimp only
  split
  · rw [ResidentLists.add_unpagable _ _ (by simpa [ResidentLists.setSegmentId] using pagable)]
    rfl
  · rw [ResidentLists.add_unpagable _ _ (by simpa using pagable)]
    rfl

/-- An attempt leaves its allocation on one list, that of its priority. -/
theorem attempt_self (only : pass.lists.Only index segmentId priority)
    (pagable : (pass.lists.allocation index).unpagable = false)
    : (pass.attempt outcome segmentId priority index).lists.Only index
        (target outcome segmentId pass) (pass.lists.allocation index).priority where
  count other another := by
    have gone : (if other = segmentId ∧ another = priority then
        (pass.lists.pagable other another).erase index
        else pass.lists.pagable other another).count index = 0 := by
      split
      next here => rw [List.count_erase_self, only.count, if_pos here]
      next away => rw [only.count, if_neg away]
    rw [attempt_pagable only pagable, List.count_append, gone]
    split <;> simp
  pagable other := by
    rw [attempt_unpagable pagable]
    exact only.pagable other
  segmentId := by
    unfold attempt evict target
    dsimp only
    split
    · simp [ResidentLists.setSegmentId]
    · simpa using only.segmentId

/-- An attempt leaves the place of every other allocation alone. -/
theorem attempt_other (only : pass.lists.Only index segmentId priority)
    (pagable : (pass.lists.allocation index).unpagable = false) {other : Nat}
    (apart : other ≠ index) {segment : Nat} {another : AllocationPriority}
    (kept : pass.lists.Only other segment another)
    : (pass.attempt outcome segmentId priority index).lists.Only other segment another where
  count place level := by
    rw [attempt_pagable only pagable, List.count_append, ← kept.count place level]
    have added : ∀ condition : Prop, [Decidable condition] →
        (if condition then [index] else []).count other = 0 := by
      intro condition _
      split
      · simp [apart.symm]
      · rfl
    rw [added, Nat.add_zero]
    split
    · exact List.count_erase_of_ne apart
    · rfl
  pagable place := by
    rw [attempt_unpagable pagable]
    exact kept.pagable place
  segmentId := by
    obtain ⟨_, same, still⟩ :=
      @attempt_allocation outcome segmentId priority pass index other
    rw [same]
    exact (still apart).trans kept.segmentId

-----------------------------------------------------------------------------------------
-- Runs of attempts
-----------------------------------------------------------------------------------------

/-- One attempt of a pass, on something that may be evicted from one of the segment's lists. -/
def Step (outcome : Nat → PagingStatus) (segmentId : Nat) (before after : EvictionPass)
    : Prop :=
  ∃ priority, ∃ index ∈ before.candidates segmentId priority,
    after = before.attempt outcome segmentId priority index

/-- What attempts on the lists of a segment leave behind: every allocation on one list, with
the list given by what was tried on it, and the variables of the pass.
-/
structure Traced (segment : SegmentState) (outcome : Nat → PagingStatus)
    (pass : EvictionPass) : Prop where
  same : ∀ index, ∃ other, pass.lists.allocation index
    = { segment.allocation index with segmentId := other }
  ends : pass.attempts.map Prod.snd = (List.range pass.attempts.length).map outcome
  ret : pass.ret = (pass.attempts.getLast?.map Prod.snd).getD .ok
  size : pass.unresidentSize = BitVec.ofNat 32 (segment.total pass.evicted)
  safe : ∀ attempt ∈ pass.attempts, (segment.allocation attempt.1).evictable = true
  found : ∀ {index priority}, index ∈ pass.lists.pagable segment.segmentId priority
    → ∃ before, index ∈ segment.pagable segment.segmentId before
  evicted : ∀ {index priority}, index ∈ segment.pagable segment.segmentId priority
    → (index, .ok) ∈ pass.attempts
    → pass.lists.Only index segmentIdInvalid (segment.allocation index).priority
  failed : ∀ {index priority}, index ∈ segment.pagable segment.segmentId priority
    → (index, .ok) ∉ pass.attempts → index ∈ pass.attempts.map Prod.fst
    → pass.lists.Only index segment.segmentId (segment.allocation index).priority
  untried : ∀ {index priority}, index ∈ segment.pagable segment.segmentId priority
    → index ∉ pass.attempts.map Prod.fst
    → pass.lists.Only index segment.segmentId priority

namespace Traced

variable {segment : SegmentState}

/-- A pass that tried nothing yet. -/
theorem start : Traced segment outcome ⟨segment.toResidentLists, .ok, 0, []⟩ where
  same _ := ⟨_, rfl⟩
  ends := rfl
  ret := rfl
  size := rfl
  safe := by simp
  found listed := ⟨_, listed⟩
  evicted _ tried := absurd tried List.not_mem_nil
  failed _ _ tried := absurd tried List.not_mem_nil
  untried listed _ := segment.only listed

/-- An allocation on one of the segment's lists was not evicted and is on no other list. -/
theorem listed (traced : Traced segment outcome pass) {priority : AllocationPriority}
    (found : index ∈ pass.lists.pagable segment.segmentId priority)
    : (index, .ok) ∉ pass.attempts
      ∧ pass.lists.Only index segment.segmentId priority := by
  obtain ⟨before, known⟩ := traced.found found
  have remains : (index, .ok) ∉ pass.attempts := by
    intro tried
    exact segment.notCache (((traced.evicted known tried).mem_iff _ _).mp found).1
  refine ⟨remains, ?_⟩
  by_cases tried : index ∈ pass.attempts.map Prod.fst
  · have only := traced.failed known remains tried
    rwa [((only.mem_iff _ _).mp found).2]
  · have only := traced.untried known tried
    rwa [((only.mem_iff _ _).mp found).2]

/-- Listed allocations are not unpagable. -/
theorem unpagable (traced : Traced segment outcome pass) {priority : AllocationPriority}
    (found : index ∈ pass.lists.pagable segment.segmentId priority)
    : (pass.lists.allocation index).unpagable = false := by
  obtain ⟨before, known⟩ := traced.found found
  obtain ⟨other, same⟩ := traced.same index
  rw [same]
  exact (segment.listed known).2.1

/-- The size that an attempt adds to the sum is that of the allocation. -/
theorem sum (traced : Traced segment outcome pass)
    : pass.unresidentSize + (pass.lists.allocation index).size.setWidth 32
      = BitVec.ofNat 32 (segment.total (pass.evicted ++ [index])) := by
  obtain ⟨other, same⟩ := traced.same index
  rw [traced.size, same]
  apply BitVec.eq_of_toNat_eq
  simp [ResidentLists.total]

/-- An attempt keeps track of everything. -/
theorem step (traced : Traced segment outcome pass) {after : EvictionPass}
    (taken : Step outcome segment.segmentId pass after)
    : Traced segment outcome after := by
  obtain ⟨priority, index, candidate, rfl⟩ := taken
  obtain ⟨found, evictable⟩ := List.mem_filter.mp candidate
  obtain ⟨remains, only⟩ := traced.listed found
  have pagable := traced.unpagable found
  obtain ⟨before, known⟩ := traced.found found
  obtain ⟨_, priorities⟩ := traced.same index
  have moved := @attempt_self outcome _ _ _ _ only pagable
  have priority_same : (pass.lists.allocation index).priority
      = (segment.allocation index).priority := by rw [priorities]
  rw [priority_same] at moved
  -- what the attempts say about an allocation that was not the one tried
  have noted : ∀ {other} status, other ≠ index →
      ((other, status) ∈ (pass.attempt outcome segment.segmentId priority index).attempts
        ↔ (other, status) ∈ pass.attempts) := by
    intro other status apart
    rw [attempt_attempts]
    simp [apart]
  have tried : ∀ {other}, other ≠ index →
      (other ∈ (pass.attempt outcome segment.segmentId priority index).attempts.map Prod.fst
        ↔ other ∈ pass.attempts.map Prod.fst) := by
    intro other apart
    rw [attempt_attempts]
    simp [apart]
  have outcomes : (index, .ok)
      ∈ (pass.attempt outcome segment.segmentId priority index).attempts
      ↔ outcome pass.attempts.length = .ok := by
    rw [attempt_attempts]
    simp [remains, eq_comm]
  refine ⟨?same, ?ends, ?ret, ?size, ?safe, ?found, ?evicted, ?failed, ?untried⟩
  case same =>
    intro other
    obtain ⟨_, changed, _⟩ :=
      @attempt_allocation outcome segment.segmentId priority pass index other
    obtain ⟨_, same⟩ := traced.same other
    exact ⟨_, by rw [changed, same]⟩
  case ends =>
    rw [attempt_attempts, List.map_append, traced.ends, List.length_append,
      List.length_singleton, List.range_succ, List.map_append]
    rfl
  case ret =>
    rw [attempt_ret, attempt_attempts, List.getLast?_concat]
    rfl
  case size =>
    rw [attempt_unresidentSize, attempt_evicted]
    split
    · exact traced.sum
    · exact traced.size
  case safe =>
    intro attempt member
    rw [attempt_attempts] at member
    rcases List.mem_append.mp member with earlier | last
    · exact traced.safe attempt earlier
    · rw [List.mem_singleton.mp last]
      rw [priorities] at evictable
      exact evictable
  case found =>
    intro other place listed
    by_cases apart : other = index
    · exact apart ▸ ⟨before, known⟩
    · rw [attempt_pagable only pagable, List.mem_append] at listed
      rcases listed with kept | added
      · split at kept
        · exact traced.found (List.mem_of_mem_erase kept)
        · exact traced.found kept
      · split at added
        · exact absurd (List.mem_singleton.mp added) apart
        · exact absurd added List.not_mem_nil
  case evicted =>
    intro other place listed member
    by_cases apart : other = index
    · subst apart
      have ends := outcomes.mp member
      simpa [target, ends] using moved
    · exact attempt_other only pagable apart
        (traced.evicted listed ((noted .ok apart).mp member))
  case failed =>
    intro other place listed missing member
    by_cases apart : other = index
    · subst apart
      have ends : outcome pass.attempts.length ≠ .ok := fun h => missing (outcomes.mpr h)
      rwa [target, if_neg ends] at moved
    · exact attempt_other only pagable apart
        (traced.failed listed (fun h => missing ((noted .ok apart).mpr h))
          ((tried apart).mp member))
  case untried =>
    intro other place listed missing
    by_cases apart : other = index
    · subst apart
      exact absurd (by rw [attempt_attempts]; simp) missing
    · exact attempt_other only pagable apart
        (traced.untried listed (fun h => missing ((tried apart).mpr h)))

/-- Any number of attempts keeps track of everything, by induction on the attempts. -/
theorem run (traced : Traced segment outcome pass) {after : EvictionPass}
    (taken : Relation.ReflTransGen (Step outcome segment.segmentId) pass after)
    : Traced segment outcome after := by
  induction taken with
  | refl => exact traced
  | tail _ last ih => exact ih.step last

end Traced

/-- Something on a list of the segment other than the one tried stays there. -/
theorem attempt_keeps {other : Nat} (apart : other ≠ index) {place : AllocationPriority}
    (only : pass.lists.Only index segmentId priority)
    (pagable : (pass.lists.allocation index).unpagable = false)
    (listed : other ∈ pass.candidates segmentId place)
    : other ∈ (pass.attempt outcome segmentId priority index).candidates segmentId place := by
  obtain ⟨found, evictable⟩ := List.mem_filter.mp listed
  refine List.mem_filter.mpr ⟨?_, by rw [attempt_evictable]; exact evictable⟩
  rw [attempt_pagable only pagable]
  apply List.mem_append_left
  split
  · exact (List.mem_erase_of_ne apart).mpr found
  · exact found

end EvictionPass

end Cx4Kernel.Vidmm
