import Mathlib.Algebra.BigOperators.Fin
import Cx4Kernel.Vidmm.EvictionBudget

/-! The retry loop of `vidmmi_create_temp_paging_allocation` for `PAGING_IN_DST`, which evicts
until the local heap has memory. It does not count the passes that return `S_OK`, so it ends
only if each of those evicts something.
-/

namespace Cx4Kernel.Vidmm

namespace EvictionPass

variable {outcome : Nat → PagingStatus} {segmentId : Nat}

/-- All listed allocations are on one list each and are not unpagable. -/
def Listed (lists : ResidentLists) : Prop :=
  ∀ {index segment priority}, index ∈ lists.pagable segment priority
    → lists.Only index segment priority ∧ (lists.allocation index).unpagable = false

/-- An attempt leaves listed allocations on one list each. -/
theorem Step.listed {before after : EvictionPass} (h : Listed before.lists)
    (taken : Step outcome segmentId before after)
    : Listed after.lists := by
  obtain ⟨priority, index, candidate, rfl⟩ := taken
  obtain ⟨only, pagable⟩ := h (List.mem_filter.mp candidate).1
  intro other segment place found
  obtain ⟨_, same, _⟩ := @attempt_allocation outcome segmentId priority before index other
  by_cases apart : other = index
  · subst apart
    have moved := @attempt_self outcome segmentId priority before other only pagable
    obtain ⟨rfl, rfl⟩ := (moved.mem_iff segment place).mp found
    exact ⟨moved, by rw [same]; exact pagable⟩
  · have known : other ∈ before.lists.pagable segment place := by
      rw [attempt_pagable only pagable, List.mem_append] at found
      rcases found with kept | added
      · split at kept
        · exact List.mem_of_mem_erase kept
        · exact kept
      · split at added
        · exact absurd (List.mem_singleton.mp added) apart
        · exact absurd added List.not_mem_nil
    obtain ⟨here, free⟩ := h known
    exact ⟨attempt_other only pagable apart here, by rw [same]; exact free⟩

/-- The number of allocations on the lists of a segment. -/
def residents (segmentId : Nat) (lists : ResidentLists) : Nat :=
  ∑ priority, (lists.pagable segmentId priority).length

/-- An attempt moves an allocation out of a segment's lists or within them. -/
theorem Step.residents {before after : EvictionPass} (notCache : segmentId ≠ segmentIdInvalid)
    (h : Listed before.lists) (taken : Step outcome segmentId before after)
    : residents segmentId after.lists + after.evicted.length
      = residents segmentId before.lists + before.evicted.length := by
  obtain ⟨priority, index, candidate, rfl⟩ := taken
  have found := (List.mem_filter.mp candidate).1
  obtain ⟨only, pagable⟩ := h found
  have lengths : ∀ place,
      ((before.attempt outcome segmentId priority index).lists.pagable segmentId place).length
          + (if place = priority then 1 else 0)
        = (before.lists.pagable segmentId place).length
          + (if place = (before.lists.allocation index).priority then
              if outcome before.attempts.length = .ok then 0 else 1
            else 0) := by
    intro place
    rw [attempt_pagable only pagable, List.length_append]
    have taken : (if segmentId = segmentId ∧ place = priority then
        (before.lists.pagable segmentId place).erase index
        else before.lists.pagable segmentId place).length + (if place = priority then 1 else 0)
        = (before.lists.pagable segmentId place).length := by
      by_cases here : place = priority
      · subst here
        rw [if_pos ⟨rfl, rfl⟩, if_pos rfl, List.length_erase_of_mem found]
        exact Nat.sub_add_cancel (List.length_pos_of_mem found)
      · rw [if_neg fun both => here both.2, if_neg here]
        rfl
    have added : (if segmentId = target outcome segmentId before
        ∧ place = (before.lists.allocation index).priority then [index] else []).length
        = if place = (before.lists.allocation index).priority then
            if outcome before.attempts.length = .ok then 0 else 1
          else 0 := by
      unfold target
      by_cases ends : outcome before.attempts.length = .ok
      · simp [ends, notCache]
      · by_cases here : place = (before.lists.allocation index).priority <;> simp [ends, here]
    omega
  have whole := Finset.sum_congr (rfl : (Finset.univ : Finset AllocationPriority) = _)
    fun place _ => lengths place
  rw [Finset.sum_add_distrib, Finset.sum_add_distrib, Finset.sum_ite_eq', Finset.sum_ite_eq',
    if_pos (Finset.mem_univ _), if_pos (Finset.mem_univ _)] at whole
  unfold EvictionPass.residents
  rw [attempt_evicted]
  split at whole
  next ends => rw [if_pos ends, List.length_append, List.length_singleton]; omega
  next ends => rw [if_neg ends]; omega

/-- Both hold after any number of attempts, by induction on them. -/
theorem Step.run {before after : EvictionPass} (notCache : segmentId ≠ segmentIdInvalid)
    (h : Listed before.lists)
    (taken : Relation.ReflTransGen (Step outcome segmentId) before after)
    : Listed after.lists
      ∧ EvictionPass.residents segmentId after.lists + after.evicted.length
        = EvictionPass.residents segmentId before.lists + before.evicted.length := by
  induction taken with
  | refl => exact ⟨h, rfl⟩
  | tail _ last ih =>
      obtain ⟨listed, kept⟩ := ih
      exact ⟨last.listed listed, (last.residents notCache listed).trans kept⟩

end EvictionPass

namespace SegmentState

open EvictionPass

variable (segment : SegmentState) (outcome : Nat → PagingStatus)

/-- The listed allocations of a state are on one list each. -/
theorem isListed : Listed segment.toResidentLists :=
  fun listed => ⟨segment.only listed, (segment.listed listed).2.1⟩

/-- A pass leaves listed allocations on one list each, and takes from the segment's lists
what it evicts.
-/
theorem unresident_residents
    : Listed (segment.unresident outcome).lists
      ∧ residents segment.segmentId (segment.unresident outcome).lists
          + (segment.unresident outcome).evicted.length
        = residents segment.segmentId segment.toResidentLists := by
  cases isLocal : segment.isLocal with
  | false =>
      unfold unresident vidmmiSegmentUnresidentAllocations
      rw [isLocal]
      exact ⟨segment.isListed, rfl⟩
  | true =>
      rw [unresident_local isLocal]
      exact Step.run segment.notCache segment.isListed (Traced.start.visitAll_steps _)

/-- The segment after a pass. -/
def after : SegmentState where
  toResidentLists := (segment.unresident outcome).lists
  segmentId := segment.segmentId
  isLocal := segment.isLocal
  notCache := segment.notCache
  once place priority := by
    rw [List.nodup_iff_count_le_one]
    intro index
    by_cases found : index ∈ (segment.unresident outcome).lists.pagable place priority
    · rw [((segment.unresident_residents outcome).1 found).1.count, if_pos ⟨rfl, rfl⟩]
    · rw [List.count_eq_zero_of_not_mem found]
      exact Nat.zero_le 1
  alone := by
    intro place other priority another index first second
    exact (((segment.unresident_residents outcome).1 second).1.mem_iff _ _).mp first
  listed found :=
    have h := (segment.unresident_residents outcome).1 found
    ⟨h.1.segmentId, h.2, h.1.pagable⟩

/-- A pass reports success only after an eviction, unless there is nothing to evict in a
local segment.
-/
theorem ok_evicts_iff
    : ((segment.unresident outcome).ret = .ok → (segment.unresident outcome).evicted ≠ [])
      ↔ (segment.isLocal = true → ∃ priority, segment.candidates priority ≠ []) := by
  constructor
  · intro evicts isLocal
    apply Classical.byContradiction
    intro nothing
    have start : Traced segment outcome segment.started := Traced.start
    have idle : segment.unresident outcome = segment.started := by
      rw [unresident_local isLocal]
      exact start.visitAll_quiet _ fun priority _ =>
        Decidable.not_not.mp fun more => nothing ⟨priority, more⟩
    rw [idle] at evicts
    exact evicts rfl rfl
  · intro items ok
    cases isLocal : segment.isLocal with
    | false =>
        unfold unresident vidmmiSegmentUnresidentAllocations at ok
        rw [isLocal] at ok
        cases ok
    | true =>
        obtain ⟨priority, some⟩ := items isLocal
        have traced : Traced segment outcome _ := unresident_traced isLocal
        have tried := (@Traced.start outcome segment).visitAll_again
          (List.nodup_finRange pAll) (List.mem_finRange priority) some
        rw [← started, ← unresident_local isLocal] at tried
        obtain ⟨number, length⟩ := Nat.exists_eq_add_of_lt tried
        have ends : outcome number = .ok := by
          have ret := traced.ret_eq (by simpa [started] using length)
          exact ret.symm.trans ok
        have last : PagingStatus.ok ∈ (segment.unresident outcome).attempts.map Prod.snd := by
          rw [traced.ends, List.mem_map]
          exact ⟨number, List.mem_range.mpr (by simp [started] at length; omega), ends⟩
        obtain ⟨⟨index, _⟩, member, rfl⟩ := List.mem_map.mp last
        exact List.ne_nil_of_mem (mem_evicted.mpr member)

end SegmentState

-----------------------------------------------------------------------------------------
-- The retry loop
-----------------------------------------------------------------------------------------

/-- The loop before a pass: the segment, `try_times` and the number of passes so far. -/
structure RetryState where
  segment : SegmentState
  tryTimes : Nat
  passes : Nat

/-- When `vidmmi_allocate_fb_memory_try` finds memory, at first and after each pass, and how
the evictions of each pass end.
-/
structure RetryOracle where
  allocatesFirst : Bool
  allocates : Nat → Bool
  outcome : Nat → Nat → PagingStatus

open EvictionPass

namespace RetryState

variable (oracle : RetryOracle)

/-- The pass the loop makes next. -/
def pass (state : RetryState) : EvictionPass :=
  state.segment.unresident (oracle.outcome state.passes)

/-- One turn of the loop: on to `try_again`, or out with memory or without. -/
def turn (state : RetryState) : RetryState ⊕ Bool :=
  let next := state.segment.after (oracle.outcome state.passes)
  if oracle.allocates state.passes then .inr true
  else if (state.pass oracle).ret = .ok then .inl ⟨next, state.tryTimes, state.passes + 1⟩
  else if state.tryTimes < 100 then .inl ⟨next, state.tryTimes + 1, state.passes + 1⟩
  else .inr false

/-- The loop for a number of passes: whether it ends with memory, if it ends. -/
def loop : Nat → RetryState → Option Bool
  | 0, _ => none
  | fuel + 1, state =>
      match state.turn oracle with
      | .inl next => loop fuel next
      | .inr found => some found

/-- The state before a pass, if the loop goes on so long. -/
def before (state : RetryState) : Nat → Option RetryState
  | 0 => some state
  | passes + 1 => (state.before passes).bind fun earlier => (earlier.turn oracle).getLeft?

/-- A turn is followed by the passes of the state after it, by induction on their number. -/
theorem before_turn {state next : RetryState} (turns : state.turn oracle = .inl next)
    (passes : Nat)
    : state.before oracle (passes + 1) = next.before oracle passes := by
  induction passes with
  | zero => simp [before, turns]
  | succ passes ih =>
      rw [before, ih]
      rfl

/-- What bounds the loop: allocations to evict and failures to count. -/
def measure (state : RetryState) : Nat :=
  residents state.segment.segmentId state.segment.toResidentLists + (100 - state.tryTimes)

/-- The next pass of the loop has something to evict, or none is possible at all. -/
def Supplied (state : RetryState) : Prop :=
  state.segment.isLocal = true → ∃ priority, state.segment.candidates priority ≠ []

/-- A turn with something to evict comes closer to the end. -/
theorem turn_measure {state next : RetryState} (supplied : state.Supplied)
    (turns : state.turn oracle = .inl next)
    : next.measure < state.measure := by
  have kept := (state.segment.unresident_residents (oracle.outcome state.passes)).2
  have evicts := (state.segment.ok_evicts_iff (oracle.outcome state.passes)).mpr supplied
  unfold turn at turns
  dsimp only at turns
  split at turns
  next => cases turns
  next =>
    split at turns
    next ok =>
      obtain rfl := Sum.inl.inj turns
      have some := List.length_pos_iff.mpr (evicts ok)
      simp only [measure, SegmentState.after]
      omega
    next =>
      split at turns
      next more =>
        obtain rfl := Sum.inl.inj turns
        simp only [measure, SegmentState.after]
        omega
      next => cases turns

/-- A loop whose passes all have something to evict ends, by induction on the passes left. -/
theorem loop_ends (fuel : Nat) {state : RetryState} (enough : state.measure < fuel)
    (supplied : ∀ {passes later}, state.before oracle passes = some later → later.Supplied)
    : (loop oracle fuel state).isSome := by
  induction fuel generalizing state with
  | zero => exact absurd enough (Nat.not_lt_zero _)
  | succ fuel ih =>
      rw [loop]
      cases turns : state.turn oracle with
      | inr found => rfl
      | inl next =>
          have closer := turn_measure oracle (@supplied 0 state rfl) turns
          apply ih (Nat.lt_of_lt_of_le closer (Nat.le_of_lt_succ enough))
          intro passes later reached
          rw [← before_turn oracle turns] at reached
          exact supplied reached

end RetryState

/-- `PAGING_IN_DST` of `vidmmi_create_temp_paging_allocation` without memory to restore: the
memory found or `NULL`, if it takes no more passes than given.
-/
def vidmmiCreateTempPagingAllocation (segment : SegmentState) (oracle : RetryOracle)
    (passes : Nat) : Option Bool :=
  if oracle.allocatesFirst then some true else RetryState.loop oracle passes ⟨segment, 0, 0⟩

namespace SegmentState

variable (segment : SegmentState) (oracle : RetryOracle)

/-- A pass of the retry loop, by what is there before it. -/
def Passes (passes : Nat) (state : RetryState) : Prop :=
  oracle.allocatesFirst = false ∧ RetryState.before oracle ⟨segment, 0, 0⟩ passes = some state

/-- Passes that report success evicted something, and the loop ends after as many retries as
there are pagable allocations, and 100 more.
-/
def RetryEnds : Prop :=
  (∀ {passes state}, segment.Passes oracle passes state → (state.pass oracle).ret = .ok
    → (state.pass oracle).evicted ≠ [])
  ∧ (vidmmiCreateTempPagingAllocation segment oracle
      (residents segment.segmentId segment.toResidentLists + 100 + 1)).isSome

/-- The retry loop ends as it should exactly if each of its passes finds something to evict,
or is refused.
-/
theorem retryEnds_iff
    : segment.RetryEnds oracle
      ↔ ∀ {passes state}, segment.Passes oracle passes state → state.Supplied := by
  constructor
  · intro ends passes state reached
    exact (state.segment.ok_evicts_iff _).mp (ends.1 reached)
  · intro supplied
    refine ⟨fun reached => (SegmentState.ok_evicts_iff _ _).mpr (supplied reached), ?_⟩
    unfold vidmmiCreateTempPagingAllocation
    split
    next => rfl
    next refused =>
      apply RetryState.loop_ends
      · exact Nat.lt_succ_self _
      · intro passes later reached
        exact supplied ⟨Bool.eq_false_iff.mpr refused, reached⟩

/-- A local segment without allocations. -/
def nothingListed : SegmentState where
  allocation _ := ⟨4096, pDiscard, 1, 0, false, false⟩
  pagable _ _ := []
  unpagable _ := []
  segmentId := 1
  isLocal := true
  notCache := nofun
  once _ _ := List.nodup_nil
  alone found := absurd found List.not_mem_nil
  listed found := absurd found List.not_mem_nil

/-- A pass that leaves the lists as they are leaves the segment as it is. -/
theorem after_of_lists {outcome : Nat → PagingStatus}
    (same : (segment.unresident outcome).lists = segment.toResidentLists)
    : segment.after outcome = segment := by
  obtain ⟨_, _, _, _, _, _, _⟩ := segment
  simp only [after, mk.injEq, and_true]
  exact same

/-- A heap that never has memory, with evictions that would all succeed. -/
def noMemory : RetryOracle := ⟨false, fun _ => false, fun _ _ => .ok⟩

/-- Without anything to evict and without memory the loop never ends. -/
theorem nothingListed_never_ends
    : ¬ (∀ (segment : SegmentState) oracle, segment.RetryEnds oracle)
      ∧ ∀ passes, vidmmiCreateTempPagingAllocation nothingListed noMemory passes = none := by
  have idle : nothingListed.unresident (fun _ => .ok) = nothingListed.started := by
    rw [unresident_local rfl]
    exact Traced.start.visitAll_quiet _ fun _ _ => rfl
  constructor
  · intro ends
    have evicts := @(ends nothingListed noMemory).1 0 _ ⟨rfl, rfl⟩
    rw [RetryState.pass, show noMemory.outcome 0 = fun _ => PagingStatus.ok from rfl, idle]
      at evicts
    exact evicts rfl rfl
  · have forever : ∀ fuel passes,
        RetryState.loop noMemory fuel ⟨nothingListed, 0, passes⟩ = none := by
      intro fuel
      induction fuel with
      | zero => exact fun _ => rfl
      | succ fuel ih =>
          intro passes
          have same : nothingListed.after (fun _ => .ok) = nothingListed :=
            after_of_lists nothingListed (by rw [idle]; rfl)
          have again : RetryState.turn noMemory ⟨nothingListed, 0, passes⟩
              = .inl ⟨nothingListed, 0, passes + 1⟩ := by
            unfold RetryState.turn RetryState.pass
            simp only [noMemory, same, idle, started, if_true, Bool.false_eq_true, if_false]
          rw [RetryState.loop, again]
          exact ih (passes + 1)
    exact fun passes => forever passes 0

end SegmentState

end Cx4Kernel.Vidmm
