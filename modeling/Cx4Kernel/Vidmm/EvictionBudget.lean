import Mathlib.Algebra.Order.Group.Nat
import Cx4Kernel.Vidmm.EvictionTraced

/-! What a pass of evictions may be relied on for: no allocation is lost, the budget stops it
and a failure is reported. The exact segment states where that is so are those with one list
of evictable allocations.
-/

namespace Cx4Kernel.Vidmm

namespace EvictionPass

variable {outcome : Nat → PagingStatus} {segment : SegmentState} {pass : EvictionPass}
variable {priority : AllocationPriority}

-----------------------------------------------------------------------------------------
-- One round
-----------------------------------------------------------------------------------------

/-- Attempts on what may be evicted from a list are steps, by induction on those left. -/
theorem attemptAll_steps (traced : Traced segment outcome pass) (items : List Nat)
    (once : items.Nodup)
    (listed : ∀ index ∈ items, index ∈ pass.candidates segment.segmentId priority)
    : Relation.ReflTransGen (Step outcome segment.segmentId) pass
        (attemptAll outcome segment.segmentId priority items pass) := by
  induction items generalizing pass with
  | nil => exact .refl
  | cons index rest ih =>
      have taken : Step outcome segment.segmentId pass
          (pass.attempt outcome segment.segmentId priority index) :=
        ⟨priority, index, listed index (.head rest), rfl⟩
      have found := (List.mem_filter.mp (listed index (.head rest))).1
      rw [attemptAll]
      split
      next stops => exact .single taken
      next goesOn =>
        refine .head taken (ih (traced.step taken) once.of_cons ?_)
        intro other member
        have apart : other ≠ index := fun same =>
          (List.nodup_cons.mp once).1 (same ▸ member)
        exact attempt_keeps apart (traced.listed found).2 (traced.unpagable found)
          (listed other (.tail _ member))

/-- The lists of the segment hold nothing twice. -/
theorem Traced.nodup (traced : Traced segment outcome pass)
    : (pass.lists.pagable segment.segmentId priority).Nodup := by
  rw [List.nodup_iff_count_le_one]
  intro index
  by_cases found : index ∈ pass.lists.pagable segment.segmentId priority
  · rw [(traced.listed found).2.count, if_pos ⟨rfl, rfl⟩]
  · rw [List.count_eq_zero_of_not_mem found]
    exact Nat.zero_le 1

/-- A round is the attempts on what may be evicted from its list. -/
theorem Traced.visit_eq (traced : Traced segment outcome pass)
    : pass.visit outcome segment.segmentId priority
      = attemptAll outcome segment.segmentId priority
          (pass.candidates segment.segmentId priority) pass :=
  EvictionPass.visit_eq outcome segment.segmentId priority traced.nodup

/-- A round is a number of steps. -/
theorem Traced.visit_steps (traced : Traced segment outcome pass)
    (priority : AllocationPriority)
    : Relation.ReflTransGen (Step outcome segment.segmentId) pass
        (pass.visit outcome segment.segmentId priority) := by
  rw [traced.visit_eq]
  exact attemptAll_steps traced _ (traced.nodup.filter _) fun _ member => member

/-- A round over a list with nothing to evict does nothing. -/
theorem Traced.visit_quiet (traced : Traced segment outcome pass)
    (quiet : pass.candidates segment.segmentId priority = [])
    : pass.visit outcome segment.segmentId priority = pass := by
  rw [traced.visit_eq, quiet]
  rfl

/-- What may be evicted from the list of another priority is still there after attempts. -/
theorem attemptAll_keeps (traced : Traced segment outcome pass) (items : List Nat)
    (once : items.Nodup)
    (listed : ∀ index ∈ items, index ∈ pass.candidates segment.segmentId priority)
    {other : Nat} (apart : other ∉ items) {place : AllocationPriority}
    (known : other ∈ pass.candidates segment.segmentId place)
    : other ∈ (attemptAll outcome segment.segmentId priority items pass).candidates
        segment.segmentId place := by
  induction items generalizing pass with
  | nil => exact known
  | cons index rest ih =>
      have found := (List.mem_filter.mp (listed index (.head rest))).1
      have only := (traced.listed found).2
      have pagable := traced.unpagable found
      have kept : other ∈ (pass.attempt outcome segment.segmentId priority index).candidates
          segment.segmentId place :=
        attempt_keeps (fun same => apart (by rw [same]; exact .head rest)) only pagable known
      rw [attemptAll]
      split
      next stops => exact kept
      next goesOn =>
        refine ih (traced.step ⟨priority, index, listed index (.head rest), rfl⟩) once.of_cons
          ?_ (fun member => apart (.tail _ member)) kept
        intro next member
        have different : next ≠ index := fun same =>
          (List.nodup_cons.mp once).1 (same ▸ member)
        exact attempt_keeps different only pagable (listed next (.tail _ member))

/-- A round keeps what may be evicted from the list of another priority. -/
theorem Traced.visit_keeps (traced : Traced segment outcome pass) {place : AllocationPriority}
    (apart : place ≠ priority) {other : Nat}
    (known : other ∈ pass.candidates segment.segmentId place)
    : other ∈ (pass.visit outcome segment.segmentId priority).candidates segment.segmentId
        place := by
  rw [traced.visit_eq]
  refine attemptAll_keeps traced _ (traced.nodup.filter _) (fun _ member => member) ?_ known
  intro member
  have here := (traced.listed (List.mem_filter.mp member).1).2
  exact apart ((here.mem_iff _ _).mp (List.mem_filter.mp known).1).2

/-- Attempts are never forgotten. -/
theorem attempts_initial {before after : EvictionPass} {segmentId : Nat}
    (run : Relation.ReflTransGen (Step outcome segmentId) before after)
    : before.attempts <+: after.attempts := by
  induction run with
  | refl => exact List.prefix_refl _
  | tail _ last ih =>
      obtain ⟨_, _, _, rfl⟩ := last
      rw [attempt_attempts]
      exact ih.trans (List.prefix_append _ _)

/-- A round over a list with something to evict starts with its first. -/
theorem Traced.visit_first (traced : Traced segment outcome pass) {index : Nat}
    {rest : List Nat}
    (items : pass.candidates segment.segmentId priority = index :: rest)
    : pass.attempts ++ [(index, outcome pass.attempts.length)]
      <+: (pass.visit outcome segment.segmentId priority).attempts := by
  have listed : index ∈ pass.candidates segment.segmentId priority := items ▸ .head rest
  have taken : Step outcome segment.segmentId pass
      (pass.attempt outcome segment.segmentId priority index) := ⟨priority, index, listed, rfl⟩
  have found := (List.mem_filter.mp listed).1
  have once : (pass.candidates segment.segmentId priority).Nodup := traced.nodup.filter _
  rw [items] at once
  rw [← attempt_attempts, traced.visit_eq, items, attemptAll]
  split
  next stops => exact List.prefix_refl _
  next goesOn =>
    apply attempts_initial
    refine attemptAll_steps (traced.step taken) rest once.of_cons ?_
    intro other member
    have apart : other ≠ index := fun same => (List.nodup_cons.mp once).1 (same ▸ member)
    exact attempt_keeps apart (traced.listed found).2 (traced.unpagable found)
      (items ▸ .tail _ member)

-----------------------------------------------------------------------------------------
-- All rounds
-----------------------------------------------------------------------------------------

/-- The rounds over a list of priorities. -/
def visitAll (outcome : Nat → PagingStatus) (segmentId : Nat)
    (priorities : List AllocationPriority) (pass : EvictionPass) : EvictionPass :=
  priorities.foldl (visit outcome segmentId) pass

/-- The rounds over priorities are steps, by induction on the priorities. -/
theorem Traced.visitAll_steps (traced : Traced segment outcome pass)
    (priorities : List AllocationPriority)
    : Relation.ReflTransGen (Step outcome segment.segmentId) pass
        (visitAll outcome segment.segmentId priorities pass) := by
  induction priorities generalizing pass with
  | nil => exact .refl
  | cons priority rest ih =>
      exact (traced.visit_steps priority).trans (ih (traced.run (traced.visit_steps priority)))

/-- Rounds over lists with nothing to evict do nothing. -/
theorem Traced.visitAll_quiet (traced : Traced segment outcome pass)
    (priorities : List AllocationPriority)
    (quiet : ∀ priority ∈ priorities, pass.candidates segment.segmentId priority = [])
    : visitAll outcome segment.segmentId priorities pass = pass := by
  induction priorities with
  | nil => rfl
  | cons priority rest ih =>
      unfold visitAll
      rw [List.foldl_cons, traced.visit_quiet (quiet priority (.head rest))]
      exact ih fun other member => quiet other (.tail _ member)

/-- Each list with something to evict costs at least one attempt. -/
theorem Traced.visitAll_attempts (traced : Traced segment outcome pass)
    (priorities : List AllocationPriority) (once : priorities.Nodup)
    : pass.attempts.length
        + (priorities.filter fun priority =>
            pass.candidates segment.segmentId priority ≠ []).length
      ≤ (visitAll outcome segment.segmentId priorities pass).attempts.length := by
  induction priorities generalizing pass with
  | nil => exact Nat.le_refl _
  | cons priority rest ih =>
      have later := ih (traced.run (traced.visit_steps priority)) once.of_cons
      -- what the later rounds find is at least what was there before this one
      have kept : (rest.filter fun priority =>
          pass.candidates segment.segmentId priority ≠ []).length
          ≤ (rest.filter fun other => (pass.visit outcome segment.segmentId
              priority).candidates segment.segmentId other ≠ []).length := by
        have apart : ∀ other ∈ rest, other ≠ priority := fun other member same =>
          (List.nodup_cons.mp once).1 (same ▸ member)
        rw [← List.countP_eq_length_filter, ← List.countP_eq_length_filter]
        apply List.countP_mono_left
        intro other member some
        obtain ⟨index, known⟩ := List.exists_mem_of_ne_nil _ (of_decide_eq_true some)
        exact decide_eq_true (List.ne_nil_of_mem (traced.visit_keeps (apart other member) known))
      unfold visitAll at later ⊢
      rw [List.foldl_cons]
      cases items : pass.candidates segment.segmentId priority with
      | nil =>
          rw [traced.visit_quiet items] at later ⊢
          simpa [items] using later
      | cons index tail =>
          have grown := (traced.visit_first items).length_le
          rw [List.length_append, List.length_singleton] at grown
          rw [List.filter_cons_of_pos (by simp [items]), List.length_cons]
          omega

/-- A list with something to evict leads to another attempt. -/
theorem Traced.visitAll_again (traced : Traced segment outcome pass)
    {priorities : List AllocationPriority} (once : priorities.Nodup)
    (visited : priority ∈ priorities)
    (some : pass.candidates segment.segmentId priority ≠ [])
    : pass.attempts.length
      < (visitAll outcome segment.segmentId priorities pass).attempts.length := by
  refine Nat.lt_of_lt_of_le (Nat.lt_add_of_pos_right ?_)
    (traced.visitAll_attempts priorities once)
  exact List.length_pos_of_mem (List.mem_filter.mpr ⟨visited, decide_eq_true some⟩)

/-- Attempts that went on after one another all succeeded. -/
theorem attemptAll_ok (items : List Nat)
    (ok : (attemptAll outcome segment.segmentId priority items pass).ret = .ok)
    : ∀ attempt ∈ (attemptAll outcome segment.segmentId priority items pass).attempts,
        attempt ∈ pass.attempts ∨ attempt.2 = .ok := by
  induction items generalizing pass with
  | nil => exact fun attempt member => .inl member
  | cons index rest ih =>
      have noted : ∀ attempt
          ∈ (pass.attempt outcome segment.segmentId priority index).attempts,
          (pass.attempt outcome segment.segmentId priority index).ret = .ok
            → attempt ∈ pass.attempts ∨ attempt.2 = .ok := by
        intro attempt member ok
        rw [attempt_attempts] at member
        rw [attempt_ret] at ok
        rcases List.mem_append.mp member with earlier | last
        · exact .inl earlier
        · exact .inr (by rw [List.mem_singleton.mp last]; exact ok)
      rw [attemptAll] at ok ⊢
      split at ok
      next stops =>
        rw [if_pos stops]
        exact fun attempt member => noted attempt member ok
      next goesOn =>
        rw [if_neg goesOn]
        intro attempt member
        rcases ih ok attempt member with earlier | fine
        · exact noted attempt earlier (Decidable.not_not.mp fun failed => goesOn (.inl failed))
        · exact .inr fine

/-- What a round evicts: the first few of what it may evict, going on only while the budget
lasts, and stopping early only for a failure or for the budget.
-/
theorem attemptAll_evicted (traced : Traced segment outcome pass) (items : List Nat)
    (once : items.Nodup)
    (listed : ∀ index ∈ items, index ∈ pass.candidates segment.segmentId priority)
    : ∃ number ≤ items.length,
        (attemptAll outcome segment.segmentId priority items pass).evicted
          = pass.evicted ++ items.take number
        ∧ (∀ earlier < number, 0 < earlier
          → (BitVec.ofNat 32 (segment.total (pass.evicted ++ items.take earlier))).toInt
            < vidmmMaxPagingOutMemorySize)
        ∧ (number = items.length
          ∨ (attemptAll outcome segment.segmentId priority items pass).ret ≠ .ok
          ∨ 0 < number
            ∧ vidmmMaxPagingOutMemorySize
              ≤ (BitVec.ofNat 32 (segment.total (pass.evicted ++ items.take number))).toInt)
    := by
  induction items generalizing pass with
  | nil => exact ⟨0, Nat.le_refl 0, by simp [attemptAll], by simp, .inl rfl⟩
  | cons index rest ih =>
      have found := (List.mem_filter.mp (listed index (.head rest))).1
      have after : Traced segment outcome
          (pass.attempt outcome segment.segmentId priority index) :=
        traced.step ⟨priority, index, listed index (.head rest), rfl⟩
      rw [attemptAll]
      by_cases ends : outcome pass.attempts.length = .ok
      · have more : (pass.attempt outcome segment.segmentId priority index).evicted
            = pass.evicted ++ [index] := by rw [attempt_evicted, if_pos ends]
        have size := after.size
        rw [more] at size
        split
        next stops =>
          rcases stops with failed | full
          · exact absurd ((attempt_ret pass index).trans ends) failed
          · rw [size] at full
            exact ⟨1, by simp, by rw [more]; rfl, fun earlier below positive => by omega,
              .inr (.inr ⟨Nat.one_pos, full⟩)⟩
        next goesOn =>
          have open_ : (BitVec.ofNat 32 (segment.total (pass.evicted ++ [index]))).toInt
              < vidmmMaxPagingOutMemorySize := by
            rw [← size]
            exact Int.not_le.mp fun full => goesOn (.inr full)
          have later : ∀ other ∈ rest, other
              ∈ (pass.attempt outcome segment.segmentId priority index).candidates
                segment.segmentId priority := by
            intro other member
            have apart : other ≠ index := fun same =>
              (List.nodup_cons.mp once).1 (same ▸ member)
            exact attempt_keeps apart (traced.listed found).2 (traced.unpagable found)
              (listed other (.tail _ member))
          obtain ⟨number, bound, evictions, budget, stops⟩ := ih after once.of_cons later
          rw [more] at evictions budget stops
          simp only [List.append_assoc, List.singleton_append] at evictions budget stops
          refine ⟨number + 1, by simpa using bound, evictions, ?_, ?_⟩
          · intro earlier below positive
            obtain ⟨before, rfl⟩ := Nat.exists_eq_succ_of_ne_zero (Nat.ne_of_gt positive)
            rcases Nat.eq_zero_or_pos before with rfl | positive
            · exact open_
            · exact budget before (by omega) positive
          · rcases stops with whole | failed | ⟨_, full⟩
            · exact .inl (by simp [whole])
            · exact .inr (.inl failed)
            · exact .inr (.inr ⟨Nat.succ_pos number, full⟩)
      · have failed : (pass.attempt outcome segment.segmentId priority index).ret ≠ .ok := by
          rwa [attempt_ret]
        rw [if_pos (.inl failed)]
        refine ⟨0, Nat.zero_le _, ?_, fun _ below => absurd below (Nat.not_lt_zero _),
          .inr (.inl failed)⟩
        rw [attempt_evicted, if_neg ends]
        simp

-----------------------------------------------------------------------------------------
-- What a pass may be relied on for
-----------------------------------------------------------------------------------------

/-- No allocation is lost, nothing pinned or global is evicted, the budget stops evictions,
and `S_OK` means that no attempt failed.
-/
structure Sound (segment : SegmentState) (pass : EvictionPass) : Prop where
  filed : ∀ {index priority}, index ∈ segment.pagable segment.segmentId priority
    → if index ∈ pass.evicted then
        pass.lists.Only index segmentIdInvalid (segment.allocation index).priority
      else pass.lists.Only index segment.segmentId (segment.allocation index).priority
  safe : ∀ index ∈ pass.evicted,
    (segment.allocation index).tempUnpagable = 0 ∧ (segment.allocation index).global = false
  budget : segment.total pass.evicted.dropLast < vidmmMaxPagingOutMemorySize
  honest : pass.ret = .ok → ∀ attempt ∈ pass.attempts, attempt.2 = .ok

end EvictionPass

namespace SegmentState

variable (segment : SegmentState)

/-- What may be evicted from a list of the segment. -/
def candidates (priority : AllocationPriority) : List Nat :=
  (segment.pagable segment.segmentId priority).filter fun index =>
    (segment.allocation index).evictable

/-- The states in which a pass is sound whatever becomes of its evictions. Either the segment
is not local and its allocations are on the lists of their priorities, or
- at most one list holds something to evict,
- allocations are on the lists of their priorities, except that the first one to evict may
  have a lower priority than its list, and
- the first few allocations to evict that reach the budget, if more follow, also reach it as
  an `int`.
-/
def Evictable : Prop :=
  if segment.isLocal then
    (∀ {one other}, segment.candidates one ≠ [] → segment.candidates other ≠ []
      → one = other)
    ∧ (∀ {index priority}, index ∈ segment.pagable segment.segmentId priority
      → (segment.allocation index).priority = priority
        ∨ (segment.candidates priority).head? = some index
          ∧ (segment.allocation index).priority ≤ priority)
    ∧ (∀ priority, ∀ number < (segment.candidates priority).length,
      (∀ earlier < number, segment.total ((segment.candidates priority).take earlier)
        < vidmmMaxPagingOutMemorySize)
      → vidmmMaxPagingOutMemorySize
        ≤ segment.total ((segment.candidates priority).take number)
      → (vidmmMaxPagingOutMemorySize : Int)
        ≤ (BitVec.ofNat 32
            (segment.total ((segment.candidates priority).take number))).toInt)
  else
    ∀ {index priority}, index ∈ segment.pagable segment.segmentId priority
      → (segment.allocation index).priority = priority

/-- The pass over the segment. -/
def unresident (outcome : Nat → PagingStatus) : EvictionPass :=
  vidmmiSegmentUnresidentAllocations outcome segment.segmentId segment.isLocal
    segment.toResidentLists

end SegmentState

namespace EvictionPass

variable {outcome : Nat → PagingStatus} {segment : SegmentState} {pass : EvictionPass}

/-- An allocation was evicted if an attempt on it succeeded. -/
theorem mem_evicted {index : Nat} : index ∈ pass.evicted ↔ (index, .ok) ∈ pass.attempts := by
  simp [evicted]

/-- Allocations evicted were attempted first. -/
theorem evicted_prefix {before after : EvictionPass} {segmentId : Nat}
    (run : Relation.ReflTransGen (Step outcome segmentId) before after)
    : before.evicted <+: after.evicted :=
  ((attempts_initial run).filter _).map _

/-- A pass is sound if what it did not try is on the list of its priority. -/
theorem Traced.sound (traced : Traced segment outcome pass)
    (kept : ∀ {index priority}, index ∈ segment.pagable segment.segmentId priority
      → index ∉ pass.attempts.map Prod.fst → (segment.allocation index).priority = priority)
    (budget : segment.total pass.evicted.dropLast < vidmmMaxPagingOutMemorySize)
    (honest : pass.ret = .ok → ∀ attempt ∈ pass.attempts, attempt.2 = .ok)
    : pass.Sound segment where
  filed := by
    intro index priority listed
    split
    next evicted => exact traced.evicted listed (mem_evicted.mp evicted)
    next remains =>
      by_cases tried : index ∈ pass.attempts.map Prod.fst
      · exact traced.failed listed (fun evicted => remains (mem_evicted.mpr evicted)) tried
      · rw [kept listed tried]
        exact traced.untried listed tried
  safe := by
    intro index evicted
    have evictable := traced.safe _ (mem_evicted.mp evicted)
    simpa [ResidentAllocation.evictable] using evictable
  budget := budget
  honest := honest

/-- What a sound pass did not try is on the list of its priority. -/
theorem Sound.kept (sound : pass.Sound segment) (traced : Traced segment outcome pass)
    {index : Nat} {priority : AllocationPriority}
    (listed : index ∈ segment.pagable segment.segmentId priority)
    (untried : index ∉ pass.attempts.map Prod.fst)
    : (segment.allocation index).priority = priority := by
  have here := (traced.untried listed untried).mem_iff segment.segmentId priority
  have filed := sound.filed listed
  have remains : index ∉ pass.evicted := fun evicted =>
    untried (List.mem_map.mpr ⟨_, mem_evicted.mp evicted, rfl⟩)
  rw [if_neg remains] at filed
  exact ((filed.mem_iff _ _).mp (here.mpr ⟨rfl, rfl⟩)).2.symm

/-- The result of a pass is the end of its last attempt. -/
theorem Traced.ret_eq (traced : Traced segment outcome pass) {number : Nat}
    (length : pass.attempts.length = number + 1)
    : pass.ret = outcome number := by
  rw [traced.ret, ← List.getLast?_map, traced.ends, length, List.range_succ, List.map_append,
    List.map_singleton, List.getLast?_concat]
  rfl

/-- A pass whose evictions all succeed succeeds. -/
theorem Traced.ret_ok (traced : Traced segment (fun _ => .ok) pass) : pass.ret = .ok := by
  cases length : pass.attempts.length with
  | zero => rw [traced.ret, List.length_eq_zero_iff.mp length]; rfl
  | succ number => exact traced.ret_eq length

end EvictionPass

namespace SegmentState

open EvictionPass

variable {segment : SegmentState} {outcome : Nat → PagingStatus}

/-- A pass before its first round. -/
def started (segment : SegmentState) : EvictionPass :=
  ⟨segment.toResidentLists, .ok, 0, []⟩

/-- The rounds before that of a priority are those of lower ones, the rounds after it those
of higher ones.
-/
theorem priorities_split
    : ∀ priority : AllocationPriority,
        List.finRange pAll = (List.finRange pAll).take priority
          ++ priority :: (List.finRange pAll).drop (priority + 1)
        ∧ ∀ other, (other ∈ (List.finRange pAll).take priority ↔ other < priority)
          ∧ (other ∈ (List.finRange pAll).drop (priority + 1) ↔ priority < other) := by
  decide

/-- A pass over a local segment is its rounds. -/
theorem unresident_local (isLocal : segment.isLocal = true)
    : segment.unresident outcome
      = visitAll outcome segment.segmentId (List.finRange pAll) segment.started := by
  unfold unresident vidmmiSegmentUnresidentAllocations
  rw [isLocal]
  rfl

/-- A pass over a local segment is traced. -/
theorem unresident_traced (isLocal : segment.isLocal = true)
    : Traced segment outcome (segment.unresident outcome) := by
  rw [unresident_local isLocal]
  exact Traced.start.run (Traced.start.visitAll_steps _)

/-- If the lists of lower priorities have nothing to evict, a pass starts with a round over
the list of a priority.
-/
theorem unresident_split (isLocal : segment.isLocal = true) {priority : AllocationPriority}
    (quiet : ∀ other < priority, segment.candidates other = [])
    : segment.unresident outcome
      = visitAll outcome segment.segmentId ((List.finRange pAll).drop (priority + 1))
          (segment.started.visit outcome segment.segmentId priority) := by
  obtain ⟨split, sides⟩ := priorities_split priority
  have before := (@Traced.start outcome segment).visitAll_quiet
    ((List.finRange pAll).take priority)
    (fun other member => quiet other ((sides other).1.mp member))
  rw [unresident_local isLocal]
  unfold visitAll started at *
  rw [split, List.foldl_append, before, List.foldl_cons, ← split]

/-- A total below 2^31 is the same as an `int`. -/
theorem toInt_ofNat_of_lt {number : Nat} (below : number < 2 ^ 31)
    : (BitVec.ofNat 32 number).toInt = number := by
  rw [BitVec.toInt_eq_toNat_of_lt] <;> rw [BitVec.toNat_ofNat] <;> omega

/-- A prefix of some allocations has no larger total. -/
theorem total_mono {lists : ResidentLists} {less more : List Nat} (front : less <+: more)
    : lists.total less ≤ lists.total more := by
  obtain ⟨rest, rfl⟩ := front
  unfold ResidentLists.total
  rw [List.map_append, List.sum_append]
  exact Nat.le_add_right _ _

-----------------------------------------------------------------------------------------
-- Passes that are sound whatever happens
-----------------------------------------------------------------------------------------

/-- The first eviction fails and all others succeed. -/
def firstFails (attempt : Nat) : PagingStatus :=
  if attempt = 0 then .fail else .ok

/-- A sound pass whose first eviction fails has no second one. -/
theorem attempts_le_one (isLocal : segment.isLocal = true)
    (sound : (segment.unresident firstFails).Sound segment)
    : (segment.unresident firstFails).attempts.length ≤ 1 := by
  have traced : Traced segment firstFails _ := unresident_traced isLocal
  apply Nat.le_of_not_lt
  intro many
  obtain ⟨number, length⟩ := Nat.exists_eq_add_of_lt many
  have ok := traced.ret_eq length
  have first : PagingStatus.fail
      ∈ (segment.unresident firstFails).attempts.map Prod.snd := by
    rw [traced.ends, List.mem_map]
    exact ⟨0, List.mem_range.mpr (Nat.lt_of_succ_lt many), rfl⟩
  obtain ⟨attempt, member, failed⟩ := List.mem_map.mp first
  have fine := sound.honest (ok.trans (if_neg (by omega))) attempt member
  rw [failed] at fine
  cases fine

/-- Only one list of a segment with sound passes has something to evict. -/
theorem one_list (isLocal : segment.isLocal = true)
    (sound : (segment.unresident firstFails).Sound segment) {one other : AllocationPriority}
    (first : segment.candidates one ≠ []) (second : segment.candidates other ≠ [])
    : one = other := by
  have attempts := (@Traced.start firstFails segment).visitAll_attempts (List.finRange pAll)
    (List.nodup_finRange pAll)
  have few := attempts_le_one isLocal sound
  rw [unresident_local isLocal] at few
  unfold started at few
  have lists := Nat.le_trans attempts few
  have member : ∀ priority, segment.candidates priority ≠ [] → priority
      ∈ (List.finRange pAll).filter fun priority =>
        EvictionPass.candidates segment.segmentId ⟨segment.toResidentLists, .ok, 0, []⟩ priority
          ≠ [] := by
    intro priority some
    exact List.mem_filter.mpr ⟨List.mem_finRange priority, decide_eq_true some⟩
  simp only [List.length_nil, Nat.zero_add] at lists
  generalize (List.finRange pAll).filter _ = priorities at lists member
  match priorities, lists with
  | [], _ => exact absurd (member one first) List.not_mem_nil
  | [only], _ =>
      exact (List.mem_singleton.mp (member one first)).trans
        (List.mem_singleton.mp (member other second)).symm

/-- A sound pass whose first eviction fails tried the first allocation of its one list with
something to evict, and this one does not come back in a later round.
-/
theorem first_attempt (isLocal : segment.isLocal = true)
    (sound : (segment.unresident firstFails).Sound segment) {priority : AllocationPriority}
    {index : Nat} {rest : List Nat} (items : segment.candidates priority = index :: rest)
    : (segment.unresident firstFails).attempts = [(index, .fail)]
      ∧ (segment.allocation index).priority ≤ priority := by
  have some : segment.candidates priority ≠ [] := by rw [items]; exact List.cons_ne_nil _ _
  have quiet : ∀ other < priority, segment.candidates other = [] := by
    intro other below
    apply Decidable.not_not.mp
    intro more
    exact Nat.ne_of_lt below (congrArg Fin.val (one_list isLocal sound more some))
  have few := attempts_le_one isLocal sound
  rw [unresident_split isLocal quiet] at few ⊢
  have start : Traced segment firstFails segment.started := Traced.start
  have visited := start.run (start.visit_steps priority)
  have steps := visited.visitAll_steps ((List.finRange pAll).drop (priority + 1))
  have first := start.visit_first items
  have whole := first.trans (attempts_initial steps)
  have alone := whole.eq_of_length_le (by simpa [started] using few)
  have same := first.eq_of_length_le
    (Nat.le_trans (attempts_initial steps).length_le (by simpa [started] using few))
  refine ⟨alone.symm, Nat.le_of_not_lt ?_⟩
  -- on the list of a later priority it would be tried again
  intro above
  have listed : index ∈ segment.candidates priority := items ▸ .head rest
  have failed := visited.failed (List.mem_filter.mp listed).1
    (by rw [← same]; simp [firstFails, started]) (by rw [← same]; simp)
  have again : index ∈ (segment.started.visit firstFails segment.segmentId
      priority).candidates segment.segmentId (segment.allocation index).priority := by
    refine List.mem_filter.mpr ⟨(failed.mem_iff _ _).mpr ⟨rfl, rfl⟩, ?_⟩
    obtain ⟨_, unchanged⟩ := visited.same index
    rw [unchanged]
    exact (List.mem_filter.mp listed).2
  have later := visited.visitAll_again ((List.nodup_finRange pAll).sublist
    (List.drop_sublist (priority + 1) _)) (((priorities_split priority).2 _).2.mpr above)
    (List.ne_nil_of_mem again)
  have one := congrArg List.length same
  rw [List.length_append, List.length_singleton] at one
  omega

/-- In a segment with sound passes an allocation is on the list of its priority, or it is the
first to evict from the list of a higher one.
-/
theorem filed_of_sound (isLocal : segment.isLocal = true)
    (sound : (segment.unresident firstFails).Sound segment) {index : Nat}
    {priority : AllocationPriority}
    (listed : index ∈ segment.pagable segment.segmentId priority)
    : (segment.allocation index).priority = priority
      ∨ (segment.candidates priority).head? = some index
        ∧ (segment.allocation index).priority ≤ priority := by
  have traced : Traced segment firstFails _ := unresident_traced isLocal
  by_cases tried : index ∈ (segment.unresident firstFails).attempts.map Prod.fst
  · obtain ⟨attempt, member, rfl⟩ := List.mem_map.mp tried
    have candidate : attempt.1 ∈ segment.candidates priority :=
      List.mem_filter.mpr ⟨listed, traced.safe attempt member⟩
    cases items : segment.candidates priority with
    | nil => rw [items] at candidate; exact absurd candidate List.not_mem_nil
    | cons first rest =>
        obtain ⟨alone, below⟩ := first_attempt isLocal sound items
        rw [alone] at member
        obtain rfl := List.mem_singleton.mp member
        exact .inr ⟨rfl, below⟩
  · exact .inl (sound.kept traced listed tried)

/-- In a segment with sound passes the budget is not missed by an `int` that overflows. -/
theorem budget_of_sound (isLocal : segment.isLocal = true)
    (sound : (segment.unresident fun _ => .ok).Sound segment)
    {priority : AllocationPriority}
    (quiet : ∀ other < priority, segment.candidates other = []) {number : Nat}
    (more : number < (segment.candidates priority).length)
    (below : ∀ earlier < number, segment.total ((segment.candidates priority).take earlier)
      < vidmmMaxPagingOutMemorySize)
    (reached : vidmmMaxPagingOutMemorySize
      ≤ segment.total ((segment.candidates priority).take number))
    : (vidmmMaxPagingOutMemorySize : Int)
      ≤ (BitVec.ofNat 32
          (segment.total ((segment.candidates priority).take number))).toInt := by
  apply Int.not_lt.mp
  intro missed
  have start : Traced segment (fun _ => .ok) segment.started := Traced.start
  have visited := start.run (start.visit_steps priority)
  have steps := visited.visitAll_steps ((List.finRange pAll).drop (priority + 1))
  obtain ⟨count, bound, evictions, _, stops⟩ :=
    attemptAll_evicted start (segment.candidates priority) (start.nodup.filter _)
      fun _ member => member
  rw [show segment.candidates priority
    = segment.started.candidates segment.segmentId priority from rfl, ← start.visit_eq]
    at evictions stops
  have evicted : (segment.started.visit (fun _ => .ok) segment.segmentId priority).evicted
      = (segment.candidates priority).take count := evictions
  -- the pass goes on after the first few that reach the budget
  have beyond : number < count := by
    apply Nat.lt_of_not_le
    intro early
    rcases stops with whole | failed | ⟨_, full⟩
    · exact absurd more (Nat.not_lt.mpr (whole ▸ early))
    · exact failed visited.ret_ok
    · rcases Nat.lt_or_eq_of_le early with less | rfl
      · have small := below count less
        rw [show (segment.started.evicted ++ (segment.started.candidates segment.segmentId
          priority).take count) = (segment.candidates priority).take count from rfl,
          toInt_ofNat_of_lt (Nat.lt_trans small (by decide))] at full
        exact absurd (Int.ofNat_le.mp full) (Nat.not_le.mpr small)
      · exact absurd full (Int.not_le.mpr missed)
  have front : (segment.candidates priority).take number
      <+: (segment.unresident fun _ => .ok).evicted.dropLast := by
    rw [unresident_split isLocal quiet]
    have kept := evicted_prefix steps
    rw [evicted] at kept
    have length := kept.length_le
    rw [List.length_take, Nat.min_eq_left bound] at length
    rw [List.dropLast_eq_take, List.prefix_take_iff, List.length_take]
    exact ⟨(List.take_prefix_take_left (Nat.le_of_lt beyond)).trans kept, by omega⟩
  exact absurd (Nat.le_trans reached (total_mono front)) (Nat.not_le.mpr sound.budget)

/-- In the states of `Evictable`, the lists of higher priorities have nothing to evict after
the round over the one list that had.
-/
theorem later_quiet {priority : AllocationPriority}
    (one : ∀ {other}, segment.candidates other ≠ [] → other = priority)
    (filed : ∀ {index other}, index ∈ segment.pagable segment.segmentId other
      → (segment.allocation index).priority = other
        ∨ (segment.candidates other).head? = some index
          ∧ (segment.allocation index).priority ≤ other)
    {pass : EvictionPass} (traced : Traced segment outcome pass) {other : AllocationPriority}
    (above : priority < other)
    : pass.candidates segment.segmentId other = [] := by
  apply List.eq_nil_iff_forall_not_mem.mpr
  intro index candidate
  obtain ⟨found, evictable⟩ := List.mem_filter.mp candidate
  obtain ⟨before, known⟩ := traced.found found
  obtain ⟨_, unchanged⟩ := traced.same index
  rw [unchanged] at evictable
  obtain rfl := one (List.ne_nil_of_mem (List.mem_filter.mpr ⟨known, evictable⟩))
  obtain ⟨remains, only⟩ := traced.listed found
  by_cases tried : index ∈ pass.attempts.map Prod.fst
  · have place := ((traced.failed known remains tried).mem_iff _ _).mp found
    rw [place.2] at above
    rcases filed known with same | ⟨_, below⟩
    · exact absurd above (by rw [same]; exact Nat.lt_irrefl _)
    · exact absurd above (Nat.not_lt.mpr below)
  · have place := ((traced.untried known tried).mem_iff _ _).mp found
    exact absurd above (by rw [place.2]; exact Nat.lt_irrefl _)

/-- Evicting the first few allocations keeps to the budget if the `int` does. -/
theorem budget_kept {items : List Nat} {number : Nat} (bound : number ≤ items.length)
    (budget : ∀ earlier < number, 0 < earlier
      → (BitVec.ofNat 32 (segment.total (items.take earlier))).toInt
        < vidmmMaxPagingOutMemorySize)
    (exact : ∀ number < items.length,
      (∀ earlier < number, segment.total (items.take earlier) < vidmmMaxPagingOutMemorySize)
      → vidmmMaxPagingOutMemorySize ≤ segment.total (items.take number)
      → (vidmmMaxPagingOutMemorySize : Int)
        ≤ (BitVec.ofNat 32 (segment.total (items.take number))).toInt)
    : ∀ earlier < number, segment.total (items.take earlier) < vidmmMaxPagingOutMemorySize := by
  intro earlier
  induction earlier using Nat.strong_induction_on with
  | _ earlier ih =>
      intro below
      apply Nat.lt_of_not_le
      intro reached
      have full := exact earlier (Nat.lt_of_lt_of_le below bound)
        (fun before less => ih before less (Nat.lt_trans less below)) reached
      rcases Nat.eq_zero_or_pos earlier with rfl | positive
      · exact absurd reached (by simp [ResidentLists.total, vidmmMaxPagingOutMemorySize])
      · exact absurd full (Int.not_le.mpr (budget earlier below positive))

/-- In a state of `Evictable` with something to evict from a list, the round over it is the
whole pass.
-/
theorem unresident_visit (isLocal : segment.isLocal = true) (evictable : segment.Evictable)
    {priority : AllocationPriority} (items : segment.candidates priority ≠ [])
    : segment.unresident outcome
      = segment.started.visit outcome segment.segmentId priority := by
  rw [Evictable, if_pos isLocal] at evictable
  obtain ⟨one, filed, _⟩ := evictable
  have only : ∀ {other}, segment.candidates other ≠ [] → other = priority :=
    fun more => one more items
  have start : Traced segment outcome segment.started := Traced.start
  have visited := start.run (start.visit_steps priority)
  rw [unresident_split isLocal fun other below =>
    Decidable.not_not.mp fun more => Nat.ne_of_lt below (congrArg Fin.val (only more))]
  apply visited.visitAll_quiet
  intro other member
  exact later_quiet only filed visited (((priorities_split priority).2 other).2.mp member)

/-- In the states of `Evictable` every pass is sound. -/
theorem sound_of_evictable (isLocal : segment.isLocal = true)
    (evictable : segment.Evictable)
    : (segment.unresident outcome).Sound segment := by
  have traced : Traced segment outcome _ := unresident_traced isLocal
  have states := evictable
  rw [Evictable, if_pos isLocal] at states
  obtain ⟨one, filed, exact⟩ := states
  have start : Traced segment outcome segment.started := Traced.start
  by_cases some : ∃ priority, segment.candidates priority ≠ []
  · obtain ⟨priority, items⟩ := some
    have whole := @unresident_visit segment outcome isLocal evictable priority items
    have round : segment.started.visit outcome segment.segmentId priority
        = attemptAll outcome segment.segmentId priority (segment.candidates priority)
          segment.started := start.visit_eq
    apply traced.sound
    · intro index other listed untried
      rcases filed listed with same | ⟨head, _⟩
      · exact same
      · cases first : segment.candidates other with
        | nil => rw [first] at head; cases head
        | cons known rest =>
            obtain rfl := one (by rw [first]; exact List.cons_ne_nil _ _) items
            rw [first] at head
            obtain rfl := Option.some.inj head
            obtain ⟨later, attempts⟩ := start.visit_first first
            rw [whole, ← attempts] at untried
            exact absurd (by simp) untried
    · obtain ⟨number, bound, evictions, budget, _⟩ :=
        attemptAll_evicted start (segment.candidates priority) (start.nodup.filter _)
          fun _ member => member
      have kept := budget_kept bound budget (exact priority)
      rw [whole, round, evictions, show segment.started.evicted = [] from rfl, List.nil_append,
        List.dropLast_eq_take, List.length_take, List.take_take]
      rcases Nat.eq_zero_or_pos number with rfl | positive
      · simp [ResidentLists.total, vidmmMaxPagingOutMemorySize]
      · exact kept _ (by omega)
    · rw [whole, round]
      intro ok attempt member
      exact (attemptAll_ok _ ok attempt member).resolve_left List.not_mem_nil
  · have quiet : ∀ priority, segment.candidates priority = [] := fun priority =>
      Decidable.not_not.mp fun more => some ⟨priority, more⟩
    have nothing : segment.unresident outcome = segment.started := by
      rw [unresident_local isLocal]
      exact start.visitAll_quiet _ fun priority _ => quiet priority
    apply traced.sound
    · intro index priority listed _
      rcases filed listed with same | ⟨head, _⟩
      · exact same
      · rw [quiet] at head
        cases head
    · rw [nothing]
      exact Nat.lt_of_lt_of_le Nat.zero_lt_one (by decide)
    · rw [nothing]
      exact fun _ attempt member => absurd member List.not_mem_nil

/-- A pass over a segment that is not local does nothing, which is sound if its allocations
are on the lists of their priorities.
-/
theorem sound_iff_of_not_local (isLocal : segment.isLocal = false)
    : (segment.unresident outcome).Sound segment ↔ segment.Evictable := by
  have refused : segment.unresident outcome
      = ⟨segment.toResidentLists, .unexpected, 0, []⟩ := by
    unfold unresident vidmmiSegmentUnresidentAllocations
    rw [isLocal]
    rfl
  rw [Evictable, isLocal, if_neg (by decide), refused]
  constructor
  · intro sound index priority listed
    have filed := sound.filed listed
    rw [if_neg (by simp [evicted])] at filed
    exact ((filed.mem_iff _ _).mp listed).2.symm
  · intro filed
    refine ⟨?_, by simp [evicted], by simp [evicted, ResidentLists.total,
      vidmmMaxPagingOutMemorySize], by simp⟩
    intro index priority listed
    rw [if_neg (by simp [evicted]), filed listed]
    exact segment.only listed

/-- A local segment with an allocation on each of its first two lists. -/
def twoLists : SegmentState where
  allocation index := ⟨4096, if index = 0 then pDiscard else pLow, 1, 0, false, false⟩
  pagable segment priority :=
    if segment = 1 ∧ priority = pDiscard then [0]
    else if segment = 1 ∧ priority = pLow then [1] else []
  unpagable _ := []
  segmentId := 1
  isLocal := true
  notCache := by decide
  once segment priority := by
    split
    · simp
    · split <;> simp
  alone := by
    intro segment other priority another index first second
    split at first <;> split at second <;> simp_all
  listed := by
    intro segment priority index found
    split at found <;> simp_all

end SegmentState

end Cx4Kernel.Vidmm
