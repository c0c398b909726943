import Mathlib.Logic.Function.Basic
import Cx4Kernel.Foundation.Bag
import Cx4Kernel.Foundation.Transition

/-! The kernel CPU mapping of an allocation, `vidmm_lock_allocation` and
`vidmm_unlock_allocation` called by any number of threads. Every section under the spinlock
and every mapping call is one step.
-/

namespace Cx4Kernel.Vidmm

open Cx4Kernel.Foundation

/-- How far a call has got. All of them have pinned the allocation. -/
inductive LockCall where
  /-- `vidmm_lock_allocation`, before it looks at `krnl_cpu_vma` -/
  | lookUp
  /-- `vidmm_lock_allocation`, which found no mapping -/
  | map
  /-- `vidmm_lock_allocation`, after the mapping call, whose result may be `NULL` -/
  | install (vma : Option Nat)
  /-- `vidmm_unlock_allocation`, which took the mapping -/
  | unmap (vma : Nat)
  /-- `vidmm_unlock_allocation`, before `vidmm_mark_pagable` -/
  | markPagable
deriving DecidableEq

/-- The mappings a call holds that the allocation does not refer to. -/
def LockCall.vmas : LockCall → List Nat
  | .install (some vma) | .unmap vma => [vma]
  | .lookUp | .map | .install none | .markPagable => []

/-- The call is making a mapping. -/
def LockCall.mapping : LockCall → Bool
  | .map | .install _ => true
  | .lookUp | .unmap _ | .markPagable => false

/-- An allocation with the calls that are under way. -/
structure LockState where
  /-- `status.temp_unpagable` -/
  tempUnpagable : Int
  krnlCpuVma : Option Nat
  /-- `ref_cnt` of each mapping -/
  refCnt : Nat → Int
  /-- the mappings that were unmapped, one entry for each unmapping -/
  unmapped : List Nat
  /-- the address of the next mapping -/
  nextVma : Nat
  /-- the calls under way, in no particular order -/
  calls : List LockCall
  /-- the locks that succeeded and that no unlock has answered; a lock counts from the
  section that takes its reference, an unlock from the section that drops it -/
  locked : Nat

/-- How the mapping of `vidmm_lock_allocation` turns out. -/
inductive MapOutcome where
  /-- `vidmm_get_map_allocation_info` fails -/
  | noInfo
  /-- `zx_map_pages_memory` or `zx_map_io_memory` returns `NULL` -/
  | null
  | mapped
deriving DecidableEq

/-- A step of some call. The calls are named by their positions. -/
inductive LockAction where
  /-- `vidmm_prepare_and_mark_unpagable`, which succeeds or fails -/
  | lock (resident : Bool)
  | lookUp (position : Nat)
  | map (position : Nat) (outcome : MapOutcome)
  | install (position : Nat)
  | unlock
  | unmap (position : Nat)
  | markPagable (position : Nat)

namespace LockState

/-- The calls but the one at a position, which has to be at a stage. -/
def take (state : LockState) (position : Nat) (stage : LockCall) : Option (List LockCall) :=
  if state.calls[position]? = some stage then some (state.calls.eraseIdx position) else none

/-- One step. -/
def next (state : LockState) : LockAction → Option LockState
  | .lock resident =>
      let pinned := { state with tempUnpagable := state.tempUnpagable + 1 }
      -- `goto exit` leaves the pin where it is
      if resident then some { pinned with calls := .lookUp :: state.calls } else some pinned
  | .lookUp position => do
      let others ← state.take position .lookUp
      match state.krnlCpuVma with
      | some vma =>
          return { state with
            refCnt := Function.update state.refCnt vma (state.refCnt vma + 1)
            locked := state.locked + 1
            calls := others }
      | none => return { state with calls := .map :: others }
  | .map position outcome => do
      let others ← state.take position .map
      match outcome with
      | .noInfo => return { state with calls := others }
      | .null => return { state with calls := .install none :: others }
      | .mapped =>
          return { state with
            nextVma := state.nextVma + 1
            calls := .install (some state.nextVma) :: others }
  | .install position =>
      match state.calls[position]? with
      | some (.install vma) =>
          some { state with
            krnlCpuVma := vma
            refCnt := vma.elim state.refCnt fun vma => Function.update state.refCnt vma 1
            locked := state.locked + 1
            calls := state.calls.eraseIdx position }
      | _ => none
  | .unlock =>
      if state.locked = 0 then none
      else
        let unlocked := { state with locked := state.locked - 1 }
        match state.krnlCpuVma with
        | none => some { unlocked with calls := .markPagable :: state.calls }
        | some vma =>
            let refCnt := Function.update state.refCnt vma (state.refCnt vma - 1)
            if state.refCnt vma - 1 = 0 then
              some { unlocked with
                refCnt := refCnt, krnlCpuVma := none, calls := .unmap vma :: state.calls }
            else some { unlocked with refCnt := refCnt, calls := .markPagable :: state.calls }
  | .unmap position =>
      match state.calls[position]? with
      | some (.unmap vma) =>
          some { state with
            unmapped := vma :: state.unmapped
            calls := .markPagable :: state.calls.eraseIdx position }
      | _ => none
  | .markPagable position => do
      let others ← state.take position .markPagable
      return { state with tempUnpagable := state.tempUnpagable - 1, calls := others }

/-- The allocation is not mapped, and nobody uses it. -/
def Fresh (state : LockState) : Prop :=
  state.tempUnpagable = 0 ∧ state.krnlCpuVma = none ∧ state.unmapped = [] ∧ state.nextVma = 0
  ∧ state.calls = [] ∧ state.locked = 0

end LockState

/-- The calls on an allocation over time. -/
def lockSystem : System LockState LockAction := .ofFunction LockState.Fresh LockState.next

/-- Residency and mapping succeed, and a lock that finds no mapping is the only one that
makes one.
-/
def LockStepAlone (state : LockState) : LockAction → Prop
  | .lock resident => resident = true
  | .lookUp _ => state.krnlCpuVma = none → ∀ call ∈ state.calls, call.mapping = false
  | .map _ outcome => outcome = .mapped
  | .install _ | .unlock | .unmap _ | .markPagable _ => True

instance (state : LockState) : ∀ action, Decidable (LockStepAlone state action)
  | .lock resident => inferInstanceAs (Decidable (resident = true))
  | .lookUp _ =>
      inferInstanceAs
        (Decidable (state.krnlCpuVma = none → ∀ call ∈ state.calls, call.mapping = false))
  | .map _ outcome => inferInstanceAs (Decidable (outcome = .mapped))
  | .install _ | .unlock | .unmap _ | .markPagable _ => inferInstanceAs (Decidable True)

-----------------------------------------------------------------------------------------
-- Invariant
-----------------------------------------------------------------------------------------

namespace LockState

/-- All mappings ever made, as they are held now. -/
def vmas (state : LockState) : List Nat :=
  state.krnlCpuVma.toList ++ state.calls.flatMap LockCall.vmas ++ state.unmapped

/-- The mapping is counted exactly. -/
structure Counted (state : LockState) : Prop where
  pins : state.tempUnpagable = state.locked + state.calls.length
  references : ∀ vma, state.krnlCpuVma = some vma → state.refCnt vma = state.locked
  used : state.krnlCpuVma = none ↔ state.locked = 0
  held : ∀ vma, state.vmas.count vma = if vma < state.nextVma then 1 else 0

/-- The number of calls that are making a mapping. -/
def mappers (calls : List LockCall) : Nat := calls.countP LockCall.mapping

/-- At most one call is making a mapping, while there is none, and it has not failed. -/
structure Alone (state : LockState) : Prop where
  one : mappers state.calls ≤ 1
  unmapped : 0 < mappers state.calls → state.krnlCpuVma = none
  success : LockCall.install none ∉ state.calls

/-- What `take` leaves are the other calls. -/
theorem take_some {state : LockState} {position : Nat} {stage : LockCall}
    {others : List LockCall} (h : state.take position stage = some others)
    : state.calls.Perm (stage :: others) := by
  unfold take at h
  split at h
  · next found =>
      cases h
      exact Bag.perm_cons_eraseIdx found
  · cases h

/-- The mappings and the calls that make one, for a state with other calls. -/
theorem vmas_perm {state : LockState} {calls : List LockCall} (h : state.calls.Perm calls)
    (vma : Nat)
    : state.vmas.count vma
      = state.krnlCpuVma.toList.count vma + (calls.flatMap LockCall.vmas).count vma
        + state.unmapped.count vma := by
  rw [vmas, List.count_append, List.count_append, Bag.count_flatMap_perm h]

@[simp]
theorem mappers_cons (call : LockCall) (others : List LockCall)
    : mappers (call :: others) = mappers others + if call.mapping then 1 else 0 :=
  List.countP_cons

/-- Calls that make no mapping can come and go. -/
theorem Alone.change {state after : LockState} (h : state.Alone)
    (same : after.krnlCpuVma = state.krnlCpuVma)
    (fewer : mappers after.calls ≤ mappers state.calls)
    (success : LockCall.install none ∈ after.calls → LockCall.install none ∈ state.calls)
    : after.Alone where
  one := Nat.le_trans fewer h.one
  unmapped := fun some => same.trans (h.unmapped (Nat.lt_of_lt_of_le some fewer))
  success := fun failed => h.success (success failed)

/-- Without a call that makes a mapping, there may be one or not. -/
theorem Alone.of_none {state : LockState} (none : mappers state.calls = 0)
    (success : LockCall.install .none ∉ state.calls)
    : state.Alone :=
  ⟨none ▸ Nat.zero_le 1, fun some => absurd some (none ▸ Nat.lt_irrefl 0), success⟩

/-- What a step taken alone does, while the mapping exists exactly while locks are
outstanding. The calls that are not taken up are `others`, in some order.
-/
inductive LockStep (state : LockState) : LockState → Prop where
  | lock
      : LockStep state
          { state with
            tempUnpagable := state.tempUnpagable + 1
            calls := .lookUp :: state.calls }
  | reuse (vma : Nat) (others : List LockCall) (perm : state.calls.Perm (.lookUp :: others))
      (present : state.krnlCpuVma = some vma)
      : LockStep state
          { state with
            refCnt := Function.update state.refCnt vma (state.refCnt vma + 1)
            locked := state.locked + 1
            calls := others }
  | miss (others : List LockCall) (perm : state.calls.Perm (.lookUp :: others))
      (absent : state.krnlCpuVma = none) (idle : mappers state.calls = 0)
      : LockStep state { state with calls := .map :: others }
  | map (others : List LockCall) (perm : state.calls.Perm (.map :: others))
      : LockStep state
          { state with
            nextVma := state.nextVma + 1
            calls := .install (some state.nextVma) :: others }
  | install (vma : Option Nat) (others : List LockCall)
      (perm : state.calls.Perm (.install vma :: others))
      : LockStep state
          { state with
            krnlCpuVma := vma
            refCnt := vma.elim state.refCnt fun vma => Function.update state.refCnt vma 1
            locked := state.locked + 1
            calls := others }
  | release (vma : Nat) (present : state.krnlCpuVma = some vma) (some : state.locked ≠ 0)
      (last : state.refCnt vma - 1 = 0)
      : LockStep state
          { state with
            refCnt := Function.update state.refCnt vma (state.refCnt vma - 1)
            krnlCpuVma := none
            locked := state.locked - 1
            calls := .unmap vma :: state.calls }
  | unlock (vma : Nat) (present : state.krnlCpuVma = some vma) (some : state.locked ≠ 0)
      (more : state.refCnt vma - 1 ≠ 0)
      : LockStep state
          { state with
            refCnt := Function.update state.refCnt vma (state.refCnt vma - 1)
            locked := state.locked - 1
            calls := .markPagable :: state.calls }
  | unmap (vma : Nat) (others : List LockCall) (perm : state.calls.Perm (.unmap vma :: others))
      : LockStep state
          { state with
            unmapped := vma :: state.unmapped
            calls := .markPagable :: others }
  | markPagable (others : List LockCall) (perm : state.calls.Perm (.markPagable :: others))
      : LockStep state
          { state with
            tempUnpagable := state.tempUnpagable - 1
            calls := others }

/-- Every step taken alone is one of these, by cases on the action. -/
theorem lockStep_of_next {state after : LockState} {action : LockAction}
    (alone : LockStepAlone state action) (used : state.krnlCpuVma = none ↔ state.locked = 0)
    (taken : state.next action = some after)
    : LockStep state after := by
  cases action with
  | lock resident =>
      cases alone
      cases taken
      exact .lock
  | lookUp position =>
      obtain ⟨others, found, taken⟩ := Option.bind_eq_some_iff.mp taken
      have perm := take_some found
      split at taken
      next vma present =>
        cases taken
        exact .reuse vma others perm present
      next absent =>
        cases taken
        refine .miss others perm absent (List.countP_eq_zero.mpr fun call member => ?_)
        rw [alone absent call member]
        exact Bool.false_ne_true
  | map position outcome =>
      cases alone
      obtain ⟨others, found, taken⟩ := Option.bind_eq_some_iff.mp taken
      cases taken
      exact .map others (take_some found)
  | install position =>
      simp only [next] at taken
      split at taken
      next vma found =>
        cases taken
        exact .install vma _ (Bag.perm_cons_eraseIdx found)
      next => cases taken
  | unlock =>
      simp only [next] at taken
      split at taken
      next => cases taken
      next some =>
        split at taken
        next absent => exact absurd (used.mp absent) some
        next vma present =>
          split at taken
          next last =>
            cases taken
            exact .release vma present some last
          next more =>
            cases taken
            exact .unlock vma present some more
  | unmap position =>
      simp only [next] at taken
      split at taken
      next vma found =>
        cases taken
        exact .unmap vma _ (Bag.perm_cons_eraseIdx found)
      next => cases taken
  | markPagable position =>
      obtain ⟨others, found, taken⟩ := Option.bind_eq_some_iff.mp taken
      cases taken
      exact .markPagable others (take_some found)

/-- The calls that make a mapping, when one call is taken up. -/
theorem mappers_perm {calls others : List LockCall} {call : LockCall}
    (perm : calls.Perm (call :: others))
    : mappers calls = mappers others + if call.mapping then 1 else 0 := by
  rw [mappers, perm.countP_eq]
  exact mappers_cons call others

/-- A step taken alone leaves at most one call making a mapping. -/
theorem LockStep.alone {state after : LockState} (step : LockStep state after)
    (h : state.Alone) : after.Alone := by
  cases step with
  | lock => exact h.change rfl (by simp [LockCall.mapping]) (by simp)
  | reuse vma others perm present =>
      refine h.change rfl ?_ fun failed => perm.mem_iff.mpr (List.mem_cons_of_mem _ failed)
      rw [mappers_perm perm]
      exact Nat.le_add_right _ _
  | miss others perm absent idle =>
      rw [mappers_perm perm] at idle
      refine ⟨?_, fun _ => absent, ?_⟩
      · rw [mappers_cons, Nat.eq_zero_of_add_eq_zero_right idle]
        exact Nat.le_refl 1
      · intro failed
        rcases List.mem_cons.mp failed with same | other
        · cases same
        · exact h.success (perm.mem_iff.mpr (List.mem_cons_of_mem _ other))
  | map others perm =>
      refine h.change rfl ?_ ?_
      · rw [mappers_perm perm]
        exact Nat.le_of_eq (mappers_cons _ others)
      · simp [perm.mem_iff]
  | install vma others perm =>
      have one := h.one
      rw [mappers_perm perm] at one
      refine .of_none (Nat.le_zero.mp (Nat.le_of_add_le_add_right one)) fun failed => ?_
      exact h.success (perm.mem_iff.mpr (List.mem_cons_of_mem _ failed))
  | release vma present some last =>
      have idle : mappers state.calls = 0 :=
        Nat.eq_zero_of_not_pos fun making => by cases present.symm.trans (h.unmapped making)
      refine .of_none ?_ (by simpa using h.success)
      rw [mappers_cons, idle]
      rfl
  | unlock vma present some more => exact h.change rfl (by simp [LockCall.mapping]) (by simp)
  | unmap vma others perm =>
      refine h.change rfl ?_ ?_
      · rw [mappers_perm perm, mappers_cons]
        exact Nat.le_refl _
      · simp [perm.mem_iff]
  | markPagable others perm =>
      refine h.change rfl ?_ fun failed => perm.mem_iff.mpr (List.mem_cons_of_mem _ failed)
      rw [mappers_perm perm]
      exact Nat.le_add_right _ _

/-- The pins, when one call is taken up. -/
theorem Counted.pins_perm {state : LockState} (h : state.Counted) {call : LockCall}
    {others : List LockCall} (perm : state.calls.Perm (call :: others))
    : state.tempUnpagable = state.locked + others.length + 1 := by
  rw [h.pins, perm.length_eq, List.length_cons]
  push_cast
  omega

/-- The mappings held, when one call is taken up. -/
theorem Counted.held_perm {state : LockState} (h : state.Counted) {call : LockCall}
    {others : List LockCall} (perm : state.calls.Perm (call :: others)) (vma : Nat)
    : state.krnlCpuVma.toList.count vma
          + (call.vmas.count vma + (others.flatMap LockCall.vmas).count vma)
          + state.unmapped.count vma
        = if vma < state.nextVma then 1 else 0 := by
  rw [← h.held vma, vmas_perm perm, List.flatMap_cons, List.count_append]

/-- A step taken alone keeps the mapping counted. -/
theorem LockStep.counted {state after : LockState} (step : LockStep state after)
    (h : state.Counted) (single : state.Alone) : after.Counted := by
  cases step with
  | lock =>
      refine ⟨?_, h.references, h.used, h.held⟩
      rw [h.pins, List.length_cons]
      push_cast
      omega
  | reuse vma others perm present =>
      have pins := h.pins_perm perm
      refine ⟨?_, ?_, ?_, fun other => ?_⟩
      · push_cast
        omega
      · intro other same
        cases present.symm.trans same
        dsimp only
        rw [Function.update_self, h.references vma present]
        push_cast
        rfl
      · simp [present]
      · rw [← h.held_perm perm other, vmas, List.count_append, List.count_append]
        simp [LockCall.vmas]
  | miss others perm absent idle =>
      refine ⟨?_, h.references, h.used, fun other => ?_⟩
      · rw [h.pins_perm perm, List.length_cons]
        push_cast
        omega
      · rw [← h.held_perm perm other, vmas, List.count_append, List.count_append]
        simp [LockCall.vmas]
  | map others perm =>
      refine ⟨?_, h.references, h.used, fun other => ?_⟩
      · rw [h.pins_perm perm, List.length_cons]
        push_cast
        omega
      · have old := h.held_perm perm other
        simp only [vmas, List.count_append, List.flatMap_cons, LockCall.vmas, List.count_cons,
          List.count_nil, beq_iff_eq] at old ⊢
        split_ifs at old ⊢ <;> omega
  | install vma others perm =>
      have making : 0 < mappers state.calls := by
        rw [mappers_perm perm]
        exact Nat.succ_pos _
      have absent := single.unmapped making
      have none := h.used.mp absent
      have pins := h.pins_perm perm
      cases vma with
      | none => exact absurd (perm.mem_iff.mpr List.mem_cons_self) single.success
      | some vma =>
          refine ⟨?_, ?_, ?_, fun other => ?_⟩
          · push_cast
            omega
          · rintro other ⟨⟩
            simp [none]
          · simp
          · rw [← h.held_perm perm other, absent]
            simp only [vmas, List.count_append, LockCall.vmas, Option.toList_some,
              Option.toList_none, List.count_nil]
            omega
  | release vma present some last =>
      have counted := h.references vma present
      refine ⟨?_, ?_, ?_, fun other => ?_⟩
      · dsimp only
        rw [h.pins, List.length_cons]
        omega
      · rintro other ⟨⟩
      · simp only [true_iff]
        omega
      · rw [← h.held other]
        simp only [vmas, present, List.count_append, List.flatMap_cons, LockCall.vmas,
          Option.toList_some, Option.toList_none, List.count_nil]
        omega
  | unlock vma present some more =>
      have counted := h.references vma present
      refine ⟨?_, ?_, ?_, h.held⟩
      · dsimp only
        rw [h.pins, List.length_cons]
        omega
      · intro other same
        cases present.symm.trans same
        dsimp only
        rw [Function.update_self]
        omega
      · simp only [present, reduceCtorEq, false_iff]
        omega
  | unmap vma others perm =>
      refine ⟨?_, h.references, h.used, fun other => ?_⟩
      · rw [h.pins_perm perm, List.length_cons]
        push_cast
        omega
      · rw [← h.held_perm perm other]
        simp only [vmas, List.count_append, List.flatMap_cons, LockCall.vmas, List.nil_append,
          List.count_cons, List.count_nil]
        omega
  | markPagable others perm =>
      have pins := h.pins_perm perm
      refine ⟨?_, h.references, h.used, fun other => ?_⟩
      · dsimp only
        omega
      · rw [← h.held_perm perm other, vmas, List.count_append, List.count_append]
        simp [LockCall.vmas]

/-- In every run of lock and unlock calls on an allocation whose residency and mapping steps
succeed and that never make two mappings at once, the mapping exists exactly while locks
are outstanding and counts them, every mapping ever made is held in one place or was
unmapped once, and each outstanding lock or call under way accounts for one pin.
-/
theorem krnlCpuVma_counted {state : LockState}
    (reached : lockSystem.ReachableUnder LockStepAlone state)
    : (0 < state.locked
        → ∃ vma, state.krnlCpuVma = some vma ∧ state.refCnt vma = state.locked)
      ∧ (state.locked = 0 → state.krnlCpuVma = none)
      ∧ (∀ vma, state.vmas.count vma = if vma < state.nextVma then 1 else 0)
      ∧ state.tempUnpagable = state.locked + state.calls.length := by
  have ⟨counted, _⟩ : state.Counted ∧ state.Alone := by
    apply reached.invariant
    · rintro first ⟨pins, absent, none, fresh, empty, zero⟩
      refine ⟨⟨?_, ?_, ?_, ?_⟩, .of_none ?_ ?_⟩
      · simp [pins, empty, zero]
      · simp [absent]
      · simp [absent, zero]
      · simp [vmas, absent, none, fresh, empty]
      · simp [mappers, empty]
      · simp [empty]
    · rintro before action after ⟨counted, single⟩ alone taken
      have step := lockStep_of_next alone counted.used taken
      exact ⟨step.counted counted single, step.alone single⟩
  refine ⟨fun positive => ?_, counted.used.mpr, counted.held, counted.pins⟩
  cases present : state.krnlCpuVma with
  | none => exact absurd (counted.used.mp present) (Nat.ne_of_gt positive)
  | some vma => exact ⟨vma, rfl, counted.references vma present⟩

/-- The allocation before any call. -/
def fresh : LockState := ⟨0, none, fun _ => 0, [], 0, [], 0⟩

/-- Two threads lock one after the other, and one of them unlocks. -/
theorem krnlCpuVma_counted_twoLocks
    : ∃ state : LockState,
        System.replay next fresh
            [.lock true, .lookUp 0, .map 0 .mapped, .lock true, .install 1, .lookUp 0, .unlock]
          = some state
        ∧ (0 < state.locked
          → ∃ vma, state.krnlCpuVma = some vma ∧ state.refCnt vma = state.locked)
        ∧ (state.locked = 0 → state.krnlCpuVma = none)
        ∧ (∀ vma, state.vmas.count vma = if vma < state.nextVma then 1 else 0)
        ∧ state.tempUnpagable = state.locked + state.calls.length := by
  refine ⟨_, rfl, krnlCpuVma_counted (System.ReachableUnder.replay
    [.lock true, .lookUp 0, .map 0 .mapped, .lock true, .install 1, .lookUp 0, .unlock]
    (show fresh.Fresh from ⟨rfl, rfl, rfl, rfl, rfl, rfl⟩) (by decide) rfl)⟩

/-- Two first locks that both find no mapping install one each: the first mapping is dropped
while two locks are outstanding, and the second one is unmapped under one of them. A lock
that fails keeps its pin.
-/
theorem krnlCpuVma_dropped
    : (∃ state : LockState,
        System.replay next fresh
            [.lock true, .lock true, .lookUp 0, .lookUp 1, .map 0 .mapped, .map 1 .mapped,
              .install 0, .install 0]
          = some state
        ∧ state.calls = [] ∧ state.locked = 2 ∧ state.krnlCpuVma = some 0
        ∧ state.refCnt 0 = 1 ∧ 1 ∉ state.vmas)
      ∧ (∃ state : LockState,
        System.replay next fresh
            [.lock true, .lock true, .lookUp 0, .lookUp 1, .map 0 .mapped, .map 1 .mapped,
              .install 0, .install 0, .unlock, .unmap 0, .markPagable 0]
          = some state
        ∧ state.calls = [] ∧ state.locked = 1 ∧ state.krnlCpuVma = none)
      ∧ ∃ state : LockState,
        System.replay next fresh [.lock false] = some state
        ∧ state.calls = [] ∧ state.locked = 0 ∧ state.tempUnpagable = 1 := by
  refine ⟨⟨_, rfl, rfl, rfl, ?_⟩, ⟨_, rfl, rfl, rfl, ?_⟩, ⟨_, rfl, rfl, rfl, rfl⟩⟩
  · decide
  · decide

end LockState

end Cx4Kernel.Vidmm
