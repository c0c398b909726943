import Cx4Kernel.Foundation.MachineInt
import Cx4Kernel.Foundation.Transition

/-! The fence counters of one engine scheduler: `vidsch.c` and `vidsch_render.c` under
`fence_lock`, against a fence slot that may hold any value.
-/

namespace Cx4Kernel.Vidsch

open Cx4Kernel.Foundation

/-- The fields of `vidsch_mgr_t` that `fence_lock` guards, and the queue size they are
compared with.
-/
structure FenceCounters where
  lastSendFenceId : U64
  returnedFenceId : U64
  /-- an `int` in the source -/
  uncompleteTaskNum : U32
  hwQueueSize : U32
deriving DecidableEq

/-- The counters after the scheduler is created. -/
def fenceCountersInit (hwQueueSize : U32) : FenceCounters := ⟨0, 0, 0, hwQueueSize⟩

/-- `uncomplete_task_num = last_send_fence_id - returned_fence_id`, cut to an `int`. -/
def countUncomplete (counters : FenceCounters) : FenceCounters :=
  { counters with
    uncompleteTaskNum :=
      (counters.lastSendFenceId - counters.returnedFenceId).setWidth 32 }

/-- `vidschi_inc_send_fence_id`: the counters and the new fence id. -/
def vidschiIncSendFenceId (counters : FenceCounters) : FenceCounters × U64 :=
  let sent := countUncomplete { counters with lastSendFenceId := counters.lastSendFenceId + 1 }
  (sent, sent.lastSendFenceId)

/-- What `vidschi_update_fence_id` leaves behind, with its two results. -/
structure FenceUpdate where
  counters : FenceCounters
  updateNew : Bool
  currReturned : U64

/-- `vidschi_update_fence_id`, with the value `newFence` in the fence slot. -/
def vidschiUpdateFenceId (counters : FenceCounters) (newFence : U64) : FenceUpdate :=
  let oldFence := counters.returnedFenceId
  -- the upper check looks at the old fence, not at the new one
  if newFence > counters.returnedFenceId ∧ oldFence ≤ counters.lastSendFenceId then
    ⟨countUncomplete { counters with returnedFenceId := newFence }, true, newFence⟩
  else ⟨counters, false, counters.returnedFenceId⟩

/-- `vidsch_is_fence_back`. -/
def vidschIsFenceBack (counters : FenceCounters) (newFence fenceId : U64)
    : FenceCounters × Bool :=
  let updated := (vidschiUpdateFenceId counters newFence).counters
  (updated, fenceId ≤ updated.returnedFenceId)

/-- What `vidschi_can_prepare_dma_task` leaves behind, with its result. -/
structure PrepareCheck where
  counters : FenceCounters
  can : Bool
  waitDmaFence : Option Bool

/-- `vidschi_can_prepare_dma_task`, with the value `newFence` in the fence slot. The task
may wait for a dma fence, which is signaled or not.
-/
def vidschiCanPrepareDmaTask (counters : FenceCounters) (newFence : U64)
    (waitDmaFence : Option Bool) : PrepareCheck :=
  let read := countUncomplete { counters with returnedFenceId := newFence }
  if read.uncompleteTaskNum < read.hwQueueSize then
    match waitDmaFence with
    | some true => ⟨read, true, none⟩
    | some false => ⟨read, false, some false⟩
    | none => ⟨read, true, none⟩
  else ⟨read, false, waitDmaFence⟩

/-- Every step that touches the counters, with the value the fence slot has then. -/
inductive FenceAction where
  | incSendFenceId
  | updateFenceId (newFence : U64)
  | isFenceBack (newFence fenceId : U64)
  | canPrepareDmaTask (newFence : U64) (waitDmaFence : Option Bool)

namespace FenceCounters

/-- The counters after one step. -/
def after (counters : FenceCounters) : FenceAction → FenceCounters
  | .incSendFenceId => (vidschiIncSendFenceId counters).1
  | .updateFenceId newFence => (vidschiUpdateFenceId counters newFence).counters
  | .isFenceBack newFence fenceId => (vidschIsFenceBack counters newFence fenceId).1
  | .canPrepareDmaTask newFence waitDmaFence =>
      (vidschiCanPrepareDmaTask counters newFence waitDmaFence).counters

/-- One step of any user, always enabled. -/
def next (counters : FenceCounters) (action : FenceAction) : Option FenceCounters :=
  some (counters.after action)

/-- The fence counters under every interleaving of their users. -/
def system : System FenceCounters FenceAction :=
  System.ofFunction (fun counters => ∃ hwQueueSize, counters = fenceCountersInit hwQueueSize)
    next

/-- The returned fence is one that was sent, and the number of uncompleted tasks counts
the fences in between, without overflow of the `int`.
-/
structure Consistent (counters : FenceCounters) : Prop where
  returned_le : counters.returnedFenceId ≤ counters.lastSendFenceId
  counted : counters.uncompleteTaskNum.toInt
    = counters.lastSendFenceId.toNat - counters.returnedFenceId.toNat

/-- The steps that keep the counters consistent: a slot value that is taken over must have
been sent and not lie behind the returned fence, and neither the fence ids nor the number
of uncompleted tasks may overflow.
-/
def Admits (counters : FenceCounters) : FenceAction → Prop
  | .incSendFenceId =>
      counters.lastSendFenceId.toNat + 1 < 2 ^ 64
      ∧ counters.lastSendFenceId.toNat + 1 - counters.returnedFenceId.toNat < 2 ^ 31
  | .updateFenceId newFence | .isFenceBack newFence _ =>
      newFence ≤ counters.returnedFenceId ∨ newFence ≤ counters.lastSendFenceId
  | .canPrepareDmaTask newFence _ =>
      counters.returnedFenceId ≤ newFence ∧ newFence ≤ counters.lastSendFenceId

instance (counters : FenceCounters) : ∀ action, Decidable (counters.Admits action)
  | .incSendFenceId | .canPrepareDmaTask _ _ => inferInstanceAs (Decidable (_ ∧ _))
  | .updateFenceId _ | .isFenceBack _ _ => inferInstanceAs (Decidable (_ ∨ _))

variable {counters : FenceCounters}

/-- A count of uncompleted tasks is right exactly if it fits an `int`. -/
theorem countUncomplete_consistent
    : (countUncomplete counters).Consistent
      ↔ counters.returnedFenceId ≤ counters.lastSendFenceId
        ∧ counters.lastSendFenceId.toNat - counters.returnedFenceId.toNat < 2 ^ 31 := by
  have cut (returned_le : counters.returnedFenceId ≤ counters.lastSendFenceId)
      : (countUncomplete counters).uncompleteTaskNum.toNat
        = (counters.lastSendFenceId.toNat - counters.returnedFenceId.toNat) % 2 ^ 32 := by
    rw [countUncomplete, BitVec.toNat_setWidth, BitVec.toNat_sub_of_le returned_le]
  constructor
  · intro consistent
    have returned_le : counters.returnedFenceId ≤ counters.lastSendFenceId :=
      consistent.returned_le
    have counted := consistent.counted
    have value := cut returned_le
    rw [BitVec.toInt_eq_toNat_cond, value] at counted
    simp only [countUncomplete] at counted
    rw [BitVec.le_def] at returned_le
    refine ⟨consistent.returned_le, ?_⟩
    split at counted <;> omega
  · intro h
    obtain ⟨returned_le, fits⟩ := h
    have value := cut returned_le
    rw [BitVec.le_def] at returned_le
    refine ⟨BitVec.le_def.mpr returned_le, ?_⟩
    rw [BitVec.toInt_eq_toNat_of_lt (by omega), value]
    simp only [countUncomplete]
    omega

/-- Consistent counters are far from an overflow. -/
theorem Consistent.fits (consistent : counters.Consistent)
    : counters.lastSendFenceId.toNat - counters.returnedFenceId.toNat < 2 ^ 31 := by
  have returned_le := BitVec.le_def.mp consistent.returned_le
  have counted := consistent.counted
  have below := BitVec.toInt_lt (x := counters.uncompleteTaskNum)
  omega

/-- `vidschi_update_fence_id` keeps consistent counters consistent exactly if it is given
nothing newer than what was sent.
-/
theorem vidschiUpdateFenceId_consistent (consistent : counters.Consistent) (newFence : U64)
    : (vidschiUpdateFenceId counters newFence).counters.Consistent
        ∧ counters.returnedFenceId
          ≤ (vidschiUpdateFenceId counters newFence).counters.returnedFenceId
      ↔ newFence ≤ counters.returnedFenceId ∨ newFence ≤ counters.lastSendFenceId := by
  have fits := consistent.fits
  by_cases newer : newFence > counters.returnedFenceId
  · have taken : (vidschiUpdateFenceId counters newFence).counters
        = countUncomplete { counters with returnedFenceId := newFence } := by
      simp only [vidschiUpdateFenceId, if_pos (And.intro newer consistent.returned_le)]
    rw [taken, countUncomplete_consistent]
    simp only [countUncomplete]
    simp only [GT.gt, BitVec.le_def, BitVec.lt_def] at newer ⊢
    omega
  · have kept : (vidschiUpdateFenceId counters newFence).counters = counters := by
      simp only [vidschiUpdateFenceId, if_neg (mt And.left newer)]
    rw [kept]
    exact ⟨fun _ => .inl (BitVec.not_lt.mp newer), fun _ => ⟨consistent, BitVec.le_refl _⟩⟩

/-- A step keeps consistent counters consistent and the returned fence from going back
exactly if it is admitted, by cases on the step.
-/
theorem after_consistent_iff (consistent : counters.Consistent) (action : FenceAction)
    : (counters.after action).Consistent
        ∧ counters.returnedFenceId ≤ (counters.after action).returnedFenceId
      ↔ counters.Admits action := by
  cases action with
  | incSendFenceId =>
      have fits := consistent.fits
      have returned_le := consistent.returned_le
      simp only [after, vidschiIncSendFenceId, countUncomplete_consistent, Admits]
      simp only [countUncomplete]
      have sum : (counters.lastSendFenceId + 1).toNat
          = (counters.lastSendFenceId.toNat + 1) % 2 ^ 64 := BitVec.toNat_add ..
      simp only [BitVec.le_def, sum] at returned_le ⊢
      omega
  | updateFenceId newFence => exact vidschiUpdateFenceId_consistent consistent newFence
  | isFenceBack newFence fenceId => exact vidschiUpdateFenceId_consistent consistent newFence
  | canPrepareDmaTask newFence waitDmaFence =>
      have fits := consistent.fits
      have read : counters.after (.canPrepareDmaTask newFence waitDmaFence)
          = countUncomplete { counters with returnedFenceId := newFence } := by
        simp only [after, vidschiCanPrepareDmaTask]
        repeat' split
        all_goals rfl
      rw [read, countUncomplete_consistent]
      simp only [countUncomplete, Admits, BitVec.le_def]
      omega

/-- New counters are consistent. -/
theorem fenceCountersInit_consistent (hwQueueSize : U32)
    : (fenceCountersInit hwQueueSize).Consistent :=
  ⟨BitVec.le_refl _, rfl⟩

/-- From `first` to `last` the returned fence has not gone back, and in `last` it is within
what was sent, with the right and nonnegative number of uncompleted tasks.
-/
structure Advances (first last : FenceCounters) : Prop where
  monotone : first.returnedFenceId ≤ last.returnedFenceId
  within : last.returnedFenceId ≤ last.lastSendFenceId
  counted : last.uncompleteTaskNum.toInt
    = last.lastSendFenceId.toNat - last.returnedFenceId.toNat
  nonnegative : 0 ≤ last.uncompleteTaskNum.toInt

/-- The counters advance between any two states of an admitted run, which keeps them
consistent and moves the returned fence forward at every step.
-/
theorem returnedFenceId_advances {first last : FenceCounters}
    (reached : system.ReachableUnder Admits first) (run : system.RunUnder Admits first last)
    : first.Advances last := by
  have kept : ∀ before action after, Consistent before → before.Admits action
      → system.step before action after → Consistent after := by
    intro before action after consistent permitted taken
    obtain rfl := Option.some.inj taken
    exact ((after_consistent_iff consistent action).mpr permitted).1
  have start : Consistent first := by
    apply reached.invariant
    · intro counters begins
      obtain ⟨hwQueueSize, rfl⟩ := begins
      exact fenceCountersInit_consistent hwQueueSize
    · exact kept
  have last_consistent := run.invariant kept start
  refine ⟨?_, last_consistent.returned_le, last_consistent.counted, ?_⟩
  · apply run.related (fun before after => before.returnedFenceId ≤ after.returnedFenceId)
      (fun _ => BitVec.le_refl _) BitVec.le_trans kept _ start
    intro before action after consistent permitted taken
    obtain rfl := Option.some.inj taken
    exact ((after_consistent_iff consistent action).mpr permitted).2
  · have returned_le := BitVec.le_def.mp last_consistent.returned_le
    have counted := last_consistent.counted
    omega

/-- One task is sent, the slot still reads 0, and then its fence comes back. -/
theorem returnedFenceId_advances_oneTask
    : (fenceCountersInit 8).Advances ⟨1, 1, 0, 8⟩ := by
  have run : system.RunUnder Admits (fenceCountersInit 8) ⟨1, 1, 0, 8⟩ :=
    .replay [.incSendFenceId, .updateFenceId 0, .canPrepareDmaTask 1 none] (by decide) rfl
  exact returnedFenceId_advances (.start ⟨8, rfl⟩) run

/-- Without the condition a slot value that was never sent is taken over: right after the
start the slot holds 5.
-/
theorem returnedFenceId_exceeds_sent
    : ¬ ∀ counters, system.Reachable counters
      → counters.returnedFenceId ≤ counters.lastSendFenceId := by
  intro within
  have reached : system.Reachable ⟨0, 5, BitVec.ofInt 32 (-5), 8⟩ :=
    .replay [.updateFenceId 5] ⟨8, rfl⟩ rfl
  exact absurd (within _ reached) (by decide)

end FenceCounters

end Cx4Kernel.Vidsch
