import Cx4Kernel.Vidsch.GfxCommands

/-! When all dwords of a graphics submission are defined. A task that ignores its DMAs leaves
out the skip behind them too, and part 3 does not reach the end of what was claimed.
-/

namespace Cx4Kernel.Vidsch

open Foundation Util

theorem RbCmdPart1.length_words (part1 : RbCmdPart1) : part1.words.length = RbCmdPart1.size := by
  simp [words, ContextDmaCmd.words, size]

theorem RbCmdPart2.length_words (part2 : RbCmdPart2) : part2.words.length = RbCmdPart2.size :=
  rfl

theorem RbCmdPart3.length_words (part3 : RbCmdPart3) : part3.words.length = RbCmdPart3.size := by
  simp [words, ContextDmaCmd.words, FenceCmd.words, size]

-----------------------------------------------------------------------------------------
-- The number of dwords
-----------------------------------------------------------------------------------------

/-- `ring_buffer_size` loses what does not fit in 32 bits. -/
theorem toNat_ringBufferSize (dmaCnt : U32)
    : (ringBufferSize dmaCnt).toNat = (56 + 3 * dmaCnt.toNat) % 2 ^ 32 := by
  rw [ringBufferSize, BitVec.toNat_ofNat, RbCmdPart1.size, RbCmdPart2.size, RbCmdPart3.size,
    Nat.add_right_comm]

/-- `util_align` rounds up to a multiple of 16. -/
theorem toNat_utilAlign16 (size : U32)
    : (utilAlign16 size).toNat = (size.toNat + 15) % 2 ^ 32 / 16 * 16 := by
  have sum : (size + 16 - 1 : U32) = size + 15 := by bv_omega
  have low := @toNat_and_not_ones 32 (size + 15) (16 - 1) 4 rfl
  rw [utilAlign16, sum, low, BitVec.toNat_add]
  rfl

/-- The dwords of the parts and the skip are as many as are claimed if the claim can be counted
in bytes.
-/
theorem dwords_eq_claimed_iff (number : Nat)
    : number + (2 ^ 32 - number % 2 ^ 32 + (number % 2 ^ 32 + 15) % 2 ^ 32 / 16 * 16) % 2 ^ 32
        = (number % 2 ^ 32 + 15) % 2 ^ 32 / 16 * 16 * 2 ^ 2 % 2 ^ 32 / 4
      ↔ number ≤ 2 ^ 30 - 16 := by
  by_cases small : number < 2 ^ 30
  · have size : number % 2 ^ 32 = number := Nat.mod_eq_of_lt (by omega)
    have rounded : (number + 15) % 2 ^ 32 = number + 15 := Nat.mod_eq_of_lt (by omega)
    rw [size, rounded]
    omega
  · have below : (number % 2 ^ 32 + 15) % 2 ^ 32 / 16 * 16 * 2 ^ 2 % 2 ^ 32 / 4 < 2 ^ 30 := by
      have := Nat.mod_lt ((number % 2 ^ 32 + 15) % 2 ^ 32 / 16 * 16 * 2 ^ 2)
        (by decide : 0 < 2 ^ 32)
      omega
    refine iff_of_false ?_ (by omega)
    intro same
    exact small (Nat.lt_of_le_of_lt (Nat.le_add_right _ _) (same ▸ below))

/-- What a submission promises of the ring: it claims a multiple of 16 dwords, each of which is
stored or lies in the skip, it stores nothing outside them, and part 3 is at their end.
-/
structure GfxSubmission.Defined (submission : GfxSubmission) : Prop where
  multiple : 16 ∣ submission.claimed
  covered : ∀ place, submission.first ≤ place → place < submission.first + submission.claimed
    → submission.cursor.Covered place
  inside : ∀ place, submission.cursor.Covered place
    → submission.first ≤ place ∧ place < submission.first + submission.claimed
  ends : submission.part3 + RbCmdPart3.size = submission.first + submission.claimed

namespace GfxTask

variable {task : GfxTask} {cursor : StoreCursor U32} {first : Nat}

/-- The loop over the DMAs and the skip fill their dwords. -/
theorem fillPart2_fills (fills : cursor.Fills first) (skipCount : U32)
    : (task.fillPart2 skipCount cursor).Fills first
      ∧ (task.fillPart2 skipCount cursor).place
        = cursor.place + 3 * task.dmaCnt.toNat + skipCount.toNat := by
  obtain ⟨filled, place⟩ := fills.foldl
    (fun cursor node => cursor.copy (part2 node).words) (fun node => (part2 node).words)
    (fun _ _ => rfl) 3 (fun node => (part2 node).length_words) task.dmaBufferList
  rw [task.counted] at place
  unfold fillPart2
  dsimp only
  by_cases skips : skipCount = 0
  · rw [if_neg (not_not.mpr skips), skips]
    exact ⟨filled, place⟩
  · have positive : 0 < skipCount.toNat := by
      apply Nat.pos_of_ne_zero
      intro zero
      exact skips (BitVec.eq_of_toNat_eq zero)
    rw [if_pos skips]
    exact ⟨filled.jump _ positive, congrArg (· + skipCount.toNat) place⟩

/-- What a submission stores and claims: the dwords from the first one on, without a gap, in a
number of its own.
-/
theorem write_spec {engine : GfxEngine} {readOffsets : List U32} {submission : GfxSubmission}
    (returned : task.engineiWriteCommandsToGfxLowE3k engine readOffsets = some submission)
    : submission.cursor.Fills submission.first
      ∧ submission.part3 + RbCmdPart3.size = submission.cursor.place
      ∧ submission.claimed
        = (utilAlign16 (ringBufferSize task.dmaCnt) <<< 2).toNat / 4
      ∧ submission.cursor.place = submission.first + 56
        + if task.ignoreDma then 0
          else 3 * task.dmaCnt.toNat
            + (utilAlign16 (ringBufferSize task.dmaCnt) - ringBufferSize task.dmaCnt).toNat := by
  obtain ⟨ctxSwitch, _, returned⟩ := Option.bind_eq_some_iff.mp returned
  obtain ⟨⟨ring, offset⟩, _, returned⟩ := Option.bind_eq_some_iff.mp returned
  dsimp only at returned
  generalize task.contextCmds engine.share ctxSwitch = cmds at returned
  obtain rfl := Option.some.inj returned
  have third := fun part3 : RbCmdPart3 => part3.length_words
  have start : (StoreCursor.start U32 (offset.toNat / 4)).Fills (offset.toNat / 4) :=
    StoreCursor.fills_start _
  have filled := start.copy (task.part1 engine cmds.1).words
  have place : ((StoreCursor.start U32 (offset.toNat / 4)).copy
      (task.part1 engine cmds.1).words).place = offset.toNat / 4 + 26 :=
    congrArg (offset.toNat / 4 + ·) (RbCmdPart1.length_words _)
  dsimp only
  cases ignores : task.ignoreDma with
  | true =>
      rw [if_pos rfl, if_pos rfl]
      refine ⟨filled.copy _, congrArg (_ + ·) (third _).symm, rfl, ?_⟩
      rw [StoreCursor.copy_place, third, place, RbCmdPart3.size]
  | false =>
      obtain ⟨whole, behind⟩ := fillPart2_fills filled
        (utilAlign16 (ringBufferSize task.dmaCnt) - ringBufferSize task.dmaCnt)
      rw [if_neg Bool.false_ne_true, if_neg Bool.false_ne_true]
      refine ⟨whole.copy _, congrArg (_ + ·) (third _).symm, rfl, ?_⟩
      rw [StoreCursor.copy_place, third, behind, place, RbCmdPart3.size]
      omega

-----------------------------------------------------------------------------------------
-- When all dwords are defined
-----------------------------------------------------------------------------------------

/-- Part 3 ends with what was claimed exactly for the tasks that do not ignore their DMAs and
whose dwords can be counted in bytes.
-/
theorem ends_iff {engine : GfxEngine} {readOffsets : List U32} {submission : GfxSubmission}
    (returned : task.engineiWriteCommandsToGfxLowE3k engine readOffsets = some submission)
    : submission.cursor.place = submission.first + submission.claimed
      ↔ task.ignoreDma = false ∧ 56 + 3 * task.dmaCnt.toNat ≤ 2 ^ 30 - 16 := by
  obtain ⟨_, _, claimed, place⟩ := write_spec returned
  have aligned := toNat_utilAlign16 (ringBufferSize task.dmaCnt)
  rw [BitVec.toNat_shiftLeft, Nat.shiftLeft_eq, aligned, toNat_ringBufferSize] at claimed
  rw [BitVec.toNat_sub, aligned, toNat_ringBufferSize] at place
  cases ignores : task.ignoreDma with
  | true =>
      rw [ignores, if_pos rfl] at place
      simp only [Bool.true_eq_false, false_and, iff_false]
      omega
  | false =>
      rw [ignores, if_neg Bool.false_ne_true, Nat.add_assoc, ← Nat.add_assoc 56] at place
      rw [place, claimed, Nat.add_left_cancel_iff, dwords_eq_claimed_iff]
      exact (and_iff_right rfl).symm

/-- The ring is claimed in multiples of 16 dwords. -/
theorem dvd_claimed {engine : GfxEngine} {readOffsets : List U32} {submission : GfxSubmission}
    (returned : task.engineiWriteCommandsToGfxLowE3k engine readOffsets = some submission)
    : 16 ∣ submission.claimed := by
  obtain ⟨_, _, claimed, _⟩ := write_spec returned
  have aligned := toNat_utilAlign16 (ringBufferSize task.dmaCnt)
  rw [BitVec.toNat_shiftLeft, Nat.shiftLeft_eq, aligned] at claimed
  omega

/-- A submission defines all dwords it claims exactly for the tasks that do not ignore their
DMAs and whose dwords can be counted in bytes.
-/
theorem submission_defined_iff (task : GfxTask) (engine : GfxEngine) (readOffsets : List U32)
    (submission : GfxSubmission)
    (returned : task.engineiWriteCommandsToGfxLowE3k engine readOffsets = some submission)
    : submission.Defined
      ↔ task.ignoreDma = false ∧ 56 + 3 * task.dmaCnt.toNat ≤ 2 ^ 30 - 16 := by
  obtain ⟨fills, part3, _⟩ := write_spec returned
  rw [← ends_iff returned]
  constructor
  · intro defined
    exact part3.symm.trans defined.ends
  · intro ends
    refine ⟨dvd_claimed returned, ?_, ?_, part3.trans ends⟩
    · intro place from_first before
      exact (fills.covered place).mpr ⟨from_first, ends ▸ before⟩
    · intro place covered
      rw [← ends]
      exact (fills.covered place).mp covered

/-- A task with one DMA of 16 bytes. -/
def oneDma (ignoreDma : Bool) : GfxTask where
  client := .vulkan
  hwctxIsInitialized := false
  type := .render
  dmaType := .draw3d
  vmId := 1
  fenceId := 1
  needSendIrq := false
  needHwctxSwitch := false
  ignoreDma := ignoreDma
  initializeContext := false
  ctxBufVa := 0
  dmaCnt := 1
  dmaBufferList := [⟨16, 0x1000⟩]
  counted := rfl

/-- A graphics engine with an empty ring. -/
def idleGfx : GfxEngine where
  share := {
    rbCmdPart1 := ⟨0, 0, .replicate 8 0, 8, .replicate 8 0, 0, 0, 0, .zero⟩
    rbCmdPart3 := ⟨0, 0, 0, .zero, ⟨0, 0, 0, 0, 0⟩, ⟨0, 0, 0, 0, 0⟩, .replicate 11 0, 0, 0⟩
    cacheflushBufferGpuVa3d := 0x2000
    contextRestoreDmaGpuVa := 0x3000
    contextRestoreDmaGpuVaCs := 0x4000
    contextSaveDmaGpuVa := 0x5000
    contextBufGpuVa := 0x6000
    contextRestoreDmaGpuVaForVk := 0x7000
    contextBufGpuVaForVk := 0x8000 }
  ring := ringBufferInit 0x40000 0
  isGfxl := true
  dvfsIndicated := false
  chipSliceMask := 1
  fenceBufferGpuVa := 0x9000
  monitorCount := 0
  lastSendFenceId := 0
  lastProcessId := 0

theorem oneDma_defined
    : ∃ submission, (oneDma false).engineiWriteCommandsToGfxLowE3k idleGfx [0] = some submission
      ∧ submission.Defined := by
  have granted : ((oneDma false).engineiWriteCommandsToGfxLowE3k idleGfx [0]).isSome := by
    rfl
  obtain ⟨submission, returned⟩ := Option.isSome_iff_exists.mp granted
  exact ⟨submission, returned,
    (submission_defined_iff _ _ _ submission returned).mpr ⟨rfl, by decide⟩⟩

/-- A task that ignores its DMA claims 64 dwords, stores 56 and leaves the rest as it was. -/
theorem ignoredDma_not_defined
    : ∃ submission, (oneDma true).engineiWriteCommandsToGfxLowE3k idleGfx [0] = some submission
      ∧ submission.claimed = 64 ∧ ¬ submission.cursor.Covered (submission.first + 56)
      ∧ ¬ submission.Defined := by
  have granted : ((oneDma true).engineiWriteCommandsToGfxLowE3k idleGfx [0]).isSome := by
    rfl
  obtain ⟨submission, returned⟩ := Option.isSome_iff_exists.mp granted
  obtain ⟨fills, _, claimed, place⟩ := write_spec returned
  have all : submission.claimed = 64 := claimed.trans (by rfl)
  have left : ¬ submission.cursor.Covered (submission.first + 56) := by
    intro covered
    exact Nat.lt_irrefl _ (place ▸ ((fills.covered _).mp covered).2)
  refine ⟨submission, returned, all, left, fun defined => ?_⟩
  exact left (defined.covered _ (Nat.le_add_right _ _) (by omega))

end GfxTask

end Cx4Kernel.Vidsch
