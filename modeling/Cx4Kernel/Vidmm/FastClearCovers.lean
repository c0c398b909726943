import Cx4Kernel.Vidmm.FastClear
import Cx4Kernel.Vidmm.TransferCovers

/-! When the fill commands of an allocation that is not secured cover its bytes exactly once
and keep to their buffers. A call without room for one command leaves through the shared exit
with a null pointer, and a size from 2^32 on is cut to 32 bits.
-/

namespace Cx4Kernel.Vidmm

/-- Subtraction without a borrow. -/
theorem sub32_of_le {left right : Nat} (le : right ≤ left) (small : left < 2 ^ 32)
    : sub32 left right = left - right := by
  unfold sub32
  omega

/-- Where the last rectangle of a number of bytes starts: at the partial line if there is one,
and else at the last of the blocks of 2^30 bytes.
-/
def lastRectangle (size : Nat) : Nat :=
  if size % 65536 = 0 then (size - 1) / 2 ^ 30 * 2 ^ 30 else size / 65536 * 65536

/-- A rectangle is all that is left and starts last, or the last one lies behind it. -/
theorem lastRectangle_firstCut (offset : Nat) {size : Nat} (some : 4 ≤ size)
    (pixels : size % 4 = 0)
    : ((firstCut offset size).bytes = size ∧ lastRectangle size = 0)
      ∨ ((firstCut offset size).bytes + 4 ≤ size
        ∧ lastRectangle size
          = (firstCut offset size).bytes
            + lastRectangle (size - (firstCut offset size).bytes)) := by
  unfold lastRectangle firstCut TransferCut.bytes blitRectangle maxWidth2dblt maxHeight2dblt
  dsimp only
  by_cases small : size < 16 * 1024 * 4
  · simp only [if_pos small]
    split <;> omega
  · simp only [if_neg small]
    split <;> split <;> first | omega | (split <;> omega)

/-- No rectangle starts behind the last one, which is among them. By induction on the bytes
that are left.
-/
theorem cuts_lastRectangle (offset : Nat) {size : Nat} (some : 4 ≤ size) (pixels : size % 4 = 0)
    : (∃ cut ∈ cuts offset size, cut.offset = offset + lastRectangle size)
      ∧ ∀ cut ∈ cuts offset size, cut.offset ≤ offset + lastRectangle size := by
  induction size using Nat.strong_induction_on generalizing offset with
  | _ size ih =>
      have rest := rest_lt offset some pixels
      rw [cuts_cons offset some pixels]
      rcases lastRectangle_firstCut offset some pixels with ⟨all, last⟩ | ⟨more, last⟩
      · rw [all, Nat.sub_self, cuts_zero, last]
        refine ⟨⟨_, List.mem_singleton_self _, rfl⟩, fun cut member => ?_⟩
        rw [List.mem_singleton.mp member]
        exact Nat.le_refl offset
      · obtain ⟨⟨cut, member, starts⟩, behind⟩ :=
          ih _ rest.1 (offset + (firstCut offset size).bytes) (by omega) rest.2
        rw [last, ← Nat.add_assoc]
        refine ⟨⟨cut, List.mem_cons_of_mem _ member, starts⟩, fun other among => ?_⟩
        rcases List.mem_cons.mp among with rfl | later
        · change offset ≤ _
          omega
        · exact behind other later

-----------------------------------------------------------------------------------------
-- The loop
-----------------------------------------------------------------------------------------

namespace FillArg

variable (arg : FillArg)

/-- The command for a rectangle. -/
def cutClear (cut : TransferCut) : FastClear where
  baseAddr := (arg.gpuVirtAddr + cut.offset) % 2 ^ 64 / 256 % 2 ^ 32
  width := cut.width % 2 ^ 15
  height := cut.height % 2 ^ 15
  xMin := 0
  xMax := sub32 cut.width 1 % 2 ^ 16
  yMin := 0
  yMax := sub32 cut.height 1 % 2 ^ 16
  color := arg.fillPattern

/-- The rectangles from an offset on. -/
def cutsFrom (offset : Nat) : List TransferCut :=
  cuts offset (arg.fillSize - offset)

variable {arg}

/-- At an offset where a line starts, the next command is that of the next rectangle. -/
theorem nextClear_eq {offset : Nat} (left : offset < arg.fillSize)
    (whole : (arg.fillSize - offset) % 4 = 0) (small : arg.fillSize < 2 ^ 32)
    : arg.nextClear offset 0
      = (arg.cutClear (firstCut offset (arg.fillSize - offset)),
          (firstCut offset (arg.fillSize - offset)).bytes) := by
  have size : sub32 arg.fillSize32 offset = arg.fillSize - offset := by
    unfold fillSize32
    rw [Nat.mod_eq_of_lt small]
    exact sub32_of_le left.le small
  unfold nextClear
  rw [if_neg (by simp), size]
  unfold cutClear firstCut TransferCut.bytes blitRectangle
  dsimp only
  by_cases last : arg.fillSize - offset < maxWidth2dblt * 4
  · have one : 1 % 2 ^ 15 = 1 ∧ sub32 1 1 % 2 ^ 16 = 0 := ⟨rfl, rfl⟩
    have pixels : (arg.fillSize - offset) / 4 * 1 * 4 = arg.fillSize - offset := by omega
    simp only [if_pos last, one, pixels]
  · simp only [if_neg last]
    have bytes : ∀ lines, (if lines > maxHeight2dblt then maxHeight2dblt else lines)
          * (maxWidth2dblt * 4) % 2 ^ 32
        = maxWidth2dblt * (if lines > maxHeight2dblt then maxHeight2dblt else lines) * 4 := by
      intro lines
      unfold maxWidth2dblt maxHeight2dblt
      split <;> omega
    rw [bytes]

/-- How the loop ends: with all rectangles, or with some of them and the offset where the
next one starts.
-/
inductive LoopEnds (arg : FillArg) (offset : Nat) : List FastClear × Nat × Bool → Prop where
  | finished (after : Nat)
      : LoopEnds arg offset ((arg.cutsFrom offset).map arg.cutClear, after, false)
  | stopped (cut : TransferCut) (front : List TransferCut) (next : Nat) (line : next % 65536 = 0)
      (left : next < arg.fillSize)
      (split : arg.cutsFrom offset = cut :: front ++ arg.cutsFrom next)
      : LoopEnds arg offset ((cut :: front).map arg.cutClear, next, true)

/-- The loop ends so from every offset where a line starts. By induction on the room. -/
theorem fillLoop_ends {room offset : Nat} (some : 0 < room) (line : offset % 65536 = 0)
    (left : offset < arg.fillSize) (pixels : arg.fillSize % 4 = 0) (small : arg.fillSize < 2 ^ 32)
    : LoopEnds arg offset (arg.fillLoop room offset 0) := by
  induction room generalizing offset with
  | zero => exact absurd some (Nat.lt_irrefl 0)
  | succ room ih =>
      have whole : (arg.fillSize - offset) % 4 = 0 := by omega
      have filled : 4 ≤ arg.fillSize - offset := by omega
      have bounds := (firstCut_bounds offset filled whole).2.2
      have all : arg.cutsFrom offset
          = firstCut offset (arg.fillSize - offset)
            :: cuts (offset + (firstCut offset (arg.fillSize - offset)).bytes)
              (arg.fillSize - offset - (firstCut offset (arg.fillSize - offset)).bytes) :=
        cuts_cons offset filled whole
      rw [fillLoop, nextClear_eq left whole small]
      generalize firstCut offset (arg.fillSize - offset) = cut at bounds all ⊢
      have next : (offset + cut.bytes) % 2 ^ 32 = offset + cut.bytes :=
        Nat.mod_eq_of_lt (by omega)
      dsimp only
      rw [next]
      by_cases more : offset + cut.bytes < arg.fillSize
      · have rest : arg.fillSize - offset - cut.bytes = arg.fillSize - (offset + cut.bytes) :=
          Nat.sub_sub _ _ _
        have start : (offset + cut.bytes) % 65536 = 0 := by omega
        rw [rest] at all
        by_cases alone : room = 0
        · rw [if_pos alone, decide_eq_true more]
          exact .stopped cut [] _ start more all
        · rw [if_neg alone, if_pos more]
          have later := ih (Nat.pos_of_ne_zero alone) start more
          generalize arg.fillLoop room (offset + cut.bytes) 0 = ended at later ⊢
          cases later with
          | finished after =>
              have finished := @LoopEnds.finished arg offset after
              rw [all] at finished
              exact finished
          | stopped second front next line left split =>
              refine .stopped cut (second :: front) next line left ?_
              rw [all]
              exact congrArg (cut :: ·) split
      · -- nothing is left, so both exits of the loop are the same
        have last : cut.bytes = arg.fillSize - offset := by omega
        rw [last, Nat.sub_self, cuts_zero] at all
        have finished := @LoopEnds.finished arg offset (offset + cut.bytes)
        rw [all] at finished
        rw [decide_eq_false more, if_neg more, ite_self]
        exact finished

/-- The loop keeps to the room for its commands, from any offset. By induction on it. -/
theorem fillLoop_length (room offset dstStartX : Nat)
    : (arg.fillLoop room offset dstStartX).1.length ≤ room := by
  induction room generalizing offset dstStartX with
  | zero => exact Nat.le_refl 0
  | succ room ih =>
      rw [fillLoop]
      dsimp only
      split
      next => exact Nat.succ_le_succ (Nat.zero_le room)
      next =>
        split
        next => exact Nat.succ_le_succ (ih _ _)
        next => exact Nat.succ_le_succ (Nat.zero_le room)

/-- An offset of 32 bits never reaches a size from 2^32 on, so the loop only ends for lack of
room. By induction on the room.
-/
theorem fillLoop_large {room : Nat} (some : 0 < room) (large : 2 ^ 32 ≤ arg.fillSize)
    (offset dstStartX : Nat) : (arg.fillLoop room offset dstStartX).2.2 = true := by
  induction room generalizing offset dstStartX with
  | zero => exact absurd some (Nat.lt_irrefl 0)
  | succ room ih =>
      have below : ∀ next, next % 2 ^ 32 < arg.fillSize := by
        intro next
        omega
      rw [fillLoop]
      dsimp only
      split
      next => exact decide_eq_true (below _)
      next alone =>
        rw [if_pos (below _)]
        exact ih (Nat.pos_of_ne_zero alone) _ _

-----------------------------------------------------------------------------------------
-- A call
-----------------------------------------------------------------------------------------

/-- A call without room for one command leaves with a null pointer. -/
theorem fastClear_noRoom (plain : arg.secured = false) (aligned : arg.gpuVirtAddr % 256 = 0)
    (none : arg.dmaSize < sizeofFastclearRegsettingE3k)
    : arg.vidmmiFastClearE3k
      = some
          { arg :=
              { arg with
                dmaSize := sub32 arg.dmaSize (utilGetPtrSpan 0 arg.dmaBuffer)
                dmaBuffer := 0 }
            result := .insufficientDmaBuffer
            commands := [] } := by
  have room : arg.dmaSize / sizeofFastclearRegsettingE3k = 0 := Nat.div_eq_of_lt none
  unfold vidmmiFastClearE3k leave
  simp [aligned, plain, room]

/-- The loop of a call that has room for a command. -/
def passLoop (arg : FillArg) : List FastClear × Nat × Bool :=
  arg.fillLoop (arg.dmaSize / sizeofFastclearRegsettingE3k) arg.multiPassOffset
    ((arg.gpuVirtAddr + arg.multiPassOffset) % 2 ^ 64 % 256 / 4)

/-- A call with room for a command writes those of its loop, and advances its buffer by
them.
-/
theorem fastClear_room (plain : arg.secured = false) (aligned : arg.gpuVirtAddr % 256 = 0)
    (some : sizeofFastclearRegsettingE3k ≤ arg.dmaSize)
    (small : arg.dmaSize < 2 ^ 32)
    : arg.passLoop.1.length * sizeofFastclearRegsettingE3k ≤ arg.dmaSize
      ∧ arg.vidmmiFastClearE3k
        = .some
            { arg :=
                { arg with
                  multiPassOffset := if arg.passLoop.2.2 then arg.passLoop.2.1 else 0
                  dmaSize := arg.dmaSize
                    - arg.passLoop.1.length * sizeofFastclearRegsettingE3k
                  dmaBuffer := arg.dmaBuffer
                    + arg.passLoop.1.length * sizeofFastclearRegsettingE3k }
              result := if arg.passLoop.2.2 then .insufficientDmaBuffer else .ok
              commands := arg.passLoop.1.map FillCommand.fastClear } := by
  have room : arg.dmaSize / sizeofFastclearRegsettingE3k ≠ 0 :=
    Nat.div_ne_zero_iff.mpr ⟨by decide, some⟩
  have written : arg.passLoop.1.length * sizeofFastclearRegsettingE3k ≤ arg.dmaSize :=
    Nat.le_trans (Nat.mul_le_mul_right _ (fillLoop_length _ _ _)) (Nat.div_mul_le_self _ _)
  have size : sub32 arg.dmaSize (utilGetPtrSpan
        (arg.dmaBuffer + arg.passLoop.1.length * sizeofFastclearRegsettingE3k) arg.dmaBuffer)
      = arg.dmaSize - arg.passLoop.1.length * sizeofFastclearRegsettingE3k := by
    have span : utilGetPtrSpan
          (arg.dmaBuffer + arg.passLoop.1.length * sizeofFastclearRegsettingE3k) arg.dmaBuffer
        = arg.passLoop.1.length * sizeofFastclearRegsettingE3k := by
      unfold utilGetPtrSpan
      omega
    rw [span, sub32_of_le written small]
  refine ⟨written, ?_⟩
  rw [← size]
  unfold vidmmiFastClearE3k leave
  simp only [aligned, plain, room, if_true, Bool.false_eq_true, if_false, List.nil_append]
  rfl

end FillArg

/-- A call advances its buffer by as many bytes as it takes off its size, which is no more
than there are.
-/
structure FillCall.KeepsTo (call : FillCall) (buffer : DmaBuffer) : Prop where
  within : call.arg.dmaSize ≤ buffer.size.toNat
  advanced : call.arg.dmaBuffer = buffer.address + (buffer.size.toNat - call.arg.dmaSize)

-----------------------------------------------------------------------------------------
-- What a command fills
-----------------------------------------------------------------------------------------

/-- A command fills the bytes of its rectangle, from its base address on. -/
theorem FillArg.clears_cutClear (arg : FillArg) {cut : TransferCut}
    (wide : 0 < cut.width ∧ cut.width ≤ maxWidth2dblt)
    (high : 0 < cut.height ∧ cut.height ≤ maxHeight2dblt)
    : (arg.cutClear cut).clears
      = (List.range' 0 cut.bytes).map fun byte => (arg.cutClear cut).baseAddr * 256 + byte := by
  have width : (arg.cutClear cut).width = cut.width :=
    Nat.mod_eq_of_lt (Nat.lt_of_le_of_lt wide.2 (by decide))
  have right : (arg.cutClear cut).xMax + 1 = cut.width :=
    PagingBufferArg.sub32_one_add_one wide.1 wide.2
  have bottom : (arg.cutClear cut).yMax + 1 = cut.height :=
    PagingBufferArg.sub32_one_add_one high.1 high.2
  have left : (arg.cutClear cut).xMin = 0 := rfl
  have top : (arg.cutClear cut).yMin = 0 := rfl
  unfold FastClear.clears TransferCut.bytes
  rw [right, bottom, width, left, top, ← PagingBufferArg.lines_cover, List.map_flatMap]
  rfl

/-- A command for a rectangle that starts below 2^40 fills the bytes at its offset. -/
theorem FillArg.clears_inside (arg : FillArg) {cut : TransferCut}
    (wide : 0 < cut.width ∧ cut.width ≤ maxWidth2dblt)
    (high : 0 < cut.height ∧ cut.height ≤ maxHeight2dblt) (offset : cut.offset % 256 = 0)
    (aligned : arg.gpuVirtAddr % 256 = 0) (reach : arg.gpuVirtAddr + cut.offset < 2 ^ 40)
    : (arg.cutClear cut).clears
      = (List.range' cut.offset cut.bytes).map fun byte => arg.gpuVirtAddr + byte := by
  have base : (arg.cutClear cut).baseAddr * 256 = arg.gpuVirtAddr + cut.offset :=
    PagingBufferArg.baseAddr_eq aligned offset reach
  rw [clears_cutClear arg wide high, base, @List.range'_eq_map_range cut.offset, List.map_map,
    ← List.range_eq_range']
  apply List.map_congr_left
  intro byte _
  exact Nat.add_assoc _ _ _

-----------------------------------------------------------------------------------------
-- Whole fills
-----------------------------------------------------------------------------------------

namespace FillJob

variable (job : FillJob)

/-- The addresses to fill. -/
def target : List Nat :=
  (List.range' 0 job.fillSize.toNat).map fun byte => job.gpuVirtAddr.toNat + byte

/-- The addresses that are filled by the commands of a call. -/
def cleared (pass : Nat) : List Nat :=
  (job.call pass).elim [] fun call => call.commands.flatMap FillCommand.clears

/-- The calls up to the first that succeeds fill each byte once. -/
structure Covers (last : Nat) : Prop where
  resumed : ∀ pass < last, ∃ call, job.call pass = some call
    ∧ call.result = .insufficientDmaBuffer
  ends : ∃ call, job.call last = some call ∧ call.result = .ok
  exact : ((List.range (last + 1)).flatMap job.cleared).Perm job.target

/-- Each call with one of the buffers keeps to it, at whatever offset it resumes, and the
calls for the fill cover it.
-/
structure Exact : Prop where
  cursor : ∀ pass (offset : U32), ∃ call,
    (job.arg pass offset.toNat).vidmmiFastClearE3k = some call
      ∧ call.KeepsTo (job.buffer pass)
  covered : ∃ last, job.Covers last

/-- The size has 32 bits, each buffer has room for a command, and the address of the last
rectangle has 40 bits.
-/
structure Fits : Prop where
  small : job.fillSize.toNat < 2 ^ 32
  room : ∀ pass, sizeofFastclearRegsettingE3k ≤ (job.buffer pass).size.toNat
  reach : job.gpuVirtAddr.toNat + lastRectangle job.fillSize.toNat < 2 ^ 40

variable {job}

/-- A call keeps to its buffer exactly if that has room for a command. -/
theorem keepsTo_iff (aligned : job.gpuVirtAddr.toNat % 256 = 0) (pass offset : Nat)
    : (∃ call, (job.arg pass offset).vidmmiFastClearE3k = some call
        ∧ call.KeepsTo (job.buffer pass))
      ↔ sizeofFastclearRegsettingE3k ≤ (job.buffer pass).size.toNat := by
  constructor
  · intro kept
    obtain ⟨call, made, keeps⟩ := kept
    apply Nat.le_of_not_lt
    intro small
    rw [@FillArg.fastClear_noRoom (job.arg pass offset) rfl aligned small] at made
    obtain rfl := Option.some.inj made
    have null : 0 = (job.buffer pass).address + _ := keeps.advanced
    have nonnull := (job.buffer pass).nonnull
    omega
  · intro room
    obtain ⟨written, made⟩ := @FillArg.fastClear_room (job.arg pass offset) rfl aligned room
      (job.buffer pass).size.isLt
    refine ⟨_, made, Nat.sub_le _ _, ?_⟩
    exact congrArg ((job.buffer pass).address + ·) (Nat.sub_sub_self written).symm

/-- The state before a call of a fill, as far as all the calls before it lacked room: what
they filled, with what is left from the offset on, is everything.
-/
structure Reaches (job : FillJob) (pass offset : Nat) : Prop where
  call : job.call pass = (job.arg pass offset).vidmmiFastClearE3k
  resumed : ∀ before < pass, ∃ call, job.call before = some call
    ∧ call.result = .insufficientDmaBuffer
  line : offset % 65536 = 0
  left : offset < job.fillSize.toNat
  done : (List.range pass).flatMap job.cleared
      ++ ((job.arg 0 0).cutsFrom offset).flatMap (fun cut => ((job.arg 0 0).cutClear cut).clears)
    = ((job.arg 0 0).cutsFrom 0).flatMap fun cut => ((job.arg 0 0).cutClear cut).clears

/-- The first call. -/
theorem reaches_zero (positive : 0 < job.fillSize.toNat) : job.Reaches 0 0 :=
  ⟨rfl, fun _ before => absurd before (Nat.not_lt_zero _), rfl, positive, rfl⟩

/-- A call that is reached fills all that is left and succeeds, or fills some of it and is
resumed.
-/
theorem Reaches.step {pass offset : Nat} (reaches : job.Reaches pass offset)
    (aligned : job.gpuVirtAddr.toNat % 256 = 0) (pixels : job.fillSize.toNat % 4 = 0)
    (small : job.fillSize.toNat < 2 ^ 32)
    (room : sizeofFastclearRegsettingE3k ≤ (job.buffer pass).size.toNat)
    : ((∃ call, job.call pass = some call ∧ call.result = .ok)
        ∧ (List.range (pass + 1)).flatMap job.cleared
          = ((job.arg 0 0).cutsFrom 0).flatMap fun cut => ((job.arg 0 0).cutClear cut).clears)
      ∨ ∃ next, job.Reaches (pass + 1) next
        ∧ ((job.arg 0 0).cutsFrom next).length < ((job.arg 0 0).cutsFrom offset).length := by
  obtain ⟨_, made⟩ := @FillArg.fastClear_room (job.arg pass offset) rfl aligned room
    (job.buffer pass).size.isLt
  have start : ((job.arg pass offset).gpuVirtAddr + (job.arg pass offset).multiPassOffset)
      % 2 ^ 64 % 256 / 4 = 0 := by
    have line := reaches.line
    change (job.gpuVirtAddr.toNat + offset) % 2 ^ 64 % 256 / 4 = 0
    omega
  have ends : (job.arg pass offset).LoopEnds offset (job.arg pass offset).passLoop := by
    unfold FillArg.passLoop
    rw [start]
    refine FillArg.fillLoop_ends ?_ reaches.line reaches.left pixels small
    exact Nat.div_pos room (by decide)
  have done := reaches.done
  generalize (job.arg pass offset).passLoop = loop at ends made
  have called := reaches.call.trans made
  have cleared : job.cleared pass = loop.1.flatMap FastClear.clears := by
    unfold cleared
    rw [called]
    change (loop.1.map FillCommand.fastClear).flatMap FillCommand.clears = _
    rw [List.flatMap_map]
    rfl
  cases ends with
  | finished after =>
      refine .inl ⟨⟨_, called, rfl⟩, ?_⟩
      rw [List.range_succ, List.flatMap_append, List.flatMap_singleton, cleared, List.flatMap_map]
      exact done
  | stopped cut front next line left split =>
      refine .inr ⟨next, ⟨?_, ?_, line, left, ?_⟩, ?_⟩
      · rw [FillJob.call, called]
        rfl
      · intro before less
        rcases Nat.lt_succ_iff_lt_or_eq.mp less with earlier | rfl
        · exact reaches.resumed before earlier
        · exact ⟨_, called, rfl⟩
      · rw [List.range_succ, List.flatMap_append, List.flatMap_singleton, cleared,
          List.flatMap_map, List.append_assoc, ← done]
        refine congrArg ((List.range pass).flatMap job.cleared ++ ·) ?_
        change _ = ((job.arg pass offset).cutsFrom offset).flatMap _
        rw [split, List.flatMap_append]
        rfl
      · change _ < ((job.arg pass offset).cutsFrom offset).length
        rw [split, List.length_append]
        exact Nat.lt_add_of_pos_left (Nat.succ_pos _)

/-- From a call that is reached, the calls end with one that succeeds, after everything is
filled. By induction on the rectangles that are left.
-/
theorem Reaches.ends {pass offset : Nat} (reaches : job.Reaches pass offset)
    (aligned : job.gpuVirtAddr.toNat % 256 = 0) (pixels : job.fillSize.toNat % 4 = 0)
    (small : job.fillSize.toNat < 2 ^ 32)
    (room : ∀ pass, sizeofFastclearRegsettingE3k ≤ (job.buffer pass).size.toNat)
    : ∃ last, (∀ before < last, ∃ call, job.call before = some call
          ∧ call.result = .insufficientDmaBuffer)
        ∧ (∃ call, job.call last = some call ∧ call.result = .ok)
        ∧ (List.range (last + 1)).flatMap job.cleared
          = ((job.arg 0 0).cutsFrom 0).flatMap fun cut =>
            ((job.arg 0 0).cutClear cut).clears := by
  induction size : ((job.arg 0 0).cutsFrom offset).length using Nat.strong_induction_on
    generalizing pass offset with
  | _ size ih =>
      rcases reaches.step aligned pixels small (room pass) with done | more
      · exact ⟨pass, reaches.resumed, done.1, done.2⟩
      · obtain ⟨next, further, fewer⟩ := more
        exact ih _ (size ▸ fewer) further rfl

/-- A call of a fill is one at some offset. -/
theorem exists_offset {pass : Nat} {call : FillCall} (made : job.call pass = some call)
    : ∃ offset, (job.arg pass offset).vidmmiFastClearE3k = some call := by
  cases pass with
  | zero => exact ⟨0, made⟩
  | succ pass =>
      obtain ⟨before, _, built⟩ := Option.bind_eq_some_iff.mp made
      exact ⟨_, built⟩

/-- No call ever succeeds for a size from 2^32 on. -/
theorem small_of_ok (aligned : job.gpuVirtAddr.toNat % 256 = 0)
    (room : ∀ pass, sizeofFastclearRegsettingE3k ≤ (job.buffer pass).size.toNat)
    {pass : Nat} {call : FillCall} (made : job.call pass = some call) (ok : call.result = .ok)
    : job.fillSize.toNat < 2 ^ 32 := by
  apply Nat.lt_of_not_le
  intro large
  obtain ⟨offset, built⟩ := exists_offset made
  obtain ⟨_, same⟩ := @FillArg.fastClear_room (job.arg pass offset) rfl aligned (room pass)
    (job.buffer pass).size.isLt
  have stopped : (job.arg pass offset).passLoop.2.2 = true :=
    FillArg.fillLoop_large (Nat.div_pos (room pass) (by decide)) large _ _
  obtain rfl := Option.some.inj (built.symm.trans same)
  rw [stopped] at ok
  cases ok

/-- The calls keep to their buffers and cover the fill exactly once exactly if it fits. -/
theorem fills_exactly_iff (positive : 0 < job.fillSize.toNat) (pixels : job.fillSize.toNat % 4 = 0)
    (aligned : job.gpuVirtAddr.toNat % 256 = 0) : job.Exact ↔ job.Fits := by
  have filled : 4 ≤ job.fillSize.toNat := by omega
  constructor
  · intro exact'
    have room : ∀ pass, sizeofFastclearRegsettingE3k ≤ (job.buffer pass).size.toNat :=
      fun pass => (keepsTo_iff aligned pass _).mp (exact'.cursor pass 0)
    obtain ⟨last, covers⟩ := exact'.covered
    obtain ⟨call, made, ok⟩ := covers.ends
    have small := small_of_ok aligned room made ok
    refine ⟨small, room, ?_⟩
    obtain ⟨final, resumed, ⟨other, ends, succeeds⟩, all⟩ :=
      (reaches_zero positive).ends aligned pixels small room
    -- the first call that succeeds is the same in both
    have same : last = final := by
      rcases Nat.lt_trichotomy last final with before | equal | after
      · obtain ⟨stopped, called, lacks⟩ := resumed last before
        obtain rfl := Option.some.inj (called.symm.trans made)
        rw [ok] at lacks
        cases lacks
      · exact equal
      · obtain ⟨stopped, called, lacks⟩ := covers.resumed final after
        obtain rfl := Option.some.inj (called.symm.trans ends)
        rw [succeeds] at lacks
        cases lacks
    subst same
    obtain ⟨⟨cut, member, starts⟩, _⟩ := cuts_lastRectangle 0 filled pixels
    rw [Nat.zero_add] at starts
    rw [← starts]
    obtain ⟨wide, high, _, inside, offset⟩ := mem_cuts member
    have bytes : 0 < cut.bytes := Nat.mul_pos (Nat.mul_pos wide.1 high.1) (by decide)
    have cleared : ((job.arg 0 0).cutClear cut).baseAddr * 256 + 0 ∈ job.target := by
      apply covers.exact.mem_iff.mp
      rw [all]
      refine List.mem_flatMap.mpr ⟨cut, member, ?_⟩
      rw [FillArg.clears_cutClear _ wide high]
      exact List.mem_map.mpr ⟨0, List.mem_range'_1.mpr ⟨Nat.le_refl 0, by omega⟩, rfl⟩
    obtain ⟨byte, within, equal⟩ := List.mem_map.mp cleared
    have bound := (List.mem_range'_1.mp within).2
    exact PagingBufferArg.reach_of_baseAddr aligned (offset rfl) (by omega) (by omega) equal
  · intro fits
    refine ⟨fun pass offset => (keepsTo_iff aligned pass _).mpr (fits.room pass), ?_⟩
    obtain ⟨last, resumed, ends, all⟩ :=
      (reaches_zero positive).ends aligned pixels fits.small fits.room
    refine ⟨last, resumed, ends, ?_⟩
    have same : ((job.arg 0 0).cutsFrom 0).flatMap
        (fun cut => ((job.arg 0 0).cutClear cut).clears) = job.target := by
      unfold target
      rw [← cuts_cover 0 job.fillSize.toNat pixels, List.map_flatMap]
      apply List.flatMap_congr
      intro cut member
      obtain ⟨wide, high, _, _, offset⟩ := mem_cuts member
      have before := (cuts_lastRectangle 0 filled pixels).2 cut member
      have reach := fits.reach
      refine FillArg.clears_inside _ wide high (offset rfl) aligned ?_
      change job.gpuVirtAddr.toNat + cut.offset < 2 ^ 40
      omega
    rw [all, same]

/-- A page and a pixel, filled with buffers of one size. -/
def pageAndPixel (size : U32) (room : 4096 + size.toNat ≤ 2 ^ 64) : FillJob where
  fillSize := 4100
  fillPattern := 0xff00ff00
  gpuVirtAddr := 0x100000
  buffer _ := ⟨4096, size, by decide, room⟩

theorem pageAndPixel_exact : (pageAndPixel 176 (by decide)).Exact :=
  (fills_exactly_iff (by decide) (by decide) (by decide)).mpr
    ⟨by decide, fun _ => Nat.le_refl _, by decide⟩

/-- A buffer with room for a word less than a command: the call leaves with a null pointer and
a size from its address on.
-/
theorem pageAndPixel_not_exact
    : ((pageAndPixel 172 (by decide)).call 0).map
          (fun call => (call.result, call.arg.dmaBuffer, call.arg.dmaSize))
        = some (.insufficientDmaBuffer, 0, 4096 + 172)
      ∧ ¬ (pageAndPixel 172 (by decide)).Exact := by
  refine ⟨rfl, fun exact' => ?_⟩
  have room := (keepsTo_iff (by decide) 0 _).mp (exact'.cursor 0 0)
  exact absurd room (by decide)

end FillJob

end Cx4Kernel.Vidmm
