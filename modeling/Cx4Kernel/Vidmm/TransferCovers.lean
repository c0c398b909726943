import Mathlib.Data.List.Perm.Basic
import Mathlib.Tactic.Ring
import Cx4Kernel.Vidmm.TransferBlits

/-! When the copy commands of a transfer cover its bytes exactly once. A call that runs out of
space remembers its offset but not how much is left, so a transfer is built exactly if the
first call has room for all of its commands.
-/

namespace Cx4Kernel.Vidmm

/-- A rectangle of a transfer, by its offset in bytes and its size in pixels. -/
structure TransferCut where
  offset : Nat
  width : Nat
  height : Nat

/-- The bytes of a rectangle. -/
def TransferCut.bytes (cut : TransferCut) : Nat :=
  cut.width * cut.height * 4

/-- The rectangle that is cut off a number of bytes. -/
def firstCut (offset size : Nat) : TransferCut :=
  ⟨offset, (blitRectangle size).1, (blitRectangle size).2⟩

/-- A rectangle fits the registers and the bytes it is cut off, and is a multiple of a line
unless it takes all of them.
-/
theorem firstCut_bounds (offset : Nat) {size : Nat} (some : 4 ≤ size) (pixels : size % 4 = 0)
    : (0 < (firstCut offset size).width ∧ (firstCut offset size).width ≤ maxWidth2dblt)
      ∧ (0 < (firstCut offset size).height ∧ (firstCut offset size).height ≤ maxHeight2dblt)
      ∧ (0 < (firstCut offset size).bytes ∧ (firstCut offset size).bytes ≤ size)
      ∧ ((firstCut offset size).bytes = size ∨ (firstCut offset size).bytes % 65536 = 0) := by
  unfold firstCut TransferCut.bytes blitRectangle maxWidth2dblt maxHeight2dblt
  dsimp only
  split
  next small =>
    dsimp only
    omega
  next large =>
    dsimp only
    split
    next tall => omega
    next => omega

/-- The rectangles of a number of bytes, from an offset on. -/
def cuts (offset size : Nat) : List TransferCut :=
  if _some : 4 ≤ size ∧ size % 4 = 0 then
    firstCut offset size
      :: cuts (offset + (firstCut offset size).bytes) (size - (firstCut offset size).bytes)
  else []
termination_by size
decreasing_by
  have bounds := firstCut_bounds offset _some.1 _some.2
  omega

/-- Nothing is left to cut of no bytes. -/
theorem cuts_zero (offset : Nat) : cuts offset 0 = [] := by
  rw [cuts, dif_neg (by omega)]

/-- The first rectangle and those after it. -/
theorem cuts_cons (offset : Nat) {size : Nat} (some : 4 ≤ size) (pixels : size % 4 = 0)
    : cuts offset size
      = firstCut offset size
        :: cuts (offset + (firstCut offset size).bytes)
          (size - (firstCut offset size).bytes) := by
  rw [cuts, dif_pos ⟨some, pixels⟩]

/-- What a rectangle leaves is smaller and still whole pixels. -/
theorem rest_lt (offset : Nat) {size : Nat} (some : 4 ≤ size) (pixels : size % 4 = 0)
    : size - (firstCut offset size).bytes < size
      ∧ (size - (firstCut offset size).bytes) % 4 = 0 := by
  have bounds := firstCut_bounds offset some pixels
  have whole : (firstCut offset size).bytes % 4 = 0 := by
    unfold TransferCut.bytes
    omega
  omega

/-- The number of rectangles depends on the number of bytes only, by induction on it. -/
theorem cuts_length (offset other size : Nat)
    : (cuts offset size).length = (cuts other size).length := by
  induction size using Nat.strong_induction_on generalizing offset other with
  | _ size ih =>
      by_cases some : 4 ≤ size ∧ size % 4 = 0
      · rw [cuts_cons offset some.1 some.2, cuts_cons other some.1 some.2, List.length_cons,
          List.length_cons]
        exact congrArg (· + 1) (ih _ (rest_lt offset some.1 some.2).1 _ _)
      · rw [cuts, dif_neg some, cuts, dif_neg some]

/-- Rectangles lie one after the other, from the offset to the end, by induction on the
bytes that are left.
-/
theorem cuts_cover (offset size : Nat) (pixels : size % 4 = 0)
    : (cuts offset size).flatMap (fun cut => List.range' cut.offset cut.bytes)
      = List.range' offset size := by
  induction size using Nat.strong_induction_on generalizing offset with
  | _ size ih =>
      by_cases some : 4 ≤ size
      · have bounds := (firstCut_bounds offset some pixels).2.2.1
        have rest := rest_lt offset some pixels
        rw [cuts_cons offset some pixels, List.flatMap_cons, ih _ rest.1 _ rest.2]
        change List.range' offset _ ++ _ = _
        rw [List.range'_append_1, Nat.add_sub_cancel' bounds.2]
      · obtain rfl : size = 0 := by omega
        rw [cuts_zero]
        rfl

/-- Each rectangle is one that was cut off some number of bytes, at an offset within the
transfer, by induction on the bytes that are left.
-/
theorem mem_cuts {cut : TransferCut} {offset size : Nat} (member : cut ∈ cuts offset size)
    : (0 < cut.width ∧ cut.width ≤ maxWidth2dblt)
      ∧ (0 < cut.height ∧ cut.height ≤ maxHeight2dblt)
      ∧ offset ≤ cut.offset ∧ cut.offset + cut.bytes ≤ offset + size
      ∧ (offset % 256 = 0 → cut.offset % 256 = 0) := by
  induction size using Nat.strong_induction_on generalizing offset with
  | _ size ih =>
      by_cases some : 4 ≤ size ∧ size % 4 = 0
      · have bounds := firstCut_bounds offset some.1 some.2
        have rest := rest_lt offset some.1 some.2
        rw [cuts_cons offset some.1 some.2] at member
        rcases List.mem_cons.mp member with rfl | later
        · refine ⟨bounds.1, bounds.2.1, Nat.le_refl _, ?_, fun aligned => aligned⟩
          exact Nat.add_le_add_left bounds.2.2.1.2 offset
        · obtain ⟨width, height, low, high, aligned⟩ := ih _ rest.1 later
          refine ⟨width, height, by omega, by omega, fun start => aligned ?_⟩
          rcases bounds.2.2.2 with all | line
          · rw [all, Nat.sub_self, cuts_zero] at later
            exact absurd later List.not_mem_nil
          · omega
      · rw [cuts, dif_neg some] at member
        exact absurd member List.not_mem_nil

-----------------------------------------------------------------------------------------
-- The loop
-----------------------------------------------------------------------------------------

namespace PagingBufferArg

variable (arg : PagingBufferArg)

/-- The command for a rectangle. -/
def cutBlt (cut : TransferCut) : BitBlt :=
  arg.bitBlt cut.offset 0 cut.width cut.height

/-- Without anything left the loop stops. -/
theorem transferLoop_zero (room startOffset : Nat)
    : arg.transferLoop room startOffset 0 = ([], startOffset, 0) := by
  cases room with
  | zero => rfl
  | succ room => rw [transferLoop, if_neg (Nat.lt_irrefl 0)]

/-- One turn of the loop at an offset where a line starts. -/
theorem transferLoop_succ (room : Nat) {startOffset transferSize : Nat}
    (aligned : startOffset % 256 = 0) (some : 4 ≤ transferSize)
    (pixels : transferSize % 4 = 0) (small : transferSize < 2 ^ 32)
    : arg.transferLoop (room + 1) startOffset transferSize
      = (arg.cutBlt (firstCut startOffset transferSize)
            :: (arg.transferLoop room
              ((startOffset + (firstCut startOffset transferSize).bytes) % 2 ^ 32)
              (transferSize - (firstCut startOffset transferSize).bytes)).1,
          (arg.transferLoop room
            ((startOffset + (firstCut startOffset transferSize).bytes) % 2 ^ 32)
            (transferSize - (firstCut startOffset transferSize).bytes)).2) := by
  have bounds := (firstCut_bounds startOffset some pixels).2.2.1
  have start : startOffset / 256 * 256 = startOffset := by omega
  have left : sub32 transferSize ((firstCut startOffset transferSize).bytes + 0)
      = transferSize - (firstCut startOffset transferSize).bytes := by
    unfold sub32
    omega
  rw [transferLoop, if_pos (Nat.lt_of_lt_of_le (by decide) some)]
  simp only [start, Nat.sub_self, Nat.zero_div, Nat.zero_mul]
  rw [show (blitRectangle transferSize).1 * (blitRectangle transferSize).2 * 4
    = (firstCut startOffset transferSize).bytes from rfl, left]
  rfl

/-- The loop stops with nothing left exactly if there is room for all commands, and else at
an offset where a line starts. By induction on the room.
-/
theorem transferLoop_left (room : Nat) {startOffset transferSize : Nat}
    (aligned : startOffset % 256 = 0) (pixels : transferSize % 4 = 0)
    (small : transferSize < 2 ^ 32)
    : ((arg.transferLoop room startOffset transferSize).2.2 = 0
        ↔ (cuts 0 transferSize).length ≤ room)
      ∧ ((arg.transferLoop room startOffset transferSize).2.2 ≠ 0
        → (arg.transferLoop room startOffset transferSize).2.1 % 256 = 0)
      ∧ (arg.transferLoop room startOffset transferSize).1.length ≤ room := by
  induction room generalizing startOffset transferSize with
  | zero =>
      refine ⟨?_, fun _ => aligned, Nat.le_refl 0⟩
      change transferSize = 0 ↔ _
      constructor
      · rintro rfl
        rw [cuts_zero]
        exact Nat.le_refl 0
      · intro none
        by_cases some : 4 ≤ transferSize
        · rw [cuts_cons 0 some pixels] at none
          exact absurd none (Nat.not_succ_le_zero _)
        · omega
  | succ room ih =>
      by_cases some : 4 ≤ transferSize
      · have bounds := (firstCut_bounds startOffset some pixels).2.2
        have rest := rest_lt startOffset some pixels
        have length : (cuts 0 transferSize).length
            = (cuts 0 (transferSize - (firstCut startOffset transferSize).bytes)).length + 1 := by
          rw [cuts_length 0 startOffset, cuts_cons startOffset some pixels, List.length_cons,
            cuts_length _ 0]
        rw [transferLoop_succ arg room aligned some pixels small, length]
        rcases bounds.2 with all | line
        · rw [all, Nat.sub_self, cuts_zero, transferLoop_zero]
          simp
        · obtain ⟨left, offset, written⟩ :=
            @ih ((startOffset + (firstCut startOffset transferSize).bytes) % 2 ^ 32) _ (by omega)
              rest.2 (by omega)
          exact ⟨left.trans (Nat.succ_le_succ_iff).symm, offset, Nat.succ_le_succ written⟩
      · obtain rfl : transferSize = 0 := by omega
        rw [cuts_zero, transferLoop_zero]
        simp

/-- With enough room and without overflow of the offset, the loop writes a command for each
rectangle. By induction on the room.
-/
theorem transferLoop_blits (room : Nat) {startOffset transferSize : Nat}
    (aligned : startOffset % 256 = 0) (pixels : transferSize % 4 = 0)
    (small : startOffset + transferSize < 2 ^ 32)
    (enough : (cuts startOffset transferSize).length ≤ room)
    : (arg.transferLoop room startOffset transferSize).1
      = (cuts startOffset transferSize).map arg.cutBlt := by
  induction room generalizing startOffset transferSize with
  | zero =>
      rw [List.length_eq_zero_iff.mp (Nat.le_zero.mp enough)]
      rfl
  | succ room ih =>
      by_cases some : 4 ≤ transferSize
      · have bounds := (firstCut_bounds startOffset some pixels).2.2
        have rest := rest_lt startOffset some pixels
        have next : (startOffset + (firstCut startOffset transferSize).bytes) % 2 ^ 32
            = startOffset + (firstCut startOffset transferSize).bytes :=
          Nat.mod_eq_of_lt (by omega)
        rw [cuts_cons startOffset some pixels] at enough ⊢
        rw [transferLoop_succ arg room aligned some pixels (by omega), List.map_cons, next]
        refine congrArg (arg.cutBlt (firstCut startOffset transferSize) :: ·) ?_
        rcases bounds.2 with all | line
        · rw [all, Nat.sub_self, cuts_zero, transferLoop_zero]
          rfl
        · exact ih (by omega) rest.2 (by omega) (Nat.le_of_succ_le_succ enough)
      · obtain rfl : transferSize = 0 := by omega
        rw [cuts_zero, transferLoop_zero]
        rfl

-----------------------------------------------------------------------------------------
-- What a command copies
-----------------------------------------------------------------------------------------

/-- The lines of a rectangle as wide as its surface lie one after the other, by induction on
the lines.
-/
theorem lines_cover (width height : Nat)
    : (List.range' 0 height).flatMap (fun y => List.range' (4 * (y * width)) (4 * width))
      = List.range' 0 (width * height * 4) := by
  induction height with
  | zero => rfl
  | succ height ih =>
      rw [List.range'_1_concat, List.flatMap_append, ih, List.flatMap_singleton]
      have start : 4 * ((0 + height) * width) = 0 + width * height * 4 := by ring
      have all : width * (height + 1) * 4 = width * height * 4 + 4 * width := by ring
      rw [start, all, List.range'_append_1]

/-- The register for the last pixel or line of a rectangle, counted from 0. -/
theorem sub32_one_add_one {count : Nat} (some : 0 < count) (fits : count ≤ 16 * 1024)
    : sub32 count 1 % 2 ^ 16 + 1 = count := by
  unfold sub32
  omega

/-- A command copies the bytes of its rectangle, from its base addresses on. -/
theorem copies_cutBlt {cut : TransferCut} (wide : 0 < cut.width ∧ cut.width ≤ maxWidth2dblt)
    (high : 0 < cut.height ∧ cut.height ≤ maxHeight2dblt)
    : (arg.cutBlt cut).copies
      = (List.range' 0 cut.bytes).map fun byte =>
          ((arg.cutBlt cut).srcBaseAddr * 256 + byte,
            (arg.cutBlt cut).dstBaseAddr * 256 + byte) := by
  have width : (arg.cutBlt cut).width = cut.width :=
    Nat.mod_eq_of_lt (Nat.lt_of_le_of_lt wide.2 (by decide))
  have right : (arg.cutBlt cut).xMax + 1 = cut.width := sub32_one_add_one wide.1 wide.2
  have bottom : (arg.cutBlt cut).yMax + 1 = cut.height := sub32_one_add_one high.1 high.2
  have left : (arg.cutBlt cut).xMin = 0 := rfl
  have top : (arg.cutBlt cut).yMin = 0 := rfl
  unfold BitBlt.copies TransferCut.bytes
  rw [right, bottom, width, left, top, ← lines_cover, List.map_flatMap]
  rfl

/-- A base address is the address of its rectangle if that is aligned and has 40 bits. -/
theorem baseAddr_eq {address offset : Nat} (aligned : address % 256 = 0)
    (line : offset % 256 = 0) (reach : address + offset < 2 ^ 40)
    : (address + offset) % 2 ^ 64 / 256 % 2 ^ 32 * 256 = address + offset := by
  omega

/-- A base address that lies within the transfer is that of a rectangle with 40 bits. -/
theorem reach_of_baseAddr {address offset byte : Nat} (aligned : address % 256 = 0)
    (line : offset % 256 = 0) (near : offset < 2 ^ 32) (within : byte < 2 ^ 32)
    (same : address + byte = (address + offset) % 2 ^ 64 / 256 % 2 ^ 32 * 256 + 0)
    : address + offset < 2 ^ 40 := by
  omega

/-- A command for a rectangle that starts below 2^40 copies the bytes of the transfer at the
same offsets.
-/
theorem copies_inside {cut : TransferCut}
    (wide : 0 < cut.width ∧ cut.width ≤ maxWidth2dblt)
    (high : 0 < cut.height ∧ cut.height ≤ maxHeight2dblt) (offset : cut.offset % 256 = 0)
    (src : arg.srcPhyAddr % 256 = 0 ∧ arg.srcPhyAddr + cut.offset < 2 ^ 40)
    (dst : arg.dstPhyAddr % 256 = 0 ∧ arg.dstPhyAddr + cut.offset < 2 ^ 40)
    : (arg.cutBlt cut).copies
      = (List.range' cut.offset cut.bytes).map fun byte =>
          (arg.srcPhyAddr + byte, arg.dstPhyAddr + byte) := by
  have srcBase : (arg.cutBlt cut).srcBaseAddr * 256 = arg.srcPhyAddr + cut.offset :=
    baseAddr_eq src.1 offset src.2
  have dstBase : (arg.cutBlt cut).dstBaseAddr * 256 = arg.dstPhyAddr + cut.offset :=
    baseAddr_eq dst.1 offset dst.2
  rw [copies_cutBlt arg wide high, srcBase, dstBase, @List.range'_eq_map_range cut.offset,
    List.map_map, ← List.range_eq_range']
  apply List.map_congr_left
  intro byte _
  simp [Nat.add_assoc]

/-- What a call does at an offset where a line starts: it succeeds exactly if it has room for
the whole transfer, and it advances its buffer by what it wrote.
-/
theorem build_spec {arg : PagingBufferArg} (filled : 4 ≤ arg.transferSize)
    (pixels : arg.transferSize % 4 = 0) (small : arg.transferSize < 2 ^ 32)
    (src : arg.srcPhyAddr % 256 = 0) (dst : arg.dstPhyAddr % 256 = 0)
    (aligned : arg.multiPassOffset % 256 = 0)
    : ∃ call, arg.vidmmBuildPageBufferE3k = some call
        ∧ (call.result = .ok
          ↔ (cuts 0 arg.transferSize).length ≤ arg.dmaSize / sizeofBitbltRegsettingE3k)
        ∧ call.arg.multiPassOffset % 256 = 0
        ∧ call.blits.length * sizeofBitbltRegsettingE3k ≤ arg.dmaSize
        ∧ call.arg.dmaBuffer
          = arg.dmaBuffer + call.blits.length * sizeofBitbltRegsettingE3k
        ∧ call.arg.dmaSize = arg.dmaSize - call.blits.length * sizeofBitbltRegsettingE3k
        ∧ (arg.multiPassOffset + arg.transferSize < 2 ^ 32
          → (cuts 0 arg.transferSize).length ≤ arg.dmaSize / sizeofBitbltRegsettingE3k
          → call.blits = (cuts arg.multiPassOffset arg.transferSize).map arg.cutBlt) := by
  have several : (cuts 0 arg.transferSize).length ≠ 0 := by
    rw [cuts_cons 0 filled pixels]
    exact Nat.succ_ne_zero _
  unfold vidmmBuildPageBufferE3k
  rw [if_pos ⟨pixels, dst, src⟩]
  dsimp only
  split
  next none =>
    refine ⟨_, rfl, ?_, aligned, ?_, rfl, rfl, ?_⟩
    · constructor
      · intro ok
        cases ok
      · intro room
        exact absurd (Nat.le_zero.mp (none ▸ room)) several
    · exact Nat.le_trans (Nat.le_of_eq (Nat.zero_mul _)) (Nat.zero_le _)
    · intro _ room
      exact absurd (Nat.le_zero.mp (none ▸ room)) several
  next =>
    obtain ⟨left, offset, written⟩ := arg.transferLoop_left
      (arg.dmaSize / sizeofBitbltRegsettingE3k) aligned pixels small
    have blits := arg.transferLoop_blits (arg.dmaSize / sizeofBitbltRegsettingE3k) aligned pixels
    refine ⟨_, rfl, ?_, ?_, ?_, rfl, rfl, ?_⟩
    · rw [← left]
      dsimp only
      split
      next more =>
        exact ⟨fun stopped => (by cases stopped), fun done => absurd done (Nat.ne_of_gt more)⟩
      next done => exact ⟨fun _ => Nat.le_zero.mp (Nat.not_lt.mp done), fun _ => rfl⟩
    · dsimp only
      split
      next more => exact offset (Nat.ne_of_gt more)
      next => exact aligned
    · exact Nat.le_trans (Nat.mul_le_mul_right _ written) (Nat.div_mul_le_self _ _)
    · intro below room
      exact blits below (by rw [cuts_length _ 0]; exact room)

end PagingBufferArg

-----------------------------------------------------------------------------------------
-- Whole transfers
-----------------------------------------------------------------------------------------

namespace TransferJob

variable (job : TransferJob)

/-- The bytes to copy, as pairs of their source and destination addresses. -/
def target : List (Nat × Nat) :=
  (List.range' 0 job.transferSize.toNat).map fun byte =>
    (job.srcPhyAddr.toNat + byte, job.dstPhyAddr.toNat + byte)

/-- The bytes that are copied by the commands of the calls up to one of them. -/
def copied (last : Nat) : List (Nat × Nat) :=
  (List.range (last + 1)).flatMap fun pass =>
    (job.call pass).elim [] fun call => call.blits.flatMap BitBlt.copies

/-- The calls up to the first that succeeds copy each byte once, and each call keeps to its
buffer and advances it by what it wrote.
-/
structure Covers (last : Nat) : Prop where
  resumed : ∀ pass < last, ∃ call, job.call pass = some call
    ∧ call.result = .insufficientDmaBuffer
  ends : ∃ call, job.call last = some call ∧ call.result = .ok
  exact : (job.copied last).Perm job.target
  advanced : ∀ pass ≤ last, ∀ call, job.call pass = some call
    → call.blits.length * sizeofBitbltRegsettingE3k ≤ job.dmaSize.toNat
      ∧ call.arg.dmaBuffer
        = job.dmaBuffer pass + call.blits.length * sizeofBitbltRegsettingE3k
      ∧ call.arg.dmaSize
        = job.dmaSize.toNat - call.blits.length * sizeofBitbltRegsettingE3k

/-- The addresses are multiples of 256 and reach every rectangle with 40 bits, and a buffer
has room for the commands of the whole transfer.
-/
structure Fits : Prop where
  src : job.srcPhyAddr.toNat % 256 = 0
  dst : job.dstPhyAddr.toNat % 256 = 0
  reach : ∀ cut ∈ cuts 0 job.transferSize.toNat,
    job.srcPhyAddr.toNat + cut.offset < 2 ^ 40 ∧ job.dstPhyAddr.toNat + cut.offset < 2 ^ 40
  room : (cuts 0 job.transferSize.toNat).length
    ≤ job.dmaSize.toNat / sizeofBitbltRegsettingE3k

variable {job}

/-- A call that passes its assertion has addresses that are multiples of 256. -/
theorem aligned_of_call {pass : Nat} {call : PagingBufferCall}
    (made : job.call pass = some call)
    : job.srcPhyAddr.toNat % 256 = 0 ∧ job.dstPhyAddr.toNat % 256 = 0 := by
  have asserted : ∀ offset, (job.arg pass offset).vidmmBuildPageBufferE3k = some call
      → job.srcPhyAddr.toNat % 256 = 0 ∧ job.dstPhyAddr.toNat % 256 = 0 := by
    intro offset built
    unfold PagingBufferArg.vidmmBuildPageBufferE3k at built
    split at built
    next holds => exact ⟨holds.2.2, holds.2.1⟩
    next => cases built
  cases pass with
  | zero => exact asserted 0 made
  | succ pass =>
      obtain ⟨before, _, built⟩ := Option.bind_eq_some_iff.mp made
      exact asserted _ built

/-- Every call starts at an offset where a line starts and succeeds exactly if a buffer has
room for the whole transfer. By induction on the calls.
-/
theorem call_spec (filled : 4 ≤ job.transferSize.toNat) (pixels : job.transferSize.toNat % 4 = 0)
    (src : job.srcPhyAddr.toNat % 256 = 0) (dst : job.dstPhyAddr.toNat % 256 = 0) (pass : Nat)
    : ∃ call, job.call pass = some call
        ∧ (call.result = .ok ↔ (cuts 0 job.transferSize.toNat).length
          ≤ job.dmaSize.toNat / sizeofBitbltRegsettingE3k)
        ∧ call.arg.multiPassOffset % 256 = 0 := by
  have small := job.transferSize.isLt
  induction pass with
  | zero =>
      obtain ⟨call, built, ok, aligned, _⟩ :=
        @PagingBufferArg.build_spec (job.arg 0 0) filled pixels small src dst rfl
      exact ⟨call, built, ok, aligned⟩
  | succ pass ih =>
      obtain ⟨before, made, _, start⟩ := ih
      obtain ⟨call, built, ok, aligned, _⟩ :=
        @PagingBufferArg.build_spec (job.arg (pass + 1) before.arg.multiPassOffset) filled pixels
          small src dst start
      exact ⟨call, by rw [TransferJob.call, made]; exact built, ok, aligned⟩

/-- A first call with room for everything writes a command for each rectangle. -/
theorem call_zero (filled : 4 ≤ job.transferSize.toNat) (pixels : job.transferSize.toNat % 4 = 0)
    (src : job.srcPhyAddr.toNat % 256 = 0) (dst : job.dstPhyAddr.toNat % 256 = 0)
    (room : (cuts 0 job.transferSize.toNat).length
      ≤ job.dmaSize.toNat / sizeofBitbltRegsettingE3k)
    : job.copied 0
      = (cuts 0 job.transferSize.toNat).flatMap fun cut =>
          ((job.arg 0 0).cutBlt cut).copies := by
  have small := job.transferSize.isLt
  obtain ⟨call, built, _, _, _, _, _, blits⟩ :=
    @PagingBufferArg.build_spec (job.arg 0 0) filled pixels small src dst rfl
  have first : job.call 0 = some call := built
  have whole := blits (by simpa [TransferJob.arg] using small) room
  unfold copied
  rw [show List.range (0 + 1) = [0] from rfl, List.flatMap_singleton, first]
  change call.blits.flatMap BitBlt.copies = _
  rw [whole, List.flatMap_map]
  rfl

/-- One pixel, with room for one command. -/
def onePixel : TransferJob where
  srcPhyAddr := 0
  dstPhyAddr := 4096
  transferSize := 4
  dmaSize := 176
  dmaBuffer _ := 0

/-- A line and a pixel, in buffers with room for one command. -/
def lineAndPixel : TransferJob where
  srcPhyAddr := 0
  dstPhyAddr := 1048576
  transferSize := 65540
  dmaSize := 176
  dmaBuffer _ := 0

end TransferJob

end Cx4Kernel.Vidmm
