import Cx4Kernel.Vidmm.InvalidateSlot

/-! The invalidation commands cover the slot of an allocation exactly. The slot is cut where its
first and last address differ highest: from there the blocks get smaller upwards, and they get
larger upwards to there.
-/

namespace Cx4Kernel.Vidmm

open Foundation

variable {index : Nat} {scan : U32 → Nat} {bits : Nat}

/-- A shifted one is a power of two. -/
theorem shiftedOne_toNat (inside : index < 32) : (shiftedOne index).toNat = 2 ^ index := by
  rw [shiftedOne, Nat.mod_eq_of_lt inside, ← BitVec.twoPow_eq]
  exact BitVec.toNat_twoPow_of_lt inside

/-- One less has the bits below. -/
theorem shiftedOne_sub_toNat (inside : index < 32)
    : (shiftedOne index - 1).toNat = 2 ^ index - 1 := by
  have positive := Nat.two_pow_pos index
  have power := shiftedOne_toNat inside
  have bound := (shiftedOne index).isLt
  rw [BitVec.toNat_sub, power, show (1 : U32).toNat = 1 from rfl]
  omega

/-- The 64-bit mask of a block has its low bits and those from 32 on. -/
theorem high_ones_append (low : U32)
    : (0xffffffff#32 ++ ~~~low : U64) = ~~~(low.setWidth 64) := by
  apply BitVec.eq_of_getLsbD_eq
  intro position inside
  rw [BitVec.getLsbD_append, BitVec.getLsbD_not, BitVec.getLsbD_not, BitVec.getLsbD_setWidth]
  by_cases small : position < 32
  · simp [small, inside]
  · have ones : (0xffffffff#32).getLsbD (position - 32) = true := by
      rw [show (0xffffffff#32) = BitVec.allOnes 32 from rfl, BitVec.getLsbD_allOnes]
      simp
      omega
    rw [if_neg small, ones, BitVec.getLsbD_of_ge low position (Nat.not_lt.mp small)]
    simp [inside]

/-- The command for a block. -/
def invalidateBlock (block : PowerBlock) : InvalidateBlock :=
  ⟨BitVec.ofNat 64 block.base, ~~~(shiftedOne block.exponent - 1)⟩

/-- It denotes the numbers of the block if this is aligned. -/
theorem invalidateBlock_denotes {block : PowerBlock} (small : block.exponent < 32)
    (bound : block.base < 2 ^ 64) (aligned : block.Aligned) (address : U64)
    : (invalidateBlock block).Denotes address ↔ block.Has address.toNat := by
  have ones : ((shiftedOne block.exponent - 1).setWidth 64 : U64).toNat
      = 2 ^ block.exponent - 1 := by
    rw [BitVec.toNat_setWidth, shiftedOne_sub_toNat small]
    apply Nat.mod_eq_of_lt
    have power : 2 ^ block.exponent < 2 ^ 32 := Nat.pow_lt_pow_right (by decide) small
    omega
  obtain ⟨multiple, base⟩ := aligned
  have positive := Nat.two_pow_pos block.exponent
  have here : (BitVec.ofNat 64 block.base).toNat / 2 ^ block.exponent = multiple := by
    rw [BitVec.toNat_ofNat, Nat.mod_eq_of_lt bound, base, Nat.mul_div_cancel_left _ positive]
  unfold InvalidateBlock.Denotes invalidateBlock
  rw [high_ones_append, ← BitVec.toNat_inj, toNat_and_not_ones _ ones,
    toNat_and_not_ones _ ones, Nat.mul_left_inj (Nat.ne_of_gt positive), here,
    Nat.div_eq_iff positive]
  unfold PowerBlock.Has PowerBlock.stop
  rw [base, Nat.mul_comm multiple]
  omega

/-- The scans' loops. -/
theorem takeBits_zero (scan : U32 → Nat) (bits : Nat) : takeBits scan bits 0 = [] := by
  cases bits <;> rfl

theorem invalidateLoop_zero (scan : U32 → Nat) (bits : Nat) (invAddr : U64)
    : invalidateLoop scan bits invAddr 0 = [] := by
  cases bits <;> rfl

/-- A loop emits the row of blocks of the one bits that it takes, up to 2^31. By induction on
the bits. The last block may have the size 2^31 that is negative as an `int`.
-/
theorem invalidateLoop_eq (picks : PicksBit scan) {invAddr : U64} {blRange : U32}
    (below : invAddr.toNat + blRange.toNat ≤ 2 ^ 31)
    : invalidateLoop scan bits invAddr blRange
      = (PowerBlock.row invAddr.toNat (takeBits scan bits blRange)).map invalidateBlock := by
  induction bits generalizing invAddr blRange with
  | zero => rfl
  | succ bits ih =>
      rw [invalidateLoop, takeBits]
      split
      next => rfl
      next notZero =>
        have one := picks blRange notZero
        have inside : scan blRange < 32 := BitVec.lt_of_getLsbD one
        have sum := clearBit_toNat one
        have head : (⟨invAddr, ~~~(shiftedOne (scan blRange) - 1)⟩ : InvalidateBlock)
            = invalidateBlock ⟨invAddr.toNat, scan blRange⟩ := by
          rw [invalidateBlock, BitVec.ofNat_toNat, BitVec.setWidth_eq]
        rw [PowerBlock.row, List.map_cons, ← head]
        dsimp only
        congr 1
        by_cases top : scan blRange = 31
        · have last : clearBit blRange (scan blRange) = 0 := by
            apply BitVec.eq_of_toNat_eq
            rw [top] at sum
            change _ = 0
            rw [top]
            omega
          rw [last, invalidateLoop_zero, takeBits_zero]
          rfl
        · have positive := Nat.two_pow_pos (scan blRange)
          have power : 2 ^ scan blRange < 2 ^ 31 :=
            Nat.pow_lt_pow_right (by decide) (by omega)
          have moved : (invAddr + (shiftedOne (scan blRange)).signExtend 64).toNat
              = invAddr.toNat + 2 ^ scan blRange := by
            rw [BitVec.toNat_add, toNat_signExtend_of_lt (shiftedOne_toNat inside ▸ power),
              shiftedOne_toNat inside]
            omega
          rw [ih (by rw [moved]; omega), moved]

-----------------------------------------------------------------------------------------
-- The slot
-----------------------------------------------------------------------------------------

namespace BlAllocation

variable {allocation : BlAllocation} {slotBuffer : BlRangeAllocator}

/-- The scan of a number below 2^32 that is not 0. -/
theorem bitScanReverse64_eq {mask : U64} (notZero : mask.toNat ≠ 0) (small : mask.toNat < 2 ^ 32)
    : bitScanReverse64 0 mask = mask.toNat.log2 := by
  have high : ((mask >>> 32).setWidth 32 : U32) = 0 := by
    apply BitVec.eq_of_toNat_eq
    rw [BitVec.toNat_setWidth, BitVec.toNat_ushiftRight, Nat.shiftRight_eq_div_pow,
      Nat.div_eq_of_lt small]
    rfl
  have low : (mask.setWidth 32 : U32).toNat = mask.toNat := by
    rw [BitVec.toNat_setWidth, Nat.mod_eq_of_lt small]
  have some : (mask.setWidth 32 : U32) ≠ 0 := by
    intro zero
    rw [zero] at low
    exact notZero low.symm
  rw [bitScanReverse64, high, if_neg (fun differ => differ rfl), if_pos some, highBit, low]

/-- Below 2^31 the addresses of a slot are not cut. -/
theorem startAddr_toNat (below : allocation.slotEnd slotBuffer ≤ 2 ^ 31)
    : (allocation.startAddr slotBuffer).toNat = allocation.slotStart slotBuffer := by
  have start : allocation.slotStart slotBuffer ≤ 2 ^ 31 :=
    Nat.le_trans (Nat.le_add_right _ _) below
  unfold slotStart at start ⊢
  have size : blSlotSize.toNat = 128 := by rfl
  rw [startAddr, BitVec.toNat_add, BitVec.toNat_setWidth, BitVec.toNat_mul, size]
  omega

theorem endAddr_toNat (below : allocation.slotEnd slotBuffer ≤ 2 ^ 31)
    : (allocation.endAddr slotBuffer).toNat = allocation.slotEnd slotBuffer := by
  obtain ⟨shift, power⟩ := slotBuffer.power
  have bound := slotBuffer.alignment.isLt
  have positive := Nat.two_pow_pos shift
  have most := allocation.size.isLt
  have ratio : blMappingRatio.toNat = 512 := by rfl
  have start := startAddr_toNat below
  have sum : (allocation.size / blMappingRatio + slotBuffer.alignment.setWidth 64 - 1).toNat
      = allocation.size.toNat / 512 + (2 ^ shift - 1) := by
    rw [BitVec.toNat_sub, BitVec.toNat_add, BitVec.toNat_setWidth, BitVec.toNat_udiv, ratio, power,
      show (1 : U64).toNat = 1 from rfl]
    omega
  rw [slotEnd] at below ⊢
  rw [power] at below ⊢
  generalize rounded : allocation.size.toNat / 512 + (2 ^ shift - 1) = size at below sum ⊢
  have close := Nat.lt_div_mul_add (a := size) positive
  have half : 2 ^ shift ≤ 2 ^ 31 := by
    apply Nat.pow_le_pow_right (by decide)
    apply Nat.le_of_lt_succ
    exact (Nat.pow_lt_pow_iff_right (by decide)).mp (power ▸ bound)
  have low : size % 2 ^ 32 = size := Nat.mod_eq_of_lt (by omega)
  rw [endAddr, BitVec.toNat_add, BitVec.toNat_setWidth, BitVec.toNat_setWidth, utilAlign,
    toNat_and_not_mask _ power, sum, low, start]
  omega

/-- The cut: a multiple of a power of two in the slot that is at most that power behind its
start and less than that before its end.
-/
theorem midAddr_spec (below : allocation.slotEnd slotBuffer ≤ 2 ^ 31)
    : ∃ position ≤ 31, 2 ^ position ∣ (allocation.midAddr slotBuffer).toNat
      ∧ allocation.slotStart slotBuffer ≤ (allocation.midAddr slotBuffer).toNat
      ∧ (allocation.midAddr slotBuffer).toNat
        ≤ allocation.slotStart slotBuffer + 2 ^ position
      ∧ (allocation.midAddr slotBuffer).toNat ≤ allocation.slotEnd slotBuffer
      ∧ allocation.slotEnd slotBuffer
        < (allocation.midAddr slotBuffer).toNat + 2 ^ position := by
  have start := startAddr_toNat below
  have stop := endAddr_toNat below
  have ordered : allocation.slotStart slotBuffer ≤ allocation.slotEnd slotBuffer :=
    Nat.le_add_right _ _
  -- the mask clears the bits below the position
  have cut : ∀ position, position < 32 →
      bitScanReverse64 0 (allocation.startAddr slotBuffer ^^^ allocation.endAddr slotBuffer)
        = position →
      (allocation.midAddr slotBuffer).toNat
        = allocation.slotEnd slotBuffer / 2 ^ position * 2 ^ position := by
    intro position inside scanned
    have ones := shiftedOne_sub_toNat inside
    have power : 2 ^ position ≤ 2 ^ 31 :=
      Nat.pow_le_pow_right (by decide) (Nat.le_of_lt_succ inside)
    have positive : (shiftedOne position - 1).msb = false :=
      BitVec.msb_eq_false_iff_two_mul_lt.mpr (by omega)
    have wide : ((shiftedOne position - 1).setWidth 64 : U64).toNat = 2 ^ position - 1 := by
      rw [BitVec.toNat_setWidth, ones]
      omega
    rw [midAddr, scanned, BitVec.signExtend_not (by decide),
      BitVec.signExtend_eq_setWidth_of_msb_false positive, toNat_and_not_ones _ wide, stop]
  rcases Nat.eq_or_lt_of_le ordered with same | less
  · have equal : allocation.startAddr slotBuffer = allocation.endAddr slotBuffer := by
      apply BitVec.eq_of_toNat_eq
      rw [start, stop, same]
    have mid := cut 0 (by decide) (by rw [equal, BitVec.xor_self]; rfl)
    rw [Nat.pow_zero, Nat.div_one, Nat.mul_one] at mid
    refine ⟨0, by decide, ?_⟩
    rw [mid, Nat.pow_zero]
    omega
  · have split := div_log2_xor less
    have narrow : allocation.slotStart slotBuffer ^^^ allocation.slotEnd slotBuffer < 2 ^ 32 := by
      apply Nat.xor_lt_two_pow <;> omega
    have differ : allocation.slotStart slotBuffer ^^^ allocation.slotEnd slotBuffer ≠ 0 :=
      fun zero => Nat.ne_of_lt less (xor_eq_zero_iff.mp zero)
    have scanned := @bitScanReverse64_eq
      (allocation.startAddr slotBuffer ^^^ allocation.endAddr slotBuffer)
    rw [BitVec.toNat_xor, start, stop] at scanned
    have inside := (Nat.log2_lt differ).mpr narrow
    have mid := cut _ inside (scanned differ narrow)
    generalize (allocation.slotStart slotBuffer ^^^ allocation.slotEnd slotBuffer).log2
      = position at split inside mid
    have positive := Nat.two_pow_pos position
    have atStart := Nat.div_mul_le_self (allocation.slotStart slotBuffer) (2 ^ position)
    have nearStart := Nat.lt_div_mul_add (a := allocation.slotStart slotBuffer) positive
    have atEnd := Nat.div_mul_le_self (allocation.slotEnd slotBuffer) (2 ^ position)
    have nearEnd := Nat.lt_div_mul_add (a := allocation.slotEnd slotBuffer) positive
    refine ⟨position, Nat.le_of_lt_succ inside, mid ▸ Nat.dvd_mul_left _ _, ?_⟩
    rw [split, Nat.succ_mul] at mid atEnd nearEnd
    omega

/-- The exponents of the blocks upwards from the cut, and of those from the start to it. -/
def exponentsAfter (allocation : BlAllocation) (slotBuffer : BlRangeAllocator) : List Nat :=
  takeBits highBit 32
    ((allocation.endAddr slotBuffer - allocation.midAddr slotBuffer).setWidth 32 : U32)

def exponentsBefore (allocation : BlAllocation) (slotBuffer : BlRangeAllocator) : List Nat :=
  takeBits lowBit 32
    ((allocation.midAddr slotBuffer - allocation.startAddr slotBuffer).setWidth 32 : U32)

/-- The blocks as numbers. -/
def powerBlocks (allocation : BlAllocation) (slotBuffer : BlRangeAllocator) : List PowerBlock :=
  PowerBlock.row (allocation.midAddr slotBuffer).toNat (allocation.exponentsAfter slotBuffer)
    ++ PowerBlock.row (allocation.slotStart slotBuffer) (allocation.exponentsBefore slotBuffer)

/-- What the power blocks make up, and that they are aligned and not larger than 2^31. -/
structure Cut (allocation : BlAllocation) (slotBuffer : BlRangeAllocator) : Prop where
  blocks : allocation.invalidateBlocks slotBuffer
    = (allocation.powerBlocks slotBuffer).map invalidateBlock
  before : allocation.slotStart slotBuffer
    + PowerBlock.total (allocation.exponentsBefore slotBuffer)
      = (allocation.midAddr slotBuffer).toNat
  after : (allocation.midAddr slotBuffer).toNat
    + PowerBlock.total (allocation.exponentsAfter slotBuffer)
      = allocation.slotEnd slotBuffer
  small : ∀ block ∈ allocation.powerBlocks slotBuffer, block.exponent < 32
  aligned : ∀ block ∈ allocation.powerBlocks slotBuffer, block.Aligned

theorem cut (below : allocation.slotEnd slotBuffer ≤ 2 ^ 31) : allocation.Cut slotBuffer := by
  have start := startAddr_toNat below
  have stop := endAddr_toNat below
  obtain ⟨position, high, divides, startMid, nearStart, midEnd, nearEnd⟩ := midAddr_spec below
  have upper : ((allocation.endAddr slotBuffer - allocation.midAddr slotBuffer).setWidth 32
      : U32).toNat = allocation.slotEnd slotBuffer - (allocation.midAddr slotBuffer).toNat := by
    rw [BitVec.toNat_setWidth, BitVec.toNat_sub, stop]
    omega
  have lower : ((allocation.midAddr slotBuffer - allocation.startAddr slotBuffer).setWidth 32
      : U32).toNat
      = (allocation.midAddr slotBuffer).toNat - allocation.slotStart slotBuffer := by
    rw [BitVec.toNat_setWidth, BitVec.toNat_sub, start]
    omega
  have totalAfter := (takeBits_all highBit_picks (oneBits_card_le
    ((allocation.endAddr slotBuffer - allocation.midAddr slotBuffer).setWidth 32 : U32))).2
  have totalBefore := (takeBits_all lowBit_picks (oneBits_card_le
    ((allocation.midAddr slotBuffer - allocation.startAddr slotBuffer).setWidth 32 : U32))).2
  rw [upper] at totalAfter
  rw [lower] at totalBefore
  have before : allocation.slotStart slotBuffer
      + PowerBlock.total (allocation.exponentsBefore slotBuffer)
        = (allocation.midAddr slotBuffer).toNat := by
    rw [exponentsBefore, totalBefore]
    omega
  -- a one bit of a range is not above the position of the cut
  have belowCut : ∀ {range : U32} {exponent : Nat}, range.getLsbD exponent = true →
      range.toNat ≤ 2 ^ position → exponent ≤ position := by
    intro range exponent one bound
    rw [← BitVec.testBit_toNat] at one
    exact (Nat.pow_le_pow_iff_right (by decide)).mp
      (Nat.le_trans (Nat.ge_two_pow_of_testBit one) bound)
  have cutAfter : ∀ exponent ∈ allocation.exponentsAfter slotBuffer, exponent ≤ position :=
    fun exponent taken => belowCut (takeBits_mem highBit_picks taken) (by omega)
  have cutBefore : ∀ exponent ∈ allocation.exponentsBefore slotBuffer, exponent ≤ position :=
    fun exponent taken => belowCut (takeBits_mem lowBit_picks taken) (by omega)
  refine ⟨?_, before, ?_, ?_, ?_⟩
  · have mid : (allocation.midAddr slotBuffer).toNat
        + ((allocation.endAddr slotBuffer - allocation.midAddr slotBuffer).setWidth 32
          : U32).toNat ≤ 2 ^ 31 := by omega
    have first : (allocation.startAddr slotBuffer).toNat
        + ((allocation.midAddr slotBuffer - allocation.startAddr slotBuffer).setWidth 32
          : U32).toNat ≤ 2 ^ 31 := by omega
    rw [invalidateBlocks, powerBlocks, List.map_append, ← start,
      invalidateLoop_eq highBit_picks mid, invalidateLoop_eq lowBit_picks first]
    rfl
  · rw [exponentsAfter, totalAfter]
    omega
  · intro block member
    apply Nat.lt_of_le_of_lt _ (Nat.lt_succ_of_le high)
    rcases List.mem_append.mp member with after | earlier
    · exact cutAfter _ (PowerBlock.row_exponent after)
    · exact cutBefore _ (PowerBlock.row_exponent earlier)
  · intro block member
    rcases List.mem_append.mp member with after | earlier
    · apply PowerBlock.row_aligned_of_descending _ _ block after
      · exact takeBits_pairwise highBit_picks fun _ notZero => (highBit_spec notZero).2
      · intro exponent taken
        exact Nat.dvd_trans (Nat.pow_dvd_pow 2 (cutAfter exponent taken)) divides
    · apply PowerBlock.row_aligned_of_ascending _ _ block earlier
      · exact takeBits_pairwise lowBit_picks fun _ notZero => (lowBit_spec notZero).2
      · intro exponent taken
        rw [before]
        exact Nat.dvd_trans (Nat.pow_dvd_pow 2 (cutBefore exponent taken)) divides

/-- The power blocks have the numbers of the slot. -/
theorem powerBlocks_has (cut : allocation.Cut slotBuffer) (number : Nat)
    : (∃ block ∈ allocation.powerBlocks slotBuffer, block.Has number)
      ↔ allocation.slotStart slotBuffer ≤ number
        ∧ number < allocation.slotEnd slotBuffer := by
  have after := cut.after
  have before := cut.before
  have upper := @PowerBlock.row_has (allocation.midAddr slotBuffer).toNat
    (allocation.exponentsAfter slotBuffer) number
  have lower := @PowerBlock.row_has (allocation.slotStart slotBuffer)
    (allocation.exponentsBefore slotBuffer) number
  simp only [powerBlocks, List.mem_append, or_and_right, exists_or, upper, lower]
  omega

/-- They have no number in common. -/
theorem powerBlocks_apart (cut : allocation.Cut slotBuffer)
    : (allocation.powerBlocks slotBuffer).Pairwise fun one other =>
      ∀ number, ¬ (one.Has number ∧ other.Has number) := by
  have follows : ∀ {one other : PowerBlock}, one.stop ≤ other.base →
      ∀ number, ¬ (one.Has number ∧ other.Has number) := by
    rintro one other order number ⟨first, second⟩
    exact absurd first.2 (Nat.not_lt.mpr (Nat.le_trans order second.1))
  apply List.pairwise_append.mpr
  refine ⟨(PowerBlock.row_apart _ _).imp follows, (PowerBlock.row_apart _ _).imp follows, ?_⟩
  intro upper after lower earlier number both
  have order : lower.stop ≤ upper.base :=
    Nat.le_trans (cut.before ▸ PowerBlock.row_stop earlier) (PowerBlock.row_base after)
  exact follows order number both.symm

end BlAllocation

/-- An allocation of 192 KiB in the second to fourth slot. -/
def threeSlots : BlAllocation where
  size := 0x30000
  slotIndex := 1

end Cx4Kernel.Vidmm
