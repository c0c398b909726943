import Cx4Kernel.Vidmm.InvalidateSlot
import Cx4Kernel.Vidmm.TransferBlits

/-! The clear commands for the burst length slot of an allocation with the invalidation behind
them, from `vidmm_build_page_buffer_e3k.c`. The room is checked for a command dword each and 17
more before the commands are written, and for what was written only afterwards.
-/

namespace Cx4Kernel.Vidmm

open Foundation

/-- The buffer of `vidmm_private_build_paging_buffer_arg_t`. -/
structure BlDmaBuffer where
  dmaBuffer : Nat
  dmaSize : U32

/-- What a call leaves behind: the buffer, its result and the dwords it wrote from the start of
the buffer on.
-/
structure BlClearCall where
  data : BlDmaBuffer
  result : PagingBufferResult
  written : List BlCommand

namespace BlAllocation

variable (allocation : BlAllocation) (slotBuffer : BlRangeAllocator)

/-- `bl_byte`. -/
def blByte : U32 :=
  (allocation.size >>> 9).setWidth 32

/-- `cmd_loop`. -/
def cmdLoop : Nat :=
  allocation.blByte.toNat / 0x1FFFF + if allocation.blByte.toNat % 0x1FFFF ≠ 0 then 1 else 0

/-- The loop over the clear commands, for the commands from `i` on. -/
def clearLoop : Nat → Nat → U64 → List BlCommand
  | 0, _, _ => []
  | left + 1, i, startAddr =>
      let clearSize : U32 :=
        if allocation.cmdLoop = i + 1 ∧ allocation.blByte.toNat % 0x1FFFF ≠ 0 then
          allocation.blByte % 0x1FFFF
        else 0x1FFFF
      [.blClear clearSize, .value (startAddr.setWidth 32),
        .value (((startAddr >>> 32).setWidth 32 &&& 0xFF) ||| (0xD <<< 28)), .value 0]
        ++ clearLoop left (i + 1) (startAddr + 0x1FFFF)

/-- The dwords that are written if the checks before pass. -/
def clearCommands (videoOnly : Bool) : List BlCommand :=
  (if videoOnly then []
    else allocation.clearLoop allocation.cmdLoop 0 ((allocation.slotIndex <<< 7).setWidth 64))
    ++ allocation.vidmmiInvalidateBlSlotE3k slotBuffer

/-- `vidmmi_clear_bl_slot_e3k`. -/
def vidmmiClearBlSlotE3k (videoOnly : Bool) (data : BlDmaBuffer) : BlClearCall :=
  if data.dmaSize.toNat < 17 * 4 then ⟨data, .insufficientDmaBuffer, []⟩
  else if videoOnly = false ∧ data.dmaSize.toNat < (allocation.cmdLoop + 17) * 4 then
    ⟨data, .insufficientDmaBuffer, []⟩
  else
    let commands := allocation.clearCommands slotBuffer videoOnly
    if data.dmaSize.toNat < 4 * commands.length then
      ⟨data, .insufficientDmaBuffer, commands⟩
    else
      ⟨⟨data.dmaBuffer + 4 * commands.length,
          data.dmaSize - BitVec.ofNat 32 (4 * commands.length)⟩, .ok, commands⟩

/-- The dwords that the checks before ask for. -/
def checkedDwords (videoOnly : Bool) : Nat :=
  if videoOnly then 17 else allocation.cmdLoop + 17

/-- The dwords of the clear commands, of one invalidation for each one bit of the two parts of
the slot, and of the fence.
-/
def neededDwords (videoOnly : Bool) : Nat :=
  (if videoOnly then 0 else 4 * allocation.cmdLoop)
    + 5 * ((oneBits ((allocation.endAddr slotBuffer - allocation.midAddr slotBuffer).setWidth 32
        : U32)).card
      + (oneBits ((allocation.midAddr slotBuffer - allocation.startAddr slotBuffer).setWidth 32
        : U32)).card)
    + 4

/-- A call keeps to the buffer it was given, and leaves it alone if it asks for another. -/
structure KeepsBuffer (videoOnly : Bool) (data : BlDmaBuffer) : Prop where
  inside : 4 * (allocation.vidmmiClearBlSlotE3k slotBuffer videoOnly data).written.length
    ≤ data.dmaSize.toNat
  unchanged : (allocation.vidmmiClearBlSlotE3k slotBuffer videoOnly data).result
    = .insufficientDmaBuffer →
      (allocation.vidmmiClearBlSlotE3k slotBuffer videoOnly data).data = data

end BlAllocation

/-- A loop emits a block for each one bit. By induction on the bits. -/
theorem invalidateLoop_length (scan : U32 → Nat) (bits : Nat) (invAddr : U64) (blRange : U32)
    : (invalidateLoop scan bits invAddr blRange).length
      = (takeBits scan bits blRange).length := by
  induction bits generalizing invAddr blRange with
  | zero => rfl
  | succ bits ih =>
      rw [invalidateLoop, takeBits]
      split
      next => rfl
      next => exact congrArg (· + 1) (ih _ _)

namespace BlAllocation

variable {allocation : BlAllocation} {slotBuffer : BlRangeAllocator} {videoOnly : Bool}

/-- The clear commands have four dwords each. By induction on the commands. -/
theorem clearLoop_length (allocation : BlAllocation) (left i : Nat) (startAddr : U64)
    : (allocation.clearLoop left i startAddr).length = 4 * left := by
  induction left generalizing i startAddr with
  | zero => rfl
  | succ left ih =>
      rw [clearLoop, List.length_append, ih, Nat.mul_succ, Nat.add_comm]
      rfl

/-- An invalidation command has five dwords. -/
theorem words_length (blocks : List InvalidateBlock)
    : (blocks.flatMap InvalidateBlock.words).length = 5 * blocks.length := by
  induction blocks with
  | nil => rfl
  | cons block blocks ih =>
      rw [List.flatMap_cons, List.length_append, ih, List.length_cons, Nat.mul_succ,
        Nat.add_comm]
      rfl

/-- What is written is what is needed. -/
theorem clearCommands_length (allocation : BlAllocation) (slotBuffer : BlRangeAllocator)
    (videoOnly : Bool)
    : (allocation.clearCommands slotBuffer videoOnly).length
      = allocation.neededDwords slotBuffer videoOnly := by
  have blocks : (allocation.invalidateBlocks slotBuffer).length
      = (oneBits ((allocation.endAddr slotBuffer - allocation.midAddr slotBuffer).setWidth 32
          : U32)).card
        + (oneBits ((allocation.midAddr slotBuffer - allocation.startAddr slotBuffer).setWidth 32
          : U32)).card := by
    rw [invalidateBlocks, List.length_append, invalidateLoop_length, invalidateLoop_length,
      (takeBits_all highBit_picks (oneBits_card_le _)).1,
      (takeBits_all lowBit_picks (oneBits_card_le _)).1]
  rw [clearCommands, vidmmiInvalidateBlSlotE3k, List.length_append, List.length_append,
    words_length, blocks, neededDwords, ← Nat.add_assoc]
  cases videoOnly with
  | false => exact congrArg (· + _ + 4) (clearLoop_length allocation _ _ _)
  | true => rfl

/-- A call that a check before refuses writes nothing. -/
theorem clearBlSlot_refused {data : BlDmaBuffer}
    (few : data.dmaSize.toNat < 4 * allocation.checkedDwords videoOnly)
    : allocation.vidmmiClearBlSlotE3k slotBuffer videoOnly data
      = ⟨data, .insufficientDmaBuffer, []⟩ := by
  unfold vidmmiClearBlSlotE3k checkedDwords at *
  split
  next => rfl
  next enough =>
    cases videoOnly with
    | false => exact if_pos ⟨rfl, Nat.mul_comm 4 _ ▸ few⟩
    | true => exact absurd few enough

/-- Otherwise it writes all commands. -/
theorem clearBlSlot_written (slotBuffer : BlRangeAllocator) {data : BlDmaBuffer}
    (enough : 4 * allocation.checkedDwords videoOnly ≤ data.dmaSize.toNat)
    : (allocation.vidmmiClearBlSlotE3k slotBuffer videoOnly data).written
      = allocation.clearCommands slotBuffer videoOnly := by
  unfold checkedDwords at enough
  have first : ¬ data.dmaSize.toNat < 17 * 4 := by
    cases videoOnly <;> simp at enough <;> omega
  have second : ¬ (videoOnly = false ∧ data.dmaSize.toNat < (allocation.cmdLoop + 17) * 4) := by
    rintro ⟨rfl, few⟩
    simp at enough
    omega
  rw [vidmmiClearBlSlotE3k, if_neg first, if_neg second]
  dsimp only
  split <;> rfl

/-- The buffer is left alone when another is asked for. -/
theorem clearBlSlot_unchanged (allocation : BlAllocation) (slotBuffer : BlRangeAllocator)
    (videoOnly : Bool) (data : BlDmaBuffer)
    (insufficient : (allocation.vidmmiClearBlSlotE3k slotBuffer videoOnly data).result
      = .insufficientDmaBuffer)
    : (allocation.vidmmiClearBlSlotE3k slotBuffer videoOnly data).data = data := by
  unfold vidmmiClearBlSlotE3k at *
  split
  next => rfl
  next first =>
    rw [if_neg first] at insufficient
    split
    next => rfl
    next second =>
      rw [if_neg second] at insufficient
      dsimp only at insufficient ⊢
      split
      next => rfl
      next third =>
        rw [if_neg third] at insufficient
        cases insufficient

/-- A call that passes the checks before keeps to its buffer if the buffer has what is needed,
and only then.
-/
theorem keepsBuffer_iff_of_checked {data : BlDmaBuffer}
    (enough : 4 * allocation.checkedDwords videoOnly ≤ data.dmaSize.toNat)
    : allocation.KeepsBuffer slotBuffer videoOnly data
      ↔ 4 * allocation.neededDwords slotBuffer videoOnly ≤ data.dmaSize.toNat := by
  have written := clearBlSlot_written slotBuffer enough
  rw [← clearCommands_length, ← written]
  constructor
  · exact KeepsBuffer.inside
  · intro inside
    exact ⟨inside, clearBlSlot_unchanged allocation slotBuffer videoOnly data⟩

/-- A call keeps to its buffer if a check before fails or the buffer has what is needed, and
only then.
-/
theorem clearBlSlot_keepsBuffer_iff (allocation : BlAllocation) (slotBuffer : BlRangeAllocator)
    (videoOnly : Bool) (data : BlDmaBuffer)
    : allocation.KeepsBuffer slotBuffer videoOnly data
      ↔ data.dmaSize.toNat < 4 * allocation.checkedDwords videoOnly
        ∨ 4 * allocation.neededDwords slotBuffer videoOnly ≤ data.dmaSize.toNat := by
  rcases Nat.lt_or_ge data.dmaSize.toNat (4 * allocation.checkedDwords videoOnly)
    with few | enough
  · refine iff_of_true ⟨?_, fun _ => ?_⟩ (.inl few)
    · rw [clearBlSlot_refused few]
      exact Nat.zero_le _
    · rw [clearBlSlot_refused few]
  · rw [keepsBuffer_iff_of_checked enough]
    exact (or_iff_right (Nat.not_lt.mpr enough)).symm

/-- An allocation is cleared within every buffer if it needs no more than the checks before ask
for, and only then: a buffer of exactly that size passes them.
-/
theorem keepsBuffer_forall_iff (allocation : BlAllocation) (slotBuffer : BlRangeAllocator)
    (videoOnly : Bool)
    : (∀ data, allocation.KeepsBuffer slotBuffer videoOnly data)
      ↔ allocation.neededDwords slotBuffer videoOnly ≤ allocation.checkedDwords videoOnly := by
  constructor
  · intro keeps
    have small : 4 * allocation.checkedDwords videoOnly < 2 ^ 32 := by
      have bytes := allocation.blByte.isLt
      have commands : allocation.cmdLoop ≤ allocation.blByte.toNat / 0x1FFFF + 1 := by
        apply Nat.add_le_add_left
        split <;> decide
      unfold checkedDwords
      split <;> omega
    let tight : BlDmaBuffer := ⟨0, BitVec.ofNat 32 (4 * allocation.checkedDwords videoOnly)⟩
    have size : tight.dmaSize.toNat = 4 * allocation.checkedDwords videoOnly := by
      rw [BitVec.toNat_ofNat, Nat.mod_eq_of_lt small]
    have fits := (keepsBuffer_iff_of_checked (Nat.le_of_eq size.symm)).mp (keeps tight)
    omega
  · intro fits data
    rcases Nat.lt_or_ge data.dmaSize.toNat (4 * allocation.checkedDwords videoOnly)
      with few | enough
    · refine ⟨?_, clearBlSlot_unchanged allocation slotBuffer videoOnly data⟩
      rw [clearBlSlot_refused few]
      exact Nat.zero_le _
    · exact (keepsBuffer_iff_of_checked enough).mpr (by omega)

end BlAllocation

/-- An allocation of 448 KiB in the slots from the second on, which are cut into three
blocks.
-/
def sevenSlots : BlAllocation where
  size := 0x70000
  slotIndex := 1

/-- In a buffer of 72 bytes, which passes the checks, 92 bytes are written. -/
theorem sevenSlots_not_keepsBuffer
    : (sevenSlots.vidmmiClearBlSlotE3k blBuffer false ⟨0x1000, 72⟩).written.length = 23
      ∧ ¬ sevenSlots.KeepsBuffer blBuffer false ⟨0x1000, 72⟩ := by
  have length : (sevenSlots.vidmmiClearBlSlotE3k blBuffer false ⟨0x1000, 72⟩).written.length
      = 23 := by
    rfl
  refine ⟨length, fun keeps => ?_⟩
  have inside := keeps.inside
  rw [length] at inside
  exact absurd inside (by decide)

end Cx4Kernel.Vidmm
