import Cx4Kernel.Foundation.PowerBlocks
import Cx4Kernel.Vidmm.SegmentMemory

/-! The invalidation commands for the burst length slot of an allocation, from
`vidmm_build_page_buffer_e3k.c`: the slot is cut into blocks whose sizes are powers of two.
-/

namespace Cx4Kernel.Vidmm

open Foundation

/-- `BL_SLOT_SIZE`: `BL_BUFFER_SIZE >> BL_INDEX_BITS`. -/
def blSlotSize : U32 :=
  (32 * 1024 * 1024) >>> 18

/-- `BL_MAPPING_RATIO`. -/
def blMappingRatio : U64 := 512

/-- What the burst length commands depend on of an allocation. -/
structure BlAllocation where
  size : U64
  slotIndex : U32

/-- The range allocator of the burst length buffer, whose alignment is a power of two. -/
structure BlRangeAllocator where
  start : U64
  alignment : U32
  power : ∃ shift, alignment.toNat = 2 ^ shift

/-- The one that `vidmm_init_bl_heap_e3k` makes, with `BL_SLICE_ALIGNMENT`. -/
def blBuffer : BlRangeAllocator where
  start := 0
  alignment := blSlotSize
  power := ⟨7, rfl⟩

/-- `_BitScanReverse_64`, which leaves the index alone if there is no one bit. -/
def bitScanReverse64 (index : Nat) (mask : U64) : Nat :=
  let mask1 : U32 := (mask >>> 32).setWidth 32
  let mask0 : U32 := mask.setWidth 32
  if mask1 ≠ 0 then highBit mask1 + 32
  else if mask0 ≠ 0 then highBit mask0
  else index

/-- `1 << index` of an `int`, whose count is taken modulo its width. -/
def shiftedOne (index : Nat) : U32 :=
  1#32 <<< (index % 32)

/-- The block of one invalidation command: its addresses agree with `addr` in the bits of the
mask and in all bits from 32 on.
-/
structure InvalidateBlock where
  addr : U64
  mask : U32

/-- The dwords of the commands. -/
inductive BlCommand where
  /-- `SEND_FLAGBUFFER_INVALIDATE_COMMAND_E3K` -/
  | flagBufferInvalidate
  /-- `SEND_BL_CLEAR_COMMAND_E3K` -/
  | blClear (counter : U32)
  /-- `SEND_INTERNAL_WRITEFENCE_E3K` -/
  | writeFence
  /-- `SEND_INTERNAL_FENCE_VALUE_E3K` -/
  | fenceValue
  /-- `SEND_INTERNAL_WAIT_E3K` -/
  | wait
  /-- `SEND_INTERNAL_WAIT_MAIN_E3K` -/
  | waitMain
  | value (dword : U32)

namespace InvalidateBlock

/-- The dwords of one invalidation command. -/
def words (block : InvalidateBlock) : List BlCommand :=
  [.flagBufferInvalidate, .value (block.addr.setWidth 32),
    .value ((block.addr >>> 32).setWidth 32), .value block.mask, .value 0xffffffff]

/-- An address is in a block. -/
def Denotes (block : InvalidateBlock) (address : U64) : Prop :=
  address &&& (0xffffffff#32 ++ block.mask) = block.addr &&& (0xffffffff#32 ++ block.mask)

/-- A block has a power of two of addresses from a multiple of it on. -/
def Natural (block : InvalidateBlock) : Prop :=
  ∃ exponent, 2 ^ exponent ∣ block.addr.toNat
    ∧ ∀ address : U64, block.Denotes address
      ↔ block.addr.toNat ≤ address.toNat
        ∧ address.toNat < block.addr.toNat + 2 ^ exponent

end InvalidateBlock

/-- The loop over the one bits of `bl_range`, in the order of a scan. -/
def invalidateLoop (scan : U32 → Nat) : Nat → U64 → U32 → List InvalidateBlock
  | 0, _, _ => []
  | bits + 1, invAddr, blRange =>
      if blRange = 0 then []
      else
        let slotMaskIdx := scan blRange
        ⟨invAddr, ~~~(shiftedOne slotMaskIdx - 1)⟩
          :: invalidateLoop scan bits (invAddr + (shiftedOne slotMaskIdx).signExtend 64)
            (clearBit blRange slotMaskIdx)

namespace BlAllocation

variable (allocation : BlAllocation) (slotBuffer : BlRangeAllocator)

/-- `start_addr`. -/
def startAddr : U64 :=
  (allocation.slotIndex * blSlotSize).setWidth 64 + slotBuffer.start

/-- `end_addr`. -/
def endAddr : U64 :=
  let blRange : U32 :=
    (utilAlign (allocation.size / blMappingRatio) slotBuffer.alignment).setWidth 32
  allocation.startAddr slotBuffer + blRange.setWidth 64

/-- `mid_addr`. -/
def midAddr : U64 :=
  let differ := allocation.startAddr slotBuffer ^^^ allocation.endAddr slotBuffer
  allocation.endAddr slotBuffer
    &&& (~~~(shiftedOne (bitScanReverse64 0 differ) - 1)).signExtend 64

/-- The blocks of both loops, upwards from `mid_addr` and from `start_addr`. -/
def invalidateBlocks : List InvalidateBlock :=
  let startAddr := allocation.startAddr slotBuffer
  let midAddr := allocation.midAddr slotBuffer
  invalidateLoop highBit 32 midAddr ((allocation.endAddr slotBuffer - midAddr).setWidth 32)
    ++ invalidateLoop lowBit 32 startAddr ((midAddr - startAddr).setWidth 32)

/-- `vidmmi_invalidate_bl_slot_e3k`: the dwords it appends. -/
def vidmmiInvalidateBlSlotE3k : List BlCommand :=
  (allocation.invalidateBlocks slotBuffer).flatMap InvalidateBlock.words
    ++ [.writeFence, .fenceValue, .wait, .waitMain]

/-- The slot in numbers. -/
def slotStart : Nat :=
  allocation.slotIndex.toNat * 128 + slotBuffer.start.toNat

def slotEnd : Nat :=
  let alignment := slotBuffer.alignment.toNat
  allocation.slotStart slotBuffer
    + (allocation.size.toNat / 512 + (alignment - 1)) / alignment * alignment

end BlAllocation

end Cx4Kernel.Vidmm
