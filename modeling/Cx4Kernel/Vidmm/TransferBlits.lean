import Cx4Kernel.Foundation.MachineInt

/-! The copy commands of a paging task: the TRANSFER operation of
`vidmm_build_page_buffer_e3k`, which cuts a transfer into rectangles, one `BITBLT` command
each. Numbers are those of the registers and of 32-bit and 64-bit variables.
-/

namespace Cx4Kernel.Vidmm

/-- `MAX_WIDTH_2DBLT`, in pixels of 4 bytes. -/
def maxWidth2dblt : Nat := 16 * 1024

/-- `MAX_HEIGHT_2DBLT`. -/
def maxHeight2dblt : Nat := 16 * 1024

/-- `sizeof(BITBLT_REGSETTING_E3K)`: 44 registers. -/
def sizeofBitbltRegsettingE3k : Nat := 44 * 4

/-- The registers of `BITBLT_REGSETTING_E3K` that say what is copied. -/
structure BitBlt where
  srcBaseAddr : Nat
  dstBaseAddr : Nat
  width : Nat
  height : Nat
  xMin : Nat
  xMax : Nat
  yMin : Nat
  yMax : Nat
deriving DecidableEq

/-- The bytes a command copies, as pairs of their source and destination addresses: line by
line a rectangle of a surface, which starts at a multiple of 256.
-/
def BitBlt.copies (blit : BitBlt) : List (Nat × Nat) :=
  (List.range' blit.yMin (blit.yMax + 1 - blit.yMin)).flatMap fun y =>
    (List.range' (4 * (y * blit.width + blit.xMin)) (4 * (blit.xMax + 1 - blit.xMin))).map
      fun byte => (blit.srcBaseAddr * 256 + byte, blit.dstBaseAddr * 256 + byte)

/-- The fields of `vidmm_private_build_paging_buffer_arg_t` for a transfer. -/
structure PagingBufferArg where
  dmaBuffer : Nat
  dmaSize : Nat
  multiPassOffset : Nat
  transferSize : Nat
  srcPhyAddr : Nat
  dstPhyAddr : Nat

/-- The results of the builder. -/
inductive PagingBufferResult where
  | ok
  | insufficientDmaBuffer
deriving DecidableEq

/-- What a call leaves behind: its argument, its result and the commands it wrote. -/
structure PagingBufferCall where
  arg : PagingBufferArg
  result : PagingBufferResult
  blits : List BitBlt

/-- `Width` and `Height` of the next command. -/
def blitRectangle (transferSize : Nat) : Nat × Nat :=
  if transferSize < maxWidth2dblt * 4 then (transferSize / 4, 1)
  else
    let height := transferSize / (maxWidth2dblt * 4)
    (maxWidth2dblt, if height > maxHeight2dblt then maxHeight2dblt else height)

/-- `unsigned int` subtraction. -/
def sub32 (left right : Nat) : Nat :=
  (left + (2 ^ 32 - right % 2 ^ 32)) % 2 ^ 32

namespace PagingBufferArg

/-- The registers of a command for a rectangle at an offset. -/
def bitBlt (arg : PagingBufferArg) (startOffset startX width height : Nat) : BitBlt where
  srcBaseAddr := (arg.srcPhyAddr + startOffset) % 2 ^ 64 / 256 % 2 ^ 32
  dstBaseAddr := (arg.dstPhyAddr + startOffset) % 2 ^ 64 / 256 % 2 ^ 32
  width := width % 2 ^ 15
  height := height % 2 ^ 15
  xMin := startX % 2 ^ 16
  xMax := sub32 width 1 % 2 ^ 16
  yMin := 0
  yMax := sub32 height 1 % 2 ^ 16

/-- The loop over commands, for the commands there is room for: what it writes, and
`start_offset` and `transfer_size` after it.
-/
def transferLoop (arg : PagingBufferArg) : Nat → Nat → Nat → List BitBlt × Nat × Nat
  | 0, startOffset, transferSize => ([], startOffset, transferSize)
  | maxTransferCmdCount + 1, startOffset, transferSize =>
      if 0 < transferSize then
        let (width, height) := blitRectangle transferSize
        let startX := (startOffset - startOffset / 256 * 256) / 4
        let startOffset := startOffset / 256 * 256
        let (blits, after) :=
          arg.transferLoop maxTransferCmdCount ((startOffset + width * height * 4) % 2 ^ 32)
            (sub32 transferSize (width * height * 4 + startX * 4))
        (arg.bitBlt startOffset startX width height :: blits, after)
      else ([], startOffset, transferSize)

/-- `vidmm_build_page_buffer_e3k` for `BUILDING_PAGING_OPERATION_TRANSFER`. The result `none`
stands for a failed `zx_assert`.
-/
def vidmmBuildPageBufferE3k (arg : PagingBufferArg) : Option PagingBufferCall :=
  if arg.transferSize % 4 = 0 ∧ arg.dstPhyAddr % 256 = 0 ∧ arg.srcPhyAddr % 256 = 0 then
    let maxTransferCmdCount := arg.dmaSize / sizeofBitbltRegsettingE3k
    if maxTransferCmdCount = 0 then some ⟨arg, .insufficientDmaBuffer, []⟩
    else
      let (blits, startOffset, transferSize) :=
        arg.transferLoop maxTransferCmdCount arg.multiPassOffset arg.transferSize
      let written := blits.length * sizeofBitbltRegsettingE3k
      some
        { arg :=
            { arg with
              multiPassOffset := if 0 < transferSize then startOffset else arg.multiPassOffset
              dmaSize := arg.dmaSize - written
              dmaBuffer := arg.dmaBuffer + written }
          result := if 0 < transferSize then .insufficientDmaBuffer else .ok
          blits }
  else none

end PagingBufferArg

/-- A transfer that is to be built, in buffers of one size at any addresses. -/
structure TransferJob where
  srcPhyAddr : U64
  dstPhyAddr : U64
  transferSize : U32
  dmaSize : U32
  dmaBuffer : Nat → Nat

namespace TransferJob

/-- The argument of a call, with a fresh buffer. -/
def arg (job : TransferJob) (pass multiPassOffset : Nat) : PagingBufferArg where
  dmaBuffer := job.dmaBuffer pass
  dmaSize := job.dmaSize.toNat
  multiPassOffset := multiPassOffset
  transferSize := job.transferSize.toNat
  srcPhyAddr := job.srcPhyAddr.toNat
  dstPhyAddr := job.dstPhyAddr.toNat

/-- The calls for a transfer, each resuming where the one before it stopped. -/
def call (job : TransferJob) : Nat → Option PagingBufferCall
  | 0 => (job.arg 0 0).vidmmBuildPageBufferE3k
  | pass + 1 =>
      (job.call pass).bind fun before =>
        (job.arg (pass + 1) before.arg.multiPassOffset).vidmmBuildPageBufferE3k

end TransferJob

end Cx4Kernel.Vidmm
