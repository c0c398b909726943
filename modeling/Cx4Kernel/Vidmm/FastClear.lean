import Cx4Kernel.Vidmm.TransferBlits

/-! The fill commands of a paging task: `vidmmi_fast_clear_e3k`, which cuts a fill into
rectangles, one `FASTCLEAR` command each. An allocation that is secured has the 3D engine
switched to secure mode before them and back after them. Numbers are those of the registers
and of 32-bit and 64-bit variables, a pointer is its address.
-/

namespace Cx4Kernel.Vidmm

/-- `sizeof(FASTCLEAR_REGSETTING_E3K)`: 44 registers. -/
def sizeofFastclearRegsettingE3k : Nat := 44 * 4

/-- `sizeof(CACHEFLUSH_DMA_E3K)`: 72 commands of one word. -/
def sizeofCacheflushDmaE3k : Nat := 72 * 4

/-- The registers of `FASTCLEAR_REGSETTING_E3K` that say what is filled, and with what. -/
structure FastClear where
  baseAddr : Nat
  width : Nat
  height : Nat
  xMin : Nat
  xMax : Nat
  yMin : Nat
  yMax : Nat
  color : Nat
deriving DecidableEq

/-- The addresses a command fills: line by line a rectangle of a surface, which starts at a
multiple of 256.
-/
def FastClear.clears (clear : FastClear) : List Nat :=
  (List.range' clear.yMin (clear.yMax + 1 - clear.yMin)).flatMap fun y =>
    (List.range' (4 * (y * clear.width + clear.xMin)) (4 * (clear.xMax + 1 - clear.xMin))).map
      fun byte => clear.baseAddr * 256 + byte

/-- What the builder writes: `FlushDMA3DL` of the share, a write of `Reg_Proc_Sec` with its
`Sec_Status`, or a fill.
-/
inductive FillCommand where
  | cacheFlush
  | procSec (secStatus : Bool)
  | fastClear (clear : FastClear)
deriving DecidableEq

/-- The addresses a command fills. -/
def FillCommand.clears : FillCommand → List Nat
  | .cacheFlush => []
  | .procSec _ => []
  | .fastClear clear => clear.clears

/-- The fields of `vidmm_private_build_paging_buffer_arg_t` for a fill, and whether it has an
allocation that is secured.
-/
structure FillArg where
  dmaBuffer : Nat
  dmaSize : Nat
  multiPassOffset : Nat
  fillSize : Nat
  fillPattern : Nat
  gpuVirtAddr : Nat
  secured : Bool

/-- What a call leaves behind: its argument, its result and the commands it wrote. -/
structure FillCall where
  arg : FillArg
  result : PagingBufferResult
  commands : List FillCommand

/-- `util_get_ptr_span`, a `long`, as the number that is congruent to it. -/
def utilGetPtrSpan (start finish : Nat) : Nat :=
  (start + (2 ^ 64 - finish % 2 ^ 64)) % 2 ^ 64

namespace FillArg

/-- The `unsigned int fill_size` of the builder. -/
def fillSize32 (arg : FillArg) : Nat :=
  arg.fillSize % 2 ^ 32

/-- The next command, at `multi_pass_offset` and `dstStartX`, and its `NumBytes`. -/
def nextClear (arg : FillArg) (multiPassOffset dstStartX : Nat) : FastClear × Nat :=
  let left := sub32 arg.fillSize32 multiPassOffset
  let baseAddr := (arg.gpuVirtAddr + multiPassOffset) % 2 ^ 64 / 256 % 2 ^ 32
  let stride := maxWidth2dblt
  if dstStartX ≠ 0 then
    -- the first partial line
    let width := if left < (stride - dstStartX) * 4 then left / 4 else stride - dstStartX
    ({ baseAddr
       width := width % 2 ^ 15
       height := 1
       xMin := sub32 dstStartX 1 % 2 ^ 16
       xMax := sub32 (sub32 stride dstStartX) 1 % 2 ^ 16
       yMin := 0
       yMax := 0
       color := arg.fillPattern }, width * 4)
  else if left < stride * 4 then
    -- the last partial line
    ({ baseAddr
       width := left / 4 % 2 ^ 15
       height := 1
       xMin := 0
       xMax := sub32 (left / 4) 1 % 2 ^ 16
       yMin := 0
       yMax := 0
       color := arg.fillPattern }, left)
  else
    -- block fill
    let lines := left / (stride * 4)
    let height := if lines > maxHeight2dblt then maxHeight2dblt else lines
    ({ baseAddr
       width := stride % 2 ^ 15
       height := height % 2 ^ 15
       xMin := 0
       xMax := sub32 stride 1 % 2 ^ 16
       yMin := 0
       yMax := sub32 height 1 % 2 ^ 16
       color := arg.fillPattern }, height * (stride * 4) % 2 ^ 32)

/-- The loop over commands, for the commands there is room for: what it writes,
`multi_pass_offset` after it, and `multi_pass`. It ends with the last command there is room
for, or else as soon as the offset has reached the 64-bit size.
-/
def fillLoop (arg : FillArg) : Nat → Nat → Nat → List FastClear × Nat × Bool
  | 0, multiPassOffset, _ => ([], multiPassOffset, false)
  | room + 1, multiPassOffset, dstStartX =>
      let (clear, numBytes) := arg.nextClear multiPassOffset dstStartX
      let multiPassOffset := (multiPassOffset + numBytes) % 2 ^ 32
      if room = 0 then ([clear], multiPassOffset, decide (multiPassOffset < arg.fillSize))
      else if multiPassOffset < arg.fillSize then
        let (clears, after) := arg.fillLoop room multiPassOffset 0
        (clear :: clears, after)
      else ([clear], multiPassOffset, false)

/-- The code at `exit`, from `pClearCmd0` on. The result `none` stands for a failed
`zx_assert` or a write through a null pointer.
-/
def leave (arg : FillArg) (pClearCmd0 : Nat) (result : PagingBufferResult)
    (commands : List FillCommand) : Option FillCall :=
  if arg.secured then
    if pClearCmd0 ≠ 0
        ∧ sizeofCacheflushDmaE3k / 4 + 4
          ≤ utilGetPtrSpan arg.dmaSize (utilGetPtrSpan pClearCmd0 arg.dmaBuffer) then
      let pDma := pClearCmd0 + sizeofCacheflushDmaE3k + 8
      some
        { arg :=
            { arg with
              dmaSize := sub32 arg.dmaSize (utilGetPtrSpan pDma arg.dmaBuffer)
              dmaBuffer := pDma }
          result
          commands := commands ++ [.cacheFlush, .procSec false] }
    else none
  else
    some
      { arg :=
          { arg with
            dmaSize := sub32 arg.dmaSize (utilGetPtrSpan pClearCmd0 arg.dmaBuffer)
            dmaBuffer := pClearCmd0 }
        result
        commands }

/-- `vidmmi_fast_clear_e3k`. The result `none` stands for a failed `zx_assert` or a write
through a null pointer.
-/
def vidmmiFastClearE3k (arg : FillArg) : Option FillCall :=
  if arg.gpuVirtAddr % 256 = 0 then
    let opening := if arg.secured then [FillCommand.cacheFlush, .procSec true] else []
    let pDma :=
      if arg.secured then arg.dmaBuffer + sizeofCacheflushDmaE3k + 8 else arg.dmaBuffer
    let dmaSpaceLeft :=
      if arg.secured then
        sub32 arg.dmaSize (utilGetPtrSpan pDma arg.dmaBuffer + sizeofCacheflushDmaE3k + 4)
      else arg.dmaSize
    let maxFillCmdCount := dmaSpaceLeft / sizeofFastclearRegsettingE3k
    if maxFillCmdCount = 0 then arg.leave 0 .insufficientDmaBuffer opening
    else
      let dstStartX := (arg.gpuVirtAddr + arg.multiPassOffset) % 2 ^ 64 % 256 / 4
      let (clears, multiPassOffset, multiPass) :=
        arg.fillLoop maxFillCmdCount arg.multiPassOffset dstStartX
      { arg with multiPassOffset := if multiPass then multiPassOffset else 0 }.leave
        (pDma + clears.length * sizeofFastclearRegsettingE3k)
        (if multiPass then .insufficientDmaBuffer else .ok)
        (opening ++ clears.map FillCommand.fastClear)
  else none

end FillArg

/-- A buffer for commands, at an address that is not null. -/
structure DmaBuffer where
  address : Nat
  size : U32
  nonnull : 0 < address
  fits : address + size.toNat ≤ 2 ^ 64

/-- A fill that is to be built, in any buffers. -/
structure FillJob where
  fillSize : U64
  fillPattern : U32
  gpuVirtAddr : U64
  buffer : Nat → DmaBuffer

namespace FillJob

/-- The argument of a call with a fresh buffer, for an allocation that is not secured. -/
def arg (job : FillJob) (pass multiPassOffset : Nat) : FillArg where
  dmaBuffer := (job.buffer pass).address
  dmaSize := (job.buffer pass).size.toNat
  multiPassOffset := multiPassOffset
  fillSize := job.fillSize.toNat
  fillPattern := job.fillPattern.toNat
  gpuVirtAddr := job.gpuVirtAddr.toNat
  secured := false

/-- The calls for a fill, each resuming where the one before it stopped. -/
def call (job : FillJob) : Nat → Option FillCall
  | 0 => (job.arg 0 0).vidmmiFastClearE3k
  | pass + 1 =>
      (job.call pass).bind fun before =>
        (job.arg (pass + 1) before.arg.multiPassOffset).vidmmiFastClearE3k

end FillJob

end Cx4Kernel.Vidmm
