import Cx4Kernel.Foundation.StoreCursor
import Cx4Kernel.Util.RingBuffer
import Cx4Kernel.Vidsch.TaskQueue

/-! The ring commands of a graphics task: `enginei_write_commands_to_gfx_low_e3k` of
`vidsch_submit_e3k.c` with the layout of the commands in `vidsch_engine_e3k.h`. Places are
dwords of the ring.
-/

namespace Cx4Kernel.Vidsch

open Foundation Util

/-- The client types of `zx_types.h`. -/
inductive ClientType where
  | unknown
  | opengl
  | opengles
  | vulkan
  | opencl
  | video
deriving DecidableEq

/-- `DMA_TYPE`. -/
inductive DmaType where
  | draw2d
  | draw3d
  | draw3dBlt
  | paging
  | lpdp
  | vmUpdate
  | ocl
  | pageTableSet
deriving DecidableEq

/-- Low and high half of an address. -/
def low32 (address : U64) : U32 :=
  address.setWidth 32

def high32 (address : U64) : U32 :=
  (address >>> 32).setWidth 32

/-- A command dword with one of its bit fields set. -/
def setField (word : U32) (low width : Nat) (value : U32) : U32 :=
  let mask := BitVec.ofNat 32 (2 ^ width - 1) <<< low
  (word &&& ~~~mask) ||| ((value <<< low) &&& mask)

-----------------------------------------------------------------------------------------
-- The layout of the commands
-----------------------------------------------------------------------------------------

/-- A save or restore DMA with its context, which shares its dwords with a skip. -/
structure ContextDmaCmd where
  dma : U32
  dmaAddrL : U32
  dmaAddrH : U32
  contextAddress : U32

/-- `zx_memset` of the shared dwords. -/
def ContextDmaCmd.zero : ContextDmaCmd :=
  ⟨0, 0, 0, 0⟩

def ContextDmaCmd.words (cmd : ContextDmaCmd) : List U32 :=
  [cmd.dma, cmd.dmaAddrL, cmd.dmaAddrH, cmd.contextAddress]

/-- `submit_rb_cmd_part1_e3k_t`. -/
structure RbCmdPart1 where
  pwmTriggerOn : U32
  triggerOnDw : U32
  flushCmd : Vector U32 8
  skip0 : U32
  dummy : Vector U32 8
  setRegister : U32
  regDvfsCfg : U32
  regDvfsCfgMask : U32
  restore : ContextDmaCmd

def RbCmdPart1.words (part1 : RbCmdPart1) : List U32 :=
  [part1.pwmTriggerOn, part1.triggerOnDw] ++ part1.flushCmd.toList ++ [part1.skip0]
    ++ part1.dummy.toList ++ [part1.setRegister, part1.regDvfsCfg, part1.regDvfsCfgMask]
    ++ part1.restore.words

/-- `submit_rb_cmd_part2_e3k_t`. -/
structure RbCmdPart2 where
  dmaCmd : U32
  dmaCmdAddrL : U32
  dmaCmdAddrH : U32

def RbCmdPart2.words (part2 : RbCmdPart2) : List U32 :=
  [part2.dmaCmd, part2.dmaCmdAddrL, part2.dmaCmdAddrH]

/-- A fence command with the address and the value it writes. -/
structure FenceCmd where
  fence : U32
  addrL : U32
  addrH : U32
  dataL : U32
  dataH : U32

def FenceCmd.words (cmd : FenceCmd) : List U32 :=
  [cmd.fence, cmd.addrL, cmd.addrH, cmd.dataL, cmd.dataH]

/-- `submit_rb_cmd_part3_e3k_t`. -/
structure RbCmdPart3 where
  cacheflushCmd : U32
  cacheflushAddrL : U32
  cacheflushAddrH : U32
  save : ContextDmaCmd
  fence : FenceCmd
  fence1 : FenceCmd
  skip2 : Vector U32 11
  pwmTriggerOff : U32
  triggerOffDw : U32

def RbCmdPart3.words (part3 : RbCmdPart3) : List U32 :=
  [part3.cacheflushCmd, part3.cacheflushAddrL, part3.cacheflushAddrH] ++ part3.save.words
    ++ part3.fence.words ++ part3.fence1.words ++ part3.skip2.toList
    ++ [part3.pwmTriggerOff, part3.triggerOffDw]

/-- `sizeof` of the parts, in dwords. -/
def RbCmdPart1.size : Nat := 26
def RbCmdPart2.size : Nat := 3
def RbCmdPart3.size : Nat := 30

/-- `SEND_SKIP_E3K`, with the opcode 0. -/
def sendSkipE3k (skipCount : U32) : U32 :=
  setField 0 0 16 (skipCount - 1)

/-- `SEND_EXTERNAL_FENCE_E3K`. -/
def sendExternalFenceE3k (irqType : U32) : U32 :=
  setField (setField (setField (setField 0 28 4 8) 5 2 3) 3 2 irqType) 0 3 4

/-- `Cmd_Dma_Address_Dword2`: the high byte of an address, for the L2 cache. -/
def cmdDmaAddressDword2 (address : U64) : U32 :=
  setField (setField 0 0 8 (high32 address)) 8 1 1

-----------------------------------------------------------------------------------------
-- The engine and its tasks
-----------------------------------------------------------------------------------------

/-- The fields of `engine_share_e3k_t` the commands use. -/
structure EngineShare where
  rbCmdPart1 : RbCmdPart1
  rbCmdPart3 : RbCmdPart3
  cacheflushBufferGpuVa3d : U64
  contextRestoreDmaGpuVa : U64
  contextRestoreDmaGpuVaCs : U64
  contextSaveDmaGpuVa : U64
  contextBufGpuVa : U64
  contextRestoreDmaGpuVaForVk : U64
  contextBufGpuVaForVk : U64

/-- A graphics engine with what the commands use of its scheduler and the adapter. -/
structure GfxEngine where
  share : EngineShare
  ring : RingBuffer
  /-- `engine_index == RB_INDEX_GFXL` -/
  isGfxl : Bool
  /-- some bit of `dvfs_indicator` is set -/
  dvfsIndicated : Bool
  chipSliceMask : U32
  fenceBufferGpuVa : U64
  monitorCount : U32
  lastSendFenceId : U64
  lastProcessId : U32

/-- `dma_node_t`. -/
structure DmaNode where
  commandLength : U32
  gpuVirtualAddress : U64

/-- `task_dma_t` with the context it belongs to. -/
structure GfxTask where
  client : ClientType
  hwctxIsInitialized : Bool
  type : TaskType
  dmaType : DmaType
  vmId : U32
  fenceId : U64
  needSendIrq : Bool
  needHwctxSwitch : Bool
  ignoreDma : Bool
  initializeContext : Bool
  ctxBufVa : U64
  dmaCnt : U32
  dmaBufferList : List DmaNode
  counted : dmaBufferList.length = dmaCnt.toNat

/-- What a submission leaves behind: the dwords it claimed, what it stored, and where it put
part 3.
-/
structure GfxSubmission where
  engine : GfxEngine
  hwctxIsInitialized : Bool
  first : Nat
  claimed : Nat
  cursor : StoreCursor U32
  part3 : Nat

-----------------------------------------------------------------------------------------
-- enginei_write_commands_to_gfx_low_e3k
-----------------------------------------------------------------------------------------

/-- `util_align(size, 16)`. -/
def utilAlign16 (size : U32) : U32 :=
  (size + 16 - 1) &&& ~~~(16 - 1)

/-- `ring_buffer_size`: a `size_t` that is cut to an `unsigned int`. -/
def ringBufferSize (dmaCnt : U32) : U32 :=
  BitVec.ofNat 32 (RbCmdPart1.size + RbCmdPart2.size * dmaCnt.toNat + RbCmdPart3.size)

/-- `enginei_get_ring_buffer_space_e3k`, with the values of the head register in its turns.
It returns nothing while these do not suffice.
-/
def engineiGetRingBufferSpaceE3k (ring : RingBuffer) (sizeUint : U32)
    : List U32 → Option (RingBuffer × U32)
  | [] => none
  | readOffset :: later =>
      let call := ringBufferGetSpace ring (sizeUint <<< 2) readOffset
      let offset := call.spaceOffset.getD (-1)
      if offset = -1 then engineiGetRingBufferSpaceE3k call.ring sizeUint later
      else some (call.ring, offset)

namespace GfxTask

variable (task : GfxTask)

/-- `ctx_switch`, or nothing for a client type that is not known. -/
def ctxSwitch (engine : GfxEngine) : Option Bool :=
  match task.client with
  | .opengl => some (task.needHwctxSwitch && engine.isGfxl)
  | .vulkan | .opengles | .opencl => some true
  | .unknown | .video => none

/-- The address of the context that is restored. -/
def restoreContext (share : EngineShare) : U64 :=
  if task.hwctxIsInitialized || task.initializeContext then task.ctxBufVa
  else share.contextBufGpuVa

/-- The `restore` and `save` commands of part 1 and part 3. -/
def contextCmds (share : EngineShare) (ctxSwitch : Bool) : ContextDmaCmd × ContextDmaCmd :=
  let restore := share.rbCmdPart1.restore
  let save := share.rbCmdPart3.save
  if ctxSwitch then
    match task.client with
    | .vulkan =>
        ({ restore with
            dmaAddrL := low32 share.contextRestoreDmaGpuVaForVk
            dmaAddrH := cmdDmaAddressDword2 share.contextRestoreDmaGpuVaForVk
            contextAddress := low32 (share.contextBufGpuVaForVk >>> 11) },
          .zero)
    | .opengl | .opencl =>
        ({ restore with
            dmaAddrL := low32 (if task.client = .opencl then share.contextRestoreDmaGpuVaCs
              else share.contextRestoreDmaGpuVa)
            dmaAddrH := cmdDmaAddressDword2 share.contextRestoreDmaGpuVa
            contextAddress := low32 (task.restoreContext share >>> 11) },
          { save with
            dmaAddrL := low32 share.contextSaveDmaGpuVa
            dmaAddrH := cmdDmaAddressDword2 share.contextSaveDmaGpuVa
            contextAddress := low32 (task.ctxBufVa >>> 11) })
    | _ => (restore, save)
  else (.zero, .zero)

/-- `hwctx_is_initialized` after the call. -/
def hwctxAfter (ctxSwitch : Bool) : Bool :=
  task.hwctxIsInitialized
    || ctxSwitch && (task.client = .opengl || task.client = .opencl)
      && !task.initializeContext

def part1 (engine : GfxEngine) (restore : ContextDmaCmd) : RbCmdPart1 :=
  let part1 := engine.share.rbCmdPart1
  let pwmTriggerOn := setField part1.pwmTriggerOn 13 4 task.vmId
  { part1 with
    pwmTriggerOn :=
      if task.dmaType = .paging then setField pwmTriggerOn 17 3 3 else pwmTriggerOn
    triggerOnDw := setField part1.triggerOnDw 0 12 engine.chipSliceMask
    regDvfsCfgMask := if engine.dvfsIndicated then 0 else 1
    restore := restore }

def part2 (node : DmaNode) : RbCmdPart2 where
  dmaCmd := setField (setField 0 28 4 1) 0 18 (node.commandLength >>> 2)
  dmaCmdAddrL := low32 node.gpuVirtualAddress
  dmaCmdAddrH := high32 node.gpuVirtualAddress

/-- The fence interrupts the CPU. -/
def interrupts (engine : GfxEngine) : Bool :=
  task.type ≠ .render || task.needSendIrq || 4 ≤ engine.monitorCount

def fenceCmd (engine : GfxEngine) (fence : U32) : FenceCmd where
  fence := if task.interrupts engine then sendExternalFenceE3k 1 else fence
  addrL := low32 engine.fenceBufferGpuVa
  addrH := high32 engine.fenceBufferGpuVa
  dataL := low32 task.fenceId
  dataH := high32 task.fenceId

def part3 (engine : GfxEngine) (save : ContextDmaCmd) : RbCmdPart3 :=
  let part3 := engine.share.rbCmdPart3
  { part3 with
    cacheflushAddrL :=
      if engine.isGfxl then low32 engine.share.cacheflushBufferGpuVa3d else part3.cacheflushAddrL
    cacheflushAddrH :=
      if engine.isGfxl then high32 engine.share.cacheflushBufferGpuVa3d
      else part3.cacheflushAddrH
    save := save
    fence := task.fenceCmd engine part3.fence.fence
    fence1 := task.fenceCmd engine part3.fence1.fence
    pwmTriggerOff := setField part3.pwmTriggerOff 13 4 task.vmId
    triggerOffDw := setField part3.triggerOffDw 0 12 engine.chipSliceMask }

/-- The loop over `dma_buffer_list` and the skip behind it. -/
def fillPart2 (skipCount : U32) (cursor : StoreCursor U32) : StoreCursor U32 :=
  let cursor := task.dmaBufferList.foldl (fun cursor node => cursor.copy (part2 node).words)
    cursor
  if skipCount ≠ 0 then cursor.jump (sendSkipE3k skipCount) skipCount.toNat else cursor

/-- `enginei_write_commands_to_gfx_low_e3k`. -/
def engineiWriteCommandsToGfxLowE3k (engine : GfxEngine) (readOffsets : List U32)
    : Option GfxSubmission := do
  let ctxSwitch ← task.ctxSwitch engine
  let ringBufferSize := ringBufferSize task.dmaCnt
  let alignRbSize := utilAlign16 ringBufferSize
  let skipCount := alignRbSize - ringBufferSize
  let (ring, offset) ← engineiGetRingBufferSpaceE3k engine.ring alignRbSize readOffsets
  let (restore, save) := task.contextCmds engine.share ctxSwitch
  let first := offset.toNat / 4
  let cursor := (StoreCursor.start U32 first).copy (task.part1 engine restore).words
  -- `goto fill_part3` leaves out the skip as well
  let cursor := if task.ignoreDma then cursor else task.fillPart2 skipCount cursor
  let part3 := task.part3 engine save
  return {
    engine := { engine with
      ring := ring
      monitorCount := if task.interrupts engine then 0 else engine.monitorCount + 1
      lastSendFenceId := task.fenceId
      lastProcessId := task.vmId }
    hwctxIsInitialized := task.hwctxAfter ctxSwitch
    first := first
    claimed := (alignRbSize <<< 2).toNat / 4
    cursor := cursor.copy part3.words
    part3 := cursor.place }

end GfxTask

end Cx4Kernel.Vidsch
