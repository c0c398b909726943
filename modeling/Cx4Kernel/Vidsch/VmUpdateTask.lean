import Cx4Kernel.Foundation.Extents
import Cx4Kernel.Foundation.MachineInt
import Cx4Kernel.Foundation.Transition

/-! The command space of a page-table update task, from `vidsch_vm_update.c` and
`vidsch_task.c`: DMA nodes in an array that is doubled when it is full. A result `none` stands
for a failed `zx_assert` or a read through `NULL`.
-/

namespace Cx4Kernel.Vidsch

open Foundation

/-- The DMA memory of an engine, of at most 20 MiB, with its addresses, and the size of the
OS pages.
-/
structure DmaMemory where
  gpuVa : Nat
  virtAddr : Nat
  size : Nat
  osPageSize : U32
  small : size < 2 ^ 31
  gpuBelow : gpuVa + size < 2 ^ 64
  virtBelow : virtAddr + size < 2 ^ 64
  power : ∃ shift, osPageSize.toNat = 2 ^ shift

/-- The GPU addresses of the memory. -/
def DmaMemory.extent (memory : DmaMemory) : Extent :=
  ⟨memory.gpuVa, memory.size⟩

/-- `dma_node_t`. -/
structure VmDmaNode where
  /-- The node of the range allocator. -/
  range : Extent
  cpuVirtualAddress : Nat
  gpuVirtualAddress : Nat
  commandLength : U32
  size : Nat

/-- `vidschi_allocate_dma_node`, once `dma_ra` has found a range. -/
def DmaMemory.vidschiAllocateDmaNode (memory : DmaMemory) (range : Extent) : VmDmaNode where
  range := range
  cpuVirtualAddress := memory.virtAddr + range.start - memory.gpuVa
  gpuVirtualAddress := range.start
  commandLength := 0
  size := range.size

/-- `task_vm_update_t`. -/
structure VmUpdateTask where
  dmaListCnt : Nat
  dmaSize : U32
  dmaList : List (Option VmDmaNode)
  /-- `desc.dma_cnt` -/
  dmaCnt : Nat
  /-- `desc.cmd_size` -/
  cmdSize : U32

/-- `vidsch_allocate_vm_update_task`, whose first array has four places. -/
def DmaMemory.vidschAllocateVmUpdateTask (memory : DmaMemory) (dmaSize : U32) (range : Extent)
    : VmUpdateTask where
  dmaListCnt := 4
  dmaSize := dmaSize
  dmaList := [some (memory.vidschiAllocateDmaNode range), none, none, none]
  dmaCnt := 1
  cmdSize := 0

namespace VmUpdateTask

variable (task : VmUpdateTask)

/-- `dma_list[index]`. -/
def dmaAt (index : Nat) : Option VmDmaNode :=
  (task.dmaList[index]?).join

/-- `dma_list[dma_cnt - 1]`. -/
def last : Option VmDmaNode :=
  task.dmaAt (task.dmaCnt - 1)

/-- The nodes of a task. -/
def nodes : List VmDmaNode :=
  (task.dmaList.take task.dmaCnt).filterMap id

/-- The test whether a node has too little room left. -/
def tooSmall (dma : VmDmaNode) (size : U32) : Prop :=
  (dma.size + (2 ^ 64 - dma.commandLength.toNat)) % 2 ^ 64 < size.toNat

instance (dma : VmDmaNode) (size : U32) : Decidable (tooSmall dma size) :=
  inferInstanceAs (Decidable (_ < _))

/-- The array, with twice the places if it is full. -/
def grow : VmUpdateTask :=
  if task.dmaCnt = task.dmaListCnt then
    { task with
      dmaList := task.dmaList.take task.dmaListCnt
        ++ List.replicate (task.dmaListCnt * 2 % 2 ^ 32 - task.dmaListCnt) none
      dmaListCnt := task.dmaListCnt * 2 % 2 ^ 32 }
  else task

/-- The size of a new node: that of the first one, or the size itself in whole pages. -/
def nodeSize (first : VmDmaNode) (osPageSize size : U32) : U32 :=
  if size.toNat < first.size then BitVec.ofNat 32 first.size
  else (size + osPageSize - 1) &&& ~~~(osPageSize - 1)

/-- `vidsch_vm_update_task_request_space`: the task and the address that is returned. The
range is what a new node gets.
-/
def vidschVmUpdateTaskRequestSpace (memory : DmaMemory) (size : U32) (range : Extent)
    : Option (VmUpdateTask × Nat) :=
  task.last.bind fun dma =>
    if tooSmall dma size then
      (task.grow.dmaAt 0).map fun first =>
        let dma := memory.vidschiAllocateDmaNode range
        ({ task.grow with
            dmaCnt := task.dmaCnt + 1
            dmaList := task.grow.dmaList.set task.dmaCnt (some dma)
            dmaSize := task.dmaSize + nodeSize first memory.osPageSize size },
          dma.cpuVirtualAddress + dma.commandLength.toNat)
    else some (task, dma.cpuVirtualAddress + dma.commandLength.toNat)

/-- `vidsch_vm_update_task_release_space`. -/
def vidschVmUpdateTaskReleaseSpace (cmdBuf : Nat) : Option VmUpdateTask :=
  task.last.bind fun dma =>
    if dma.cpuVirtualAddress ≤ cmdBuf ∧ cmdBuf < dma.cpuVirtualAddress + dma.size then
      let length := BitVec.ofNat 32 (cmdBuf - dma.cpuVirtualAddress)
      some
        { task with
          cmdSize := task.cmdSize + (length - dma.commandLength)
          dmaList := task.dmaList.set (task.dmaCnt - 1)
            (some { dma with commandLength := length }) }
    else none

end VmUpdateTask

/-- A request, what is written there, and the range for a new node. -/
structure VmUpdate where
  size : U32
  written : Nat
  range : Extent

/-- A task with what was released so far. -/
structure VmUpdateState where
  task : VmUpdateTask
  released : List Extent

namespace VmUpdateState

/-- A request, a write from the returned address on, and the release behind it. -/
def next (memory : DmaMemory) (state : VmUpdateState) (update : VmUpdate)
    : Option VmUpdateState :=
  (state.task.vidschVmUpdateTaskRequestSpace memory update.size update.range).bind
    fun (task, pointer) =>
      (task.vidschVmUpdateTaskReleaseSpace (pointer + update.written)).map fun task =>
        ⟨task, ⟨pointer, update.written⟩ :: state.released⟩

end VmUpdateState

/-- A range that the allocator finds: it has the size that was asked for, in the memory and
apart from the nodes of the task.
-/
structure DmaMemory.Finds (memory : DmaMemory) (task : VmUpdateTask) (size : U32)
    (range : Extent) : Prop where
  enough : size.toNat ≤ range.size
  inside : memory.extent.Includes range
  apart : ∀ node ∈ task.nodes, node.range.Apart range

/-- What is assumed of an update of a task: it writes something and not more than it asked for,
and the allocator finds a range when a node is too small. Of the sizes in whole pages none is
cut to 32 bits, and no node is filled to its end.
-/
structure VmUpdateTask.Permitted (memory : DmaMemory) (task : VmUpdateTask) (update : VmUpdate)
    : Prop where
  some : 0 < update.written
  within : update.written ≤ update.size.toNat
  found : ∀ first ∈ task.dmaAt 0, ∀ dma ∈ task.last, tooSmall dma update.size →
    memory.Finds task (nodeSize first memory.osPageSize update.size) update.range
  whole : ∀ first ∈ task.dmaAt 0, ∀ dma ∈ task.last, tooSmall dma update.size →
    first.size ≤ update.size.toNat →
      update.size.toNat + memory.osPageSize.toNat ≤ 2 ^ 32
  notFilled : ∀ dma ∈ task.last,
    update.written
      < if tooSmall dma update.size then update.range.size
        else dma.size - dma.commandLength.toNat

/-- The runs of updates of a task that was allocated. -/
def vmUpdateSystem (memory : DmaMemory) : System VmUpdateState VmUpdate :=
  System.ofFunction
    (fun state => state.released = [] ∧ ∃ dmaSize range,
      memory.extent.Includes range ∧ dmaSize.toNat ≤ range.size
        ∧ state.task = memory.vidschAllocateVmUpdateTask dmaSize range)
    (VmUpdateState.next memory)

end Cx4Kernel.Vidsch
