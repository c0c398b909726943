import Mathlib.Algebra.Order.BigOperators.Group.List
import Mathlib.Algebra.Order.Group.Nat
import Cx4Kernel.Vidsch.VmUpdateTask

/-! The command space of an update task is sufficient in every run in which no node is filled
to its end: the assertion of the release asks for an address before the end of the node.
-/

namespace Cx4Kernel.Vidsch

open Foundation

namespace VmDmaNode

variable {memory : DmaMemory} {node other : VmDmaNode}

/-- The CPU addresses of a node, and those with commands. -/
def cpuExtent (node : VmDmaNode) : Extent :=
  ⟨node.cpuVirtualAddress, node.size⟩

def used (node : VmDmaNode) : Extent :=
  ⟨node.cpuVirtualAddress, node.commandLength.toNat⟩

/-- A node is in the memory, at both of its addresses, and its commands are in it. -/
structure Placed (memory : DmaMemory) (node : VmDmaNode) : Prop where
  inside : memory.extent.Includes node.range
  address : node.cpuVirtualAddress = memory.virtAddr + node.range.start - memory.gpuVa
  size : node.size = node.range.size
  commands : node.commandLength.toNat ≤ node.size

/-- A new node is placed. -/
theorem placed_allocated {range : Extent} (inside : memory.extent.Includes range)
    : (memory.vidschiAllocateDmaNode range).Placed memory :=
  ⟨inside, rfl, rfl, Nat.zero_le _⟩

/-- The commands of a node are in it. -/
theorem Placed.used (placed : node.Placed memory) : node.cpuExtent.Includes node.used :=
  ⟨Nat.le_refl _, Nat.add_le_add_left placed.commands _⟩

/-- Nodes whose ranges lie apart do so for the CPU, too. -/
theorem Placed.apart (placed : node.Placed memory) (placed' : other.Placed memory)
    (apart : node.range.Apart other.range)
    : node.cpuExtent.Apart other.cpuExtent := by
  have one := placed.inside
  have two := placed'.inside
  have address := placed.address
  have address' := placed'.address
  have size := placed.size
  have size' := placed'.size
  simp only [Extent.Apart, Extent.Includes, Extent.stop, DmaMemory.extent, cpuExtent] at *
  omega

end VmDmaNode

/-- The sum of the command lengths of nodes. -/
def commandLengths (nodes : List VmDmaNode) : Nat :=
  (nodes.map (·.commandLength.toNat)).sum

namespace VmUpdateTask

variable {memory : DmaMemory} {task : VmUpdateTask} {dmas : List VmDmaNode} {spare : Nat}

/-- A task has some nodes in its array, and further places. -/
structure Has (task : VmUpdateTask) (nodes : List VmDmaNode) (spare : Nat) : Prop where
  list : task.dmaList = nodes.map some ++ List.replicate spare none
  cnt : task.dmaCnt = nodes.length
  listCnt : task.dmaListCnt = nodes.length + spare

/-- The places of the array. -/
theorem Has.dmaAt (has : task.Has dmas spare) (index : Nat) : task.dmaAt index = dmas[index]? := by
  rw [VmUpdateTask.dmaAt, has.list, List.getElem?_append]
  split
  next inside =>
    rw [List.getElem?_map]
    rw [List.length_map] at inside
    rw [List.getElem?_eq_getElem inside]
    rfl
  next outside =>
    rw [List.length_map] at outside
    rw [List.getElem?_eq_none (Nat.not_lt.mp outside), List.getElem?_replicate]
    split <;> rfl

/-- Its nodes. -/
theorem Has.nodes (has : task.Has dmas spare) : task.nodes = dmas := by
  rw [VmUpdateTask.nodes, has.list, has.cnt, List.take_append_of_le_length (by simp)]
  rw [← List.length_map (f := some), List.take_length, List.filterMap_map]
  exact List.filterMap_some

/-- The last one. -/
theorem Has.last {earlier : List VmDmaNode} {dma : VmDmaNode}
    (has : task.Has (earlier ++ [dma]) spare)
    : task.last = some dma := by
  rw [VmUpdateTask.last, has.dmaAt, has.cnt]
  simp

/-- The array that is used for one node more has a place behind the nodes. -/
theorem Has.grow (has : task.Has dmas spare) (few : dmas.length < 2 ^ 31)
    (some : 0 < dmas.length)
    : ∃ more, task.grow.Has dmas (more + 1) := by
  unfold VmUpdateTask.grow
  split
  next full =>
    have spent : spare = 0 := by
      have cnt := has.cnt
      have listCnt := has.listCnt
      omega
    subst spent
    have twice : task.dmaListCnt * 2 % 2 ^ 32 = dmas.length + dmas.length := by
      rw [has.listCnt]
      omega
    obtain ⟨more, length⟩ := Nat.exists_eq_add_of_lt some
    rw [Nat.zero_add] at length
    refine ⟨more, ?_, has.cnt, ?_⟩
    · dsimp only
      rw [twice, has.list, has.listCnt, List.replicate_zero, List.append_nil, Nat.add_zero,
        ← List.length_map (f := Option.some), List.take_length, List.length_map, ← length,
        Nat.add_sub_cancel]
    · dsimp only
      rw [twice, ← length]
  next room =>
    obtain ⟨more, rfl⟩ : ∃ more, spare = more + 1 := by
      have cnt := has.cnt
      have listCnt := has.listCnt
      exact ⟨spare - 1, by omega⟩
    exact ⟨more, has⟩

/-- A node is put behind the others. -/
theorem Has.push (has : task.Has dmas (spare + 1)) (dma : VmDmaNode) (dmaSize : U32)
    : VmUpdateTask.Has
        { task with
          dmaCnt := task.dmaCnt + 1
          dmaList := task.dmaList.set task.dmaCnt (some dma)
          dmaSize }
        (dmas ++ [dma]) spare where
  list := by
    rw [has.cnt, has.list, List.set_append_right _ _ (by simp), List.length_map, Nat.sub_self,
      List.replicate_succ, List.set_cons_zero, List.map_append, List.append_assoc]
    rfl
  cnt := by rw [has.cnt, List.length_append, List.length_singleton]
  listCnt := by
    rw [List.length_append, List.length_singleton, has.listCnt]
    omega

/-- The last node is replaced. -/
theorem Has.replace {earlier : List VmDmaNode} {dma : VmDmaNode}
    (has : task.Has (earlier ++ [dma]) spare) (dma' : VmDmaNode) (cmdSize : U32)
    : VmUpdateTask.Has
        { task with
          cmdSize
          dmaList := task.dmaList.set (task.dmaCnt - 1) (some dma') }
        (earlier ++ [dma']) spare where
  list := by
    rw [has.cnt, has.list, List.length_append, List.length_singleton, Nat.add_sub_cancel,
      List.set_append_left _ _ (by simp), List.map_append, List.map_append,
      List.set_append_right _ _ (by simp), List.length_map, Nat.sub_self]
    rfl
  cnt := by simp [has.cnt]
  listCnt := by simp [has.listCnt]

end VmUpdateTask

/-- Nodes are placed in the memory, apart from each other, and after the first not empty. -/
structure PlacedNodes (memory : DmaMemory) (dmas : List VmDmaNode) : Prop where
  placed : ∀ dma ∈ dmas, dma.Placed memory
  apart : dmas.Pairwise fun one other => one.range.Apart other.range
  filled : ∀ dma ∈ dmas.tail, 0 < dma.size

namespace PlacedNodes

variable {memory : DmaMemory} {dmas : List VmDmaNode}

/-- Nodes are together not larger than the memory. -/
theorem sizes_le (known : PlacedNodes memory dmas)
    : (dmas.map (·.size)).sum ≤ memory.size := by
  have sizes : dmas.map (·.size) = (dmas.map (·.range)).map Extent.size := by
    rw [List.map_map]
    apply List.map_congr_left
    exact fun dma member => (known.placed dma member).size
  rw [sizes]
  apply @Extent.sum_size_le memory.extent _ (List.pairwise_map.mpr known.apart)
  intro range member
  obtain ⟨dma, listed, rfl⟩ := List.mem_map.mp member
  exact (known.placed dma listed).inside

/-- Neither is one of them. -/
theorem size_le (known : PlacedNodes memory dmas) {dma : VmDmaNode} (member : dma ∈ dmas)
    : dma.size ≤ memory.size :=
  Nat.le_trans (List.single_le_sum (fun _ _ => Nat.zero_le _) dma.size
    (List.mem_map_of_mem (f := (·.size)) member)) known.sizes_le

/-- Neither are their commands. -/
theorem commandLengths_le (known : PlacedNodes memory dmas)
    : commandLengths dmas ≤ memory.size :=
  Nat.le_trans (List.sum_le_sum fun dma member => (known.placed dma member).commands)
    known.sizes_le

/-- There are not many of them. -/
theorem length_le (known : PlacedNodes memory dmas) : dmas.length ≤ memory.size + 1 := by
  have sizes := known.sizes_le
  cases dmas with
  | nil => exact Nat.zero_le _
  | cons first rest =>
      have count : (rest.map fun _ => 1).sum ≤ (rest.map (·.size)).sum :=
        List.sum_le_sum fun dma member => known.filled dma member
      have length : (rest.map fun _ => 1).sum = rest.length := by simp
      rw [List.map_cons, List.sum_cons] at sizes
      rw [List.length_cons]
      omega

/-- One node more. -/
theorem push (known : PlacedNodes memory dmas) {dma : VmDmaNode} (placed : dma.Placed memory)
    (apart : ∀ other ∈ dmas, other.range.Apart dma.range) (filled : 0 < dma.size)
    : PlacedNodes memory (dmas ++ [dma]) where
  placed other member := by
    rcases List.mem_append.mp member with earlier | last
    · exact known.placed other earlier
    · exact List.mem_singleton.mp last ▸ placed
  apart := by
    refine List.pairwise_append.mpr ⟨known.apart, List.pairwise_singleton _ _, ?_⟩
    intro other earlier another last
    exact List.mem_singleton.mp last ▸ apart other earlier
  filled other member := by
    cases dmas with
    | nil => exact absurd member List.not_mem_nil
    | cons first rest =>
        rcases List.mem_append.mp member with earlier | last
        · exact known.filled other earlier
        · exact List.mem_singleton.mp last ▸ filled

end PlacedNodes

/-- Sizes in whole pages, unless they are cut, and the size of the first node are enough. -/
theorem nodeSize_ge {memory : DmaMemory} {first : VmDmaNode} {size : U32}
    (small : first.size < 2 ^ 31)
    (whole : first.size ≤ size.toNat → size.toNat + memory.osPageSize.toNat ≤ 2 ^ 32)
    : size.toNat ≤ (VmUpdateTask.nodeSize first memory.osPageSize size).toNat := by
  unfold VmUpdateTask.nodeSize
  split
  next less =>
    rw [BitVec.toNat_ofNat, Nat.mod_eq_of_lt (by omega)]
    exact Nat.le_of_lt less
  next large =>
    have fits := whole (Nat.not_lt.mp large)
    obtain ⟨shift, power⟩ := memory.power
    have positive := Nat.two_pow_pos shift
    have ones : (memory.osPageSize - 1).toNat = 2 ^ shift - 1 := by
      have bound := memory.osPageSize.isLt
      rw [BitVec.toNat_sub, power, show (1 : U32).toNat = 1 from rfl]
      omega
    have sum : (size + memory.osPageSize - 1).toNat = size.toNat + (2 ^ shift - 1) := by
      have bound := size.isLt
      rw [BitVec.toNat_sub, BitVec.toNat_add, power, show (1 : U32).toNat = 1 from rfl]
      omega
    have close := Nat.lt_div_mul_add (a := size.toNat + (2 ^ shift - 1)) positive
    rw [toNat_and_not_ones _ ones, sum]
    omega

/-- What a request leaves: the nodes of before and perhaps one more, and room for what is to be
written behind the commands of the last node.
-/
structure VmUpdateTask.Requested (memory : DmaMemory) (task : VmUpdateTask)
    (dmas : List VmDmaNode) (update : VmUpdate) (after : VmUpdateTask)
    (earlier : List VmDmaNode) (dma : VmDmaNode) (spare : Nat) : Prop where
  requested : task.vidschVmUpdateTaskRequestSpace memory update.size update.range
    = some (after, dma.cpuVirtualAddress + dma.commandLength.toNat)
  has : after.Has (earlier ++ [dma]) spare
  known : PlacedNodes memory (earlier ++ [dma])
  before : dmas <+: earlier ++ [dma]
  cmdSize : after.cmdSize = task.cmdSize
  lengths : commandLengths (earlier ++ [dma]) = commandLengths dmas
  room : update.size.toNat ≤ dma.size - dma.commandLength.toNat
  notFilled : update.written < dma.size - dma.commandLength.toNat

namespace VmUpdateTask

variable {memory : DmaMemory} {task : VmUpdateTask} {dmas : List VmDmaNode} {spare : Nat}
  {update : VmUpdate}

/-- A request that is permitted. -/
theorem request_spec (has : task.Has dmas spare) (known : PlacedNodes memory dmas)
    (any : 0 < dmas.length) (permitted : task.Permitted memory update)
    : ∃ after earlier dma spare',
      task.Requested memory dmas update after earlier dma spare' := by
  obtain ⟨earlier, last, rfl⟩ : ∃ earlier last, dmas = earlier ++ [last] :=
    ⟨dmas.dropLast, dmas.getLast (List.length_pos_iff.mp any),
      (List.dropLast_append_getLast _).symm⟩
  have lastDma := has.last
  have placed := known.placed last (by simp)
  have commands := placed.commands
  have small := memory.small
  have lastSize := known.size_le (by simp : last ∈ earlier ++ [last])
  by_cases few : tooSmall last update.size
  · obtain ⟨first, isFirst⟩ : ∃ first, (earlier ++ [last])[0]? = some first :=
      ⟨_, List.getElem?_eq_getElem any⟩
    have firstSize := known.size_le (List.mem_of_getElem? isFirst)
    have at0 : task.dmaAt 0 = some first := by rw [has.dmaAt, isFirst]
    have found := permitted.found first at0 last lastDma few
    have enough := @nodeSize_ge memory first update.size (Nat.lt_of_le_of_lt firstSize small)
      (permitted.whole first at0 last lastDma few)
    have large := Nat.le_trans enough found.enough
    have filled : 0 < update.range.size :=
      Nat.lt_of_lt_of_le permitted.some (Nat.le_trans permitted.within large)
    have known' : PlacedNodes memory
        (earlier ++ [last] ++ [memory.vidschiAllocateDmaNode update.range]) := by
      refine known.push (VmDmaNode.placed_allocated found.inside) ?_ filled
      exact fun other member => found.apart other (has.nodes ▸ member)
    have count := known'.length_le
    rw [List.length_append, List.length_singleton] at count
    obtain ⟨more, grown⟩ := has.grow (by omega) any
    have cnt : task.grow.dmaCnt = task.dmaCnt := grown.cnt.trans has.cnt.symm
    refine ⟨_, earlier ++ [last], memory.vidschiAllocateDmaNode update.range, more, ?_,
      cnt ▸ grown.push _ (task.dmaSize + nodeSize first memory.osPageSize update.size), known',
      List.prefix_append _ _, ?_, ?_, large, ?_⟩
    · rw [vidschVmUpdateTaskRequestSpace, lastDma, Option.bind_some, if_pos few, grown.dmaAt,
        isFirst, Option.map_some]
    · unfold VmUpdateTask.grow
      split <;> rfl
    · simp [commandLengths, DmaMemory.vidschiAllocateDmaNode]
    · have notFilled := permitted.notFilled last lastDma
      rwa [if_pos few] at notFilled
  · have room : update.size.toNat ≤ last.size - last.commandLength.toNat := by
      unfold tooSmall at few
      omega
    refine ⟨task, earlier, last, spare, ?_, has, known, List.prefix_rfl, rfl, rfl, room, ?_⟩
    · rw [vidschVmUpdateTaskRequestSpace, lastDma, Option.bind_some, if_neg few]
    · have notFilled := permitted.notFilled last lastDma
      rwa [if_neg few] at notFilled

end VmUpdateTask

/-- A node with more commands. -/
def VmDmaNode.extend (dma : VmDmaNode) (written : Nat) : VmDmaNode :=
  { dma with commandLength := BitVec.ofNat 32 (dma.commandLength.toNat + written) }

/-- The last node of some is extended. -/
theorem PlacedNodes.extend {memory : DmaMemory} {earlier : List VmDmaNode} {dma : VmDmaNode}
    (known : PlacedNodes memory (earlier ++ [dma])) {written : Nat}
    (notFilled : written < dma.size - dma.commandLength.toNat)
    : (dma.extend written).commandLength.toNat = dma.commandLength.toNat + written
      ∧ PlacedNodes memory (earlier ++ [dma.extend written]) := by
  have small := memory.small
  have size := known.size_le (by simp : dma ∈ earlier ++ [dma])
  have placed := known.placed dma (by simp)
  have length : (dma.extend written).commandLength.toNat
      = dma.commandLength.toNat + written := by
    rw [VmDmaNode.extend, BitVec.toNat_ofNat]
    omega
  refine ⟨length, ?_, ?_, ?_⟩
  · intro other member
    rcases List.mem_append.mp member with old | last
    · exact known.placed other (List.mem_append_left _ old)
    · obtain rfl := List.mem_singleton.mp last
      refine ⟨placed.inside, placed.address, placed.size, ?_⟩
      rw [length]
      change _ ≤ dma.size
      omega
  · obtain ⟨apart, _, across⟩ := List.pairwise_append.mp known.apart
    refine List.pairwise_append.mpr ⟨apart, List.pairwise_singleton _ _, ?_⟩
    intro other old another last
    obtain rfl := List.mem_singleton.mp last
    exact across other old dma (List.mem_singleton_self _)
  · intro other member
    cases earlier with
    | nil => exact absurd member List.not_mem_nil
    | cons first rest =>
        rcases List.mem_append.mp member with old | last
        · exact known.filled other (List.mem_append_left _ old)
        · obtain rfl := List.mem_singleton.mp last
          exact known.filled dma (List.mem_append_right _ (List.mem_singleton_self _))

/-- The release of what a request has room for. -/
theorem VmUpdateTask.release_spec {task : VmUpdateTask} {earlier : List VmDmaNode}
    {dma : VmDmaNode} {spare written : Nat} (has : task.Has (earlier ++ [dma]) spare)
    (notFilled : written < dma.size - dma.commandLength.toNat)
    : ∃ after, task.vidschVmUpdateTaskReleaseSpace
        (dma.cpuVirtualAddress + dma.commandLength.toNat + written) = some after
      ∧ after.Has (earlier ++ [dma.extend written]) spare
      ∧ after.cmdSize
        = task.cmdSize + ((dma.extend written).commandLength - dma.commandLength) := by
  have offset : dma.cpuVirtualAddress + dma.commandLength.toNat + written
      - dma.cpuVirtualAddress = dma.commandLength.toNat + written := by
    omega
  refine ⟨_, ?_, has.replace (dma.extend written) _, rfl⟩
  rw [vidschVmUpdateTaskReleaseSpace, has.last, Option.bind_some, if_pos ⟨by omega, by omega⟩,
    offset]
  rfl

/-- What holds in every state: the nodes are placed, their commands are counted, and what was
released is in them.
-/
structure VmUpdateState.Accounted (memory : DmaMemory) (state : VmUpdateState)
    (dmas : List VmDmaNode) (spare : Nat) : Prop where
  has : state.task.Has dmas spare
  known : PlacedNodes memory dmas
  any : 0 < dmas.length
  counted : state.task.cmdSize.toNat = commandLengths dmas
  kept : ∀ extent ∈ state.released, ∃ dma ∈ dmas, dma.used.Includes extent

namespace VmUpdateState

variable {memory : DmaMemory} {state after : VmUpdateState} {dmas : List VmDmaNode}
  {spare : Nat} {update : VmUpdate}

/-- A task that was allocated. -/
theorem accounted_allocated {dmaSize : U32} {range : Extent}
    (inside : memory.extent.Includes range)
    : Accounted memory ⟨memory.vidschAllocateVmUpdateTask dmaSize range, []⟩
        [memory.vidschiAllocateDmaNode range] 3 where
  has := ⟨rfl, rfl, rfl⟩
  known :=
    {
      placed := by
        intro dma member
        exact List.mem_singleton.mp member ▸ VmDmaNode.placed_allocated inside
      apart := List.pairwise_singleton _ _
      filled := fun _ member => absurd member List.not_mem_nil
    }
  any := Nat.one_pos
  counted := rfl
  kept _ member := absurd member List.not_mem_nil

/-- An update that is permitted goes through and is accounted for. -/
theorem Accounted.next (accounted : state.Accounted memory dmas spare)
    (permitted : state.task.Permitted memory update)
    : ∃ after dmas' spare', state.next memory update = some after
      ∧ after.Accounted memory dmas' spare' := by
  obtain ⟨task, earlier, dma, spare', step⟩ :=
    VmUpdateTask.request_spec accounted.has accounted.known accounted.any permitted
  obtain ⟨released, done, has, cmdSize⟩ := VmUpdateTask.release_spec step.has step.notFilled
  obtain ⟨length, known⟩ := step.known.extend step.notFilled
  refine ⟨⟨released, ⟨dma.cpuVirtualAddress + dma.commandLength.toNat, update.written⟩
    :: state.released⟩, earlier ++ [dma.extend update.written], spare', ?_, has, known, by simp,
    ?_, ?_⟩
  · rw [VmUpdateState.next, step.requested, Option.bind_some]
    dsimp only
    rw [done, Option.map_some]
  · have sum : commandLengths (earlier ++ [dma.extend update.written])
        = commandLengths (earlier ++ [dma]) + update.written := by
      simp [commandLengths, length, Nat.add_assoc]
    have bound := known.commandLengths_le
    have small := memory.small
    have counted := accounted.counted
    have lengths := step.lengths
    have old := step.cmdSize
    change released.cmdSize.toNat = _
    rw [cmdSize, old, BitVec.toNat_add, BitVec.toNat_sub, length]
    omega
  · intro extent member
    have last : (dma.extend update.written).used.Includes dma.used := by
      refine ⟨Nat.le_refl _, ?_⟩
      change dma.cpuVirtualAddress + dma.commandLength.toNat
        ≤ dma.cpuVirtualAddress + (dma.extend update.written).commandLength.toNat
      omega
    rcases List.mem_cons.mp member with rfl | old
    · refine ⟨dma.extend update.written, by simp, ?_, ?_⟩
      · exact Nat.le_add_right _ _
      · change dma.cpuVirtualAddress + dma.commandLength.toNat + update.written
          ≤ dma.cpuVirtualAddress + (dma.extend update.written).commandLength.toNat
        omega
    · obtain ⟨other, listed, includes⟩ := accounted.kept extent old
      rcases List.mem_append.mp (step.before.subset listed) with inEarlier | isLast
      · exact ⟨other, List.mem_append_left _ inEarlier, includes⟩
      · obtain rfl := List.mem_singleton.mp isLast
        exact ⟨_, by simp, Nat.le_trans last.1 includes.1, Nat.le_trans includes.2 last.2⟩

/-- Every state of a run is accounted for. -/
theorem accounted_of_reachable
    (reached : (vmUpdateSystem memory).ReachableUnder
      (fun state update => state.task.Permitted memory update) state)
    : ∃ dmas spare, state.Accounted memory dmas spare := by
  apply reached.invariant
  · rintro ⟨task, released⟩ ⟨none, dmaSize, range, inside, _, allocated⟩
    obtain rfl : released = [] := none
    obtain rfl : task = memory.vidschAllocateVmUpdateTask dmaSize range := allocated
    exact ⟨_, _, accounted_allocated inside⟩
  · rintro before update after ⟨dmas, spare, accounted⟩ permitted stepped
    obtain ⟨after', dmas', spare', stepped', accounted'⟩ := accounted.next permitted
    obtain rfl := Option.some.inj (stepped'.symm.trans stepped)
    exact ⟨dmas', spare', accounted'⟩

/-- A request is given room in a node that is behind all that was released, keeps the nodes
there are, and its release passes the assertions.
-/
structure Sufficient (memory : DmaMemory) (state : VmUpdateState) (update : VmUpdate)
    (after : VmUpdateTask) (pointer : Nat) (dma : VmDmaNode) : Prop where
  requested : state.task.vidschVmUpdateTaskRequestSpace memory update.size update.range
    = some (after, pointer)
  last : after.last = some dma
  room : dma.cpuVirtualAddress ≤ pointer
    ∧ pointer + update.size.toNat ≤ dma.cpuVirtualAddress + dma.size
  fresh : ∀ extent ∈ state.released, extent.Apart ⟨pointer, update.size.toNat⟩
  capacity : after.dmaCnt ≤ after.dmaListCnt
  preserved : ∀ index < state.task.dmaCnt, after.dmaAt index = state.task.dmaAt index
  releases : (after.vidschVmUpdateTaskReleaseSpace (pointer + update.written)).isSome = true

/-- A request that is permitted is sufficient. -/
theorem Accounted.sufficient (accounted : state.Accounted memory dmas spare)
    (permitted : state.task.Permitted memory update)
    : ∃ after pointer dma, state.Sufficient memory update after pointer dma := by
  obtain ⟨task, earlier, dma, spare', step⟩ :=
    VmUpdateTask.request_spec accounted.has accounted.known accounted.any permitted
  obtain ⟨released, done, _, _⟩ := VmUpdateTask.release_spec step.has step.notFilled
  have room := step.room
  have notFilled := step.notFilled
  have inNode : dma.cpuExtent.Includes
      ⟨dma.cpuVirtualAddress + dma.commandLength.toNat, update.size.toNat⟩ := by
    refine ⟨Nat.le_add_right _ _, ?_⟩
    change dma.cpuVirtualAddress + dma.commandLength.toNat + update.size.toNat
      ≤ dma.cpuVirtualAddress + dma.size
    omega
  refine ⟨task, _, dma, step.requested, step.has.last, inNode, ?_, ?_, ?_, ?_⟩
  · intro extent member
    obtain ⟨other, listed, includes⟩ := accounted.kept extent member
    rcases List.mem_append.mp (step.before.subset listed) with old | isLast
    · have across := (List.pairwise_append.mp step.known.apart).2.2 other old dma
        (List.mem_singleton_self _)
      have placed := step.known.placed other (List.mem_append_left _ old)
      have placed' := step.known.placed dma (by simp)
      have apart := (placed.apart placed' across).parts placed.used inNode
      exact apart.parts includes ⟨Nat.le_refl _, Nat.le_refl _⟩
    · obtain rfl := List.mem_singleton.mp isLast
      exact .inl includes.2
  · rw [step.has.cnt, step.has.listCnt]
    exact Nat.le_add_right _ _
  · intro index inside
    obtain ⟨more, whole⟩ := step.before
    rw [accounted.has.cnt] at inside
    rw [step.has.dmaAt, accounted.has.dmaAt, ← whole, List.getElem?_append_left inside]
  · rw [done]
    rfl

end VmUpdateState

/-- A DMA memory of 1 MiB. -/
def dmaMemory1M : DmaMemory where
  gpuVa := 0x400000
  virtAddr := 0x10000000
  size := 0x100000
  osPageSize := 4096
  small := by decide
  gpuBelow := by decide
  virtBelow := by decide
  power := ⟨12, rfl⟩

/-- A task with a first node of two pages. -/
def twoPageTask : VmUpdateState :=
  ⟨dmaMemory1M.vidschAllocateVmUpdateTask 0x2000 ⟨0x400000, 0x2000⟩, []⟩

end Cx4Kernel.Vidsch
