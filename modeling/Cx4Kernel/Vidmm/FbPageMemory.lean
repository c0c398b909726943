import Mathlib.Algebra.GroupWithZero.Nat
import Mathlib.Algebra.Order.Group.Nat
import Mathlib.Data.List.Perm.Basic

/-! Scattered local memory: the path of `vidmmi_allocate_fb_page_memory` that is not
`continuous`. It asks the heap for chunks, halves the chunk when it is refused and gives all
of them back when not even a page is left.
-/

namespace Cx4Kernel.Vidmm

/-- `MAX_ONCE_ALLOC_FB_SIZE`, without `ZX_VMI_MODE`. -/
def maxOnceAllocFbSize : Nat := 8 * 1024 * 1024

/-- `PRE_ALLOC_RANGE_NODE_LIST_SIZE`. -/
def preAllocRangeNodeListSize : Nat := 32

/-- `RESERVE_FOR_PT_BUFFER`. -/
def reserveForPtBuffer : Nat := 0x1000000

/-- A `struct range_node` of the heap, with its place as numbers. -/
structure HeapRange where
  start : Nat
  size : Nat
deriving DecidableEq

/-- Two ranges have no byte in common. -/
def HeapRange.Apart (left right : HeapRange) : Prop :=
  left.start + left.size ≤ right.start ∨ right.start + right.size ≤ left.start

instance (left right : HeapRange) : Decidable (left.Apart right) :=
  inferInstanceAs (Decidable (_ ∨ _))

/-- What a turn of the loop meets in the heap: its `free_size`, the ranges of others, and
where its search in the upper and in the whole window would end, if it finds a place.
-/
structure HeapTurn where
  freeSize : Nat
  others : List HeapRange
  upper : Option Nat
  whole : Option Nat

/-- The fields of the adapter, and the heap of each turn. -/
structure FbHeap where
  totalLocalMemorySize : Nat
  visibleLocalMemorySize : Nat
  pageTablePcieEnable : Bool
  turn : Nat → HeapTurn

/-- The arguments of the call. -/
structure FbPagesRequest where
  size : Nat
  alignment : Nat
  cpuVisible : Bool
  needReserve : Bool

/-- `fb_pages_memory_t`. -/
structure FbPagesMemory where
  rangeNodeList : List (Option HeapRange)
  rangeNodeNum : Nat
  size : Nat

/-- The variables of the loop, and with them the ranges obtained, each with the `free_size`
before it.
-/
structure FbPagesLoop where
  turns : Nat
  remainPages : Nat
  allocPages : Nat
  totalSize : Nat
  rangeNodeList : List (Option HeapRange)
  rangeNodeIndex : Nat
  obtained : List (Nat × HeapRange)

/-- The memory or `NULL`, with the ranges obtained and the ranges released. -/
structure FbPagesOutcome where
  memory : Option FbPagesMemory
  obtained : List (Nat × HeapRange)
  released : List HeapRange

/-- `mem_ra->alloc`: a place that is found is aligned, in the window and free. -/
def raAlloc (live : List HeapRange) (size alignment start «end» : Nat) (found : Option Nat)
    : Option HeapRange :=
  found.bind fun place =>
    if place % alignment = 0 ∧ start ≤ place ∧ place + size ≤ «end»
        ∧ ∀ range ∈ live, HeapRange.Apart ⟨place, size⟩ range then
      some ⟨place, size⟩
    else none

/-- `range_node_list[i]->release(range_node_list[i])` for all `i` below an index, from the
last to the first.
-/
def releaseRanges (rangeNodeList : List (Option HeapRange)) : Nat → List HeapRange
  | 0 => []
  | index + 1 => rangeNodeList[index]?.join.toList ++ releaseRanges rangeNodeList index

namespace FbPagesLoop

variable (heap : FbHeap) (request : FbPagesRequest)

/-- `reserved_size`. -/
def reservedSize : Nat :=
  if heap.pageTablePcieEnable then 0 else reserveForPtBuffer

/-- The alignment after `if (alignment < 4096)`. -/
def pageAlignment : Nat :=
  if request.alignment < 4096 then 4096 else request.alignment

/-- The ranges that are in use. -/
def live (loop : FbPagesLoop) : List HeapRange :=
  (heap.turn loop.turns).others ++ loop.obtained.map Prod.snd

/-- `TRY_ALLOC`. -/
def tryAlloc (loop : FbPagesLoop) (size : Nat) : Option HeapRange :=
  let upper :=
    if !request.cpuVisible && heap.visibleLocalMemorySize < heap.totalLocalMemorySize then
      raAlloc (loop.live heap) size (pageAlignment request) heap.visibleLocalMemorySize
        heap.totalLocalMemorySize (heap.turn loop.turns).upper
    else none
  upper.or
    (raAlloc (loop.live heap) size (pageAlignment request) 0
      (if request.cpuVisible then heap.visibleLocalMemorySize else heap.totalLocalMemorySize)
      (heap.turn loop.turns).whole)

/-- The list after `range_node_list[range_node_index++] = range`, regrown if it is full. -/
def store (loop : FbPagesLoop) (range : HeapRange) : List (Option HeapRange) :=
  let list :=
    if loop.rangeNodeList.length ≤ loop.rangeNodeIndex then
      loop.rangeNodeList ++ List.replicate preAllocRangeNodeListSize none
    else loop.rangeNodeList
  list.set loop.rangeNodeIndex (some range)

/-- One turn of the loop, or what follows it. -/
def next (loop : FbPagesLoop) : FbPagesLoop ⊕ FbPagesOutcome :=
  if loop.remainPages = 0 then
    .inr ⟨some ⟨loop.rangeNodeList, loop.rangeNodeIndex, loop.totalSize⟩, loop.obtained, []⟩
  else
    let allocPages := min loop.allocPages (min loop.remainPages (maxOnceAllocFbSize / 4096))
    let freeSize := (heap.turn loop.turns).freeSize
    let range :=
      if !request.needReserve || allocPages * 4096 + reservedSize heap ≤ freeSize then
        loop.tryAlloc heap request (allocPages * 4096)
      else none
    match range with
    | some range =>
        .inl
          { turns := loop.turns + 1
            remainPages := loop.remainPages - allocPages
            allocPages
            totalSize := loop.totalSize + range.size
            rangeNodeList := loop.store range
            rangeNodeIndex := loop.rangeNodeIndex + 1
            obtained := loop.obtained ++ [(freeSize, range)] }
    | none =>
        if 1 < allocPages then
          .inl { loop with turns := loop.turns + 1, allocPages := (allocPages + 1) / 2 }
        else
          .inr ⟨none, loop.obtained, releaseRanges loop.rangeNodeList loop.rangeNodeIndex⟩

/-- The loop for a number of turns. -/
def run : Nat → FbPagesLoop → Option FbPagesOutcome
  | 0, _ => none
  | fuel + 1, loop =>
      match loop.next heap request with
      | .inl later => run fuel later
      | .inr outcome => some outcome

/-- The loop before its first turn. -/
def start : FbPagesLoop where
  turns := 0
  remainPages := request.size / 4096
  allocPages := maxOnceAllocFbSize / 4096
  totalSize := 0
  rangeNodeList := List.replicate preAllocRangeNodeListSize none
  rangeNodeIndex := 0
  obtained := []

end FbPagesLoop

/-- `vidmmi_allocate_fb_page_memory` with `continuous = 0`, if it takes no more turns than
given.
-/
def vidmmiAllocateFbPageMemory (heap : FbHeap) (request : FbPagesRequest) (turns : Nat)
    : Option FbPagesOutcome :=
  (FbPagesLoop.start request).run heap request turns

-----------------------------------------------------------------------------------------
-- Turns
-----------------------------------------------------------------------------------------

/-- A range from the heap has the size asked for, is in the window and apart from all ranges
in use.
-/
theorem raAlloc_spec {live : List HeapRange} {size alignment start «end» : Nat}
    {found : Option Nat} {range : HeapRange}
    (taken : raAlloc live size alignment start «end» found = some range)
    : range.size = size ∧ range.start + range.size ≤ «end»
      ∧ ∀ other ∈ live, range.Apart other := by
  obtain ⟨place, _, fits⟩ := Option.bind_eq_some_iff.mp taken
  split at fits
  next good =>
    obtain rfl := Option.some.inj fits
    exact ⟨rfl, good.2.2.1, good.2.2.2⟩
  next => cases fits

namespace FbPagesLoop

variable {heap : FbHeap} {request : FbPagesRequest} {loop : FbPagesLoop}

/-- A range for the loop has the size asked for, is apart from all ranges in use and below
the end of visible memory if the processor is to see it.
-/
theorem tryAlloc_spec {size : Nat} {range : HeapRange}
    (taken : loop.tryAlloc heap request size = some range)
    : range.size = size
      ∧ (request.cpuVisible = true
        → range.start + range.size ≤ heap.visibleLocalMemorySize)
      ∧ ∀ other ∈ loop.live heap, range.Apart other := by
  rcases Option.or_eq_some_iff.mp taken with upper | ⟨_, whole⟩
  · split at upper
    next window =>
      obtain ⟨same, _, apart⟩ := raAlloc_spec upper
      refine ⟨same, fun visible => ?_, apart⟩
      rw [visible] at window
      cases window
    next => cases upper
  · obtain ⟨same, below, apart⟩ := raAlloc_spec whole
    refine ⟨same, fun visible => ?_, apart⟩
    rwa [if_pos visible] at below

/-- The ranges obtained so far, which fill the front of the list: apart from each other, whole
pages within the limits, and with what remains as much as asked for.
-/
structure Sound (heap : FbHeap) (request : FbPagesRequest) (loop : FbPagesLoop) : Prop where
  list : ∃ unused, loop.rangeNodeList
    = (loop.obtained.map fun entry => some entry.2) ++ List.replicate unused none
  index : loop.rangeNodeIndex = loop.obtained.length
  total : loop.totalSize = (loop.obtained.map fun entry => entry.2.size).sum
  left : loop.totalSize + loop.remainPages * 4096 = request.size
  chunk : 0 < loop.allocPages
  apart : (loop.obtained.map Prod.snd).Pairwise HeapRange.Apart
  pages : ∀ entry ∈ loop.obtained,
    entry.2.size % 4096 = 0 ∧ 0 < entry.2.size ∧ entry.2.size ≤ maxOnceAllocFbSize
  visible : request.cpuVisible = true → ∀ entry ∈ loop.obtained,
    entry.2.start + entry.2.size ≤ heap.visibleLocalMemorySize
  reserved : request.needReserve = true → ∀ entry ∈ loop.obtained,
    entry.2.size + reservedSize heap ≤ entry.1

/-- The loop starts with nothing obtained. -/
theorem Sound.start (pages : request.size % 4096 = 0)
    : Sound heap request (FbPagesLoop.start request) where
  list := ⟨preAllocRangeNodeListSize, rfl⟩
  index := rfl
  total := rfl
  left := by
    change 0 + request.size / 4096 * 4096 = request.size
    omega
  chunk := show 0 < maxOnceAllocFbSize / 4096 by decide
  apart := List.Pairwise.nil
  pages := fun _ member => absurd member List.not_mem_nil
  visible := fun _ _ member => absurd member List.not_mem_nil
  reserved := fun _ _ member => absurd member List.not_mem_nil

/-- A stored range follows those stored before. -/
theorem Sound.store (sound : Sound heap request loop) (range : HeapRange)
    : ∃ unused, loop.store range
      = (loop.obtained.map fun entry => some entry.2) ++ some range
        :: List.replicate unused none := by
  obtain ⟨unused, list⟩ := sound.list
  unfold FbPagesLoop.store
  rw [sound.index, list]
  have place : loop.obtained.length
      = (loop.obtained.map fun entry => some entry.2).length := (List.length_map _).symm
  cases unused with
  | zero =>
      refine ⟨preAllocRangeNodeListSize - 1, ?_⟩
      rw [if_pos (by simp), List.replicate_zero, List.append_nil, place,
        List.set_append_right _ _ (Nat.le_refl _), Nat.sub_self]
      rfl
  | succ unused =>
      refine ⟨unused, ?_⟩
      rw [if_neg (by simp), place, List.set_append_right _ _ (Nat.le_refl _), Nat.sub_self]
      rfl

/-- The front of a list is released from its last range to its first, by induction on its
length.
-/
theorem releaseRanges_eq (ranges : List HeapRange) (unused : List (Option HeapRange))
    {count : Nat} (bound : count ≤ ranges.length)
    : releaseRanges (ranges.map some ++ unused) count = (ranges.take count).reverse := by
  induction count with
  | zero => rfl
  | succ count ih =>
      have place : (ranges.map some ++ unused)[count]? = some ranges[count]? := by
        rw [List.getElem?_append_left (by rw [List.length_map]; exact bound), List.getElem?_map,
          List.getElem?_eq_getElem bound]
        rfl
      rw [releaseRanges, place, ih (Nat.le_of_succ_le bound), List.take_add_one,
        List.reverse_append]
      simp [List.getElem?_eq_getElem bound]

/-- What a turn that goes on keeps, and that it comes closer to the end. -/
theorem next_sound (sound : Sound heap request loop) {later : FbPagesLoop}
    (turn : loop.next heap request = .inl later)
    : Sound heap request later
      ∧ later.remainPages + later.allocPages < loop.remainPages + loop.allocPages := by
  unfold next at turn
  split at turn
  next => cases turn
  next some =>
    have chunk := sound.chunk
    have left := sound.left
    dsimp only at turn
    generalize size : min loop.allocPages (min loop.remainPages (maxOnceAllocFbSize / 4096))
      = allocPages at turn
    have positive : 0 < allocPages ∧ allocPages ≤ loop.allocPages
        ∧ allocPages ≤ loop.remainPages ∧ allocPages * 4096 ≤ maxOnceAllocFbSize := by
      unfold maxOnceAllocFbSize at *
      omega
    split at turn
    next range taken =>
      obtain rfl := Sum.inl.inj turn
      split at taken
      next allowed =>
        obtain ⟨same, visible, apart⟩ := tryAlloc_spec taken
        obtain ⟨unused, list⟩ := sound.store range
        refine ⟨?_, ?_⟩
        · refine ⟨⟨unused, ?_⟩, ?_, ?_, ?_, positive.1, ?_, ?_, ?_, ?_⟩
          · rw [list, List.map_append, List.append_assoc]
            rfl
          · simp [sound.index]
          · simp [sound.total]
          · dsimp only
            omega
          · rw [List.map_append, List.pairwise_append]
            refine ⟨sound.apart, List.pairwise_singleton _ _, ?_⟩
            intro earlier member last here
            obtain rfl := List.mem_singleton.mp here
            exact (apart earlier (List.mem_append_right _ member)).symm
          · refine List.forall_mem_append.mpr
              ⟨sound.pages, List.forall_mem_singleton.mpr ?_⟩
            dsimp only
            omega
          · intro wanted
            exact List.forall_mem_append.mpr
              ⟨sound.visible wanted, List.forall_mem_singleton.mpr (visible wanted)⟩
          · intro wanted
            refine List.forall_mem_append.mpr
              ⟨sound.reserved wanted, List.forall_mem_singleton.mpr ?_⟩
            rw [wanted] at allowed
            have room := of_decide_eq_true allowed
            dsimp only
            rw [same]
            exact room
        · dsimp only
          omega
      next => cases taken
    next refused =>
      split at turn
      next more =>
        obtain rfl := Sum.inl.inj turn
        refine ⟨⟨sound.list, sound.index, sound.total, left, ?_, sound.apart, sound.pages,
          sound.visible, sound.reserved⟩, ?_⟩ <;> dsimp only <;> omega
      next => cases turn

/-- What the call promises: whole, disjoint ranges that add up to the size and respect the
limits, or nothing with every range given back once; and room for the reserve either way.
-/
structure Exact (heap : FbHeap) (request : FbPagesRequest) (outcome : FbPagesOutcome) : Prop
    where
  memory : ∀ {memory}, outcome.memory = some memory →
    ∃ ranges : List HeapRange,
      memory.rangeNodeList.take memory.rangeNodeNum = ranges.map some
      ∧ ranges.length = memory.rangeNodeNum
      ∧ ranges.Pairwise HeapRange.Apart
      ∧ (∀ range ∈ ranges, range.size % 4096 = 0 ∧ range.size ≤ maxOnceAllocFbSize
        ∧ (request.cpuVisible = true
          → range.start + range.size ≤ heap.visibleLocalMemorySize))
      ∧ (ranges.map HeapRange.size).sum = request.size ∧ memory.size = request.size
      ∧ ranges = outcome.obtained.map Prod.snd ∧ outcome.released = []
  nothing : outcome.memory = none → outcome.released.Perm (outcome.obtained.map Prod.snd)
  reserved : request.needReserve = true → ∀ entry ∈ outcome.obtained,
    entry.2.size + reservedSize heap ≤ entry.1

/-- What follows the loop keeps the promise. -/
theorem next_exact (sound : Sound heap request loop) {outcome : FbPagesOutcome}
    (turn : loop.next heap request = .inr outcome)
    : Exact heap request outcome := by
  obtain ⟨unused, list⟩ := sound.list
  have ranges : loop.rangeNodeList
      = (loop.obtained.map Prod.snd).map some ++ List.replicate unused none := by
    rw [list, List.map_map]
    rfl
  unfold next at turn
  split at turn
  next done =>
    obtain rfl := Sum.inr.inj turn
    refine ⟨?_, fun missing => (by cases missing), sound.reserved⟩
    intro memory made
    obtain rfl := Option.some.inj made
    have left := sound.left
    rw [done, Nat.zero_mul, Nat.add_zero] at left
    refine ⟨loop.obtained.map Prod.snd, ?_, ?_, sound.apart, ?_, ?_, left, rfl, rfl⟩
    · dsimp only
      rw [ranges, sound.index, List.take_left' (by simp)]
    · simp [sound.index]
    · intro range member
      obtain ⟨entry, known, rfl⟩ := List.mem_map.mp member
      obtain ⟨whole, _, small⟩ := sound.pages entry known
      exact ⟨whole, small, fun wanted => sound.visible wanted entry known⟩
    · rw [← left, sound.total, List.map_map]
      rfl
  next =>
    dsimp only at turn
    split at turn
    next => cases turn
    next =>
      split at turn
      next => cases turn
      next =>
        obtain rfl := Sum.inr.inj turn
        refine ⟨fun made => (by cases made), fun _ => ?_, sound.reserved⟩
        dsimp only
        rw [ranges, sound.index, releaseRanges_eq _ _ (by simp), List.take_of_length_le (by simp)]
        exact List.reverse_perm _

/-- A loop with turns enough ends as promised, by induction on the turns. -/
theorem run_exact (fuel : Nat) (sound : Sound heap request loop)
    (enough : loop.remainPages + loop.allocPages < fuel)
    : ∃ outcome, loop.run heap request fuel = some outcome ∧ Exact heap request outcome := by
  induction fuel generalizing loop with
  | zero => exact absurd enough (Nat.not_lt_zero _)
  | succ fuel ih =>
      rw [run]
      cases turn : loop.next heap request with
      | inr outcome => exact ⟨outcome, rfl, next_exact sound turn⟩
      | inl later =>
          obtain ⟨kept, closer⟩ := next_sound sound turn
          exact ih kept (Nat.lt_of_lt_of_le closer (Nat.le_of_lt_succ enough))

end FbPagesLoop

/-- Scattered local memory is allocated exactly or not at all, within as many turns as there
are pages and 2048 more.
-/
theorem vidmmiAllocateFbPageMemory_exact (heap : FbHeap) (request : FbPagesRequest)
    (pages : request.size % 4096 = 0) {turns : Nat}
    (enough : request.size / 4096 + 2048 < turns)
    : ∃ outcome, vidmmiAllocateFbPageMemory heap request turns = some outcome
        ∧ FbPagesLoop.Exact heap request outcome :=
  FbPagesLoop.run_exact turns (.start pages) enough

/-- A heap of 64 MiB that is refused its first chunk of 8 MiB. -/
def halvedHeap : FbHeap where
  totalLocalMemorySize := 0x4000000
  visibleLocalMemorySize := 0x2000000
  pageTablePcieEnable := false
  turn turn := ⟨0x4000000, [], none, if turn = 0 then none else some (turn * 0x800000)⟩

theorem halvedHeap_exact
    : ∃ outcome, vidmmiAllocateFbPageMemory halvedHeap ⟨0x800000, 4096, true, true⟩ 5000
        = some outcome
      ∧ FbPagesLoop.Exact halvedHeap ⟨0x800000, 4096, true, true⟩ outcome :=
  vidmmiAllocateFbPageMemory_exact halvedHeap ⟨0x800000, 4096, true, true⟩ (by decide)
    (by decide)

end Cx4Kernel.Vidmm
