import Mathlib.Logic.Function.Basic
import Cx4Kernel.Vidmm.Paging

/-! Making room in a local segment: its lists of resident allocations, one pass of evictions
and the retry loop around such passes, from `vidmm_paging.c`. How a single eviction ends and
when the local heap has memory is left to oracles.
-/

namespace Cx4Kernel.Vidmm

/-- `PALL`. -/
def pAll : Nat := 5

/-- `ALLOCATION_PRIORITY`, without `PALL`. -/
abbrev AllocationPriority := Fin pAll

/-- `PDISCARD`. -/
def pDiscard : AllocationPriority := ⟨0, by decide⟩

/-- `PLOW`. -/
def pLow : AllocationPriority := ⟨1, by decide⟩

/-- `VIDMM_MAX_PAGING_OUT_MEMORY_SIZE`. -/
def vidmmMaxPagingOutMemorySize : Nat := 4 * 1024 * 1024

/-- The fields of `vidmm_allocation_t` that lists and evictions look at. -/
structure ResidentAllocation where
  size : U64
  priority : AllocationPriority
  segmentId : Nat
  tempUnpagable : Nat
  global : Bool
  unpagable : Bool

/-- `!allocation->status.temp_unpagable && !allocation->flag.global`. -/
def ResidentAllocation.evictable (allocation : ResidentAllocation) : Bool :=
  allocation.tempUnpagable == 0 && !allocation.global

/-- The allocations, by number, and the resident lists of each segment. -/
structure ResidentLists where
  allocation : Nat → ResidentAllocation
  pagable : Nat → AllocationPriority → List Nat
  unpagable : Nat → List Nat

namespace ResidentLists

/-- Replace a list of pagable allocations. -/
def setPagable (lists : ResidentLists) (segmentId : Nat) (priority : AllocationPriority)
    (items : List Nat) : ResidentLists :=
  { lists with
    pagable :=
      Function.update lists.pagable segmentId
        (Function.update (lists.pagable segmentId) priority items) }

/-- `vidmm_add_allocation_to_segment_resident_list`. -/
def vidmmAddAllocationToSegmentResidentList (lists : ResidentLists) (index : Nat)
    : ResidentLists :=
  let allocation := lists.allocation index
  if allocation.unpagable then
    { lists with
      unpagable :=
        Function.update lists.unpagable allocation.segmentId
          (lists.unpagable allocation.segmentId ++ [index]) }
  else
    lists.setPagable allocation.segmentId allocation.priority
      (lists.pagable allocation.segmentId allocation.priority ++ [index])

/-- `allocation->segment_id = segment_id`. -/
def setSegmentId (lists : ResidentLists) (index segmentId : Nat) : ResidentLists :=
  { lists with
    allocation :=
      Function.update lists.allocation index { lists.allocation index with segmentId } }

/-- `vidmm_set_allocation_priority` of one allocation, which leaves the lists alone. -/
def vidmmSetAllocationPriority (lists : ResidentLists) (index : Nat)
    (priority : AllocationPriority) : ResidentLists :=
  { lists with
    allocation :=
      Function.update lists.allocation index { lists.allocation index with priority } }

end ResidentLists

/-- A segment and the resident lists. Each listed allocation is in one place of one list, of
the segment it belongs to.
-/
structure SegmentState extends ResidentLists where
  segmentId : Nat
  /-- `property & ZX_SEGMENT_PROPERTY_LOCAL` -/
  isLocal : Bool
  notCache : segmentId ≠ segmentIdInvalid
  once : ∀ segment priority, (pagable segment priority).Nodup
  alone : ∀ {segment other priority another index}, index ∈ pagable segment priority
    → index ∈ pagable other another → segment = other ∧ priority = another
  listed : ∀ {segment priority index}, index ∈ pagable segment priority
    → (allocation index).segmentId = segment ∧ (allocation index).unpagable = false
      ∧ ∀ other, index ∉ unpagable other

/-- The variables of a pass, and with them the evictions it attempted and how they ended. -/
structure EvictionPass where
  lists : ResidentLists
  ret : PagingStatus
  unresidentSize : U32
  attempts : List (Nat × PagingStatus)

namespace EvictionPass

/-- The allocations a pass evicted. -/
def evicted (pass : EvictionPass) : List Nat :=
  (pass.attempts.filter fun attempt => attempt.2 = .ok).map Prod.fst

/-- The condition of `goto done`. -/
def done (pass : EvictionPass) : Prop :=
  pass.ret ≠ .ok ∨ (vidmmMaxPagingOutMemorySize : Int) ≤ pass.unresidentSize.toInt

instance (pass : EvictionPass) : Decidable pass.done :=
  inferInstanceAs (Decidable (_ ∨ _))

variable (outcome : Nat → PagingStatus)

/-- One eviction, of an allocation that was taken off its list: it ends as the oracle says,
and the allocation goes to the cache list or back to its segment.
-/
def evict (pass : EvictionPass) (index : Nat) : EvictionPass :=
  let ret := outcome pass.attempts.length
  if ret = .ok then
    { lists :=
        (pass.lists.setSegmentId index segmentIdInvalid).vidmmAddAllocationToSegmentResidentList
          index
      ret
      unresidentSize :=
        pass.unresidentSize + (pass.lists.allocation index).size.setWidth 32
      attempts := pass.attempts ++ [(index, ret)] }
  else
    { pass with
      lists := pass.lists.vidmmAddAllocationToSegmentResidentList index
      ret
      attempts := pass.attempts ++ [(index, ret)] }

/-- The loop over `paging_list`: what is left of it, and the pass after it. -/
def visitList : List Nat → EvictionPass → List Nat × EvictionPass
  | [], pass => ([], pass)
  | index :: rest, pass =>
      if (pass.lists.allocation index).evictable then
        let pass := pass.evict outcome index
        if pass.done then (rest, pass) else visitList rest pass
      else
        let (left, pass) := visitList rest pass
        (index :: left, pass)

/-- One round of the loop over priorities: `list_splice_init` to a local head, the loop over
it, and `list_splice_init` back to the front.
-/
def visit (segmentId : Nat) (pass : EvictionPass) (priority : AllocationPriority)
    : EvictionPass :=
  let pagingList := pass.lists.pagable segmentId priority
  let (left, pass) :=
    visitList outcome pagingList
      { pass with lists := pass.lists.setPagable segmentId priority [] }
  { pass with
    lists :=
      pass.lists.setPagable segmentId priority
        (left ++ pass.lists.pagable segmentId priority) }

end EvictionPass

/-- `vidmmi_segment_unresident_allocations`. -/
def vidmmiSegmentUnresidentAllocations (outcome : Nat → PagingStatus) (segmentId : Nat)
    (isLocal : Bool) (lists : ResidentLists) : EvictionPass :=
  if !isLocal then ⟨lists, .unexpected, 0, []⟩
  else (List.finRange pAll).foldl (EvictionPass.visit outcome segmentId) ⟨lists, .ok, 0, []⟩

end Cx4Kernel.Vidmm
