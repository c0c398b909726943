import Cx4Kernel.Foundation.MachineInt
import Cx4Kernel.Foundation.RangeTree

/-! The virtual address space of a device and the lookups that user requests make in it, from
`vidmm_vm.c`, `vidmm.c` and `os_interface.c`: the zones, the range tree of a zone, and the
tree of nodes inside each sparse reservation. A result `none` of a lookup stands for a read
through `NULL` or a failed `zx_assert`.
-/

namespace Cx4Kernel.Vidmm

open Foundation

/-- What `range->private` points to: a node with an allocation or with something else, or, if
it is tagged, a sparse reservation with the allocations mapped inside it.
-/
inductive VmEntity where
  | allocation (index : Nat)
  | other
  | sparse (ra : RangeTree Nat)

/-- The zones of a device: the shared space with its local part and its range tree, if it
has one, and the private space. Ranges are in their zone and nodes in their reservation.
-/
structure AddressSpace where
  sharedGpuVaOffset : Nat
  sharedGpuVaSize : Nat
  totalLocalMemorySize : Nat
  pcie : Option (RangeTree VmEntity)
  privateStart : Nat
  privateSize : Nat
  privateRa : RangeTree VmEntity
  sharedSmall : sharedGpuVaOffset + sharedGpuVaSize < 2 ^ 64
  privateSmall : privateStart + privateSize < 2 ^ 64
  localInside : totalLocalMemorySize ≤ sharedGpuVaSize
  separate : sharedGpuVaOffset + sharedGpuVaSize ≤ privateStart
    ∨ privateStart + privateSize ≤ sharedGpuVaOffset
  pcieOrdered : ∀ ra ∈ pcie, ra.Ordered
  pcieInside : ∀ ra ∈ pcie, ∀ span ∈ ra.spans,
    sharedGpuVaOffset + totalLocalMemorySize ≤ span.start
      ∧ span.end ≤ sharedGpuVaOffset + sharedGpuVaSize
  privateOrdered : privateRa.Ordered
  privateInside : ∀ span ∈ privateRa.spans,
    privateStart ≤ span.start ∧ span.end ≤ privateStart + privateSize
  sparseOrdered : ∀ ra, ra ∈ pcie ∨ ra = privateRa → ∀ span ∈ ra.spans, ∀ inner,
    span.value = .sparse inner → inner.Ordered
      ∧ ∀ node ∈ inner.spans, span.start ≤ node.start ∧ node.end ≤ span.end

/-- `fb_pages_mem`, by the start of its first range and the number of its ranges. -/
structure ListedPages where
  start : Nat
  rangeNodeNum : Nat

/-- An allocation of the list of a task. -/
structure ListedAllocation where
  index : Nat
  /-- `segment->flags.local` -/
  isLocal : Bool
  size : Nat
  fbPagesMem : Option ListedPages

/-- An address space and a list of allocations, whose local memory is memory of the adapter.
An allocation that is listed twice is the same.
-/
structure LookupState extends AddressSpace where
  allocList : List ListedAllocation
  inLocal : ∀ allocation ∈ allocList, ∀ pages ∈ allocation.fbPagesMem,
    allocation.isLocal = true →
      pages.start < totalLocalMemorySize
      ∧ sharedGpuVaOffset + pages.start + allocation.size < 2 ^ 64
      ∧ (pages.rangeNodeNum = 1 → pages.start + allocation.size ≤ totalLocalMemorySize)
  sameAllocation : ∀ one ∈ allocList, ∀ other ∈ allocList, one.index = other.index
    → one = other

/-- The zones. -/
inductive ZoneId where
  | shareSpaceLocal
  | shareSpacePcie
  | privateSpace
deriving DecidableEq

/-- A node of a new mapping in a sparse reservation. -/
structure SparseNode where
  reservation : Span VmEntity
  start : Nat
  size : Nat

/-- `zx_drm_mm_ra_lookup`, whose `size` is an `unsigned int`. -/
def zxDrmMmRaLookup {α : Type} (ra : RangeTree α) (start size : Nat) : Option (Span α) :=
  (ra.floor start none).bind fun best =>
    if best.end < (start + size % 2 ^ 32) % 2 ^ 64 then none else some best

namespace AddressSpace

variable (space : AddressSpace)

/-- `vidmm_vm_get_zone_from_range`. -/
def vidmmVmGetZoneFromRange (base size : Nat) : Option ZoneId :=
  let last := (base + size) % 2 ^ 64
  if space.sharedGpuVaOffset ≤ base
      ∧ last ≤ space.sharedGpuVaOffset + space.sharedGpuVaSize then
    if base ≤ space.sharedGpuVaOffset + space.totalLocalMemorySize then
      if space.totalLocalMemorySize = 0 then none else some .shareSpaceLocal
    else if space.pcie.isSome then some .shareSpacePcie
    else none
  else if space.privateStart ≤ base ∧ last ≤ space.privateStart + space.privateSize then
    some .privateSpace
  else none

/-- The range tree of a zone, empty if there is none. -/
def ra : ZoneId → RangeTree VmEntity
  | .shareSpaceLocal => .leaf
  | .shareSpacePcie => space.pcie.getD .leaf
  | .privateSpace => space.privateRa

/-- A place in a reservation is free for a number of bytes. -/
def Free (reservation : Span VmEntity) (ra : RangeTree Nat) (place size : Nat) : Prop :=
  0 < size ∧ reservation.Contains place size
    ∧ ∀ node ∈ ra.spans, node.end ≤ place ∨ place + size ≤ node.start

instance (reservation : Span VmEntity) (ra : RangeTree Nat) (place size : Nat)
    : Decidable (Free reservation ra place size) :=
  inferInstanceAs (Decidable (_ ∧ _))

/-- `vidmmi_vm_allocate_node` with `force_start` in the tree of a reservation: `reserve` at an
address, or `alloc` at the place the heap finds if the address is 0.
-/
def vidmmiVmAllocateNode (reservation : Span VmEntity) (ra : RangeTree Nat)
    (preferStartAddr size : Nat) (found : Option Nat) : Option (Option SparseNode) :=
  if preferStartAddr ≠ 0 then
    if preferStartAddr % 4096 ≠ 0 then none
    else if Free reservation ra preferStartAddr size then
      some (some ⟨reservation, preferStartAddr, size⟩)
    else some none
  else
    some <| found.bind fun place =>
      if Free reservation ra place size then some ⟨reservation, place, size⟩ else none

/-- `vidmm_vm_allocate_sparse_vm_node`. -/
def vidmmVmAllocateSparseVmNode (base size : Nat) (found : Option Nat)
    : Option (Option SparseNode) :=
  match space.vidmmVmGetZoneFromRange base size with
  | none => some none
  | some .shareSpaceLocal => some none
  | some zone =>
      match zxDrmMmRaLookup (space.ra zone) base size with
      | none => none
      | some range =>
          match range.value with
          | .sparse ra => vidmmiVmAllocateNode range ra base size found
          | _ => some none

end AddressSpace

namespace LookupState

variable (state : LookupState)

/-- The test of the loop over the list of allocations. -/
def directHit (base size : Nat) (allocation : ListedAllocation) (pages : ListedPages) : Bool :=
  allocation.isLocal
    && state.sharedGpuVaOffset + pages.start ≤ base
    && (base + size) % 2 ^ 64 ≤ state.sharedGpuVaOffset + pages.start + allocation.size

/-- The loop over the list of allocations. -/
def fetchDirect (base size : Nat) : List ListedAllocation → Option (Option (Nat × Nat))
  | [] => some none
  | allocation :: rest =>
      match allocation.fbPagesMem with
      | none => none
      | some pages =>
          if state.directHit base size allocation pages then
            some (some (allocation.index, base - (state.sharedGpuVaOffset + pages.start)))
          else fetchDirect base size rest

/-- `vidmm_fetch_allocation_by_address`: the allocation and the offset, or `NULL`. -/
def vidmmFetchAllocationByAddress (base size : Nat) : Option (Option (Nat × Nat)) :=
  match state.vidmmVmGetZoneFromRange base size with
  | none => some none
  | some .shareSpaceLocal => state.fetchDirect base size state.allocList
  | some zone =>
      match zxDrmMmRaLookup (state.ra zone) base size with
      | none => some none
      | some range =>
          match range.value with
          | .allocation index => some (some (index, base - range.start))
          | .other => some none
          | .sparse ra =>
              (zxDrmMmRaLookup ra base size).map fun node =>
                some (node.value, base - node.start)

end LookupState

end Cx4Kernel.Vidmm
