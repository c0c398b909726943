import Cx4Kernel.Vidmm.PageTablesAlloc

/-! `vidmm_vm_alloc_pd` of `vidmm_vm.c` where the calls inside may fail. A page table goes by
the indices of the entries that lead to it from the root.
-/

namespace Cx4Kernel.Vidmm

-----------------------------------------------------------------------------------------
-- Tables
-----------------------------------------------------------------------------------------

/-- `vidmm_vm_pt_t`, with whether the buffer that it points to has been destroyed. -/
structure PdEntry extends VmPt where
  destroyed : Bool

namespace PdEntry

/-- The entry has a buffer that is not destroyed. -/
def Live (entry : PdEntry) : Prop := entry.buffer = true ∧ entry.destroyed = false

/-- The entry has such a buffer and a bitmap. -/
def Usable (entry : PdEntry) : Prop := entry.Live ∧ entry.updateBitmap.isSome

instance (entry : PdEntry) : Decidable entry.Live := inferInstanceAs (Decidable (_ ∧ _))

instance (entry : PdEntry) : Decidable entry.Usable := inferInstanceAs (Decidable (_ ∧ _))

end PdEntry

/-- The page tables of one `vma_space`. -/
abbrev PdTables : Type := List Nat → PdEntry

namespace PdTables

/-- No entry holds a destroyed buffer, and each bit of a directory belongs to an entry with a
live one.
-/
structure Safe (tables : PdTables) : Prop where
  undestroyed : ∀ path, (tables path).buffer → (tables path).destroyed = false
  backed : ∀ directory idx, directory.length < 2 → (tables directory).bit idx
    → (tables (directory ++ [idx])).Live

/-- The tables of a `vma_space` in which no call has failed so far. -/
structure Sound (tables : PdTables) : Prop extends tables.Safe where
  bitmaps : ∀ path, (tables path).buffer → (tables path).updateBitmap.isSome
  root : (tables []).Usable

/-- Each entry that was usable still is. -/
def Kept (before after : PdTables) : Prop :=
  ∀ path, (before path).Usable → (after path).Usable

/-- The tables without what is behind their buffers. -/
def plain (tables : PdTables) : VmPtInfo := fun path => (tables path).toVmPt

/-- The tables after `vidmm_vm_init_vma_space`. -/
def fresh : PdTables := fun path =>
  if path = [] then ⟨⟨true, some fun _ => false, false⟩, false⟩ else ⟨⟨false, none, false⟩, false⟩

end PdTables

-----------------------------------------------------------------------------------------
-- vidmm_vm_alloc_pd
-----------------------------------------------------------------------------------------

/-- The results of `vidmm_vm_alloc_pd` and `vidmm_map_segment_memory`. -/
inductive PdStatus where
  | ok
  | outOfMemory
  | invalidArg
  | fail
deriving DecidableEq

/-- The calls for a table: the lock of its buffer and the allocation of its `entries` when it
is the parent, and how it gets its own buffer and bitmap.
-/
inductive PdCall where
  | lockParent
  | entries
  | create
  | map
  | lock
  | bitmap
deriving DecidableEq

/-- The flags, and how the calls for each table end. -/
structure PdEnvironment where
  pageTableLocalEnable : Bool
  pageTablePcieEnable : Bool
  cpuUpdatePte : Bool
  updatePrivateVma : Bool
  createSegmentMemory : (segmentId : Nat) → List Nat → Bool
  mapSegmentMemory : List Nat → PdStatus
  lockSegmentMemory : List Nat → Bool
  lockParent : List Nat → Bool
  callocEntries : List Nat → Bool
  callocBitmap : List Nat → Bool

/-- `from` and `to`, which have 32 bits. -/
def pdIndex (level addr : Nat) : Nat := (addr >>> vmAccumPdBitsCount level) % 2 ^ 32

/-- The indices from `from` to `to`. -/
def pdIndices (level saddr eaddr : Nat) : List Nat :=
  List.range' (pdIndex level saddr) (pdIndex level eaddr + 1 - pdIndex level saddr)

/-- `sub_saddr` and `sub_eaddr`. -/
def subAddrs (level saddr eaddr idx : Nat) : Nat × Nat :=
  let pdAddrMask := (1 <<< vmAccumPdBitsCount level) - 1
  (if idx = pdIndex level saddr then saddr &&& pdAddrMask else 0,
    if idx = pdIndex level eaddr then eaddr &&& pdAddrMask else pdAddrMask)

/-- The loop over the entries, which a fault or a status other than `S_OK` ends. -/
def visitEntries (body : PdTables → Nat → Option (PdTables × PdStatus))
    : PdTables → List Nat → Option (PdTables × PdStatus)
  | tables, [] => some (tables, .ok)
  | tables, idx :: rest =>
      match body tables idx with
      | some (tables, .ok) => visitEntries body tables rest
      | stopped => stopped

/-- The directory sets the bits of its range, unless all are set. -/
def markEntries (first last : Nat) (entry : PdEntry) : PdEntry :=
  if vmPtCheckBitmap entry.toVmPt first last then entry
  else { entry with toVmPt := vmPtUpdateBitmap first last true entry.toVmPt }

namespace PdEnvironment

variable (env : PdEnvironment)

/-- Local memory comes first, then system memory. -/
def createsBuffer (path : List Nat) : Bool :=
  env.pageTableLocalEnable && env.createSegmentMemory 1 path
    || env.pageTablePcieEnable && env.createSegmentMemory 2 path

/-- What happens to an entry without buffer. Where a call fails that comes after the creation
of the buffer, the buffer is destroyed and the pointer to it stays.
-/
def allocPdBuffer (path : List Nat) (entry : PdEntry) : PdEntry × PdStatus :=
  if entry.buffer then (entry, .ok)
  else if !env.createsBuffer path then (entry, .outOfMemory)
  else
    let created := { entry with buffer := true, destroyed := false }
    let dangling := { created with destroyed := true }
    if env.mapSegmentMemory path ≠ .ok then (dangling, env.mapSegmentMemory path)
    else if env.cpuUpdatePte && !env.lockSegmentMemory path then (dangling, .fail)
    else
      match entry.updateBitmap with
      | some _ => (created, .ok)
      | none =>
          if env.callocBitmap path then
            ({ created with updateBitmap := some fun _ => false }, .ok)
          else (dangling, .outOfMemory)

/-- The work on one entry, where `below` allocates the next level. -/
def allocPdEntry (below : PdTables → List Nat → Nat → Nat → Option (PdTables × PdStatus))
    (parent : List Nat) (saddr eaddr : Nat) (tables : PdTables) (idx : Nat)
    : Option (PdTables × PdStatus) :=
  let path := parent ++ [idx]
  let (entry, status) := env.allocPdBuffer path (tables path)
  let allocated := Function.update tables path entry
  if status = .ok then
    let sub := subAddrs parent.length saddr eaddr idx
    below allocated path sub.1 sub.2
  else some (allocated, status)

/-- `vidmm_vm_alloc_pd` for `remaining` levels of page directories. The result is `none`
where the parent has no `krnl_cpu_vma` to read `virt_addr` from.
-/
def vidmmVmAllocPd : Nat → PdTables → List Nat → Nat → Nat → Option (PdTables × PdStatus)
  | 0, tables, _, _, _ => some (tables, .ok)
  | remaining + 1, tables, parent, saddr, eaddr =>
      let level := parent.length
      if env.updatePrivateVma && !env.lockParent parent then none
      else if !(tables parent).entries && !env.callocEntries parent then
        some (tables, .outOfMemory)
      else
        let opened := { tables parent with entries := true }
        let first := pdIndex level saddr
        let last := pdIndex level eaddr
        if vmPtNumEntries level ≤ first ∨ vmPtNumEntries level ≤ last then
          some (Function.update tables parent opened, .invalidArg)
        else
          visitEntries (env.allocPdEntry (vidmmVmAllocPd remaining) parent saddr eaddr)
            (Function.update tables parent (markEntries first last opened))
            (pdIndices level saddr eaddr)

-----------------------------------------------------------------------------------------
-- Which call fails first
-----------------------------------------------------------------------------------------

/-- The call for a table fails. -/
def fails : PdCall × List Nat → Bool
  | (.lockParent, path) => !env.lockParent path
  | (.entries, path) => !env.callocEntries path
  | (.create, path) => !env.createsBuffer path
  | (.map, path) => env.mapSegmentMemory path ≠ .ok
  | (.lock, path) => !env.lockSegmentMemory path
  | (.bitmap, path) => !env.callocBitmap path

/-- The calls by which an entry gets its buffer, if it has none. -/
def entryCalls (path : List Nat) (entry : PdEntry) : List (PdCall × List Nat) :=
  if entry.buffer then []
  else
    [(.create, path), (.map, path)]
      ++ (if env.cpuUpdatePte then [(.lock, path)] else [])
      ++ (if entry.updateBitmap.isNone then [(.bitmap, path)] else [])

/-- The calls that are made when none fails, in their order. -/
def calls : Nat → PdTables → List Nat → Nat → Nat → List (PdCall × List Nat)
  | 0, _, _, _, _ => []
  | remaining + 1, tables, parent, saddr, eaddr =>
      (if env.updatePrivateVma then [(.lockParent, parent)] else [])
        ++ (if (tables parent).entries then [] else [(.entries, parent)])
        ++ (pdIndices parent.length saddr eaddr).flatMap fun idx =>
            let path := parent ++ [idx]
            let sub := subAddrs parent.length saddr eaddr idx
            env.entryCalls path (tables path) ++ calls remaining tables path sub.1 sub.2

end PdEnvironment

/-- On the way to a table, each directory has buffers for all entries of its range that come
after the one that leads there.
-/
def PdTables.Covered (tables : PdTables)
    : Nat → (parent : List Nat) → Nat → Nat → (path : List Nat) → Prop
  | 0, _, _, _, _ => True
  | remaining + 1, parent, saddr, eaddr, path =>
      ∀ idx ∈ pdIndices parent.length saddr eaddr, parent ++ [idx] <+: path
        → (∀ later ∈ pdIndices parent.length saddr eaddr, idx < later
            → (tables (parent ++ [later])).buffer)
          ∧ tables.Covered remaining (parent ++ [idx])
              (subAddrs parent.length saddr eaddr idx).1
              (subAddrs parent.length saddr eaddr idx).2 path

/-- The call that fails first, if any, is the allocation of an `entries` array after which no
entry is left without a buffer, or the lock of a parent, after which the call does not return.
-/
def PdEnvironment.FailsHarmlessly (env : PdEnvironment) (tables : PdTables) (saddr eaddr : Nat)
    : Prop :=
  ∀ call path, (env.calls 2 tables [] saddr eaddr).find? env.fails = some (call, path)
    → call = .lockParent ∨ call = .entries ∧ tables.Covered 2 [] saddr eaddr path

end Cx4Kernel.Vidmm
