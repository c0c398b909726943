import Mathlib.Algebra.GroupWithZero.Nat
import Mathlib.Algebra.Order.Group.Nat
import Mathlib.Logic.Function.Basic
import Cx4Kernel.Foundation.Transition

/-! The page tables of a private `vma_space` on CHX004: `vidmm_vm_alloc_pd`,
`vidmm_vm_update_ptes` and `vidmmi_vm_release_pt` of `vidmm_vm.c`, with allocations that
succeed. A page table goes by the indices of the entries that lead to it from the root.
-/

namespace Cx4Kernel.Vidmm

open Cx4Kernel.Foundation

-----------------------------------------------------------------------------------------
-- Levels
-----------------------------------------------------------------------------------------

/-- `vidmmi_vm_pt_bits_count`. -/
def vmPtBitsCount : Nat → Nat
  | 0 => 8
  | _ => 10

/-- `vidmmi_vm_pt_addr_mask`. -/
def vmPtAddrMask : Nat → Nat
  | 0 => 0xFF00000
  | 1 => 0xFFC00
  | _ => 0x3FF

/-- `vidmmi_vm_accum_pd_bits_count`: the bits of the levels below. -/
def vmAccumPdBitsCount (level : Nat) : Nat :=
  ((List.range' (level + 1) (2 - level)).map vmPtBitsCount).sum

/-- `GPU_PAGE_SHIFT`. -/
def vmPageShift : Nat := 12

/-- `vidmmi_vm_pt_num_entries`. -/
def vmPtNumEntries (level : Nat) : Nat := 1 <<< vmPtBitsCount level

-----------------------------------------------------------------------------------------
-- Tables
-----------------------------------------------------------------------------------------

/-- `vidmm_vm_pt_t`: whether it has a buffer and an array of entries, and its bitmap. -/
structure VmPt where
  buffer : Bool
  updateBitmap : Option (Nat → Bool)
  entries : Bool

/-- The page tables of one `vma_space`. -/
abbrev VmPtInfo : Type := List Nat → VmPt

/-- Tables with the result of an operation on them, TRUE for `S_OK`. -/
structure PtResult where
  tables : VmPtInfo
  succeeded : Bool

/-- One table is changed. -/
def VmPtInfo.change (tables : VmPtInfo) (path : List Nat) (update : VmPt → VmPt) : VmPtInfo :=
  Function.update tables path (update (tables path))

/-- `vidmmi_vm_pt_update_bitmap`. -/
def vmPtUpdateBitmap (sIdx eIdx : Nat) (value : Bool) (entry : VmPt) : VmPt :=
  { entry with
    updateBitmap := entry.updateBitmap.map fun bitmap i =>
      if sIdx ≤ i ∧ i ≤ eIdx then value else bitmap i }

/-- `vidmmi_vm_pt_check_bitmap`. -/
def vmPtCheckBitmap (entry : VmPt) (sIdx eIdx : Nat) : Bool :=
  decide (sIdx ≤ eIdx)
    && (List.range' sIdx (eIdx + 1 - sIdx)).all (entry.updateBitmap.getD fun _ => false)

/-- `zx_find_first_bit`, or `size` without a bit. -/
def zxFindFirstBit (bitmap : Nat → Bool) (size : Nat) : Nat :=
  ((List.range size).find? bitmap).getD size

-----------------------------------------------------------------------------------------
-- vidmm_vm_alloc_pd
-----------------------------------------------------------------------------------------

namespace VmPtInfo

/-- An entry without buffer gets one, and a bitmap if it has none. -/
def allocPtBuffer (entry : VmPt) : VmPt :=
  if entry.buffer then entry
  else
    { entry with
      buffer := true, updateBitmap := some (entry.updateBitmap.getD fun _ => false) }

/-- `vidmm_vm_alloc_pd` for `remaining` levels of page directories. An address range that is
too large for the directory is refused.
-/
def vidmmVmAllocPd : Nat → VmPtInfo → List Nat → Nat → Nat → VmPtInfo
  | 0, tables, _, _, _ => tables
  | remaining + 1, tables, parent, saddr, eaddr =>
      let level := parent.length
      let pdAddrShift := vmAccumPdBitsCount level
      let opened := tables.change parent ({ · with entries := true })
      let first := saddr >>> pdAddrShift
      let last := eaddr >>> pdAddrShift
      if vmPtNumEntries level ≤ first ∨ vmPtNumEntries level ≤ last then opened
      else
        let marked :=
          if vmPtCheckBitmap (opened parent) first last then opened
          else opened.change parent (vmPtUpdateBitmap first last true)
        (List.range' first (last + 1 - first)).foldl
          (fun tables idx =>
            let subSaddr := if idx = first then saddr &&& (1 <<< pdAddrShift) - 1 else 0
            let subEaddr :=
              if idx = last then eaddr &&& (1 <<< pdAddrShift) - 1
              else (1 <<< pdAddrShift) - 1
            vidmmVmAllocPd remaining (tables.change (parent ++ [idx]) allocPtBuffer)
              (parent ++ [idx]) subSaddr subEaddr)
          marked

/-- The root refuses a range, with `E_INVALIDARG`. The levels below get parts of a range that
fit.
-/
def refusedByRoot (saddr eaddr : Nat) : Bool :=
  vmPtNumEntries 0 ≤ saddr >>> vmAccumPdBitsCount 0
    ∨ vmPtNumEntries 0 ≤ eaddr >>> vmAccumPdBitsCount 0

-----------------------------------------------------------------------------------------
-- vidmm_vm_update_ptes and vidmmi_vm_release_pt
-----------------------------------------------------------------------------------------

/-- The loop of `vidmmi_vm_get_pt_entry`, down to a table without entries. -/
def walkEntries (tables : VmPtInfo) (startAddr : Nat) : Nat → List Nat → Option (List Nat)
  | 0, path => some path
  | remaining + 1, path =>
      let level := path.length
      if (tables path).entries then
        if (tables path).buffer then
          let idx := (startAddr &&& vmPtAddrMask level) >>> vmAccumPdBitsCount level
          walkEntries tables startAddr remaining (path ++ [idx])
        else none
      else some path

/-- `vidmmi_vm_get_pt_entry`: the table must be on level 2. -/
def vidmmiVmGetPtEntry (tables : VmPtInfo) (startAddr : Nat) : Option (List Nat) :=
  (walkEntries tables startAddr 3 []).filter fun path => path.length = 2

/-- `nptes` of both loops: up to the end of the range, or of the page table. The mask is an
`unsigned int`.
-/
def numPtes (sAddr eAddr : Nat) : Nat :=
  let addrMask := vmPtNumEntries 2 - 1
  if sAddr &&& (0xFFFFFFFF - addrMask) = eAddr &&& (0xFFFFFFFF - addrMask) then
    eAddr - sAddr + 1
  else vmPtNumEntries 2 - (sAddr &&& addrMask)

/-- The loop of `vidmm_vm_update_ptes`, which takes at most `rounds` rounds. -/
def vidmmVmUpdatePtes (endAddr : Nat) : Nat → VmPtInfo → Nat → PtResult
  | 0, tables, startAddr => ⟨tables, decide (endAddr ≤ startAddr)⟩
  | rounds + 1, tables, startAddr =>
      if startAddr < endAddr then
        let sAddr := startAddr >>> vmPageShift
        let nptes := numPtes sAddr (endAddr >>> vmPageShift)
        let pteOffset := sAddr &&& (vmPtNumEntries 2 - 1)
        match vidmmiVmGetPtEntry tables sAddr with
        | some path =>
            if (tables path).buffer then
              vidmmVmUpdatePtes endAddr rounds
                (tables.change path
                  (vmPtUpdateBitmap pteOffset (pteOffset + nptes - 1) true))
                ((sAddr + nptes) <<< vmPageShift)
            else ⟨tables, false⟩
        | none => ⟨tables, false⟩
      else ⟨tables, true⟩

/-- The body of the loop of `vidmmi_vm_release_pt` for a table that has a buffer: clear the
bits, and destroy the table if no bit is left.
-/
def releasePtEntry (tables : VmPtInfo) (path : List Nat) (sAddr nptes : Nat) : VmPtInfo :=
  let pteOffset := sAddr &&& (vmPtNumEntries 2 - 1)
  let cleared :=
    tables.change path (vmPtUpdateBitmap pteOffset (pteOffset + nptes - 1) false)
  let bitmap := (cleared path).updateBitmap.getD fun _ => false
  if zxFindFirstBit bitmap (vmPtNumEntries 2) < vmPtNumEntries 2 then cleared
  else
    let parentPteOffset := (sAddr >>> vmAccumPdBitsCount 1) &&& (vmPtNumEntries 1 - 1)
    let destroyed := cleared.change path ({ · with buffer := false, updateBitmap := none })
    destroyed.change path.dropLast (vmPtUpdateBitmap parentPteOffset parentPteOffset false)

/-- The loop of `vidmmi_vm_release_pt`, which takes at most `rounds` rounds. -/
def vidmmiVmReleasePt (endAddr : Nat) : Nat → VmPtInfo → Nat → VmPtInfo
  | 0, tables, _ => tables
  | rounds + 1, tables, startAddr =>
      if startAddr < endAddr then
        let sAddr := startAddr >>> vmPageShift
        let nptes := numPtes sAddr (endAddr >>> vmPageShift)
        let released :=
          match vidmmiVmGetPtEntry tables sAddr with
          | some path =>
              if (tables path).buffer then releasePtEntry tables path sAddr nptes else tables
          | none => tables
        vidmmiVmReleasePt endAddr rounds released ((sAddr + nptes) <<< vmPageShift)
      else tables

end VmPtInfo

-----------------------------------------------------------------------------------------
-- Nodes
-----------------------------------------------------------------------------------------

/-- A `vm_node` by its pages. The zone hands out addresses of at most 40 bits. -/
structure PageRange where
  first : Nat
  last : Nat
  first_le : first ≤ last
  last_lt : last < 2 ^ 28
deriving DecidableEq

namespace PageRange

/-- The address of the node. -/
def startAddr (range : PageRange) : Nat := range.first <<< vmPageShift

/-- The address of its last byte. -/
def endAddr (range : PageRange) : Nat := (range.last + 1) <<< vmPageShift - 1

/-- More than the rounds that a loop over the node can take. -/
def rounds (range : PageRange) : Nat := range.last + 1 - range.first

/-- Two nodes share no page. -/
def Apart (range other : PageRange) : Prop := range.last < other.first ∨ other.last < range.first

instance (range other : PageRange) : Decidable (range.Apart other) :=
  inferInstanceAs (Decidable (_ ∨ _))

end PageRange

/-- A mapping of a node: `vidmm_vm_alloc_pd`, then `vidmm_vm_update_ptes` unless that
failed.
-/
def VmPtInfo.mapNode (tables : VmPtInfo) (range : PageRange) : PtResult :=
  let saddr := range.startAddr >>> vmPageShift
  let eaddr := range.endAddr >>> vmPageShift
  let allocated := vidmmVmAllocPd 2 tables [] saddr eaddr
  if refusedByRoot saddr eaddr then ⟨allocated, false⟩
  else vidmmVmUpdatePtes range.endAddr range.rounds allocated range.startAddr

/-- An unmapping of a node. -/
def VmPtInfo.unmapNode (tables : VmPtInfo) (range : PageRange) : VmPtInfo :=
  vidmmiVmReleasePt range.endAddr range.rounds tables range.startAddr

/-- The page tables with the nodes that are mapped. -/
structure MapState where
  tables : VmPtInfo
  mapped : List PageRange

/-- A node is mapped or unmapped. -/
inductive MapAction where
  | map (range : PageRange)
  | unmap (range : PageRange)

namespace MapState

/-- The zone hands out nodes that share no pages. -/
def Handed (state : MapState) (range : PageRange) : Prop :=
  range ∈ state.mapped ∨ ∀ other ∈ state.mapped, range.Apart other

instance (state : MapState) (range : PageRange) : Decidable (state.Handed range) :=
  inferInstanceAs (Decidable (_ ∨ _))

/-- One step. A node may be mapped again, and unmapped without having been mapped. -/
def next (state : MapState) : MapAction → Option MapState
  | .map range =>
      if state.Handed range then
        some ⟨(state.tables.mapNode range).tables,
          if range ∈ state.mapped then state.mapped else range :: state.mapped⟩
      else none
  | .unmap range =>
      if state.Handed range then
        some ⟨state.tables.unmapNode range, state.mapped.erase range⟩
      else none

/-- The tables after `vidmm_vm_init_vma_space`: a root without entries. -/
def start : MapState where
  tables path := if path = [] then ⟨true, some fun _ => false, false⟩ else ⟨false, none, false⟩
  mapped := []

/-- The system of one `vma_space`. -/
def system : System MapState MapAction := System.ofFunction (· = start) next

end MapState

end Cx4Kernel.Vidmm
