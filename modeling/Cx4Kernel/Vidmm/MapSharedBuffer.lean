import Cx4Kernel.Vidmm.UpdatePtes

/-! Filling the level-3 table of the shared address space, `vidmm_map_shared_buffer_e3k`. -/

namespace Cx4Kernel.Vidmm

/-- One write to the shared level-3 table, made for the page at `va`. -/
structure GartWrite where
  va : U64
  index : U32
  word : U32

/-- The loop variables of both ways to fill the table, and the writes so far. -/
structure GartFill where
  currVa : U64
  pteStart : U32
  mask : U64
  writes : List GartWrite

namespace GartFill

/-- Nothing is written yet. -/
def start (gpuVa : U64) : GartFill where
  currVa := gpuVa
  pteStart := (gpuVa >>> gpuPageShift).setWidth 32
  mask := 0
  writes := []

/-- The body of the inner loops: write one entry. -/
def put (gpuVa : U64) (fill : GartFill) (word : U32) : GartFill where
  currVa := fill.currVa + BitVec.ofNat 64 gpuPageSize
  pteStart := fill.pteStart + 1
  mask := fill.mask ||| (gpuVa ^^^ fill.currVa)
  writes := fill.writes ++ [⟨fill.currVa, fill.pteStart, word⟩]

end GartFill

-----------------------------------------------------------------------------------------
-- Local memory
-----------------------------------------------------------------------------------------

/-- Skip the fragments that end at or before `offset`: the fragments left, and `skip_size`. -/
def skipFragments (offset : U64) : List RangeNode → (skipSize : U64) → List RangeNode × U64
  | [], skipSize => ([], skipSize)
  | node :: rest, skipSize =>
      if skipSize + node.size ≤ offset then skipFragments offset rest (skipSize + node.size)
      else (node :: rest, skipSize)

/-- The words of the pages from `ptePa` on, `i * GPU_PAGE_SIZE` being an `int`. -/
def localGartWords (ptePa : U64) (pages : Nat) : List U32 :=
  (List.range pages).map fun i =>
    let value := ptePa + (BitVec.ofNat 32 i * BitVec.ofNat 32 gpuPageSize).signExtend 64
    Pte.uint
      { valid := true
        ns := true
        snoop := false
        segment := true
        addr := (value >>> 12).setWidth 28 }

/-- `while (size > 0)`. -/
def fillLocal (gpuVa : U64)
    : List RangeNode → (rangeOffset : U32) → (size : U64) → GartFill → Option GartFill
  | nodes, rangeOffset, size, fill =>
      if size = 0 then some fill
      else
        match nodes with
        | [] => none
        | node :: rest =>
            let ptePa := node.start + rangeOffset.setWidth 64
            let left := node.size - rangeOffset.setWidth 64
            let rangeSize := if left < size then left else size
            let words := localGartWords ptePa (rangeSize >>> gpuPageShift).toNat
            fillLocal gpuVa rest 0 (size - rangeSize) (words.foldl (GartFill.put gpuVa) fill)

/-- `vidmmi_map_shared_buffer_local_e3k`. -/
def vidmmiMapSharedBufferLocalE3k (nodes : List RangeNode) (offset size gpuVa : U64)
    : Option GartFill :=
  let (nodes, skipSize) := skipFragments offset nodes 0
  fillLocal gpuVa nodes ((offset - skipSize).setWidth 32) size (GartFill.start gpuVa)

-----------------------------------------------------------------------------------------
-- System memory
-----------------------------------------------------------------------------------------

/-- The fields of `struct fill_gart_arg` that `vidmmi_fill_gart_pcie_e3k` only reads. -/
structure FillGartArg where
  gpuVa : U64
  snoop : Bool
  start : U32
  endPage : U32

/-- The word of the GPU page `i` of an entry that starts at `gpuStart` and `dmaAddr`. -/
def pcieGartWord (adapter : Adapter) (snoop : Bool) (gpuStart : U32) (dmaAddr : U64)
    (i : U32) : U32 :=
  let dmaAddr := dmaAddr + ((i - gpuStart) <<< gpuPageShift).setWidth 64
  Pte.uint
    { valid := true
      ns := true
      snoop := snoop
      segment := false
      addr := (vidschGetPteValue adapter snoop dmaAddr >>> 12).setWidth 28 }

/-- `vidmmi_fill_gart_pcie_e3k`, with `none` for the result that ends the iteration. -/
def vidmmiFillGartPcieE3k (adapter : Adapter) (arg : FillGartArg) (fill : GartFill)
    (pageStart pageCnt : U32) (dmaAddr : U64) : Option GartFill :=
  let shift := adapter.osPageShift - gpuPageShift
  let gpuStart := pageStart <<< shift
  let gpuEnd := (pageStart + pageCnt) <<< shift
  if gpuEnd.sle arg.start then some fill
  else if arg.endPage.sle gpuStart then none
  else
    let first := if arg.start.slt gpuStart then gpuStart else arg.start
    let last := if gpuEnd.slt arg.endPage then gpuEnd else arg.endPage
    let words := (List.range' first.toNat (last.toNat - first.toNat)).map fun i =>
      pcieGartWord adapter arg.snoop gpuStart dmaAddr (BitVec.ofNat 32 i)
    some (words.foldl (GartFill.put arg.gpuVa) fill)

/-- `vidmmi_map_shared_buffer_pcie_e3k`. -/
def vidmmiMapSharedBufferPcieE3k (adapter : Adapter) (pagesMem : OsPagesMemory) (snoop : Bool)
    (offset size gpuVa : U64) : GartFill :=
  let arg : FillGartArg :=
    { gpuVa := gpuVa
      snoop := snoop
      start := (offset >>> gpuPageShift).setWidth 32
      endPage := ((offset + size) >>> gpuPageShift).setWidth 32 }
  pagesMem.zxPagesMemoryForEachContinues adapter.osPageShift (GartFill.start gpuVa)
    (vidmmiFillGartPcieE3k adapter arg)

-----------------------------------------------------------------------------------------
-- vidmm_map_shared_buffer_e3k
-----------------------------------------------------------------------------------------

/-- What is filled for an entity. Local segment memory is mapped nowhere but in the direct
map.
-/
def fillGart (adapter : Adapter) (entity : Entity) (off size gpuVa : U64) : Option GartFill :=
  match entity with
  | .allocation mapped =>
      match mapped.backing with
      | .fragments nodes => vidmmiMapSharedBufferLocalE3k nodes off size gpuVa
      | .pages pagesMem =>
          some
            (vidmmiMapSharedBufferPcieE3k adapter pagesMem mapped.supportSnoop off size gpuVa)
  | .segmentMemory mapped =>
      match mapped.backing with
      | .fragments _ => some (GartFill.start gpuVa)
      | .pages pagesMem =>
          some
            (vidmmiMapSharedBufferPcieE3k adapter pagesMem mapped.supportSnoop off size gpuVa)

/-- `vidmm_map_shared_buffer_e3k`: the new `gart_dirty`, and what is written. -/
def vidmmMapSharedBufferE3k (adapter : Adapter) (gartDirty : GartDirty) (entity : Entity)
    (off size gpuVa : U64) : Option (GartDirty × List GartWrite) :=
  let directEnd := adapter.sharedGpuVaOffset + adapter.totalLocalMemorySize
  if !adapter.shareSpaceCoverLocal then some (gartDirty, [])
  else if adapter.sharedGpuVaOffset ≤ gpuVa ∧ gpuVa < directEnd then
    some (gartDirty, [])
  else if adapter.totalLocalMemorySize ≤ gpuVa ∧ gpuVa ≤ adapter.sharedGpuVaSize then do
    let fill ← fillGart adapter entity off size gpuVa
    return (gartDirty.add gpuVa fill.mask, fill.writes)
  else none

end Cx4Kernel.Vidmm
