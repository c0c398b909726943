import Mathlib.Logic.Function.Basic
import Cx4Kernel.Vidmm.Backing

/-! Writing page table entries, `vidmm_update_ptes_e3k` and the loop of
`vidmm_vm_update_ptes` that drives it.
-/

namespace Cx4Kernel.Vidmm

-----------------------------------------------------------------------------------------
-- Dirty ranges
-----------------------------------------------------------------------------------------

/-- `gart_dirty_t`. -/
structure GartDirty where
  dirtyAddr : U64
  dirtyMask : U64
  dirty : Bool
deriving DecidableEq

/-- Add the range that differs from `startVa` in the bits of `mask`. The level-1 and level-2
branches of `vidmm_update_ptes_e3k` and the end of `vidmm_map_shared_buffer_e3k` do this to
the range they maintain.
-/
def GartDirty.add (range : GartDirty) (startVa mask : U64) : GartDirty :=
  if range.dirty then
    let dirtyMask := range.dirtyMask ||| mask ||| (range.dirtyAddr ^^^ (startVa &&& ~~~mask))
    { dirtyMask := dirtyMask, dirtyAddr := range.dirtyAddr &&& ~~~dirtyMask, dirty := true }
  else { dirtyMask := mask, dirtyAddr := startVa &&& ~~~mask, dirty := true }

/-- What `vidmm_vm_clear_engine_dirty_range` does to each range. -/
def GartDirty.clear (range : GartDirty) : GartDirty :=
  if range.dirty then ⟨0, 0, false⟩ else range

/-- The dirty ranges of `zx_vma_space_t`, one of each kind for every engine. -/
structure VmaSpace where
  utlbDirtys : Nat → GartDirty
  dtlbDirtys : Nat → GartDirty

/-- `vidmm_vm_clear_engine_dirty_range`. -/
def vidmmVmClearEngineDirtyRange (vmaSpace : VmaSpace) (engineIndex : Nat) : VmaSpace :=
  { utlbDirtys :=
      Function.update vmaSpace.utlbDirtys engineIndex (vmaSpace.utlbDirtys engineIndex).clear
    dtlbDirtys :=
      Function.update vmaSpace.dtlbDirtys engineIndex
        (vmaSpace.dtlbDirtys engineIndex).clear }

-----------------------------------------------------------------------------------------
-- vidmm_update_ptes_e3k
-----------------------------------------------------------------------------------------

/-- `ZX_PT_LEVEL_ROOT`, `ZX_PT_LEVEL_1` and `ZX_PT_LEVEL_2`. -/
inductive PtLevel where
  | root
  | level1
  | level2
deriving DecidableEq

/-- `vidmm_vm_update_ptes_arg_t`. -/
structure UpdatePtesArg where
  ptLevel : PtLevel
  dstPtePageVa : U64
  /-- the address of the first entry of level 2 -/
  curBufVaOnFill : U64
  bufStartVa : U64
  npte : U64
  entity : Entity
  pteOffset : U32
  entityOffset : U64

/-- `pte_count`, narrower than `npte`. -/
def UpdatePtesArg.pteCount (arg : UpdatePtesArg) : U32 := arg.npte.setWidth 32

/-- The `COPY_IMM` command that writes the words `data` to the entries from `left` to
`right` of a table.
-/
structure CopyImm where
  /-- `Base_Addr`, the address of the table without its low 8 bits -/
  baseAddr : U32
  left : U32
  right : U32
  data : List U32

/-- The command for the entries of `arg`. -/
def UpdatePtesArg.command (arg : UpdatePtesArg) (data : List U32) : CopyImm where
  baseAddr := (arg.dstPtePageVa >>> 8).setWidth 32
  left := arg.pteOffset
  right := arg.pteOffset + arg.npte.setWidth 32 - 1
  data := data

/-- `pte_pa` for the entry `i` of a directory, whose tables are stored in 4K pages. -/
def directoryPa (adapter : Adapter) (memory : SegmentMemory) (i : U32) : Option U64 :=
  match memory.backing with
  | .pages pagesMem =>
      some
        (vidschGetPteValue adapter memory.snoopingEnabled
          (pagesMem.zxGetPagePhysAddress adapter.osPageShift i))
  | .fragments nodes => nodes.head?.map fun node => node.start + (i * 4096).setWidth 64

/-- The words of the root branch. -/
def rootEntries (adapter : Adapter) (memory : SegmentMemory) (pteCount : Nat)
    : Option (List U32) :=
  (List.range pteCount).mapM fun i => do
    let ptePa ← directoryPa adapter memory (BitVec.ofNat 32 i)
    return Pte.uint
      { valid := true
        ns := !memory.security
        snoop := memory.snoopingEnabled
        segment := memory.backing.isLocal
        addr := (ptePa >>> 12).setWidth 28 }

/-- The words of the level-1 branch. -/
def level1Entries (adapter : Adapter) (memory : SegmentMemory) (pteCount : Nat)
    : Option (List U32) :=
  (List.range pteCount).mapM fun i => do
    let ptePa ← directoryPa adapter memory (BitVec.ofNat 32 i)
    return pteL2Uint (!memory.security) memory.snoopingEnabled memory.backing.isLocal
      ((ptePa >>> 12).setWidth 27)

/-- The offset the level-1 branch gives entry `i`: `i * 4 * 1024` is a 32-bit product. -/
def level1Offset (i : Nat) : U64 :=
  (BitVec.ofNat 32 i * 4 * 1024).setWidth 64 * 1024

/-- `mask` of the level-1 branch. -/
def level1Mask (bufStartVa : U64) (pteCount : Nat) : U64 :=
  (List.range pteCount).foldl
    (fun mask i => mask ||| (bufStartVa ^^^ (bufStartVa + level1Offset i))) 0

/-- The loop that looks for the fragment of page `startPageIdx`: the fragments from
`current_node` on, and `current_page` in the first of them.
-/
def skipPages (pageShift : Nat) (startPageIdx : U32)
    : List RangeNode → (totalSkipPages currentPage : U32) → Option (List RangeNode × U32)
  | nodes, totalSkipPages, currentPage =>
      if totalSkipPages < startPageIdx then
        match nodes with
        | [] => none
        | node :: rest =>
            let nodePages := node.size >>> pageShift
            let left := startPageIdx - totalSkipPages
            let thisSkip :=
              if nodePages < left.setWidth 64 then nodePages.setWidth 32 else left
            let currentPage := currentPage + thisSkip
            let totalSkipPages := totalSkipPages + thisSkip
            if currentPage.signExtend 64 = nodePages then
              skipPages pageShift startPageIdx rest totalSkipPages 0
            else if totalSkipPages < startPageIdx then none
            else some (node :: rest, currentPage)
      else some (nodes, currentPage)

/-- `pte_pa` of the next `pteCount` pages of an allocation in local memory. -/
def fragmentPas (pageShift : Nat) : (pteCount : Nat) → List RangeNode → U32 → Option (List U64)
  | 0, _, _ => some []
  | _ + 1, [], _ => none
  | pteCount + 1, node :: rest, currentPage =>
      -- `current_page << page_shift` is an `int`
      let ptePa := node.start + (currentPage <<< pageShift).signExtend 64
      let currentPage := currentPage + 1
      let later :=
        if currentPage.signExtend 64 = node.size >>> pageShift then
          fragmentPas pageShift pteCount rest 0
        else fragmentPas pageShift pteCount (node :: rest) currentPage
      later.map (ptePa :: ·)

/-- `start_page_idx`. -/
def UpdatePtesArg.startPageIdx (arg : UpdatePtesArg) (pageShift : Nat) : U32 :=
  ((arg.curBufVaOnFill - arg.bufStartVa) >>> pageShift).setWidth 32
    + (arg.entityOffset >>> pageShift).setWidth 32

/-- `page_shift` of the level-2 branch. -/
def level2PageShift (adapter : Adapter) (entity : Entity) : Nat :=
  match entity.backing with
  | .fragments _ => gpuPageShift
  | .pages _ => adapter.osPageShift

/-- `pte_pa` for the `pteCount` pages of the level-2 branch. -/
def level2Pas (pageShift : Nat) (entity : Entity) (startPageIdx : U32) (pteCount : Nat)
    : Option (List U64) :=
  match entity.backing, entity with
  | .pages pagesMem, _ =>
      some
        ((List.range pteCount).map fun i =>
          pagesMem.zxGetPagePhysAddress pageShift (BitVec.ofNat 32 i + startPageIdx))
  | .fragments nodes, .allocation _ => do
      let (nodes, currentPage) ← skipPages pageShift startPageIdx nodes 0 0
      fragmentPas pageShift pteCount nodes currentPage
  | .fragments nodes, .segmentMemory _ =>
      (List.range pteCount).mapM fun i =>
        nodes.head?.map fun node =>
          node.start + ((BitVec.ofNat 32 i + startPageIdx) <<< pageShift).setWidth 64

/-- A traversal that succeeds has one result for each element, by list induction. -/
theorem length_of_mapM {α β : Type} {f : α → Option β} {inputs : List α} {results : List β}
    (h : inputs.mapM f = some results)
    : results.length = inputs.length := by
  induction inputs generalizing results with
  | nil =>
      rw [List.mapM_nil] at h
      cases h
      rfl
  | cons input rest ih =>
      rw [List.mapM_cons] at h
      obtain ⟨result, _, h⟩ := Option.bind_eq_some_iff.mp h
      obtain ⟨results', found, h⟩ := Option.bind_eq_some_iff.mp h
      cases h
      simp [ih found]

/-- There is one address for each page, by induction on the count. -/
theorem length_fragmentPas {pageShift pteCount : Nat} {nodes : List RangeNode}
    {currentPage : U32} {pas : List U64}
    (h : fragmentPas pageShift pteCount nodes currentPage = some pas)
    : pas.length = pteCount := by
  induction pteCount generalizing nodes currentPage pas with
  | zero =>
      cases h
      rfl
  | succ pteCount ih =>
      cases nodes with
      | nil => simp [fragmentPas] at h
      | cons node rest =>
          obtain ⟨later, found, h⟩ := Option.map_eq_some_iff.mp h
          subst h
          split at found
          · simp [ih found]
          · simp [ih found]

/-- There is one address for each page, whatever backs the entity. -/
theorem length_level2Pas {pageShift pteCount : Nat} {entity : Entity} {startPageIdx : U32}
    {pas : List U64} (h : level2Pas pageShift entity startPageIdx pteCount = some pas)
    : pas.length = pteCount := by
  unfold level2Pas at h
  split at h
  · cases h
    simp
  · obtain ⟨found, _, h⟩ := Option.bind_eq_some_iff.mp h
    exact length_fragmentPas h
  · simpa using length_of_mapM h

/-- The fields of a level-2 entry that do not depend on the page. -/
def Entity.ptePrototype : Entity → Pte
  | .allocation mapped =>
      { valid := true
        ns := !mapped.secured
        snoop := mapped.supportSnoop
        segment := mapped.backing.isLocal
        addr := 0 }
  | .segmentMemory mapped =>
      { valid := true
        ns := !mapped.security
        snoop := mapped.snoopingEnabled
        segment := mapped.backing.isLocal
        addr := 0 }

/-- The word of the 4K page `j` within the page at `ptePa`. -/
def level2Entry (adapter : Adapter) (pte : Pte) (ptePa : U64) (j : Nat) : U32 :=
  let value := vidschGetPteValue adapter pte.snoop (ptePa + BitVec.ofNat 64 (j * 4096))
  { pte with addr := (value >>> 12).setWidth 28 }.uint

/-- The offset the level-2 branch gives the 4K page `j` of page `i`: `i << page_shift` is a
32-bit shift.
-/
def level2Offset (pageShift i j : Nat) : U64 :=
  (BitVec.ofNat 32 i <<< pageShift).setWidth 64 + BitVec.ofNat 64 (j * 4096)

/-- `mask` of the level-2 branch. -/
def level2Mask (pageShift : Nat) (curBufVaOnFill : U64) (pteCount : Nat) : U64 :=
  (List.range pteCount).foldl
    (fun mask i =>
      (List.range (2 ^ (pageShift - gpuPageShift))).foldl
        (fun mask j => mask ||| (curBufVaOnFill ^^^ (curBufVaOnFill + level2Offset pageShift i j)))
        mask)
    0

/-- The level-2 branch, up to the dirty range: the words written, and `mask`. -/
def level2Entries (adapter : Adapter) (arg : UpdatePtesArg) : Option (List U32 × U64) :=
  let pageShift := level2PageShift adapter arg.entity
  if pageShift < gpuPageShift then none
  else do
    let entriesPerPage := 2 ^ (pageShift - gpuPageShift)
    let pteCount := arg.pteCount.toNat / entriesPerPage
    let pas ← level2Pas pageShift arg.entity (arg.startPageIdx pageShift) pteCount
    let data := pas.flatMap fun ptePa =>
      (List.range entriesPerPage).map (level2Entry adapter arg.entity.ptePrototype ptePa)
    return (data, level2Mask pageShift arg.curBufVaOnFill pteCount)

/-- `vidmm_update_ptes_e3k`, without the cache flush that follows the command. -/
def vidmmUpdatePtesE3k (adapter : Adapter) (vmaSpace : VmaSpace) (engineIndex : Nat)
    (arg : UpdatePtesArg) : Option (VmaSpace × CopyImm) :=
  match arg.ptLevel, arg.entity with
  | .root, .segmentMemory memory => do
      let data ← rootEntries adapter memory arg.pteCount.toNat
      return (vmaSpace, arg.command data)
  | .level1, .segmentMemory memory => do
      let data ← level1Entries adapter memory arg.pteCount.toNat
      let range := (vmaSpace.utlbDirtys engineIndex).add arg.bufStartVa
        (level1Mask arg.bufStartVa arg.pteCount.toNat)
      return (
        { vmaSpace with utlbDirtys := Function.update vmaSpace.utlbDirtys engineIndex range },
        arg.command data)
  | .level2, _ => do
      let (data, mask) ← level2Entries adapter arg
      let range := (vmaSpace.dtlbDirtys engineIndex).add arg.curBufVaOnFill mask
      return (
        { vmaSpace with dtlbDirtys := Function.update vmaSpace.dtlbDirtys engineIndex range },
        arg.command data)
  -- the directories are segment memory, a `NULL` is read otherwise
  | .root, .allocation _ | .level1, .allocation _ => none

-----------------------------------------------------------------------------------------
-- vidmm_vm_update_ptes
-----------------------------------------------------------------------------------------

/-- The GPU addresses of the page table buffers, where the directories and tables exist. -/
abbrev PageTables := Nat → Option (Nat → Option U64)

/-- `vidmmi_vm_get_pt_entry`, and the buffer of the entry. -/
def vidmmiVmGetPtEntry (tables : PageTables) (startAddr : U64) : Option U64 := do
  let directory ← tables ((startAddr &&& 0xFF00000) >>> 20).toNat
  directory ((startAddr &&& 0xFFC00) >>> 10).toNat

/-- The number of entries up to the end of the range or of the table, whichever is first,
for pages and a mask of the page number within a table.
-/
def nptesInTable (mask sAddr eAddr : U64) : U32 :=
  if sAddr &&& mask = eAddr &&& mask then (eAddr - sAddr + 1).setWidth 32
  else (1024 - (sAddr &&& 1023)).setWidth 32

/-- `expect_nptes`, whose mask is the complement of an `unsigned int`. -/
def expectNptes (sAddr eAddr : U64) : U32 := nptesInTable ((~~~(1023 : U32)).setWidth 64) sAddr eAddr

/-- `real_nptes`. -/
def realNptes (sAddr eAddr : U64) : U32 := nptesInTable (~~~1023) sAddr eAddr

/-- The fixed parameters of a call of `vidmm_vm_update_ptes`. -/
structure PtesRequest where
  engineIndex : Nat
  entityOffset : U64
  /-- `vm_va`, where the range starts -/
  vmVa : U64
  endAddr : U64
  entity : Entity

/-- `update_pte_arg` for the entries of one table. -/
def PtesRequest.updatePteArg (request : PtesRequest) (pteDstVa sAddr : U64) : UpdatePtesArg where
  ptLevel := .level2
  dstPtePageVa := pteDstVa
  curBufVaOnFill := sAddr <<< 12
  bufStartVa := request.vmVa
  npte := (realNptes sAddr (request.endAddr >>> 12)).setWidth 64
  entity := request.entity
  pteOffset := (sAddr &&& 1023).setWidth 32
  entityOffset := request.entityOffset

/-- What `vidmm_vm_update_ptes` leaves behind. -/
structure PtesUpdated where
  vmaSpace : VmaSpace
  commands : List CopyImm
  /-- the result is `S_OK` -/
  succeeded : Bool

/-- `while (start_addr < end_addr)`, for at most `rounds` rounds. -/
def PtesRequest.updatePtesFrom (request : PtesRequest) (adapter : Adapter) (tables : PageTables)
    : (rounds : Nat) → (startAddr : U64) → VmaSpace → Option PtesUpdated
  | rounds, startAddr, vmaSpace =>
      if startAddr < request.endAddr then
        match rounds with
        | 0 => none
        | rounds + 1 =>
            let sAddr := startAddr >>> 12
            match vidmmiVmGetPtEntry tables sAddr with
            | none => some ⟨vmaSpace, [], false⟩
            | some pteDstVa => do
                let (vmaSpace, command) ← vidmmUpdatePtesE3k adapter vmaSpace
                  request.engineIndex (request.updatePteArg pteDstVa sAddr)
                let next := sAddr + (expectNptes sAddr (request.endAddr >>> 12)).setWidth 64
                let later ←
                  request.updatePtesFrom adapter tables rounds (next <<< 12) vmaSpace
                return { later with commands := command :: later.commands }
      else some ⟨vmaSpace, [], true⟩

/-- `vidmm_vm_update_ptes`. Each round moves on by a page at least. -/
def vidmmVmUpdatePtes (adapter : Adapter) (tables : PageTables) (vmaSpace : VmaSpace)
    (request : PtesRequest) : Option PtesUpdated :=
  let pages := (request.endAddr >>> 12).toNat + 1 - (request.vmVa >>> 12).toNat
  request.updatePtesFrom adapter tables pages request.vmVa vmaSpace

end Cx4Kernel.Vidmm
