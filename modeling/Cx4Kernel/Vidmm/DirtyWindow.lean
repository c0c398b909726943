import Cx4Kernel.Foundation.MaskWindow
import Cx4Kernel.Foundation.Transition
import Cx4Kernel.Vidmm.MapSharedBuffer

/-! The dirty ranges that TLB invalidations use cover every page table entry that was
written since the range was cleared.
-/

namespace Cx4Kernel.Vidmm

open Cx4Kernel.Foundation

-----------------------------------------------------------------------------------------
-- Dirty ranges as windows
-----------------------------------------------------------------------------------------

/-- The addresses a dirty range stands for. -/
def GartDirty.window (range : GartDirty) : MaskWindow 64 := ⟨range.dirtyAddr, range.dirtyMask⟩

/-- The range is dirty and its window contains `va`. -/
def GartDirty.Covers (range : GartDirty) (va : U64) : Prop :=
  range.dirty = true ∧ range.window.Contains va

/-- The range covers the first addresses, and the window agrees with every address of their
blocks in the bits from `shift` on.
-/
def GartDirty.CoversBlocks (range : GartDirty) (shift : Nat) (firsts : List U64) : Prop :=
  ∀ first ∈ firsts, range.Covers first
    ∧ ∀ va : U64, va >>> shift = first >>> shift → range.window.ContainsBlock shift va

/-- Covering the first addresses is enough. -/
theorem GartDirty.coversBlocks {range : GartDirty} {firsts : List U64} (shift : Nat)
    (h : ∀ first ∈ firsts, range.Covers first)
    : range.CoversBlocks shift firsts := by
  intro first member
  have covered := h first member
  exact ⟨covered, fun va same => covered.2.block same⟩

/-- Adding to a dirty range grows its window. -/
theorem GartDirty.window_add {range : GartDirty} (h : range.dirty = true) (startVa mask : U64)
    : (range.add startVa mask).window = range.window.merge startVa mask := by
  simp [GartDirty.add, h, GartDirty.window, MaskWindow.merge]

/-- Adding to a clean range starts a window. -/
theorem GartDirty.window_add_clean {range : GartDirty} (h : range.dirty = false)
    (startVa mask : U64)
    : (range.add startVa mask).window = MaskWindow.around startVa mask := by
  simp [GartDirty.add, h, GartDirty.window, MaskWindow.around]

/-- A range is dirty once something was added. -/
@[simp]
theorem GartDirty.dirty_add (range : GartDirty) (startVa mask : U64)
    : (range.add startVa mask).dirty = true := by
  unfold GartDirty.add
  split <;> rfl

/-- What a range covers stays covered. -/
theorem GartDirty.Covers.add {range : GartDirty} {va : U64} (h : range.Covers va)
    (startVa mask : U64)
    : (range.add startVa mask).Covers va := by
  refine ⟨range.dirty_add startVa mask, ?_⟩
  rw [GartDirty.window_add h.1]
  exact h.2.merge startVa mask

/-- What is added is covered, in the branch for a clean range and in the merging one. -/
theorem GartDirty.add_covers {startVa va : U64} {vas : List U64} (range : GartDirty)
    (member : va ∈ vas)
    : (range.add startVa (MaskWindow.spread startVa vas)).Covers va := by
  refine ⟨range.dirty_add startVa _, ?_⟩
  have around : (MaskWindow.around startVa (MaskWindow.spread startVa vas)).Contains va :=
    MaskWindow.around_spread_contains member
  rcases h : range.dirty with _ | _
  · rw [GartDirty.window_add_clean h]
    exact around
  · rw [GartDirty.window_add h]
    exact MaskWindow.merge_contains range.window around

-----------------------------------------------------------------------------------------
-- The masks of vidmm_update_ptes_e3k
-----------------------------------------------------------------------------------------

/-- The first address that entry `k` of an update translates. -/
def UpdatePtesArg.entryVa (arg : UpdatePtesArg) (k : Nat) : U64 :=
  match arg.ptLevel with
  | .root => arg.bufStartVa + BitVec.ofNat 64 (k * 2 ^ 32)
  | .level1 => arg.bufStartVa + BitVec.ofNat 64 (k * 2 ^ 22)
  | .level2 => arg.curBufVaOnFill + BitVec.ofNat 64 (k * 2 ^ 12)

/-- The 32-bit product does not overflow below 2^20 entries. -/
theorem level1Offset_eq {i : Nat} (small : i < 2 ^ 20)
    : level1Offset i = BitVec.ofNat 64 (i * 2 ^ 22) := by
  apply BitVec.eq_of_toNat_eq
  simp [level1Offset, BitVec.toNat_mul, BitVec.toNat_setWidth]
  omega

/-- The 32-bit shift does not overflow below 2^20 entries. -/
theorem level2Offset_eq {pageShift i j : Nat} (large : gpuPageShift ≤ pageShift)
    (small : i * 2 ^ (pageShift - gpuPageShift) + j < 2 ^ 20)
    : level2Offset pageShift i j
      = BitVec.ofNat 64 ((i * 2 ^ (pageShift - gpuPageShift) + j) * 2 ^ 12) := by
  have shifted : i * 2 ^ pageShift = i * 2 ^ (pageShift - gpuPageShift) * 2 ^ 12 := by
    rw [Nat.mul_assoc, ← Nat.pow_add, show (12 : Nat) = gpuPageShift from rfl,
      Nat.sub_add_cancel large]
  have bound : i * 2 ^ pageShift < 2 ^ 32 := by
    omega
  have low : i ≤ i * 2 ^ pageShift := Nat.le_mul_of_pos_right i (Nat.two_pow_pos _)
  have page : i % 2 ^ 32 = i := Nat.mod_eq_of_lt (by omega)
  apply BitVec.eq_of_toNat_eq
  simp only [level2Offset, BitVec.toNat_add, BitVec.toNat_setWidth, BitVec.toNat_shiftLeft,
    BitVec.toNat_ofNat, Nat.shiftLeft_eq, page, Nat.mod_eq_of_lt bound]
  omega

/-- The level-1 mask is the spread of the addresses the loop computes. -/
theorem level1Mask_eq (bufStartVa : U64) (pteCount : Nat)
    : level1Mask bufStartVa pteCount
      = MaskWindow.spread bufStartVa
          ((List.range pteCount).map fun i => bufStartVa + level1Offset i) := by
  rw [level1Mask, MaskWindow.spread, List.foldl_map]

/-- The level-2 mask is the spread of the addresses both loops compute. -/
theorem level2Mask_eq (pageShift : Nat) (curBufVaOnFill : U64) (pteCount : Nat)
    : level2Mask pageShift curBufVaOnFill pteCount
      = MaskWindow.spread curBufVaOnFill
          ((List.range pteCount).flatMap fun i =>
            (List.range (2 ^ (pageShift - gpuPageShift))).map fun j =>
              curBufVaOnFill + level2Offset pageShift i j) := by
  rw [level2Mask, MaskWindow.spread, List.foldl_flatMap]
  congr 1
  funext mask i
  rw [List.foldl_map]

-----------------------------------------------------------------------------------------
-- The entries vidmm_update_ptes_e3k writes
-----------------------------------------------------------------------------------------

/-- The level-2 branch writes whole pages of entries, and returns the mask of their
addresses.
-/
theorem level2Entries_some {adapter : Adapter} {arg : UpdatePtesArg} {data : List U32}
    {mask : U64} (h : level2Entries adapter arg = some (data, mask))
    : ∃ pageShift pteCount, gpuPageShift ≤ pageShift
      ∧ pteCount = arg.pteCount.toNat / 2 ^ (pageShift - gpuPageShift)
      ∧ data.length = pteCount * 2 ^ (pageShift - gpuPageShift)
      ∧ mask = level2Mask pageShift arg.curBufVaOnFill pteCount := by
  simp only [level2Entries] at h
  split at h
  · cases h
  · rename_i large
    obtain ⟨pas, found, h⟩ := Option.bind_eq_some_iff.mp h
    cases h
    exact ⟨_, _, Nat.le_of_not_lt large, rfl, by simp [length_level2Pas found], rfl⟩

/-- A level-1 update covers each entry it writes. -/
theorem level1_covers {arg : UpdatePtesArg} {k : Nat} (range : GartDirty)
    (level : arg.ptLevel = .level1) (written : k < arg.pteCount.toNat)
    (small : arg.pteCount.toNat ≤ 2 ^ 20)
    : (range.add arg.bufStartVa (level1Mask arg.bufStartVa arg.pteCount.toNat)).Covers
        (arg.entryVa k) := by
  rw [level1Mask_eq]
  apply range.add_covers
  rw [UpdatePtesArg.entryVa, level]
  simp only [← level1Offset_eq (Nat.lt_of_lt_of_le written small)]
  exact List.mem_map.mpr ⟨k, List.mem_range.mpr written, rfl⟩

/-- A level-2 update covers each entry it writes: entry `k` is the 4K page `k % n` of page
`k / n`, for `n` entries a page.
-/
theorem level2_covers {arg : UpdatePtesArg} {pageShift pteCount k : Nat} (range : GartDirty)
    (level : arg.ptLevel = .level2) (large : gpuPageShift ≤ pageShift)
    (written : k < pteCount * 2 ^ (pageShift - gpuPageShift)) (small : k < 2 ^ 20)
    : (range.add arg.curBufVaOnFill (level2Mask pageShift arg.curBufVaOnFill pteCount)).Covers
        (arg.entryVa k) := by
  have place : k / 2 ^ (pageShift - gpuPageShift) * 2 ^ (pageShift - gpuPageShift)
      + k % 2 ^ (pageShift - gpuPageShift) = k := Nat.div_add_mod' _ _
  have offset := level2Offset_eq large (place.symm ▸ small)
  rw [place] at offset
  rw [level2Mask_eq]
  apply range.add_covers
  rw [UpdatePtesArg.entryVa, level]
  simp only [← offset]
  refine List.mem_flatMap.mpr ⟨_, ?_, List.mem_map.mpr ⟨_, ?_, rfl⟩⟩
  · exact List.mem_range.mpr ((Nat.div_lt_iff_lt_mul (Nat.two_pow_pos _)).mpr written)
  · exact List.mem_range.mpr (Nat.mod_lt _ (Nat.two_pow_pos _))

/-- The first addresses of the entries of `level` that an update with this command wrote. -/
def UpdatePtesArg.written (arg : UpdatePtesArg) (level : PtLevel) (command : CopyImm)
    : List U64 :=
  if arg.ptLevel = level then (List.range command.data.length).map arg.entryVa else []

/-- What one dirty range per engine covers stays covered when something is added for one of
them.
-/
theorem Covers.update {ranges : Nat → GartDirty} {engine : Nat} {va : U64} (adding : Nat)
    (startVa mask : U64) (h : (ranges engine).Covers va)
    : (Function.update ranges adding ((ranges adding).add startVa mask) engine).Covers va := by
  rcases eq_or_ne engine adding with same | other
  · rw [same, Function.update_self]
    exact (same ▸ h).add startVa mask
  · rw [Function.update_of_ne other]
    exact h

/-- One call of `vidmm_update_ptes_e3k` keeps what the ranges cover and covers what it
writes, by cases on the level.
-/
theorem vidmmUpdatePtesE3k_covers {adapter : Adapter} {vmaSpace after : VmaSpace}
    {engineIndex : Nat} {arg : UpdatePtesArg} {command : CopyImm}
    (h : vidmmUpdatePtesE3k adapter vmaSpace engineIndex arg = some (after, command))
    (small : arg.pteCount.toNat ≤ 2 ^ 20)
    : (∀ engine va, (vmaSpace.utlbDirtys engine).Covers va
        → (after.utlbDirtys engine).Covers va)
      ∧ (∀ engine va, (vmaSpace.dtlbDirtys engine).Covers va
        → (after.dtlbDirtys engine).Covers va)
      ∧ (∀ va ∈ arg.written .level1 command, (after.utlbDirtys engineIndex).Covers va)
      ∧ (∀ va ∈ arg.written .level2 command, (after.dtlbDirtys engineIndex).Covers va) := by
  unfold vidmmUpdatePtesE3k at h
  split at h
  case h_1 _ _ memory level _ =>
    obtain ⟨data, _, h⟩ := Option.bind_eq_some_iff.mp h
    cases h
    simp [UpdatePtesArg.written, level]
  case h_2 _ _ memory level _ =>
    obtain ⟨data, found, h⟩ := Option.bind_eq_some_iff.mp h
    cases h
    refine ⟨fun engine va => Covers.update engineIndex _ _, fun _ _ => id, ?_, ?_⟩
    · intro va member
      rw [UpdatePtesArg.written, if_pos level] at member
      obtain ⟨k, bound, same⟩ := List.mem_map.mp member
      have written : k < arg.pteCount.toNat := by
        simpa [UpdatePtesArg.command, length_of_mapM found] using List.mem_range.mp bound
      rw [← same]
      simpa using level1_covers (vmaSpace.utlbDirtys engineIndex) level written small
    · simp [UpdatePtesArg.written, level]
  case h_3 _ _ level =>
    obtain ⟨⟨data, mask⟩, found, h⟩ := Option.bind_eq_some_iff.mp h
    cases h
    obtain ⟨pageShift, pteCount, large, count, length, rfl⟩ := level2Entries_some found
    refine ⟨fun _ _ => id, fun engine va => Covers.update engineIndex _ _, ?_, ?_⟩
    · simp [UpdatePtesArg.written, level]
    · intro va member
      rw [UpdatePtesArg.written, if_pos level] at member
      obtain ⟨k, bound, same⟩ := List.mem_map.mp member
      have written : k < pteCount * 2 ^ (pageShift - gpuPageShift) := by
        simpa [UpdatePtesArg.command, length] using List.mem_range.mp bound
      have whole : pteCount * 2 ^ (pageShift - gpuPageShift) ≤ arg.pteCount.toNat :=
        count ▸ Nat.div_mul_le_self _ _
      rw [← same]
      simpa using
        level2_covers (vmaSpace.dtlbDirtys engineIndex) level large written (by omega)
  case h_4 => cases h
  case h_5 => cases h

-----------------------------------------------------------------------------------------
-- The entries vidmm_map_shared_buffer_e3k writes
-----------------------------------------------------------------------------------------

/-- The mask is the one of the addresses written for, and each address is written at its own
place in the table.
-/
structure GartFill.Consistent (gpuVa : U64) (fill : GartFill) : Prop where
  mask : fill.mask = MaskWindow.spread gpuVa (fill.writes.map (·.va))
  pteStart : fill.pteStart = (fill.currVa >>> gpuPageShift).setWidth 32
  index : ∀ write ∈ fill.writes, write.index = (write.va >>> gpuPageShift).setWidth 32

/-- Nothing written is consistent. -/
theorem GartFill.consistent_start (gpuVa : U64) : (GartFill.start gpuVa).Consistent gpuVa where
  mask := rfl
  pteStart := rfl
  index := by simp [GartFill.start]

/-- Writing an entry moves the address and the place in the table together. -/
theorem GartFill.Consistent.put {gpuVa : U64} {fill : GartFill}
    (h : fill.Consistent gpuVa) (word : U32)
    : (fill.put gpuVa word).Consistent gpuVa where
  mask := by simp [GartFill.put, h.mask, MaskWindow.spread, List.foldl_append]
  pteStart := by
    have one : (1 : U32).toNat = 1 := rfl
    apply BitVec.eq_of_toNat_eq
    simp only [GartFill.put, h.pteStart, gpuPageShift, gpuPageSize, one, BitVec.toNat_add,
      BitVec.toNat_setWidth, BitVec.toNat_ushiftRight, Nat.shiftRight_eq_div_pow,
      BitVec.toNat_ofNat]
    omega
  index := by
    intro write member
    rcases List.mem_append.mp member with earlier | new
    · exact h.index write earlier
    · rw [List.mem_singleton.mp new]
      exact h.pteStart

/-- Writing several entries, by list induction. -/
theorem GartFill.Consistent.puts {gpuVa : U64} {fill : GartFill}
    (h : fill.Consistent gpuVa) (words : List U32)
    : (words.foldl (GartFill.put gpuVa) fill).Consistent gpuVa := by
  induction words generalizing fill with
  | nil => exact h
  | cons word rest ih =>
      rw [List.foldl_cons]
      exact ih (h.put word)

/-- Filling from fragments is consistent, by induction on them. -/
theorem fillLocal_consistent {gpuVa size : U64} {nodes : List RangeNode} {rangeOffset : U32}
    {fill filled : GartFill} (h : fill.Consistent gpuVa)
    (ran : fillLocal gpuVa nodes rangeOffset size fill = some filled)
    : filled.Consistent gpuVa := by
  induction nodes generalizing rangeOffset size fill with
  | nil =>
      unfold fillLocal at ran
      split at ran
      · cases ran
        exact h
      · cases ran
  | cons node rest ih =>
      unfold fillLocal at ran
      split at ran
      · cases ran
        exact h
      · exact ih (h.puts _) ran

/-- What the callback keeps, the iteration over all entries keeps, by list induction. -/
theorem OsPagesMemory.forEachFrom_keeps {Arg : Type} {property : Arg → Prop}
    {memory : OsPagesMemory} {pageShift : Nat}
    {callback : Arg → U32 → U32 → U64 → Option Arg}
    (kept : ∀ arg pageStart pageCnt dmaAddr after, property arg
      → callback arg pageStart pageCnt dmaAddr = some after → property after)
    (sgl : List Scatterlist) {pageStart : U32} {arg : Arg} (h : property arg)
    : property (memory.forEachFrom pageShift callback sgl pageStart arg) := by
  induction sgl generalizing pageStart arg with
  | nil => exact h
  | cons sg rest ih =>
      simp only [OsPagesMemory.forEachFrom]
      split
      · exact h
      · rename_i after taken
        exact ih (kept _ _ _ _ after h taken)

/-- The entries the callback writes keep the fill consistent. -/
theorem vidmmiFillGartPcieE3k_consistent {adapter : Adapter} {arg : FillGartArg}
    {fill after : GartFill} {pageStart pageCnt : U32} {dmaAddr : U64}
    (h : fill.Consistent arg.gpuVa)
    (taken : vidmmiFillGartPcieE3k adapter arg fill pageStart pageCnt dmaAddr = some after)
    : after.Consistent arg.gpuVa := by
  simp only [vidmmiFillGartPcieE3k] at taken
  split at taken
  · cases taken
    exact h
  · split at taken
    · cases taken
    · cases taken
      exact h.puts _

/-- Filling from system pages is consistent. -/
theorem fillPcie_consistent (adapter : Adapter) (pagesMem : OsPagesMemory) (snoop : Bool)
    (offset size gpuVa : U64)
    : (vidmmiMapSharedBufferPcieE3k adapter pagesMem snoop offset size gpuVa).Consistent
        gpuVa := by
  refine OsPagesMemory.forEachFrom_keeps ?_ pagesMem.sgl (GartFill.consistent_start gpuVa)
  intro fill pageStart pageCnt dmaAddr after h taken
  exact vidmmiFillGartPcieE3k_consistent h taken

/-- Filling the table for an entity is consistent, by cases on its memory. -/
theorem fillGart_consistent {adapter : Adapter} {entity : Entity} {off size gpuVa : U64}
    {fill : GartFill} (h : fillGart adapter entity off size gpuVa = some fill)
    : fill.Consistent gpuVa := by
  unfold fillGart at h
  split at h
  · split at h
    · exact fillLocal_consistent (GartFill.consistent_start gpuVa) h
    · cases h
      exact fillPcie_consistent adapter _ _ off size gpuVa
  · split at h
    · cases h
      exact GartFill.consistent_start gpuVa
    · cases h
      exact fillPcie_consistent adapter _ _ off size gpuVa

/-- One call of `vidmm_map_shared_buffer_e3k` keeps what the range covers and covers the
addresses it writes entries for.
-/
theorem vidmmMapSharedBufferE3k_covers {adapter : Adapter} {range after : GartDirty}
    {entity : Entity} {off size gpuVa : U64} {writes : List GartWrite}
    (h : vidmmMapSharedBufferE3k adapter range entity off size gpuVa = some (after, writes))
    : (∀ va, range.Covers va → after.Covers va)
      ∧ ∀ va ∈ writes.map (·.va), after.Covers va := by
  simp only [vidmmMapSharedBufferE3k] at h
  split at h
  · cases h
    simp
  · split at h
    · cases h
      simp
    · split at h
      · obtain ⟨fill, filled, h⟩ := Option.bind_eq_some_iff.mp h
        cases h
        rw [(fillGart_consistent filled).mask]
        exact ⟨fun va covered => covered.add gpuVa _, fun va member => range.add_covers member⟩
      · cases h

-----------------------------------------------------------------------------------------
-- Every order of updates and invalidations
-----------------------------------------------------------------------------------------

/-- The dirty ranges, and the first addresses of the entries written since each of them was
cleared.
-/
structure DirtyState where
  vmaSpace : VmaSpace
  gartDirty : GartDirty
  /-- level-1 entries, by the engine they were written for -/
  pdes : Nat → List U64
  /-- level-2 entries, by the engine they were written for -/
  ptes : Nat → List U64
  /-- entries of the shared table -/
  gartPtes : List U64

/-- The calls that write entries, and those that clear a dirty range. -/
inductive DirtyAction where
  | updatePtes (engineIndex : Nat) (arg : UpdatePtesArg)
  | clearEngineDirtyRange (engineIndex : Nat)
  | mapSharedBuffer (entity : Entity) (off size gpuVa : U64)
  /-- the invalidation of the shared table -/
  | invalidateGart

namespace DirtyState

/-- One call. -/
def next (adapter : Adapter) (state : DirtyState) : DirtyAction → Option DirtyState
  | .updatePtes engineIndex arg => do
      let (vmaSpace, command) ←
        vidmmUpdatePtesE3k adapter state.vmaSpace engineIndex arg
      let pdes := state.pdes engineIndex ++ arg.written .level1 command
      let ptes := state.ptes engineIndex ++ arg.written .level2 command
      return { state with
        vmaSpace := vmaSpace
        pdes := Function.update state.pdes engineIndex pdes
        ptes := Function.update state.ptes engineIndex ptes }
  | .clearEngineDirtyRange engineIndex =>
      some { state with
        vmaSpace := vidmmVmClearEngineDirtyRange state.vmaSpace engineIndex
        pdes := Function.update state.pdes engineIndex []
        ptes := Function.update state.ptes engineIndex [] }
  | .mapSharedBuffer entity off size gpuVa => do
      let (gartDirty, writes) ←
        vidmmMapSharedBufferE3k adapter state.gartDirty entity off size gpuVa
      return { state with
        gartDirty := gartDirty
        gartPtes := state.gartPtes ++ writes.map (·.va) }
  | .invalidateGart => some { state with gartDirty := state.gartDirty.clear, gartPtes := [] }

/-- All orders of these calls, from any contents of the dirty ranges. -/
def system (adapter : Adapter) : System DirtyState DirtyAction :=
  System.ofFunction
    (fun state => (∀ engine, state.pdes engine = [] ∧ state.ptes engine = [])
      ∧ state.gartPtes = [])
    (next adapter)

/-- An update writes at most 2^20 entries, so that the 32-bit offsets in the masks are
exact. The callers write at most a table of 2^10.
-/
def SmallUpdates (_ : DirtyState) : DirtyAction → Prop
  | .updatePtes _ arg => arg.pteCount.toNat ≤ 2 ^ 20
  | _ => True

instance (state : DirtyState) : ∀ action, Decidable (SmallUpdates state action)
  | .updatePtes _ _ => inferInstanceAs (Decidable (_ ≤ _))
  | .clearEngineDirtyRange _ | .mapSharedBuffer _ _ _ _ | .invalidateGart => .isTrue trivial

/-- Every range covers the entries written since it was cleared. -/
structure Covered (state : DirtyState) : Prop where
  utlb : ∀ engine, ∀ va ∈ state.pdes engine, (state.vmaSpace.utlbDirtys engine).Covers va
  dtlb : ∀ engine, ∀ va ∈ state.ptes engine, (state.vmaSpace.dtlbDirtys engine).Covers va
  gart : ∀ va ∈ state.gartPtes, state.gartDirty.Covers va

variable {adapter : Adapter} {before after : DirtyState}

/-- Adding entries for one engine keeps every engine's entries covered. -/
theorem covered_update {ranges ranges' : Nat → GartDirty} {entries : Nat → List U64}
    {adding : Nat} {added : List U64}
    (old : ∀ engine, ∀ va ∈ entries engine, (ranges engine).Covers va)
    (keeps : ∀ engine va, (ranges engine).Covers va → (ranges' engine).Covers va)
    (new : ∀ va ∈ added, (ranges' adding).Covers va)
    : ∀ engine, ∀ va ∈ Function.update entries adding (entries adding ++ added) engine,
        (ranges' engine).Covers va := by
  intro engine va member
  rcases eq_or_ne engine adding with same | other
  · rw [same, Function.update_self] at member
    rw [same]
    rcases List.mem_append.mp member with earlier | later
    · exact keeps adding va (old adding va earlier)
    · exact new va later
  · rw [Function.update_of_ne other] at member
    exact keeps engine va (old engine va member)

/-- Clearing the range of one engine keeps the other engines' entries covered. -/
theorem covered_clear {ranges : Nat → GartDirty} {entries : Nat → List U64} {range : GartDirty}
    (clearing : Nat) (old : ∀ engine, ∀ va ∈ entries engine, (ranges engine).Covers va)
    : ∀ engine, ∀ va ∈ Function.update entries clearing [] engine,
        (Function.update ranges clearing range engine).Covers va := by
  intro engine va member
  rcases eq_or_ne engine clearing with same | other
  · simp [same] at member
  · rw [Function.update_of_ne other] at member ⊢
    exact old engine va member

/-- One call keeps everything covered, by cases on the call. -/
theorem Covered.next {action : DirtyAction} (h : before.Covered)
    (small : SmallUpdates before action) (taken : before.next adapter action = some after)
    : after.Covered := by
  cases action with
  | updatePtes engineIndex arg =>
      obtain ⟨⟨vmaSpace, command⟩, ran, taken⟩ := Option.bind_eq_some_iff.mp taken
      cases taken
      obtain ⟨keepsUtlb, keepsDtlb, pdes, ptes⟩ := vidmmUpdatePtesE3k_covers ran small
      exact ⟨covered_update h.utlb keepsUtlb pdes, covered_update h.dtlb keepsDtlb ptes,
        h.gart⟩
  | clearEngineDirtyRange engineIndex =>
      cases taken
      exact ⟨covered_clear engineIndex h.utlb, covered_clear engineIndex h.dtlb, h.gart⟩
  | mapSharedBuffer entity off size gpuVa =>
      obtain ⟨⟨gartDirty, writes⟩, ran, taken⟩ := Option.bind_eq_some_iff.mp taken
      cases taken
      refine ⟨h.utlb, h.dtlb, ?_⟩
      intro va member
      rcases List.mem_append.mp member with earlier | later
      · exact (vidmmMapSharedBufferE3k_covers ran).1 va (h.gart va earlier)
      · exact (vidmmMapSharedBufferE3k_covers ran).2 va later
  | invalidateGart =>
      cases taken
      exact ⟨h.utlb, h.dtlb, by simp⟩

/-- In every order of calls, each range covers the entries written since it was cleared: it
is dirty, its window contains their first addresses, and agrees with every address they
translate in the bits that select the entry.
-/
theorem dirtyRanges_cover {state : DirtyState}
    (reached : (system adapter).ReachableUnder SmallUpdates state)
    : (∀ engine,
        (state.vmaSpace.utlbDirtys engine).CoversBlocks 22 (state.pdes engine)
          ∧ (state.vmaSpace.dtlbDirtys engine).CoversBlocks 12 (state.ptes engine))
      ∧ state.gartDirty.CoversBlocks 12 state.gartPtes := by
  have covered : state.Covered := by
    apply reached.invariant
    · intro first begins
      obtain ⟨none, noGart⟩ := begins
      exact ⟨by simp [none], by simp [none], by simp [noGart]⟩
    · intro before action after h small taken
      exact h.next small taken
  refine ⟨fun engine => ⟨?_, ?_⟩, ?_⟩
  · exact GartDirty.coversBlocks 22 (covered.utlb engine)
  · exact GartDirty.coversBlocks 12 (covered.dtlb engine)
  · exact GartDirty.coversBlocks 12 covered.gart

/-- An adapter whose shared space has 4 GiB behind 1 GiB of local memory. -/
def exampleAdapter : Adapter where
  osPageShift := 12
  nonsnoopPatchEnable := false
  lowTopAddress := 0xc0000000
  shareSpaceCoverLocal := true
  sharedGpuVaOffset := 0
  sharedGpuVaSize := 0x140000000
  totalLocalMemorySize := 0x40000000

/-- Nothing is written, and the dirty ranges are clear. -/
def clearState : DirtyState where
  vmaSpace := ⟨fun _ => ⟨0, 0, false⟩, fun _ => ⟨0, 0, false⟩⟩
  gartDirty := ⟨0, 0, false⟩
  pdes _ := []
  ptes _ := []
  gartPtes := []

/-- One fragment of local memory. -/
def fragment : Backing := .fragments [⟨0x200000, 0x10000⟩]

/-- An update of `npte` entries of an allocation, from `va` on. -/
def updateAt (va npte : U64) : UpdatePtesArg where
  ptLevel := .level2
  dstPtePageVa := 0x100000
  curBufVaOnFill := va
  bufStartVa := va
  npte := npte
  entity := .allocation ⟨false, false, fragment⟩
  pteOffset := 0
  entityOffset := 0

/-- An update of `npte` directory entries, from `va` on. -/
def updatePdesAt (va npte : U64) : UpdatePtesArg :=
  { updateAt va npte with
    ptLevel := .level1
    entity := .segmentMemory ⟨false, false, false, fragment⟩ }

/-- Two updates for one engine and one of the shared table. -/
def threeActions : List DirtyAction :=
  [.updatePtes 0 (updateAt 0x1000 2), .updatePtes 0 (updateAt 0x5000 1),
    .mapSharedBuffer (.allocation ⟨false, false, fragment⟩) 0 0x2000 0x40000000]

/-- The state after them. -/
def threeUpdates : Option DirtyState :=
  System.replay (next exampleAdapter) clearState threeActions

/-- These updates are small. -/
theorem threeUpdates_small
    : System.Permits SmallUpdates (next exampleAdapter) clearState threeActions := by
  decide

/-- All these calls succeed. -/
theorem threeUpdates_isSome : threeUpdates.isSome := by decide

/-- The addresses of both updates are covered, though they differ in several bits. -/
theorem dirtyRanges_cover_threeUpdates
    : ((threeUpdates.get threeUpdates_isSome).vmaSpace.dtlbDirtys 0).CoversBlocks 12
        [0x1000, 0x2000, 0x5000]
      ∧ (threeUpdates.get threeUpdates_isSome).gartDirty.CoversBlocks 12
          [0x40000000, 0x40001000] := by
  have reached : (system exampleAdapter).ReachableUnder SmallUpdates
      (threeUpdates.get threeUpdates_isSome) :=
    .replay _ ⟨fun _ => ⟨rfl, rfl⟩, rfl⟩ threeUpdates_small
      (Option.some_get threeUpdates_isSome).symm
  exact ⟨((dirtyRanges_cover reached).1 0).2, (dirtyRanges_cover reached).2⟩

/-- A directory in local memory gets as many entries as it should. -/
theorem level1Entries_fragment (pteCount : Nat)
    : ∃ data, level1Entries exampleAdapter ⟨false, false, false, fragment⟩ pteCount = some data
      ∧ data.length = pteCount := by
  refine ⟨_, List.mapM_pure, ?_⟩
  simp

/-- The offsets of the level-1 mask stay below 2^42, since they are scaled from 32 bits. -/
theorem level1Mask_bit (pteCount : Nat) : (level1Mask 0 pteCount).getLsbD 42 = false := by
  rw [level1Mask_eq, MaskWindow.getLsbD_spread, List.any_eq_false]
  intro va member
  obtain ⟨i, _, same⟩ := List.mem_map.mp member
  have low : (level1Offset i).toNat < 2 ^ 42 := by
    simp [level1Offset, BitVec.toNat_mul, BitVec.toNat_setWidth]
    omega
  have unset : (level1Offset i).getLsbD 42 = false := Nat.testBit_lt_two_pow low
  have difference : (0 : U64) ^^^ (0 + level1Offset i) = level1Offset i := by simp
  rw [← same, difference, unset]
  exact Bool.false_ne_true

/-- So the window they give from 0 on does not contain 2^42. -/
theorem level1Mask_misses (pteCount : Nat)
    : ¬ (MaskWindow.around 0 (level1Mask 0 pteCount)).Contains (BitVec.twoPow 64 42) := by
  intro contained
  have bit := (MaskWindow.contains_iff _ _).mp contained 42 (by decide)
  rw [MaskWindow.around, level1Mask_bit, BitVec.getLsbD_and] at bit
  exact absurd bit (by simp)

/-- What the first level-1 update of a directory in local memory leaves behind. -/
theorem next_level1 {arg : UpdatePtesArg} (level : arg.ptLevel = .level1)
    (entity : arg.entity = .segmentMemory ⟨false, false, false, fragment⟩)
    : ∃ after, clearState.next exampleAdapter (.updatePtes 0 arg) = some after
        ∧ after.pdes 0 = (List.range arg.pteCount.toNat).map arg.entryVa
        ∧ after.vmaSpace.utlbDirtys 0
          = GartDirty.add ⟨0, 0, false⟩ arg.bufStartVa
              (level1Mask arg.bufStartVa arg.pteCount.toNat) := by
  obtain ⟨data, found, length⟩ := level1Entries_fragment arg.pteCount.toNat
  simp [next, vidmmUpdatePtesE3k, level, entity, found, UpdatePtesArg.written,
    UpdatePtesArg.command, length, clearState]

/-- More directory entries than 32-bit offsets are exact for. -/
def manyPdes : UpdatePtesArg := updatePdesAt 0 0x100001

/-- The last of them is the one for 2^42. -/
theorem manyPdes_last
    : BitVec.twoPow 64 42 ∈ (List.range manyPdes.pteCount.toNat).map manyPdes.entryVa :=
  List.mem_map.mpr ⟨2 ^ 20, List.mem_range.mpr (by decide), by decide⟩

/-- An address inside a page that was written is not covered exactly, and from 2^20 + 1
entries on not even the first address of each entry is.
-/
theorem dirtyRanges_miss
    : (¬ ∀ state, (system exampleAdapter).ReachableUnder SmallUpdates state
        → ∀ engine, ∀ first ∈ state.ptes engine, ∀ va : U64, va >>> 12 = first >>> 12
          → (state.vmaSpace.dtlbDirtys engine).Covers va)
      ∧ ¬ ∀ state, (system exampleAdapter).Reachable state
        → ∀ engine, ∀ first ∈ state.pdes engine,
          (state.vmaSpace.utlbDirtys engine).Covers first := by
  constructor
  · intro claim
    have reached : (system exampleAdapter).ReachableUnder SmallUpdates
        (threeUpdates.get threeUpdates_isSome) :=
      .replay _ ⟨fun _ => ⟨rfl, rfl⟩, rfl⟩ threeUpdates_small
        (Option.some_get threeUpdates_isSome).symm
    have missed := (claim _ reached 0 0x1000 (by decide) 0x1001 (by decide)).2
    exact absurd missed (by decide)
  · intro claim
    obtain ⟨after, taken, written, range⟩ := @next_level1 manyPdes rfl rfl
    have reached : (system exampleAdapter).Reachable after :=
      .next (.start ⟨fun _ => ⟨rfl, rfl⟩, rfl⟩) trivial taken
    have contained := (claim after reached 0 _ (written ▸ manyPdes_last)).2
    rw [range, GartDirty.window_add_clean rfl] at contained
    exact level1Mask_misses _ contained

end DirtyState

end Cx4Kernel.Vidmm
