import Cx4Kernel.Foundation.Blocks
import Cx4Kernel.Vidmm.DirtyWindow

/-! What `vidmmi_map_shared_buffer_pcie_e3k` writes: one entry for each page of the window, with
the frame that lies there in the list of runs, as long as the page numbers of the list are
positive as `int`.
-/

namespace Cx4Kernel.Vidmm

open Cx4Kernel.Foundation

/-- The GPU pages of a run. -/
def OsPagesMemory.gpuPages (memory : OsPagesMemory) (osPageShift : Nat) (sg : Scatterlist)
    : Nat :=
  (memory.pageCnt osPageShift sg).toNat * 2 ^ (osPageShift - gpuPageShift)

/-- The bytes of a run, which are whole pages. -/
def OsPagesMemory.runBytes (memory : OsPagesMemory) (osPageShift : Nat) (sg : Scatterlist)
    : Nat :=
  (memory.pageCnt osPageShift sg).toNat * 2 ^ osPageShift

/-- The word for a physical address. -/
def gartWord (adapter : Adapter) (snoop : Bool) (phyAddr : U64) : U32 :=
  Pte.uint
    { valid := true
      ns := true
      snoop := snoop
      segment := false
      addr := (vidschGetPteValue adapter snoop phyAddr >>> 12).setWidth 28 }

-----------------------------------------------------------------------------------------
-- Runs
-----------------------------------------------------------------------------------------

/-- Rounding up to whole pages keeps to 32 bits, and so does a run in GPU pages. -/
theorem OsPagesMemory.gpuPages_le (memory : OsPagesMemory) {osPageShift : Nat}
    (shift : gpuPageShift ≤ osPageShift) (sg : Scatterlist)
    : memory.gpuPages osPageShift sg < 2 ^ 20 := by
  have power : 2 ^ osPageShift = 2 ^ (osPageShift - gpuPageShift) * 2 ^ 12 := by
    rw [← Nat.pow_add, show (12 : Nat) = gpuPageShift from rfl, Nat.sub_add_cancel shift]
  have bytes : (memory.pageCnt osPageShift sg).toNat * 2 ^ osPageShift < 2 ^ 32 := by
    rw [pageCnt, BitVec.toNat_ushiftRight, Nat.shiftRight_eq_div_pow]
    exact Nat.lt_of_le_of_lt (Nat.div_mul_le_self _ _) (BitVec.isLt _)
  rw [power, ← Nat.mul_assoc] at bytes
  unfold gpuPages
  omega

/-- A run has 4096 bytes for each GPU page. -/
theorem OsPagesMemory.runBytes_eq (memory : OsPagesMemory) {osPageShift : Nat}
    (shift : gpuPageShift ≤ osPageShift) (sg : Scatterlist)
    : memory.runBytes osPageShift sg = 4096 * memory.gpuPages osPageShift sg := by
  have power : 2 ^ osPageShift = 2 ^ (osPageShift - gpuPageShift) * 4096 := by
    rw [show 4096 = 2 ^ gpuPageShift from rfl, ← Nat.pow_add, Nat.sub_add_cancel shift]
  unfold runBytes gpuPages
  rw [power, ← Nat.mul_assoc, Nat.mul_comm]

-----------------------------------------------------------------------------------------
-- The callback
-----------------------------------------------------------------------------------------

/-- A shift that stays in 32 bits multiplies. -/
theorem toNat_shiftLeft_of_lt {x : U32} {shift : Nat} (small : x.toNat * 2 ^ shift < 2 ^ 32)
    : (x <<< shift).toNat = x.toNat * 2 ^ shift := by
  rw [BitVec.toNat_shiftLeft, Nat.shiftLeft_eq]
  exact Nat.mod_eq_of_lt small

/-- The comparison of numbers that are positive as `int`. -/
theorem sle_iff_of_lt {x y : U32} (left : x.toNat < 2 ^ 31) (right : y.toNat < 2 ^ 31)
    : x.sle y ↔ x.toNat ≤ y.toNat := by
  rw [BitVec.sle_iff_toInt_le, BitVec.toInt_eq_toNat_of_lt (by omega),
    BitVec.toInt_eq_toNat_of_lt (by omega)]
  omega

/-- The strict comparison of numbers that are positive as `int`. -/
theorem slt_iff_of_lt {x y : U32} (left : x.toNat < 2 ^ 31) (right : y.toNat < 2 ^ 31)
    : x.slt y ↔ x.toNat < y.toNat := by
  rw [BitVec.slt_iff_toInt_lt, BitVec.toInt_eq_toNat_of_lt (by omega),
    BitVec.toInt_eq_toNat_of_lt (by omega)]
  omega

/-- The word of a page of a run. -/
theorem pcieGartWord_eq (adapter : Adapter) (snoop : Bool) {gpuStart : U32} (dmaAddr : U64)
    {i : Nat} (behind : gpuStart.toNat ≤ i) (near : i - gpuStart.toNat < 2 ^ 20)
    (small : i < 2 ^ 32)
    : pcieGartWord adapter snoop gpuStart dmaAddr (BitVec.ofNat 32 i)
      = gartWord adapter snoop (dmaAddr + BitVec.ofNat 64 (4096 * (i - gpuStart.toNat))) := by
  have offset : ((BitVec.ofNat 32 i - gpuStart) <<< gpuPageShift).setWidth 64
      = BitVec.ofNat 64 (4096 * (i - gpuStart.toNat)) := by
    have pages : (BitVec.ofNat 32 i - gpuStart).toNat = i - gpuStart.toNat := by
      rw [BitVec.toNat_sub, BitVec.toNat_ofNat]
      omega
    apply BitVec.eq_of_toNat_eq
    rw [BitVec.toNat_setWidth, toNat_shiftLeft_of_lt (by rw [pages, gpuPageShift]; omega), pages,
      BitVec.toNat_ofNat, gpuPageShift]
    omega
  rw [pcieGartWord, offset]
  rfl

/-- What the callback does with a run of pages from `base` on: it skips one that lies before
the window, ends the iteration at one behind it, and else writes what lies in the window.
-/
theorem vidmmiFillGartPcieE3k_run (adapter : Adapter) (arg : FillGartArg) (fill : GartFill)
    {pageStart pageCnt : U32} (dmaAddr : U64) {base count : Nat}
    (from' : pageStart.toNat * 2 ^ (adapter.osPageShift - gpuPageShift) = base)
    (pages : pageCnt.toNat * 2 ^ (adapter.osPageShift - gpuPageShift) = count)
    (few : count < 2 ^ 20) (small : base + count < 2 ^ 31) (start : arg.start.toNat < 2 ^ 31)
    (finish : arg.endPage.toNat < 2 ^ 31)
    : vidmmiFillGartPcieE3k adapter arg fill pageStart pageCnt dmaAddr
      = if base + count ≤ arg.start.toNat then some fill
        else if arg.endPage.toNat ≤ base then none
        else
          some (((Blocks.clip base count arg.start.toNat arg.endPage.toNat).map fun i =>
            gartWord adapter arg.snoop (dmaAddr + BitVec.ofNat 64 (4096 * (i - base)))).foldl
              (GartFill.put arg.gpuVa) fill) := by
  have gpuStart : (pageStart <<< (adapter.osPageShift - gpuPageShift)).toNat = base := by
    rw [toNat_shiftLeft_of_lt (by omega), from']
  have gpuEnd : ((pageStart + pageCnt) <<< (adapter.osPageShift - gpuPageShift)).toNat
      = base + count := by
    have product : (pageStart.toNat + pageCnt.toNat) * 2 ^ (adapter.osPageShift - gpuPageShift)
        = base + count := by
      rw [Nat.add_mul, from', pages]
    have below := Nat.le_mul_of_pos_right (pageStart.toNat + pageCnt.toNat)
      (Nat.two_pow_pos (adapter.osPageShift - gpuPageShift))
    have sum : (pageStart + pageCnt).toNat = pageStart.toNat + pageCnt.toNat := by
      rw [BitVec.toNat_add]
      omega
    rw [toNat_shiftLeft_of_lt (by rw [sum]; omega), sum, product]
  unfold vidmmiFillGartPcieE3k
  dsimp only
  generalize pageStart <<< (adapter.osPageShift - gpuPageShift) = first at gpuStart ⊢
  generalize (pageStart + pageCnt) <<< (adapter.osPageShift - gpuPageShift) = last at gpuEnd ⊢
  have before := @sle_iff_of_lt last arg.start (by omega) start
  have behind := @sle_iff_of_lt arg.endPage first finish (by omega)
  have startFirst := @slt_iff_of_lt arg.start first start (by omega)
  have lastEnd := @slt_iff_of_lt last arg.endPage (by omega) finish
  by_cases skip : base + count ≤ arg.start.toNat
  · rw [if_pos skip, if_pos (before.mpr (by omega))]
  · rw [if_neg skip, if_neg (mt before.mp (by omega))]
    by_cases ends : arg.endPage.toNat ≤ base
    · rw [if_pos ends, if_pos (behind.mpr (by omega))]
    · rw [if_neg ends, if_neg (mt behind.mp (by omega))]
      have lower : (if arg.start.slt first then first else arg.start).toNat
          = max base arg.start.toNat := by
        split
        next less =>
          have order := startFirst.mp less
          omega
        next more =>
          have order := mt startFirst.mpr more
          omega
      have upper : (if last.slt arg.endPage then last else arg.endPage).toNat
          = min (base + count) arg.endPage.toNat := by
        split
        next less =>
          have order := lastEnd.mp less
          omega
        next more =>
          have order := mt lastEnd.mpr more
          omega
      rw [lower, upper]
      refine congrArg
        (fun (words : List U32) => some (words.foldl (GartFill.put arg.gpuVa) fill)) ?_
      apply List.map_congr_left
      intro i member
      have inside := Blocks.mem_clip.mp member
      rw [pcieGartWord_eq adapter arg.snoop dmaAddr (by omega) (by omega) (by omega), gpuStart]

-----------------------------------------------------------------------------------------
-- The iteration
-----------------------------------------------------------------------------------------

/-- The word of a page of the list, where its first page is numbered `base`. -/
def OsPagesMemory.pageWord (memory : OsPagesMemory) (adapter : Adapter) (snoop : Bool)
    (sgl : List Scatterlist) (base page : Nat) : U32 :=
  (Blocks.locate (memory.gpuPages adapter.osPageShift) sgl (page - base)).elim 0 fun found =>
    gartWord adapter snoop (memory.address found.1 + BitVec.ofNat 64 (4096 * found.2))

/-- The iteration writes the pages of the list that lie in the window. By induction on the
runs: the head writes its share, or all of them lie behind the window.
-/
theorem OsPagesMemory.forEachFrom_window (memory : OsPagesMemory) (adapter : Adapter)
    (arg : FillGartArg) (shift : gpuPageShift ≤ adapter.osPageShift)
    (start : arg.start.toNat < 2 ^ 31) (finish : arg.endPage.toNat < 2 ^ 31)
    (sgl : List Scatterlist) {pageStart : U32} {base : Nat} (fill : GartFill)
    (from' : pageStart.toNat * 2 ^ (adapter.osPageShift - gpuPageShift) = base)
    (small : base + Blocks.total (memory.gpuPages adapter.osPageShift) sgl < 2 ^ 31)
    : memory.forEachFrom adapter.osPageShift (vidmmiFillGartPcieE3k adapter arg) sgl pageStart
        fill
      = ((Blocks.clip base (Blocks.total (memory.gpuPages adapter.osPageShift) sgl)
            arg.start.toNat arg.endPage.toNat).map
          (memory.pageWord adapter arg.snoop sgl base)).foldl (GartFill.put arg.gpuVa) fill := by
  induction sgl generalizing pageStart base fill with
  | nil =>
      have empty : Blocks.clip base 0 arg.start.toNat arg.endPage.toNat = [] := by
        unfold Blocks.clip
        rw [show min (base + 0) arg.endPage.toNat - max base arg.start.toNat = 0 by omega]
        rfl
      rw [Blocks.total_nil, empty]
      rfl
  | cons sg rest ih =>
      have few := memory.gpuPages_le shift sg
      have head : ∀ page, base ≤ page → page < base + memory.gpuPages adapter.osPageShift sg
          → memory.pageWord adapter arg.snoop (sg :: rest) base page
            = gartWord adapter arg.snoop
              (memory.address sg + BitVec.ofNat 64 (4096 * (page - base))) := by
        intro page behind inside
        rw [pageWord, Blocks.locate_head (by omega)]
        rfl
      have tail : ∀ page, base + memory.gpuPages adapter.osPageShift sg ≤ page
          → memory.pageWord adapter arg.snoop (sg :: rest) base page
            = memory.pageWord adapter arg.snoop rest
              (base + memory.gpuPages adapter.osPageShift sg) page := by
        intro page behind
        have place : page - base = memory.gpuPages adapter.osPageShift sg
            + (page - (base + memory.gpuPages adapter.osPageShift sg)) := by omega
        rw [pageWord, place, Blocks.locate_tail]
        rfl
      have pages : (memory.pageCnt adapter.osPageShift sg).toNat
          * 2 ^ (adapter.osPageShift - gpuPageShift) = memory.gpuPages adapter.osPageShift sg := rfl
      rw [Blocks.total_cons] at small ⊢
      generalize memory.gpuPages adapter.osPageShift sg = count at few head tail pages small ⊢
      have next : (pageStart + memory.pageCnt adapter.osPageShift sg).toNat
          * 2 ^ (adapter.osPageShift - gpuPageShift) = base + count := by
        have product : (pageStart.toNat + (memory.pageCnt adapter.osPageShift sg).toNat)
            * 2 ^ (adapter.osPageShift - gpuPageShift) = base + count := by
          rw [Nat.add_mul, from', pages]
        have below := Nat.le_mul_of_pos_right
          (pageStart.toNat + (memory.pageCnt adapter.osPageShift sg).toNat)
          (Nat.two_pow_pos (adapter.osPageShift - gpuPageShift))
        rw [BitVec.toNat_add, Nat.mod_eq_of_lt (by omega), product]
      have later := fun fill => ih fill next (by omega)
      have front := List.map_congr_left
        fun page (member : page ∈ Blocks.clip base count arg.start.toNat arg.endPage.toNat) =>
          head page (Blocks.mem_clip.mp member).1.1 (Blocks.mem_clip.mp member).1.2
      have back := List.map_congr_left
        fun page (member : page ∈ Blocks.clip (base + count)
            (Blocks.total (memory.gpuPages adapter.osPageShift) rest) arg.start.toNat
            arg.endPage.toNat) =>
          tail page (Blocks.mem_clip.mp member).1.1
      rw [← Blocks.clip_append, List.map_append, List.foldl_append, front, back, ← later,
        OsPagesMemory.forEachFrom, vidmmiFillGartPcieE3k_run adapter arg fill (memory.address sg)
          from' pages few (by omega) start finish]
      by_cases skip : base + count ≤ arg.start.toNat
      · rw [if_pos skip, Blocks.clip_before skip]
        rfl
      · by_cases ends : arg.endPage.toNat ≤ base
        · rw [if_neg skip, if_pos ends, later, Blocks.clip_behind ends,
            Blocks.clip_behind (Nat.le_trans ends (Nat.le_add_right _ _))]
          rfl
        · rw [if_neg skip, if_neg ends]

-----------------------------------------------------------------------------------------
-- The writes
-----------------------------------------------------------------------------------------

/-- Writing words moves the address and the place on by one for each. By list induction. -/
theorem GartFill.writes_puts (gpuVa : U64) (words : List U32) (fill : GartFill)
    : (words.foldl (GartFill.put gpuVa) fill).writes
      = fill.writes ++ words.mapIdx fun k word =>
          ⟨fill.currVa + BitVec.ofNat 64 (4096 * k), fill.pteStart + BitVec.ofNat 32 k, word⟩ := by
  induction words generalizing fill with
  | nil => rw [List.mapIdx_nil, List.append_nil, List.foldl_nil]
  | cons word rest ih =>
      have va : ∀ k, fill.currVa + BitVec.ofNat 64 4096 + BitVec.ofNat 64 (4096 * k)
          = fill.currVa + BitVec.ofNat 64 (4096 * (k + 1)) := by
        intro k
        rw [BitVec.add_assoc, ← BitVec.ofNat_add, Nat.mul_add_one, Nat.add_comm 4096]
      have place : ∀ k, fill.pteStart + 1 + BitVec.ofNat 32 k
          = fill.pteStart + BitVec.ofNat 32 (k + 1) := by
        intro k
        rw [BitVec.add_assoc, Nat.add_comm k, BitVec.ofNat_add]
        rfl
      rw [List.foldl_cons, ih, List.mapIdx_cons]
      change fill.writes ++ [_] ++ List.mapIdx (fun k word => GartWrite.mk
          (fill.currVa + BitVec.ofNat 64 4096 + BitVec.ofNat 64 (4096 * k))
          (fill.pteStart + 1 + BitVec.ofNat 32 k) word) rest = _
      simp only [va, place, List.append_assoc, List.singleton_append, Nat.mul_zero,
        BitVec.add_zero]

/-- The fill writes an entry for each page of the window of `size` bytes from `offset` on, and
its mask frees the bits in which their addresses differ.
-/
structure GartFill.Maps (fill : GartFill) (adapter : Adapter) (pagesMem : OsPagesMemory)
    (snoop : Bool) (offset size gpuVa : U64) : Prop where
  count : fill.writes.length = size.toNat / 4096
  write : ∀ k < size.toNat / 4096, ∃ sg byte,
    Blocks.locate (pagesMem.runBytes adapter.osPageShift) pagesMem.sgl (offset.toNat + 4096 * k)
        = some (sg, byte)
      ∧ fill.writes[k]?
        = some
            { va := gpuVa + BitVec.ofNat 64 (4096 * k)
              index := (gpuVa >>> gpuPageShift).setWidth 32 + BitVec.ofNat 32 k
              word := gartWord adapter snoop (pagesMem.address sg + BitVec.ofNat 64 byte) }
  mask : ∀ k < size.toNat / 4096,
    (gpuVa + BitVec.ofNat 64 (4096 * k)) &&& ~~~fill.mask = gpuVa &&& ~~~fill.mask

/-- The writes for a window in a list of fewer than 2^31 GPU pages. -/
theorem pcieFill_writes (adapter : Adapter) (pagesMem : OsPagesMemory) (snoop : Bool)
    {offset size : U64} (gpuVa : U64) (shift : gpuPageShift ≤ adapter.osPageShift)
    (offsetAligned : offset.toNat % 4096 = 0) (sizeAligned : size.toNat % 4096 = 0)
    (inside : offset.toNat / 4096 + size.toNat / 4096
      ≤ Blocks.total (pagesMem.gpuPages adapter.osPageShift) pagesMem.sgl)
    (small : Blocks.total (pagesMem.gpuPages adapter.osPageShift) pagesMem.sgl < 2 ^ 31)
    : (vidmmiMapSharedBufferPcieE3k adapter pagesMem snoop offset size gpuVa).writes
      = (List.range (size.toNat / 4096)).map fun k =>
          { va := gpuVa + BitVec.ofNat 64 (4096 * k)
            index := (gpuVa >>> gpuPageShift).setWidth 32 + BitVec.ofNat 32 k
            word := pagesMem.pageWord adapter snoop pagesMem.sgl 0
              (offset.toNat / 4096 + k) } := by
  have start : ((offset >>> gpuPageShift).setWidth 32).toNat = offset.toNat / 4096 := by
    rw [BitVec.toNat_setWidth, BitVec.toNat_ushiftRight, Nat.shiftRight_eq_div_pow, gpuPageShift]
    omega
  have finish : (((offset + size) >>> gpuPageShift).setWidth 32).toNat
      = offset.toNat / 4096 + size.toNat / 4096 := by
    rw [BitVec.toNat_setWidth, BitVec.toNat_ushiftRight, Nat.shiftRight_eq_div_pow, gpuPageShift,
      BitVec.toNat_add]
    omega
  have ran := pagesMem.forEachFrom_window adapter
    { gpuVa := gpuVa
      snoop := snoop
      start := (offset >>> gpuPageShift).setWidth 32
      endPage := ((offset + size) >>> gpuPageShift).setWidth 32 }
    shift (by rw [start]; omega) (by rw [finish]; omega) pagesMem.sgl (GartFill.start gpuVa)
    (show (0 : U32).toNat * 2 ^ (adapter.osPageShift - gpuPageShift) = 0 from Nat.zero_mul _)
    (by rw [Nat.zero_add]; exact small)
  have window : Blocks.clip 0
        (Blocks.total (pagesMem.gpuPages adapter.osPageShift) pagesMem.sgl)
        (offset.toNat / 4096) (offset.toNat / 4096 + size.toNat / 4096)
      = (List.range (size.toNat / 4096)).map (offset.toNat / 4096 + ·) := by
    rw [← List.range'_eq_map_range]
    unfold Blocks.clip
    congr 1
    omega
  rw [start, finish, window, List.map_map] at ran
  have written := congrArg GartFill.writes ran
  rw [GartFill.writes_puts] at written
  refine written.trans ?_
  apply List.ext_getElem?
  intro k
  simp only [GartFill.start, List.nil_append, List.getElem?_mapIdx, List.getElem?_map,
    Option.map_map]
  rcases Nat.lt_or_ge k (size.toNat / 4096) with below | beyond
  · rw [List.getElem?_range below]
    rfl
  · rw [List.getElem?_eq_none (by rw [List.length_range]; exact beyond)]
    rfl

/-- A list of fewer than 2^31 GPU pages is mapped exactly, at every window in it. -/
theorem pcieFill_maps (adapter : Adapter) (pagesMem : OsPagesMemory) (snoop : Bool)
    (offset size gpuVa : U64) (shift : gpuPageShift ≤ adapter.osPageShift)
    (offsetAligned : offset.toNat % 4096 = 0) (sizeAligned : size.toNat % 4096 = 0)
    (inside : offset.toNat + size.toNat
      ≤ Blocks.total (pagesMem.runBytes adapter.osPageShift) pagesMem.sgl)
    (small : Blocks.total (pagesMem.runBytes adapter.osPageShift) pagesMem.sgl < 2 ^ 43)
    : (vidmmiMapSharedBufferPcieE3k adapter pagesMem snoop offset size gpuVa).Maps adapter
        pagesMem snoop offset size gpuVa := by
  have whole : ∀ sg ∈ pagesMem.sgl, pagesMem.runBytes adapter.osPageShift sg
      = 4096 * pagesMem.gpuPages adapter.osPageShift sg :=
    fun sg _ => pagesMem.runBytes_eq shift sg
  rw [Blocks.total_mul whole] at inside small
  have writes := pcieFill_writes adapter pagesMem snoop gpuVa shift offsetAligned sizeAligned
    (by omega) (by omega)
  refine ⟨?_, fun k below => ?_, fun k below => ?_⟩
  · rw [writes, List.length_map, List.length_range]
  · obtain ⟨sg, page, found⟩ := @Blocks.locate_of_lt_total _
      (pagesMem.gpuPages adapter.osPageShift) pagesMem.sgl (offset.toNat / 4096 + k) (by omega)
    have position : offset.toNat + 4096 * k = 4096 * (offset.toNat / 4096 + k) + 0 := by omega
    refine ⟨sg, 4096 * page, ?_, ?_⟩
    · rw [position, Blocks.locate_mul_add whole (by decide), found]
      rfl
    · rw [writes, List.getElem?_map, List.getElem?_range below, Option.map_some,
        OsPagesMemory.pageWord, Nat.sub_zero, found]
      rfl
  · have consistent := fillPcie_consistent adapter pagesMem snoop offset size gpuVa
    rw [consistent.mask, writes, List.map_map]
    refine MaskWindow.around_spread_contains (List.mem_map.mpr ?_)
    exact ⟨k, List.mem_range.mpr below, rfl⟩

/-- An adapter with OS pages of 64 KiB. -/
def largePages : Adapter where
  osPageShift := 16
  nonsnoopPatchEnable := false
  lowTopAddress := 0
  shareSpaceCoverLocal := true
  sharedGpuVaOffset := 0
  sharedGpuVaSize := 0x80000000
  totalLocalMemorySize := 0x40000000

/-- A run without a DMA mapping. -/
def runAt (phys : U64) (length : U32) : Scatterlist where
  offset := 0
  length := length
  phys := phys
  dmaLen := 0
  dmaAddress := 0

/-- The last page of a run and the first one of the next. -/
theorem twoRuns_maps
    : (vidmmiMapSharedBufferPcieE3k largePages
        ⟨[runAt 0x10000000 0x20000, runAt 0x50000000 0x10000], false⟩ true 0x1f000 0x2000
        0x40000000).Maps largePages
        ⟨[runAt 0x10000000 0x20000, runAt 0x50000000 0x10000], false⟩ true 0x1f000 0x2000
        0x40000000 :=
  pcieFill_maps _ _ _ _ _ _ (by decide) (by decide) (by decide) (by decide) (by decide)

/-- An adapter with OS pages of 4 KiB. -/
def smallPages : Adapter :=
  { largePages with osPageShift := 12 }

/-- Runs of 2 GiB up to 8 TiB. -/
def eightTebibytes : OsPagesMemory where
  sgl := List.replicate 4096 (runAt 0 0x80000000)
  hasDmaMap := false

/-- The window is the first page of the last run. -/
def lastRun : FillGartArg where
  gpuVa := 0x40000000
  snoop := true
  start := 0x7ff80000
  endPage := 0x7ff80001

/-- Each run is skipped: the ones before the last end where the window starts or before, and
the last ends at a page number that is negative as `int`.
-/
theorem eightTebibytes_skipped (fill : GartFill) {run : Nat} (bound : run < 4096)
    : vidmmiFillGartPcieE3k smallPages lastRun fill (BitVec.ofNat 32 (run * 524288)) 524288 0
      = some fill := by
  rcases Nat.lt_succ_iff_lt_or_eq.mp bound with before | rfl
  · have number : (BitVec.ofNat 32 (run * 524288)).toNat * 2 ^ (12 - 12) = run * 524288 := by
      rw [BitVec.toNat_ofNat, Nat.sub_self, Nat.pow_zero, Nat.mul_one]
      omega
    rw [vidmmiFillGartPcieE3k_run smallPages lastRun fill 0 number
      (show (524288 : U32).toNat * 2 ^ (12 - 12) = 524288 from rfl) (by decide) (by omega)
      (by decide) (by decide)]
    refine if_pos ?_
    change run * 524288 + 524288 ≤ 2146959360
    omega
  · rfl

/-- So the iteration writes nothing. By induction on the runs that are left. -/
theorem eightTebibytes_unmapped (fill : GartFill) {run left : Nat} (all : run + left = 4096)
    : eightTebibytes.forEachFrom 12 (vidmmiFillGartPcieE3k smallPages lastRun)
        (List.replicate left (runAt 0 0x80000000)) (BitVec.ofNat 32 (run * 524288)) fill
      = fill := by
  induction left generalizing run with
  | zero => rfl
  | succ left ih =>
      have count : eightTebibytes.pageCnt 12 (runAt 0 0x80000000) = 524288 := by decide
      have address : eightTebibytes.address (runAt 0 0x80000000) = 0 := rfl
      have next : BitVec.ofNat 32 (run * 524288) + 524288
          = BitVec.ofNat 32 ((run + 1) * 524288) := by
        rw [Nat.add_one_mul, BitVec.ofNat_add]
        rfl
      rw [List.replicate_succ, OsPagesMemory.forEachFrom, count, address,
        eightTebibytes_skipped fill (by omega), next]
      exact ih (by omega)

/-- A window at the end of 8 TiB is not mapped. -/
theorem eightTebibytes_not_maps
    : (vidmmiMapSharedBufferPcieE3k smallPages eightTebibytes true 0x7ff80000000 0x1000
          0x40000000).writes = []
      ∧ ¬ ∀ (adapter : Adapter) (pagesMem : OsPagesMemory) (snoop : Bool)
        (offset size gpuVa : U64), gpuPageShift ≤ adapter.osPageShift
        → offset.toNat % 4096 = 0 → size.toNat % 4096 = 0
        → offset.toNat + size.toNat
          ≤ Blocks.total (pagesMem.runBytes adapter.osPageShift) pagesMem.sgl
        → (vidmmiMapSharedBufferPcieE3k adapter pagesMem snoop offset size gpuVa).Maps adapter
          pagesMem snoop offset size gpuVa := by
  have unmapped : vidmmiMapSharedBufferPcieE3k smallPages eightTebibytes true 0x7ff80000000
      0x1000 0x40000000 = GartFill.start 0x40000000 := by
    have window : FillGartArg.mk 0x40000000 true
        (((0x7ff80000000 : U64) >>> gpuPageShift).setWidth 32)
        (((0x7ff80000000 + 0x1000 : U64) >>> gpuPageShift).setWidth 32) = lastRun := rfl
    have runs : eightTebibytes.sgl = List.replicate 4096 (runAt 0 0x80000000) := rfl
    rw [vidmmiMapSharedBufferPcieE3k, window, OsPagesMemory.zxPagesMemoryForEachContinues, runs]
    exact @eightTebibytes_unmapped (GartFill.start 0x40000000) 0 4096 rfl
  have nothing := congrArg GartFill.writes unmapped
  refine ⟨nothing, fun claim => ?_⟩
  have inside : Blocks.total (eightTebibytes.runBytes 12) eightTebibytes.sgl = 2 ^ 43 := by
    unfold eightTebibytes
    rw [Blocks.total_replicate]
    rfl
  have maps := claim smallPages eightTebibytes true 0x7ff80000000 0x1000 0x40000000 (by decide)
    (by decide) (by decide) (by
      change _ ≤ Blocks.total (eightTebibytes.runBytes 12) _
      rw [inside]
      decide)
  have one := maps.count
  rw [nothing] at one
  exact absurd one (by decide)

end Cx4Kernel.Vidmm
