import Cx4Kernel.Vidmm.PageDirectory
import Cx4Kernel.Vidmm.PageTablesLive

/-! Where `vidmmi_vm_get_pt_entry` leads after `vidmm_vm_alloc_pd` has succeeded. -/

namespace Cx4Kernel.Vidmm

-----------------------------------------------------------------------------------------
-- A call that succeeds
-----------------------------------------------------------------------------------------

theorem plain_update (tables : PdTables) (path : List Nat) (entry : PdEntry)
    : PdTables.plain (Function.update tables path entry)
      = Function.update tables.plain path entry.toVmPt := by
  funext other
  by_cases here : other = path
  · subst here
    simp only [PdTables.plain, Function.update_self]
  · simp only [PdTables.plain, Function.update_of_ne here]

/-- A loop that ends with `S_OK` has taken each step, by induction on the entries. -/
theorem plain_visitEntries {body : PdTables → Nat → Option (PdTables × PdStatus)}
    {step : VmPtInfo → Nat → VmPtInfo}
    (steps : ∀ tables idx after, body tables idx = some (after, .ok)
      → after.plain = step tables.plain idx)
    {tables after : PdTables} {idxs : List Nat}
    (visited : visitEntries body tables idxs = some (after, .ok))
    : after.plain = idxs.foldl step tables.plain := by
  induction idxs generalizing tables with
  | nil =>
      cases visited
      rfl
  | cons idx rest ih =>
      rw [visitEntries] at visited
      split at visited
      · rename_i between taken
        rw [List.foldl_cons, ← steps tables idx between taken]
        exact ih visited
      · rename_i other
        exact absurd visited (other after)

/-- An entry that is allocated with `S_OK` has a buffer and a bitmap. -/
theorem PdEnvironment.toVmPt_allocPdBuffer {env : PdEnvironment} {path : List Nat}
    {entry after : PdEntry} (allocated : env.allocPdBuffer path entry = (after, .ok))
    : after.toVmPt = VmPtInfo.allocPtBuffer entry.toVmPt := by
  unfold allocPdBuffer at allocated
  unfold VmPtInfo.allocPtBuffer
  split at allocated
  · rename_i buffer
    cases allocated
    rw [if_pos buffer]
  · rename_i missing
    rw [if_neg missing]
    split at allocated
    · cases allocated
    dsimp only at allocated
    split at allocated
    · rename_i unmapped
      exact absurd (congrArg Prod.snd allocated) unmapped
    split at allocated
    · cases allocated
    split at allocated
    · rename_i bitmap found
      cases allocated
      simp only [found, Option.getD_some]
    · rename_i absent
      split at allocated
      · cases allocated
        simp only [absent, Option.getD_none]
      · cases allocated

/-- Indices of addresses that 32 bits hold. -/
theorem pdIndex_of_lt {level addr : Nat} (small : addr < 2 ^ 32)
    : pdIndex level addr = addr >>> vmAccumPdBitsCount level :=
  Nat.mod_eq_of_lt (Nat.lt_of_le_of_lt (Nat.shiftRight_le _ _) small)

/-- Parts of a range are addresses that 32 bits hold. -/
theorem subAddrs_lt (level saddr eaddr idx : Nat)
    : (subAddrs level saddr eaddr idx).1 < 2 ^ 32
      ∧ (subAddrs level saddr eaddr idx).2 < 2 ^ 32 := by
  have bits : vmAccumPdBitsCount level ≤ 20 := by
    match level with
    | 0 => exact Nat.le_refl 20
    | 1 => exact Nat.le_of_ble_eq_true rfl
    | level + 2 =>
        have none : 2 - (level + 2) = 0 := by omega
        rw [vmAccumPdBitsCount, none]
        exact Nat.zero_le 20
  have mask : 2 ^ vmAccumPdBitsCount level ≤ 2 ^ 20 := Nat.pow_le_pow_right (by omega) bits
  have positive : 0 < 2 ^ vmAccumPdBitsCount level := Nat.two_pow_pos _
  simp only [subAddrs, Nat.one_shiftLeft, Nat.and_two_pow_sub_one_eq_mod]
  constructor
  · split
    · have below := Nat.mod_lt saddr positive
      omega
    · omega
  · split
    · have below := Nat.mod_lt eaddr positive
      omega
    · omega

/-- A directory is opened the same way. -/
theorem plain_markEntries (tables : PdTables) (parent : List Nat) (first last : Nat)
    : PdTables.plain (Function.update tables parent
          (markEntries first last { tables parent with entries := true }))
      = (if vmPtCheckBitmap (tables.plain.change parent ({ · with entries := true }) parent)
            first last
          then tables.plain.change parent ({ · with entries := true })
          else (tables.plain.change parent ({ · with entries := true })).change parent
            (vmPtUpdateBitmap first last true)) := by
  rw [plain_update, VmPtInfo.change_self, markEntries]
  split
  · rename_i set
    exact (if_pos set).symm
  · rename_i unset
    refine Eq.trans ?_ (if_neg unset).symm
    rw [VmPtInfo.change_change]
    rfl

/-- A call that succeeds does what the call does whose calls inside all succeed, by induction
on the levels.
-/
theorem PdEnvironment.plain_vidmmVmAllocPd (env : PdEnvironment) {remaining saddr eaddr : Nat}
    {tables after : PdTables} {parent : List Nat} (small : saddr < 2 ^ 32 ∧ eaddr < 2 ^ 32)
    (succeeds : env.vidmmVmAllocPd remaining tables parent saddr eaddr = some (after, .ok))
    : after.plain = VmPtInfo.vidmmVmAllocPd remaining tables.plain parent saddr eaddr := by
  induction remaining generalizing tables after parent saddr eaddr with
  | zero =>
      cases succeeds
      rfl
  | succ remaining ih =>
      rw [vidmmVmAllocPd] at succeeds
      dsimp only at succeeds
      split at succeeds
      · cases succeeds
      split at succeeds
      · cases succeeds
      rw [pdIndex_of_lt small.1, pdIndex_of_lt small.2] at succeeds
      split at succeeds
      · cases succeeds
      rename_i fits
      rw [VmPtInfo.vidmmVmAllocPd]
      dsimp only
      rw [if_neg fits, ← plain_markEntries]
      have indices : pdIndices parent.length saddr eaddr
          = List.range' (saddr >>> vmAccumPdBitsCount parent.length)
              (eaddr >>> vmAccumPdBitsCount parent.length + 1
                - saddr >>> vmAccumPdBitsCount parent.length) := by
        rw [pdIndices, pdIndex_of_lt small.1, pdIndex_of_lt small.2]
      rw [indices] at succeeds
      refine plain_visitEntries ?_ succeeds
      intro before idx between taken
      unfold allocPdEntry at taken
      dsimp only at taken
      split at taken
      · rename_i allocated
        rw [ih (subAddrs_lt parent.length saddr eaddr idx) taken, plain_update,
          toVmPt_allocPdBuffer (Prod.ext rfl allocated)]
        simp only [subAddrs, pdIndex_of_lt small.1, pdIndex_of_lt small.2]
        rfl
      · rename_i failed
        exact absurd (congrArg Prod.snd (Option.some.inj taken)) failed

-----------------------------------------------------------------------------------------
-- The entries of pages
-----------------------------------------------------------------------------------------

/-- Page tables as the allocation builds them: the root has a buffer, the tables of the last
level have no `entries`, and nothing is below a table without `entries`.
-/
structure PdTables.Tree (tables : PdTables) : Prop where
  root : (tables []).buffer
  leaves : ∀ path, path.length = 2 → (tables path).entries = false
  absent : ∀ idx, (tables []).entries = false → (tables [idx]).entries = false

/-- The entry of a page. -/
def PdTables.getPtEntry (tables : PdTables) (page : Nat) : Option (List Nat) :=
  VmPtInfo.vidmmiVmGetPtEntry tables.plain page

/-- Each page of the range has an entry with a buffer, which it shares with the pages of the
same table. A page outside keeps the entry that it had. It gets another one at most where the
range is in its directory, and its table changes at most where the range is in that.
-/
structure PdTables.Found (before after : PdTables) (saddr eaddr : Nat) : Prop where
  inside : ∀ page, saddr ≤ page → page ≤ eaddr
    → ∃ path ∈ after.getPtEntry page, (after path).buffer
  shared : ∀ page other, saddr ≤ page → page ≤ eaddr → saddr ≤ other → other ≤ eaddr
    → (after.getPtEntry page = after.getPtEntry other ↔ page / 1024 = other / 1024)
  kept : ∀ page < 2 ^ 28, ∀ path ∈ before.getPtEntry page, path ∈ after.getPtEntry page
  beside : ∀ page < 2 ^ 28, page / 2 ^ 20 < saddr / 2 ^ 20 ∨ eaddr / 2 ^ 20 < page / 2 ^ 20
    → after.getPtEntry page = before.getPtEntry page
  unchanged : ∀ page < 2 ^ 28, page / 1024 < saddr / 1024 ∨ eaddr / 1024 < page / 1024
    → ∀ path ∈ before.getPtEntry page, after.plain path = before.plain path

variable {env : PdEnvironment} {tables after : PdTables} {saddr eaddr : Nat}

open VmPtInfo

/-- The walk gets to the entry of a page exactly through a root and a directory that have
`entries`, and a directory that has a buffer.
-/
theorem PdTables.Tree.getPtEntry_eq (tree : tables.Tree) {page : Nat} (fits : page < 2 ^ 28)
    : tables.getPtEntry page
      = if (tables []).entries ∧ (tables [page / 1024 / 1024]).entries
            ∧ (tables [page / 1024 / 1024]).buffer then some (leafPath (page / 1024))
        else none :=
  VmPtInfo.getPtEntry_eq tree.root (tree.leaves _ rfl) fits

/-- The walk after the allocation finds what `Found` says. -/
theorem getPtEntry_found (tree : tables.Tree) (in_order : saddr ≤ eaddr)
    (fits : eaddr < 2 ^ 28)
    (succeeds : env.vidmmVmAllocPd 2 tables [] saddr eaddr = some (after, .ok))
    : tables.Found after saddr eaddr := by
  have plain := env.plain_vidmmVmAllocPd ⟨by omega, by omega⟩ succeeds
  have root : (after []).toVmPt
      = openDirectory (saddr / 2 ^ 20) (eaddr / 2 ^ 20) (tables []).toVmPt :=
    (congrFun plain []).trans (allocPd_root in_order fits)
  have directory : ∀ idx, saddr / 2 ^ 20 ≤ idx → idx ≤ eaddr / 2 ^ 20
      → (after [idx]).entries ∧ (after [idx]).buffer := by
    intro idx above below
    have same : (after [idx]).toVmPt = _ :=
      (congrFun plain [idx]).trans (allocPd_directory in_order fits above below)
    rw [same]
    exact ⟨rfl, buffer_allocPtBuffer _⟩
  have outside : ∀ idx path, ¬ (saddr / 2 ^ 20 ≤ idx ∧ idx ≤ eaddr / 2 ^ 20)
      → [idx] <+: path → (after path).toVmPt = (tables path).toVmPt := by
    intro idx path off under
    exact (congrFun plain path).trans (allocPd_beside in_order fits off under)
  have leaf : ∀ leaf, (after (leafPath leaf)).toVmPt
      = if saddr / 1024 ≤ leaf ∧ leaf ≤ eaddr / 1024 then
          allocPtBuffer (tables (leafPath leaf)).toVmPt
        else (tables (leafPath leaf)).toVmPt := by
    intro leaf
    exact (congrFun plain (leafPath leaf)).trans (allocPd_leaf in_order fits leaf)
  have opened : (after []).entries := by
    rw [root]
    rfl
  have walk : ∀ page < 2 ^ 28, after.getPtEntry page
      = if (after [page / 1024 / 1024]).entries ∧ (after [page / 1024 / 1024]).buffer then
          some (leafPath (page / 1024))
        else none := by
    intro page small
    have buffer : (after.plain []).buffer := by
      change (after []).toVmPt.buffer = true
      rw [root]
      exact tree.root
    have closed : (after.plain (leafPath (page / 1024))).entries = false := by
      have was := tree.leaves (leafPath (page / 1024)) rfl
      change (after _).toVmPt.entries = false
      rw [leaf]
      split
      · exact (entries_allocPtBuffer _).trans was
      · exact was
    refine (getPtEntry_eq buffer closed small).trans ?_
    have same : after.plain = fun path => (after path).toVmPt := rfl
    simp only [same, opened, true_and]
  have here : ∀ page, saddr ≤ page → page ≤ eaddr
      → after.getPtEntry page = some (leafPath (page / 1024)) := by
    intro page above below
    rw [walk page (by omega), if_pos (directory _ (by omega) (by omega))]
  have before : ∀ page < 2 ^ 28, ∀ path ∈ tables.getPtEntry page,
      path = leafPath (page / 1024) ∧ (tables [page / 1024 / 1024]).entries
        ∧ (tables [page / 1024 / 1024]).buffer := by
    intro page small path found
    rw [tree.getPtEntry_eq small] at found
    split at found
    · rename_i through
      exact ⟨(Option.some.inj found).symm, through.2⟩
    · cases found
  constructor
  case inside =>
    intro page above below
    refine ⟨_, here page above below, ?_⟩
    rw [leaf, if_pos ⟨by omega, by omega⟩]
    exact buffer_allocPtBuffer _
  case shared =>
    intro page other above below above' below'
    rw [here page above below, here other above' below', Option.some.injEq]
    exact ⟨leafPath_injective, congrArg leafPath⟩
  case kept =>
    intro page small path found
    obtain ⟨rfl, entries, buffer⟩ := before page small path found
    rw [walk page small, if_pos]
    · rfl
    · by_cases inRange : saddr / 2 ^ 20 ≤ page / 1024 / 1024
          ∧ page / 1024 / 1024 ≤ eaddr / 2 ^ 20
      · exact directory _ inRange.1 inRange.2
      · rw [outside _ _ inRange List.prefix_rfl]
        exact ⟨entries, buffer⟩
  case beside =>
    intro page small off
    have same := outside (page / 1024 / 1024) [page / 1024 / 1024] (by omega) List.prefix_rfl
    rw [walk page small, tree.getPtEntry_eq small, same]
    cases entries : (tables []).entries with
    | true => simp only [true_and]
    | false => simp [tree.absent _ entries]
  case unchanged =>
    intro page small off path found
    obtain ⟨rfl, _⟩ := before page small path found
    exact (leaf (page / 1024)).trans (if_neg (by omega))

/-- All calls succeed. -/
def allSucceed : PdEnvironment where
  pageTableLocalEnable := true
  pageTablePcieEnable := false
  cpuUpdatePte := false
  updatePrivateVma := false
  createSegmentMemory _ _ := true
  mapSegmentMemory _ := .ok
  lockSegmentMemory _ := true
  lockParent _ := true
  callocEntries _ := true
  callocBitmap _ := true

theorem fresh_tree : PdTables.fresh.Tree where
  root := rfl
  leaves path two := by
    unfold PdTables.fresh
    split <;> rfl
  absent idx _ := rfl

/-- The first page of an empty `vma_space`. -/
theorem firstPage_found
    : ∃ after, allSucceed.vidmmVmAllocPd 2 PdTables.fresh [] 0 0 = some (after, .ok)
        ∧ PdTables.fresh.Found after 0 0 := by
  have succeeds : ∃ after, allSucceed.vidmmVmAllocPd 2 PdTables.fresh [] 0 0
      = some (after, .ok) := ⟨_, rfl⟩
  obtain ⟨after, succeeds⟩ := succeeds
  exact ⟨after, succeeds, getPtEntry_found fresh_tree (Nat.le_refl 0) (by decide) succeeds⟩

/-- The page after it gets an entry with it, which it did not have. -/
theorem nextPage_found
    : (∃ after, allSucceed.vidmmVmAllocPd 2 PdTables.fresh [] 0 0 = some (after, .ok)
          ∧ PdTables.fresh.getPtEntry 1 = none ∧ after.getPtEntry 1 = some [0, 0])
      ∧ ¬ ∀ (env : PdEnvironment) (tables : PdTables), tables.Tree
        → ∀ saddr eaddr, saddr ≤ eaddr → eaddr < 2 ^ 28
        → ∀ after, env.vidmmVmAllocPd 2 tables [] saddr eaddr = some (after, .ok)
        → ∀ page < 2 ^ 28, ¬ (saddr ≤ page ∧ page ≤ eaddr)
        → after.getPtEntry page = tables.getPtEntry page := by
  have gets : ∃ after, allSucceed.vidmmVmAllocPd 2 PdTables.fresh [] 0 0 = some (after, .ok)
      ∧ PdTables.fresh.getPtEntry 1 = none ∧ after.getPtEntry 1 = some [0, 0] :=
    ⟨_, rfl, rfl, rfl⟩
  refine ⟨gets, fun claim => ?_⟩
  obtain ⟨after, succeeds, missing, found⟩ := gets
  have same := claim _ _ fresh_tree 0 0 (Nat.le_refl 0) (by decide) after succeeds 1
    (by decide) (by decide)
  rw [missing, found] at same
  cases same

end Cx4Kernel.Vidmm
