import Cx4Kernel.Vidmm.UpdatePtes

/-! How `vidmm_vm_update_ptes` cuts a range of pages at the ends of the page tables. -/

namespace Cx4Kernel.Vidmm

-----------------------------------------------------------------------------------------
-- Page numbers
-----------------------------------------------------------------------------------------

/-- The table that translates a page, by the place of its entry in the directories. -/
def tableOf (tables : PageTables) (page : Nat) : Option U64 := do
  let directory ← tables (page / 2 ^ 20 % 2 ^ 8)
  directory (page / 2 ^ 10 % 2 ^ 10)

/-- Pages of one table. -/
theorem tableOf_congr {tables : PageTables} {page other : Nat}
    (same : page / 1024 = other / 1024)
    : tableOf tables page = tableOf tables other := by
  have directory : page / 2 ^ 20 = other / 2 ^ 20 := by omega
  have table : page / 2 ^ 10 = other / 2 ^ 10 := by omega
  rw [tableOf, tableOf, directory, table]

/-- A mask of `bits` ones from bit `shift` on selects a digit. -/
theorem toNat_field {page : Nat} (small : page < 2 ^ 28) {mask : U64} {shift bits : Nat}
    (field : mask >>> shift = BitVec.ofNat 64 (2 ^ bits - 1)) (narrow : bits < 64)
    : ((BitVec.ofNat 64 page &&& mask) >>> shift).toNat = page / 2 ^ shift % 2 ^ bits := by
  have power : 2 ^ bits ≤ 2 ^ 63 := Nat.pow_le_pow_right (by decide) (by omega)
  rw [BitVec.ushiftRight_and_distrib, field, BitVec.toNat_and, BitVec.toNat_ushiftRight,
    BitVec.toNat_ofNat, BitVec.toNat_ofNat, Nat.mod_eq_of_lt (by omega),
    Nat.mod_eq_of_lt (by omega), Nat.and_two_pow_sub_one_eq_mod, Nat.shiftRight_eq_div_pow]

/-- The walk of the directories ends at the table of the page. -/
theorem vidmmiVmGetPtEntry_eq (tables : PageTables) {page : Nat} (small : page < 2 ^ 28)
    : vidmmiVmGetPtEntry tables (BitVec.ofNat 64 page) = tableOf tables page := by
  have root : ((BitVec.ofNat 64 page &&& 0xFF00000) >>> 20).toNat = page / 2 ^ 20 % 2 ^ 8 :=
    toNat_field small (by decide) (by decide)
  have level1 : ((BitVec.ofNat 64 page &&& 0xFFC00) >>> 10).toNat = page / 2 ^ 10 % 2 ^ 10 :=
    toNat_field small (by decide) (by decide)
  rw [vidmmiVmGetPtEntry, root, level1, tableOf]

/-- The place of a page in its table. -/
theorem toNat_and_1023 {page : Nat} (small : page < 2 ^ 28)
    : (BitVec.ofNat 64 page &&& 1023).toNat = page % 1024 := by
  have field := @toNat_field page small 1023 0 10 rfl (by decide)
  simpa using field

-----------------------------------------------------------------------------------------
-- Cutting a range
-----------------------------------------------------------------------------------------

/-- The number of pages from `page` to `last` or the end of the table. -/
def pagesInTable (page last : Nat) : Nat := min (last + 1) ((page / 1024 + 1) * 1024) - page

/-- A round goes on by a page at least, and not past the end. -/
theorem pagesInTable_bounds {page last : Nat} (inside : page ≤ last)
    : 0 < pagesInTable page last ∧ page + pagesInTable page last ≤ last + 1
      ∧ pagesInTable page last ≤ 1024 := by
  rw [pagesInTable]
  omega

/-- A mask that is right in 28 bits clears the low 10 bits of a page number. -/
theorem toNat_and_mask {mask : U64} (right : ∀ i < 28, mask.getLsbD i = decide (10 ≤ i))
    {number : Nat} (small : number < 2 ^ 28)
    : (BitVec.ofNat 64 number &&& mask).toNat = number / 1024 * 1024 := by
  have shifted : number / 1024 * 1024 = number >>> 10 <<< 10 := by
    rw [Nat.shiftRight_eq_div_pow, Nat.shiftLeft_eq]
  have word : (BitVec.ofNat 64 number).toNat = number := Nat.mod_eq_of_lt (by omega)
  apply Nat.eq_of_testBit_eq
  intro i
  rw [shifted, BitVec.toNat_and, Nat.testBit_and, word, BitVec.testBit_toNat,
    Nat.testBit_shiftLeft, Nat.testBit_shiftRight]
  rcases Nat.lt_or_ge i 28 with low | high
  · rw [right i low]
    rcases Nat.lt_or_ge i 10 with below | above
    · simp [Nat.not_le_of_lt below]
    · simp [above, Nat.add_sub_cancel' above]
  · have clear : number.testBit i = false :=
      Nat.testBit_lt_two_pow (Nat.lt_of_lt_of_le small (Nat.pow_le_pow_right (by decide) high))
    rw [clear, Nat.add_sub_cancel' (by omega), clear]
    simp

/-- The number of entries is right when the mask clears the low 10 bits. -/
theorem nptesInTable_eq {mask : U64} {page last : Nat} (ordered : page ≤ last)
    (small : last < 2 ^ 28)
    (masked : ∀ number < 2 ^ 28, (BitVec.ofNat 64 number &&& mask).toNat
      = number / 1024 * 1024)
    : (nptesInTable mask (BitVec.ofNat 64 page) (BitVec.ofNat 64 last)).toNat
      = pagesInTable page last := by
  have tables : BitVec.ofNat 64 page &&& mask = BitVec.ofNat 64 last &&& mask
      ↔ page / 1024 = last / 1024 := by
    rw [← BitVec.toNat_inj, masked page (by omega), masked last small]
    omega
  have one : (1 : U64).toNat = 1 := rfl
  have entries : (1024 : U64).toNat = 1024 := rfl
  unfold nptesInTable pagesInTable
  split
  · rename_i intra
    rw [tables] at intra
    rw [BitVec.toNat_setWidth, BitVec.toNat_add, BitVec.toNat_sub, BitVec.toNat_ofNat,
      BitVec.toNat_ofNat, one]
    omega
  · rename_i inter
    rw [tables] at inter
    rw [BitVec.toNat_setWidth, BitVec.toNat_sub, toNat_and_1023 (by omega), entries]
    omega

/-- `expect_nptes` is right, though its mask has only 32 bits. -/
theorem toNat_expectNptes {page last : Nat} (ordered : page ≤ last) (small : last < 2 ^ 28)
    : (expectNptes (BitVec.ofNat 64 page) (BitVec.ofNat 64 last)).toNat
      = pagesInTable page last :=
  nptesInTable_eq ordered small fun _ => toNat_and_mask (by decide)

/-- `real_nptes` is the same number. -/
theorem toNat_realNptes {page last : Nat} (ordered : page ≤ last) (small : last < 2 ^ 28)
    : (realNptes (BitVec.ofNat 64 page) (BitVec.ofNat 64 last)).toNat
      = pagesInTable page last :=
  nptesInTable_eq ordered small fun _ => toNat_and_mask (by decide)

-----------------------------------------------------------------------------------------
-- The entries a command writes
-----------------------------------------------------------------------------------------

/-- An entry: the base of its table, as in the command, and its index. -/
abbrev PteSlot := U32 × U32

/-- The entries a command writes. Where the words of the command end early, what follows in
the buffer is written, which is not known.
-/
def CopyImm.writes (command : CopyImm) : List (PteSlot × Option U32) :=
  (List.range (command.right - command.left + 1).toNat).map fun k =>
    ((command.baseAddr, command.left + BitVec.ofNat 32 k), command.data[k]?)

/-- The entry of a page. -/
def slotOf (tables : PageTables) (page : Nat) : PteSlot :=
  ((((tableOf tables page).getD 0) >>> 8).setWidth 32, BitVec.ofNat 32 (page % 1024))

/-- The range of a request is the pages from `first` to `last`. -/
structure PtesRequest.Spans (request : PtesRequest) (first last : Nat) : Prop where
  vmVa : request.vmVa = BitVec.ofNat 64 (first * 4096)
  endAddr : request.endAddr = BitVec.ofNat 64 (last * 4096 + 4095)
  ordered : first ≤ last
  small : last < 2 ^ 28

/-- The argument of the round that starts at a page. -/
def PtesRequest.argAt (request : PtesRequest) (tables : PageTables) (page : Nat)
    : UpdatePtesArg :=
  request.updatePteArg ((tableOf tables page).getD 0) (BitVec.ofNat 64 page)

@[simp]
theorem PtesRequest.entity_argAt (request : PtesRequest) (tables : PageTables) (page : Nat)
    : (request.argAt tables page).entity = request.entity := rfl

/-- A round can start at this page. -/
def IsCut (first page : Nat) : Prop := page = first ∨ page % 1024 = 0

/-- Where the round that writes the entry of a page starts. -/
def cutOf (first page : Nat) : Nat := max first (page / 1024 * 1024)

/-- The pages of a round that starts at a cut. -/
theorem cutOf_eq {first last page later : Nat} (cut : IsCut first page) (after : first ≤ page)
    (start : page ≤ later) (inside : later < page + pagesInTable page last)
    : cutOf first later = page := by
  rw [pagesInTable] at inside
  rw [cutOf]
  rcases cut with same | aligned
  · omega
  · omega

namespace PtesRequest.Spans

variable {request : PtesRequest} {first last page : Nat}

/-- The page number of the end. -/
theorem endPage (h : request.Spans first last)
    : request.endAddr >>> 12 = BitVec.ofNat 64 last := by
  have small := h.small
  apply BitVec.eq_of_toNat_eq
  rw [h.endAddr, BitVec.toNat_ushiftRight, BitVec.toNat_ofNat, BitVec.toNat_ofNat,
    Nat.shiftRight_eq_div_pow]
  omega

/-- The page number of an address a round starts at. -/
theorem startPage (h : request.Spans first last) (inside : page ≤ last + 1)
    : BitVec.ofNat 64 (page * 4096) >>> 12 = BitVec.ofNat 64 page := by
  have small := h.small
  apply BitVec.eq_of_toNat_eq
  rw [BitVec.toNat_ushiftRight, BitVec.toNat_ofNat, BitVec.toNat_ofNat,
    Nat.shiftRight_eq_div_pow]
  omega

/-- A round is entered as long as pages are left. -/
theorem lt_endAddr_iff (h : request.Spans first last) (inside : page ≤ last + 1)
    : BitVec.ofNat 64 (page * 4096) < request.endAddr ↔ page ≤ last := by
  have small := h.small
  rw [BitVec.lt_def, h.endAddr, BitVec.toNat_ofNat, BitVec.toNat_ofNat]
  omega

/-- Where the next round starts. -/
theorem nextPage (h : request.Spans first last) (inside : page ≤ last)
    : (BitVec.ofNat 64 page
        + (expectNptes (BitVec.ofNat 64 page) (request.endAddr >>> 12)).setWidth 64) <<< 12
      = BitVec.ofNat 64 ((page + pagesInTable page last) * 4096) := by
  have small := h.small
  have count : (expectNptes (BitVec.ofNat 64 page) (request.endAddr >>> 12)).toNat
      = pagesInTable page last := h.endPage ▸ toNat_expectNptes inside small
  obtain ⟨-, bound, -⟩ := pagesInTable_bounds inside
  apply BitVec.eq_of_toNat_eq
  rw [BitVec.toNat_shiftLeft, BitVec.toNat_add, BitVec.toNat_setWidth, count,
    BitVec.toNat_ofNat, BitVec.toNat_ofNat, Nat.shiftLeft_eq]
  omega

/-- `npte` of the argument, whatever the table. -/
theorem toNat_pteCount_updatePteArg (h : request.Spans first last) (pteDstVa : U64)
    (inside : page ≤ last)
    : (request.updatePteArg pteDstVa (BitVec.ofNat 64 page)).pteCount.toNat
      = pagesInTable page last := by
  have count := toNat_realNptes inside h.small
  have narrow := (realNptes (BitVec.ofNat 64 page) (BitVec.ofNat 64 last)).isLt
  simp only [UpdatePtesArg.pteCount, updatePteArg, h.endPage, BitVec.toNat_setWidth]
  omega

/-- `npte` of that argument. -/
theorem toNat_pteCount (h : request.Spans first last) (tables : PageTables)
    (inside : page ≤ last)
    : (request.argAt tables page).pteCount.toNat = pagesInTable page last :=
  h.toNat_pteCount_updatePteArg _ inside

/-- The entries of one round are those of its pages, in order. -/
theorem writes_command (h : request.Spans first last) (tables : PageTables)
    (inside : page ≤ last) (data : List U32)
    : ((request.argAt tables page).command data).writes
      = (List.range' page (pagesInTable page last)).map fun later =>
          (slotOf tables later, data[later - page]?) := by
  have small := h.small
  have count : ((request.argAt tables page).command data).right
      - ((request.argAt tables page).command data).left + 1
      = (request.argAt tables page).pteCount := by
    simp only [UpdatePtesArg.command, UpdatePtesArg.pteCount]
    generalize (request.argAt tables page).pteOffset = left
    generalize BitVec.setWidth 32 (request.argAt tables page).npte = npte
    have one : (1 : U32).toNat = 1 := rfl
    apply BitVec.eq_of_toNat_eq
    simp only [BitVec.toNat_add, BitVec.toNat_sub, one]
    omega
  rw [CopyImm.writes, count, h.toNat_pteCount tables inside, List.range'_eq_map_range,
    List.map_map]
  apply List.map_congr_left
  intro k member
  have bound := List.mem_range.mp member
  have sameTable : (page + k) / 1024 = page / 1024 := by
    rw [pagesInTable] at bound
    omega
  have index : BitVec.setWidth 32 (BitVec.ofNat 64 page &&& 1023) + BitVec.ofNat 32 k
      = BitVec.ofNat 32 ((page + k) % 1024) := by
    apply BitVec.eq_of_toNat_eq
    rw [BitVec.toNat_add, BitVec.toNat_setWidth, toNat_and_1023 (by omega),
      BitVec.toNat_ofNat, BitVec.toNat_ofNat]
    omega
  simp only [Function.comp, slotOf, tableOf_congr sameTable, Nat.add_sub_cancel_left, ← index]
  rfl

/-- One round, and the rounds after it. -/
theorem updatePtesFrom_round {adapter : Adapter} {tables : PageTables} {rounds : Nat}
    {startAddr pteDstVa : U64} {vmaSpace vmaSpace' : VmaSpace} {command : CopyImm}
    {updated : PtesUpdated} (entered : startAddr < request.endAddr)
    (entry : vidmmiVmGetPtEntry tables (startAddr >>> 12) = some pteDstVa)
    (ran : vidmmUpdatePtesE3k adapter vmaSpace request.engineIndex
      (request.updatePteArg pteDstVa (startAddr >>> 12)) = some (vmaSpace', command))
    (later : request.updatePtesFrom adapter tables rounds
      ((startAddr >>> 12 + (expectNptes (startAddr >>> 12) (request.endAddr >>> 12)).setWidth 64)
        <<< 12) vmaSpace' = some updated)
    : request.updatePtesFrom adapter tables (rounds + 1) startAddr vmaSpace
      = some { updated with commands := command :: updated.commands } := by
  simp only [updatePtesFrom, if_pos entered, entry, ran, later, Option.bind_eq_bind,
    Option.bind_some, Option.pure_def]

/-- A level-2 update with known entries. -/
theorem vidmmUpdatePtesE3k_level2 {adapter : Adapter} {arg : UpdatePtesArg}
    {data : List U32} {mask : U64} (vmaSpace : VmaSpace) (engineIndex : Nat)
    (level : arg.ptLevel = .level2) (found : level2Entries adapter arg = some (data, mask))
    : ∃ after, vidmmUpdatePtesE3k adapter vmaSpace engineIndex arg
        = some (after, arg.command data) := by
  simp [vidmmUpdatePtesE3k, level, found]

/-- The rounds from a cut on write the entries of the pages from there to the end, in order
and each one once, by induction on the rounds.
-/
theorem updatePtesFrom_writes {adapter : Adapter} {tables : PageTables}
    {entries : Nat → List U32} (h : request.Spans first last)
    (present : ∀ page, first ≤ page → page ≤ last → (tableOf tables page).isSome)
    (found : ∀ page, first ≤ page → page ≤ last → IsCut first page
      → ∃ mask, level2Entries adapter (request.argAt tables page) = some (entries page, mask))
    {rounds : Nat} {vmaSpace : VmaSpace} (after : first ≤ page) (inside : page ≤ last + 1)
    (cut : page ≤ last → IsCut first page) (enough : last + 1 ≤ page + rounds)
    : ∃ updated, request.updatePtesFrom adapter tables rounds (BitVec.ofNat 64 (page * 4096))
          vmaSpace = some updated
        ∧ updated.succeeded = true
        ∧ updated.commands.flatMap CopyImm.writes
          = (List.range' page (last + 1 - page)).map fun later =>
              (slotOf tables later, (entries (cutOf first later))[later - cutOf first later]?) := by
  induction rounds generalizing page vmaSpace with
  | zero =>
      have done : ¬ BitVec.ofNat 64 (page * 4096) < request.endAddr := by
        rw [h.lt_endAddr_iff inside]
        omega
      refine ⟨⟨vmaSpace, [], true⟩, by rw [updatePtesFrom, if_neg done], rfl, ?_⟩
      rw [show last + 1 - page = 0 by omega]
      rfl
  | succ rounds ih =>
      rcases Nat.lt_or_ge last page with past | left
      · have done : ¬ BitVec.ofNat 64 (page * 4096) < request.endAddr := by
          rw [h.lt_endAddr_iff inside]
          omega
        refine ⟨⟨vmaSpace, [], true⟩, by rw [updatePtesFrom, if_neg done], rfl, ?_⟩
        rw [show last + 1 - page = 0 by omega]
        rfl
      · have small := h.small
        have entered : BitVec.ofNat 64 (page * 4096) < request.endAddr :=
          (h.lt_endAddr_iff inside).mpr left
        obtain ⟨pteDstVa, table⟩ := Option.isSome_iff_exists.mp (present page after left)
        have entry : vidmmiVmGetPtEntry tables (BitVec.ofNat 64 page) = some pteDstVa := by
          rw [vidmmiVmGetPtEntry_eq tables (by omega), table]
        obtain ⟨progress, bound, -⟩ := pagesInTable_bounds left
        obtain ⟨mask, words⟩ := found page after left (cut left)
        obtain ⟨after', ran⟩ :=
          vidmmUpdatePtesE3k_level2 vmaSpace request.engineIndex rfl words
        rw [PtesRequest.argAt, table, Option.getD_some] at ran
        obtain ⟨updated, later, succeeded, writes⟩ :=
          @ih (page + pagesInTable page last) after' (by omega) (by omega)
            (fun more => .inr (by rw [pagesInTable] at more ⊢; omega)) (by omega)
        rw [← h.nextPage left, ← h.startPage inside] at later
        rw [← h.startPage inside] at entry ran
        refine ⟨_, updatePtesFrom_round entered entry ran later, succeeded, ?_⟩
        rw [h.startPage inside] at ran
        have here := h.writes_command tables left (entries page)
        rw [PtesRequest.argAt, table, Option.getD_some] at here
        rw [List.flatMap_cons, h.startPage inside, here, writes,
          show last + 1 - page = pagesInTable page last
            + (last + 1 - (page + pagesInTable page last)) by omega,
          ← List.range'_append_1, List.map_append]
        congr 1
        apply List.map_congr_left
        intro other member
        obtain ⟨low, high⟩ := List.mem_range'_1.mp member
        rw [cutOf_eq (cut left) after low high]

end PtesRequest.Spans

end Cx4Kernel.Vidmm
