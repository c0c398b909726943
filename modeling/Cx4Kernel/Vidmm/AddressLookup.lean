import Cx4Kernel.Vidmm.AddressSpace

/-! When lookups by address are safe and exact. Holes in a reservation, addresses outside all
nodes, and lists with system memory are read through `NULL`; sizes from 4 GiB on and the first
address after local memory are answered wrongly.
-/

namespace Cx4Kernel.Vidmm

open Foundation

namespace AddressSpace

variable {space : AddressSpace}

/-- The addresses of a zone. -/
def Region (space : AddressSpace) (place : Nat) : ZoneId → Prop
  | .shareSpaceLocal =>
      space.sharedGpuVaOffset ≤ place
        ∧ place < space.sharedGpuVaOffset + space.totalLocalMemorySize
  | .shareSpacePcie =>
      space.sharedGpuVaOffset + space.totalLocalMemorySize ≤ place
        ∧ place < space.sharedGpuVaOffset + space.sharedGpuVaSize
  | .privateSpace =>
      space.privateStart ≤ place ∧ place < space.privateStart + space.privateSize

/-- Zones have no address in common. -/
theorem Region.unique {place : Nat} {one other : ZoneId} (first : space.Region place one)
    (second : space.Region place other)
    : one = other := by
  have inside := space.localInside
  have separate := space.separate
  cases one <;> cases other <;> first | rfl | (simp only [Region] at first second; omega)

/-- Range trees are ordered. -/
theorem ra_ordered (zone : ZoneId) : (space.ra zone).Ordered := by
  have empty : (RangeTree.leaf : RangeTree VmEntity).Ordered :=
    ⟨fun _ member => absurd member List.not_mem_nil, List.Pairwise.nil⟩
  cases zone with
  | shareSpaceLocal => exact empty
  | shareSpacePcie =>
      cases pcie : space.pcie with
      | none =>
          rw [ra, pcie]
          exact empty
      | some tree =>
          rw [ra, pcie]
          exact space.pcieOrdered tree pcie
  | privateSpace => exact space.privateOrdered

/-- A range of a zone's tree is one of the PCIE zone or of the private zone. -/
theorem ra_cases {zone : ZoneId} {span : Span VmEntity}
    (member : span ∈ (space.ra zone).spans)
    : (∃ tree, zone = .shareSpacePcie ∧ space.pcie = some tree ∧ span ∈ tree.spans)
      ∨ zone = .privateSpace ∧ span ∈ space.privateRa.spans := by
  cases zone with
  | shareSpaceLocal => exact absurd member List.not_mem_nil
  | shareSpacePcie =>
      cases pcie : space.pcie with
      | none =>
          rw [ra, pcie] at member
          exact absurd member List.not_mem_nil
      | some tree =>
          rw [ra, pcie] at member
          exact .inl ⟨tree, rfl, rfl, member⟩
  | privateSpace => exact .inr ⟨rfl, member⟩

/-- The ranges of a zone's tree are in the zone. -/
theorem ra_region {zone : ZoneId} {span : Span VmEntity} (member : span ∈ (space.ra zone).spans)
    {place : Nat} (inside : span.start ≤ place ∧ place < span.end)
    : space.Region place zone := by
  obtain ⟨tree, rfl, pcie, member⟩ | ⟨rfl, member⟩ := space.ra_cases member
  · have bounds := space.pcieInside tree pcie span member
    exact ⟨Nat.le_trans bounds.1 inside.1, Nat.lt_of_lt_of_le inside.2 bounds.2⟩
  · have bounds := space.privateInside span member
    exact ⟨Nat.le_trans bounds.1 inside.1, Nat.lt_of_lt_of_le inside.2 bounds.2⟩

/-- The nodes of a reservation are ordered and inside it. -/
theorem ra_sparse {zone : ZoneId} {span : Span VmEntity} {inner : RangeTree Nat}
    (member : span ∈ (space.ra zone).spans) (value : span.value = .sparse inner)
    : inner.Ordered ∧ ∀ node ∈ inner.spans, span.start ≤ node.start ∧ node.end ≤ span.end := by
  obtain ⟨tree, -, pcie, member⟩ | ⟨-, member⟩ := space.ra_cases member
  · exact space.sparseOrdered tree (.inl pcie) span member inner value
  · exact space.sparseOrdered space.privateRa (.inr rfl) span member inner value

end AddressSpace

/-- The node that a lookup returns: the last one that starts at or before an address, if it
reaches far enough in the widths of the lookup's variables.
-/
def Found {α : Type} (ra : RangeTree α) (base size : Nat) (span : Span α) : Prop :=
  Span.Nearest ra.spans base span ∧ (base + size % 2 ^ 32) % 2 ^ 64 ≤ span.end

/-- The lookup in an ordered tree. -/
theorem lookup_eq_some_iff {α : Type} {ra : RangeTree α} (ordered : ra.Ordered)
    (base size : Nat) (span : Span α)
    : zxDrmMmRaLookup ra base size = some span ↔ Found ra base size span := by
  unfold zxDrmMmRaLookup Found
  rw [Option.bind_eq_some_iff, ← RangeTree.floor_eq_some_iff ordered]
  constructor
  · intro found
    obtain ⟨best, walked, reaches⟩ := found
    split at reaches
    next => cases reaches
    next enough =>
      obtain rfl := Option.some.inj reaches
      exact ⟨walked, Nat.not_lt.mp enough⟩
  · intro found
    exact ⟨span, found.1, if_neg (Nat.not_lt.mpr found.2)⟩

/-- A node that has a range that is not empty is found by it. -/
theorem found_of_contains {α : Type} {ra : RangeTree α} (ordered : ra.Ordered)
    {span : Span α} (member : span ∈ ra.spans) {base size : Nat} (positive : 0 < size)
    (contains : span.Contains base size)
    : Found ra base size span := by
  refine ⟨ordered.nearest member ⟨contains.1, ?_⟩, ?_⟩
  · exact Nat.lt_of_lt_of_le (Nat.lt_add_of_pos_right positive) contains.2
  · refine Nat.le_trans (Nat.mod_le _ _) (Nat.le_trans ?_ contains.2)
    exact Nat.add_le_add_left (Nat.mod_le _ _) base

/-- A node that is found is a node of the tree. -/
theorem Found.unique {α : Type} {ra : RangeTree α} (ordered : ra.Ordered) {base size : Nat}
    {one other : Span α} (first : Found ra base size one) (second : Found ra base size other)
    : one = other := by
  rw [← lookup_eq_some_iff ordered] at first second
  exact Option.some.inj (first.symm.trans second)

namespace LookupState

variable {state : LookupState} {base size : Nat}

/-- An allocation that is mapped in a zone, with the start and the size of the mapping: by a
node, by a node in a reservation, or directly as local memory of one range.
-/
inductive Mapping (state : LookupState) : ZoneId → Nat → Nat → Nat → Prop
  | node {zone span index} (member : span ∈ (state.ra zone).spans)
    (value : span.value = .allocation index)
    : Mapping state zone index span.start span.size
  | inner {zone span ra node} (member : span ∈ (state.ra zone).spans)
    (value : span.value = .sparse ra) (inside : node ∈ ra.spans)
    : Mapping state zone node.value node.start node.size
  | direct {allocation pages} (member : allocation ∈ state.allocList)
    (isLocal : allocation.isLocal = true) (fb : allocation.fbPagesMem = some pages)
    (one : pages.rangeNodeNum = 1)
    : Mapping state .shareSpaceLocal allocation.index
        (state.sharedGpuVaOffset + pages.start) allocation.size

/-- An allocation is mapped over a whole range, at an offset. -/
def MappedOver (state : LookupState) (zone : ZoneId) (base size index offset : Nat) : Prop :=
  ∃ start length, state.Mapping zone index start length
    ∧ start ≤ base ∧ base + size ≤ start + length ∧ offset = base - start

/-- The mappings of a zone lie in it, and end below 2^64. -/
theorem Mapping.region {zone : ZoneId} {index start length : Nat}
    (mapping : state.Mapping zone index start length) {place : Nat}
    (inside : start ≤ place ∧ place < start + length)
    : state.Region place zone := by
  cases mapping with
  | node member _ => exact AddressSpace.ra_region member inside
  | inner member value known =>
      have bounds := (AddressSpace.ra_sparse member value).2 _ known
      exact AddressSpace.ra_region member
        ⟨Nat.le_trans bounds.1 inside.1, Nat.lt_of_lt_of_le inside.2 bounds.2⟩
  | direct member isLocal fb one =>
      have bounds := (state.inLocal _ member _ fb isLocal).2.2 one
      simp only [AddressSpace.Region]
      omega

/-- A node of a tree has each mapping that the tree gives to one of its places. -/
theorem Mapping.found {zone : ZoneId} (tree : zone ≠ .shareSpaceLocal)
    {index start length : Nat} (mapping : state.Mapping zone index start length)
    (positive : 0 < size) (covers : start ≤ base ∧ base + size ≤ start + length)
    : ∃ span, Found (state.ra zone) base size span ∧ span.Contains base size
      ∧ (span.value = .allocation index ∧ span.start = start
        ∨ ∃ ra node, span.value = .sparse ra ∧ Found ra base size node
          ∧ node.Contains base size ∧ node.value = index ∧ node.start = start) := by
  cases mapping with
  | node member value =>
      exact ⟨_, found_of_contains (AddressSpace.ra_ordered zone) member positive covers, covers,
        .inl ⟨value, rfl⟩⟩
  | @inner _ span ra node member value known =>
      have sparse := AddressSpace.ra_sparse member value
      have bounds := sparse.2 _ known
      have whole : span.Contains base size :=
        ⟨Nat.le_trans bounds.1 covers.1, Nat.le_trans covers.2 bounds.2⟩
      refine ⟨span, found_of_contains (AddressSpace.ra_ordered zone) member positive whole,
        whole, .inr ⟨ra, node, value, ?_, covers, rfl, rfl⟩⟩
      exact found_of_contains sparse.1 known positive covers
  | direct => exact absurd rfl tree

/-- A range that is mapped over and not empty is classified by its zone, but for the first
address after local memory.
-/
theorem MappedOver.zone {zone : ZoneId} {index offset : Nat}
    (mapped : state.MappedOver zone base size index offset) (positive : 0 < size)
    : base + size < 2 ^ 64
      ∧ (state.vidmmVmGetZoneFromRange base size = some zone
        ∨ zone = .shareSpacePcie
          ∧ base = state.sharedGpuVaOffset + state.totalLocalMemorySize) := by
  obtain ⟨start, length, mapping, before, after, _⟩ := mapped
  have first : state.Region base zone := mapping.region ⟨before, by omega⟩
  have last : state.Region (base + size - 1) zone := mapping.region ⟨by omega, by omega⟩
  have sharedSmall := state.sharedSmall
  have privateSmall := state.privateSmall
  have localInside := state.localInside
  have separate := state.separate
  cases zone with
  | shareSpaceLocal =>
      simp only [AddressSpace.Region] at first last
      have small : (base + size) % 2 ^ 64 = base + size := Nat.mod_eq_of_lt (by omega)
      refine ⟨by omega, .inl ?_⟩
      unfold AddressSpace.vidmmVmGetZoneFromRange
      dsimp only
      rw [small, if_pos ⟨by omega, by omega⟩, if_pos (by omega), if_neg (by omega)]
  | shareSpacePcie =>
      simp only [AddressSpace.Region] at first last
      have small : (base + size) % 2 ^ 64 = base + size := Nat.mod_eq_of_lt (by omega)
      refine ⟨by omega, ?_⟩
      by_cases boundary : base = state.sharedGpuVaOffset + state.totalLocalMemorySize
      · exact .inr ⟨rfl, boundary⟩
      · have present : state.pcie.isSome = true := by
          cases pcie : state.pcie with
          | some tree => rfl
          | none =>
              have tree : state.ra .shareSpacePcie = .leaf := by rw [AddressSpace.ra, pcie]; rfl
              obtain ⟨span, found, _⟩ := mapping.found (by decide) positive ⟨before, after⟩
              rw [tree] at found
              exact absurd found.1.1 List.not_mem_nil
        left
        unfold AddressSpace.vidmmVmGetZoneFromRange
        dsimp only
        rw [small, if_pos ⟨by omega, by omega⟩, if_neg (by omega), if_pos present]
  | privateSpace =>
      simp only [AddressSpace.Region] at first last
      have small : (base + size) % 2 ^ 64 = base + size := Nat.mod_eq_of_lt (by omega)
      refine ⟨by omega, .inl ?_⟩
      unfold AddressSpace.vidmmVmGetZoneFromRange
      dsimp only
      rw [small, if_neg (by omega), if_pos ⟨by omega, by omega⟩]

-----------------------------------------------------------------------------------------
-- What lookups promise, and when they keep it
-----------------------------------------------------------------------------------------

/-- The two calls return, a new node has exactly the range and lies in a reservation, and the
allocation that is returned, if any, is the one mapped over the range.
-/
structure Sound (state : LookupState) (base size : Nat) (found : Option Nat) : Prop where
  sparse : ∃ result, state.vidmmVmAllocateSparseVmNode base size found = some result
    ∧ ∀ node, result = some node →
      node.start = base ∧ node.size = size ∧ node.reservation.Contains base size
      ∧ (∃ ra, node.reservation.value = .sparse ra)
      ∧ ∃ zone, node.reservation ∈ (state.ra zone).spans
  fetch : ∃ result, state.vidmmFetchAllocationByAddress base size = some result
    ∧ (0 < size →
      (result = none → ∀ zone index offset, ¬ state.MappedOver zone base size index offset)
      ∧ ∀ index offset, result = some (index, offset)
        → ∃ zone, state.MappedOver zone base size index offset)

/-- An allocation of the list that the loop over it stops at. -/
def hits (state : LookupState) (base size : Nat) (allocation : ListedAllocation) : Bool :=
  allocation.fbPagesMem.any (state.directHit base size allocation)

/-- Nothing is mapped over a range that starts right after local memory. -/
def Boundary (state : LookupState) (base size : Nat) : Prop :=
  base = state.sharedGpuVaOffset + state.totalLocalMemorySize →
    ∀ index offset, ¬ state.MappedOver .shareSpacePcie base size index offset

/-- The condition in local memory: the allocations up to the one the loop stops at have local
memory, that one has a single range and the range asked for does not wrap around.
-/
structure ClearLocal (state : LookupState) (base size : Nat) : Prop where
  backed : ∀ allocation ∈ state.allocList.takeWhile fun allocation =>
    !state.hits base size allocation, allocation.fbPagesMem.isSome
  first : 0 < size → ∀ allocation, state.allocList.find? (state.hits base size)
      = some allocation → base + size < 2 ^ 64
    ∧ ∀ pages ∈ allocation.fbPagesMem, pages.rangeNodeNum = 1
  boundary : 0 < size → state.allocList.find? (state.hits base size) = none
    → state.Boundary base size

/-- The condition in a range tree: the lookup finds a node, in a reservation it finds one
inside it, and the node with an allocation has the whole range. In a reservation the address
is a multiple of 4096, and if it is 0 the heap finds that place.
-/
def ClearTree (state : LookupState) (zone : ZoneId) (base size : Nat) (found : Option Nat)
    : Prop :=
  ∃ span, Found (state.ra zone) base size span
    ∧ match span.value with
      | .other => True
      | .allocation _ => 0 < size → base + size ≤ span.end
      | .sparse ra =>
          (base ≠ 0 → base % 4096 = 0)
          ∧ (base = 0 → ∀ place ∈ found, AddressSpace.Free span ra place size → place = 0)
          ∧ ∃ node, Found ra base size node ∧ (0 < size → base + size ≤ node.end)

/-- The condition under which lookups keep their promise, by the zone of the range. -/
def Clear (state : LookupState) (base size : Nat) (found : Option Nat) : Prop :=
  match state.vidmmVmGetZoneFromRange base size with
  | none => 0 < size → state.Boundary base size
  | some .shareSpaceLocal => state.ClearLocal base size
  | some zone => state.ClearTree zone base size found

/-- The loop over the list returns for the first allocation it stops at, unless one before
has no local memory. By induction on the list.
-/
theorem fetchDirect_eq (list : List ListedAllocation)
    : state.fetchDirect base size list
      = if ∀ allocation ∈ list.takeWhile fun allocation =>
          !state.hits base size allocation, allocation.fbPagesMem.isSome then
          some ((list.find? (state.hits base size)).bind fun allocation =>
            allocation.fbPagesMem.map fun pages =>
              (allocation.index, base - (state.sharedGpuVaOffset + pages.start)))
        else none := by
  induction list with
  | nil => simp [fetchDirect]
  | cons allocation rest ih =>
      rw [fetchDirect]
      cases fb : allocation.fbPagesMem with
      | none =>
          have misses : state.hits base size allocation = false := by simp [hits, fb]
          simp [misses, fb]
      | some pages =>
          have same : state.hits base size allocation
              = state.directHit base size allocation pages := by simp [hits, fb]
          cases hit : state.directHit base size allocation pages with
          | true => simp [same, hit, fb]
          | false => simp [same, hit, fb, ih]

/-- In a zone without local memory both calls look into its tree. -/
theorem calls_of_tree {zone : ZoneId} (tree : zone ≠ .shareSpaceLocal)
    (classified : state.vidmmVmGetZoneFromRange base size = some zone) (found : Option Nat)
    : state.vidmmVmAllocateSparseVmNode base size found
        = (match zxDrmMmRaLookup (state.ra zone) base size with
          | none => none
          | some range =>
              match range.value with
              | .sparse ra =>
                  AddressSpace.vidmmiVmAllocateNode range ra base size found
              | _ => some none)
      ∧ state.vidmmFetchAllocationByAddress base size
        = (match zxDrmMmRaLookup (state.ra zone) base size with
          | none => some none
          | some range =>
              match range.value with
              | .allocation index => some (some (index, base - range.start))
              | .other => some none
              | .sparse ra =>
                  (zxDrmMmRaLookup ra base size).map fun node =>
                    some (node.value, base - node.start)) := by
  unfold AddressSpace.vidmmVmAllocateSparseVmNode vidmmFetchAllocationByAddress
  rw [classified]
  cases zone with
  | shareSpaceLocal => exact absurd rfl tree
  | shareSpacePcie => exact ⟨rfl, rfl⟩
  | privateSpace => exact ⟨rfl, rfl⟩

/-- Outside all zones the promise is about the first address after local memory. -/
theorem sound_iff_of_no_zone (found : Option Nat)
    (classified : state.vidmmVmGetZoneFromRange base size = none)
    : state.Sound base size found ↔ (0 < size → state.Boundary base size) := by
  have fetched : state.vidmmFetchAllocationByAddress base size = some none := by
    rw [vidmmFetchAllocationByAddress, classified]
  constructor
  · intro sound positive _ index offset
    obtain ⟨result, same, exact⟩ := sound.fetch
    obtain rfl := Option.some.inj (fetched.symm.trans same)
    exact (exact positive).1 rfl .shareSpacePcie index offset
  · intro boundary
    refine ⟨⟨none, ?_, fun node made => (by cases made)⟩, none, fetched, ?_⟩
    · rw [AddressSpace.vidmmVmAllocateSparseVmNode, classified]
    · intro positive
      refine ⟨fun _ zone index offset mapped => ?_, fun _ _ made => (by cases made)⟩
      obtain ⟨_, known | ⟨rfl, first⟩⟩ := mapped.zone positive
      · rw [classified] at known
        cases known
      · exact boundary positive first index offset mapped

/-- A mapping and a node that give an address the same offset start at the same place. -/
theorem start_eq_of_offset {start place : Nat} (before : start ≤ base) (near : place ≤ base)
    (offset : base - place = base - start)
    : start = place := by
  omega

/-- An allocation at which the loop over the list stops, with its memory. -/
theorem hits_iff {allocation : ListedAllocation}
    : state.hits base size allocation = true
      ↔ ∃ pages, allocation.fbPagesMem = some pages ∧ allocation.isLocal = true
        ∧ state.sharedGpuVaOffset + pages.start ≤ base
        ∧ (base + size) % 2 ^ 64
          ≤ state.sharedGpuVaOffset + pages.start + allocation.size := by
  cases fb : allocation.fbPagesMem with
  | none => simp [hits, fb]
  | some pages => simp [hits, directHit, fb, and_assoc]

/-- The loop over the list stops at an allocation that is mapped over the range, if there is
one.
-/
theorem MappedOver.hits_local {index offset : Nat}
    (mapped : state.MappedOver .shareSpaceLocal base size index offset)
    : ∃ allocation ∈ state.allocList, state.hits base size allocation = true := by
  obtain ⟨start, length, mapping, before, after, _⟩ := mapped
  cases mapping with
  | node member => exact absurd member List.not_mem_nil
  | inner member => exact absurd member List.not_mem_nil
  | @direct allocation pages member isLocal fb one =>
      refine ⟨allocation, member, ?_⟩
      exact hits_iff.mpr ⟨pages, fb, isLocal, before, Nat.le_trans (Nat.mod_le _ _) after⟩

/-- In a range that is classified as local memory the promise is about the list. -/
theorem sound_iff_of_local (found : Option Nat)
    (classified : state.vidmmVmGetZoneFromRange base size = some .shareSpaceLocal)
    : state.Sound base size found ↔ state.ClearLocal base size := by
  have nothing : state.vidmmVmAllocateSparseVmNode base size found = some none := by
    rw [AddressSpace.vidmmVmAllocateSparseVmNode, classified]
  have fetched : state.vidmmFetchAllocationByAddress base size
      = state.fetchDirect base size state.allocList := by
    rw [vidmmFetchAllocationByAddress, classified]
  rw [fetchDirect_eq] at fetched
  constructor
  · intro sound
    obtain ⟨result, same, exact⟩ := sound.fetch
    rw [fetched] at same
    split at same
    next backed =>
      refine ⟨backed, ?_, ?_⟩
      · intro positive allocation stopped
        have member := List.mem_of_find?_eq_some stopped
        obtain ⟨pages, fb, isLocal, near, _⟩ := hits_iff.mp (List.find?_some stopped)
        rw [stopped, Option.bind_some, fb] at same
        obtain ⟨zone, mapped⟩ := (exact positive).2 _ _ (Option.some.inj same).symm
        refine ⟨(mapped.zone positive).1, ?_⟩
        obtain ⟨start, length, mapping, before, after, offset⟩ := mapped
        obtain rfl := start_eq_of_offset before near offset
        have here : state.Region (state.sharedGpuVaOffset + pages.start) .shareSpaceLocal :=
          ⟨Nat.le_add_right _ _,
            Nat.add_lt_add_left (state.inLocal allocation member pages fb isLocal).1 _⟩
        obtain rfl := here.unique (mapping.region ⟨Nat.le_refl _, by omega⟩)
        generalize place : state.sharedGpuVaOffset + pages.start = start at mapping
        generalize known : allocation.index = index at mapping
        intro other given
        obtain rfl := Option.some.inj (fb.symm.trans given)
        cases mapping with
        | node inTree => exact absurd inTree List.not_mem_nil
        | inner inTree => exact absurd inTree List.not_mem_nil
        | direct inList _ otherFb one =>
            have one' := state.sameAllocation _ member _ inList known
            rw [← one', fb] at otherFb
            exact Option.some.inj otherFb ▸ one
      · intro positive missed _ index offset
        rw [missed, Option.bind_none] at same
        exact (exact positive).1 (Option.some.inj same).symm .shareSpacePcie index offset
    next => cases same
  · intro clear
    rw [if_pos clear.backed] at fetched
    refine ⟨⟨none, nothing, fun node made => (by cases made)⟩, _, fetched, ?_⟩
    intro positive
    cases stopped : state.allocList.find? (state.hits base size) with
    | none =>
        refine ⟨fun _ zone index offset mapped => ?_, fun _ _ made => (by cases made)⟩
        obtain ⟨_, known | ⟨rfl, boundary⟩⟩ := mapped.zone positive
        · obtain rfl := Option.some.inj (classified.symm.trans known)
          obtain ⟨allocation, member, hit⟩ := mapped.hits_local
          exact List.find?_eq_none.mp stopped allocation member hit
        · exact clear.boundary positive stopped boundary index offset mapped
    | some allocation =>
        have member := List.mem_of_find?_eq_some stopped
        obtain ⟨pages, fb, isLocal, near, reaches⟩ := hits_iff.mp (List.find?_some stopped)
        obtain ⟨small, one⟩ := clear.first positive allocation stopped
        rw [Nat.mod_eq_of_lt small] at reaches
        rw [Option.bind_some, fb]
        refine ⟨fun made => (by cases made), fun index offset made => ?_⟩
        obtain ⟨rfl, rfl⟩ := Prod.mk.inj (Option.some.inj made)
        exact ⟨.shareSpaceLocal, _, _, .direct member isLocal fb (one pages fb), near, reaches,
          rfl⟩

/-- An allocation is mapped over a range only in the zone that a range tree is searched for. -/
theorem MappedOver.zone_eq {zone other : ZoneId} (tree : zone ≠ .shareSpaceLocal)
    (classified : state.vidmmVmGetZoneFromRange base size = some zone) (positive : 0 < size)
    {index offset : Nat} (mapped : state.MappedOver other base size index offset)
    : other = zone := by
  obtain ⟨small, known | ⟨rfl, boundary⟩⟩ := mapped.zone positive
  · exact Option.some.inj (known.symm.trans classified)
  · obtain ⟨start, length, mapping, before, after, _⟩ := mapped
    have here : state.Region base .shareSpacePcie := mapping.region ⟨before, by omega⟩
    have separate := state.separate
    simp only [AddressSpace.Region] at here
    unfold AddressSpace.vidmmVmGetZoneFromRange at classified
    dsimp only at classified
    rw [Nat.mod_eq_of_lt small] at classified
    split at classified
    next =>
      rw [if_pos (Nat.le_of_eq boundary)] at classified
      split at classified
      next => cases classified
      next => exact absurd (Option.some.inj classified).symm tree
    next =>
      split at classified
      next => omega
      next => cases classified

/-- An allocation that is mapped over a range is the one in the node that the lookup finds, at
the offset in that node or in the node inside it.
-/
theorem MappedOver.found {zone other : ZoneId} (tree : zone ≠ .shareSpaceLocal)
    (classified : state.vidmmVmGetZoneFromRange base size = some zone) (positive : 0 < size)
    {span : Span VmEntity} (known : Found (state.ra zone) base size span)
    {index offset : Nat} (mapped : state.MappedOver other base size index offset)
    : span.Contains base size
      ∧ (span.value = .allocation index ∧ offset = base - span.start
        ∨ ∃ ra node, span.value = .sparse ra ∧ Found ra base size node
          ∧ node.Contains base size ∧ node.value = index ∧ offset = base - node.start) := by
  obtain rfl := mapped.zone_eq tree classified positive
  obtain ⟨start, length, mapping, before, after, offset⟩ := mapped
  obtain ⟨other, otherKnown, whole, inside⟩ := mapping.found tree positive ⟨before, after⟩
  obtain rfl := known.unique (AddressSpace.ra_ordered _) otherKnown
  refine ⟨whole, ?_⟩
  rcases inside with ⟨value, same⟩ | ⟨ra, node, value, inner, nodeWhole, same, start⟩
  · exact .inl ⟨value, same ▸ offset⟩
  · exact .inr ⟨ra, node, value, inner, nodeWhole, same, start ▸ offset⟩

/-- In a range tree the first call is safe and exact if the reservation that is found, if any,
is asked for a place that can be used, and only then.
-/
theorem sparse_iff_of_tree {zone : ZoneId} (tree : zone ≠ .shareSpaceLocal)
    (classified : state.vidmmVmGetZoneFromRange base size = some zone) (found : Option Nat)
    {span : Span VmEntity} (known : Found (state.ra zone) base size span)
    : (∃ result, state.vidmmVmAllocateSparseVmNode base size found = some result
        ∧ ∀ node, result = some node →
          node.start = base ∧ node.size = size ∧ node.reservation.Contains base size
          ∧ (∃ ra, node.reservation.value = .sparse ra)
          ∧ ∃ zone, node.reservation ∈ (state.ra zone).spans)
      ↔ ∀ ra, span.value = .sparse ra →
        (base ≠ 0 → base % 4096 = 0)
        ∧ (base = 0 → ∀ place ∈ found, AddressSpace.Free span ra place size → place = 0) := by
  have looked := (lookup_eq_some_iff (AddressSpace.ra_ordered zone) base size span).mpr known
  rw [(calls_of_tree tree classified found).1, looked]
  dsimp only
  cases value : span.value with
  | allocation index =>
      exact ⟨fun _ ra other => (by cases other),
        fun _ => ⟨none, rfl, fun _ made => (by cases made)⟩⟩
  | other =>
      exact ⟨fun _ ra other => (by cases other),
        fun _ => ⟨none, rfl, fun _ made => (by cases made)⟩⟩
  | sparse ra =>
      dsimp only
      unfold AddressSpace.vidmmiVmAllocateNode
      by_cases zero : base = 0
      · rw [if_neg (not_not.mpr zero)]
        constructor
        · rintro ⟨result, made, exact⟩ other same
          obtain rfl := VmEntity.sparse.inj same
          refine ⟨fun nonzero => absurd zero nonzero, fun _ place given free => ?_⟩
          obtain rfl := Option.some.inj made
          rw [Option.mem_def.mp given, Option.bind_some, if_pos free] at exact
          exact ((exact _ rfl).1).trans zero
        · intro usable
          refine ⟨_, rfl, fun node made => ?_⟩
          obtain ⟨place, given, allocated⟩ := Option.bind_eq_some_iff.mp made
          split at allocated
          next free =>
            obtain rfl := (usable ra rfl).2 zero place given free
            obtain rfl := Option.some.inj allocated
            exact ⟨zero.symm, rfl, zero ▸ free.2.1, ⟨ra, value⟩, zone, known.1.1⟩
          next => cases allocated
      · rw [if_pos zero]
        by_cases aligned : base % 4096 = 0
        · rw [if_neg (not_not.mpr aligned)]
          constructor
          · intro _ other _
            exact ⟨fun _ => aligned, fun isZero => absurd isZero zero⟩
          · intro _
            split
            next free =>
              refine ⟨_, rfl, fun node made => ?_⟩
              obtain rfl := Option.some.inj made
              exact ⟨rfl, rfl, free.2.1, ⟨ra, value⟩, zone, known.1.1⟩
            next => exact ⟨none, rfl, fun _ made => (by cases made)⟩
        · rw [if_pos aligned]
          constructor
          · rintro ⟨result, made, _⟩
            cases made
          · intro usable
            exact absurd ((usable ra rfl).1 zero) aligned

/-- In a range tree the second call is safe and exact if what the lookup finds has the whole
range, and only then.
-/
theorem fetch_iff_of_tree {zone : ZoneId} (tree : zone ≠ .shareSpaceLocal)
    (classified : state.vidmmVmGetZoneFromRange base size = some zone)
    {span : Span VmEntity} (known : Found (state.ra zone) base size span)
    : (∃ result, state.vidmmFetchAllocationByAddress base size = some result
        ∧ (0 < size →
          (result = none → ∀ zone index offset, ¬ state.MappedOver zone base size index offset)
          ∧ ∀ index offset, result = some (index, offset)
            → ∃ zone, state.MappedOver zone base size index offset))
      ↔ match span.value with
        | .other => True
        | .allocation _ => 0 < size → base + size ≤ span.end
        | .sparse ra => ∃ node, Found ra base size node ∧ (0 < size → base + size ≤ node.end) := by
  have looked := (lookup_eq_some_iff (AddressSpace.ra_ordered zone) base size span).mpr known
  rw [(calls_of_tree tree classified none).2, looked]
  dsimp only
  cases value : span.value with
  | other =>
      refine ⟨fun _ => trivial, fun _ => ⟨none, rfl, fun positive => ⟨?_, ?_⟩⟩⟩
      · intro _ other index offset mapped
        rcases (mapped.found tree classified positive known).2 with ⟨same, _⟩ | ⟨_, _, same, _⟩
        · cases value.symm.trans same
        · cases value.symm.trans same
      · intro _ _ made
        cases made
  | allocation index =>
      constructor
      · rintro ⟨result, made, exact⟩ positive
        obtain rfl := Option.some.inj made
        obtain ⟨other, mapped⟩ := (exact positive).2 _ _ rfl
        exact (mapped.found tree classified positive known).1.2
      · intro reaches
        refine ⟨_, rfl, fun positive => ⟨fun made => (by cases made), ?_⟩⟩
        intro _ _ made
        obtain ⟨rfl, rfl⟩ := Prod.mk.inj (Option.some.inj made)
        exact ⟨zone, span.start, span.size, .node known.1.1 value, known.1.2.1,
          reaches positive, rfl⟩
  | sparse ra =>
      have sparse := AddressSpace.ra_sparse known.1.1 value
      constructor
      · rintro ⟨result, made, exact⟩
        obtain ⟨node, inside, rfl⟩ := Option.map_eq_some_iff.mp made
        have inner := (lookup_eq_some_iff sparse.1 base size node).mp inside
        refine ⟨node, inner, fun positive => ?_⟩
        obtain ⟨other, mapped⟩ := (exact positive).2 _ _ rfl
        rcases (mapped.found tree classified positive known).2
          with ⟨same, _⟩ | ⟨tree', node', same, innerFound, whole, _⟩
        · cases value.symm.trans same
        · obtain rfl := VmEntity.sparse.inj (value.symm.trans same)
          obtain rfl := inner.unique sparse.1 innerFound
          exact whole.2
      · rintro ⟨node, inner, reaches⟩
        have inside := (lookup_eq_some_iff sparse.1 base size node).mpr inner
        refine ⟨some (node.value, base - node.start),
          Option.map_eq_some_iff.mpr ⟨node, inside, rfl⟩, fun positive => ?_⟩
        refine ⟨fun made => (by cases made), fun _ _ made => ?_⟩
        obtain ⟨rfl, rfl⟩ := Prod.mk.inj (Option.some.inj made)
        exact ⟨zone, node.start, node.size, .inner known.1.1 value inner.1.1, inner.1.2.1,
          reaches positive, rfl⟩

/-- In a range tree the promise is about the nodes that the lookup finds. -/
theorem sound_iff_of_tree {zone : ZoneId} (tree : zone ≠ .shareSpaceLocal)
    (classified : state.vidmmVmGetZoneFromRange base size = some zone) (found : Option Nat)
    : state.Sound base size found ↔ state.ClearTree zone base size found := by
  constructor
  · intro sound
    obtain ⟨result, made, _⟩ := sound.sparse
    cases looked : zxDrmMmRaLookup (state.ra zone) base size with
    | none =>
        rw [(calls_of_tree tree classified found).1, looked] at made
        cases made
    | some span =>
        have known := (lookup_eq_some_iff (AddressSpace.ra_ordered zone) base size span).mp looked
        have sparse := (sparse_iff_of_tree tree classified found known).mp sound.sparse
        have fetch := (fetch_iff_of_tree tree classified known).mp sound.fetch
        refine ⟨span, known, ?_⟩
        cases value : span.value with
        | other => trivial
        | allocation index =>
            rw [value] at fetch
            exact fetch
        | sparse ra =>
            rw [value] at fetch
            exact ⟨(sparse ra value).1, (sparse ra value).2, fetch⟩
  · rintro ⟨span, known, clear⟩
    refine ⟨(sparse_iff_of_tree tree classified found known).mpr ?_,
      (fetch_iff_of_tree tree classified known).mpr ?_⟩
    · intro ra value
      rw [value] at clear
      exact ⟨clear.1, clear.2.1⟩
    · cases value : span.value with
      | other => trivial
      | allocation index =>
          rw [value] at clear
          exact clear
      | sparse ra =>
          rw [value] at clear
          exact clear.2.2

/-- Lookups are safe and exact for a range if what they find is backed and has the range as a
whole, and only then.
-/
theorem lookups_sound_iff (state : LookupState) (base size : U64) (found : Option Nat)
    : state.Sound base.toNat size.toNat found ↔ state.Clear base.toNat size.toNat found := by
  unfold Clear
  cases classified : state.vidmmVmGetZoneFromRange base.toNat size.toNat with
  | none => exact sound_iff_of_no_zone found classified
  | some zone =>
      cases zone with
      | shareSpaceLocal => exact sound_iff_of_local found classified
      | shareSpacePcie => exact sound_iff_of_tree (by decide) classified found
      | privateSpace => exact sound_iff_of_tree (by decide) classified found

/-- A private space with one reservation of 64 KiB in which nothing is mapped. -/
def emptyReservation : LookupState where
  sharedGpuVaOffset := 0
  sharedGpuVaSize := 0x100000
  totalLocalMemorySize := 0x80000
  pcie := none
  privateStart := 0x100000
  privateSize := 0x100000
  privateRa := .node .leaf ⟨0x100000, 0x10000, .sparse .leaf⟩ .leaf
  allocList := []
  sharedSmall := by decide
  privateSmall := by decide
  localInside := by decide
  separate := by decide
  pcieOrdered := by simp
  pcieInside := by simp
  privateOrdered := ⟨by simp [RangeTree.spans], by simp [RangeTree.spans]⟩
  privateInside := by simp [RangeTree.spans, Span.end]
  sparseOrdered := by
    intro ra known span member inner value
    rcases known with pcie | rfl
    · cases pcie
    · obtain rfl : span = ⟨0x100000, 0x10000, .sparse .leaf⟩ := by
        simpa [RangeTree.spans] using member
      obtain rfl := VmEntity.sparse.inj value
      exact ⟨⟨by simp [RangeTree.spans], by simp [RangeTree.spans]⟩, by simp [RangeTree.spans]⟩
  inLocal := by simp
  sameAllocation := by simp

/-- A place in a reservation where nothing is mapped is read through `NULL`. -/
theorem emptyReservation_not_sound
    : emptyReservation.vidmmFetchAllocationByAddress 0x101000 0x1000 = none
      ∧ ¬ emptyReservation.Sound (0x101000 : U64).toNat (0x1000 : U64).toNat none := by
  have missed : emptyReservation.vidmmFetchAllocationByAddress 0x101000 0x1000 = none := by
    rfl
  refine ⟨missed, fun sound => ?_⟩
  obtain ⟨result, made, _⟩ := sound.fetch
  cases missed.symm.trans made

end LookupState

end Cx4Kernel.Vidmm
