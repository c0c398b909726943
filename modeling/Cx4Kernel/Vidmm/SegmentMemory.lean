import Mathlib.Logic.Function.Basic
import Cx4Kernel.Vidmm.Paging

/-! Segment memory and what is behind it: `vidmm_create_segment_memory` with its retry loop,
and the calls that go to the backing later, from `vidmm_allocate.c` and `vidmm_vm.c`. A result
`none` of those stands for a failed `zx_assert` or a read through `NULL`.
-/

namespace Cx4Kernel.Vidmm

/-- `vidmm_segment_memory_t`, whose memory objects are named by numbers. -/
structure SegmentMemoryObject where
  segmentId : Nat
  size : U64
  isLocal : Bool
  pagesMem : Option Nat
  fbPagesMem : Option Nat
deriving DecidableEq

/-- The counters of a segment. -/
structure SegmentCounters where
  usedSize : U64
  usedSegmentMemorySize : U64
deriving DecidableEq

/-- How the calls inside end: the allocation of system pages, each allocation of local memory,
and each pass of evictions with the bytes that it takes off `used_size` of its segment.
-/
structure SegmentMemoryOracle where
  pages : Option Nat
  fbPages : Nat → Option Nat
  evict : Nat → PagingStatus × U64

/-- What the call leaves behind: its result, the counters, and what evictions took off. -/
structure SegmentMemoryCreation where
  memory : Option SegmentMemoryObject
  counters : Nat → SegmentCounters
  freed : U64

/-- How the retry loop is left: to `allocate_fail`, or on with a memory object or none. -/
inductive FbRetry where
  | allocateFail
  | goesOn (fbPagesMem : Option Nat)
deriving DecidableEq

/-- `util_align(size, os_page_size)`, whose mask has 32 bits as `os_page_size` does. -/
def utilAlign (size : U64) (osPageSize : U32) : U64 :=
  (size + osPageSize.setWidth 64 - 1) &&& (~~~(osPageSize - 1)).setWidth 64

/-- The loop at `retry`, with `try_times` and the number of allocations before. It returns
what evictions took off, too.
-/
def fbRetry (oracle : SegmentMemoryOracle) : (tryTimes attempt : Nat) → FbRetry × U64
  | tryTimes, attempt =>
      match oracle.fbPages attempt with
      | some memory => (.goesOn (some memory), 0)
      | none =>
          match tryTimes with
          | 0 => (.allocateFail, 0)
          | tryTimes + 1 =>
              let (pagingResult, bytes) := oracle.evict attempt
              if pagingResult = .ok then
                let (left, freed) := fbRetry oracle tryTimes (attempt + 1)
                (left, bytes + freed)
              else (.goesOn none, bytes)

/-- `used_size` and `used_segment_memory_size` grow by a size. -/
def SegmentCounters.add (counters : SegmentCounters) (size : U64) : SegmentCounters :=
  ⟨counters.usedSize + size, counters.usedSegmentMemorySize + size⟩

/-- Evictions of segment 1 take bytes off its `used_size`. -/
def takeOff (counters : Nat → SegmentCounters) (freed : U64) : Nat → SegmentCounters :=
  Function.update counters segmentIdLocal
    { counters segmentIdLocal with usedSize := (counters segmentIdLocal).usedSize - freed }

/-- `vidmm_create_segment_memory`, for a segment with or without `flags.local`. -/
def vidmmCreateSegmentMemory (oracle : SegmentMemoryOracle)
    (counters : Nat → SegmentCounters) (osPageSize : U32) (segmentId : Nat) (isLocal : Bool)
    (size : U64) : SegmentMemoryCreation :=
  if !isLocal then
    match oracle.pages with
    | none => ⟨none, counters, 0⟩
    | some pages =>
        let memory : SegmentMemoryObject :=
          ⟨segmentId, utilAlign size osPageSize, false, some pages, none⟩
        ⟨some memory,
          Function.update counters segmentId ((counters segmentId).add memory.size), 0⟩
  else
    match fbRetry oracle 10 0 with
    | (.allocateFail, freed) => ⟨none, takeOff counters freed, freed⟩
    | (.goesOn fbPagesMem, freed) =>
        let counters := takeOff counters freed
        let memory : SegmentMemoryObject :=
          match fbPagesMem with
          | some _ => ⟨segmentId, size, true, none, fbPagesMem⟩
          | none => ⟨segmentId, 0, false, none, none⟩
        ⟨some memory,
          Function.update counters segmentId ((counters segmentId).add memory.size), freed⟩

/-- `vidmm_vm_allocate_segment_memory`, with the end of the allocation of a node: it returns
whether it succeeds.
-/
def vidmmVmAllocateSegmentMemory (memory : SegmentMemoryObject) (node : Bool) : Option Bool :=
  if memory.isLocal then
    match memory.fbPagesMem with
    | some _ => some true
    | none => some false
  else some node

/-- `vidmm_lock_segment_memory`, of memory that is not locked: the object that it maps. -/
def vidmmLockSegmentMemory (memory : SegmentMemoryObject) : Option Nat :=
  if memory.isLocal then memory.fbPagesMem else memory.pagesMem

/-- `vidmm_destroy_segment_memory`: the object that it frees, and the counters. -/
def vidmmDestroySegmentMemory (counters : Nat → SegmentCounters) (memory : SegmentMemoryObject)
    : Option (Nat × (Nat → SegmentCounters)) :=
  (if memory.isLocal then memory.fbPagesMem else memory.pagesMem).map fun object =>
    (object,
      Function.update counters memory.segmentId
        ((counters memory.segmentId).add (-memory.size)))

/-- What the call promises: nothing and unchanged counters, or memory with its backing, of
the size asked for at least, that both counters have grown by. What evictions took off the
counters in between is their own.
-/
structure SegmentMemoryCreation.Backed (creation : SegmentMemoryCreation)
    (counters : Nat → SegmentCounters) (segmentId : Nat) (isLocal : Bool) (size : U64)
    : Prop where
  nothing : creation.memory = none → creation.counters = takeOff counters creation.freed
  memory : ∀ {memory}, creation.memory = some memory →
    memory.isLocal = isLocal
    ∧ (if isLocal then memory.fbPagesMem else memory.pagesMem).isSome
    ∧ size ≤ memory.size
    ∧ creation.counters
      = Function.update (takeOff counters creation.freed) segmentId
          ((takeOff counters creation.freed segmentId).add memory.size)
  used : ∀ {memory}, creation.memory = some memory →
    (∀ node, (vidmmVmAllocateSegmentMemory memory node).isSome)
    ∧ (vidmmLockSegmentMemory memory).isSome
    ∧ (vidmmDestroySegmentMemory creation.counters memory).isSome

/-- When the promise is kept: no pass of evictions fails that an allocation with tries left
waits for, and system pages are not more than 2^32 bytes once they are aligned.
-/
def SegmentMemoryOracle.Succeeds (oracle : SegmentMemoryOracle) (osPageSize : U32)
    (isLocal : Bool) (size : U64) : Prop :=
  if isLocal then
    ∀ attempt < 10, (∀ earlier ≤ attempt, oracle.fbPages earlier = none)
      → (oracle.evict attempt).1 = .ok
  else oracle.pages.isSome → size.toNat ≤ 2 ^ 32 - osPageSize.toNat

/-- The retry loop goes on without memory exactly if a pass of evictions fails that an
allocation with tries left waits for, by induction on these tries.
-/
theorem fbRetry_none_iff (oracle : SegmentMemoryOracle) (tryTimes attempt : Nat)
    : (fbRetry oracle tryTimes attempt).1 = .goesOn none
      ↔ ∃ later < tryTimes, (∀ earlier ≤ later, oracle.fbPages (attempt + earlier) = none)
        ∧ (oracle.evict (attempt + later)).1 ≠ .ok := by
  induction tryTimes generalizing attempt with
  | zero =>
      unfold fbRetry
      constructor
      · intro left
        split at left <;> cases left
      · intro found
        obtain ⟨later, below, _⟩ := found
        exact absurd below (Nat.not_lt_zero later)
  | succ tryTimes ih =>
      unfold fbRetry
      cases first : oracle.fbPages attempt with
      | some memory =>
          constructor
          · intro left
            cases left
          · intro found
            obtain ⟨later, _, missing, _⟩ := found
            have here := missing 0 (Nat.zero_le later)
            rw [Nat.add_zero, first] at here
            cases here
      | none =>
          dsimp only
          by_cases ok : (oracle.evict attempt).1 = .ok
          · rw [if_pos ok]
            dsimp only
            rw [ih]
            constructor
            · intro found
              obtain ⟨later, below, missing, fails⟩ := found
              refine ⟨later + 1, Nat.succ_lt_succ below, ?_, ?_⟩
              · intro earlier bound
                cases earlier with
                | zero => exact first
                | succ earlier =>
                    have here := missing earlier (Nat.le_of_succ_le_succ bound)
                    rwa [Nat.add_right_comm] at here
              · rwa [Nat.add_right_comm] at fails
            · intro found
              obtain ⟨later, below, missing, fails⟩ := found
              cases later with
              | zero => exact absurd ok fails
              | succ later =>
                  refine ⟨later, Nat.lt_of_succ_lt_succ below, ?_, ?_⟩
                  · intro earlier bound
                    rw [Nat.add_right_comm]
                    exact missing (earlier + 1) (Nat.succ_le_succ bound)
                  · rw [Nat.add_right_comm]
                    exact fails
          · rw [if_neg ok]
            refine ⟨fun _ => ⟨0, Nat.succ_pos _, ?_, ok⟩, fun _ => rfl⟩
            intro earlier bound
            rw [Nat.le_zero.mp bound]
            exact first

/-- An aligned size reaches the size itself exactly if both stay below 2^32, for page sizes
that are powers of 2.
-/
theorem le_utilAlign_iff (size : U64) {osPageSize : U32} {shift : Nat}
    (power : osPageSize.toNat = 2 ^ shift)
    : size ≤ utilAlign size osPageSize ↔ size.toNat ≤ 2 ^ 32 - osPageSize.toNat := by
  have pageBound := osPageSize.isLt
  have positive : 0 < 2 ^ shift := Nat.two_pow_pos shift
  have divides : 2 ^ shift ∣ 2 ^ 32 := by
    apply Nat.pow_dvd_pow
    apply Nat.le_of_lt
    exact (Nat.pow_lt_pow_iff_right (by decide)).mp (power ▸ pageBound)
  obtain ⟨blocks, whole⟩ := divides
  have sum : (size + osPageSize.setWidth 64 - 1).toNat
      = (size.toNat + 2 ^ shift - 1) % 2 ^ 64 := by
    rw [BitVec.toNat_sub, BitVec.toNat_add, BitVec.toNat_setWidth, power,
      show (1 : U64).toNat = 1 from rfl]
    omega
  rw [BitVec.le_def, utilAlign, toNat_and_not_mask _ power, sum, power]
  generalize total : (size.toNat + 2 ^ shift - 1) % 2 ^ 64 % 2 ^ 32 = low
  constructor
  · intro reached
    have inside : low / 2 ^ shift < blocks :=
      Nat.div_lt_of_lt_mul (by rw [← whole, ← total]; exact Nat.mod_lt _ (by decide))
    have below := Nat.mul_le_mul_right (2 ^ shift) (Nat.succ_le_of_lt inside)
    rw [Nat.succ_mul, Nat.mul_comm blocks, ← whole] at below
    omega
  · intro small
    have exact : low = size.toNat + 2 ^ shift - 1 := by omega
    have floor := Nat.div_add_mod low (2 ^ shift)
    have rest := Nat.mod_lt low positive
    rw [Nat.mul_comm]
    omega

/-- Nothing that is taken off leaves the counters unchanged. -/
theorem takeOff_zero (counters : Nat → SegmentCounters) : takeOff counters 0 = counters := by
  have same : (counters segmentIdLocal).usedSize - 0 = (counters segmentIdLocal).usedSize :=
    BitVec.sub_zero _
  unfold takeOff
  rw [same]
  exact Function.update_eq_self segmentIdLocal counters

/-- Every pass of evictions that matters succeeds exactly if the retry loop does not go on
without memory.
-/
theorem succeeds_iff_fbRetry (oracle : SegmentMemoryOracle) (osPageSize : U32) (size : U64)
    : oracle.Succeeds osPageSize true size ↔ (fbRetry oracle 10 0).1 ≠ .goesOn none := by
  rw [SegmentMemoryOracle.Succeeds, if_pos rfl, Ne, fbRetry_none_iff]
  simp only [Nat.zero_add]
  constructor
  · intro succeeds found
    obtain ⟨attempt, below, missing, fails⟩ := found
    exact fails (succeeds attempt below missing)
  · intro none attempt below missing
    apply Decidable.not_not.mp
    intro fails
    exact none ⟨attempt, below, missing, fails⟩

/-- Segment memory is returned with its backing, or not at all with unchanged counters,
exactly if the allocators and evictions behave as `Succeeds` says.
-/
theorem vidmmCreateSegmentMemory_backed_iff (oracle : SegmentMemoryOracle)
    (counters : Nat → SegmentCounters) {osPageSize : U32} {shift : Nat}
    (power : osPageSize.toNat = 2 ^ shift) (segmentId : Nat) (isLocal : Bool) (size : U64)
    : (vidmmCreateSegmentMemory oracle counters osPageSize segmentId isLocal size).Backed
          counters segmentId isLocal size
      ↔ oracle.Succeeds osPageSize isLocal size := by
  cases isLocal with
  | false =>
      rw [SegmentMemoryOracle.Succeeds, if_neg (by decide), vidmmCreateSegmentMemory,
        if_pos (by decide), ← le_utilAlign_iff size power]
      cases pages : oracle.pages with
      | none =>
          refine ⟨fun _ absent => (by cases absent), fun _ => ⟨fun _ => ?_, ?_, ?_⟩⟩
          · exact (takeOff_zero counters).symm
          · exact fun made => (by cases made)
          · exact fun made => (by cases made)
      | some object =>
          constructor
          · intro backed _
            exact (backed.memory rfl).2.2.1
          · intro reached
            refine ⟨fun absent => (by cases absent), ?_, ?_⟩
            · intro memory made
              obtain rfl := Option.some.inj made
              refine ⟨rfl, rfl, reached rfl, ?_⟩
              dsimp only
              rw [takeOff_zero]
            · intro memory made
              obtain rfl := Option.some.inj made
              exact ⟨fun _ => rfl, rfl, rfl⟩
  | true =>
      rw [succeeds_iff_fbRetry, vidmmCreateSegmentMemory, if_neg (by decide)]
      obtain ⟨left, freed⟩ := fbRetry oracle 10 0
      cases left with
      | allocateFail =>
          refine ⟨fun _ same => (by cases same), fun _ => ⟨fun _ => rfl, ?_, ?_⟩⟩
          · exact fun made => (by cases made)
          · exact fun made => (by cases made)
      | goesOn fbPagesMem =>
          cases fbPagesMem with
          | none =>
              constructor
              · intro backed _
                have same := (backed.memory rfl).1
                cases same
              · intro goesOn
                exact absurd rfl goesOn
          | some object =>
              refine ⟨fun _ same => (by cases same), fun _ => ⟨?_, ?_, ?_⟩⟩
              · exact fun absent => (by cases absent)
              · intro memory made
                obtain rfl := Option.some.inj made
                exact ⟨rfl, rfl, BitVec.le_refl _, rfl⟩
              · intro memory made
                obtain rfl := Option.some.inj made
                exact ⟨fun _ => rfl, rfl, rfl⟩

/-- Local memory that is found after one pass of evictions. -/
def secondAttempt : SegmentMemoryOracle :=
  ⟨none, fun attempt => if attempt = 0 then none else some 7, fun _ => (.ok, 4096)⟩

theorem secondAttempt_backed
    : (vidmmCreateSegmentMemory secondAttempt (fun _ => ⟨8192, 0⟩) 4096 1 true 4096).Backed
        (fun _ => ⟨8192, 0⟩) 1 true 4096 := by
  apply (vidmmCreateSegmentMemory_backed_iff secondAttempt (fun _ => ⟨8192, 0⟩)
    (show (4096 : U32).toNat = 2 ^ 12 from rfl) 1 true 4096).mpr
  exact fun _ _ _ => rfl

/-- A local heap without memory, and evictions that fail. -/
def evictionFails : SegmentMemoryOracle := ⟨none, fun _ => none, fun _ => (.fail, 0)⟩

/-- After a failed eviction the call returns an object without any memory, which is destroyed
through `NULL`.
-/
theorem evictionFails_not_backed
    : (vidmmCreateSegmentMemory evictionFails (fun _ => ⟨0, 0⟩) 4096 1 true 4096).memory
        = some ⟨1, 0, false, none, none⟩
      ∧ vidmmDestroySegmentMemory (fun _ => ⟨0, 0⟩) ⟨1, 0, false, none, none⟩ = none
      ∧ ¬ (vidmmCreateSegmentMemory evictionFails (fun _ => ⟨0, 0⟩) 4096 1 true 4096).Backed
          (fun _ => ⟨0, 0⟩) 1 true 4096 := by
  refine ⟨by decide, rfl, fun backed => ?_⟩
  have same := (backed.memory (by decide :
    (vidmmCreateSegmentMemory evictionFails (fun _ => ⟨0, 0⟩) 4096 1 true 4096).memory
      = some ⟨1, 0, false, none, none⟩)).1
  cases same

end Cx4Kernel.Vidmm
