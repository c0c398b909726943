import Cx4Kernel.Vidmm.AddressSpace

/-! The zones that the chip code lays out for an adapter, from `vidmm_e3k.c`, and when the zone
of a range is found exactly. The first address after local memory is taken for local memory,
and so are ranges that cross into the PCIE zone; the sum of an address and a size may wrap.
-/

namespace Cx4Kernel.Vidmm

/-- `GPU_VA_SPACE_TOTAL_SIZE`. -/
def gpuVaSpaceTotalSize : U64 := 0x10000000000

/-- `GPU_VA_SHARED_SPACE_PCIE_SIZE_ELT3K`. -/
def gpuVaSharedSpacePcieSizeElt3k : U64 := 0x100000000

/-- `GPU_VA_PRIVATE_VMA_SPACE_SIZE`. -/
def gpuVaPrivateVmaSpaceSize : U64 := 0x400000000

/-- `GPU_VA_SHARED_SPACE_OFFSET_ELT3K`. -/
def gpuVaSharedSpaceOffsetElt3k : U64 := 0

/-- What the zones depend on. The local memory is `total_mem_size_mb`, of 32 bits, shifted by
20, or less.
-/
structure AdapterMemory where
  totalLocalMemorySize : U64
  sharePcieEnable : Bool
  /-- `chip_id == CHIP_CNE001` -/
  isCne001 : Bool
  megabytes : totalLocalMemorySize.toNat < 2 ^ 52

/-- `zx_vm_zone_desc_t`. -/
structure ZoneDesc where
  gpuVmStart : U64
  gpuVmSize : U64

/-- The shared space of the adapter and the zones of `vidmm_chip_vm_info_t`. -/
structure ChipVmInfo where
  totalLocalMemorySize : U64
  sharedGpuVaOffset : U64
  sharedGpuVaSize : U64
  desc : ZoneId → ZoneDesc

/-- An address rounded up to 4 GiB. -/
def alignUp4G (address : U64) : U64 :=
  (address + 0x100000000 - 1) &&& ~~~(0x100000000 - 1)

/-- `vidmm_query_chip_vm_info_e3k`. -/
def vidmmQueryChipVmInfoE3k (adapter : AdapterMemory) : ChipVmInfo :=
  let shared := alignUp4G <|
    if adapter.sharePcieEnable then
      adapter.totalLocalMemorySize + gpuVaSharedSpacePcieSizeElt3k
    else adapter.totalLocalMemorySize
  let shareLocal : ZoneDesc := ⟨gpuVaSharedSpaceOffsetElt3k, adapter.totalLocalMemorySize⟩
  let sharePcie : ZoneDesc :=
    if adapter.sharePcieEnable then
      ⟨adapter.totalLocalMemorySize, shared - adapter.totalLocalMemorySize⟩
    else ⟨0, 0⟩
  let before := if adapter.sharePcieEnable then sharePcie else shareLocal
  let privateStart := alignUp4G (before.gpuVmStart + before.gpuVmSize)
  {
    totalLocalMemorySize := adapter.totalLocalMemorySize
    sharedGpuVaOffset := gpuVaSharedSpaceOffsetElt3k
    sharedGpuVaSize := shared
    desc := fun
      | .shareSpaceLocal => shareLocal
      | .shareSpacePcie => sharePcie
      | .privateSpace =>
          ⟨privateStart,
            if adapter.isCne001 then gpuVaPrivateVmaSpaceSize * 4
            else gpuVaSpaceTotalSize - privateStart⟩
  }

namespace ChipVmInfo

variable (info : ChipVmInfo)

/-- `vma_space->zones[id]`: `vidmmi_vm_init_zone` leaves out zones without memory. -/
def zones (id : ZoneId) : Option ZoneId :=
  if (info.desc id).gpuVmSize = 0 then none else some id

/-- `vidmm_vm_get_zone_from_range`; `none` reads a private zone that was left out. -/
def vidmmVmGetZoneFromRange (base size : U64) : Option (Option ZoneId) :=
  if info.sharedGpuVaOffset ≤ base
      ∧ base + size ≤ info.sharedGpuVaOffset + info.sharedGpuVaSize then
    if base ≤ info.sharedGpuVaOffset + info.totalLocalMemorySize then
      some (info.zones .shareSpaceLocal)
    else some (info.zones .shareSpacePcie)
  else
    (info.zones .privateSpace).map fun zone =>
      if (info.desc zone).gpuVmStart ≤ base
          ∧ base + size ≤ (info.desc zone).gpuVmStart + (info.desc zone).gpuVmSize then
        some zone
      else none

/-- A range lies in a zone. -/
def Inside (base size : U64) (zone : ZoneId) : Prop :=
  (info.desc zone).gpuVmStart.toNat ≤ base.toNat
    ∧ base.toNat + size.toNat
      ≤ (info.desc zone).gpuVmStart.toNat + (info.desc zone).gpuVmSize.toNat

/-- The zone that is returned is the zone that a range lies in. -/
def Exact (base size : U64) : Prop :=
  ∃ found, info.vidmmVmGetZoneFromRange base size = some found
    ∧ ∀ zone, found = some zone ↔ info.Inside base size zone

/-- A range that ends in the shared space does not start at or before the end of local memory
and end behind it. Behind the shared space there is a private zone, which ends below 2^64, and
ranges that wrap end behind the shared space and, if they start there, behind the private zone.
-/
structure Classified (base size : U64) : Prop where
  shared : base.toNat + size.toNat ≤ info.sharedGpuVaSize.toNat →
    base.toNat ≤ info.totalLocalMemorySize.toNat →
      base.toNat + size.toNat ≤ info.totalLocalMemorySize.toNat
  made : info.sharedGpuVaSize.toNat < base.toNat + size.toNat →
    (info.desc .privateSpace).gpuVmSize ≠ 0
  straight : base.toNat + size.toNat < 2 ^ 64 → info.sharedGpuVaSize.toNat ≤ base.toNat →
    (info.desc .privateSpace).gpuVmStart.toNat + (info.desc .privateSpace).gpuVmSize.toNat
      < 2 ^ 64
  wrapped : 2 ^ 64 ≤ base.toNat + size.toNat →
    info.sharedGpuVaSize < base + size
      ∧ (info.sharedGpuVaSize ≤ base →
        (info.desc .privateSpace).gpuVmStart + (info.desc .privateSpace).gpuVmSize
          < base + size)

end ChipVmInfo

/-- Rounding up to 4 GiB. -/
theorem alignUp4G_toNat {address : U64} (small : address.toNat < 2 ^ 63)
    : (alignUp4G address).toNat = (address.toNat + (2 ^ 32 - 1)) / 2 ^ 32 * 2 ^ 32 := by
  have ones : (0x100000000 - 1 : U64).toNat = 2 ^ 32 - 1 := by decide
  have sum : (address + 0x100000000 - 1).toNat = address.toNat + (2 ^ 32 - 1) := by bv_omega
  rw [alignUp4G, toNat_and_not_ones _ ones, sum]

/-- The zones of an adapter with a PCIE zone: local memory from 0, the PCIE zone up to the end
of the shared space, and the private space from there.
-/
structure AdapterMemory.Zones (adapter : AdapterMemory) (info : ChipVmInfo) : Prop where
  local_end : info.totalLocalMemorySize.toNat = adapter.totalLocalMemorySize.toNat
  offset : info.sharedGpuVaOffset = 0
  larger : info.totalLocalMemorySize.toNat + 2 ^ 32 ≤ info.sharedGpuVaSize.toNat
  small : info.sharedGpuVaSize.toNat < 2 ^ 53
  shareLocal : info.desc .shareSpaceLocal = ⟨0, info.totalLocalMemorySize⟩
  sharePcie : info.desc .shareSpacePcie
    = ⟨info.totalLocalMemorySize, info.sharedGpuVaSize - info.totalLocalMemorySize⟩
  privateStart : (info.desc .privateSpace).gpuVmStart = info.sharedGpuVaSize

/-- The chip code lays out the zones so. -/
theorem AdapterMemory.zones (adapter : AdapterMemory) (enabled : adapter.sharePcieEnable = true)
    : adapter.Zones (vidmmQueryChipVmInfoE3k adapter) := by
  have total := adapter.megabytes
  have pcie : gpuVaSharedSpacePcieSizeElt3k.toNat = 2 ^ 32 := by decide
  have sum : (adapter.totalLocalMemorySize + gpuVaSharedSpacePcieSizeElt3k).toNat
      = adapter.totalLocalMemorySize.toNat + 2 ^ 32 := by
    rw [BitVec.toNat_add, pcie]
    omega
  have shared : (vidmmQueryChipVmInfoE3k adapter).sharedGpuVaSize
      = alignUp4G (adapter.totalLocalMemorySize + gpuVaSharedSpacePcieSizeElt3k) := by
    simp only [vidmmQueryChipVmInfoE3k, enabled, if_true]
  have rounded : (vidmmQueryChipVmInfoE3k adapter).sharedGpuVaSize.toNat
      = (adapter.totalLocalMemorySize.toNat + 2 ^ 32 + (2 ^ 32 - 1)) / 2 ^ 32 * 2 ^ 32 := by
    rw [shared, alignUp4G_toNat (sum ▸ by omega), sum]
  refine ⟨rfl, rfl, ?_, ?_, rfl, ?_, ?_⟩
  · change adapter.totalLocalMemorySize.toNat + 2 ^ 32 ≤ _
    omega
  · omega
  · simp only [vidmmQueryChipVmInfoE3k, enabled, if_true]
  · have again : (alignUp4G (vidmmQueryChipVmInfoE3k adapter).sharedGpuVaSize).toNat
        = (vidmmQueryChipVmInfoE3k adapter).sharedGpuVaSize.toNat := by
      rw [alignUp4G_toNat (by omega), rounded]
      omega
    have whole : adapter.totalLocalMemorySize
        + ((vidmmQueryChipVmInfoE3k adapter).sharedGpuVaSize - adapter.totalLocalMemorySize)
        = (vidmmQueryChipVmInfoE3k adapter).sharedGpuVaSize :=
      by rw [BitVec.add_comm, BitVec.sub_add_cancel]
    rw [← BitVec.eq_of_toNat_eq again, ← whole]
    simp only [vidmmQueryChipVmInfoE3k, enabled, if_true]

namespace ChipVmInfo

variable {adapter : AdapterMemory} {info : ChipVmInfo} {base size : U64}

/-- Where the zones are, in numbers. -/
theorem inside_local (zones : adapter.Zones info)
    : info.Inside base size .shareSpaceLocal
      ↔ base.toNat + size.toNat ≤ info.totalLocalMemorySize.toNat := by
  unfold Inside
  rw [zones.shareLocal]
  simp

theorem inside_pcie (zones : adapter.Zones info)
    : info.Inside base size .shareSpacePcie
      ↔ info.totalLocalMemorySize.toNat ≤ base.toNat
        ∧ base.toNat + size.toNat ≤ info.sharedGpuVaSize.toNat := by
  have larger := zones.larger
  have rest : (info.sharedGpuVaSize - info.totalLocalMemorySize).toNat
      = info.sharedGpuVaSize.toNat - info.totalLocalMemorySize.toNat := by
    bv_omega
  unfold Inside
  rw [zones.sharePcie]
  change info.totalLocalMemorySize.toNat ≤ _
    ∧ _ ≤ info.totalLocalMemorySize.toNat
      + (info.sharedGpuVaSize - info.totalLocalMemorySize).toNat ↔ _
  rw [rest]
  omega

theorem inside_private (zones : adapter.Zones info)
    : info.Inside base size .privateSpace
      ↔ info.sharedGpuVaSize.toNat ≤ base.toNat
        ∧ base.toNat + size.toNat
          ≤ info.sharedGpuVaSize.toNat + (info.desc .privateSpace).gpuVmSize.toNat := by
  unfold Inside
  rw [zones.privateStart]

/-- A result is exact if it is one zone and the range lies in this zone only. -/
theorem exact_of_result {found : Option ZoneId}
    (result : info.vidmmVmGetZoneFromRange base size = some found)
    : info.Exact base size
      ↔ (found = some .shareSpaceLocal ↔ info.Inside base size .shareSpaceLocal)
        ∧ (found = some .shareSpacePcie ↔ info.Inside base size .shareSpacePcie)
        ∧ (found = some .privateSpace ↔ info.Inside base size .privateSpace) := by
  constructor
  · rintro ⟨other, same, exact⟩
    obtain rfl := Option.some.inj (result.symm.trans same)
    exact ⟨exact .shareSpaceLocal, exact .shareSpacePcie, exact .privateSpace⟩
  · intro exact
    refine ⟨found, result, fun zone => ?_⟩
    cases zone with
    | shareSpaceLocal => exact exact.1
    | shareSpacePcie => exact exact.2.1
    | privateSpace => exact exact.2.2

/-- The condition in numbers. -/
theorem classified_iff (zones : adapter.Zones info)
    : info.Classified base size
      ↔ (base.toNat + size.toNat ≤ info.sharedGpuVaSize.toNat →
          base.toNat ≤ info.totalLocalMemorySize.toNat →
            base.toNat + size.toNat ≤ info.totalLocalMemorySize.toNat)
        ∧ (info.sharedGpuVaSize.toNat < base.toNat + size.toNat →
          (info.desc .privateSpace).gpuVmSize.toNat ≠ 0)
        ∧ (base.toNat + size.toNat < 2 ^ 64 → info.sharedGpuVaSize.toNat ≤ base.toNat →
          info.sharedGpuVaSize.toNat + (info.desc .privateSpace).gpuVmSize.toNat < 2 ^ 64)
        ∧ (2 ^ 64 ≤ base.toNat + size.toNat →
          info.sharedGpuVaSize.toNat < (base + size).toNat
            ∧ (info.sharedGpuVaSize.toNat ≤ base.toNat →
              (info.sharedGpuVaSize + (info.desc .privateSpace).gpuVmSize).toNat
                < (base + size).toNat)) := by
  constructor
  · intro classified
    have start := zones.privateStart
    refine ⟨classified.shared, fun behind empty => ?_, ?_, ?_⟩
    · exact classified.made behind (BitVec.eq_of_toNat_eq empty)
    · exact start ▸ classified.straight
    · exact start ▸ classified.wrapped
  · rintro ⟨shared, made, straight, wrapped⟩
    have start := zones.privateStart
    refine ⟨shared, fun behind empty => ?_, ?_, ?_⟩
    · exact made behind (congrArg BitVec.toNat empty)
    · exact start ▸ straight
    · exact start ▸ wrapped

/-- A range that ends in the shared space and starts in local memory or at its end. -/
theorem exact_iff_of_local (zones : adapter.Zones info) (positive : 0 < size)
    (ends : base + size ≤ info.sharedGpuVaSize) (starts : base ≤ info.totalLocalMemorySize)
    : info.Exact base size ↔ info.Classified base size := by
  have result : info.vidmmVmGetZoneFromRange base size
      = some (info.zones .shareSpaceLocal) := by
    unfold vidmmVmGetZoneFromRange
    rw [zones.offset, if_pos ⟨BitVec.le_def.mpr (Nat.zero_le _), by simpa using ends⟩,
      if_pos (by simpa using starts)]
  have larger := zones.larger
  have small := zones.small
  have most := size.isLt
  have ends' : (base.toNat + size.toNat) % 2 ^ 64 ≤ info.sharedGpuVaSize.toNat :=
    BitVec.toNat_add base size ▸ BitVec.le_def.mp ends
  have starts' : base.toNat ≤ info.totalLocalMemorySize.toNat := starts
  have positive' : 0 < size.toNat := positive
  rw [exact_of_result result, classified_iff zones, inside_local zones, inside_pcie zones,
    inside_private zones, BitVec.toNat_add base size]
  by_cases empty : info.totalLocalMemorySize = 0
  · have left : info.zones .shareSpaceLocal = none := by
      unfold ChipVmInfo.zones
      rw [zones.shareLocal, if_pos empty]
    have empty' : info.totalLocalMemorySize.toNat = 0 := congrArg BitVec.toNat empty
    rw [left]
    simp only [reduceCtorEq, false_iff]
    omega
  · have made : info.zones .shareSpaceLocal = some .shareSpaceLocal := by
      unfold ChipVmInfo.zones
      rw [zones.shareLocal, if_neg empty]
    rw [made]
    simp only [true_iff, Option.some.injEq, reduceCtorEq, false_iff]
    omega

/-- A range that ends in the shared space and starts in the PCIE zone. -/
theorem exact_iff_of_pcie (zones : adapter.Zones info) (positive : 0 < size)
    (ends : base + size ≤ info.sharedGpuVaSize) (starts : info.totalLocalMemorySize < base)
    : info.Exact base size ↔ info.Classified base size := by
  have larger := zones.larger
  have made : info.zones .shareSpacePcie = some .shareSpacePcie := by
    unfold ChipVmInfo.zones
    rw [zones.sharePcie]
    apply if_neg
    bv_omega
  have result : info.vidmmVmGetZoneFromRange base size = some (some .shareSpacePcie) := by
    unfold vidmmVmGetZoneFromRange
    rw [zones.offset, if_pos ⟨BitVec.le_def.mpr (Nat.zero_le _), by simpa using ends⟩,
      if_neg (by simpa using starts), made]
  have small := zones.small
  have most := size.isLt
  have ends' : (base.toNat + size.toNat) % 2 ^ 64 ≤ info.sharedGpuVaSize.toNat :=
    BitVec.toNat_add base size ▸ BitVec.le_def.mp ends
  have starts' : info.totalLocalMemorySize.toNat < base.toNat := starts
  have positive' : 0 < size.toNat := positive
  rw [exact_of_result result, classified_iff zones, inside_local zones, inside_pcie zones,
    inside_private zones, BitVec.toNat_add base size, BitVec.toNat_add]
  simp only [true_iff, Option.some.injEq, reduceCtorEq, false_iff]
  omega

/-- A range that ends behind the shared space. -/
theorem exact_iff_of_behind (zones : adapter.Zones info) (positive : 0 < size)
    (ends : info.sharedGpuVaSize < base + size)
    : info.Exact base size ↔ info.Classified base size := by
  have outside : ¬ (info.sharedGpuVaOffset ≤ base
      ∧ base + size ≤ info.sharedGpuVaOffset + info.sharedGpuVaSize) := by
    rw [zones.offset]
    rintro ⟨_, inside⟩
    exact BitVec.not_le.mpr ends (by simpa using inside)
  have larger := zones.larger
  have small := zones.small
  have most := size.isLt
  have lowest := base.isLt
  have ends' : info.sharedGpuVaSize.toNat < (base.toNat + size.toNat) % 2 ^ 64 :=
    BitVec.toNat_add base size ▸ BitVec.lt_def.mp ends
  have positive' : 0 < size.toNat := positive
  have width := (info.desc .privateSpace).gpuVmSize.isLt
  by_cases empty : (info.desc .privateSpace).gpuVmSize = 0
  · have empty' : (info.desc .privateSpace).gpuVmSize.toNat = 0 := congrArg BitVec.toNat empty
    have left : info.vidmmVmGetZoneFromRange base size = none := by
      rw [vidmmVmGetZoneFromRange, if_neg outside, ChipVmInfo.zones, if_pos empty]
      rfl
    constructor
    · rintro ⟨found, result, _⟩
      cases left.symm.trans result
    · intro classified
      refine absurd empty (classified.made ?_)
      omega
  · have result : info.vidmmVmGetZoneFromRange base size
        = some (if info.sharedGpuVaSize ≤ base
            ∧ base + size ≤ info.sharedGpuVaSize + (info.desc .privateSpace).gpuVmSize then
          some .privateSpace
        else none) := by
      rw [vidmmVmGetZoneFromRange, if_neg outside, ChipVmInfo.zones, if_neg empty, Option.map_some,
        zones.privateStart]
    have some' : (info.desc .privateSpace).gpuVmSize.toNat ≠ 0 :=
      fun zero => empty (BitVec.eq_of_toNat_eq zero)
    rw [exact_of_result result, classified_iff zones, inside_local zones, inside_pcie zones,
      inside_private zones]
    simp only [BitVec.le_def, BitVec.toNat_add]
    split
    · simp only [true_iff, Option.some.injEq, reduceCtorEq, false_iff]
      omega
    · simp only [reduceCtorEq, false_iff]
      omega

/-- The zone of a range is exact under the condition, and only then. -/
theorem exact_iff (zones : adapter.Zones info) (positive : 0 < size)
    : info.Exact base size ↔ info.Classified base size := by
  rcases Nat.lt_or_ge info.sharedGpuVaSize.toNat (base + size).toNat with ends | ends
  · exact exact_iff_of_behind zones positive ends
  · rcases Nat.lt_or_ge info.totalLocalMemorySize.toNat base.toNat with starts | starts
    · exact exact_iff_of_pcie zones positive ends starts
    · exact exact_iff_of_local zones positive ends starts

/-- A range of the PCIE zone is found there again unless it starts where local memory ends. -/
theorem pcie_exact_iff (zones : adapter.Zones info) (positive : 0 < size)
    (inside : info.Inside base size .shareSpacePcie)
    : info.Exact base size ↔ base ≠ info.totalLocalMemorySize := by
  have bounds := (inside_pcie zones).mp inside
  have small := zones.small
  have positive' : 0 < size.toNat := positive
  have apart : base ≠ info.totalLocalMemorySize
      ↔ base.toNat ≠ info.totalLocalMemorySize.toNat := BitVec.toNat_ne
  rw [exact_iff zones positive, classified_iff zones, apart]
  omega

end ChipVmInfo

/-- In the zones that the chip code lays out, the zone of a range is exact under the condition,
and only then.
-/
theorem getZoneFromRange_exact_iff (adapter : AdapterMemory)
    (enabled : adapter.sharePcieEnable = true) (base size : U64) (positive : 0 < size)
    : (vidmmQueryChipVmInfoE3k adapter).Exact base size
      ↔ (vidmmQueryChipVmInfoE3k adapter).Classified base size :=
  ChipVmInfo.exact_iff (adapter.zones enabled) positive

/-- An address space has the zones of an adapter. -/
structure AddressSpace.Laid (space : AddressSpace) (info : ChipVmInfo) : Prop where
  offset : space.sharedGpuVaOffset = info.sharedGpuVaOffset.toNat
  size : space.sharedGpuVaSize = info.sharedGpuVaSize.toNat
  local_size : space.totalLocalMemorySize = info.totalLocalMemorySize.toNat
  pcie : space.pcie.isSome = true
  privateStart : space.privateStart = (info.desc .privateSpace).gpuVmStart.toNat
  privateSize : space.privateSize = (info.desc .privateSpace).gpuVmSize.toNat
  made : (info.desc .privateSpace).gpuVmSize ≠ 0

/-- Such an address space finds the zones of ranges as the chip's zones say. -/
theorem AddressSpace.Laid.classifies {space : AddressSpace} {adapter : AdapterMemory}
    {info : ChipVmInfo} (laid : space.Laid info) (zones : adapter.Zones info) (base size : U64)
    : info.vidmmVmGetZoneFromRange base size
      = some (space.vidmmVmGetZoneFromRange base.toNat size.toNat) := by
  have larger := zones.larger
  have small := zones.small
  have ends := space.privateSmall
  have zero : (0 : U64).toNat = 0 := rfl
  have offset : space.sharedGpuVaOffset = 0 := by
    rw [laid.offset, zones.offset]
    rfl
  rw [laid.privateStart, laid.privateSize] at ends
  have sum : ((info.desc .privateSpace).gpuVmStart + (info.desc .privateSpace).gpuVmSize).toNat
      = (info.desc .privateSpace).gpuVmStart.toNat
        + (info.desc .privateSpace).gpuVmSize.toNat := by
    rw [BitVec.toNat_add, Nat.mod_eq_of_lt ends]
  have pcie : info.zones .shareSpacePcie = some .shareSpacePcie := by
    unfold ChipVmInfo.zones
    rw [zones.sharePcie]
    apply if_neg
    bv_omega
  have privateZone : info.zones .privateSpace = some .privateSpace := if_neg laid.made
  have shareLocal : info.zones .shareSpaceLocal
      = if info.totalLocalMemorySize.toNat = 0 then none else some .shareSpaceLocal := by
    unfold ChipVmInfo.zones
    rw [zones.shareLocal]
    exact if_congr (BitVec.toNat_inj (y := 0#64)).symm rfl rfl
  unfold ChipVmInfo.vidmmVmGetZoneFromRange vidmmVmGetZoneFromRange
  rw [zones.offset, offset, laid.size, laid.local_size, laid.privateStart, laid.privateSize,
    laid.pcie, pcie, privateZone, shareLocal, Option.map_some]
  simp only [BitVec.le_def, sum, Nat.zero_add, if_true]
  simp only [BitVec.toNat_add, zero, Nat.zero_add, Nat.mod_eq_of_lt info.sharedGpuVaSize.isLt,
    Nat.mod_eq_of_lt info.totalLocalMemorySize.isLt, apply_ite some]

/-- 256 MiB of local memory. -/
def smallCard : AdapterMemory where
  totalLocalMemorySize := 0x10000000
  sharePcieEnable := true
  isCne001 := false
  megabytes := by decide

/-- A page of local memory is classified exactly. -/
theorem smallCard_exact
    : (smallCard.sharePcieEnable = true ∧ (0 : U64) < 0x1000)
      ∧ ((vidmmQueryChipVmInfoE3k smallCard).Exact 0x100000 0x1000
        ↔ (vidmmQueryChipVmInfoE3k smallCard).Classified 0x100000 0x1000) :=
  ⟨⟨rfl, by decide⟩, getZoneFromRange_exact_iff smallCard rfl 0x100000 0x1000 (by decide)⟩

/-- The first page of the PCIE zone is taken for local memory. -/
theorem smallCard_not_exact
    : (vidmmQueryChipVmInfoE3k smallCard).vidmmVmGetZoneFromRange 0x10000000 0x1000
        = some (some .shareSpaceLocal)
      ∧ (vidmmQueryChipVmInfoE3k smallCard).Inside 0x10000000 0x1000 .shareSpacePcie
      ∧ ¬ (vidmmQueryChipVmInfoE3k smallCard).Exact 0x10000000 0x1000 := by
  have result : (vidmmQueryChipVmInfoE3k smallCard).vidmmVmGetZoneFromRange 0x10000000 0x1000
      = some (some .shareSpaceLocal) := by rfl
  have inside : (vidmmQueryChipVmInfoE3k smallCard).Inside 0x10000000 0x1000
      .shareSpacePcie := ⟨by decide, by decide⟩
  refine ⟨result, inside, ?_⟩
  rintro ⟨found, same, exact⟩
  obtain rfl := Option.some.inj (result.symm.trans same)
  cases (exact .shareSpacePcie).mpr inside

end Cx4Kernel.Vidmm
