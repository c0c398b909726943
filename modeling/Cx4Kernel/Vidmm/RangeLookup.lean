import Cx4Kernel.Vidmm.AddressLookup

/-! When the lookup in a range allocator finds exactly the node that has a whole range. The
callers' sizes have 64 bits and the size of the lookup has 32, and the sum with the start is
one of 64 bits.
-/

namespace Cx4Kernel.Vidmm

open Foundation

/-- The allocated nodes of a `struct drm_mm` in their interval tree. The range that it manages
ends below 2^64.
-/
structure DrmMm (α : Type) where
  intervalTree : RangeTree α
  ordered : intervalTree.Ordered
  below : ∀ node ∈ intervalTree.spans, node.end < 2 ^ 64

namespace DrmMm

variable {α : Type} (mm : DrmMm α)

/-- `lookup` of a range allocator: `zx_drm_mm_ra_lookup` with the end of a node in 64 bits. -/
def lookup (start size : U64) : Option (Span α) :=
  (mm.intervalTree.floor start.toNat none).bind fun best =>
    if (best.start + best.size) % 2 ^ 64 < (start.toNat + size.toNat % 2 ^ 32) % 2 ^ 64 then
      none
    else some best

/-- The lookup returns the node that has a whole range, and nothing if there is none. -/
def Exact (start size : U64) : Prop :=
  ∀ node, mm.lookup start size = some node
    ↔ node ∈ mm.intervalTree.spans ∧ node.Contains start.toNat size.toNat

/-- The last node that starts at or before a range ends before the sum that the lookup makes,
or has the whole range.
-/
def Decided (start size : U64) : Prop :=
  ∀ node, Span.Nearest mm.intervalTree.spans start.toNat node
    → node.end < (start.toNat + size.toNat % 2 ^ 32) % 2 ^ 64
      ∨ start.toNat + size.toNat ≤ node.end

variable {mm} {start size : U64}

/-- The ends of the nodes are not cut to 64 bits. -/
theorem lookup_eq : mm.lookup start size
    = zxDrmMmRaLookup mm.intervalTree start.toNat size.toNat := by
  unfold lookup zxDrmMmRaLookup
  cases walked : mm.intervalTree.floor start.toNat none with
  | none => rfl
  | some best =>
      have nearest := (RangeTree.floor_eq_some_iff mm.ordered start.toNat best).mp walked
      have whole : (best.start + best.size) % 2 ^ 64 = best.end :=
        Nat.mod_eq_of_lt (mm.below best nearest.1)
      simp only [Option.bind_some, whole]

/-- A node that is looked up is the last one that starts at or before the range. -/
theorem lookup_found {node : Span α}
    : mm.lookup start size = some node
      ↔ Found mm.intervalTree start.toNat size.toNat node := by
  rw [lookup_eq]
  exact lookup_eq_some_iff mm.ordered start.toNat size.toNat node

/-- The lookup is exact if the last node before a range has it or ends before the sum, and
only then.
-/
theorem lookup_exact_iff (mm : DrmMm α) (start size : U64) (positive : 0 < size)
    : mm.Exact start size ↔ mm.Decided start size := by
  constructor
  · intro exact node nearest
    apply or_iff_not_imp_left.mpr
    intro reaches
    have found := lookup_found.mpr ⟨nearest, Nat.not_lt.mp reaches⟩
    exact ((exact node).mp found).2.2
  · intro decided node
    constructor
    · intro looked
      obtain ⟨nearest, reaches⟩ := lookup_found.mp looked
      rcases decided node nearest with short | whole
      · exact absurd reaches (Nat.not_le.mpr short)
      · exact ⟨nearest.1, nearest.2.1, whole⟩
    · intro holds
      apply lookup_found.mpr
      exact found_of_contains mm.ordered holds.1 positive holds.2

/-- Sizes below 4 GiB are looked up exactly, if the range ends below 2^64. -/
theorem decided_of_narrow (narrow : size.toNat < 2 ^ 32)
    (room : start.toNat + size.toNat < 2 ^ 64)
    : mm.Decided start size := by
  intro node _
  rw [Nat.mod_eq_of_lt narrow, Nat.mod_eq_of_lt room]
  exact Nat.lt_or_ge node.end (start.toNat + size.toNat)

end DrmMm

/-- One node of two pages at 1 MiB. -/
def twoPages : DrmMm Nat where
  intervalTree := .node .leaf ⟨0x100000, 0x2000, 7⟩ .leaf
  ordered := ⟨by simp [RangeTree.spans], by simp [RangeTree.spans]⟩
  below := by simp [RangeTree.spans, Span.end]

/-- The second page alone is found. -/
theorem twoPages_exact
    : (0 : U64) < 0x1000
      ∧ (twoPages.Exact 0x101000 0x1000 ↔ twoPages.Decided 0x101000 0x1000) :=
  ⟨by decide, DrmMm.lookup_exact_iff twoPages 0x101000 0x1000 (by decide)⟩

/-- A range of 4 GiB from the node on is taken for the node. -/
theorem twoPages_not_exact
    : twoPages.lookup 0x100000 0x100000000 = some ⟨0x100000, 0x2000, 7⟩
      ∧ ¬ twoPages.Exact 0x100000 0x100000000 := by
  have looked : twoPages.lookup 0x100000 0x100000000 = some ⟨0x100000, 0x2000, 7⟩ := by rfl
  refine ⟨looked, fun exact => ?_⟩
  have contains := ((exact _).mp looked).2.2
  exact absurd contains (by decide)

end Cx4Kernel.Vidmm
