import Mathlib.Algebra.GroupWithZero.Nat
import Mathlib.Order.Interval.Finset.Nat

/-! Extents of numbers that lie apart, and how much room they take together. -/

namespace Cx4Kernel.Foundation

/-- Some numbers from a start on. -/
structure Extent where
  start : Nat
  size : Nat
deriving DecidableEq

namespace Extent

/-- The first number behind an extent. -/
def stop (extent : Extent) : Nat :=
  extent.start + extent.size

/-- An extent has all numbers of another. -/
def Includes (extent other : Extent) : Prop :=
  extent.start ≤ other.start ∧ other.stop ≤ extent.stop

instance (extent other : Extent) : Decidable (extent.Includes other) :=
  inferInstanceAs (Decidable (_ ∧ _))

/-- One extent ends before the other starts. -/
def Apart (one other : Extent) : Prop :=
  one.stop ≤ other.start ∨ other.stop ≤ one.start

instance (one other : Extent) : Decidable (one.Apart other) :=
  inferInstanceAs (Decidable (_ ∨ _))

variable {one other whole : Extent} {extents : List Extent}

theorem Apart.symm (apart : one.Apart other) : other.Apart one :=
  Or.symm apart

/-- Parts of extents that lie apart do so, too. -/
theorem Apart.parts {part part' : Extent} (apart : one.Apart other) (inOne : one.Includes part)
    (inOther : other.Includes part')
    : part.Apart part' := by
  unfold Apart Includes at *
  omega

/-- The numbers of extents. -/
def numbers : List Extent → Finset Nat
  | [] => ∅
  | extent :: extents => Finset.Ico extent.start extent.stop ∪ numbers extents

theorem mem_numbers {number : Nat}
    : number ∈ numbers extents
      ↔ ∃ extent ∈ extents, extent.start ≤ number ∧ number < extent.stop := by
  induction extents with
  | nil => simp [numbers]
  | cons extent extents ih => simp [numbers, ih]

/-- Extents that lie apart have as many numbers as their sizes say. By induction on the
extents.
-/
theorem card_numbers (apart : extents.Pairwise Apart)
    : (numbers extents).card = (extents.map size).sum := by
  induction extents with
  | nil => rfl
  | cons extent extents ih =>
      obtain ⟨others, apart⟩ := List.pairwise_cons.mp apart
      have disjoint : Disjoint (Finset.Ico extent.start extent.stop) (numbers extents) := by
        apply Finset.disjoint_left.mpr
        intro number here there
        obtain ⟨other, member, between⟩ := mem_numbers.mp there
        have between' := Finset.mem_Ico.mp here
        rcases others other member with before | behind <;> omega
      rw [numbers, Finset.card_union_of_disjoint disjoint, ih apart, Nat.card_Ico, List.map_cons,
        List.sum_cons, stop, Nat.add_sub_cancel_left]

/-- Extents that lie apart in another are together not larger than it. -/
theorem sum_size_le (apart : extents.Pairwise Apart)
    (inside : ∀ extent ∈ extents, whole.Includes extent)
    : (extents.map size).sum ≤ whole.size := by
  rw [← card_numbers apart]
  have subset : numbers extents ⊆ Finset.Ico whole.start whole.stop := by
    intro number member
    obtain ⟨extent, known, between⟩ := mem_numbers.mp member
    have bounds := inside extent known
    unfold Includes at bounds
    exact Finset.mem_Ico.mpr ⟨by omega, by omega⟩
  have card := Finset.card_le_card subset
  rwa [Nat.card_Ico, stop, Nat.add_sub_cancel_left] at card

end Extent

end Cx4Kernel.Foundation
