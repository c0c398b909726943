import Mathlib.Data.Finset.Range
import Mathlib.Data.Finset.Card
import Mathlib.Data.List.Basic

/-! The search for a free place in a map of places from some place on, and around the end from
the start, and how many places of a map can be taken.
-/

namespace Cx4Kernel.Foundation

/-- The first place from an offset on that is not taken, or the size if there is none. -/
def nextFree (taken : Nat → Bool) (size offset : Nat) : Nat :=
  ((List.range' offset (size - offset)).find? fun place => !taken place).getD size

/-- The same, and from the start if there is none behind the offset. -/
def nextFreeAround (taken : Nat → Bool) (size offset : Nat) : Nat :=
  if size ≤ nextFree taken size offset then nextFree taken size 0
  else nextFree taken size offset

variable {taken : Nat → Bool} {size offset : Nat}

/-- What is found is free and not before the offset. -/
theorem nextFree_free (found : nextFree taken size offset < size)
    : offset ≤ nextFree taken size offset ∧ taken (nextFree taken size offset) = false := by
  unfold nextFree at *
  cases searched : (List.range' offset (size - offset)).find? fun place => !taken place with
  | none =>
      rw [searched] at found
      exact absurd found (Nat.lt_irrefl _)
  | some place =>
      have free := List.find?_some searched
      have member := List.mem_of_find?_eq_some searched
      exact ⟨(List.mem_range'_1.mp member).1, by simpa using free⟩

/-- If nothing is found all places from the offset on are taken. -/
theorem nextFree_full (missed : size ≤ nextFree taken size offset) {place : Nat}
    (inside : offset ≤ place ∧ place < size)
    : taken place = true := by
  unfold nextFree at missed
  cases searched : (List.range' offset (size - offset)).find? fun place => !taken place with
  | none =>
      have all := List.find?_eq_none.mp searched place
        (List.mem_range'_1.mpr ⟨inside.1, by omega⟩)
      simpa using all
  | some found =>
      have member := List.mem_range'_1.mp (List.mem_of_find?_eq_some searched)
      rw [searched] at missed
      exact absurd missed (Nat.not_le.mpr (by change found < size; omega))

/-- Around the end what is found is free, and nothing is found only in a full map. -/
theorem nextFreeAround_free (found : nextFreeAround taken size offset < size)
    : taken (nextFreeAround taken size offset) = false := by
  unfold nextFreeAround at *
  split
  next missed =>
    rw [if_pos missed] at found
    exact (nextFree_free found).2
  next searched => exact (nextFree_free (Nat.not_le.mp searched)).2

theorem nextFreeAround_full (missed : size ≤ nextFreeAround taken size offset) {place : Nat}
    (inside : place < size)
    : taken place = true := by
  unfold nextFreeAround at missed
  split at missed
  next => exact nextFree_full missed ⟨Nat.zero_le _, inside⟩
  next searched => exact absurd missed searched

/-- The places that are taken are listed, once each, and are in the map. -/
structure Listed (taken : Nat → Bool) (size : Nat) (places : List Nat) : Prop where
  once : places.Nodup
  taken_iff : ∀ place, taken place = true ↔ place ∈ places
  inside : ∀ place ∈ places, place < size

namespace Listed

variable {places : List Nat} {place : Nat}

/-- An empty map. -/
theorem nil : Listed (fun _ => false) size [] where
  once := List.nodup_nil
  taken_iff _ := by simp
  inside _ member := absurd member List.not_mem_nil

/-- A free place is taken. -/
theorem take (listed : Listed taken size places) (free : taken place = false)
    (bound : place < size)
    : Listed (Function.update taken place true) size (place :: places) where
  once := List.nodup_cons.mpr
    ⟨fun member => by simp [(listed.taken_iff place).mpr member] at free, listed.once⟩
  taken_iff other := by
    rw [List.mem_cons, ← listed.taken_iff]
    by_cases same : other = place
    · simp [same]
    · simp [same]
  inside other member := by
    rcases List.mem_cons.mp member with rfl | earlier
    · exact bound
    · exact listed.inside other earlier

/-- A place is given back. -/
theorem giveBack (listed : Listed taken size places)
    : Listed (Function.update taken place false) size (places.erase place) where
  once := listed.once.erase place
  taken_iff other := by
    rw [listed.once.mem_erase_iff, ← listed.taken_iff]
    by_cases same : other = place
    · simp [same]
    · simp [same]
  inside other member := listed.inside other (List.mem_of_mem_erase member)

/-- No more places are taken than there are. -/
theorem length_le (listed : Listed taken size places) : places.length ≤ size := by
  rw [← List.toFinset_card_of_nodup listed.once, ← Finset.card_range size]
  apply Finset.card_le_card
  intro place member
  exact Finset.mem_range.mpr (listed.inside place (List.mem_toFinset.mp member))

/-- As many places are taken as there are if all are taken, and only then. -/
theorem length_eq_iff (listed : Listed taken size places)
    : places.length = size ↔ ∀ place, place < size → taken place = true := by
  have subset : places.toFinset ⊆ Finset.range size := fun place member =>
    Finset.mem_range.mpr (listed.inside place (List.mem_toFinset.mp member))
  have card := List.toFinset_card_of_nodup listed.once
  constructor
  · intro length place bound
    have same := Finset.eq_of_subset_of_card_le subset (by rw [Finset.card_range, card, length])
    rw [listed.taken_iff, ← List.mem_toFinset, same]
    exact Finset.mem_range.mpr bound
  · intro all
    apply Nat.le_antisymm listed.length_le
    rw [← card, ← Finset.card_range size]
    apply Finset.card_le_card
    intro place member
    rw [List.mem_toFinset, ← listed.taken_iff]
    exact all place (Finset.mem_range.mp member)

end Listed

end Cx4Kernel.Foundation
