import Mathlib.Data.List.Basic

/-! The places that a cursor visits below a limit, where each place says how far the next one is
behind it.
-/

namespace Cx4Kernel.Foundation

/-- The places from `place` on, for at most so many rounds. -/
def visits (skip : Nat → Nat) (limit : Nat) : Nat → Nat → List Nat
  | 0, _ => []
  | rounds + 1, place =>
    if place < limit then place :: visits skip limit rounds (place + 1 + skip place) else []

/-- The places from `place` on. Every round moves by one place at least. -/
def walk (skip : Nat → Nat) (limit place : Nat) : List Nat :=
  visits skip limit (limit - place) place

variable {skip : Nat → Nat} {limit place : Nat}

theorem visits_past (past : limit ≤ place) (rounds : Nat)
    : visits skip limit rounds place = [] := by
  cases rounds with
  | zero => rfl
  | succ rounds => rw [visits, if_neg (Nat.not_lt.mpr past)]

/-- More rounds than there are places add none, by induction on the rounds. -/
theorem visits_enough {rounds : Nat} (enough : limit - place ≤ rounds)
    : visits skip limit rounds place = walk skip limit place := by
  unfold walk
  induction rounds using Nat.strongRecOn generalizing place with
  | _ rounds ih =>
    by_cases inside : place < limit
    · obtain ⟨rounds, rfl⟩ : ∃ r, rounds = r + 1 := ⟨rounds - 1, by omega⟩
      obtain ⟨least, same⟩ : ∃ r, limit - place = r + 1 := ⟨limit - place - 1, by omega⟩
      rw [same, visits, visits, if_pos inside, if_pos inside]
      rcases Nat.eq_or_lt_of_le (show least ≤ rounds by omega) with rfl | fewer
      · rfl
      · rw [ih rounds (Nat.lt_succ_self _) (by omega), ih least (by omega) (by omega)]
    · rw [visits_past (Nat.not_lt.mp inside), visits_past (Nat.not_lt.mp inside)]

/-- The loop. -/
theorem walk_eq (skip : Nat → Nat) (limit place : Nat)
    : walk skip limit place
      = if place < limit then place :: walk skip limit (place + 1 + skip place) else [] := by
  by_cases inside : place < limit
  · obtain ⟨rounds, same⟩ : ∃ r, limit - place = r + 1 := ⟨limit - place - 1, by omega⟩
    rw [walk, same, visits, if_pos inside, if_pos inside, visits_enough (by omega)]
  · rw [walk, visits_past (Nat.not_lt.mp inside), if_neg inside]

/-- A property of the places and the lists from them on, by the rounds of the loop. -/
theorem walk_induct {motive : Nat → List Nat → Prop}
    (past : ∀ place, limit ≤ place → motive place [])
    (visit : ∀ place, place < limit
      → motive (place + 1 + skip place) (walk skip limit (place + 1 + skip place))
      → motive place (place :: walk skip limit (place + 1 + skip place)))
    (place : Nat)
    : motive place (walk skip limit place) := by
  induction gap : limit - place using Nat.strongRecOn generalizing place with
  | _ gap ih =>
    rw [walk_eq]
    split
    case isTrue inside => exact visit place inside (ih _ (by omega) _ rfl)
    case isFalse outside => exact past place (Nat.not_lt.mp outside)

/-- A walk tells where it starts, unless it is empty. -/
theorem walk_start_eq {other : Nat → Nat} {place' : Nat}
    (same : walk skip limit place = walk other limit place')
    : place = place' ∨ limit ≤ place ∧ limit ≤ place' := by
  rw [walk_eq skip, walk_eq other] at same
  split at same
  case isTrue inside =>
    split at same
    case isTrue => exact .inl (List.cons.inj same).1
    case isFalse => cases same
  case isFalse past =>
    split at same
    case isTrue => cases same
    case isFalse past' => exact .inr ⟨Nat.not_lt.mp past, Nat.not_lt.mp past'⟩

/-- Two cursors visit the same places if and only if at each of them they agree on how far to go or
both go past the limit, by the rounds of the first one.
-/
theorem walk_eq_iff (other : Nat → Nat)
    : walk skip limit place = walk other limit place
      ↔ ∀ at' ∈ walk skip limit place, skip at' = other at'
        ∨ limit ≤ at' + 1 + skip at' ∧ limit ≤ at' + 1 + other at' := by
  refine walk_induct (motive := fun place places => places = walk other limit place
    ↔ ∀ at' ∈ places, skip at' = other at'
      ∨ limit ≤ at' + 1 + skip at' ∧ limit ≤ at' + 1 + other at') ?_ ?_ place
  · intro place past
    rw [walk_eq, if_neg (Nat.not_lt.mpr past)]
    simp
  · intro place inside ih
    rw [walk_eq other, if_pos inside, List.cons_inj_right, List.forall_mem_cons]
    constructor
    · intro same
      have next : skip place = other place
          ∨ limit ≤ place + 1 + skip place ∧ limit ≤ place + 1 + other place := by
        rcases walk_start_eq same with equal | past
        · exact .inl (by omega)
        · exact .inr past
      refine ⟨next, ?_⟩
      rcases next with equal | ⟨past, _⟩
      · exact ih.mp (by rw [same, equal])
      · rw [walk_eq, if_neg (Nat.not_lt.mpr past)]
        simp
    · rintro ⟨equal | ⟨past, past'⟩, rest⟩
      · rw [← equal]
        exact ih.mpr rest
      · rw [walk_eq, walk_eq other, if_neg (Nat.not_lt.mpr past), if_neg (Nat.not_lt.mpr past')]

end Cx4Kernel.Foundation
