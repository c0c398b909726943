import Mathlib.Order.Basic

/-! Things with reference counts that are freed when their count reaches 0: the count is the
number of those who hold the thing, and a thing that nobody holds was freed once.
-/

namespace Cx4Kernel.Foundation

/-- A reference count, and how often it reached 0. -/
structure RefCount where
  count : Nat
  freed : Nat
deriving DecidableEq

namespace RefCount

/-- One more reference. -/
def get (refs : RefCount) : RefCount :=
  { refs with count := refs.count + 1 }

/-- One reference less. The last one frees. -/
def put (refs : RefCount) : RefCount where
  count := refs.count - 1
  freed := if refs.count - 1 = 0 then refs.freed + 1 else refs.freed

end RefCount

/-- How much a holder of one thing counts for another one. -/
def single (thing other : Nat) : Nat :=
  if other = thing then 1 else 0

@[simp] theorem single_self (thing : Nat) : single thing thing = 1 :=
  if_pos rfl

theorem single_other {thing other : Nat} (h : other ≠ thing) : single thing other = 0 :=
  if_neg h

/-- Counts agree with numbers of holders, and things are freed once nobody holds them. Things
are numbered in the order they were made.
-/
structure Counted (things : List RefCount) (holders : Nat → Nat) : Prop where
  counts : ∀ thing refs, things[thing]? = some refs
    → refs.count = holders thing ∧ refs.freed = if holders thing = 0 then 1 else 0
  known : ∀ thing, 0 < holders thing → thing < things.length

namespace Counted

variable {things : List RefCount} {holders after : Nat → Nat} {thing : Nat}

/-- A thing that somebody holds is there and was not freed. -/
theorem live (counted : Counted things holders) (held : 0 < holders thing)
    : ∃ refs, things[thing]? = some refs ∧ 0 < refs.count ∧ refs.freed = 0 := by
  have bound := counted.known thing held
  obtain ⟨count, freed⟩ := counted.counts thing _ (List.getElem?_eq_getElem bound)
  refine ⟨_, List.getElem?_eq_getElem bound, count ▸ held, freed.trans (if_neg ?_)⟩
  exact Nat.ne_of_gt held

/-- Only the numbers of holders matter. -/
theorem congr (counted : Counted things holders) (same : ∀ other, after other = holders other)
    : Counted things after := by
  obtain rfl : after = holders := funext same
  exact counted

/-- Things other than one that changes. -/
theorem counts_modify (counted : Counted things holders) (change : RefCount → RefCount)
    (others : ∀ other, other ≠ thing → after other = holders other)
    (this : ∀ refs, things[thing]? = some refs → (change refs).count = after thing
      ∧ (change refs).freed = if after thing = 0 then 1 else 0)
    : ∀ other refs, (things.modify thing change)[other]? = some refs
      → refs.count = after other ∧ refs.freed = if after other = 0 then 1 else 0 := by
  intro other refs found
  rcases eq_or_ne thing other with rfl | different
  · rw [List.getElem?_modify_eq] at found
    obtain ⟨old, was, rfl⟩ := Option.map_eq_some_iff.mp found
    exact this old was
  · rw [List.getElem?_modify_ne _ _ different] at found
    rw [others other different.symm]
    exact counted.counts other refs found

/-- Somebody who may gets a reference to a thing that is held. -/
theorem take (counted : Counted things holders) (held : 0 < holders thing)
    (more : ∀ other, after other = holders other + single thing other)
    : Counted (things.modify thing RefCount.get) after := by
  refine ⟨counted.counts_modify RefCount.get ?_ ?_, ?_⟩
  · intro other different
    rw [more, single_other different, Nat.add_zero]
  · intro refs found
    obtain ⟨count, freed⟩ := counted.counts thing refs found
    rw [if_neg (Nat.ne_of_gt held)] at freed
    rw [more, single_self, if_neg (Nat.succ_ne_zero _)]
    exact ⟨congrArg (· + 1) count, freed⟩
  · intro other positive
    rw [List.length_modify]
    rcases eq_or_ne other thing with rfl | different
    · exact counted.known other held
    · rw [more, single_other different, Nat.add_zero] at positive
      exact counted.known other positive

/-- A holder puts its reference. -/
theorem drop (counted : Counted things holders)
    (less : ∀ other, after other + single thing other = holders other)
    : Counted (things.modify thing RefCount.put) after := by
  refine ⟨counted.counts_modify RefCount.put ?_ ?_, ?_⟩
  · intro other different
    rw [← less, single_other different, Nat.add_zero]
  · intro refs found
    obtain ⟨count, freed⟩ := counted.counts thing refs found
    rw [← less, single_self] at count freed
    rw [if_neg (Nat.succ_ne_zero _)] at freed
    have left : refs.count - 1 = after thing := by rw [count, Nat.add_sub_cancel]
    refine ⟨left, ?_⟩
    rw [RefCount.put, left, freed]
  · intro other positive
    rw [List.length_modify]
    exact counted.known other (less other ▸ Nat.add_pos_left positive _)

/-- A new thing with a reference for the one who made it. -/
theorem make (counted : Counted things holders)
    (more : ∀ other, after other = holders other + single things.length other)
    : Counted (things ++ [⟨1, 0⟩]) after := by
  have unheld : ∀ other, things.length ≤ other → holders other = 0 := by
    intro other new
    apply Nat.eq_zero_of_not_pos
    intro held
    exact absurd (counted.known other held) (Nat.not_lt.mpr new)
  refine ⟨?_, ?_⟩
  · intro other refs found
    rcases Nat.lt_trichotomy other things.length with old | rfl | beyond
    · rw [List.getElem?_append_left old] at found
      rw [more, single_other (Nat.ne_of_lt old), Nat.add_zero]
      exact counted.counts other refs found
    · rw [List.getElem?_append_right (Nat.le_refl _), Nat.sub_self] at found
      obtain rfl := Option.some.inj found
      rw [more, unheld _ (Nat.le_refl _), single_self]
      exact ⟨rfl, rfl⟩
    · rw [List.getElem?_eq_none (by rw [List.length_append]; exact beyond)] at found
      cases found
  · intro other positive
    rw [List.length_append]
    rcases Nat.lt_trichotomy other things.length with old | rfl | beyond
    · exact Nat.lt_add_right _ old
    · exact Nat.lt_succ_self _
    · rw [more, unheld _ (Nat.le_of_lt beyond), single_other (Nat.ne_of_gt beyond)] at positive
      exact absurd positive (Nat.lt_irrefl _)

end Counted

end Cx4Kernel.Foundation
