import Cx4Kernel.Foundation.Bag

/-! Places that hold things: a thing is held by one place and not freed, or held by none and
freed once. Taking a new thing, giving one up and giving a new one up at once keep this.
-/

namespace Cx4Kernel.Foundation.Ownership

/-- How much one place counts for a thing. -/
def refers (thing : Nat) (entry : Option Nat) : Nat := if entry = some thing then 1 else 0

/-- How many places hold a thing. -/
def references (held : List (Option Nat)) (thing : Nat) : Nat :=
  (held.map (refers thing)).sum

/-- Every thing has one owner or was freed once. Things are numbered, and `freed` counts how
often each was freed.
-/
structure Owned (held : List (Option Nat)) (freed : List Nat) : Prop where
  once : ∀ thing times : Nat, freed[thing]? = some times → references held thing + times = 1
  known : ∀ place thing : Nat, held[place]? = some (some thing) → thing < freed.length

variable {held : List (Option Nat)} {freed : List Nat} {place thing : Nat}

theorem refers_self (thing : Nat) : refers thing (some thing) = 1 := if_pos rfl

theorem refers_none (thing : Nat) : refers thing none = 0 := if_neg nofun

theorem refers_other {other : Nat} (h : other ≠ thing) : refers thing (some other) = 0 :=
  if_neg fun same => h (Option.some.inj same)

/-- What a place held and what it holds then make up the change of the references. -/
theorem references_set {old : Option Nat} (h : held[place]? = some old) (new : Option Nat)
    (thing : Nat)
    : references (held.set place new) thing + refers thing old
      = references held thing + refers thing new :=
  Bag.sum_map_set h new (refers thing)

/-- A thing that some place holds is referenced. -/
theorem references_pos (h : held[place]? = some (some thing)) : 0 < references held thing := by
  have least := Bag.le_sum_map h (refers thing)
  rw [refers_self] at least
  exact least

/-- A thing that no place holds is not referenced, by induction on the places. -/
theorem references_eq_zero (h : ∀ place : Nat, held[place]? ≠ some (some thing))
    : references held thing = 0 := by
  refine List.sum_eq_zero_iff.mpr (List.forall_mem_map.mpr fun entry member => ?_)
  obtain ⟨place, at_⟩ := List.mem_iff_getElem?.mp member
  exact if_neg fun same : entry = some thing => h place (same ▸ at_)

namespace Owned

/-- A thing that is held was not freed. -/
theorem live (owned : Owned held freed) (h : held[place]? = some (some thing))
    : freed[thing]? = some 0 := by
  have bound := owned.known place thing h
  have once := owned.once thing _ (List.getElem?_eq_getElem bound)
  have held := references_pos h
  rw [List.getElem?_eq_getElem bound]
  exact congrArg some (by omega)

/-- Only one place holds a thing. -/
theorem unique (owned : Owned held freed) {other : Nat} (h : held[place]? = some (some thing))
    (h' : held[other]? = some (some thing))
    : place = other := by
  have once := owned.once thing 0 (owned.live h)
  refine Bag.eq_of_sum_map_le_one h h' ?_ ?_ (Nat.le_of_eq once)
  · rw [refers_self]
    exact Nat.one_pos
  · rw [refers_self]
    exact Nat.one_pos

/-- A thing that no place holds was freed once. -/
theorem gone (owned : Owned held freed) (bound : thing < freed.length)
    (h : ∀ place : Nat, held[place]? ≠ some (some thing))
    : freed[thing]? = some 1 := by
  have once := owned.once thing _ (List.getElem?_eq_getElem bound)
  rw [references_eq_zero h] at once
  rw [List.getElem?_eq_getElem bound]
  exact congrArg some (by omega)

/-- A new thing that is freed at once. -/
theorem discard (owned : Owned held freed) : Owned held (freed ++ [1]) := by
  constructor
  · intro thing times counted
    rcases Nat.lt_or_ge thing freed.length with old | new
    · rw [List.getElem?_append_left old] at counted
      exact owned.once thing times counted
    · have none : references held thing = 0 := by
        refine references_eq_zero fun place holds => ?_
        exact absurd (owned.known place thing holds) (Nat.not_lt.mpr new)
      rw [List.getElem?_append_right new, List.getElem?_singleton] at counted
      split at counted
      case isTrue =>
        obtain rfl := Option.some.inj counted
        rw [none]
      case isFalse => cases counted
  · intro place thing holds
    rw [List.length_append]
    exact Nat.lt_add_right _ (owned.known place thing holds)

/-- An empty place takes a new thing. -/
theorem take (owned : Owned held freed) (vacant : held[place]? = some none)
    : Owned (held.set place (some freed.length)) (freed ++ [0]) := by
  constructor
  · intro thing times counted
    have changed := references_set vacant (some freed.length) thing
    rw [refers_none] at changed
    rcases Nat.lt_or_ge thing freed.length with old | new
    · rw [List.getElem?_append_left old] at counted
      have once := owned.once thing times counted
      rw [refers_other (Nat.ne_of_gt old)] at changed
      omega
    · rw [List.getElem?_append_right new, List.getElem?_singleton] at counted
      split at counted
      case isTrue last =>
        obtain rfl := Option.some.inj counted
        have same : freed.length = thing := by omega
        have none : references held thing = 0 := by
          refine references_eq_zero fun place holds => ?_
          exact absurd (owned.known place thing holds) (Nat.not_lt.mpr new)
        rw [same, refers_self, none] at changed
        rw [same]
        exact changed
      case isFalse => cases counted
  · intro other thing holds
    rw [List.length_append, List.length_singleton]
    rcases eq_or_ne place other with rfl | different
    · rw [List.getElem?_set_self (List.getElem?_eq_some_iff.mp vacant).1] at holds
      obtain rfl := Option.some.inj (Option.some.inj holds)
      exact Nat.lt_succ_self _
    · rw [List.getElem?_set_ne different] at holds
      exact Nat.lt_succ_of_lt (owned.known other thing holds)

/-- A place gives its thing up, which is freed. -/
theorem drop (owned : Owned held freed) (holds : held[place]? = some (some thing))
    : Owned (held.set place none) (freed.modify thing (· + 1)) := by
  constructor
  · intro other times counted
    have changed := references_set holds none other
    rw [refers_none] at changed
    rcases eq_or_ne thing other with rfl | different
    · have live := owned.live holds
      have once := owned.once thing 0 live
      rw [List.getElem?_modify_eq, live] at counted
      obtain rfl : 0 + 1 = times := Option.some.inj counted
      rw [refers_self] at changed
      omega
    · rw [List.getElem?_modify_ne _ _ different] at counted
      have once := owned.once other times counted
      rw [refers_other different] at changed
      omega
  · intro other held_ holds'
    rw [List.length_modify]
    rcases eq_or_ne place other with rfl | different
    · rw [List.getElem?_set_self (List.getElem?_eq_some_iff.mp holds).1] at holds'
      cases Option.some.inj holds'
    · rw [List.getElem?_set_ne different] at holds'
      exact owned.known other held_ holds'

/-- The order of the places does not matter. -/
theorem perm {other : List (Option Nat)} (owned : Owned held freed) (h : held.Perm other)
    : Owned other freed := by
  constructor
  · intro thing times counted
    rw [references, ← (h.map (refers thing)).sum_eq]
    exact owned.once thing times counted
  · intro place thing holds
    obtain ⟨place, holds⟩ := List.mem_iff_getElem?.mp (h.mem_iff.mpr (List.mem_of_getElem? holds))
    exact owned.known place thing holds

/-- An empty place does not count. -/
theorem cons_none : Owned (none :: held) freed ↔ Owned held freed := by
  have same (thing : Nat) : references (none :: held) thing = references held thing := by
    rw [references, List.map_cons, List.sum_cons, refers_none, Nat.zero_add, references]
  constructor
  · intro owned
    exact ⟨fun thing times counted => same thing ▸ owned.once thing times counted,
      fun place thing holds => owned.known (place + 1) thing holds⟩
  · intro owned
    refine ⟨fun thing times counted => (same thing).symm ▸ owned.once thing times counted, ?_⟩
    intro place thing holds
    cases place with
    | zero => cases holds
    | succ place => exact owned.known place thing holds

/-- A new place takes a new thing. -/
theorem allocate (owned : Owned held freed) : Owned (some freed.length :: held) (freed ++ [0]) :=
  @take _ _ 0 (cons_none.mpr owned) rfl

/-- A place goes away, and its thing is freed. -/
theorem free (owned : Owned (some thing :: held) freed)
    : Owned held (freed.modify thing (· + 1)) :=
  cons_none.mp (@drop _ _ 0 _ owned rfl)

end Owned

end Cx4Kernel.Foundation.Ownership
