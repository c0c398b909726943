import Mathlib.Data.List.Basic

/-! A cursor that stores values at places one after the other. Where it jumps over some
places, a header at the first of them says so.
-/

namespace Cx4Kernel.Foundation

/-- The next place, with what was stored and the first place and number of places of each
jump so far.
-/
structure StoreCursor (α : Type*) where
  place : Nat
  stores : List (α × Nat)
  jumps : List (Nat × Nat)

namespace StoreCursor

variable {α β : Type*} {cursor : StoreCursor α} {first : Nat}

/-- A cursor at a place, before any store. -/
def start (α : Type*) (place : Nat) : StoreCursor α :=
  ⟨place, [], []⟩

/-- Stores some values and moves behind them. -/
def copy (cursor : StoreCursor α) (values : List α) : StoreCursor α :=
  { cursor with
    place := cursor.place + values.length
    stores := cursor.stores ++ values.zipIdx cursor.place }

@[simp] theorem copy_place (values : List α)
    : (cursor.copy values).place = cursor.place + values.length :=
  rfl

/-- Stores a header and moves on by a number of places that the header counts as its own. -/
def jump (cursor : StoreCursor α) (header : α) (count : Nat) : StoreCursor α where
  place := cursor.place + count
  stores := cursor.stores ++ [(header, cursor.place)]
  jumps := cursor.jumps ++ [(cursor.place, count)]

/-- A place has a value or was jumped over. -/
def Covered (cursor : StoreCursor α) (place : Nat) : Prop :=
  (∃ value, (value, place) ∈ cursor.stores)
    ∨ ∃ jump ∈ cursor.jumps, jump.1 ≤ place ∧ place < jump.1 + jump.2

/-- What is covered is all from some place on up to the cursor. -/
structure Fills (cursor : StoreCursor α) (first : Nat) : Prop where
  before : first ≤ cursor.place
  covered : ∀ place, cursor.Covered place ↔ first ≤ place ∧ place < cursor.place

/-- A cursor fills nothing before its first store. -/
theorem fills_start (place : Nat) : (start α place).Fills place where
  before := Nat.le_refl _
  covered other := by
    constructor
    · rintro (⟨_, member⟩ | ⟨_, member, _⟩)
      · exact absurd member List.not_mem_nil
      · exact absurd member List.not_mem_nil
    · intro between
      exact absurd between.2 (Nat.not_lt.mpr between.1)

/-- The places of some values that are stored from a place on. -/
theorem mem_zipIdx_iff (values : List α) (place other : Nat)
    : (∃ value, (value, other) ∈ values.zipIdx place)
      ↔ place ≤ other ∧ other < place + values.length := by
  have places : (values.zipIdx place).map Prod.snd = List.range' place values.length :=
    List.zipIdx_map_snd place values
  rw [← List.mem_range'_1, ← places, List.mem_map]
  constructor
  · rintro ⟨value, member⟩
    exact ⟨(value, other), member, rfl⟩
  · rintro ⟨⟨value, _⟩, member, rfl⟩
    exact ⟨value, member⟩

/-- Storing values fills their places. -/
theorem Fills.copy (fills : cursor.Fills first) (values : List α)
    : (cursor.copy values).Fills first where
  before := Nat.le_trans fills.before (Nat.le_add_right _ _)
  covered place := by
    have before := fills.before
    have old := fills.covered place
    have new := mem_zipIdx_iff values cursor.place place
    have both : (cursor.copy values).Covered place
        ↔ cursor.Covered place ∨ ∃ value, (value, place) ∈ values.zipIdx cursor.place := by
      simp only [Covered, StoreCursor.copy, List.mem_append, exists_or]
      exact or_right_comm
    rw [both, old, new]
    simp only [StoreCursor.copy]
    omega

/-- A jump of at least one place fills what it jumps over. -/
theorem Fills.jump (fills : cursor.Fills first) (header : α) {count : Nat}
    (positive : 0 < count)
    : (cursor.jump header count).Fills first where
  before := Nat.le_trans fills.before (Nat.le_add_right _ _)
  covered place := by
    have before := fills.before
    have old := fills.covered place
    have both : (cursor.jump header count).Covered place
        ↔ cursor.Covered place ∨ place = cursor.place
          ∨ cursor.place ≤ place ∧ place < cursor.place + count := by
      simp only [Covered, StoreCursor.jump, List.mem_append, List.mem_singleton, exists_or,
        Prod.mk.injEq, or_and_right, exists_eq_left]
      exact or_or_or_comm
    rw [both, old]
    simp only [StoreCursor.jump]
    omega

/-- A loop that stores values of the same number in each turn fills the places of all of
them. By induction on the turns.
-/
theorem Fills.foldl (fills : cursor.Fills first) (turn : StoreCursor α → β → StoreCursor α)
    (values : β → List α) (copies : ∀ cursor item, turn cursor item = cursor.copy (values item))
    (size : Nat) (sized : ∀ item, (values item).length = size) (items : List β)
    : (items.foldl turn cursor).Fills first
      ∧ (items.foldl turn cursor).place = cursor.place + size * items.length := by
  induction items generalizing cursor with
  | nil => exact ⟨fills, rfl⟩
  | cons item rest ih =>
      rw [List.foldl_cons, copies]
      obtain ⟨filled, place⟩ := ih (fills.copy (values item))
      refine ⟨filled, place.trans ?_⟩
      rw [StoreCursor.copy, sized, List.length_cons, Nat.mul_succ, Nat.add_right_comm,
        Nat.add_assoc]

end StoreCursor

end Cx4Kernel.Foundation
