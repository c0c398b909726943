import Mathlib.Order.Basic

/-! Search trees of disjoint ranges of numbers, ordered by where the ranges start, and the
search for the last range that starts at or before a place.
-/

namespace Cx4Kernel.Foundation

/-- A range of numbers with a value. -/
structure Span (α : Type*) where
  start : Nat
  size : Nat
  value : α

namespace Span

variable {α : Type*}

/-- The first number after a range. -/
def «end» (span : Span α) : Nat :=
  span.start + span.size

/-- A range has all numbers of a size from a place on. -/
def Contains (span : Span α) (place size : Nat) : Prop :=
  span.start ≤ place ∧ place + size ≤ span.end

instance (span : Span α) (place size : Nat) : Decidable (span.Contains place size) :=
  inferInstanceAs (Decidable (_ ∧ _))

/-- Of some ranges, the last one that starts at or before a place. -/
def Nearest (spans : List (Span α)) (place : Nat) (span : Span α) : Prop :=
  span ∈ spans ∧ span.start ≤ place
    ∧ ∀ other ∈ spans, other.start ≤ place → other.start ≤ span.start

end Span

/-- Binary trees of ranges. -/
inductive RangeTree (α : Type*) where
  | leaf
  | node (left : RangeTree α) (span : Span α) (right : RangeTree α)

namespace RangeTree

variable {α : Type*}

/-- The ranges of a tree from left to right. -/
def spans : RangeTree α → List (Span α)
  | leaf => []
  | node left span right => left.spans ++ span :: right.spans

/-- The ranges are not empty and lie one after the other. -/
structure Ordered (tree : RangeTree α) : Prop where
  filled : ∀ span ∈ tree.spans, 0 < span.size
  apart : tree.spans.Pairwise fun one other => one.end ≤ other.start

/-- The search from the root, with the best range so far. -/
def floor (place : Nat) : RangeTree α → Option (Span α) → Option (Span α)
  | leaf, best => best
  | node left span right, best =>
      if span.start ≤ place then
        if place = span.start then some span else right.floor place (some span)
      else left.floor place best

/-- The parts of an ordered tree are ordered and on their sides of the root. -/
theorem Ordered.parts {left right : RangeTree α} {span : Span α}
    (ordered : (node left span right).Ordered)
    : left.Ordered ∧ right.Ordered
      ∧ (∀ other ∈ left.spans, other.start < span.start)
      ∧ (∀ other ∈ right.spans, span.start < other.start) := by
  obtain ⟨filled, apart⟩ := ordered
  obtain ⟨leftApart, rest, across⟩ := List.pairwise_append.mp apart
  obtain ⟨after, rightApart⟩ := List.pairwise_cons.mp rest
  have leftFilled : ∀ other ∈ left.spans, 0 < other.size := fun other member =>
    filled other (List.mem_append_left _ member)
  have here : 0 < span.size := filled span (List.mem_append_right _ (.head _))
  refine ⟨⟨leftFilled, leftApart⟩, ⟨?_, rightApart⟩, ?_, ?_⟩
  · intro other member
    exact filled other (List.mem_append_right _ (.tail _ member))
  · intro other member
    have before : other.end ≤ span.start := across other member span (.head _)
    exact Nat.lt_of_lt_of_le (Nat.lt_add_of_pos_right (leftFilled other member)) before
  · intro other member
    have later : span.end ≤ other.start := after other member
    exact Nat.lt_of_lt_of_le (Nat.lt_add_of_pos_right here) later

/-- The search finds the last range that starts at or before the place, or else what it had
before. By induction on the tree.
-/
theorem floor_spec {tree : RangeTree α} (ordered : tree.Ordered) (place : Nat)
    (best : Option (Span α))
    : (∃ span, Span.Nearest tree.spans place span ∧ tree.floor place best = some span)
      ∨ (∀ span ∈ tree.spans, place < span.start) ∧ tree.floor place best = best := by
  induction tree generalizing best with
  | leaf => exact .inr ⟨fun _ member => absurd member List.not_mem_nil, rfl⟩
  | node left span right ihLeft ihRight =>
      obtain ⟨leftOrdered, rightOrdered, before, after⟩ := ordered.parts
      rw [floor]
      split
      next starts =>
        have root : span ∈ (node left span right).spans := List.mem_append_right _ (.head _)
        split
        next same =>
          refine .inl ⟨span, ⟨root, starts, ?_⟩, rfl⟩
          exact fun other _ known => same ▸ known
        next =>
          rcases ihRight rightOrdered (some span) with found | ⟨none, kept⟩
          · obtain ⟨other, ⟨member, near, last⟩, walked⟩ := found
            refine .inl ⟨other, ⟨List.mem_append_right _ (.tail _ member), near, ?_⟩, walked⟩
            intro another known below
            rcases List.mem_append.mp known with inLeft | inRest
            · exact Nat.le_of_lt (Nat.lt_trans (before another inLeft) (after other member))
            · rcases List.mem_cons.mp inRest with rfl | inRight
              · exact Nat.le_of_lt (after other member)
              · exact last another inRight below
          · refine .inl ⟨span, ⟨root, starts, ?_⟩, kept⟩
            intro another known below
            rcases List.mem_append.mp known with inLeft | inRest
            · exact Nat.le_of_lt (before another inLeft)
            · rcases List.mem_cons.mp inRest with rfl | inRight
              · exact Nat.le_refl _
              · exact absurd below (Nat.not_le.mpr (none another inRight))
      next later =>
        have beyond := Nat.not_le.mp later
        rcases ihLeft leftOrdered best with found | ⟨none, kept⟩
        · obtain ⟨other, ⟨member, near, last⟩, walked⟩ := found
          refine .inl ⟨other, ⟨List.mem_append_left _ member, near, ?_⟩, walked⟩
          intro another known below
          rcases List.mem_append.mp known with inLeft | inRest
          · exact last another inLeft below
          · rcases List.mem_cons.mp inRest with rfl | inRight
            · exact absurd below later
            · exact absurd below
                (Nat.not_le.mpr (Nat.lt_trans beyond (after another inRight)))
        · refine .inr ⟨?_, kept⟩
          intro another known
          rcases List.mem_append.mp known with inLeft | inRest
          · exact none another inLeft
          · rcases List.mem_cons.mp inRest with rfl | inRight
            · exact beyond
            · exact Nat.lt_trans beyond (after another inRight)

/-- Two ranges of an ordered tree that start at the same place are the same. -/
theorem Ordered.unique {tree : RangeTree α} (ordered : tree.Ordered) {one other : Span α}
    (first : one ∈ tree.spans) (second : other ∈ tree.spans)
    (near : one.start < other.end ∧ other.start < one.end)
    : one = other := by
  obtain ⟨filled, apart⟩ := ordered
  generalize tree.spans = spans at first second filled apart
  induction apart with
  | nil => exact absurd first List.not_mem_nil
  | cons after _ ih =>
      rcases List.mem_cons.mp first with rfl | oneLater
      · rcases List.mem_cons.mp second with rfl | otherLater
        · rfl
        · exact absurd near.2 (Nat.not_lt.mpr (after other otherLater))
      · rcases List.mem_cons.mp second with rfl | otherLater
        · exact absurd near.1 (Nat.not_lt.mpr (after one oneLater))
        · exact ih oneLater otherLater fun span member => filled span (.tail _ member)

/-- The search from the root finds the nearest range, if there is one. -/
theorem floor_eq_some_iff {tree : RangeTree α} (ordered : tree.Ordered) (place : Nat)
    (span : Span α)
    : tree.floor place none = some span ↔ Span.Nearest tree.spans place span := by
  rcases floor_spec ordered place none with found | ⟨beyond, missed⟩
  · obtain ⟨other, near, walked⟩ := found
    rw [walked]
    constructor
    · intro same
      exact Option.some.inj same ▸ near
    · intro nearest
      have same : other.start = span.start :=
        Nat.le_antisymm (nearest.2.2 other near.1 near.2.1)
          (near.2.2 span nearest.1 nearest.2.1)
      have filled := ordered.filled
      refine congrArg some (ordered.unique near.1 nearest.1 ⟨?_, ?_⟩)
      · exact same ▸ Nat.lt_add_of_pos_right (filled span nearest.1)
      · exact same ▸ Nat.lt_add_of_pos_right (filled other near.1)
  · rw [missed]
    constructor
    · intro same
      cases same
    · intro nearest
      exact absurd nearest.2.1 (Nat.not_le.mpr (beyond span nearest.1))

/-- A range that has a place is the nearest one to it. -/
theorem Ordered.nearest {tree : RangeTree α} (ordered : tree.Ordered) {span : Span α}
    (member : span ∈ tree.spans) {place : Nat}
    (inside : span.start ≤ place ∧ place < span.end)
    : Span.Nearest tree.spans place span := by
  refine ⟨member, inside.1, ?_⟩
  intro other known below
  apply Nat.le_of_not_lt
  intro later
  have same := ordered.unique known member
    ⟨Nat.lt_of_le_of_lt below inside.2,
      Nat.lt_trans later (Nat.lt_add_of_pos_right (ordered.filled other known))⟩
  exact absurd later (same ▸ Nat.lt_irrefl _)

end RangeTree

end Cx4Kernel.Foundation
