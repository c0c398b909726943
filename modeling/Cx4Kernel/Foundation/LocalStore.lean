import Mathlib.Data.List.Basic

/-! Stores that are changed place by place. An action is local to a region when it changes
nothing outside and looks at nothing else, so that actions on disjoint regions can be taken
one after the other as if each were alone.
-/

namespace Cx4Kernel.Foundation

namespace LocalStore

variable {Place Value Index : Type*}

/-- The action changes only the places of the region, and what it does there depends only on
them.
-/
structure LocalTo (region : Place → Prop) (action : (Place → Value) → Place → Value) : Prop where
  outside : ∀ store place, ¬ region place → action store place = store place
  inside : ∀ store other, (∀ place, region place → store place = other place)
    → ∀ place, region place → action store place = action other place

variable {region larger : Place → Prop} {regions : Index → Place → Prop}
  {action next : (Place → Value) → Place → Value}
  {actions : Index → (Place → Value) → Place → Value}
  {indices : List Index}

/-- Two actions on one region are one action on it. -/
theorem LocalTo.comp (first : LocalTo region action) (second : LocalTo region next)
    : LocalTo region fun store => next (action store) where
  outside store place h := by rw [second.outside _ place h, first.outside store place h]
  inside store other same := by
    apply second.inside
    exact first.inside store other same

/-- A region may be taken larger. -/
theorem LocalTo.mono (h : LocalTo region action) (sub : ∀ place, region place → larger place)
    : LocalTo larger action where
  outside store place off := h.outside store place fun on => off (sub place on)
  inside store other same place on := by
    by_cases here : region place
    · exact h.inside store other (fun place on => same place (sub place on)) place here
    · rw [h.outside store place here, h.outside other place here]
      exact same place on

/-- Changing one place is local to it. -/
theorem localTo_update [DecidableEq Place] (place : Place) (change : Value → Value)
    : LocalTo (· = place) fun store => Function.update store place (change (store place)) where
  outside _ _ off := Function.update_of_ne off _ _
  inside store other same := by
    rintro _ rfl
    rw [Function.update_self, Function.update_self, same _ rfl]

/-- Actions one after the other leave the places outside all regions, by induction on the
list.
-/
theorem foldl_outside {place : Place}
    (h : ∀ index ∈ indices, LocalTo (regions index) (actions index))
    (off : ∀ index ∈ indices, ¬ regions index place) (store : Place → Value)
    : indices.foldl (fun store index => actions index store) store place = store place := by
  induction indices generalizing store with
  | nil => rfl
  | cons head rest ih =>
      have here : LocalTo (regions head) (actions head) := h head List.mem_cons_self
      rw [List.foldl_cons, ih (fun index later => h index (List.mem_cons_of_mem _ later))
        (fun index later => off index (List.mem_cons_of_mem _ later))]
      exact here.outside store place (off head List.mem_cons_self)

/-- Actions on disjoint regions one after the other do in each region what its own action
does alone, by induction on the list.
-/
theorem foldl_inside {place : Place} {index : Index} (nodup : indices.Nodup)
    (h : ∀ index ∈ indices, LocalTo (regions index) (actions index))
    (disjoint : ∀ first second place, regions first place → regions second place
      → first = second)
    (member : index ∈ indices) (on : regions index place) (store : Place → Value)
    : indices.foldl (fun store index => actions index store) store place
      = actions index store place := by
  induction indices generalizing store with
  | nil => cases member
  | cons head rest ih =>
      obtain ⟨absent, nodup⟩ := List.nodup_cons.mp nodup
      have later_local : ∀ index ∈ rest, LocalTo (regions index) (actions index) :=
        fun index later => h index (List.mem_cons_of_mem _ later)
      have head_local : LocalTo (regions head) (actions head) := h head List.mem_cons_self
      rw [List.foldl_cons]
      rcases List.mem_cons.mp member with rfl | later
      · apply foldl_outside later_local
        intro other there on_other
        exact absent (disjoint _ _ place on on_other ▸ there)
      · rw [ih nodup later_local later]
        apply (later_local index later).inside _ _ _ place on
        intro other on_other
        apply head_local.outside
        intro on_head
        exact absent (disjoint _ _ other on_head on_other ▸ later)

end LocalStore

end Cx4Kernel.Foundation
