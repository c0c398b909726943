import Mathlib.Data.List.Basic

/-! What a loop over a list keeps and what it collects. -/

namespace Cx4Kernel.Foundation

variable {State Item α : Type} {visit : State → Item → State}

/-- A part of the state that no round changes. -/
theorem foldl_keeps {β : Type} (part : State → β) (each : ∀ s item, part (visit s item) = part s)
    (items : List Item) (s : State)
    : part (items.foldl visit s) = part s := by
  induction items generalizing s with
  | nil => rfl
  | cons item rest ih => exact (ih (visit s item)).trans (each s item)

/-- A record that every round adds to. -/
theorem foldl_collects (tells : List α → State → Prop) {out : Item → List α} (items : List Item)
    (each : ∀ record s, ∀ item ∈ items, tells record s → tells (record ++ out item) (visit s item))
    {record : List α} {s : State} (start : tells record s)
    : tells (record ++ items.flatMap out) (items.foldl visit s) := by
  induction items generalizing record s with
  | nil =>
    rw [List.flatMap_nil, List.append_nil]
    exact start
  | cons item rest ih =>
    rw [List.flatMap_cons, ← List.append_assoc]
    have first := each record s item List.mem_cons_self start
    exact ih (fun record s item inside => each record s item (.tail _ inside)) first

end Cx4Kernel.Foundation
