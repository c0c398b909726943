import Mathlib.Algebra.GroupWithZero.Nat
import Mathlib.Algebra.Order.BigOperators.Group.List
import Mathlib.Algebra.Order.Group.Nat
import Mathlib.Data.List.Perm.Basic
import Mathlib.Data.List.Flatten

/-! Lists that stand for bags: elements are named by their positions, and counted without
regard to their order.
-/

namespace Cx4Kernel.Foundation

namespace Bag

variable {α β : Type*}

/-- A bag is one of its elements and the others. -/
theorem perm_cons_eraseIdx {elements : List α} {position : Nat} {element : α}
    (h : elements[position]? = some element)
    : elements.Perm (element :: elements.eraseIdx position) := by
  obtain ⟨bound, rfl⟩ := List.getElem?_eq_some_iff.mp h
  exact (List.getElem_cons_eraseIdx_perm bound).symm

/-- What the elements of a bag hold is counted in any order. -/
theorem count_flatMap_perm [BEq β] [LawfulBEq β] {elements others : List α}
    (h : elements.Perm others) (held : α → List β) (value : β)
    : (elements.flatMap held).count value = (others.flatMap held).count value :=
  (h.flatMap_right _).count_eq value

/-- The last element of a bag is changed. -/
theorem modify_concat (elements : List α) (element : α) (change : α → α)
    : (elements ++ [element]).modify elements.length change = elements ++ [change element] := by
  induction elements with
  | nil => rfl
  | cons head rest ih =>
      rw [List.cons_append, List.length_cons, List.modify_succ_cons, ih, List.cons_append]

/-- A view of the elements after one of them is changed, by induction on the list. -/
theorem map_modify {β : Type*} {view : α → β} {change : α → α} {change' : β → β}
    (h : ∀ element, view (change element) = change' (view element)) (elements : List α)
    (position : Nat)
    : (elements.modify position change).map view
      = (elements.map view).modify position change' := by
  induction elements generalizing position with
  | nil => rw [List.modify_nil, List.map_nil, List.modify_nil]
  | cons head rest ih =>
      cases position with
      | zero => rw [List.modify_zero_cons, List.map_cons, List.map_cons, List.modify_zero_cons, h]
      | succ position =>
          rw [List.modify_succ_cons, List.map_cons, List.map_cons, List.modify_succ_cons, ih]

/-- What a bag weighs after one element is changed, by induction on the list. -/
theorem sum_map_modify {elements : List α} {position : Nat} {element : α}
    (h : elements[position]? = some element) (change : α → α) (weight : α → Nat)
    : ((elements.modify position change).map weight).sum + weight element
      = (elements.map weight).sum + weight (change element) := by
  induction elements generalizing position with
  | nil => cases h
  | cons head rest ih =>
      cases position with
      | zero =>
          obtain rfl := Option.some.inj h
          simp only [List.modify_zero_cons, List.map_cons, List.sum_cons]
          omega
      | succ position =>
          have tail := ih h
          simp only [List.modify_succ_cons, List.map_cons, List.sum_cons]
          omega

/-- What a bag weighs after one element is replaced, by induction on the list. -/
theorem sum_map_set {elements : List α} {position : Nat} {element : α}
    (h : elements[position]? = some element) (new : α) (weight : α → Nat)
    : ((elements.set position new).map weight).sum + weight element
      = (elements.map weight).sum + weight new := by
  induction elements generalizing position with
  | nil => cases h
  | cons head rest ih =>
      cases position with
      | zero =>
          obtain rfl := Option.some.inj h
          simp only [List.set_cons_zero, List.map_cons, List.sum_cons]
          omega
      | succ position =>
          have tail := ih h
          simp only [List.set_cons_succ, List.map_cons, List.sum_cons]
          omega

/-- A bag keeps its weight if no element changes its own, by induction on the list. -/
theorem sum_map_modify_same {change : α → α} {weight : α → Nat}
    (h : ∀ element, weight (change element) = weight element) (elements : List α)
    (position : Nat)
    : ((elements.modify position change).map weight).sum = (elements.map weight).sum := by
  induction elements generalizing position with
  | nil => rw [List.modify_nil]
  | cons head rest ih =>
      cases position with
      | zero => rw [List.modify_zero_cons, List.map_cons, List.map_cons, h head]
      | succ position =>
          rw [List.modify_succ_cons, List.map_cons, List.map_cons, List.sum_cons, List.sum_cons,
            ih position]

/-- A bag of weight at most one weighs nothing after every element has lost one, by induction
on the list.
-/
theorem sum_map_pred {weight : α → Nat} {elements : List α}
    (h : (elements.map weight).sum ≤ 1)
    : (elements.map fun element => weight element - 1).sum = 0 := by
  induction elements with
  | nil => rfl
  | cons head rest ih =>
      simp only [List.map_cons, List.sum_cons] at h ⊢
      rw [ih (by omega)]
      omega

/-- An element weighs no more than its bag. -/
theorem le_sum_map {elements : List α} {position : Nat} {element : α}
    (h : elements[position]? = some element) (weight : α → Nat)
    : weight element ≤ (elements.map weight).sum :=
  List.single_le_sum (fun _ _ => Nat.zero_le _) _
    (List.mem_map_of_mem (List.mem_of_getElem? h))

/-- The number of elements with a property after one of them is changed, by induction on the
list.
-/
theorem countP_modify {elements : List α} {position : Nat} {element : α}
    (h : elements[position]? = some element) (change : α → α) (property : α → Bool)
    : (elements.modify position change).countP property + (property element).toNat
      = elements.countP property + (property (change element)).toNat := by
  induction elements generalizing position with
  | nil => cases h
  | cons head rest ih =>
      cases position with
      | zero =>
          obtain rfl := Option.some.inj h
          rw [List.modify_zero_cons, List.countP_cons, List.countP_cons]
          cases property head <;> cases property (change head) <;> simp
      | succ position =>
          have rest_h := ih h
          rw [List.modify_succ_cons, List.countP_cons, List.countP_cons]
          omega

/-- In a bag of weight at most one only one element weighs something, by induction on the
list.
-/
theorem eq_of_sum_map_le_one {weight : α → Nat} {elements : List α} {position other : Nat}
    {element another : α} (h : elements[position]? = some element)
    (h' : elements[other]? = some another) (weighs : 0 < weight element)
    (weighs' : 0 < weight another) (light : (elements.map weight).sum ≤ 1)
    : position = other := by
  induction elements generalizing position other with
  | nil => cases h
  | cons head rest ih =>
      rw [List.map_cons, List.sum_cons] at light
      cases position with
      | zero =>
          cases other with
          | zero => rfl
          | succ other =>
              obtain rfl := Option.some.inj h
              have least := @le_sum_map α rest other another h' weight
              omega
      | succ position =>
          cases other with
          | zero =>
              obtain rfl := Option.some.inj h'
              have least := @le_sum_map α rest position element h weight
              omega
          | succ other =>
              have same := ih h h' (by omega)
              rw [same]

end Bag

end Cx4Kernel.Foundation
