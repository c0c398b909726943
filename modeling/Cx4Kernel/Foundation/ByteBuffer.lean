import Mathlib.Data.List.Basic

/-! Buffers of a fixed size, and what is stored in them. -/

namespace Cx4Kernel.Foundation

variable {α : Type}

/-- Assignments to places of a buffer that lie together. What is behind its end is lost. -/
def storeBytes (buffer : List α) (start : Nat) (values : List α) : List α :=
  buffer.mapIdx fun i value => if start ≤ i then values.getD (i - start) value else value

@[simp]
theorem length_storeBytes (buffer values : List α) (start : Nat)
    : (storeBytes buffer start values).length = buffer.length :=
  List.length_mapIdx

theorem getD_storeBytes {buffer : List α} {i : Nat} (inside : i < buffer.length) (start : Nat)
    (values : List α) (other : α)
    : (storeBytes buffer start values).getD i other
      = if start ≤ i ∧ i < start + values.length then values.getD (i - start) other
        else buffer.getD i other := by
  simp only [storeBytes, List.getD_eq_getElem?_getD, List.getElem?_mapIdx]
  rw [List.getElem?_eq_getElem inside, Option.map_some, Option.getD_some, Option.getD_some]
  by_cases before : i < start
  · rw [if_neg (by omega), if_neg (by omega)]
  · rw [if_pos (by omega)]
    by_cases mine : i < start + values.length
    · rw [if_pos (by omega), List.getElem?_eq_getElem (by omega)]
      rfl
    · rw [if_neg (by omega), List.getElem?_eq_none (by omega)]
      rfl

/-- Values that follow each other are stored one after the other. -/
theorem storeBytes_append (buffer values more : List α) (start : Nat)
    : storeBytes (storeBytes buffer start values) (start + values.length) more
      = storeBytes buffer start (values ++ more) := by
  apply List.ext_getElem
  · simp
  · intro i inside _
    simp only [storeBytes, List.getElem_mapIdx, List.getD_eq_getElem?_getD]
    by_cases before : i < start
    · rw [if_neg (by omega), if_neg (by omega), if_neg (by omega)]
    · rw [if_pos (show start ≤ i by omega), if_pos (show start ≤ i by omega)]
      by_cases mine : i < start + values.length
      · rw [if_neg (by omega), List.getElem?_append_left (by omega)]
      · rw [if_pos (by omega), List.getElem?_append_right (by omega),
          List.getElem?_eq_none (show values.length ≤ i - start by omega), Option.getD_none,
          Nat.sub_sub]

@[simp]
theorem storeBytes_nil (buffer : List α) (start : Nat) : storeBytes buffer start [] = buffer := by
  apply List.ext_getElem
  · simp
  · intro i _ _
    simp [storeBytes]

/-- A buffer that is stored whole has the values. -/
theorem storeBytes_whole {buffer values : List α} (size : values.length = buffer.length)
    : storeBytes buffer 0 values = values := by
  apply List.ext_getElem
  · simp [size]
  · intro i _ inside
    simp [storeBytes, inside]

end Cx4Kernel.Foundation
