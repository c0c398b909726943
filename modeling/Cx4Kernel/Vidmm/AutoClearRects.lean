import Mathlib.Data.BitVec
import Mathlib.Data.List.Basic

/-! The rectangles that clear the burst-length bytes of a slot, which are the cells of a surface
line by line: `vidmmi_calc_rects_for_auto_clear` of `vidmm_build_page_buffer_e3k.c`.
-/

namespace Cx4Kernel.Vidmm

/-- `RECT`. -/
structure Rect where
  left : Nat
  top : Nat
  right : Nat
  bottom : Nat
deriving DecidableEq

namespace Rect

/-- A cell is in the rectangle. -/
def Has (rect : Rect) (x y : Nat) : Prop :=
  rect.left ≤ x ∧ x < rect.right ∧ rect.top ≤ y ∧ y < rect.bottom

/-- No cell is in both rectangles. -/
def Disjoint (rect other : Rect) : Prop := ∀ x y, rect.Has x y → ¬ other.Has x y

/-- Rectangles of a surface make up a set of cells, counted line by line. -/
structure Tile (rects : List Rect) (width : Nat) (cells : Nat → Prop) : Prop where
  filled : ∀ rect ∈ rects, rect.left < rect.right ∧ rect.top < rect.bottom
  within : ∀ rect ∈ rects, rect.right ≤ width
  apart : rects.Pairwise Disjoint
  cells : ∀ cell, (∃ rect ∈ rects, ∃ x y, rect.Has x y ∧ y * width + x = cell) ↔ cells cell

end Rect

/-- `vidmmi_calc_rects_for_auto_clear`, which does not look at `blHeapHeight`. -/
def vidmmiCalcRectsForAutoClear (blHeapWidth startAddr endAddr : Nat) : List Rect :=
  let startY := startAddr / blHeapWidth
  let startX := startAddr % blHeapWidth
  let endY := endAddr / blHeapWidth
  let endX := endAddr % blHeapWidth
  if endY = startY then [⟨startX, startY, endX, (startY + 1) % 2 ^ 32⟩]
  else
    let lastLine := if endX ≠ 0 then [⟨0, endY, endX, (endY + 1) % 2 ^ 32⟩] else []
    let firstLine :=
      if startX ≠ 0 then [⟨startX, startY, blHeapWidth, (startY + 1) % 2 ^ 32⟩] else []
    let startY := if startX ≠ 0 then (startY + 1) % 2 ^ 32 else startY
    let lines := if startY ≠ endY then [⟨0, startY, blHeapWidth, endY⟩] else []
    lastLine ++ firstLine ++ lines

-----------------------------------------------------------------------------------------
-- Cells
-----------------------------------------------------------------------------------------

variable {width : Nat}

namespace Rect

variable {rects more : List Rect} {cells others : Nat → Prop}

/-- No rectangles have no cells. -/
theorem Tile.nil (none : ∀ cell, ¬ cells cell) : Tile [] width cells where
  filled _ member := absurd member List.not_mem_nil
  within _ member := absurd member List.not_mem_nil
  apart := .nil
  cells cell := ⟨fun ⟨_, member, _⟩ => absurd member List.not_mem_nil, fun found =>
    absurd found (none cell)⟩

theorem Tile.congr (tile : Tile rects width cells) (same : ∀ cell, cells cell ↔ others cell)
    : Tile rects width others :=
  ⟨tile.filled, tile.within, tile.apart, fun cell => (tile.cells cell).trans (same cell)⟩

/-- Rectangles for sets of cells that have none in common make up both sets. -/
theorem Tile.append (tile : Tile rects width cells) (next : Tile more width others)
    (apart : ∀ cell, cells cell → ¬ others cell)
    : Tile (rects ++ more) width fun cell => cells cell ∨ others cell where
  filled rect member := (List.mem_append.mp member).elim (tile.filled rect) (next.filled rect)
  within rect member := (List.mem_append.mp member).elim (tile.within rect) (next.within rect)
  apart := by
    refine List.pairwise_append.mpr ⟨tile.apart, next.apart, ?_⟩
    intro rect member other found x y has there
    exact apart _ ((tile.cells _).mp ⟨rect, member, x, y, has, rfl⟩)
      ((next.cells _).mp ⟨other, found, x, y, there, rfl⟩)
  cells cell := by
    rw [← tile.cells, ← next.cells]
    constructor
    · rintro ⟨rect, member, found⟩
      exact (List.mem_append.mp member).imp (⟨rect, ·, found⟩) (⟨rect, ·, found⟩)
    · rintro (⟨rect, member, found⟩ | ⟨rect, member, found⟩)
      · exact ⟨rect, List.mem_append_left _ member, found⟩
      · exact ⟨rect, List.mem_append_right _ member, found⟩

/-- A part of one line. -/
theorem Tile.line {left right : Nat} (y : Nat) (filled : left < right) (within : right ≤ width)
    : Tile [⟨left, y, right, y + 1⟩] width fun cell =>
        y * width + left ≤ cell ∧ cell < y * width + right where
  filled := by simpa using filled
  within := by simpa using within
  apart := List.pairwise_singleton _ _
  cells cell := by
    constructor
    · rintro ⟨_, member, x, y', ⟨above, below, first, last⟩, rfl⟩
      obtain rfl := List.mem_singleton.mp member
      obtain rfl : y' = y := by
        dsimp only at first last
        omega
      exact ⟨Nat.add_le_add_left above _, Nat.add_lt_add_left below _⟩
    · rintro ⟨above, below⟩
      refine ⟨_, List.mem_singleton_self _, cell - y * width, y, ⟨?_, ?_, Nat.le_refl y, ?_⟩, ?_⟩
      · exact Nat.le_sub_of_add_le (Nat.add_comm left _ ▸ above)
      · dsimp only
        omega
      · exact Nat.lt_succ_self y
      · omega

/-- Whole lines. -/
theorem Tile.lines {top bottom : Nat} (filled : top < bottom) (positive : 0 < width)
    : Tile [⟨0, top, width, bottom⟩] width fun cell =>
        top * width ≤ cell ∧ cell < bottom * width where
  filled := by
    intro rect member
    obtain rfl := List.mem_singleton.mp member
    exact ⟨positive, filled⟩
  within := by
    intro rect member
    obtain rfl := List.mem_singleton.mp member
    exact Nat.le_refl width
  apart := List.pairwise_singleton _ _
  cells cell := by
    constructor
    · rintro ⟨_, member, x, y, ⟨_, below, first, last⟩, rfl⟩
      obtain rfl := List.mem_singleton.mp member
      have from_top := Nat.mul_le_mul_right width first
      have to_bottom := Nat.mul_le_mul_right width (Nat.succ_le_of_lt last)
      rw [Nat.succ_mul] at to_bottom
      dsimp only at below from_top to_bottom
      omega
    · rintro ⟨above, below⟩
      refine ⟨_, List.mem_singleton_self _, cell % width, cell / width, ⟨?_, ?_, ?_, ?_⟩, ?_⟩
      · exact Nat.zero_le _
      · exact Nat.mod_lt cell positive
      · exact (Nat.le_div_iff_mul_le positive).mpr above
      · exact (Nat.div_lt_iff_lt_mul positive).mpr below
      · exact Nat.div_add_mod' cell width

end Rect

/-- The rectangles for a range of 32-bit addresses make it up. They are one to three. -/
theorem calcRects_tile {startAddr endAddr : Nat} (positive : 0 < width)
    (some : startAddr < endAddr) (small : endAddr < 2 ^ 32)
    : Rect.Tile (vidmmiCalcRectsForAutoClear width startAddr endAddr) width
        (fun cell => startAddr ≤ cell ∧ cell < endAddr)
      ∧ (vidmmiCalcRectsForAutoClear width startAddr endAddr).length ∈ [1, 2, 3] := by
  have startIn := Nat.mod_lt startAddr positive
  have endIn := Nat.mod_lt endAddr positive
  have startIs := Nat.div_add_mod' startAddr width
  have endIs := Nat.div_add_mod' endAddr width
  have startBelow := Nat.div_le_self startAddr width
  have endBelow := Nat.le_mul_of_pos_right (endAddr / width) positive
  unfold vidmmiCalcRectsForAutoClear
  dsimp only
  generalize startAddr / width = startY at *
  generalize startAddr % width = startX at *
  generalize endAddr / width = endY at *
  generalize endAddr % width = endX at *
  rw [Nat.mod_eq_of_lt (show startY + 1 < 2 ^ 32 by omega)]
  split
  · -- the range begins and ends in the same line
    rename_i same
    subst same
    refine ⟨(Rect.Tile.line endY (by omega) (Nat.le_of_lt endIn)).congr fun cell => ?_, ?_⟩
    · omega
    · exact List.mem_cons_self
  rename_i different
  have order : startY < endY := by
    rcases Nat.lt_or_gt_of_ne different with above | below
    · have line := Nat.mul_le_mul_right width (Nat.succ_le_of_lt above)
      rw [Nat.succ_mul] at line
      omega
    · exact below
  have last : Rect.Tile (if endX ≠ 0 then [⟨0, endY, endX, (endY + 1) % 2 ^ 32⟩] else []) width
      fun cell => endY * width ≤ cell ∧ cell < endAddr := by
    split
    · rename_i partly
      rw [Nat.mod_eq_of_lt (show endY + 1 < 2 ^ 32 by omega)]
      refine (Rect.Tile.line endY (Nat.pos_of_ne_zero partly) (Nat.le_of_lt endIn)).congr ?_
      intro cell
      omega
    · refine Rect.Tile.nil fun cell => ?_
      omega
  obtain ⟨nextY, next⟩ : ∃ nextY, nextY = if startX ≠ 0 then startY + 1 else startY := ⟨_, rfl⟩
  have first : Rect.Tile (if startX ≠ 0 then [⟨startX, startY, width, startY + 1⟩] else []) width
      fun cell => startAddr ≤ cell ∧ cell < nextY * width := by
    by_cases partly : startX ≠ 0
    · rw [if_pos partly] at next ⊢
      rw [next, Nat.succ_mul]
      refine (Rect.Tile.line startY startIn (Nat.le_refl width)).congr fun cell => ?_
      omega
    · rw [if_neg partly] at next ⊢
      rw [next]
      refine Rect.Tile.nil fun cell => ?_
      omega
  have reach : nextY ≤ endY := by
    rw [next]
    split <;> omega
  have whole := Nat.mul_le_mul_right width reach
  have lines : Rect.Tile (if nextY ≠ endY then [⟨0, nextY, width, endY⟩] else []) width
      fun cell => nextY * width ≤ cell ∧ cell < endY * width := by
    split
    · exact Rect.Tile.lines (by omega) positive
    · rename_i same
      refine Rect.Tile.nil fun cell => ?_
      rw [not_not.mp same]
      omega
  have before : startAddr ≤ nextY * width := by
    rw [next]
    split
    · rw [Nat.succ_mul]
      omega
    · omega
  rw [← next]
  constructor
  · refine ((last.append first ?_).append lines ?_).congr ?_
    · intro cell
      omega
    · intro cell
      omega
    · intro cell
      omega
  · split <;> split <;> split <;> simp_all

/-- A range in two lines, whose first line is a whole one. -/
theorem calcRects_tile_twoLines
    : Rect.Tile (vidmmiCalcRectsForAutoClear 8 8 19) 8 (fun cell => 8 ≤ cell ∧ cell < 19)
      ∧ (vidmmiCalcRectsForAutoClear 8 8 19).length ∈ [1, 2, 3] :=
  calcRects_tile (by decide) (by decide) (by decide)

end Cx4Kernel.Vidmm
