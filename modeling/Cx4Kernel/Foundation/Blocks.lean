import Mathlib.Data.List.Basic

/-! Positions in a sequence of blocks laid end to end, such as the fragments or scatter
entries behind a contiguous range.
-/

namespace Cx4Kernel.Foundation

namespace Blocks

variable {α : Type*}

/-- The block that a position falls in, and the offset of the position in it. -/
def locate (length : α → Nat) : List α → Nat → Option (α × Nat)
  | [], _ => none
  | block :: rest, position =>
      if position < length block then some (block, position)
      else locate length rest (position - length block)

/-- All positions. -/
def total (length : α → Nat) : List α → Nat
  | [] => 0
  | block :: rest => length block + total length rest

@[simp]
theorem total_nil (length : α → Nat) : total length [] = 0 := rfl

@[simp]
theorem total_cons (length : α → Nat) (block : α) (rest : List α)
    : total length (block :: rest) = length block + total length rest := rfl

/-- The total of two sequences laid end to end, by list induction. -/
theorem total_append (length : α → Nat) (before after : List α)
    : total length (before ++ after) = total length before + total length after := by
  induction before with
  | nil => simp
  | cons block rest ih => rw [List.cons_append, total_cons, total_cons, ih, Nat.add_assoc]

/-- Blocks that are computed from others have their total, by list induction. -/
theorem total_map {β : Type*} (f : β → α) (length : α → Nat) (blocks : List β)
    : total length (blocks.map f) = total (fun block => length (f block)) blocks := by
  induction blocks with
  | nil => rfl
  | cons block rest ih => rw [List.map_cons, total_cons, total_cons, ih]

/-- A position in the first block is located there. -/
theorem locate_head {length : α → Nat} {block : α} {rest : List α} {position : Nat}
    (inside : position < length block)
    : locate length (block :: rest) position = some (block, position) := by
  rw [locate, if_pos inside]

/-- A position past the first block is located in the others. -/
theorem locate_tail {length : α → Nat} {block : α} {rest : List α} (position : Nat)
    : locate length (block :: rest) (length block + position)
      = locate length rest position := by
  rw [locate, if_neg (by omega), Nat.add_sub_cancel_left]

/-- Equal blocks, by induction on their number. -/
theorem total_replicate (length : α → Nat) (block : α) (count : Nat)
    : total length (List.replicate count block) = count * length block := by
  induction count with
  | zero => rw [List.replicate_zero, total_nil, Nat.zero_mul]
  | succ count ih => rw [List.replicate_succ, total_cons, ih, Nat.succ_mul, Nat.add_comm]

/-- Blocks that are computed from others are located with them, by list induction. -/
theorem locate_map {β : Type*} (f : β → α) (length : α → Nat) (blocks : List β)
    (position : Nat)
    : locate length (blocks.map f) position
      = (locate (fun block => length (f block)) blocks position).map fun found =>
          (f found.1, found.2) := by
  induction blocks generalizing position with
  | nil => rfl
  | cons first rest ih =>
      rw [List.map_cons, locate, locate]
      split
      · rfl
      · exact ih _

/-- What is located is one of the blocks, at an offset inside of it, by list induction. -/
theorem locate_some {length : α → Nat} {blocks : List α} {position : Nat} {block : α}
    {offset : Nat} (h : locate length blocks position = some (block, offset))
    : block ∈ blocks ∧ offset < length block := by
  induction blocks generalizing position with
  | nil => cases h
  | cons first rest ih =>
      unfold locate at h
      split at h
      · cases h
        exact ⟨List.mem_cons_self, by assumption⟩
      · obtain ⟨member, inside⟩ := ih h
        exact ⟨List.mem_cons_of_mem first member, inside⟩

/-- Every position up to the total is located, by list induction. -/
theorem locate_of_lt_total {length : α → Nat} {blocks : List α} {position : Nat}
    (h : position < total length blocks)
    : ∃ block offset, locate length blocks position = some (block, offset) := by
  induction blocks generalizing position with
  | nil => simp at h
  | cons first rest ih =>
      rcases Nat.lt_or_ge position (length first) with inside | outside
      · exact ⟨first, position, locate_head inside⟩
      · rw [total_cons] at h
        obtain ⟨block, offset, found⟩ := @ih (position - length first) (by omega)
        refine ⟨block, offset, ?_⟩
        rw [locate, if_neg (by omega), found]

/-- Positions in units of `size` are located like the units, when every block consists of
whole units; by list induction.
-/
theorem locate_mul_add {length units : α → Nat} {blocks : List α} {size rest : Nat}
    (whole : ∀ block ∈ blocks, length block = size * units block) (part : rest < size)
    (position : Nat)
    : locate length blocks (size * position + rest)
      = (locate units blocks position).map fun found =>
          (found.1, size * found.2 + rest) := by
  induction blocks generalizing position with
  | nil => rfl
  | cons first others ih =>
      have unitsOf := whole first List.mem_cons_self
      have later := ih fun block member => whole block (List.mem_cons_of_mem first member)
      rcases Nat.lt_or_ge position (units first) with inside | outside
      · have bound : size * position + rest < length first := by
          calc
            size * position + rest < size * (position + 1) := by
              rw [Nat.mul_add_one]
              omega
            _ ≤ length first := unitsOf ▸ Nat.mul_le_mul_left size inside
        rw [locate_head inside, locate_head bound]
        rfl
      · obtain ⟨remaining, rfl⟩ := Nat.exists_eq_add_of_le outside
        rw [locate_tail, Nat.mul_add, ← unitsOf, Nat.add_assoc, locate_tail]
        exact later remaining

/-- The total in units. -/
theorem total_mul {length units : α → Nat} {blocks : List α} {size : Nat}
    (whole : ∀ block ∈ blocks, length block = size * units block)
    : total length blocks = size * total units blocks := by
  induction blocks with
  | nil => simp
  | cons first rest ih =>
      rw [total_cons, total_cons, Nat.mul_add, whole first List.mem_cons_self,
        ih fun block member => whole block (List.mem_cons_of_mem first member)]

-----------------------------------------------------------------------------------------
-- Clipping against a window
-----------------------------------------------------------------------------------------

/-- The positions from `base` on, as many as `count`, that lie in a window. -/
def clip (base count first last : Nat) : List Nat :=
  List.range' (max base first) (min (base + count) last - max base first)

theorem mem_clip {base count first last position : Nat}
    : position ∈ clip base count first last
      ↔ (base ≤ position ∧ position < base + count) ∧ first ≤ position ∧ position < last := by
  rw [clip, List.mem_range'_1]
  omega

/-- Positions before the window are cut off. -/
theorem clip_before {base count first last : Nat} (before : base + count ≤ first)
    : clip base count first last = [] := by
  apply List.eq_nil_iff_forall_not_mem.mpr
  intro position member
  have inside := mem_clip.mp member
  omega

/-- Positions behind the window are cut off. -/
theorem clip_behind {base count first last : Nat} (behind : last ≤ base)
    : clip base count first last = [] := by
  apply List.eq_nil_iff_forall_not_mem.mpr
  intro position member
  have inside := mem_clip.mp member
  omega

/-- What lies in a window of two ranges that follow each other. -/
theorem clip_append (base count more first last : Nat)
    : clip base count first last ++ clip (base + count) more first last
      = clip base (count + more) first last := by
  rcases Nat.le_total (base + count) first with before | reaches
  · rw [clip_before before, List.nil_append]
    unfold clip
    congr 1 <;> omega
  · rcases Nat.le_total last (base + count) with ends | goes
    · rw [clip_behind ends, List.append_nil]
      unfold clip
      congr 1
      omega
    · unfold clip
      have next : max (base + count) first
          = max base first + (min (base + count) last - max base first) := by omega
      rw [next, List.range'_append_1]
      congr 1
      omega

end Blocks

end Cx4Kernel.Foundation
