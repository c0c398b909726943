import Mathlib.Data.List.Nodup
import Mathlib.Data.Nat.Log

/-! Sweeps over all pairs of two lists, where a fast position runs through its list once for each
element of a slow one, and trials that go through a list until the answer to one of them ends them.
-/

namespace Cx4Kernel.Foundation

-----------------------------------------------------------------------------------------
-- Pairs
-----------------------------------------------------------------------------------------

section Pairs

variable {α β : Type}

/-- The pairs that are left when the fast position has `fast` left at the first element of the slow
list, and starts with `all` at each later one.
-/
def sweep (all : List α) : List α → List β → List (α × β)
  | _, [] => []
  | fast, slow :: rest => fast.map (·, slow) ++ rest.flatMap fun later => all.map (·, later)

variable {all : List α}

theorem sweep_cons (first : α) (fast : List α) (slow : β) (rest : List β)
    : sweep all (first :: fast) (slow :: rest) = (first, slow) :: sweep all fast (slow :: rest) :=
  rfl

/-- At the end of the fast list the slow position moves. -/
theorem sweep_nil_cons (slow : β) (rest : List β)
    : sweep all [] (slow :: rest) = sweep all all rest := by
  cases rest with
  | nil => rfl
  | cons later rest => rw [sweep, sweep, List.map_nil, List.nil_append, List.flatMap_cons]

theorem sweep_all (slow : List β)
    : sweep all all slow = slow.flatMap fun later => all.map (·, later) := by
  cases slow with
  | nil => rfl
  | cons first rest => rw [sweep, List.flatMap_cons]

theorem mem_sweep {slow : List β} {pair : α × β}
    : pair ∈ sweep all all slow ↔ pair.1 ∈ all ∧ pair.2 ∈ slow := by
  rw [sweep_all, List.mem_flatMap]
  constructor
  · rintro ⟨later, member, paired⟩
    obtain ⟨fast, inside, rfl⟩ := List.mem_map.mp paired
    exact ⟨inside, member⟩
  · rintro ⟨inside, member⟩
    exact ⟨pair.2, member, List.mem_map.mpr ⟨pair.1, inside, rfl⟩⟩

theorem nodup_sweep {slow : List β} (distinct : all.Nodup) (distinct' : slow.Nodup)
    : (sweep all all slow).Nodup := by
  rw [sweep_all, List.nodup_flatMap]
  refine ⟨fun later _ => distinct.map fun a b same => congrArg Prod.fst same, ?_⟩
  refine distinct'.imp fun {later later'} differ pair first second => ?_
  obtain ⟨_, _, rfl⟩ := List.mem_map.mp first
  obtain ⟨_, _, same⟩ := List.mem_map.mp second
  exact differ (congrArg Prod.snd same).symm

end Pairs

-----------------------------------------------------------------------------------------
-- Counters
-----------------------------------------------------------------------------------------

/-- The values of a counter that counts down to one. -/
def countdown : Nat → List Nat
  | 0 => []
  | n + 1 => (n + 1) :: countdown n

theorem countdown_of_pos {n : Nat} (positive : 0 < n) : countdown n = n :: countdown (n - 1) := by
  cases n with
  | zero => exact absurd positive (Nat.lt_irrefl 0)
  | succ n => rfl

theorem mem_countdown {n x : Nat} : x ∈ countdown n ↔ 1 ≤ x ∧ x ≤ n := by
  induction n with
  | zero => simp only [countdown, List.not_mem_nil, false_iff]; omega
  | succ n ih => rw [countdown, List.mem_cons, ih]; omega

theorem nodup_countdown (n : Nat) : (countdown n).Nodup := by
  induction n with
  | zero => exact List.nodup_nil
  | succ n ih =>
    refine List.nodup_cons.mpr ⟨fun member => ?_, ih⟩
    exact Nat.not_succ_le_self n (mem_countdown.mp member).2

/-- A search that counts down to 0 finds the largest number that passes. -/
theorem find?_reverse_range {n i : Nat} {p : Nat → Bool}
    (found : (List.range n).reverse.find? p = some i)
    : ∀ k, i < k → k < n → p k = false := by
  induction n with
  | zero => simp at found
  | succ n ih =>
    rw [List.range_succ, List.reverse_append, List.reverse_singleton, List.singleton_append,
      List.find?_cons] at found
    intro k above below
    cases last : p n with
    | true =>
      rw [last] at found
      cases found
      omega
    | false =>
      rw [last] at found
      rcases Nat.lt_succ_iff_lt_or_eq.mp below with below | rfl
      · exact ih found k above below
      · exact last

/-- The values of a counter that is halved while it is positive. -/
def halvings (n : Nat) : List Nat :=
  if n = 0 then [] else (List.range (n.log2 + 1)).map (n >>> ·)

theorem halvings_zero : halvings 0 = [] := rfl

theorem halvings_of_pos {n : Nat} (positive : 0 < n) : halvings n = n :: halvings (n >>> 1) := by
  have nonzero : n ≠ 0 := Nat.pos_iff_ne_zero.mp positive
  rw [halvings, if_neg nonzero, List.range_succ_eq_map, List.map_cons, List.map_map]
  congr 1
  rw [halvings, Nat.log2_def]
  by_cases large : 2 ≤ n
  · have half : n >>> 1 = n / 2 := Nat.shiftRight_eq_div_pow n 1
    rw [if_pos large, half, if_neg (by omega)]
    refine List.map_congr_left fun k _ => ?_
    rw [Function.comp_apply, Nat.succ_eq_add_one, Nat.add_comm k 1, Nat.shiftRight_add, half]
  · have one : n = 1 := by omega
    subst one
    rfl

theorem mem_halvings {n x : Nat} : x ∈ halvings n ↔ ∃ k, x = n >>> k ∧ 0 < x := by
  induction n using Nat.strongRecOn with
  | ind n ih =>
    rcases Nat.eq_zero_or_pos n with rfl | positive
    · simp only [halvings_zero, List.not_mem_nil, Nat.zero_shiftRight, false_iff]
      rintro ⟨_, rfl, impossible⟩
      exact Nat.lt_irrefl 0 impossible
    · have half : n >>> 1 = n / 2 := Nat.shiftRight_eq_div_pow n 1
      rw [halvings_of_pos positive, List.mem_cons, ih (n >>> 1) (by omega)]
      constructor
      · rintro (rfl | ⟨k, rfl, some⟩)
        · exact ⟨0, rfl, positive⟩
        · exact ⟨1 + k, (Nat.shiftRight_add n 1 k).symm, some⟩
      · rintro ⟨k, rfl, some⟩
        cases k with
        | zero => exact .inl rfl
        | succ k =>
          right
          exact ⟨k, by rw [← Nat.shiftRight_add, Nat.add_comm], some⟩

theorem nodup_halvings (n : Nat) : (halvings n).Nodup := by
  induction n using Nat.strongRecOn with
  | ind n ih =>
    rcases Nat.eq_zero_or_pos n with rfl | positive
    · exact List.nodup_nil
    · have half : n >>> 1 = n / 2 := Nat.shiftRight_eq_div_pow n 1
      rw [halvings_of_pos positive]
      refine List.nodup_cons.mpr ⟨fun member => ?_, ih _ (by omega)⟩
      obtain ⟨k, same, _⟩ := mem_halvings.mp member
      have less : n >>> 1 >>> k ≤ n >>> 1 := Nat.shiftRight_le _ _
      omega

-----------------------------------------------------------------------------------------
-- Trials
-----------------------------------------------------------------------------------------

section Trials

variable {α : Type} (ends : Nat → Bool)

/-- The candidates that are tried from the `turn`-th trial on. -/
def tried : Nat → List α → List α
  | _, [] => []
  | turn, first :: rest => first :: if ends turn then [] else tried (turn + 1) rest

/-- The candidate whose trial is the last, and its turn. -/
def decided : Nat → List α → Option (α × Nat)
  | _, [] => none
  | turn, first :: rest => if ends turn then some (first, turn) else decided (turn + 1) rest

variable {ends} {turn : Nat} {candidates : List α}

theorem tried_isPrefix : tried ends turn candidates <+: candidates := by
  induction candidates generalizing turn with
  | nil => exact List.prefix_rfl
  | cons first rest ih =>
    rw [tried]
    split
    · exact ⟨rest, rfl⟩
    · exact List.cons_prefix_cons.mpr ⟨rfl, ih⟩

/-- All candidates are tried unless a trial ends the search. -/
theorem tried_eq_of_decided_none (none : decided ends turn candidates = none)
    : tried ends turn candidates = candidates := by
  induction candidates generalizing turn with
  | nil => rfl
  | cons first rest ih =>
    rw [decided] at none
    split at none
    · cases none
    · rename_i goesOn
      rw [tried, if_neg goesOn, ih none]

theorem decided_ends {candidate : α} {last : Nat}
    (isLast : decided ends turn candidates = some (candidate, last))
    : ends last = true ∧ candidate ∈ candidates := by
  induction candidates generalizing turn with
  | nil => cases isLast
  | cons first rest ih =>
    rw [decided] at isLast
    split at isLast
    · cases isLast
      exact ⟨by assumption, List.mem_cons_self⟩
    · exact ⟨(ih isLast).1, List.mem_cons_of_mem _ (ih isLast).2⟩

end Trials

end Cx4Kernel.Foundation
