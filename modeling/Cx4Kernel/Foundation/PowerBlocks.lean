import Mathlib.Algebra.BigOperators.Group.List.Basic
import Mathlib.Algebra.GroupWithZero.Nat
import Mathlib.Data.BitVec
import Mathlib.Data.Finset.Range
import Mathlib.Data.LawfulXor.Basic
import Mathlib.Data.Nat.Bitwise

/-! Blocks of numbers whose sizes are powers of two, laid one after the other, and the one bits
of a number taken one at a time. A range that is cut by its one bits is made of such blocks.
-/

namespace Cx4Kernel.Foundation

/-- A power of two of numbers from a base on. -/
structure PowerBlock where
  base : Nat
  exponent : Nat
deriving DecidableEq

namespace PowerBlock

/-- The first number after a block. -/
def stop (block : PowerBlock) : Nat :=
  block.base + 2 ^ block.exponent

/-- A number is in a block. -/
def Has (block : PowerBlock) (number : Nat) : Prop :=
  block.base ≤ number ∧ number < block.stop

/-- A block starts at a multiple of its size. -/
def Aligned (block : PowerBlock) : Prop :=
  2 ^ block.exponent ∣ block.base

/-- How many numbers blocks with some exponents have together. -/
def total (exponents : List Nat) : Nat :=
  (exponents.map (2 ^ ·)).sum

@[simp] theorem total_nil : total [] = 0 :=
  rfl

@[simp] theorem total_cons (exponent : Nat) (exponents : List Nat)
    : total (exponent :: exponents) = 2 ^ exponent + total exponents := by
  simp [total]

/-- Blocks one after the other from a place on. -/
def row (place : Nat) : List Nat → List PowerBlock
  | [] => []
  | exponent :: exponents => ⟨place, exponent⟩ :: row (place + 2 ^ exponent) exponents

variable {place : Nat} {exponents : List Nat}

/-- A row has the numbers from its place on. By induction on the exponents. -/
theorem row_has (number : Nat)
    : (∃ block ∈ row place exponents, block.Has number)
      ↔ place ≤ number ∧ number < place + total exponents := by
  induction exponents generalizing place with
  | nil =>
      constructor
      · rintro ⟨_, member, _⟩
        exact absurd member List.not_mem_nil
      · intro between
        exact absurd between.2 (Nat.not_lt.mpr between.1)
  | cons exponent exponents ih =>
      have positive := Nat.two_pow_pos exponent
      rw [row, List.exists_mem_cons_iff, ih, total_cons]
      simp only [Has, stop]
      omega

/-- The blocks of a row start where it starts or later. -/
theorem row_base {block : PowerBlock} (member : block ∈ row place exponents)
    : place ≤ block.base := by
  have first := (row_has block.base).mp
    ⟨block, member, Nat.le_refl _, Nat.lt_add_of_pos_right (Nat.two_pow_pos _)⟩
  exact first.1

/-- They end where it ends or earlier. -/
theorem row_stop {block : PowerBlock} (member : block ∈ row place exponents)
    : block.stop ≤ place + total exponents := by
  have positive := Nat.two_pow_pos block.exponent
  have last := (row_has (block.base + (2 ^ block.exponent - 1))).mp
    ⟨block, member, Nat.le_add_right _ _, by rw [stop]; omega⟩
  rw [stop]
  omega

/-- Their exponents are those of the row. -/
theorem row_exponent {block : PowerBlock} (member : block ∈ row place exponents)
    : block.exponent ∈ exponents := by
  induction exponents generalizing place with
  | nil => exact absurd member List.not_mem_nil
  | cons exponent exponents ih =>
      rcases List.mem_cons.mp member with rfl | later
      · exact List.mem_cons_self
      · exact .tail _ (ih later)

/-- The blocks of a row lie one after the other. By induction on the exponents. -/
theorem row_apart (place : Nat) (exponents : List Nat)
    : (row place exponents).Pairwise fun one other => one.stop ≤ other.base := by
  induction exponents generalizing place with
  | nil => exact List.Pairwise.nil
  | cons exponent exponents ih => exact .cons (fun _ member => row_base member) (ih _)

/-- Blocks of decreasing sizes are aligned if the row starts at a multiple of the sizes. By
induction on the exponents: the place stays a multiple of the smaller sizes.
-/
theorem row_aligned_of_descending (descending : exponents.Pairwise (· ≥ ·))
    (divides : ∀ exponent ∈ exponents, 2 ^ exponent ∣ place)
    : ∀ block ∈ row place exponents, block.Aligned := by
  induction exponents generalizing place with
  | nil => exact fun _ member => absurd member List.not_mem_nil
  | cons exponent exponents ih =>
      obtain ⟨larger, descending⟩ := List.pairwise_cons.mp descending
      intro block member
      rcases List.mem_cons.mp member with rfl | later
      · exact divides exponent List.mem_cons_self
      · apply ih descending _ block later
        intro smaller known
        exact Nat.dvd_add (divides smaller (.tail _ known))
          (Nat.pow_dvd_pow 2 (larger smaller known))

/-- A power of two divides the sum of larger ones. -/
theorem dvd_total {smallest : Nat} (larger : ∀ exponent ∈ exponents, smallest ≤ exponent)
    : 2 ^ smallest ∣ total exponents := by
  induction exponents with
  | nil => exact Nat.dvd_zero _
  | cons exponent exponents ih =>
      rw [total_cons]
      apply Nat.dvd_add
      · exact Nat.pow_dvd_pow 2 (larger exponent List.mem_cons_self)
      · exact ih fun other known => larger other (.tail _ known)

/-- Blocks of increasing sizes are aligned if the row ends at a multiple of the sizes. By
induction on the exponents: a size divides the sizes after it.
-/
theorem row_aligned_of_ascending (ascending : exponents.Pairwise (· ≤ ·))
    (divides : ∀ exponent ∈ exponents, 2 ^ exponent ∣ place + total exponents)
    : ∀ block ∈ row place exponents, block.Aligned := by
  induction exponents generalizing place with
  | nil => exact fun _ member => absurd member List.not_mem_nil
  | cons exponent exponents ih =>
      obtain ⟨smaller, ascending⟩ := List.pairwise_cons.mp ascending
      intro block member
      rcases List.mem_cons.mp member with rfl | later
      · have rest : 2 ^ exponent ∣ total (exponent :: exponents) := by
          apply dvd_total
          intro other known
          rcases List.mem_cons.mp known with rfl | behind
          · exact Nat.le_refl _
          · exact smaller other behind
        exact (Nat.dvd_add_left rest).mp (divides exponent List.mem_cons_self)
      · apply ih ascending _ block later
        intro other known
        rw [Nat.add_assoc, ← total_cons]
        exact divides other (.tail _ known)

end PowerBlock

-----------------------------------------------------------------------------------------
-- One bits
-----------------------------------------------------------------------------------------

variable {w : Nat}

/-- The position of the highest one bit of a number that is not 0. -/
def highBit (number : BitVec w) : Nat :=
  number.toNat.log2

/-- The position of the lowest one bit of a number that is not 0. -/
def lowBit (number : BitVec w) : Nat :=
  (List.range w).findIdx number.getLsbD

/-- The positions of the one bits. -/
def oneBits (number : BitVec w) : Finset Nat :=
  (Finset.range w).filter fun position => number.getLsbD position = true

/-- A number without a bit. -/
def clearBit (number : BitVec w) (position : Nat) : BitVec w :=
  number &&& ~~~(1#w <<< position)

/-- The positions of one bits, taken one after the other by a choice. -/
def takeBits (pick : BitVec w → Nat) : Nat → BitVec w → List Nat
  | 0, _ => []
  | rounds + 1, number =>
      if number = 0 then []
      else pick number :: takeBits pick rounds (clearBit number (pick number))

variable {number : BitVec w} {position : Nat}

theorem mem_oneBits : position ∈ oneBits number ↔ number.getLsbD position = true := by
  unfold oneBits
  rw [Finset.mem_filter, Finset.mem_range]
  exact ⟨And.right, fun one => ⟨BitVec.lt_of_getLsbD one, one⟩⟩

/-- A number has at most as many one bits as it has bits. -/
theorem oneBits_card_le (number : BitVec w) : (oneBits number).card ≤ w :=
  Nat.le_trans (Finset.card_filter_le _ _) (Nat.le_of_eq (Finset.card_range w))

/-- A number without one bits is 0. -/
theorem oneBits_nonempty (notZero : number ≠ 0) : (oneBits number).Nonempty := by
  by_contra empty
  apply notZero
  apply BitVec.eq_of_getLsbD_eq
  intro position _
  have absent : position ∉ oneBits number := by
    rw [Finset.not_nonempty_iff_eq_empty.mp empty]
    exact Finset.notMem_empty position
  rw [mem_oneBits, Bool.not_eq_true] at absent
  simpa using absent

/-- The highest one bit is a one bit, and none is higher. -/
theorem highBit_spec (notZero : number ≠ 0)
    : number.getLsbD (highBit number) = true
      ∧ ∀ other, number.getLsbD other = true → other ≤ highBit number := by
  have positive : number.toNat ≠ 0 := fun zero => notZero (BitVec.eq_of_toNat_eq zero)
  refine ⟨?_, fun other one => ?_⟩
  · rw [← BitVec.testBit_toNat]
    exact Nat.testBit_log2 positive
  · rw [← BitVec.testBit_toNat] at one
    exact (Nat.le_log2 positive).mpr (Nat.ge_two_pow_of_testBit one)

/-- The lowest one bit is a one bit, and none is lower. -/
theorem lowBit_spec (notZero : number ≠ 0)
    : number.getLsbD (lowBit number) = true
      ∧ ∀ other, number.getLsbD other = true → lowBit number ≤ other := by
  obtain ⟨position, known⟩ := oneBits_nonempty notZero
  have one := mem_oneBits.mp known
  have listed : ∃ position ∈ List.range w, number.getLsbD position = true :=
    ⟨position, List.mem_range.mpr (BitVec.lt_of_getLsbD one), one⟩
  have inside := List.findIdx_lt_length.mpr listed
  constructor
  · have found := @List.findIdx_getElem _ _ _ inside
    rwa [List.getElem_range] at found
  · intro other one
    apply Nat.le_of_not_lt
    intro lower
    have missed := List.not_of_lt_findIdx lower
    rw [List.getElem_range] at missed
    exact absurd one (by simp [missed])

/-- The bits of a number without a bit. -/
theorem clearBit_getLsbD (number : BitVec w) (position other : Nat)
    : (clearBit number position).getLsbD other
      = (number.getLsbD other && !decide (other = position)) := by
  change (number &&& ~~~BitVec.twoPow w position).getLsbD other = _
  by_cases inside : other < w
  · by_cases same : other = position
    · subst same
      simp [inside]
    · simp [inside, same]
  · simp [BitVec.getLsbD_of_ge number other (Nat.not_lt.mp inside)]

/-- The other one bits stay. -/
theorem oneBits_clearBit (number : BitVec w) (position : Nat)
    : oneBits (clearBit number position) = (oneBits number).erase position := by
  ext other
  rw [Finset.mem_erase, mem_oneBits, mem_oneBits, clearBit_getLsbD]
  simp [and_comm]

/-- A one bit counts its power of two. -/
theorem clearBit_toNat (one : number.getLsbD position = true)
    : 2 ^ position + (clearBit number position).toNat = number.toNat := by
  have inside := BitVec.lt_of_getLsbD one
  have power : (BitVec.twoPow w position).toNat = 2 ^ position :=
    BitVec.toNat_twoPow_of_lt inside
  have apart : BitVec.twoPow w position &&& clearBit number position = 0#w := by
    apply BitVec.eq_of_getLsbD_eq
    intro other _
    rw [BitVec.getLsbD_and, clearBit_getLsbD, BitVec.getLsbD_twoPow]
    by_cases same : other = position
    · simp [same]
    · simp [Ne.symm same]
  have together : BitVec.twoPow w position + clearBit number position = number := by
    rw [BitVec.add_eq_or_of_and_eq_zero _ _ apart]
    apply BitVec.eq_of_getLsbD_eq
    intro other _
    rw [BitVec.getLsbD_or, clearBit_getLsbD, BitVec.getLsbD_twoPow]
    by_cases same : other = position
    · subst same
      simp [inside, one]
    · simp [same, Ne.symm same]
  rw [← power, ← BitVec.toNat_add_of_and_eq_zero apart, together]

-----------------------------------------------------------------------------------------
-- Taking the bits one at a time
-----------------------------------------------------------------------------------------

/-- A choice takes a one bit. -/
def PicksBit (pick : BitVec w → Nat) : Prop :=
  ∀ number : BitVec w, number ≠ 0 → number.getLsbD (pick number) = true

variable {pick : BitVec w → Nat} {rounds : Nat}

theorem highBit_picks : PicksBit (@highBit w) :=
  fun _ notZero => (highBit_spec notZero).1

theorem lowBit_picks : PicksBit (@lowBit w) :=
  fun _ notZero => (lowBit_spec notZero).1

/-- Only one bits are taken. By induction on the rounds. -/
theorem takeBits_mem (picks : PicksBit pick) (taken : position ∈ takeBits pick rounds number)
    : number.getLsbD position = true := by
  induction rounds generalizing number with
  | zero => exact absurd taken List.not_mem_nil
  | succ rounds ih =>
      rw [takeBits] at taken
      split at taken
      next => exact absurd taken List.not_mem_nil
      next notZero =>
        rcases List.mem_cons.mp taken with rfl | later
        · exact picks number notZero
        · have kept := ih later
          rw [clearBit_getLsbD, Bool.and_eq_true] at kept
          exact kept.1

/-- The bits are taken in an order if the choice comes first among the one bits. By induction
on the rounds.
-/
theorem takeBits_pairwise {before : Nat → Nat → Prop} (picks : PicksBit pick)
    (first : ∀ number : BitVec w, number ≠ 0 →
      ∀ other, number.getLsbD other = true → before (pick number) other)
    : (takeBits pick rounds number).Pairwise before := by
  induction rounds generalizing number with
  | zero => exact List.Pairwise.nil
  | succ rounds ih =>
      rw [takeBits]
      split
      next => exact List.Pairwise.nil
      next notZero =>
        refine .cons (fun other later => ?_) ih
        have kept := takeBits_mem picks later
        rw [clearBit_getLsbD, Bool.and_eq_true] at kept
        exact first number notZero other kept.1

/-- With a round for each one bit all are taken: they are as many as there are, and make up the
number. By induction on the rounds.
-/
theorem takeBits_all (picks : PicksBit pick) (few : (oneBits number).card ≤ rounds)
    : (takeBits pick rounds number).length = (oneBits number).card
      ∧ PowerBlock.total (takeBits pick rounds number) = number.toNat := by
  induction rounds generalizing number with
  | zero =>
      have zero : number = 0 := by
        by_contra notZero
        exact absurd few (Nat.not_le.mpr (oneBits_nonempty notZero).card_pos)
      subst zero
      exact ⟨(Nat.le_zero.mp few).symm, by simp [takeBits]⟩
  | succ rounds ih =>
      rw [takeBits]
      split
      next zero =>
        subst zero
        exact ⟨by simp [oneBits], by simp⟩
      next notZero =>
        have one := picks number notZero
        have fewer : (oneBits (clearBit number (pick number))).card + 1
            = (oneBits number).card := by
          rw [oneBits_clearBit]
          exact Finset.card_erase_add_one (mem_oneBits.mpr one)
        obtain ⟨length, sum⟩ := ih (Nat.le_of_succ_le_succ (fewer ▸ few))
        constructor
        · rw [List.length_cons, length, fewer]
        · rw [PowerBlock.total_cons, sum, clearBit_toNat one]

/-- Where two numbers differ highest, the larger one has one multiple of that power more. -/
theorem div_log2_xor {start stop : Nat} (less : start < stop)
    : stop / 2 ^ (start ^^^ stop).log2 = start / 2 ^ (start ^^^ stop).log2 + 1 := by
  have differ : start ^^^ stop ≠ 0 := fun zero => Nat.ne_of_lt less (xor_eq_zero_iff.mp zero)
  obtain ⟨low, high⟩ := (Nat.log2_eq_iff differ).mp rfl
  generalize (start ^^^ stop).log2 = position at low high ⊢
  have order : start / 2 ^ position ≤ stop / 2 ^ position :=
    Nat.div_le_div_right (Nat.le_of_lt less)
  have one : (start / 2 ^ position) ^^^ (stop / 2 ^ position) = 1 := by
    rw [← Nat.shiftRight_eq_div_pow, ← Nat.shiftRight_eq_div_pow, ← Nat.shiftRight_xor_distrib,
      Nat.shiftRight_eq_div_pow]
    apply Nat.div_eq_of_lt_le
    · rwa [Nat.one_mul]
    · rwa [Nat.mul_comm, ← Nat.pow_succ]
  generalize start / 2 ^ position = lower at one order ⊢
  generalize stop / 2 ^ position = upper at one order ⊢
  have flipped : upper = lower ^^^ 1 := by
    rw [← one, ← Nat.xor_assoc, Nat.xor_self, Nat.zero_xor]
  rcases Nat.even_or_odd lower with even | odd
  · rw [flipped, Nat.xor_one_of_even even]
  · rw [Nat.xor_one_of_odd odd] at flipped
    obtain ⟨half, rfl⟩ := odd
    omega

end Cx4Kernel.Foundation
