import Cx4Kernel.Foundation.BitGather

/-! The counterpart of `gather`: a number is written to the bits that the masks of a table
select, and what the tables of other numbers select stays.
-/

namespace Cx4Kernel.Foundation

variable {size width : Nat} {Key : Type}

-----
-- One register

/-- The selected bits of a word are those of the value from `j` on, and it has no others. -/
structure Lays (value : BitVec width) (j : Nat) (mask word : BitVec size) : Prop where
  inside : word &&& ~~~mask = 0
  bits : selected word mask = (List.range' j (maskBits mask).length).map value.getLsbD

theorem mem_maskBits {mask : BitVec size} {i : Nat}
    : i ∈ maskBits mask ↔ mask.getLsbD i = true := by
  rw [maskBits, List.mem_filter, List.mem_range]
  refine ⟨And.right, fun set => ⟨?_, set⟩⟩
  by_contra outside
  rw [BitVec.getLsbD_of_ge _ _ (Nat.le_of_not_lt outside)] at set
  cases set

/-- Words that agree where the mask is set have the same selected bits. -/
theorem selected_congr {register other mask : BitVec size}
    (bits : ∀ i, mask.getLsbD i = true → register.getLsbD i = other.getLsbD i)
    : selected register mask = selected other mask :=
  List.map_congr_left fun i member => bits i (mem_maskBits.mp member)

/-- A write under the complement of a mask sets the bits that the mask selects. -/
theorem selected_writeMasked (register word mask : BitVec size)
    : selected (writeMasked register word (~~~mask)) mask = selected word mask := by
  apply selected_congr
  intro i set
  simp [set]

/-- It keeps the bits that a mask without a common bit selects. -/
theorem selected_writeMasked_other (register word : BitVec size) {mask other : BitVec size}
    (apart : mask &&& other = 0)
    : selected (writeMasked register word (~~~mask)) other = selected register other := by
  apply selected_congr
  intro i set
  have clear : mask.getLsbD i = false := by
    have both := congrArg (BitVec.getLsbD · i) apart
    simpa [set] using both
  have inside : i < size := by
    by_contra outside
    rw [BitVec.getLsbD_of_ge _ _ (Nat.le_of_not_lt outside)] at set
    cases set
  rw [getLsbD_writeMasked, BitVec.getLsbD_not, clear, decide_eq_true inside]
  rfl

-----
-- Tables of places

/-- Two places have no bit in common. -/
def PlacesApart (place other : Key × BitVec size) : Prop :=
  place.1 = other.1 → place.2 &&& other.2 = 0

instance [DecidableEq Key] (place other : Key × BitVec size)
    : Decidable (PlacesApart place other) :=
  inferInstanceAs (Decidable (_ → _))

/-- No place of one table has a bit in common with one of the other. -/
def TablesApart (table other : List (Key × BitVec size)) : Prop :=
  ∀ place ∈ table, ∀ place' ∈ other, PlacesApart place place'

instance [DecidableEq Key] (table other : List (Key × BitVec size))
    : Decidable (TablesApart table other) :=
  inferInstanceAs (Decidable (∀ place ∈ table, ∀ place' ∈ other, PlacesApart place place'))

/-- The number of bits that a table selects. -/
def tableWidth (table : List (Key × BitVec size)) : Nat :=
  (table.map fun place => (maskBits place.2).length).sum

/-- A number is gathered from the selected bits only. -/
theorem gather_congr {read read' : Key → BitVec size} {table : List (Key × BitVec size)}
    (same : ∀ place ∈ table, selected (read place.1) place.2 = selected (read' place.1) place.2)
    : gather read table = gather read' table := by
  induction table with
  | nil => rfl
  | cons place rest ih =>
    rw [gather_cons, gather_cons, same place List.mem_cons_self,
      ih fun other member => same other (List.mem_cons_of_mem _ member)]

theorem bitsValue_lays (value : BitVec width) (j count : Nat)
    : bitsValue ((List.range' j count).map value.getLsbD) = (BitField.mk j count).get value :=
  bitsValue_range value j count

/-- How a table is written, one place after the other: the word at a place gets the bits of the
value that come next.
-/
inductive Scattered (value : BitVec width)
    : Nat → List (Key × BitVec size) → (Key → BitVec size) → (Key → BitVec size) → Prop where
  | nil (j regs) : Scattered value j [] regs regs
  | cons {j place rest regs next final word}
      (lays : Lays value j place.2 word)
      (here : next place.1 = writeMasked (regs place.1) word (~~~place.2))
      (elsewhere : ∀ key, key ≠ place.1 → next key = regs key)
      (later : Scattered value (j + (maskBits place.2).length) rest next final)
      : Scattered value j (place :: rest) regs final

variable {value : BitVec width} {table other : List (Key × BitVec size)} {j : Nat}
  {regs final : Key → BitVec size}

/-- A place apart from all that are written keeps its bits. -/
theorem Scattered.selected_other (run : Scattered value j table regs final)
    {place : Key × BitVec size} (apart : ∀ written ∈ table, PlacesApart written place)
    : selected (final place.1) place.2 = selected (regs place.1) place.2 := by
  induction run with
  | nil => rfl
  | @cons j written rest regs next final word lays here elsewhere later ih =>
    rw [ih fun other member => apart other (List.mem_cons_of_mem _ member)]
    by_cases same : place.1 = written.1
    · rw [same, here]
      exact selected_writeMasked_other _ _ (apart written List.mem_cons_self same.symm)
    · rw [elsewhere _ same]

/-- A register that no place is in stays. -/
theorem Scattered.apply_other (run : Scattered value j table regs final) {key : Key}
    (outside : ∀ written ∈ table, written.1 ≠ key)
    : final key = regs key := by
  induction run with
  | nil => rfl
  | @cons j written rest regs next final word lays here elsewhere later ih =>
    rw [ih fun other member => outside other (List.mem_cons_of_mem _ member)]
    exact elsewhere key fun same => outside written List.mem_cons_self same.symm

/-- A number in another table is read as before. -/
theorem Scattered.gather_other (run : Scattered value j table regs final)
    (apart : TablesApart table other)
    : gather final other = gather regs other :=
  gather_congr fun _ member =>
    run.selected_other fun written isWritten => apart written isWritten _ member

/-- What is written to a table is read back, as far as the table has bits for it. -/
theorem Scattered.gather_eq (run : Scattered value j table regs final)
    (apart : table.Pairwise PlacesApart)
    : gather final table = (BitField.mk j (tableWidth table)).get value := by
  induction run with
  | nil => simp [tableWidth, BitField.get, Nat.mod_one]
  | @cons j written rest regs next final word lays here elsewhere later ih =>
    obtain ⟨first, others⟩ := List.pairwise_cons.mp apart
    have kept : selected (final written.1) written.2 = selected (next written.1) written.2 := by
      apply later.selected_other
      intro other member same
      rw [BitVec.and_comm]
      exact first other member same.symm
    have read : selected (final written.1) written.2
        = (List.range' j (maskBits written.2).length).map value.getLsbD := by
      rw [kept, here, selected_writeMasked, lays.bits]
    rw [gather_cons, read, bitsValue_lays, ih others, BitField.get_append]
    rfl

end Cx4Kernel.Foundation
