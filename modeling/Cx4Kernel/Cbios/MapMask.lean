import Cx4Kernel.Foundation.BitGather
import Cx4Kernel.Foundation.MachineInt

/-! Values that are spread over the bits of several bytes, as the tables of `CBiosEDID.c` and
`CBiosUtilHw.c` describe them.
-/

namespace Cx4Kernel.Cbios

open Cx4Kernel.Foundation

variable {Key : Type}

/-- The inner loop of `cbEDIDModule_MapMaskGetEdidInfo` and `cbMapMaskRead`: the bits of a byte
that the mask selects are added to the value from bit `j` on.
-/
def mapMaskBits (byRegValue mask : U8) (positions : List Nat) (state : U32 × Nat) : U32 × Nat :=
  positions.foldl
    (fun (uRet, j) i =>
      if mask.getLsbD i then (uRet + (if byRegValue.getLsbD i then (1 : U32) <<< j else 0), j + 1)
      else (uRet, j))
    state

/-- `cbEDIDModule_MapMaskGetEdidInfo` and `cbMapMaskRead`. -/
def mapMaskRead (read : Key → U8) (table : List (Key × U8)) : U32 :=
  (table.foldl
    (fun state entry => mapMaskBits (read entry.1) entry.2 (List.range 8) state) (0, 0)).1

/-- The bits of a byte go behind those that are there. -/
theorem mapMaskBits_eq (byRegValue mask : U8) {positions : List Nat} {uRet : U32} {j : Nat}
    (below : uRet.toNat < 2 ^ j)
    (room : j + (positions.filter mask.getLsbD).length ≤ 32)
    : let bits := (positions.filter mask.getLsbD).map byRegValue.getLsbD
      (mapMaskBits byRegValue mask positions (uRet, j)).1.toNat = uRet.toNat + 2 ^ j * bitsValue bits
      ∧ (mapMaskBits byRegValue mask positions (uRet, j)).2 = j + bits.length := by
  induction positions generalizing uRet j with
  | nil => simp [mapMaskBits, bitsValue]
  | cons i rest ih =>
    by_cases set : mask.getLsbD i
    · rw [List.filter_cons_of_pos set] at room ⊢
      rw [List.length_cons] at room
      have power : 2 ^ (j + 1) ≤ 2 ^ 32 := Nat.pow_le_pow_right (by decide) (by omega)
      obtain ⟨added, isAdded⟩ : ∃ added, added
          = uRet + if byRegValue.getLsbD i then (1 : U32) <<< j else 0 := ⟨_, rfl⟩
      have value : added.toNat = uRet.toNat + 2 ^ j * (byRegValue.getLsbD i).toNat := by
        rw [isAdded, BitVec.toNat_add]
        cases byRegValue.getLsbD i with
        | false => exact Nat.mod_eq_of_lt uRet.isLt
        | true =>
          rw [if_pos rfl, BitVec.toNat_shiftLeft, Nat.shiftLeft_eq, Bool.toNat_true]
          change (_ + 1 * 2 ^ j % 2 ^ 32) % 2 ^ 32 = _
          omega
      have step : mapMaskBits byRegValue mask (i :: rest) (uRet, j)
          = mapMaskBits byRegValue mask rest (added, j + 1) := by
        rw [isAdded]
        simp only [mapMaskBits, List.foldl_cons, set, if_true]
      have bound : added.toNat < 2 ^ (j + 1) := by
        rw [value]
        cases byRegValue.getLsbD i <;> simp <;> omega
      have next := ih bound (by omega)
      rw [step]
      refine ⟨?_, ?_⟩
      · rw [next.1, value, List.map_cons, show ∀ bit bits,
          bitsValue (bit :: bits) = bit.toNat + 2 * bitsValue bits from fun _ _ => rfl]
        ring
      · rw [next.2, List.map_cons, List.length_cons]
        omega
    · rw [List.filter_cons_of_neg set] at room ⊢
      have step : mapMaskBits byRegValue mask (i :: rest) (uRet, j)
          = mapMaskBits byRegValue mask rest (uRet, j) := by
        simp only [mapMaskBits, List.foldl_cons, set, if_false, Bool.false_eq_true]
      rw [step]
      exact ih below room

/-- The number of bits that a table selects. -/
def tableBits (table : List (Key × U8)) : Nat := (table.map fun e => (maskBits e.2).length).sum

/-- A table of at most 32 bits reads the number that its places spell. -/
theorem toNat_mapMaskRead (read : Key → U8) {table : List (Key × U8)} (room : tableBits table ≤ 32)
    : (mapMaskRead read table).toNat = gather read table := by
  have run (uRet : U32) (j : Nat) (below : uRet.toNat < 2 ^ j) (room : j + tableBits table ≤ 32)
      : (table.foldl (fun state entry => mapMaskBits (read entry.1) entry.2 (List.range 8) state)
          (uRet, j)).1.toNat
        = uRet.toNat + 2 ^ j * gather read table := by
    induction table generalizing uRet j with
    | nil => simp
    | cons entry rest ih =>
      have split : tableBits (entry :: rest) = (maskBits entry.2).length + tableBits rest := rfl
      rw [split] at room
      have bits := mapMaskBits_eq (read entry.1) entry.2 below
        (Nat.le_trans (Nat.add_le_add_left (Nat.le_add_right _ _) j) room : j
          + ((List.range 8).filter entry.2.getLsbD).length ≤ 32)
      obtain ⟨next, isNext⟩ : ∃ next,
          mapMaskBits (read entry.1) entry.2 (List.range 8) (uRet, j) = next := ⟨_, rfl⟩
      rw [isNext] at bits
      change next.1.toNat = uRet.toNat + 2 ^ j * bitsValue (selected (read entry.1) entry.2)
        ∧ next.2 = j + (selected (read entry.1) entry.2).length at bits
      obtain ⟨value, position⟩ := bits
      have length : (selected (read entry.1) entry.2).length = (maskBits entry.2).length := by
        rw [selected, List.length_map]
      have bound : next.1.toNat < 2 ^ next.2 := by
        have less := bitsValue_lt (selected (read entry.1) entry.2)
        have product := Nat.mul_le_mul_left (2 ^ j) (Nat.succ_le_of_lt less)
        rw [value, position, Nat.pow_add]
        rw [Nat.mul_succ] at product
        omega
      have rest' := ih (by omega) next.1 next.2 bound (by rw [position, length]; omega)
      rw [List.foldl_cons, isNext, rest', value, position, gather_cons, length, Nat.pow_add]
      ring
  have start := run 0 0 (by decide) (by omega)
  rw [mapMaskRead, start]
  simp

end Cx4Kernel.Cbios
