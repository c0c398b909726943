import Mathlib.Data.List.Basic

/-! Lists that grow at their end while entries are replaced where they are, and keys that no two
entries of such a list share.
-/

namespace Cx4Kernel.Foundation

variable {α κ : Type}

-----------------------------------------------------------------------------------------
-- Entries
-----------------------------------------------------------------------------------------

section Entries

variable {entries : List α} {i index : Nat} {new x : α}

/-- The entries of a list with one more. -/
theorem getElem?_append_one (found : (entries ++ [new])[i]? = some x)
    : entries[i]? = some x ∨ i = entries.length ∧ x = new := by
  rcases Nat.lt_trichotomy i entries.length with low | same | high
  · exact .inl (by rwa [List.getElem?_append_left low] at found)
  · subst same
    simp at found
    exact .inr ⟨rfl, found.symm⟩
  · rw [List.getElem?_eq_none (by simp; omega)] at found
    cases found

/-- The entries of a list with one replaced. -/
theorem getElem?_set_one (found : (entries.set index new)[i]? = some x)
    : i = index ∧ x = new ∨ i ≠ index ∧ entries[i]? = some x := by
  by_cases here : index = i
  · subst here
    have inside := (List.getElem?_eq_some_iff.mp found).1
    rw [List.length_set] at inside
    rw [List.getElem?_set_self inside] at found
    exact .inl ⟨rfl, (Option.some.inj found).symm⟩
  · rw [List.getElem?_set_ne here] at found
    exact .inr ⟨Ne.symm here, found⟩

end Entries

-----------------------------------------------------------------------------------------
-- Growth
-----------------------------------------------------------------------------------------

section Growth

/-- Every entry is still at its index, as one that `kept` relates to it. -/
def Grown (kept : α → α → Prop) (before after : List α) : Prop :=
  ∀ (index : Nat) entry, before[index]? = some entry
    → ∃ later, after[index]? = some later ∧ kept entry later

variable {kept : α → α → Prop} {before middle after : List α}

theorem Grown.refl (self : ∀ entry, kept entry entry) (entries : List α)
    : Grown kept entries entries :=
  fun _ entry found => ⟨entry, found, self entry⟩

theorem Grown.trans (chain : ∀ {a b c}, kept a b → kept b c → kept a c)
    (first : Grown kept before middle) (second : Grown kept middle after)
    : Grown kept before after := by
  intro index entry found
  obtain ⟨later, found, same⟩ := first index entry found
  obtain ⟨last, found, same'⟩ := second index later found
  exact ⟨last, found, chain same same'⟩

theorem Grown.length_le (grown : Grown kept before after) : before.length ≤ after.length := by
  by_contra shorter
  have found := List.getElem?_eq_getElem (l := before) (i := after.length) (by omega)
  obtain ⟨later, found, _⟩ := grown _ _ found
  simp at found

theorem grown_append (self : ∀ entry, kept entry entry) (entries new : List α)
    : Grown kept entries (entries ++ new) := by
  intro index entry found
  have inside := (List.getElem?_eq_some_iff.mp found).1
  exact ⟨entry, by rw [List.getElem?_append_left inside, found], self entry⟩

theorem grown_set (self : ∀ entry, kept entry entry) {index : Nat} {old new : α}
    (found : before[index]? = some old) (same : kept old new)
    : Grown kept before (before.set index new) := by
  intro i entry found'
  by_cases here : index = i
  · subst here
    have inside := (List.getElem?_eq_some_iff.mp found).1
    rw [found] at found'
    cases found'
    exact ⟨new, List.getElem?_set_self inside, same⟩
  · exact ⟨entry, by rw [List.getElem?_set_ne here, found'], self entry⟩

end Growth

-----------------------------------------------------------------------------------------
-- Keys
-----------------------------------------------------------------------------------------

section Keys

/-- No two entries have the same key. -/
def KeysApart (key : α → Option κ) (entries : List α) : Prop :=
  ∀ (i j : Nat) x y k, entries[i]? = some x → entries[j]? = some y → key x = some k → key y = some k
    → i = j

variable {key : α → Option κ} {entries : List α}

theorem keysApart_nil : KeysApart key [] := by
  intro i j x y k found
  simp at found

theorem KeysApart.append {new : α} (apart : KeysApart key entries)
    (fresh : ∀ k, key new = some k → ∀ x ∈ entries, key x ≠ some k)
    : KeysApart key (entries ++ [new]) := by
  intro i j x y k found found' keyed keyed'
  rcases getElem?_append_one found with old | ⟨rfl, rfl⟩
    <;> rcases getElem?_append_one found' with old' | ⟨rfl, rfl⟩
  · exact apart i j x y k old old' keyed keyed'
  · exact absurd keyed (fresh k keyed' x (List.mem_of_getElem? old))
  · exact absurd keyed' (fresh k keyed y (List.mem_of_getElem? old'))
  · rfl

/-- An entry may be replaced by one whose key no other entry has. -/
theorem KeysApart.set {index : Nat} {new : α} (apart : KeysApart key entries)
    (fresh : ∀ k, key new = some k → ∀ (j : Nat) x, entries[j]? = some x → key x = some k
      → j = index)
    : KeysApart key (entries.set index new) := by
  intro i j x y k found found' keyed keyed'
  rcases getElem?_set_one found with ⟨rfl, rfl⟩ | ⟨other, old⟩
    <;> rcases getElem?_set_one found' with ⟨rfl, rfl⟩ | ⟨other', old'⟩
  · rfl
  · exact (fresh k keyed j y old' keyed').symm
  · exact fresh k keyed' i x old keyed
  · exact apart i j x y k old old' keyed keyed'

end Keys

end Cx4Kernel.Foundation
