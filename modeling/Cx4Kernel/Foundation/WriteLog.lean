import Mathlib.Data.List.Induction

/-! Logs of writes to places with keys, where some writes go to no place at all and a place holds
what the last write to it left.
-/

namespace Cx4Kernel.Foundation

variable {Write κ β : Type}

section Log

variable (key : Write → Option κ)

/-- Some write of the log goes to the place. -/
def Names (log : List Write) (k : κ) : Prop := ∃ write ∈ log, key write = some k

/-- What the log leaves at a place. -/
def latest [DecidableEq κ] (value : Write → β) (start : β) (log : List Write) (k : κ) : β :=
  log.foldl (fun held write => if key write = some k then value write else held) start

end Log

variable {key : Write → Option κ} {log : List Write}

theorem names_append (more : List Write) (k : κ)
    : Names key (log ++ more) k ↔ Names key log k ∨ Names key more k := by
  simp only [Names, List.mem_append, or_and_right, exists_or]

theorem names_singleton (write : Write) (k : κ) : Names key [write] k ↔ key write = some k := by
  simp [Names]

variable [DecidableEq κ] {value : Write → β} {start : β}

theorem latest_append_one (write : Write) (k : κ)
    : latest key value start (log ++ [write]) k
      = if key write = some k then value write else latest key value start log k := by
  rw [latest, List.foldl_append]
  rfl

theorem latest_of_not_names {k : κ} (none : ¬ Names key log k)
    : latest key value start log k = start := by
  induction log using List.reverseRecOn with
  | nil => rfl
  | append_singleton log write ih =>
    rw [names_append, names_singleton, not_or] at none
    rw [latest_append_one, if_neg none.2, ih none.1]

end Cx4Kernel.Foundation
