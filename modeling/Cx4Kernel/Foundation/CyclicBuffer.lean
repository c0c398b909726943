import Mathlib.Data.Nat.ModEq
import Cx4Kernel.Foundation.Transition

/-! Occupied stretches of a ring of offsets. A producer appends at the far end while at
most one lap is occupied, a consumer takes from the near end, and what is appended never
lands on an occupied offset.
-/

namespace Cx4Kernel.Foundation

/-- A ring of `size` offsets of which `count` consecutive ones, from `start` on, are
occupied. At most one lap is.
-/
structure CyclicBuffer where
  size : Nat
  start : Nat
  count : Nat
  start_lt : start < size
  count_le : count ≤ size

namespace CyclicBuffer

variable (buffer : CyclicBuffer)

/-- The offset `distance` places behind the first occupied one, wrapping at the end. -/
def position (distance : Nat) : Nat := (buffer.start + distance) % buffer.size

/-- `offset` is one of the occupied places. -/
def Holds (offset : Nat) : Prop := ∃ distance < buffer.count, buffer.position distance = offset

/-- Take the first `amount` places off the occupied stretch. -/
def consume (amount : Nat) (_ : amount ≤ buffer.count) : CyclicBuffer where
  size := buffer.size
  start := buffer.position amount
  count := buffer.count - amount
  start_lt := Nat.mod_lt _ (Nat.zero_lt_of_lt buffer.start_lt)
  count_le := (Nat.sub_le ..).trans buffer.count_le

/-- Occupy the next `amount` places. -/
def append (amount : Nat) (room : buffer.count + amount ≤ buffer.size) : CyclicBuffer :=
  { buffer with count := buffer.count + amount, count_le := room }

/-- What a producer and a consumer may do, with the amount they move. -/
inductive Action where
  | consume (amount : Nat)
  | append (amount : Nat)

/-- The bounded buffer as a transition system: consume what is there, append what fits. -/
def system : System CyclicBuffer Action where
  initial buffer := buffer.count = 0
  step before action after :=
    match action with
    | .consume amount => ∃ enough, after = before.consume amount enough
    | .append amount => ∃ room, after = before.append amount room

/-- Two places less than one lap apart are different offsets, since their distance would
have to be a multiple of the size.
-/
theorem position_injective {near far : Nat} (order : near < far) (lap : far < near + buffer.size)
    : buffer.position near ≠ buffer.position far := by
  intro same
  have congruent : near ≡ far [MOD buffer.size] :=
    Nat.ModEq.add_left_cancel (Nat.ModEq.refl buffer.start) same
  have divides : buffer.size ∣ far - near := (Nat.modEq_iff_dvd' order.le).mp congruent
  have lapped : buffer.size ≤ far - near := Nat.le_of_dvd (by omega) divides
  omega

variable {buffer}

/-- Appended places were free, because together with the occupied ones they make at most
one lap.
-/
theorem append_fresh {amount distance : Nat} (room : buffer.count + amount ≤ buffer.size)
    (appended : distance < amount)
    : ¬ buffer.Holds (buffer.position (buffer.count + distance)) := by
  intro held
  obtain ⟨old, occupied, same⟩ := held
  exact position_injective buffer (by omega) (by omega) same

/-- Consuming moves every later place nearer by what was consumed. -/
theorem position_consume {amount : Nat} (enough : amount ≤ buffer.count) (distance : Nat)
    : (buffer.consume amount enough).position distance
      = buffer.position (amount + distance) := by
  simp only [position, consume, Nat.mod_add_mod, Nat.add_assoc]

-----------------------------------------------------------------------------------------
-- What the occupied places hold
-----------------------------------------------------------------------------------------

variable {Item : Type*} {memory changed : Nat → Item} {content items : List Item}

/-- The occupied places hold `content`, in order. -/
structure Stores (buffer : CyclicBuffer) (memory : Nat → Item) (content : List Item) : Prop where
  length : content.length = buffer.count
  at_position : ∀ (distance : Nat) (h : distance < content.length),
    memory (buffer.position distance) = content[distance]

/-- Consuming takes the first items off the content. -/
theorem Stores.consume {amount : Nat} (stores : buffer.Stores memory content)
    (enough : amount ≤ buffer.count)
    : (buffer.consume amount enough).Stores memory (content.drop amount) := by
  refine ⟨?_, fun distance h => ?_⟩
  · rw [List.length_drop, stores.length]
    rfl
  · rw [List.length_drop] at h
    rw [position_consume, stores.at_position (amount + distance) (by omega), List.getElem_drop]

/-- Writing items to the next free places and nothing to the occupied ones appends them to
the content.
-/
theorem Stores.append (stores : buffer.Stores memory content)
    (room : buffer.count + items.length ≤ buffer.size)
    (kept : ∀ distance < buffer.count,
      changed (buffer.position distance) = memory (buffer.position distance))
    (written : ∀ (distance : Nat) (h : distance < items.length),
      changed (buffer.position (buffer.count + distance)) = items[distance])
    : (buffer.append items.length room).Stores changed (content ++ items) := by
  have length := stores.length
  refine ⟨?_, fun distance h => ?_⟩
  · rw [List.length_append, length]
    rfl
  · change changed (buffer.position distance) = _
    rw [List.length_append] at h
    rcases lt_or_ge distance content.length with old | new
    · rw [List.getElem_append_left old, kept distance (length ▸ old)]
      exact stores.at_position distance old
    · have shift : distance = buffer.count + (distance - content.length) := by omega
      rw [List.getElem_append_right new, ← written (distance - content.length) (by omega),
        ← shift]

/-- A place before the end of the ring is reached without wrapping. -/
theorem position_of_lt {distance : Nat} (h : buffer.start + distance < buffer.size)
    : buffer.position distance = buffer.start + distance :=
  Nat.mod_eq_of_lt h

end CyclicBuffer

end Cx4Kernel.Foundation
