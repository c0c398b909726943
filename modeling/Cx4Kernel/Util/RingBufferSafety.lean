import Cx4Kernel.Foundation.CyclicBuffer
import Cx4Kernel.Util.RingBuffer

/-! When the command ring keeps unread commands intact. `ring_buffer_get_space` counts its
space with one formula for a tail ahead of the hardware and with another one at a wrap, and
never looks which of the two applies. Where the right one is used, the ring is a bounded
buffer.
-/

namespace Cx4Kernel.Util

open Cx4Kernel.Foundation

namespace RingState

-----------------------------------------------------------------------------------------
-- The condition on a call
-----------------------------------------------------------------------------------------

/-- The hardware reaches the tail without going around the end of the buffer. -/
def Level (state : RingState) : Prop :=
  state.readOffset.toNat + state.unread + state.passed = state.ring.tail.toNat

/-- The tail has wrapped and the hardware has not. -/
def Lapped (state : RingState) : Prop :=
  state.readOffset.toNat + state.unread + state.passed
    = state.ring.size.toNat + state.ring.tail.toNat

/-- The calls that count their space rightly: the tail wraps only in front of a hardware
that leaves the space free, and the space is counted anew only on a level ring.
-/
def Admits (state : RingState) : RingAction → Prop
  | .getSpace requestedSize =>
      if state.ring.size ≤ state.ring.tail + requestedSize then
        state.Level
        ∧ state.ring.reservedSize.toNat + requestedSize.toNat ≤ state.readOffset.toNat
      else requestedSize ≤ state.ring.leftSize ∨ state.Level
  | .hardwareRead _ => True

instance (state : RingState) : Decidable state.Level := inferInstanceAs (Decidable (_ = _))

instance (state : RingState) : ∀ action, Decidable (state.Admits action)
  | .getSpace _ => inferInstanceAs (Decidable (ite _ _ _))
  | .hardwareRead _ => .isTrue trivial

/-- What admitted calls and reads keep: offsets inside the buffer, and on a lapped ring no
more counted space than there is up to the hardware.
-/
structure Sound (state : RingState) : Prop where
  size_lt : state.ring.size.toNat < 2 ^ 31
  reserved_le : state.ring.reservedSize.toNat ≤ state.ring.tail.toNat
  tail_lt : state.ring.tail.toNat < state.ring.size.toNat
  offset_lt : state.readOffset.toNat < state.ring.size.toNat
  published : state.passed = 0
  lap : state.Level
    ∨ state.Lapped
      ∧ state.ring.tail.toNat + state.ring.leftSize.toNat ≤ state.readOffset.toNat

variable {state : RingState} {requestedSize : U32}

-----------------------------------------------------------------------------------------
-- One call
-----------------------------------------------------------------------------------------

/-- Tail and request do not overflow, both being below the size. -/
theorem Sound.tail_add (sound : state.Sound) (smaller : requestedSize < state.ring.size)
    : (state.ring.tail + requestedSize).toNat
      = state.ring.tail.toNat + requestedSize.toNat := by
  have := sound.size_lt
  have := sound.tail_lt
  rw [BitVec.lt_def] at smaller
  exact BitVec.toNat_add_of_lt (by omega)

/-- The wrap test compares the real numbers. -/
theorem Sound.wraps_iff (sound : state.Sound) (smaller : requestedSize < state.ring.size)
    : state.ring.size ≤ state.ring.tail + requestedSize
      ↔ state.ring.size.toNat ≤ state.ring.tail.toNat + requestedSize.toNat := by
  rw [BitVec.le_def, sound.tail_add smaller]

/-- An admitted call that wraps takes the bytes behind the reserved ones, without counting
the space a second time.
-/
theorem getSpace_wrapped (sound : state.Sound)
    (wraps : state.ring.size ≤ state.ring.tail + requestedSize)
    (room : state.ring.reservedSize.toNat + requestedSize.toNat ≤ state.readOffset.toNat)
    : ringBufferGetSpace state.ring requestedSize state.readOffset
      = { ring :=
            { state.ring with
              head := state.readOffset
              tail := state.ring.reservedSize + requestedSize
              leftSize := state.readOffset - state.ring.reservedSize - requestedSize }
          spaceOffset := some state.ring.reservedSize
          fills := [⟨state.ring.tail, state.ring.size - state.ring.tail⟩] } := by
  have := sound.size_lt
  have tailLt := sound.tail_lt
  have skip : (state.ring.size - state.ring.tail).toNat
      = state.ring.size.toNat - state.ring.tail.toNat :=
    BitVec.toNat_sub_of_le (BitVec.le_def.mpr tailLt.le)
  have positive : 0 < (state.ring.size - state.ring.tail).toInt := by
    rw [BitVec.toInt_eq_toNat_of_lt (by omega)]
    omega
  have left : (state.readOffset - state.ring.reservedSize).toNat
      = state.readOffset.toNat - state.ring.reservedSize.toNat :=
    BitVec.toNat_sub_of_le (BitVec.le_def.mpr (by omega))
  have enough : requestedSize ≤ state.readOffset - state.ring.reservedSize := by
    rw [BitVec.le_def, left]
    omega
  have recount : ¬ state.readOffset - state.ring.reservedSize < requestedSize :=
    BitVec.not_lt.mpr enough
  simp only [ringBufferGetSpace, wrapTail, if_pos wraps, engineiRingBufferWrapE3k,
    if_pos positive, updateLeftSize, if_neg recount, takeSpace, if_pos enough]

/-- A call that does not wrap either fails and only recounts the space, or takes the bytes
behind the tail. On a ring whose counted space suffices, the count goes down by the request.
-/
theorem getSpace_straight (straight : ¬ state.ring.size ≤ state.ring.tail + requestedSize)
    : ∃ head left,
        let call := ringBufferGetSpace state.ring requestedSize state.readOffset
        call.fills = []
        ∧ (call.spaceOffset = none
              ∧ call.ring = { state.ring with head := head, leftSize := left }
            ∨ call.spaceOffset = some state.ring.tail
              ∧ call.ring
                = { state.ring with
                    head := head
                    tail := state.ring.tail + requestedSize
                    leftSize := left })
        ∧ (requestedSize ≤ state.ring.leftSize
            → call.spaceOffset = some state.ring.tail
              ∧ left = state.ring.leftSize - requestedSize) := by
  by_cases enough : requestedSize ≤ state.ring.leftSize
  · have recount : ¬ state.ring.leftSize < requestedSize := BitVec.not_lt.mpr enough
    refine ⟨state.ring.head, state.ring.leftSize - requestedSize, ?_⟩
    simp [ringBufferGetSpace, wrapTail, straight, updateLeftSize, recount, takeSpace, enough]
  · have recount : state.ring.leftSize < requestedSize := BitVec.not_le.mp enough
    let counted := state.ring.size + state.readOffset - state.ring.tail
      - state.ring.reservedSize
    by_cases fits : requestedSize ≤ counted
    · refine ⟨state.readOffset, counted - requestedSize, ?_⟩
      simp only [counted] at fits
      simp [ringBufferGetSpace, wrapTail, straight, updateLeftSize, recount, takeSpace,
        engineiRingBufferWrapE3k, fits, enough, counted]
    · refine ⟨state.readOffset, counted, ?_⟩
      simp only [counted] at fits
      simp [ringBufferGetSpace, wrapTail, straight, updateLeftSize, recount, takeSpace,
        engineiRingBufferWrapE3k, fits, enough, counted]

-----------------------------------------------------------------------------------------
-- The ring refines a bounded buffer
-----------------------------------------------------------------------------------------

/-- The bounded buffer whose occupied places are the unread bytes of a sound ring. -/
structure Tracks (state : RingState) (buffer : CyclicBuffer) : Prop where
  sound : state.Sound
  size_eq : buffer.size = state.ring.size.toNat
  start_eq : buffer.start = state.readOffset.toNat
  count_eq : buffer.count = state.unread

variable {buffer : CyclicBuffer}

/-- Unread bytes are the occupied places. -/
theorem Tracks.unread_iff (tracks : state.Tracks buffer) (offset : Nat)
    : state.Unread offset ↔ buffer.Holds offset := by
  simp only [Unread, CyclicBuffer.Holds, CyclicBuffer.position, tracks.size_eq,
    tracks.start_eq, tracks.count_eq]

/-- The first free place of the buffer is the tail. -/
theorem Tracks.position_count (tracks : state.Tracks buffer) (distance : Nat)
    : buffer.position (buffer.count + distance)
      = (state.ring.tail.toNat + distance) % state.ring.size.toNat := by
  simp only [CyclicBuffer.position, tracks.size_eq, tracks.start_eq, tracks.count_eq]
  have published := tracks.sound.published
  rcases tracks.sound.lap with level | ⟨lapped, _⟩
  · simp only [Level] at level
    congr 1
    omega
  · simp only [Lapped] at lapped
    rw [show state.readOffset.toNat + (state.unread + distance)
        = state.ring.size.toNat + (state.ring.tail.toNat + distance) by omega,
      Nat.add_mod_left]

/-- A range that begins `extra` places behind the occupied ones and ends within one lap is
not unread.
-/
theorem Tracks.spares (tracks : state.Tracks buffer) (extra : Nat) {first count : Nat}
    (begins : ∀ distance < count,
      (state.ring.tail.toNat + (extra + distance)) % state.ring.size.toNat = first + distance)
    (room : buffer.count + (extra + count) ≤ buffer.size)
    : state.Spares first count := by
  intro offset from_first to_end unread
  have holds := (tracks.unread_iff offset).mp unread
  have here := begins (offset - first) (by omega)
  rw [← tracks.position_count, show first + (offset - first) = offset by omega] at here
  rw [← here] at holds
  exact CyclicBuffer.append_fresh room (by omega) holds

/-- Reading takes unread bytes off the buffer. A lapped ring gets level when the hardware
goes around the end.
-/
theorem Tracks.hardwareRead (tracks : state.Tracks buffer) {amount : Nat}
    (enough : amount ≤ buffer.count)
    : (state.hardwareRead amount).Tracks (buffer.consume amount enough) := by
  have sizeLt := tracks.sound.size_lt
  have tailLt := tracks.sound.tail_lt
  have offsetLt := tracks.sound.offset_lt
  have published := tracks.sound.published
  have counted := tracks.count_eq
  have below : (state.readOffset.toNat + amount) % state.ring.size.toNat
      < state.ring.size.toNat := Nat.mod_lt _ (by omega)
  have moved : (state.hardwareRead amount).readOffset.toNat
      = (state.readOffset.toNat + amount) % state.ring.size.toNat := by
    rw [RingState.hardwareRead, BitVec.toNat_ofNat]
    exact Nat.mod_eq_of_lt (by omega)
  refine ⟨⟨sizeLt, tracks.sound.reserved_le, tailLt, moved ▸ below, published, ?_⟩,
    tracks.size_eq, ?_, ?_⟩
  · simp only [Level, Lapped, moved]
    simp only [RingState.hardwareRead]
    rcases tracks.sound.lap with level | ⟨lapped, left⟩
    · simp only [Level] at level
      rw [Nat.mod_eq_of_lt (by omega)]
      omega
    · simp only [Lapped] at lapped
      by_cases around : state.ring.size.toNat ≤ state.readOffset.toNat + amount
      · rw [Nat.mod_eq_sub_mod around, Nat.mod_eq_of_lt (by omega)]
        omega
      · rw [Nat.mod_eq_of_lt (by omega)]
        omega
  · rw [moved, ← tracks.size_eq, ← tracks.start_eq]
    rfl
  · simp only [CyclicBuffer.consume, RingState.hardwareRead, counted]

/-- A call that does what an admitted one may do: it finds no space and leaves the buffer
as it is, or it appends the bytes it skips together with those it hands out.
-/
def Appends (state : RingState) (requestedSize : U32) (buffer : CyclicBuffer) : Prop :=
  let amount := state.passed + state.skipped requestedSize + requestedSize.toNat
  (state.getSpace requestedSize).Tracks buffer
  ∨ ∃ room : buffer.count + amount ≤ buffer.size,
      (state.getSpace requestedSize).Tracks (buffer.append amount room)

/-- An admitted call that wraps: behind the occupied places lie the skipped bytes, the
reserved ones and the request, all of them in front of the hardware.
-/
theorem Tracks.getSpace_wrapped (tracks : state.Tracks buffer)
    (wraps : state.ring.size ≤ state.ring.tail + requestedSize) (level : state.Level)
    (free : state.ring.reservedSize.toNat + requestedSize.toNat ≤ state.readOffset.toNat)
    : state.SpaceSafe requestedSize ∧ state.Appends requestedSize buffer := by
  have reservedLe := tracks.sound.reserved_le
  have tailLt := tracks.sound.tail_lt
  have offsetLt := tracks.sound.offset_lt
  have published := tracks.sound.published
  have sizeLt := tracks.sound.size_lt
  have call := RingState.getSpace_wrapped tracks.sound wraps free
  have skip : (state.ring.size - state.ring.tail).toNat
      = state.ring.size.toNat - state.ring.tail.toNat :=
    BitVec.toNat_sub_of_le (BitVec.le_def.mpr tailLt.le)
  have extra : state.skipped requestedSize
      = state.ring.size.toNat - state.ring.tail.toNat + state.ring.reservedSize.toNat := by
    rw [skipped, if_pos wraps, skip]
  have newTail : (state.ring.reservedSize + requestedSize).toNat
      = state.ring.reservedSize.toNat + requestedSize.toNat :=
    BitVec.toNat_add_of_lt (by omega)
  simp only [Level, published, Nat.add_zero] at level
  have room : buffer.count + (state.passed + state.skipped requestedSize
      + requestedSize.toNat) ≤ buffer.size := by
    rw [tracks.count_eq, tracks.size_eq]
    omega
  refine ⟨?_, .inr ⟨room, ?_⟩⟩
  · rw [SpaceSafe, call]
    intro offset found
    obtain rfl := Option.some.inj found
    refine ⟨BitVec.le_refl _, by omega, ?_, ?_⟩
    · refine tracks.spares (state.skipped requestedSize) ?_ (by omega)
      intro distance _
      rw [show state.ring.tail.toNat + (state.skipped requestedSize + distance)
          = state.ring.size.toNat + (state.ring.reservedSize.toNat + distance) by omega,
        Nat.add_mod_left, Nat.mod_eq_of_lt (by omega)]
    · intro fill member
      obtain rfl := List.mem_singleton.mp member
      change state.Spares state.ring.tail.toNat (state.ring.size - state.ring.tail).toNat
      rw [skip]
      refine tracks.spares 0 ?_ (by omega)
      intro distance _
      rw [Nat.zero_add, Nat.mod_eq_of_lt (by omega)]
  · have left : (state.readOffset - state.ring.reservedSize - requestedSize).toNat
        = state.readOffset.toNat - state.ring.reservedSize.toNat - requestedSize.toNat := by
      have first : (state.readOffset - state.ring.reservedSize).toNat
          = state.readOffset.toNat - state.ring.reservedSize.toNat :=
        BitVec.toNat_sub_of_le (BitVec.le_def.mpr (by omega))
      rw [BitVec.toNat_sub_of_le (BitVec.le_def.mpr (by omega)), first]
    simp only [RingState.getSpace, call]
    refine ⟨?_, tracks.size_eq, tracks.start_eq, ?_⟩
    · constructor <;> simp only [Level, Lapped, newTail, left] <;> omega
    · simp only [CyclicBuffer.append, tracks.count_eq]

/-- An admitted call that does not wrap: what it takes lies between the tail and the end of
the buffer, and on a lapped ring in front of the hardware.
-/
theorem Tracks.getSpace_straight (tracks : state.Tracks buffer)
    (straight : ¬ state.ring.size ≤ state.ring.tail + requestedSize)
    (smaller : requestedSize < state.ring.size)
    (counted : requestedSize ≤ state.ring.leftSize ∨ state.Level)
    : state.SpaceSafe requestedSize ∧ state.Appends requestedSize buffer := by
  have reservedLe := tracks.sound.reserved_le
  have tailLt := tracks.sound.tail_lt
  have offsetLt := tracks.sound.offset_lt
  have published := tracks.sound.published
  have sizeLt := tracks.sound.size_lt
  have extra : state.skipped requestedSize = 0 := by rw [skipped, if_neg straight]
  have newTail := tracks.sound.tail_add smaller
  have inside : state.ring.tail.toNat + requestedSize.toNat < state.ring.size.toNat :=
    Nat.lt_of_not_le (mt (tracks.sound.wraps_iff smaller).mpr straight)
  obtain ⟨head, left, noFills, outcome, subtracts⟩ := RingState.getSpace_straight straight
  have newLeft (enough : requestedSize ≤ state.ring.leftSize)
      : left.toNat = state.ring.leftSize.toNat - requestedSize.toNat := by
    rw [(subtracts enough).2, BitVec.toNat_sub_of_le enough]
  simp only [BitVec.le_def] at newLeft counted
  have room : buffer.count + (state.passed + state.skipped requestedSize
      + requestedSize.toNat) ≤ buffer.size := by
    rw [tracks.count_eq, tracks.size_eq]
    rcases tracks.sound.lap with level | ⟨lapped, left⟩
    · simp only [Level] at level
      omega
    · simp only [Level, Lapped] at lapped counted
      omega
  refine ⟨?_, ?_⟩
  · intro offset found
    rw [noFills]
    rcases outcome with ⟨failed, _⟩ | ⟨taken, _⟩
    · cases failed.symm.trans found
    · obtain rfl := Option.some.inj (taken.symm.trans found)
      refine ⟨BitVec.le_def.mpr reservedLe, inside.le, ?_, by simp⟩
      refine tracks.spares 0 ?_ (by omega)
      intro distance _
      rw [Nat.zero_add, Nat.mod_eq_of_lt (by omega)]
  · rcases outcome with ⟨failed, ring⟩ | ⟨taken, ring⟩
    · have level : state.Level := by
        by_contra lapped
        rcases counted with enough | level
        · rw [(subtracts (BitVec.le_def.mpr enough)).1] at failed
          cases failed
        · exact lapped level
      refine .inl ?_
      simp only [RingState.getSpace, failed, ring]
      refine ⟨?_, tracks.size_eq, tracks.start_eq, tracks.count_eq⟩
      simp only [Level] at level
      constructor <;> simp only [Level, Lapped] <;> omega
    · refine .inr ⟨room, ?_⟩
      simp only [RingState.getSpace, taken, ring]
      refine ⟨⟨sizeLt, ?_, ?_, offsetLt, rfl, ?_⟩, tracks.size_eq, tracks.start_eq, ?_⟩
      · simp only [newTail]
        omega
      · simp only [newTail]
        omega
      · rcases tracks.sound.lap with level | ⟨lapped, left⟩
        · simp only [Level] at level
          refine .inl ?_
          simp only [Level, newTail]
          omega
        · simp only [Level, Lapped] at lapped counted
          refine .inr ?_
          simp only [Lapped, newTail]
          omega
      · simp only [CyclicBuffer.append, tracks.count_eq]

-----------------------------------------------------------------------------------------
-- Every admitted run
-----------------------------------------------------------------------------------------

/-- An admitted call is safe and appends to the buffer at most. -/
theorem Tracks.getSpace (tracks : state.Tracks buffer)
    (permitted : state.Admits (.getSpace requestedSize))
    (smaller : requestedSize < state.ring.size)
    : state.SpaceSafe requestedSize ∧ state.Appends requestedSize buffer := by
  simp only [Admits] at permitted
  by_cases wraps : state.ring.size ≤ state.ring.tail + requestedSize
  · rw [if_pos wraps] at permitted
    exact tracks.getSpace_wrapped wraps permitted.1 permitted.2
  · rw [if_neg wraps] at permitted
    exact tracks.getSpace_straight wraps smaller permitted

/-- A new ring tracks the empty buffer that starts behind the reserved bytes. -/
theorem tracks_start {size reservedSize : U32} (room : reservedSize < size)
    (positive : size.toNat < 2 ^ 31)
    : (start size reservedSize).Tracks ⟨size.toNat, reservedSize.toNat, 0, room, Nat.zero_le _⟩ :=
  ⟨⟨positive, Nat.le_refl _, room, room, rfl, .inl rfl⟩, rfl, rfl, rfl⟩

/-- The ring run with admitted calls refines the bounded buffer: a call appends or does
nothing, a hardware read consumes.
-/
theorem ring_refines_buffer (reached : system.ReachableUnder Admits state)
    : ∃ buffer, CyclicBuffer.system.Reachable buffer ∧ state.Tracks buffer := by
  apply reached.simulated
  · intro state begins
    obtain ⟨size, reservedSize, room, positive, rfl⟩ := begins
    refine ⟨_, ?_, tracks_start room positive⟩
    rfl
  · intro before action after buffer tracks permitted taken
    cases action with
    | getSpace requestedSize =>
        simp only [system, System.ofFunction, next, Option.ite_none_right_eq_some,
          Option.some.injEq] at taken
        obtain ⟨⟨_, smaller⟩, rfl⟩ := taken
        obtain ⟨_, idle | ⟨room, appended⟩⟩ := tracks.getSpace permitted smaller
        · exact ⟨buffer, .refl, idle⟩
        · exact ⟨_, .single ⟨.append _, trivial, room, rfl⟩, appended⟩
    | hardwareRead amount =>
        simp only [system, System.ofFunction, next, Option.ite_none_right_eq_some,
          Option.some.injEq] at taken
        obtain ⟨enough, rfl⟩ := taken
        rw [← tracks.count_eq] at enough
        exact ⟨_, .single ⟨.consume amount, trivial, enough, rfl⟩, tracks.hardwareRead enough⟩

/-- In every admitted run, no call hands out or zeroes unread bytes. Witness: the ring
tracks a bounded buffer, and appended places were free.
-/
theorem ringBufferGetSpace_keepsUnread (reached : system.ReachableUnder Admits state)
    (permitted : state.Admits (.getSpace requestedSize))
    (smaller : requestedSize < state.ring.size)
    : state.SpaceSafe requestedSize := by
  obtain ⟨_, _, tracks⟩ := ring_refines_buffer reached
  exact (tracks.getSpace permitted smaller).1

/-- The e3k ring of 256 KB with 32 KB unread in front of its last 32 KB. -/
def nearEnd : RingState := ((start 0x40000 0).getSpace 0x38000).hardwareRead 0x30000

/-- A run the condition admits: the next call wraps, and the hardware is far enough. -/
theorem ringBufferGetSpace_keepsUnread_nearEnd : nearEnd.SpaceSafe 0x10000 := by
  refine ringBufferGetSpace_keepsUnread (System.ReachableUnder.replay
    [.getSpace 0x38000, .hardwareRead 0x30000]
    ⟨0x40000, 0, by decide, by decide, rfl⟩ (by decide) rfl) ?_ ?_ <;> decide

/-- Without the condition unread commands are overwritten: two calls for half of the e3k
ring, before the hardware has read anything. The second one wraps and finds no space, and
the count made anew gives the whole ring.
-/
theorem ringBufferGetSpace_overwrites
    : ¬ ∀ (state : RingState) (requestedSize : U32), system.Reachable state
      → 0 < requestedSize → requestedSize < state.ring.size
      → state.SpaceSafe requestedSize := by
  intro safe
  have reached : system.Reachable ((start 0x40000 0).getSpace 0x20000) :=
    System.Reachable.replay [.getSpace 0x20000]
      ⟨0x40000, 0, by decide, by decide, rfl⟩ rfl
  obtain ⟨_, _, spared, _⟩ := safe _ 0x20000 reached (by decide) (by decide) 0 (by decide)
  exact spared 0 (by decide) (by decide) ⟨0, by decide, rfl⟩

end RingState

end Cx4Kernel.Util
