import Mathlib.Data.List.Forall2
import Mathlib.Data.List.GetD
import Cx4Kernel.Foundation.CyclicBuffer
import Cx4Kernel.Perfevent.IsrEvent

/-! What the reader of interrupt events delivers. It is exactly what was accepted, as long
as no read wraps, none copies while an interrupt adds to what it counted, and a trace
begins with an empty ring.
-/

namespace Cx4Kernel.Perfevent

open Cx4Kernel.Foundation

/-- The bytes of events, one after the other. -/
def eventBytes (events : List PerfEvent) : List UInt8 := events.flatMap PerfEvent.bytes

theorem eventBytes_append (first second : List PerfEvent)
    : eventBytes (first ++ second) = eventBytes first ++ eventBytes second :=
  List.flatMap_append

/-- A read delivered these events: it wrote their bytes and nothing else, and says so. -/
structure FinishedRead.Delivers (read : FinishedRead) (events : List PerfEvent) : Prop where
  bytes : read.copied.take read.args.isrFilledSize.toNat = eventBytes events
  isrFilledNum : read.args.isrFilledNum.toNat = events.length
  isrFilledSize : read.copied.length = read.args.isrFilledSize.toNat

/-- The counters of a ring in which these events are buffered. -/
structure PerfEventMgr.Counts (mgr : PerfEventMgr) (events : List PerfEvent) : Prop where
  tail : mgr.isrEventTail.toNat
    = (mgr.isrEventHead.toNat + mgr.isrEventBufferSize.toNat) % maxIsrEventBufferSize.toNat
  size : mgr.isrEventBufferSize.toNat = (eventBytes events).length
  num : mgr.isrEventNum.toInt = events.length

namespace IsrState

/-- Each finished read delivered its batch of the accepted events, in order, and the events
behind all batches are buffered when no read is in progress.
-/
structure DeliversBatches (state : IsrState) (batches : List (List PerfEvent))
    (buffered : List PerfEvent) : Prop where
  accepted : state.accepted = batches.flatten ++ buffered
  reads : List.Forall₂ FinishedRead.Delivers state.finished batches
  counts : state.read = none → state.mgr.Counts buffered

/-- Nothing accepted is lost, delivered twice or delivered out of order. -/
def DeliversAccepted (state : IsrState) : Prop :=
  ∃ batches buffered, state.DeliversBatches batches buffered

/-- When a step of the reader is regular: a read without events finds the fields of its
argument zeroed by the user; a copy does not wrap, and nothing was added after the counters
were read.
-/
def RegularRead (state : IsrState) (read : IsrRead) : Prop :=
  match read.phase with
  | .snapshot =>
      state.mgr.isrEventNum = 0 → read.args.isrFilledNum = 0 ∧ read.args.isrFilledSize = 0
  | .copy =>
      (state.mgr.isrEventHead + read.eventFillSize).sle maxIsrEventBufferSize
        ∧ state.mgr.isrEventBufferSize = read.eventFillSize
  | _ => True

/-- When a step is regular: a trace begins with no event in the ring, and an accepted event
overflows no counter.
-/
def Regular (state : IsrState) : IsrAction → Prop
  | .perfEventBegin => state.mgr.isrEventNum = 0
  | .addIsrEvent event => state.mgr.accepts event
      → state.mgr.isrEventBufferSize.toNat + event.bytes.length < 2 ^ 32
        ∧ state.mgr.isrEventNum.toNat + 1 < 2 ^ 31
  | .readStep => ∀ read ∈ state.read, state.RegularRead read
  | _ => True

instance (state : IsrState) (read : IsrRead) : Decidable (state.RegularRead read) := by
  unfold RegularRead
  cases read.phase <;> infer_instance

instance (state : IsrState) (action : IsrAction) : Decidable (state.Regular action) := by
  unfold Regular
  cases action <;> infer_instance

-----------------------------------------------------------------------------------------
-- Memory
-----------------------------------------------------------------------------------------

/-- The bytes of the ring by their offset. -/
def bytesAt (memory : Memory) (offset : Nat) : UInt8 := memory offset

/-- A copy writes its bytes from the address on. -/
theorem copy_inside {memory : Memory} {address offset : Nat} {source : List UInt8}
    (from_ : address ≤ offset) (h : offset - address < source.length)
    : bytesAt (memory.copy address source) offset = source[offset - address] := by
  have same : ((offset : Int) - address).toNat = offset - address := by omega
  rw [bytesAt, Memory.copy, if_pos (by exact_mod_cast from_), same, List.getD_eq_getElem _ _ h]

/-- A copy writes nothing outside its range. -/
theorem copy_outside {memory : Memory} {address offset : Nat} {source : List UInt8}
    (h : offset < address ∨ address + source.length ≤ offset)
    : bytesAt (memory.copy address source) offset = bytesAt memory offset := by
  rw [bytesAt, Memory.copy]
  split
  · rename_i from_
    have behind : source.length ≤ ((offset : Int) - address).toNat := by omega
    exact List.getD_eq_default _ _ behind
  · rfl

/-- The part of the bytes behind the first `part` ones is at the begin of the buffer once it
is copied there.
-/
theorem copy_rest {memory : Memory} {part offset distance : Nat} {source : List UInt8}
    (same : part + offset = distance) (h : distance < source.length)
    : bytesAt (memory.copy (0 : Nat) (source.drop part)) offset = source[distance] := by
  subst same
  rw [copy_inside (Nat.zero_le _) (by rw [List.length_drop]; omega), List.getElem_drop]
  simp only [Nat.sub_zero]

/-- A straight read from the begin of the occupied places yields the first items. -/
theorem read_stored {ring : CyclicBuffer} {memory : Memory} {content : List UInt8} {count : Nat}
    (stores : ring.Stores (bytesAt memory) content)
    (straight : ring.start + count ≤ ring.size) (enough : count ≤ ring.count)
    : memory.read ring.start count = content.take count := by
  have length := stores.length
  apply List.ext_getElem
  · rw [Memory.read, List.length_map, List.length_range, List.length_take]
    omega
  · intro distance h h'
    rw [Memory.read, List.length_map, List.length_range] at h
    have here := stores.at_position distance (by omega)
    rw [CyclicBuffer.position_of_lt (by omega)] at here
    rw [List.getElem_take, ← here]
    simp only [Memory.read, List.getElem_map, List.getElem_range, bytesAt]
    push_cast
    rfl

-----------------------------------------------------------------------------------------
-- The occupied part of the ring
-----------------------------------------------------------------------------------------

/-- The ring holds the bytes of these events, and its counters count them. -/
structure Stored (mgr : PerfEventMgr) (ring : CyclicBuffer) (events : List PerfEvent) : Prop where
  ring_size : ring.size = 524288
  room : ring.count < ring.size
  size : mgr.isrEventBufferSize.toNat = ring.count
  tail : mgr.isrEventTail.toNat = ring.position ring.count
  num : mgr.isrEventNum.toNat = events.length
  num_lt : events.length < 2 ^ 31
  stores : ring.Stores (bytesAt mgr.isrEventBuffer) (eventBytes events)

variable {mgr : PerfEventMgr} {ring : CyclicBuffer} {events : List PerfEvent}
  {event : PerfEvent}

theorem toNat_maxIsrEventBufferSize : maxIsrEventBufferSize.toNat = 524288 := rfl

theorem toInt_maxIsrEventBufferSize : maxIsrEventBufferSize.toInt = 524288 := rfl

/-- The ring of a trace that has just begun. -/
def freshRing : CyclicBuffer where
  size := 524288
  start := 0
  count := 0
  start_lt := by omega
  count_le := by omega

/-- A cleared ring holds no events. -/
theorem stored_nil (size : mgr.isrEventBufferSize = 0) (tail : mgr.isrEventTail = 0)
    (num : mgr.isrEventNum = 0)
    : Stored mgr freshRing [] where
  ring_size := rfl
  room := by decide
  size := by rw [size]; rfl
  tail := by rw [tail]; rfl
  num := by rw [num]; rfl
  num_lt := by decide
  stores := ⟨rfl, fun _ h => absurd h (Nat.not_lt_zero _)⟩

/-- The event has its length as its size. -/
theorem toNat_size (event : PerfEvent) : event.size.toNat = event.bytes.length := by
  rw [PerfEvent.size, BitVec.toNat_ofNat, Nat.mod_eq_of_lt event.size_lt]

/-- An accepted event fits behind what is stored, when the sum does not overflow. -/
theorem Stored.fits (stored : Stored mgr ring events) (accepted : mgr.accepts event)
    (small : mgr.isrEventBufferSize.toNat + event.bytes.length < 2 ^ 32)
    : ring.count + event.bytes.length < ring.size := by
  have room : mgr.isrEventBufferSize + event.size < maxIsrEventBufferSize := by
    have both := Bool.and_eq_true_iff.mp accepted
    exact of_decide_eq_true both.2
  have sum : (mgr.isrEventBufferSize + event.size).toNat
      = mgr.isrEventBufferSize.toNat + event.bytes.length := by
    rw [BitVec.toNat_add, toNat_size, Nat.mod_eq_of_lt small]
  have below := BitVec.lt_def.mp room
  rw [sum, toNat_maxIsrEventBufferSize, stored.size] at below
  rw [stored.ring_size]
  exact below

/-- The tail is an offset in the buffer. -/
theorem Stored.tail_lt (stored : Stored mgr ring events) : mgr.isrEventTail.toNat < 524288 := by
  rw [stored.tail, CyclicBuffer.position, stored.ring_size]
  exact Nat.mod_lt _ (by omega)

/-- A small unsigned number is the same as an `int`. -/
theorem toInt_of_lt {x : U32} (h : x.toNat < 2 ^ 31) : x.toInt = x.toNat :=
  BitVec.toInt_eq_toNat_of_lt (by omega)

/-- An event that ends before the end of the buffer is copied in one part. -/
theorem copyEvent_straight (tail_lt : mgr.isrEventTail.toNat < 524288)
    (h : mgr.isrEventTail.toNat + event.bytes.length < 524288)
    : mgr.copyEvent event
      = mgr.isrEventBuffer.copy (mgr.isrEventTail.toNat : Nat) event.bytes := by
  have tail : mgr.isrEventTail.toInt = mgr.isrEventTail.toNat := toInt_of_lt (by omega)
  have below : mgr.isrEventTail.toInt + event.size.toNat < maxIsrEventBufferSize.toInt := by
    rw [tail, toNat_size, toInt_maxIsrEventBufferSize]
    exact_mod_cast h
  rw [PerfEventMgr.copyEvent, if_pos below, tail]

/-- Any other event is copied in two parts. -/
theorem copyEvent_wrapped (tail_lt : mgr.isrEventTail.toNat < 524288)
    (h : 524288 ≤ mgr.isrEventTail.toNat + event.bytes.length)
    : mgr.copyEvent event
      = (mgr.isrEventBuffer.copy (mgr.isrEventTail.toNat : Nat)
          (event.bytes.take (524288 - mgr.isrEventTail.toNat))).copy (0 : Nat)
          (event.bytes.drop (524288 - mgr.isrEventTail.toNat)) := by
  have tail : mgr.isrEventTail.toInt = mgr.isrEventTail.toNat := toInt_of_lt (by omega)
  have above : ¬ mgr.isrEventTail.toInt + event.size.toNat < maxIsrEventBufferSize.toInt := by
    rw [tail, toNat_size, toInt_maxIsrEventBufferSize, not_lt]
    exact_mod_cast h
  have part : (maxIsrEventBufferSize.toInt - mgr.isrEventTail.toNat).toNat
      = 524288 - mgr.isrEventTail.toNat := by
    rw [toInt_maxIsrEventBufferSize]
    omega
  rw [PerfEventMgr.copyEvent, if_neg above, tail, part]
  rfl

/-- An event is written to the places from the tail on, around the end of the buffer. -/
theorem copyEvent_written (tail_lt : mgr.isrEventTail.toNat < 524288)
    (short : event.bytes.length ≤ 524288) {distance : Nat} (h : distance < event.bytes.length)
    : bytesAt (mgr.copyEvent event) ((mgr.isrEventTail.toNat + distance) % 524288)
      = event.bytes[distance] := by
  rcases lt_or_ge (mgr.isrEventTail.toNat + event.bytes.length) 524288 with straight | wraps
  · rw [copyEvent_straight tail_lt straight, Nat.mod_eq_of_lt (by omega),
      copy_inside (by omega) (by omega)]
    simp only [Nat.add_sub_cancel_left]
  · rw [copyEvent_wrapped tail_lt wraps]
    rcases lt_or_ge (mgr.isrEventTail.toNat + distance) 524288 with first | second
    · rw [Nat.mod_eq_of_lt first,
        copy_outside (by rw [List.length_drop]; omega),
        copy_inside (by omega) (by rw [List.length_take]; omega), List.getElem_take]
      simp only [Nat.add_sub_cancel_left]
    · rw [Nat.mod_eq_sub_mod second, Nat.mod_eq_of_lt (by omega)]
      exact copy_rest (by omega) h

/-- An event changes none of the other places. -/
theorem copyEvent_kept (tail_lt : mgr.isrEventTail.toNat < 524288)
    (short : event.bytes.length ≤ 524288) {offset : Nat} (inside : offset < 524288)
    (h : ∀ distance < event.bytes.length,
      (mgr.isrEventTail.toNat + distance) % 524288 ≠ offset)
    : bytesAt (mgr.copyEvent event) offset = bytesAt mgr.isrEventBuffer offset := by
  -- the place as it would be counted from the tail, before and behind the wrap
  have before := h (offset - mgr.isrEventTail.toNat)
  have behind := h (offset + (524288 - mgr.isrEventTail.toNat))
  rcases lt_or_ge (mgr.isrEventTail.toNat + event.bytes.length) 524288 with straight | wraps
  · rw [copyEvent_straight tail_lt straight, copy_outside (by omega)]
  · rw [copyEvent_wrapped tail_lt wraps,
      copy_outside (by rw [List.length_drop]; omega),
      copy_outside (by rw [List.length_take]; omega)]

/-- An accepted event is stored behind the others. -/
theorem Stored.add (stored : Stored mgr ring events) (accepted : mgr.accepts event)
    (small : mgr.isrEventBufferSize.toNat + event.bytes.length < 2 ^ 32)
    (few : mgr.isrEventNum.toNat + 1 < 2 ^ 31)
    : ∃ room, Stored (mgr.perfEventAddIsrEvent event) (ring.append event.bytes.length room)
      (events ++ [event]) := by
  have fits := stored.fits accepted small
  have size := stored.ring_size
  have tail := stored.tail
  have tail_lt := stored.tail_lt
  have counted := stored.num
  rw [PerfEventMgr.perfEventAddIsrEvent, if_pos accepted]
  refine ⟨fits.le, size, fits, ?_, ?_, ?_, ?_, ?_⟩
  · change (mgr.isrEventBufferSize + event.size).toNat = ring.count + event.bytes.length
    rw [BitVec.toNat_add, toNat_size, Nat.mod_eq_of_lt small, stored.size]
  · change ((mgr.isrEventTail + event.size) % maxIsrEventBufferSize).toNat
      = ring.position (ring.count + event.bytes.length)
    have sum : (mgr.isrEventTail + event.size).toNat
        = mgr.isrEventTail.toNat + event.bytes.length := by
      rw [BitVec.toNat_add, toNat_size, Nat.mod_eq_of_lt (by omega)]
    rw [BitVec.toNat_umod, sum, toNat_maxIsrEventBufferSize, tail, CyclicBuffer.position,
      CyclicBuffer.position, size, Nat.mod_add_mod, Nat.add_assoc]
  · change (mgr.isrEventNum + 1).toNat = (events ++ [event]).length
    rw [List.length_append, ← counted, BitVec.toNat_add]
    exact Nat.mod_eq_of_lt (few.trans (by decide))
  · rw [List.length_append, ← counted]
    exact few
  · rw [eventBytes_append]
    have same : eventBytes [event] = event.bytes := List.append_nil _
    rw [same]
    apply stored.stores.append fits.le
    · intro distance occupied
      apply copyEvent_kept tail_lt (by omega)
      · rw [CyclicBuffer.position, size]
        exact Nat.mod_lt _ (by omega)
      · intro place written meets
        rw [tail, CyclicBuffer.position, size, Nat.mod_add_mod, Nat.add_assoc, ← size] at meets
        exact ring.append_fresh fits.le written ⟨distance, occupied, meets.symm⟩
    · intro distance written
      rw [← copyEvent_written tail_lt (by omega) written, tail, CyclicBuffer.position,
        CyclicBuffer.position, size, Nat.mod_add_mod, Nat.add_assoc]

/-- The first events are taken out of the ring. -/
theorem Stored.consume {batch later : List PerfEvent} {number size : U32}
    (stored : Stored mgr ring (batch ++ later)) (counted : number.toNat = batch.length)
    (measured : size.toNat = (eventBytes batch).length)
    : ∃ enough, Stored
        { mgr with
          isrEventNum := mgr.isrEventNum - number
          isrEventBufferSize := mgr.isrEventBufferSize - size }
        (ring.consume (eventBytes batch).length enough) later := by
  have bytes := stored.stores.length
  have num := stored.num
  have few := stored.num_lt
  rw [eventBytes_append, List.length_append] at bytes
  rw [List.length_append] at num few
  have enough : (eventBytes batch).length ≤ ring.count := by omega
  refine ⟨enough, stored.ring_size, ?_, ?_, ?_, ?_, by omega, ?_⟩
  · exact (Nat.sub_le ..).trans_lt stored.room
  · change (mgr.isrEventBufferSize - size).toNat = ring.count - (eventBytes batch).length
    rw [BitVec.toNat_sub_of_le (BitVec.le_def.mpr (by rw [measured, stored.size]; exact enough)),
      measured, stored.size]
  · change mgr.isrEventTail.toNat
      = (ring.consume _ enough).position (ring.count - (eventBytes batch).length)
    rw [CyclicBuffer.position_consume, Nat.add_sub_cancel' enough]
    exact stored.tail
  · change (mgr.isrEventNum - number).toNat = later.length
    rw [BitVec.toNat_sub_of_le (BitVec.le_def.mpr (by omega)), num, counted]
    omega
  · have rest := stored.stores.consume enough
    rw [eventBytes_append, List.drop_left] at rest
    exact rest

-----------------------------------------------------------------------------------------
-- The call of the reader
-----------------------------------------------------------------------------------------

/-- The reader counted these events, which are the first ones in the ring. -/
structure Counted (read : IsrRead) (events batch : List PerfEvent) : Prop where
  first : batch <+: events
  some : batch ≠ []
  number : read.eventFillNumber.toNat = batch.length
  size : read.eventFillSize.toNat = (eventBytes batch).length

/-- The reader copied the events it counted. -/
structure Copied (read : IsrRead) (events batch : List PerfEvent) : Prop where
  counted : Counted read events batch
  copied : read.copied = eventBytes batch

/-- How far the reader is, in a run that is regular. -/
def Progress (mgr : PerfEventMgr) (ring : CyclicBuffer) (events : List PerfEvent)
    (read : IsrRead) : Prop :=
  match read.phase with
  | .snapshot => mgr.isrEventHead.toNat = ring.start ∧ read.copied = []
  | .copy =>
      mgr.isrEventHead.toNat = ring.start ∧ read.copied = [] ∧ ∃ batch, Counted read events batch
  | .copyRest => False
  | .moveHead => mgr.isrEventHead.toNat = ring.start ∧ ∃ batch, Copied read events batch
  | .updateCounters =>
      mgr.isrEventHead.toNat = ring.position read.eventFillSize.toNat
        ∧ ∃ batch, Copied read events batch

/-- What is delivered and what the ring still holds make up what was accepted. -/
structure Sound (state : IsrState) (batches : List (List PerfEvent)) (ring : CyclicBuffer)
    (events : List PerfEvent) : Prop where
  accepted : state.accepted = batches.flatten ++ events
  reads : List.Forall₂ FinishedRead.Delivers state.finished batches
  stored : Stored state.mgr ring events
  idle : state.read = none → state.mgr.isrEventHead.toNat = ring.start
  busy : ∀ read ∈ state.read, Progress state.mgr ring events read

variable {state after : IsrState} {read : IsrRead} {batches : List (List PerfEvent)}
  {batch : List PerfEvent}

theorem Counted.append (counted : Counted read events batch) (more : List PerfEvent)
    : Counted read (events ++ more) batch :=
  { counted with first := counted.first.trans (List.prefix_append ..) }

/-- Events that are added do not disturb the reader. -/
theorem Progress.add {changed : PerfEventMgr} {amount : Nat} {room}
    (progress : Progress mgr ring events read) (more : List PerfEvent)
    (head : changed.isrEventHead = mgr.isrEventHead)
    : Progress changed (ring.append amount room) (events ++ more) read := by
  unfold Progress at progress ⊢
  rw [head]
  split at progress
  · exact progress
  · obtain ⟨at_, none, batch, counted⟩ := progress
    exact ⟨at_, none, batch, counted.append more⟩
  · exact progress
  · obtain ⟨at_, batch, copied⟩ := progress
    exact ⟨at_, batch, copied.counted.append more, copied.copied⟩
  · obtain ⟨at_, batch, copied⟩ := progress
    exact ⟨at_, batch, copied.counted.append more, copied.copied⟩

/-- The events the reader counted are there, so the count is not 0. -/
theorem Counted.not_nil (counted : Counted read events batch) : events ≠ [] := by
  rintro rfl
  exact counted.some (List.prefix_nil.mp counted.first)

/-- With no events in the ring, the reader has counted none. -/
theorem Progress.of_nil (progress : Progress mgr ring [] read)
    : read.phase = .snapshot ∧ read.copied = [] := by
  unfold Progress at progress
  split at progress
  · exact ⟨‹_›, progress.2⟩
  · obtain ⟨_, _, _, counted⟩ := progress
    exact absurd rfl counted.not_nil
  · exact progress.elim
  · obtain ⟨_, _, copied⟩ := progress
    exact absurd rfl copied.counted.not_nil
  · obtain ⟨_, _, copied⟩ := progress
    exact absurd rfl copied.counted.not_nil

/-- A count of 0 means that the ring is empty. -/
theorem Stored.eq_nil (stored : Stored mgr ring events) (none : mgr.isrEventNum = 0)
    : events = [] := by
  have num := stored.num
  rw [none] at num
  exact List.length_eq_zero_iff.mp num.symm

-----------------------------------------------------------------------------------------
-- One step
-----------------------------------------------------------------------------------------

/-- A trace begins with an empty ring. -/
theorem Sound.begin (sound : state.Sound batches ring events)
    (none : state.mgr.isrEventNum = 0)
    : Sound { state with mgr := state.mgr.perfEventBegin } batches freshRing [] := by
  obtain rfl := sound.stored.eq_nil none
  refine ⟨sound.accepted, sound.reads, stored_nil rfl rfl none, fun _ => rfl, ?_⟩
  intro read reading
  obtain ⟨phase, empty⟩ := (sound.busy read reading).of_nil
  rw [Progress, phase]
  exact ⟨rfl, empty⟩

/-- The reader and the ring are unaffected by the flag. -/
theorem Sound.end (sound : state.Sound batches ring events)
    : Sound { state with mgr := state.mgr.perfEventEnd } batches ring events :=
  ⟨sound.accepted, sound.reads, { sound.stored with }, sound.idle, sound.busy⟩

/-- An interrupt adds an event, or drops it. -/
theorem Sound.addIsrEvent (sound : state.Sound batches ring events)
    (regular : state.Regular (.addIsrEvent event))
    : ∃ ring events, Sound (state.addIsrEvent event) batches ring events := by
  by_cases accepted : state.mgr.accepts event
  · obtain ⟨small, few⟩ := regular accepted
    obtain ⟨room, stored⟩ := sound.stored.add accepted small few
    have head : (state.mgr.perfEventAddIsrEvent event).isrEventHead = state.mgr.isrEventHead := by
      rw [PerfEventMgr.perfEventAddIsrEvent, if_pos accepted]
    refine ⟨_, _, ?_, sound.reads, stored, ?_, ?_⟩
    · rw [IsrState.addIsrEvent, if_pos accepted, sound.accepted, List.append_assoc]
    · intro idle
      exact (congrArg BitVec.toNat head).trans (sound.idle idle)
    · intro read reading
      exact (sound.busy read reading).add [event] head
  · refine ⟨ring, events, ?_⟩
    rw [IsrState.addIsrEvent, if_neg accepted, PerfEventMgr.perfEventAddIsrEvent,
      if_neg accepted]
    exact sound

/-- A call of the reader starts. -/
theorem Sound.getIsrEvent (sound : state.Sound batches ring events) (idle : state.read = none)
    (args : GetPerfEvent)
    : Sound { state with read := some ⟨.snapshot, args, 0, 0, []⟩ } batches ring events := by
  refine ⟨sound.accepted, sound.reads, sound.stored, fun h => (Option.some_ne_none _ h).elim, ?_⟩
  intro read reading
  obtain rfl := Option.some.inj reading
  exact ⟨sound.idle idle, rfl⟩

/-- A batch that a finished read delivered is added behind the others. -/
theorem forall₂_concat {finished : FinishedRead}
    (reads : List.Forall₂ FinishedRead.Delivers state.finished batches)
    (delivers : finished.Delivers batch)
    : List.Forall₂ FinishedRead.Delivers (state.finished ++ [finished]) (batches ++ [batch]) :=
  List.rel_append reads (.cons delivers .nil)

/-- Clearing counters that are 0 changes nothing. -/
theorem cleared_self (num : mgr.isrEventNum = 0) (size : mgr.isrEventBufferSize = 0)
    : { mgr with isrEventNum := 0, isrEventBufferSize := 0 } = mgr := by
  cases mgr
  cases num
  cases size
  rfl

/-- The reader reads the counters. Without events it delivers nothing and says so. -/
theorem Sound.snapshot (sound : state.Sound batches ring events) (reading : read ∈ state.read)
    (phase : read.phase = .snapshot) (regular : state.RegularRead read)
    : ∃ batches, Sound (state.snapshot read) batches ring events := by
  have progress := sound.busy read reading
  rw [Progress, phase] at progress
  rw [RegularRead, phase] at regular
  obtain ⟨head, nothing⟩ := progress
  rw [IsrState.snapshot]
  split
  · rename_i none
    obtain ⟨num, size⟩ := regular none
    obtain rfl := sound.stored.eq_nil none
    have empty : state.mgr.isrEventBufferSize = 0 := by
      apply BitVec.eq_of_toNat_eq
      rw [sound.stored.size, ← sound.stored.stores.length]
      rfl
    have same := cleared_self none empty
    refine ⟨batches ++ [[]], ?_, ?_, ?_, ?_, ?_⟩
    · rw [List.flatten_append]
      exact sound.accepted.trans (by simp)
    · apply forall₂_concat sound.reads
      rw [nothing]
      exact ⟨List.take_nil, by rw [num]; rfl, by rw [size]; rfl⟩
    · rw [same]
      exact sound.stored
    · rw [same]
      exact fun _ => head
    · intro _ absent
      cases absent
  · rename_i some
    refine ⟨batches, sound.accepted, sound.reads, sound.stored,
      fun h => (Option.some_ne_none _ h).elim, ?_⟩
    intro _ taken
    obtain rfl := Option.some.inj taken
    refine ⟨head, nothing, events, List.prefix_rfl, ?_, sound.stored.num, ?_⟩
    · rintro rfl
      exact some (BitVec.eq_of_toNat_eq sound.stored.num)
    · exact sound.stored.size.trans sound.stored.stores.length.symm

/-- Head and counted size are small, so their sum does not overflow. -/
theorem toNat_head_add (stored : Stored mgr ring events)
    (head : mgr.isrEventHead.toNat = ring.start) (counted : Counted read events batch)
    : (mgr.isrEventHead + read.eventFillSize).toNat
      = ring.start + (eventBytes batch).length := by
  have length := stored.stores.length
  have size := stored.ring_size
  have room := stored.room
  have near := ring.start_lt
  obtain ⟨later, rfl⟩ := counted.first
  rw [eventBytes_append, List.length_append] at length
  rw [BitVec.toNat_add, head, counted.size, Nat.mod_eq_of_lt (by omega)]

/-- A straight copy of what was counted copies the counted events. -/
theorem Sound.copy (sound : state.Sound batches ring events) (reading : read ∈ state.read)
    (phase : read.phase = .copy) (regular : state.RegularRead read)
    : Sound (state.copy read) batches ring events := by
  have progress := sound.busy read reading
  rw [Progress, phase] at progress
  rw [RegularRead, phase] at regular
  obtain ⟨head, nothing, batch, counted⟩ := progress
  obtain ⟨straight, unchanged⟩ := regular
  have length := sound.stored.stores.length
  have room := sound.stored.room
  have ring_size := sound.stored.ring_size
  have sum := toNat_head_add sound.stored head counted
  have size := counted.size
  obtain ⟨later, whole⟩ := counted.first
  have bytes : eventBytes events = eventBytes batch ++ eventBytes later := by
    rw [← whole, eventBytes_append]
  rw [bytes, List.length_append] at length
  have start_lt := ring.start_lt
  have near : ring.start + (eventBytes batch).length ≤ ring.size := by
    rw [BitVec.sle, decide_eq_true_iff, toInt_of_lt (by omega), sum,
      toInt_maxIsrEventBufferSize] at straight
    omega
  have count : state.mgr.isrEventBufferSize.toInt.toNat = (eventBytes batch).length := by
    rw [unchanged, toInt_of_lt (by omega), size, Int.toNat_natCast]
  have copied : state.mgr.isrEventBuffer.read state.mgr.isrEventHead.toInt
      (eventBytes batch).length = eventBytes batch := by
    rw [toInt_of_lt (by omega), head, read_stored sound.stored.stores near (by omega), bytes,
      List.take_left]
  rw [IsrState.copy, if_pos straight]
  refine ⟨sound.accepted, sound.reads, sound.stored, fun h => (Option.some_ne_none _ h).elim, ?_⟩
  intro _ taken
  obtain rfl := Option.some.inj taken
  refine ⟨head, batch, { counted with }, ?_⟩
  rw [nothing, count, copied]
  rfl

/-- The remainder of small numbers is that of natural numbers. -/
theorem toNat_srem_of_lt {x y : U32} (hx : x.toNat < 2 ^ 31) (hy : y.toNat < 2 ^ 31)
    : (x.srem y).toNat = x.toNat % y.toNat := by
  have msb_x : x.msb = false := BitVec.msb_eq_false_iff_two_mul_lt.mpr (by omega)
  have msb_y : y.msb = false := BitVec.msb_eq_false_iff_two_mul_lt.mpr (by omega)
  rw [BitVec.srem_eq, msb_x, msb_y]
  exact BitVec.toNat_umod

/-- The head moves behind the counted events. -/
theorem Sound.moveHead (sound : state.Sound batches ring events) (reading : read ∈ state.read)
    (phase : read.phase = .moveHead)
    : Sound (state.moveHead read) batches ring events := by
  have progress := sound.busy read reading
  rw [Progress, phase] at progress
  obtain ⟨head, batch, copied⟩ := progress
  have sum := toNat_head_add sound.stored head copied.counted
  have near := ring.start_lt
  have room := sound.stored.room
  have ring_size := sound.stored.ring_size
  have length := sound.stored.stores.length
  have moved : ((state.mgr.isrEventHead + read.eventFillSize).srem maxIsrEventBufferSize).toNat
      = ring.position read.eventFillSize.toNat := by
    obtain ⟨later, whole⟩ := copied.counted.first
    rw [← whole, eventBytes_append, List.length_append] at length
    rw [toNat_srem_of_lt (by omega) (by decide), sum, toNat_maxIsrEventBufferSize,
      CyclicBuffer.position, ring_size, copied.counted.size]
  refine ⟨sound.accepted, sound.reads, { sound.stored with },
    fun h => (Option.some_ne_none _ h).elim, ?_⟩
  intro _ taken
  obtain rfl := Option.some.inj taken
  exact ⟨moved, batch, ⟨{ copied.counted with }, copied.copied⟩⟩

/-- The reader returns, and what it counted is delivered. -/
theorem Sound.updateCounters (sound : state.Sound batches ring events)
    (reading : read ∈ state.read) (phase : read.phase = .updateCounters)
    : ∃ batches ring events, Sound (state.updateCounters read) batches ring events := by
  have progress := sound.busy read reading
  rw [Progress, phase] at progress
  obtain ⟨head, batch, ⟨counted, copied⟩⟩ := progress
  obtain ⟨later, rfl⟩ := counted.first
  obtain ⟨enough, stored⟩ := sound.stored.consume counted.number counted.size
  refine ⟨batches ++ [batch], _, later, ?_, ?_, stored, ?_, ?_⟩
  · rw [List.flatten_append, List.flatten_singleton, List.append_assoc]
    exact sound.accepted
  · apply forall₂_concat sound.reads
    have exact_ : read.copied.length = read.eventFillSize.toNat := by
      rw [copied, counted.size]
    refine ⟨?_, counted.number, exact_⟩
    rw [← copied]
    exact List.take_of_length_le exact_.le
  · rw [counted.size] at head
    exact fun _ => head
  · intro _ absent
    cases absent

/-- One regular step of the reader. -/
theorem Sound.readStep (sound : state.Sound batches ring events) (reading : read ∈ state.read)
    (regular : state.RegularRead read)
    : ∃ batches ring events, Sound (state.readStep read) batches ring events := by
  rw [IsrState.readStep]
  cases phase : read.phase with
  | snapshot =>
      obtain ⟨batches, sound⟩ := sound.snapshot reading phase regular
      exact ⟨batches, ring, events, sound⟩
  | copy => exact ⟨batches, ring, events, sound.copy reading phase regular⟩
  | copyRest =>
      have progress := sound.busy read reading
      rw [Progress, phase] at progress
      exact progress.elim
  | moveHead => exact ⟨batches, ring, events, sound.moveHead reading phase⟩
  | updateCounters => exact sound.updateCounters reading phase

/-- The step lemma. -/
theorem Sound.next {action : IsrAction} (sound : state.Sound batches ring events)
    (regular : state.Regular action) (taken : state.next action = some after)
    : ∃ batches ring events, Sound after batches ring events := by
  cases action with
  | perfEventBegin =>
      obtain ⟨_, same⟩ := Option.ite_none_left_eq_some.mp taken
      exact ⟨batches, freshRing, [], Option.some.inj same ▸ sound.begin regular⟩
  | perfEventEnd =>
      obtain ⟨_, same⟩ := Option.ite_none_right_eq_some.mp taken
      exact ⟨batches, ring, events, Option.some.inj same ▸ sound.end⟩
  | addIsrEvent event =>
      obtain ⟨ring, events, sound⟩ := sound.addIsrEvent regular
      exact ⟨batches, ring, events, Option.some.inj taken ▸ sound⟩
  | getIsrEvent args =>
      refine ⟨batches, ring, events, ?_⟩
      rw [IsrState.next] at taken
      split at taken
      · rename_i idle
        split at taken
        · exact Option.some.inj taken ▸ sound.getIsrEvent idle args
        · exact Option.some.inj taken ▸ sound
      · cases taken
  | readStep =>
      obtain ⟨read, reading, same⟩ := Option.map_eq_some_iff.mp taken
      exact same ▸ sound.readStep reading (regular read reading)

-----------------------------------------------------------------------------------------
-- Whole runs
-----------------------------------------------------------------------------------------

/-- What is sound delivers what was accepted. -/
theorem Sound.deliversAccepted (sound : state.Sound batches ring events)
    : state.DeliversAccepted := by
  refine ⟨batches, events, sound.accepted, sound.reads, fun idle => ?_⟩
  have stored := sound.stored
  have few := stored.num_lt
  have num := stored.num
  refine ⟨?_, stored.size.trans stored.stores.length.symm, ?_⟩
  · rw [stored.tail, sound.idle idle, stored.size, CyclicBuffer.position, stored.ring_size,
      toNat_maxIsrEventBufferSize]
  · rw [toInt_of_lt (by omega), num]

/-- The run theorem: after any number of regular steps of interrupts and reader, the reads
delivered exactly what was accepted, and the counters are right.
-/
theorem isr_events_delivered {state : IsrState} (reached : system.ReachableUnder Regular state)
    : state.DeliversAccepted := by
  have sound : ∃ batches ring events, state.Sound batches ring events := by
    apply reached.invariant
    · rintro _ rfl
      exact ⟨[], freshRing, [], rfl, .nil, stored_nil rfl rfl rfl, fun _ => rfl,
        fun _ absent => by cases absent⟩
    · rintro before action after ⟨batches, ring, events, sound⟩ regular taken
      exact sound.next regular taken
  obtain ⟨batches, ring, events, sound⟩ := sound
  exact sound.deliversAccepted

/-- A vertical blank, as long as a `zx_perf_event_vsync_t`. -/
def vsync (content : UInt8) : PerfEvent := ⟨List.replicate 36 content, by simp⟩

/-- Two events and a read of them, with a third one between its copy and its return. -/
def deliveredActions : List IsrAction :=
  [.perfEventBegin, .addIsrEvent (vsync 1), .addIsrEvent (vsync 2), .getIsrEvent ⟨0, 0⟩,
    .readStep, .readStep, .addIsrEvent (vsync 3), .readStep, .readStep]

/-- The state this run ends in. -/
def delivered : Option IsrState := System.replay next start deliveredActions

/-- The steps can be taken. -/
theorem delivered_isSome : delivered.isSome := by rfl

/-- The read delivers two events, and the third one stays. -/
theorem isr_events_delivered_delivered
    : ((delivered.get delivered_isSome).finished.map FinishedRead.args = [⟨2, 72⟩]
        ∧ (delivered.get delivered_isSome).mgr.isrEventNum = 1)
      ∧ (delivered.get delivered_isSome).DeliversAccepted := by
  refine ⟨by decide, isr_events_delivered ?_⟩
  exact .replay deliveredActions rfl (by decide) (Option.some_get delivered_isSome).symm

/-- An interrupt adds an event between the locked section of a read and its copy. -/
def addedBeforeCopy : Option IsrState :=
  System.replay next start
    [.perfEventBegin, .addIsrEvent (vsync 1), .getIsrEvent ⟨0, 0⟩, .readStep,
      .addIsrEvent (vsync 2), .readStep, .readStep, .readStep]

/-- The steps can be taken. -/
theorem addedBeforeCopy_isSome : addedBeforeCopy.isSome := by rfl

/-- The read writes 72 bytes and says that it filled 36. -/
theorem isr_events_not_delivered
    : (∃ state, system.Reachable state
        ∧ state.finished.map (fun read => (read.copied.length, read.args)) = [(72, ⟨1, 36⟩)])
      ∧ ¬ ∀ state, system.Reachable state → state.DeliversAccepted := by
  have reached : system.Reachable (addedBeforeCopy.get addedBeforeCopy_isSome) :=
    .replay _ rfl (Option.some_get addedBeforeCopy_isSome).symm
  have copied : (addedBeforeCopy.get addedBeforeCopy_isSome).finished.map
      (fun read => (read.copied.length, read.args)) = [(72, ⟨1, 36⟩)] := by
    rfl
  refine ⟨⟨_, reached, copied⟩, fun claim => ?_⟩
  obtain ⟨batches, _, delivers⟩ := claim _ reached
  obtain ⟨read, finished, same⟩ := List.map_eq_singleton_iff.mp copied
  have reads := delivers.reads
  rw [finished] at reads
  cases reads with
  | cons first _ =>
      have size := first.isrFilledSize
      injection same with length args
      rw [length, args] at size
      exact absurd size (by decide)

end IsrState

end Cx4Kernel.Perfevent
