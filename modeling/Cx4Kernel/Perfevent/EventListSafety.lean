import Mathlib.Data.List.Nodup
import Cx4Kernel.Perfevent.EventList

/-! What becomes of performance events. Each one that is linked stays linked until it is
delivered, provided that the tests which a call makes after its locked section still see
what that section did.
-/

namespace Cx4Kernel.Perfevent

open Cx4Kernel.Foundation

namespace QueueState

-----------------------------------------------------------------------------------------
-- What the list guarantees
-----------------------------------------------------------------------------------------

/-- No call is in progress. -/
structure Idle (state : QueueState) : Prop where
  reader : state.reader = none
  calls : ∀ entry ∈ state.calls, ∃ ret, entry.phase = .done ret

/-- Events are delivered at most once and in order, stay linked until then or until a trace
begins, no linked node is freed, and results and counter tell what was linked.
-/
structure Keeps (state : QueueState) : Prop where
  once : state.delivered.Nodup
  order : state.delivered.Sublist state.inserted
  kept : ∀ node ∈ state.inserted, node ∉ state.delivered → node ∉ state.discarded
    → node ∈ state.eventList
  unfreed : ∀ node ∈ state.eventList, state.freed node = 0
  returned : ∀ (call : Nat) (ret : Int),
    state.calls[call]?.map AddCall.phase = some (.done ret)
    → (ret = -1 ↔ call ∉ state.inserted)
  number : state.Idle → state.eventNumber.toInt = state.eventList.length

/-- The tests of a call after its locked section see what that section did: an event that
was not linked is still counted as lost, and a node that was linked is still the last one
when its pointer is looked at.
-/
def SeesOutcome (state : QueueState) (call : Nat) : AddPhase → Prop
  | .testLost => call ∉ state.inserted → 0 < state.lostEventNumber.toInt
  | .testNext => call ∈ state.inserted → state.eventList.getLast? = some call
  | _ => True

/-- When a step is regular: tests see what the locked section did, and a trace begins while
no call is in progress.
-/
def Regular (state : QueueState) : QueueAction → Prop
  | .perfEventBegin _ => state.Idle
  | .addStep call _ => ∀ entry ∈ state.calls[call]?, state.SeesOutcome call entry.phase
  | _ => True

instance (phase : AddPhase) : Decidable (∃ ret, phase = .done ret) :=
  match phase with
  | .done ret => .isTrue ⟨ret, rfl⟩
  | .checkLost | .countLost | .alloc | .link | .testLost | .testNext | .free => .isFalse nofun

instance (state : QueueState) : Decidable state.Idle :=
  decidable_of_iff (state.reader = none ∧ ∀ entry ∈ state.calls, ∃ ret, entry.phase = .done ret)
    ⟨fun h => ⟨h.1, h.2⟩, fun h => ⟨h.1, h.2⟩⟩

instance (state : QueueState) (call : Nat)
    : (phase : AddPhase) → Decidable (state.SeesOutcome call phase)
  | .testLost => inferInstanceAs (Decidable (_ → _))
  | .testNext => inferInstanceAs (Decidable (_ → _))
  | .checkLost | .countLost | .alloc | .link | .free | .done _ => .isTrue trivial

instance (state : QueueState) : (action : QueueAction) → Decidable (state.Regular action)
  | .perfEventBegin _ => inferInstanceAs (Decidable state.Idle)
  | .addStep call _ =>
      inferInstanceAs
        (Decidable (∀ entry ∈ state.calls[call]?, state.SeesOutcome call entry.phase))
  | .perfEventEnd | .addEvent | .getEvent _ | .getStep => .isTrue trivial

-----------------------------------------------------------------------------------------
-- The invariant
-----------------------------------------------------------------------------------------

/-- What is known of a call with its phase. -/
def CallSound (inserted : List Nat) (call : Nat) (entry : AddCall) : Prop :=
  match entry.phase with
  | .checkLost | .countLost | .alloc | .link => call ∉ inserted ∧ entry.freed = 0
  | .testLost | .testNext => call ∉ inserted → entry.freed = 0
  | .free => call ∉ inserted
  | .done ret => ret = -1 ↔ call ∉ inserted

/-- The node that is copied to the user and still linked. -/
def inHand (get : GetCall) : List Nat :=
  if get.phase = .unlink then get.eventNode.toList else []

/-- Events the reader has unlinked and not yet counted down. -/
def taken (get : GetCall) : Nat :=
  if get.phase = .free then get.i.toNat + 1 else get.i.toNat

/-- The reader stays away from the last node: the nodes it may still take and one more are
there.
-/
def ReaderSound (list settled : List Nat) (get : GetCall) : Prop :=
  match get.phase with
  | .snapshot => get.i = 0
  | .enter => get.i = 0 ∧ 0 < get.eventFillNum.toInt ∧ get.eventFillNum.toInt + 1 ≤ list.length
  | .copy | .unlink =>
      get.i.toNat < get.eventFillNum.toInt
        ∧ get.eventFillNum.toInt + 1 ≤ list.length + get.i.toNat
        ∧ ∃ first second rest, list = first :: second :: rest
          ∧ get.eventNode = some first ∧ get.eventNodeNext = some second
  | .free =>
      get.i.toNat < get.eventFillNum.toInt
        ∧ get.eventFillNum.toInt ≤ list.length + get.i.toNat
        ∧ ∃ node ∈ settled, get.eventNode = some node
          ∧ ∃ first rest, list = first :: rest ∧ get.eventNodeNext = some first
  | .update => True

/-- Linked nodes follow those that were taken out of the list. -/
structure Sound (state : QueueState) (settled : List Nat) : Prop where
  inserted : state.inserted = settled ++ state.eventList
  nodup : state.inserted.Nodup
  known : ∀ node ∈ state.inserted, node < state.calls.length
  order : ∃ earlier, state.delivered = earlier ++ state.reader.toList.flatMap inHand
    ∧ earlier.Sublist settled
  covered : ∀ node ∈ settled, node ∈ state.delivered ∨ node ∈ state.discarded
  unfreed : ∀ node ∈ state.eventList, state.freed node = 0
  calls : ∀ (call : Nat) (entry : AddCall), state.calls[call]? = some entry
    → CallSound state.inserted call entry
  reader : ∀ get ∈ state.reader, ReaderSound state.eventList settled get
  number : state.eventNumber.toInt
    = state.eventList.length + (state.reader.map taken).getD 0

variable {state after : QueueState} {settled : List Nat} {call : Nat} {entry : AddCall}
  {get : GetCall}

/-- Linked nodes are different from each other and from those taken out. -/
theorem Sound.disjoint (sound : state.Sound settled)
    : state.eventList.Nodup ∧ ∀ node ∈ settled, node ∉ state.eventList := by
  have nodup := sound.nodup
  rw [sound.inserted] at nodup
  obtain ⟨_, linked, apart⟩ := List.nodup_append.mp nodup
  exact ⟨linked, fun node old new => apart node old node new rfl⟩

/-- What is sound keeps its events. -/
theorem Sound.keeps (sound : state.Sound settled) : state.Keeps := by
  have order : state.delivered.Sublist state.inserted := by
    obtain ⟨earlier, delivered, before⟩ := sound.order
    rw [delivered, sound.inserted]
    apply before.append
    cases reading : state.reader with
    | none => exact List.nil_sublist _
    | some get =>
        have reader := sound.reader get reading
        rw [Option.toList_some, List.flatMap_singleton, inHand]
        split
        · rename_i phase
          rw [ReaderSound, phase] at reader
          obtain ⟨_, _, first, second, rest, list, node, _⟩ := reader
          rw [list, node]
          exact (List.nil_sublist _).cons_cons first
        · exact List.nil_sublist _
  refine ⟨order.nodup sound.nodup, order, ?_, sound.unfreed, ?_, ?_⟩
  · intro node linked undelivered undiscarded
    rw [sound.inserted] at linked
    rcases List.mem_append.mp linked with old | new
    · rcases sound.covered node old with delivered | discarded
      · exact absurd delivered undelivered
      · exact absurd discarded undiscarded
    · exact new
  · intro call ret returned
    obtain ⟨entry, found, phase⟩ := Option.map_eq_some_iff.mp returned
    have known := sound.calls call entry found
    rw [CallSound, phase] at known
    exact known
  · intro idle
    rw [sound.number, idle.reader]
    rfl

-----------------------------------------------------------------------------------------
-- Steps of a call
-----------------------------------------------------------------------------------------

/-- A phase says nothing of what was freed. -/
theorem freed_goto (state : QueueState) (call : Nat) (phase : AddPhase) (node : Nat)
    : (state.goto call phase).freed node = state.freed node := by
  rw [freed, freed, goto]
  rcases eq_or_ne call node with rfl | different
  · rw [List.getElem?_modify_eq]
    cases state.calls[call]? <;> rfl
  · rw [List.getElem?_modify_ne _ _ different]

/-- Freeing one node leaves the count of the others. -/
theorem freed_free_ne {node other : Nat} (different : node ≠ other)
    : (state.free node).freed other = state.freed other := by
  rw [freed, freed, free, List.getElem?_modify_ne _ _ different]

/-- Only the call itself is in another phase. -/
theorem Sound.goto (sound : state.Sound settled) {phase : AddPhase}
    (found : state.calls[call]? = some entry)
    (h : CallSound state.inserted call { entry with phase := phase })
    : (state.goto call phase).Sound settled where
  inserted := sound.inserted
  nodup := sound.nodup
  known := by
    intro node linked
    rw [QueueState.goto, List.length_modify]
    exact sound.known node linked
  order := sound.order
  covered := sound.covered
  unfreed := by
    intro node linked
    rw [freed_goto]
    exact sound.unfreed node linked
  calls := by
    intro other changed at_
    rw [QueueState.goto] at at_
    rcases eq_or_ne call other with rfl | different
    · rw [List.getElem?_modify_eq, found] at at_
      obtain rfl := Option.some.inj at_
      exact h
    · rw [List.getElem?_modify_ne _ _ different] at at_
      exact sound.calls other changed at_
  reader := sound.reader
  number := sound.number

/-- The count of lost events is not part of what is linked. -/
theorem Sound.lost (sound : state.Sound settled) (number : U32)
    : Sound { state with lostEventNumber := number } settled :=
  { sound with }

/-- Freeing a node is sound unless it is linked or its call relies on it. -/
theorem Sound.free (sound : state.Sound settled) {node : Nat} (unlinked : node ∉ state.eventList)
    (h : ∀ entry, state.calls[node]? = some entry
      → CallSound state.inserted node { entry with freed := entry.freed + 1 })
    : (state.free node).Sound settled where
  inserted := sound.inserted
  nodup := sound.nodup
  known := by
    intro other linked
    rw [QueueState.free, List.length_modify]
    exact sound.known other linked
  order := sound.order
  covered := sound.covered
  unfreed := by
    intro other linked
    have different : node ≠ other := by
      rintro rfl
      exact unlinked linked
    rw [freed_free_ne different]
    exact sound.unfreed other linked
  calls := by
    intro other changed at_
    rw [QueueState.free] at at_
    rcases eq_or_ne node other with rfl | different
    · rw [List.getElem?_modify_eq] at at_
      obtain ⟨entry, found, same⟩ := Option.map_eq_some_iff.mp at_
      exact same ▸ h entry found
    · rw [List.getElem?_modify_ne _ _ different] at at_
      exact sound.calls other changed at_
  reader := sound.reader
  number := sound.number

/-- What is known of the other calls does not depend on a new link. -/
theorem CallSound.append {inserted : List Nat} {other : Nat} (known : CallSound inserted other entry)
    (different : other ≠ call)
    : CallSound (inserted ++ [call]) other entry := by
  have same : other ∈ inserted ++ [call] ↔ other ∈ inserted := by
    simp only [List.mem_append, List.mem_singleton, different, or_false]
  simpa only [CallSound, same] using known

/-- A node that is linked behind the others does not disturb the reader. -/
theorem ReaderSound.append {list : List Nat} (reader : ReaderSound list settled get) (node : Nat)
    : ReaderSound (list ++ [node]) settled get := by
  unfold ReaderSound at reader ⊢
  rw [List.length_append, List.length_singleton]
  split at reader
  · exact reader
  · obtain ⟨zero, some, room⟩ := reader
    exact ⟨zero, some, by omega⟩
  · obtain ⟨below, room, first, second, rest, rfl, node, next⟩ := reader
    exact ⟨below, by omega, first, second, rest ++ [_], rfl, node, next⟩
  · obtain ⟨below, room, first, second, rest, rfl, node, next⟩ := reader
    exact ⟨below, by omega, first, second, rest ++ [_], rfl, node, next⟩
  · obtain ⟨below, room, node, old, here, first, rest, rfl, next⟩ := reader
    exact ⟨below, by omega, node, old, here, first, rest ++ [_], rfl, next⟩
  · trivial

/-- A number below another one has a successor as an `int`. -/
theorem toInt_add_one {x y : U32} (h : x.slt y) : (x + 1).toInt = x.toInt + 1 := by
  have below : x.toInt < y.toInt := BitVec.slt_iff_toInt_lt.mp h
  have small := BitVec.toInt_lt (x := y)
  have large := BitVec.le_toInt x
  rw [BitVec.toInt_add]
  exact Int.bmod_eq_of_le (by simp; omega) (by simp; omega)

/-- The locked section of a call, once the call is at its test. -/
theorem Sound.link (sound : state.Sound settled) (found : state.calls[call]? = some entry)
    (phase : entry.phase = .testLost) (unlinked : call ∉ state.inserted)
    : (state.link call).Sound settled := by
  rw [QueueState.link]
  split
  · rename_i room
    refine {
      inserted := ?_
      nodup := List.nodup_append.mpr ⟨sound.nodup, List.nodup_singleton _, ?_⟩
      known := ?_
      order := sound.order
      covered := sound.covered
      unfreed := ?_
      calls := ?_
      reader := fun get reading => (sound.reader get reading).append call
      number := ?_ }
    · rw [sound.inserted, List.append_assoc]
    · intro node old other new same
      rw [same, List.mem_singleton.mp new] at old
      exact unlinked old
    · intro node linked
      rcases List.mem_append.mp linked with old | new
      · exact sound.known node old
      · rw [List.mem_singleton.mp new]
        exact (List.getElem?_eq_some_iff.mp found).1
    · intro node linked
      rcases List.mem_append.mp linked with old | new
      · exact sound.unfreed node old
      · rw [List.mem_singleton.mp new]
        have known := sound.calls call entry found
        rw [CallSound, phase] at known
        change (state.calls[call]?.map AddCall.freed).getD 0 = 0
        rw [found]
        exact known unlinked
    · intro other changed at_
      rcases eq_or_ne other call with rfl | different
      · obtain rfl := Option.some.inj (found.symm.trans at_)
        rw [CallSound, phase]
        exact fun absent => absurd (List.mem_append_right _ (List.mem_singleton_self _)) absent
      · exact (sound.calls other changed at_).append different
    · change (state.eventNumber + 1).toInt = ((state.eventList ++ [call]).length : Int) + _
      rw [toInt_add_one room, sound.number, List.length_append, List.length_singleton]
      push_cast
      omega
  · exact sound.lost _

/-- A call begins. -/
theorem Sound.addEvent (sound : state.Sound settled) : state.addEvent.Sound settled := by
  have fresh : state.calls.length ∉ state.inserted :=
    fun linked => Nat.lt_irrefl _ (sound.known _ linked)
  refine {
    inserted := sound.inserted
    nodup := sound.nodup
    known := ?_
    order := sound.order
    covered := sound.covered
    unfreed := ?_
    calls := ?_
    reader := sound.reader
    number := sound.number }
  · intro node linked
    rw [QueueState.addEvent, List.length_append]
    exact Nat.lt_add_right _ (sound.known node linked)
  · intro node linked
    have old : node < state.calls.length := by
      apply sound.known
      rw [sound.inserted]
      exact List.mem_append_right _ linked
    rw [QueueState.freed, QueueState.addEvent, List.getElem?_append_left old]
    exact sound.unfreed node linked
  · intro other changed at_
    rw [QueueState.addEvent] at at_
    rcases lt_trichotomy other state.calls.length with old | rfl | beyond
    · rw [List.getElem?_append_left old] at at_
      exact sound.calls other changed at_
    · rw [List.getElem?_concat_length] at at_
      obtain rfl := Option.some.inj at_
      change CallSound state.inserted _ ⟨if state.perfStarted then _ else _, 0⟩
      by_cases started : state.perfStarted
      · rw [if_pos started]
        exact ⟨fresh, rfl⟩
      · rw [if_neg started]
        exact iff_of_true rfl fresh
    · rw [List.getElem?_eq_none (by rw [List.length_append, List.length_singleton]; omega)] at at_
      cases at_

/-- A node that was never linked is not freed by others, so its pointer differs from the
list head.
-/
theorem Sound.nextDiffers (sound : state.Sound settled) (found : state.calls[call]? = some entry)
    (phase : entry.phase = .testNext) (unlinked : call ∉ state.inserted) (outcome : Bool)
    : state.nextDiffers call outcome := by
  have known := sound.calls call entry found
  rw [CallSound, phase] at known
  have unfreed : state.freed call = 0 := by
    rw [QueueState.freed, found]
    exact known unlinked
  rw [QueueState.nextDiffers, if_pos unfreed, bne_iff_ne]
  intro last
  apply unlinked
  rw [sound.inserted]
  exact List.mem_append_right _ (List.mem_of_getLast? last)

/-- The locked section does not look at the phase of the call, so it may be set first. -/
theorem goto_link (state : QueueState) (call : Nat) (phase : AddPhase)
    : (state.link call).goto call phase = (state.goto call phase).link call := by
  simp only [QueueState.link, QueueState.goto]
  split
  · rename_i room
    exact (if_pos room).symm
  · rename_i full
    exact (if_neg full).symm

/-- One step of a call that sees what its locked section did. -/
theorem Sound.addStep {outcome : Bool} (sound : state.Sound settled)
    (found : state.calls[call]? = some entry) (sees : state.SeesOutcome call entry.phase)
    (taken : state.addStep call outcome entry.phase = some after)
    : after.Sound settled := by
  have known := sound.calls call entry found
  cases phase : entry.phase with
  | checkLost =>
      rw [CallSound, phase] at known
      rw [phase] at taken
      obtain rfl := Option.some.inj taken
      apply sound.goto found
      split <;> exact known
  | countLost =>
      rw [CallSound, phase] at known
      rw [phase] at taken
      obtain rfl := Option.some.inj taken
      exact (sound.lost _).goto found (iff_of_true rfl known.1)
  | alloc =>
      rw [CallSound, phase] at known
      rw [phase] at taken
      obtain rfl := Option.some.inj taken
      apply sound.goto found
      split
      · exact known
      · exact iff_of_true rfl known.1
  | link =>
      rw [CallSound, phase] at known
      rw [phase] at taken
      obtain rfl := Option.some.inj taken
      rw [goto_link]
      have tested : (state.goto call .testLost).Sound settled :=
        sound.goto found fun _ => known.2
      have at_ : (state.goto call .testLost).calls[call]? = some { entry with phase := .testLost } := by
        rw [QueueState.goto, List.getElem?_modify_eq, found]
        rfl
      exact tested.link at_ rfl known.1
  | testLost =>
      rw [CallSound, phase] at known
      rw [phase] at taken sees
      obtain rfl := Option.some.inj taken
      apply sound.goto found
      split
      · exact known
      · rename_i none
        exact ⟨fun h => absurd h (by decide), fun unlinked => absurd (sees unlinked) none⟩
  | testNext =>
      rw [phase] at taken sees
      obtain rfl := Option.some.inj taken
      apply sound.goto found
      by_cases linked : call ∈ state.inserted
      · have last := sees linked
        have unfreed := sound.unfreed call (List.mem_of_getLast? last)
        have same : state.nextDiffers call outcome = false := by
          rw [QueueState.nextDiffers, if_pos unfreed, last, bne_self_eq_false]
        rw [same]
        exact ⟨fun h => absurd h (by decide), fun unlinked => absurd linked unlinked⟩
      · rw [if_pos (sound.nextDiffers found phase linked outcome)]
        exact linked
  | free =>
      rw [CallSound, phase] at known
      rw [phase] at taken
      obtain rfl := Option.some.inj taken
      have unlinked : call ∉ state.eventList := by
        intro linked
        apply known
        rw [sound.inserted]
        exact List.mem_append_right _ linked
      have freed : (state.free call).Sound settled := by
        apply sound.free unlinked
        intro other at_
        obtain rfl := Option.some.inj (found.symm.trans at_)
        rw [CallSound, phase]
        exact known
      have at_ : (state.free call).calls[call]? = some { entry with freed := entry.freed + 1 } := by
        rw [QueueState.free, List.getElem?_modify_eq, found]
        rfl
      exact freed.goto at_ (iff_of_true rfl known)
  | done ret =>
      rw [phase] at taken
      cases taken

-----------------------------------------------------------------------------------------
-- Steps of the reader
-----------------------------------------------------------------------------------------

theorem inHand_of {phase : GetPhase} (at_ : get.phase = phase) (h : phase ≠ .unlink)
    : inHand get = [] :=
  if_neg (at_ ▸ h)

theorem taken_of {phase : GetPhase} (at_ : get.phase = phase) (h : phase ≠ .free)
    : taken get = get.i.toNat :=
  if_neg (at_ ▸ h)

/-- A step of the reader that touches neither the list nor what is delivered. -/
theorem Sound.withReader {moved : GetCall} (sound : state.Sound settled)
    (reading : state.reader = some get) (hand : inHand moved = inHand get)
    (same : taken moved = taken get) (h : ReaderSound state.eventList settled moved)
    : Sound { state with reader := some moved } settled where
  inserted := sound.inserted
  nodup := sound.nodup
  known := sound.known
  order := by
    have order := sound.order
    rw [reading, Option.toList_some, List.flatMap_singleton, ← hand] at order
    rw [Option.toList_some, List.flatMap_singleton]
    exact order
  covered := sound.covered
  unfreed := sound.unfreed
  calls := sound.calls
  reader := fun _ at_ => Option.some.inj at_ ▸ h
  number := by
    have number := sound.number
    rw [reading, Option.map_some, Option.getD_some, ← same] at number
    exact number

/-- The reader returns with nothing in its hands and nothing to count down. -/
theorem Sound.return_ {number : U32} (sound : state.Sound settled)
    (reading : state.reader = some get) (hand : inHand get = [])
    (counted : number.toInt = state.eventList.length) (results : List GetResult)
    : Sound
        { state with reader := none, eventNumber := number, results := results } settled where
  inserted := sound.inserted
  nodup := sound.nodup
  known := sound.known
  order := by
    have order := sound.order
    rw [reading, Option.toList_some, List.flatMap_singleton, hand] at order
    exact order
  covered := sound.covered
  unfreed := sound.unfreed
  calls := sound.calls
  reader := fun _ absent => by cases absent
  number := counted.trans (Int.add_zero _).symm

/-- A number from 3 on has a predecessor as an `int`. -/
theorem toInt_sub_one {x : U32} (h : 2 < x.toInt) : (x - 1).toInt = x.toInt - 1 := by
  have small := BitVec.toInt_lt (x := x)
  rw [BitVec.toInt_sub]
  exact Int.bmod_eq_of_le (by simp; omega) (by simp; omega)

/-- The reader decides how many events it takes, one less than there are. -/
theorem Sound.snapshot (sound : state.Sound settled) (reading : state.reader = some get)
    (phase : get.phase = .snapshot)
    : (state.snapshot get).Sound settled := by
  have known := sound.reader get reading
  rw [ReaderSound, phase] at known
  have number := sound.number
  rw [reading, Option.map_some, Option.getD_some, taken, phase, if_neg (by decide), known]
    at number
  change _ = (state.eventList.length : Int) + ((0 : Nat) : Int) at number
  have hand : inHand get = [] := inHand_of phase (by decide)
  rw [QueueState.snapshot]
  split
  · rename_i some
    apply sound.withReader reading
    · exact (@inHand_of _ .enter rfl (by decide)).trans hand.symm
    · rw [taken, taken, phase]
      rfl
    · have fill := toInt_sub_one some
      change get.i = 0 ∧ 0 < (state.eventNumber - 1).toInt
        ∧ (state.eventNumber - 1).toInt + 1 ≤ state.eventList.length
      exact ⟨known, by omega, by omega⟩
  · exact sound.return_ reading hand (by omega) _

/-- The reader finds the first two nodes. -/
theorem Sound.enter (sound : state.Sound settled) (reading : state.reader = some get)
    (phase : get.phase = .enter)
    : (state.enter get).Sound settled := by
  have known := sound.reader get reading
  rw [ReaderSound, phase] at known
  obtain ⟨zero, some, room⟩ := known
  obtain ⟨first, second, rest, list⟩ : ∃ first second rest,
      state.eventList = first :: second :: rest := by
    match list : state.eventList with
    | [] => rw [list, List.length_nil] at room; omega
    | [_] => rw [list, List.length_singleton] at room; omega
    | first :: second :: rest => exact ⟨first, second, rest, rfl⟩
  apply sound.withReader reading
  · rw [inHand, inHand, phase]
    rfl
  · rw [taken, taken, phase]
    rfl
  · change get.i.toNat < get.eventFillNum.toInt
      ∧ get.eventFillNum.toInt + 1 ≤ state.eventList.length + get.i.toNat ∧ _
    have none : get.i.toNat = 0 := by rw [zero]; rfl
    refine ⟨by omega, by omega, first, second, rest, list, ?_, ?_⟩
    · rw [following, list]
      rfl
    · change state.following state.eventList.head? = _
      rw [list, List.head?_cons, following, list, successor, if_pos rfl]

/-- The reader copies the first event. -/
theorem Sound.copyEvent (sound : state.Sound settled) (reading : state.reader = some get)
    (phase : get.phase = .copy)
    : (state.copyEvent get).Sound settled := by
  have known := sound.reader get reading
  rw [ReaderSound, phase] at known
  obtain ⟨below, room, first, second, rest, list, here, next⟩ := known
  obtain ⟨earlier, delivered, before⟩ := sound.order
  have hand : inHand get = [] := inHand_of phase (by decide)
  rw [reading, Option.toList_some, List.flatMap_singleton, hand, List.append_nil] at delivered
  rw [QueueState.copyEvent]
  split
  · rename_i none
    cases none.symm.trans here
  rename_i node found
  cases found.symm.trans here
  refine {
    inserted := sound.inserted
    nodup := sound.nodup
    known := sound.known
    order := ⟨earlier, ?_, before⟩
    covered := ?_
    unfreed := sound.unfreed
    calls := sound.calls
    reader := ?_
    number := ?_ }
  · rw [delivered, Option.toList_some, List.flatMap_singleton, inHand, if_pos rfl, here]
    rfl
  · intro node old
    exact (sound.covered node old).imp_left fun copied => List.mem_append_left _ copied
  · intro _ at_
    obtain rfl := Option.some.inj at_
    exact ⟨below, room, first, second, rest, list, here, next⟩
  · have number := sound.number
    rw [reading, Option.map_some, Option.getD_some, taken, phase, if_neg (by decide)] at number
    exact number

/-- Taking out the first of different nodes leaves the others. -/
theorem filter_first {first : Nat} {rest : List Nat} (nodup : (first :: rest).Nodup)
    : (first :: rest).filter (some · != some first) = rest := by
  rw [List.filter_cons_of_neg (by simp)]
  apply List.filter_eq_self.mpr
  intro node member
  rw [bne_iff_ne]
  intro same
  exact (List.nodup_cons.mp nodup).1 (Option.some.inj same ▸ member)

/-- The reader takes the event it copied out of the list. -/
theorem Sound.unlink (sound : state.Sound settled) (reading : state.reader = some get)
    (phase : get.phase = .unlink)
    : ∃ settled, (state.unlink get).Sound settled := by
  have known := sound.reader get reading
  rw [ReaderSound, phase] at known
  obtain ⟨below, room, first, second, rest, list, here, next⟩ := known
  obtain ⟨earlier, delivered, before⟩ := sound.order
  have hand : inHand get = [first] := by rw [inHand, phase, if_pos rfl, here]; rfl
  rw [reading, Option.toList_some, List.flatMap_singleton, hand] at delivered
  have linked := sound.disjoint.1
  rw [list] at linked
  have remaining : state.eventList.filter (some · != get.eventNode) = second :: rest := by
    rw [list, here]
    exact filter_first linked
  rw [QueueState.unlink, remaining]
  refine ⟨settled ++ [first], {
    inserted := ?_
    nodup := sound.nodup
    known := sound.known
    order := ⟨earlier ++ [first], ?_, before.append (List.Sublist.refl _)⟩
    covered := ?_
    unfreed := ?_
    calls := sound.calls
    reader := ?_
    number := ?_ }⟩
  · rw [List.append_assoc]
    exact sound.inserted.trans (congrArg _ list)
  · rw [delivered, Option.toList_some, List.flatMap_singleton, @inHand_of _ .free rfl (by decide),
      List.append_nil]
  · intro node old
    rcases List.mem_append.mp old with old | new
    · exact sound.covered node old
    · left
      rw [delivered, List.mem_singleton.mp new]
      exact List.mem_append_right _ (List.mem_singleton_self _)
  · intro node member
    apply sound.unfreed
    rw [list]
    exact List.mem_cons_of_mem _ member
  · intro _ at_
    obtain rfl := Option.some.inj at_
    rw [list, List.length_cons] at room
    have room' : get.eventFillNum.toInt ≤ (second :: rest).length + get.i.toNat := by
      push_cast at room ⊢
      omega
    exact ⟨below, room', first,
      List.mem_append_right _ (List.mem_singleton_self _), here, second, rest, rfl, next⟩
  · have number := sound.number
    rw [reading, Option.map_some, Option.getD_some, taken, phase, if_neg (by decide), list,
      List.length_cons] at number
    change state.eventNumber.toInt
      = ((second :: rest).length : Int) + ((get.i.toNat + 1 : Nat) : Int)
    push_cast at number ⊢
    omega

/-- A node that was taken out may be freed. -/
theorem Sound.freeSettled (sound : state.Sound settled) {node : Nat} (old : node ∈ settled)
    : (state.free node).Sound settled := by
  have linked : node ∈ state.inserted := by
    rw [sound.inserted]
    exact List.mem_append_left _ old
  apply sound.free (sound.disjoint.2 node old)
  intro entry found
  have known := sound.calls node entry found
  unfold CallSound at known ⊢
  cases phase : entry.phase <;> rw [phase] at known
  case checkLost => exact absurd linked known.1
  case countLost => exact absurd linked known.1
  case alloc => exact absurd linked known.1
  case link => exact absurd linked known.1
  case testLost => exact fun absent => absurd linked absent
  case testNext => exact fun absent => absurd linked absent
  case free => exact known
  case done => exact known

/-- The reader frees the node and goes on, or leaves the loop. -/
theorem Sound.freeEvent (sound : state.Sound settled) (reading : state.reader = some get)
    (phase : get.phase = .free)
    : (state.freeEvent get).Sound settled := by
  have known := sound.reader get reading
  rw [ReaderSound, phase] at known
  obtain ⟨below, room, node, old, here, first, rest, list, next⟩ := known
  have small := BitVec.toInt_lt (x := get.eventFillNum)
  have step : (get.i + 1).toNat = get.i.toNat + 1 := by
    rw [BitVec.toNat_add]
    exact Nat.mod_eq_of_lt (by simp; omega)
  have freed := sound.freeSettled old
  have after : (get.eventNode.map state.free).getD state = state.free node := by
    rw [here]
    rfl
  have hand : inHand get = [] := inHand_of phase (by decide)
  have counted : taken get = (get.i + 1).toNat := by rw [taken, phase, if_pos rfl, step]
  have read : (state.free node).reader = some get := reading
  simp only [QueueState.freeEvent, after]
  split
  · apply freed.withReader read
    · exact (@inHand_of _ .update rfl (by decide)).trans hand.symm
    · exact (@taken_of _ .update rfl (by decide)).trans counted.symm
    · trivial
  · rename_i more
    have open_ : ¬ get.eventFillNum.toInt ≤ (get.i + 1).toInt := by
      intro stop
      exact more (Or.inr (BitVec.sle_iff_toInt_le.mpr stop))
    have same : (get.i + 1).toInt = (get.i + 1).toNat :=
      BitVec.toInt_eq_toNat_of_lt (by omega)
    rw [same, step] at open_
    obtain ⟨second, others, list'⟩ : ∃ second others, rest = second :: others := by
      match rest with
      | [] => rw [list, List.length_singleton] at room; omega
      | second :: others => exact ⟨second, others, rfl⟩
    apply freed.withReader read
    · exact (@inHand_of _ .copy rfl (by decide)).trans hand.symm
    · exact (@taken_of _ .copy rfl (by decide)).trans counted.symm
    · refine ⟨?_, ?_, first, second, others, list' ▸ list, next, ?_⟩
      · rw [step]
        push_cast at open_ ⊢
        omega
      · change get.eventFillNum.toInt + 1 ≤ (state.eventList.length : Int) + (get.i + 1).toNat
        rw [step]
        push_cast
        omega
      · change state.following get.eventNodeNext = some second
        rw [next, following, list, list', successor, if_pos rfl]

/-- The reader counts down what it took. -/
theorem Sound.update (sound : state.Sound settled) (reading : state.reader = some get)
    (phase : get.phase = .update)
    : (state.update get).Sound settled := by
  have number := sound.number
  rw [reading, Option.map_some, Option.getD_some, taken, phase, if_neg (by decide)] at number
  have hand : inHand get = [] := inHand_of phase (by decide)
  have small := BitVec.toInt_lt (x := state.eventNumber)
  have counted : (state.eventNumber - get.i).toInt = state.eventList.length := by
    have same : get.i.toInt = get.i.toNat := BitVec.toInt_eq_toNat_of_lt (by omega)
    rw [BitVec.toInt_sub, same, number, Int.add_sub_cancel]
    exact Int.bmod_eq_of_le (by simp) (by simp; omega)
  exact (sound.lost 0).return_ reading hand counted _

/-- One step of the reader. -/
theorem Sound.getStep (sound : state.Sound settled) (reading : state.reader = some get)
    : ∃ settled, (state.getStep get).Sound settled := by
  rw [QueueState.getStep]
  cases phase : get.phase with
  | snapshot => exact ⟨settled, sound.snapshot reading phase⟩
  | enter => exact ⟨settled, sound.enter reading phase⟩
  | copy => exact ⟨settled, sound.copyEvent reading phase⟩
  | unlink => exact sound.unlink reading phase
  | free => exact ⟨settled, sound.freeEvent reading phase⟩
  | update => exact ⟨settled, sound.update reading phase⟩

-----------------------------------------------------------------------------------------
-- Whole runs
-----------------------------------------------------------------------------------------

/-- Freeing nodes changes nothing but how often they were freed, by induction on the list. -/
theorem foldl_free (state : QueueState) (nodes : List Nat)
    : ∃ calls : List AddCall, nodes.foldl free state = { state with calls := calls }
      ∧ calls.map AddCall.phase = state.calls.map AddCall.phase := by
  induction nodes generalizing state with
  | nil => exact ⟨state.calls, rfl, rfl⟩
  | cons node rest ih =>
      obtain ⟨calls, same, phases⟩ := ih (state.free node)
      refine ⟨calls, same, phases.trans ?_⟩
      apply List.ext_getElem?
      intro index
      rw [List.getElem?_map, List.getElem?_map, QueueState.free]
      rcases eq_or_ne node index with rfl | different
      · rw [List.getElem?_modify_eq]
        cases state.calls[node]? <;> rfl
      · rw [List.getElem?_modify_ne _ _ different]

/-- A trace begins while no call is in progress. What was linked is discarded. -/
theorem Sound.perfEventBegin (sound : state.Sound settled) (idle : state.Idle)
    (maxEventNum : U32)
    : (state.perfEventBegin maxEventNum).Sound (settled ++ state.eventList) := by
  obtain ⟨calls, same, phases⟩ := foldl_free state state.eventList
  have length : calls.length = state.calls.length := by
    have lengths := congrArg List.length phases
    rwa [List.length_map, List.length_map] at lengths
  obtain ⟨earlier, delivered, before⟩ := sound.order
  rw [QueueState.perfEventBegin, same]
  refine {
    inserted := sound.inserted.trans (List.append_nil _).symm
    nodup := sound.nodup
    known := fun node linked => length ▸ sound.known node linked
    order := ⟨earlier, delivered, before.trans (List.sublist_append_left _ _)⟩
    covered := ?_
    unfreed := fun _ linked => absurd linked List.not_mem_nil
    calls := ?_
    reader := fun get reading => by cases idle.reader.symm.trans reading
    number := ?_ }
  · intro node old
    rcases List.mem_append.mp old with old | linked
    · exact (sound.covered node old).imp_right fun gone => List.mem_append_left _ gone
    · exact Or.inr (List.mem_append_right _ linked)
  · intro call entry found
    have returned : (state.calls.map AddCall.phase)[call]? = some entry.phase := by
      rw [← phases, List.getElem?_map, show calls[call]? = some entry from found]
      rfl
    rw [List.getElem?_map] at returned
    obtain ⟨old, found_old, phase⟩ := Option.map_eq_some_iff.mp returned
    have known := sound.calls call old found_old
    obtain ⟨ret, done⟩ := idle.calls old (List.mem_of_getElem? found_old)
    rw [CallSound, done] at known
    rw [CallSound, ← phase, done]
    exact known
  · change (0 : Int) = (([] : List Nat).length : Int) + (state.reader.map taken).getD 0
    rw [idle.reader]
    rfl

/-- A call of the reader begins. -/
theorem Sound.getEvent (sound : state.Sound settled) (idle : state.reader = none)
    (maxEventNum : U32)
    : Sound
        { state with reader := some ⟨.snapshot, maxEventNum, 0, 0, none, none⟩ } settled where
  inserted := sound.inserted
  nodup := sound.nodup
  known := sound.known
  order := by
    have order := sound.order
    rw [idle] at order
    exact order
  covered := sound.covered
  unfreed := sound.unfreed
  calls := sound.calls
  reader := fun _ at_ => Option.some.inj at_ ▸ rfl
  number := by
    have number := sound.number
    rw [idle] at number
    exact number

/-- The step lemma. -/
theorem Sound.next {action : QueueAction} (sound : state.Sound settled)
    (regular : state.Regular action) (taken : state.next action = some after)
    : ∃ settled, after.Sound settled := by
  cases action with
  | perfEventBegin maxEventNum =>
      obtain ⟨_, same⟩ := Option.ite_none_left_eq_some.mp taken
      exact ⟨_, Option.some.inj same ▸ sound.perfEventBegin regular maxEventNum⟩
  | perfEventEnd =>
      obtain ⟨_, same⟩ := Option.ite_none_right_eq_some.mp taken
      exact ⟨settled, Option.some.inj same ▸ { sound with }⟩
  | addEvent => exact ⟨settled, Option.some.inj taken ▸ sound.addEvent⟩
  | addStep call outcome =>
      obtain ⟨entry, found, step⟩ := Option.bind_eq_some_iff.mp taken
      exact ⟨settled, sound.addStep found (regular entry found) step⟩
  | getEvent maxEventNum =>
      refine ⟨settled, ?_⟩
      rw [QueueState.next] at taken
      split at taken
      · rename_i idle
        split at taken
        · exact Option.some.inj taken ▸ sound.getEvent idle maxEventNum
        · exact Option.some.inj taken ▸ sound
      · cases taken
  | getStep =>
      obtain ⟨get, reading, same⟩ := Option.map_eq_some_iff.mp taken
      exact same ▸ sound.getStep reading

/-- The list of a new manager is empty. -/
theorem start_sound : start.Sound [] where
  inserted := rfl
  nodup := List.nodup_nil
  known := fun _ linked => absurd linked List.not_mem_nil
  order := ⟨[], rfl, List.Sublist.refl _⟩
  covered := fun _ old => absurd old List.not_mem_nil
  unfreed := fun _ linked => absurd linked List.not_mem_nil
  calls := fun _ _ found => by cases found
  reader := fun _ absent => by cases absent
  number := rfl

/-- The run theorem: the list keeps what is linked in every run of regular steps. -/
theorem events_kept {state : QueueState} (reached : system.ReachableUnder Regular state)
    : state.Keeps := by
  have sound : ∃ settled, state.Sound settled := by
    apply reached.invariant
    · rintro _ rfl
      exact ⟨[], start_sound⟩
    · rintro before action after ⟨settled, sound⟩ regular taken
      exact sound.next regular taken
  obtain ⟨settled, sound⟩ := sound
  exact sound.keeps

/-- The steps of a call up to its first test. -/
def addSteps (call : Nat) : List QueueAction :=
  [.addEvent, .addStep call true, .addStep call true, .addStep call true]

/-- Three events fill the list and a fourth one is lost. The reader takes two. -/
def keptActions : List QueueAction :=
  [.perfEventBegin 3] ++ addSteps 0 ++ addSteps 1 ++ addSteps 2 ++ addSteps 3
    ++ [.addStep 0 true, .addStep 3 true, .addStep 3 true, .addStep 3 true, .getEvent 8]
    ++ List.replicate 9 .getStep

/-- The state this run ends in. -/
def keptEvents : Option QueueState := System.replay next start keptActions

/-- The steps can be taken. -/
theorem keptEvents_isSome : keptEvents.isSome := by rfl

/-- Two events are delivered, the third one is still linked and the fourth one was not. -/
theorem events_kept_keptEvents
    : ((keptEvents.get keptEvents_isSome).delivered = [0, 1]
        ∧ (keptEvents.get keptEvents_isSome).eventList = [2]
        ∧ (keptEvents.get keptEvents_isSome).calls[3]? = some ⟨.done (-1), 1⟩)
      ∧ (keptEvents.get keptEvents_isSome).Keeps := by
  refine ⟨by decide, events_kept ?_⟩
  exact .replay keptActions rfl (by decide) (Option.some_get keptEvents_isSome).symm

/-- The list fills while the first call is between its locked section and its tests. -/
def filledBeforeTest : Option QueueState :=
  System.replay next start
    ([.perfEventBegin 2] ++ addSteps 0 ++ addSteps 1 ++ addSteps 2
      ++ [.addStep 0 true, .addStep 0 true, .addStep 0 true])

/-- The steps can be taken. -/
theorem filledBeforeTest_isSome : filledBeforeTest.isSome := by rfl

/-- The call frees its node, which is the first one of the list, and returns -1. -/
theorem events_not_kept
    : (∃ state, system.Reachable state ∧ state.eventList = [0, 1]
        ∧ state.calls[0]? = some ⟨.done (-1), 1⟩)
      ∧ ¬ ∀ state, system.Reachable state → state.Keeps := by
  have reached : system.Reachable (filledBeforeTest.get filledBeforeTest_isSome) :=
    .replay _ rfl (Option.some_get filledBeforeTest_isSome).symm
  refine ⟨⟨_, reached, by rfl, by rfl⟩, fun claim => ?_⟩
  have unfreed := (claim _ reached).unfreed 0 (by decide)
  have freed : (filledBeforeTest.get filledBeforeTest_isSome).freed 0 = 1 := by rfl
  rw [freed] at unfreed
  cases unfreed

end QueueState

end Cx4Kernel.Perfevent
