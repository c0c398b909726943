import Mathlib.Data.List.Perm.Basic
import Cx4Kernel.Vidsch.VmId

/-! No vm id changes hands while a task of its owner runs. Bits leave the bitmap of an object
only after the fence they stand for, so the bitmap and the last flush fences cover every
task whose fence is still out.
-/

namespace Cx4Kernel.Vidsch

open Cx4Kernel.Foundation

/-- A bit that is set, and the bits that were. -/
@[simp] theorem getLsbD_zxSetBit (bit : Nat) (bitmap : U32) (index : Nat)
    : (zxSetBit bit bitmap).getLsbD index
      = (bitmap.getLsbD index || (decide (bit < 32) && decide (bit = index))) := by
  simp only [zxSetBit, BitVec.getLsbD_or, BitVec.getLsbD_twoPow]

/-- The bits that were set, without the cleared one. -/
@[simp] theorem getLsbD_zxClearBit (bit : Nat) (bitmap : U32) (index : Nat)
    : (zxClearBit bit bitmap).getLsbD index
      = (bitmap.getLsbD index && !decide (bit = index)) := by
  by_cases inside : index < 32
  · by_cases same : bit = index
    · subst same
      simp [zxClearBit, inside]
    · have other : ¬ index = bit := fun equal => same equal.symm
      simp [zxClearBit, inside, same, other]
  · simp only [BitVec.getLsbD_of_ge _ _ (Nat.le_of_not_lt inside), Bool.false_and]

-----------------------------------------------------------------------------------------
-- Waiting for fences
-----------------------------------------------------------------------------------------

namespace EngineFences

/-- No engine takes a fence for returned that the hardware has not written. -/
def Sound (fences : EngineFences) : Prop :=
  ∀ engine, (fences.counters engine).returnedFenceId ≤ fences.slot engine

/-- Time has passed: the fences are still sound, and the hardware has written later ones. -/
structure Progress (before after : EngineFences) : Prop where
  sound : after.Sound
  later : ∀ engine, before.slot engine ≤ after.slot engine

variable {fences middle last : EngineFences}

/-- No time may have passed. -/
theorem Progress.refl (sound : fences.Sound) : fences.Progress fences :=
  ⟨sound, fun _ => BitVec.le_refl _⟩

/-- Stretches of time join. -/
theorem Progress.trans (first : fences.Progress middle) (second : middle.Progress last)
    : fences.Progress last :=
  ⟨second.sound, fun engine => BitVec.le_trans (first.later engine) (second.later engine)⟩

/-- A later fence in the slot of an engine is time passing. -/
theorem slot_progress (sound : fences.Sound) {engine : Nat} {fenceId : U64}
    (later : fences.slot engine ≤ fenceId)
    : fences.Progress
        { fences with slot := Function.update fences.slot engine fenceId } := by
  have grows (other : Nat)
      : fences.slot other ≤ Function.update fences.slot engine fenceId other := by
    rw [Function.update_apply]
    split
    · next same => exact same ▸ later
    · exact BitVec.le_refl _
  exact ⟨fun other => BitVec.le_trans (sound other) (grows other), grows⟩

/-- A step on the fence counters that takes over no fence but one of the slot is time
passing.
-/
theorem counters_progress (sound : fences.Sound) (engine : Nat) {counters : FenceCounters}
    (within : counters.returnedFenceId ≤ fences.slot engine)
    : fences.Progress
        { fences with counters := Function.update fences.counters engine counters } := by
  refine ⟨fun other => ?_, fun _ => BitVec.le_refl _⟩
  simp only [Function.update_apply]
  split
  · next same => exact same ▸ within
  · exact sound other

/-- An update never takes over more than the slot holds. -/
theorem vidschiUpdateFenceId_le {counters : FenceCounters} {newFence : U64}
    (within : counters.returnedFenceId ≤ newFence)
    : (vidschiUpdateFenceId counters newFence).counters.returnedFenceId ≤ newFence := by
  simp only [vidschiUpdateFenceId]
  split
  · exact BitVec.le_refl _
  · exact within

/-- A check lets time pass, and a fence it finds back is in the slot. -/
theorem isFenceBack_progress (sound : fences.Sound) (engine : Nat) (fenceId arrived : U64)
    : fences.Progress (fences.isFenceBack engine fenceId arrived).1
      ∧ ((fences.isFenceBack engine fenceId arrived).2
        → fenceId ≤ (fences.isFenceBack engine fenceId arrived).1.slot engine) := by
  simp only [isFenceBack, vidschIsFenceBack]
  generalize read : (if fences.slot engine < arrived then arrived else fences.slot engine)
    = newFence
  have grows : fences.slot engine ≤ newFence := by
    rw [← read]
    split
    · next later => exact BitVec.le_of_lt later
    · exact BitVec.le_refl _
  have arrival := slot_progress sound grows
  have taken : (vidschiUpdateFenceId (fences.counters engine) newFence).counters.returnedFenceId
      ≤ Function.update fences.slot engine newFence engine := by
    rw [Function.update_self]
    exact vidschiUpdateFenceId_le (BitVec.le_trans (sound engine) grows)
  refine ⟨arrival.trans (counters_progress arrival.sound engine taken), fun back => ?_⟩
  exact BitVec.le_trans (of_decide_eq_true back) taken

/-- A wait ends with the fence in the slot, by induction on the arrivals. -/
theorem vidschWaitFenceBack_progress {engine : Nat} {fenceId : U64}
    {arrivals rest : List U64} (sound : fences.Sound)
    (returned : vidschWaitFenceBack engine fenceId arrivals fences = some (last, rest))
    : fences.Progress last ∧ fenceId ≤ last.slot engine := by
  induction arrivals generalizing fences with
  | nil => cases returned
  | cons arrived arrivals ih =>
      obtain ⟨progress, inSlot⟩ := isFenceBack_progress sound engine fenceId arrived
      rw [vidschWaitFenceBack] at returned
      generalize fences.isFenceBack engine fenceId arrived = checked
        at progress inSlot returned
      obtain ⟨middle, back⟩ := checked
      cases back with
      | true =>
          obtain ⟨rfl, rfl⟩ := Prod.mk.inj (Option.some.inj returned)
          exact ⟨progress, inSlot rfl⟩
      | false =>
          obtain ⟨later, inSlot⟩ := ih progress.sound returned
          exact ⟨progress.trans later, inSlot⟩

end EngineFences

-----------------------------------------------------------------------------------------
-- Idle checks
-----------------------------------------------------------------------------------------

namespace VmIdObj

/-- Every fence the bitmap stands for is in its slot. -/
def Returned (obj : VmIdObj) (fences : EngineFences) : Prop :=
  ∀ engine, obj.bitmap.getLsbD engine → obj.lastFlush engine ≤ fences.slot engine

/-- The last flush fences are as they were, and only bits of the bitmap are gone, each of
them with its fence in the slot.
-/
structure Cleared (obj cleared : VmIdObj) (fences : EngineFences) : Prop where
  flush : cleared.lastFlush = obj.lastFlush
  kept : ∀ engine, obj.bitmap.getLsbD engine
    → cleared.bitmap.getLsbD engine ∨ obj.lastFlush engine ≤ fences.slot engine

variable {obj middle last : VmIdObj} {fences later : EngineFences}

/-- Nothing need be cleared. -/
theorem Cleared.refl (obj : VmIdObj) (fences : EngineFences) : obj.Cleared obj fences :=
  ⟨rfl, fun _ set => .inl set⟩

/-- Clearing goes on as time passes. -/
theorem Cleared.trans (first : obj.Cleared middle fences)
    (second : middle.Cleared last later) (progress : fences.Progress later)
    : obj.Cleared last later := by
  refine ⟨second.flush.trans first.flush, ?_⟩
  intro engine set
  rcases first.kept engine set with still | inSlot
  · rw [← first.flush]
    exact second.kept engine still
  · exact .inr (BitVec.le_trans inSlot (progress.later engine))

/-- An object that was idle after some clearing was idle before: its fences had returned. -/
theorem Cleared.returned (cleared : obj.Cleared last fences)
    (returned : last.Returned later) (progress : fences.Progress later)
    : obj.Returned later := by
  intro engine set
  rcases cleared.kept engine set with still | inSlot
  · rw [← cleared.flush]
    exact returned engine still
  · exact BitVec.le_trans inSlot (progress.later engine)

/-- One bit may go once its fence is in the slot. -/
theorem cleared_zxClearBit {engine : Nat} (inSlot : obj.lastFlush engine ≤ fences.slot engine)
    : obj.Cleared { obj with bitmap := zxClearBit engine obj.bitmap } fences := by
  refine ⟨rfl, ?_⟩
  intro other set
  by_cases same : engine = other
  · subst same
    exact .inr inSlot
  · refine .inl ?_
    simp [set, same]

end VmIdObj

/-- What a check may do to its object and to the fences. -/
structure IdleCheck.Cleared (before after : IdleCheck) : Prop where
  progress : before.fences.Progress after.fences
  obj : before.obj.Cleared after.obj after.fences

/-- Checks follow one another. -/
theorem IdleCheck.Cleared.trans {first middle last : IdleCheck}
    (earlier : first.Cleared middle) (later : middle.Cleared last)
    : first.Cleared last :=
  ⟨earlier.progress.trans later.progress, earlier.obj.trans later.obj later.progress⟩

/-- The idle check clears bits, and an idle object has no fence out, by induction on the
bits below `position`.
-/
theorem isVmIdIdleBelow_cleared (bitmap : U32) (position : Nat) {check : IdleCheck}
    (sound : check.fences.Sound)
    : check.Cleared (isVmIdIdleBelow bitmap position check).1
      ∧ ((isVmIdIdleBelow bitmap position check).2
        → ∀ engine < position, bitmap.getLsbD engine
          → check.obj.lastFlush engine
            ≤ (isVmIdIdleBelow bitmap position check).1.fences.slot engine) := by
  induction position generalizing check with
  | zero =>
      exact ⟨⟨.refl sound, .refl _ _⟩, fun _ engine impossible => by omega⟩
  | succ engineIndex ih =>
      rw [isVmIdIdleBelow]
      by_cases set : bitmap.getLsbD engineIndex
      · obtain ⟨progress, inSlot⟩ := EngineFences.isFenceBack_progress sound engineIndex
          (check.obj.lastFlush engineIndex) (check.arrivals.headD 0)
        rw [if_pos set]
        generalize check.fences.isFenceBack engineIndex (check.obj.lastFlush engineIndex)
          (check.arrivals.headD 0) = checked at progress inSlot ⊢
        obtain ⟨middle, back⟩ := checked
        cases back with
        | true =>
            let cleared : IdleCheck :=
              { obj := { check.obj with bitmap := zxClearBit engineIndex check.obj.bitmap }
                fences := middle
                arrivals := check.arrivals.tail }
            have one : check.Cleared cleared :=
              ⟨progress, VmIdObj.cleared_zxClearBit (inSlot rfl)⟩
            obtain ⟨rest, idle⟩ := @ih cleared progress.sound
            refine ⟨one.trans rest, ?_⟩
            intro found engine below engineSet
            by_cases here : engine = engineIndex
            · subst here
              exact BitVec.le_trans (inSlot rfl) (rest.progress.later engine)
            · exact idle found engine (by omega) engineSet
        | false => exact ⟨⟨progress, .refl _ _⟩, fun impossible => by cases impossible⟩
      · rw [if_neg set]
        obtain ⟨rest, idle⟩ := ih sound
        refine ⟨rest, ?_⟩
        intro found engine below engineSet
        by_cases here : engine = engineIndex
        · subst here
          exact absurd engineSet set
        · exact idle found engine (by omega) engineSet

/-- An object found idle over all engines had no fence out. -/
theorem vidschiIsVmIdIdle_cleared (check : IdleCheck) (sound : check.fences.Sound)
    : let (after, idle) := vidschiIsVmIdIdle check (BitVec.allOnes 32)
      check.Cleared after ∧ (idle → check.obj.Returned after.fences) := by
  obtain ⟨cleared, returned⟩ := isVmIdIdleBelow_cleared
    (check.obj.bitmap &&& BitVec.allOnes 32) 32 sound
  refine ⟨cleared, ?_⟩
  intro idle engine set
  refine returned idle engine (BitVec.lt_of_getLsbD set) ?_
  simp only [BitVec.and_allOnes, set]

/-- A wait only clears bits of returned fences, by induction on the bits. -/
theorem waitVmIdIdleBelow_cleared {bitmap : U32} {position : Nat} {check after : IdleCheck}
    (sound : check.fences.Sound) (waited : waitVmIdIdleBelow bitmap position check = some after)
    : check.Cleared after := by
  induction position generalizing check with
  | zero =>
      obtain rfl := Option.some.inj waited
      exact ⟨.refl sound, .refl _ _⟩
  | succ engineIndex ih =>
      rw [waitVmIdIdleBelow] at waited
      split at waited
      · obtain ⟨⟨fences, arrivals⟩, back, rest⟩ := Option.bind_eq_some_iff.mp waited
        obtain ⟨progress, inSlot⟩ := EngineFences.vidschWaitFenceBack_progress sound back
        have one : check.Cleared ⟨_, fences, arrivals⟩ :=
          ⟨progress, VmIdObj.cleared_zxClearBit inSlot⟩
        exact one.trans (ih progress.sound rest)
      · exact ih sound waited

-----------------------------------------------------------------------------------------
-- The search for an idle object
-----------------------------------------------------------------------------------------

/-- What a search may do to the objects and to the fences. -/
structure IdleSearch.Cleared (before after : IdleSearch) : Prop where
  progress : before.fences.Progress after.fences
  objs : ∀ index, (before.vmIdArray index).Cleared (after.vmIdArray index) after.fences

/-- Searches follow one another. -/
theorem IdleSearch.Cleared.trans {first middle last : IdleSearch}
    (earlier : first.Cleared middle) (later : middle.Cleared last)
    : first.Cleared last :=
  ⟨earlier.progress.trans later.progress,
    fun index => (earlier.objs index).trans (later.objs index) later.progress⟩

/-- Only the checked object changes. -/
theorem IdleSearch.cleared_update {search : IdleSearch} {index : Nat} {check : IdleCheck}
    (cleared : (search.check index).Cleared check)
    : search.Cleared (search.update index check) := by
  refine ⟨cleared.progress, ?_⟩
  intro other
  by_cases same : other = index
  · subst same
    simp only [update, Function.update_self]
    exact cleared.obj
  · simp only [update, Function.update_of_ne same]
    exact .refl _ _

/-- The first idle object is one of the list, and none of its fences was out, by induction
on the list.
-/
theorem firstIdle_cleared (list : List Nat) {search : IdleSearch}
    (sound : search.fences.Sound)
    : let (after, found) := firstIdle list search
      search.Cleared after
      ∧ ∀ index ∈ found,
          index ∈ list ∧ (search.vmIdArray index).Returned after.fences := by
  induction list generalizing search with
  | nil => exact ⟨⟨.refl sound, fun _ => .refl _ _⟩, fun index impossible => by cases impossible⟩
  | cons head rest ih =>
      have one := vidschiIsVmIdIdle_cleared (search.check head) sound
      rw [firstIdle]
      generalize vidschiIsVmIdIdle (search.check head) (BitVec.allOnes 32) = checked at one ⊢
      obtain ⟨check, idle⟩ := checked
      obtain ⟨cleared, returned⟩ := one
      have updated := IdleSearch.cleared_update cleared
      cases idle with
      | true =>
          refine ⟨updated, ?_⟩
          intro index found
          obtain rfl := Option.some.inj found
          exact ⟨List.mem_cons_self, returned rfl⟩
      | false =>
          obtain ⟨later, idle⟩ := ih updated.progress.sound
          refine ⟨updated.trans later, ?_⟩
          intro index found
          obtain ⟨member, returned⟩ := idle index found
          exact ⟨List.mem_cons_of_mem _ member,
            (updated.objs index).returned returned later.progress⟩

/-- The search ends with an object of the list none of whose fences was out, by induction
on its rounds.
-/
theorem findIdle_cleared (list : List Nat) (rounds : Nat) {search after : IdleSearch}
    {index : Nat} (sound : search.fences.Sound)
    (found : findIdle list rounds search = some (after, index))
    : search.Cleared after
      ∧ index ∈ list ∧ (search.vmIdArray index).Returned after.fences := by
  induction rounds generalizing search with
  | zero => cases found
  | succ rounds ih =>
      have scanned := firstIdle_cleared list sound
      rw [findIdle] at found
      generalize firstIdle list search = scan at scanned found
      obtain ⟨middle, result⟩ := scan
      obtain ⟨cleared, returned⟩ := scanned
      cases result with
      | some chosen =>
          obtain ⟨rfl, rfl⟩ := Prod.mk.inj (Option.some.inj found)
          exact ⟨cleared, returned chosen rfl⟩
      | none =>
          obtain ⟨first, _, found⟩ := Option.bind_eq_some_iff.mp found
          obtain ⟨check, waited, found⟩ := Option.bind_eq_some_iff.mp found
          have updated := IdleSearch.cleared_update
            (waitVmIdIdleBelow_cleared cleared.progress.sound waited)
          obtain ⟨later, member, returned⟩ := ih updated.progress.sound found
          have earlier := cleared.trans updated
          exact ⟨earlier.trans later, member,
            (earlier.objs index).returned returned later.progress⟩

/-- A wait leaves no bit it was started for, by induction on the bits. -/
theorem waitVmIdIdleBelow_bitmap {bitmap : U32} {position : Nat} {check after : IdleCheck}
    (waited : waitVmIdIdleBelow bitmap position check = some after)
    : ∀ engine, after.obj.bitmap.getLsbD engine
      → check.obj.bitmap.getLsbD engine ∧ ¬ (engine < position ∧ bitmap.getLsbD engine) := by
  intro engine still
  induction position generalizing check with
  | zero =>
      obtain rfl := Option.some.inj waited
      exact ⟨still, fun inside => absurd inside.1 (Nat.not_lt_zero _)⟩
  | succ engineIndex ih =>
      rw [waitVmIdIdleBelow] at waited
      split at waited
      · obtain ⟨⟨fences, arrivals⟩, _, rest⟩ := Option.bind_eq_some_iff.mp waited
        obtain ⟨set, outside⟩ := ih rest
        simp only [getLsbD_zxClearBit, Bool.and_eq_true, Bool.not_eq_true',
          decide_eq_false_iff_not] at set
        exact ⟨set.1, fun inside => outside ⟨by omega, inside.2⟩⟩
      · next unset =>
          obtain ⟨set, outside⟩ := ih waited
          refine ⟨set, fun inside => ?_⟩
          by_cases here : engine = engineIndex
          · exact unset (here ▸ inside.2)
          · exact outside ⟨by omega, inside.2⟩

/-- An object without bits is idle, by induction on the bits. -/
theorem isVmIdIdleBelow_of_unset {bitmap : U32} {position : Nat} {check : IdleCheck}
    (unset : ∀ engine, bitmap.getLsbD engine = false)
    : isVmIdIdleBelow bitmap position check = (check, true) := by
  induction position with
  | zero => rfl
  | succ engineIndex ih =>
      rw [isVmIdIdleBelow, if_neg (by simp only [unset engineIndex, Bool.false_eq_true,
        not_false_eq_true]), ih]

/-- After a wait for the first object of the list, it is found idle in the next round. So
the search never needs a third round.
-/
theorem findIdle_rounds (list : List Nat) (rounds : Nat) (search : IdleSearch)
    : findIdle list (rounds + 2) search = findIdle list 2 search := by
  have second (first : Nat) (others : List Nat) (more : Nat) (search : IdleSearch)
      (check : IdleCheck)
      (waited : vidschiWaitVmIdIdle (search.check first) (BitVec.allOnes 32) = some check)
      : findIdle (first :: others) (more + 1) (search.update first check)
        = findIdle (first :: others) 1 (search.update first check) := by
    have unset (engine : Nat) : check.obj.bitmap.getLsbD engine = false := by
      by_contra set
      rw [Bool.not_eq_false] at set
      obtain ⟨before, outside⟩ := waitVmIdIdleBelow_bitmap waited engine set
      refine outside ⟨BitVec.lt_of_getLsbD set, ?_⟩
      rw [BitVec.and_allOnes]
      exact before
    have idle : vidschiIsVmIdIdle ((search.update first check).check first)
        (BitVec.allOnes 32) = ((search.update first check).check first, true) := by
      refine isVmIdIdleBelow_of_unset fun engine => ?_
      simp only [IdleSearch.check, IdleSearch.update, Function.update_self,
        BitVec.and_allOnes, unset]
    simp only [findIdle, firstIdle, idle, if_true]
  rw [findIdle, findIdle]
  generalize firstIdle list search = scan
  obtain ⟨middle, found⟩ := scan
  cases found with
  | some index => rfl
  | none =>
      cases list with
      | nil => rfl
      | cons first others =>
          simp only [List.head?_cons, Option.bind_eq_bind, Option.bind_some]
          cases waited : vidschiWaitVmIdIdle (middle.check first) (BitVec.allOnes 32) with
          | none => rfl
          | some check => exact second first others rounds middle check waited

-----------------------------------------------------------------------------------------
-- One call
-----------------------------------------------------------------------------------------

/-- Taking an object moves it to the tail of the list and points the device to it. Bitmaps
and last flush fences stay.
-/
theorem takeVmId_eq (mgr : VmIdMgr) (device : Device) (fences : EngineFences) (index : Nat)
    : let chosen := takeVmId mgr device fences index
      chosen.index = index
      ∧ chosen.fences = fences
      ∧ chosen.device = { device with vmId := some index }
      ∧ chosen.mgr.numIds = mgr.numIds
      ∧ chosen.mgr.reservedNumIds = mgr.reservedNumIds
      ∧ chosen.mgr.vmIdList
        = (if index ≠ 0 then mgr.vmIdList.erase index ++ [index] else mgr.vmIdList)
      ∧ ∀ other, (mgr.vmIdArray other).Cleared (chosen.mgr.vmIdArray other) fences := by
  have pointed (same : ¬ device.vmId ≠ some index) : device = { device with vmId := some index } := by
    rw [← not_not.mp same]
  have updated (other : Nat)
      : (mgr.vmIdArray other).Cleared
          (Function.update mgr.vmIdArray index
            { mgr.vmIdArray index with deviceUuid := device.uuid, pdAge := 0 } other) fences := by
    by_cases same : other = index
    · subst same
      rw [Function.update_self]
      exact ⟨rfl, fun _ set => .inl set⟩
    · rw [Function.update_of_ne same]
      exact .refl _ _
  simp only [takeVmId]
  by_cases listed : index ≠ 0
  · simp only [if_pos listed]
    split
    · exact ⟨rfl, rfl, rfl, rfl, rfl, rfl, updated⟩
    · next same =>
        exact ⟨rfl, rfl, pointed fun differs => same (.inl differs), rfl, rfl, rfl,
          fun _ => .refl _ _⟩
  · simp only [if_neg listed]
    split
    · exact ⟨rfl, rfl, rfl, rfl, rfl, rfl, updated⟩
    · next same =>
        exact ⟨rfl, rfl, pointed fun differs => same (.inl differs), rfl, rfl, rfl,
          fun _ => .refl _ _⟩

namespace VmIdState

variable {state : VmIdState} {deviceIndex : Nat} {device : Device} {arrivals : List U64}
  {chosen : ChosenVmId}

/-- Where a call takes its object from: the reserved device has the first one, a device that
was not robbed keeps its own, and any other one gets an idle object of the list.
-/
inductive Source (state : VmIdState) (deviceIndex : Nat) (device : Device)
    (chosen : ChosenVmId) : Prop where
  | reserved (first : deviceIndex = 0) (zero : chosen.index = 0)
  | own (other : deviceIndex ≠ 0) (pointed : device.vmId = some chosen.index)
      (owner : (state.mgr.vmIdArray chosen.index).deviceUuid = device.uuid)
  | idle (other : deviceIndex ≠ 0) (member : chosen.index ∈ state.mgr.vmIdList)
      (returned : (state.mgr.vmIdArray chosen.index).Returned chosen.fences)

/-- What a call does to the manager, the fences and its device. -/
structure Chooses (state : VmIdState) (deviceIndex : Nat) (device : Device)
    (chosen : ChosenVmId) : Prop where
  source : state.Source deviceIndex device chosen
  progress : state.fences.Progress chosen.fences
  objs : ∀ index, (state.mgr.vmIdArray index).Cleared (chosen.mgr.vmIdArray index) chosen.fences
  device_eq : chosen.device = { device with vmId := some chosen.index }
  reserved_eq : chosen.mgr.reservedNumIds = state.mgr.reservedNumIds
  num_eq : chosen.mgr.numIds = state.mgr.numIds
  list_eq : chosen.mgr.vmIdList
    = if chosen.index ≠ 0 then state.mgr.vmIdList.erase chosen.index ++ [chosen.index]
      else state.mgr.vmIdList

/-- `vidschi_choose_vm_id_004`, by cases on the object the device owns. -/
theorem choose_spec (sound : state.fences.Sound) (found : state.devices[deviceIndex]? = some device)
    (call : state.choose deviceIndex arrivals = some chosen)
    : state.Chooses deviceIndex device chosen := by
  simp only [choose, found, Option.bind_some, vidschiChooseVmId004] at call
  cases owned : ownVmId state.mgr device (deviceIndex = 0) with
  | some index =>
      rw [owned] at call
      obtain rfl := Option.some.inj call
      obtain ⟨index_eq, fences_eq, device_eq, num_eq, reserved_eq, list_eq, objs⟩ :=
        takeVmId_eq state.mgr device state.fences index
      refine ⟨?_, ?_, ?_, ?_, reserved_eq, num_eq, ?_⟩
      · by_cases first : deviceIndex = 0
        · simp only [ownVmId, first, decide_true, if_true] at owned
          exact .reserved first (index_eq.trans (Option.some.inj owned).symm)
        · simp only [ownVmId, first, decide_false, Bool.false_eq_true, if_false,
            Option.filter_eq_some_iff, decide_eq_true_eq] at owned
          rw [← index_eq] at owned
          exact .own first owned.1 owned.2
      · rw [fences_eq]
        exact .refl sound
      · rw [fences_eq]
        exact objs
      · rw [index_eq, device_eq]
      · rw [index_eq, list_eq]
  | none =>
      rw [owned] at call
      obtain ⟨⟨search, index⟩, searched, call⟩ := Option.bind_eq_some_iff.mp call
      obtain rfl := Option.some.inj call
      obtain ⟨cleared, member, returned⟩ := findIdle_cleared _ _ (by exact sound) searched
      obtain ⟨index_eq, fences_eq, device_eq, num_eq, reserved_eq, list_eq, objs⟩ :=
        takeVmId_eq { state.mgr with vmIdArray := search.vmIdArray } device search.fences index
      have other : deviceIndex ≠ 0 := by
        intro first
        simp [ownVmId, first] at owned
      refine ⟨?_, ?_, ?_, ?_, reserved_eq, num_eq, ?_⟩
      · refine .idle other (by rw [index_eq]; exact member) ?_
        rw [index_eq, fences_eq]
        exact returned
      · rw [fences_eq]
        exact cleared.progress
      · intro index
        rw [fences_eq]
        exact (cleared.objs index).trans (objs index) (.refl cleared.progress.sound)
      · rw [index_eq, device_eq]
      · rw [index_eq, list_eq]

-----------------------------------------------------------------------------------------
-- What every run keeps
-----------------------------------------------------------------------------------------

/-- A task's fence is in its slot, or its object still stands for it. -/
def Covers (state : VmIdState) (task : SubmittedTask) : Prop :=
  task.fenceId ≤ state.fences.slot task.engine
  ∨ (state.mgr.vmIdArray task.vmId).bitmap.getLsbD task.engine
    ∧ task.fenceId ≤ (state.mgr.vmIdArray task.vmId).lastFlush task.engine

/-- A device may point to `index`: the reserved one to the first object, any other one to
an object of the list.
-/
def MayPoint (state : VmIdState) (deviceIndex index : Nat) : Prop :=
  if deviceIndex = 0 then index = 0 else index ∈ state.mgr.vmIdList

/-- The invariant of the manager and its devices. -/
structure Managed (state : VmIdState) : Prop where
  reserved_pos : 0 < state.mgr.reservedNumIds
  sound : state.fences.Sound
  listed : state.mgr.vmIdList.Perm
    (List.range' state.mgr.reservedNumIds (state.mgr.numIds - state.mgr.reservedNumIds))
  uuids : (state.devices.map Device.uuid).Nodup
  uuid_le : ∀ device ∈ state.devices, device.uuid ≤ state.deviceUuid
  points : ∀ deviceIndex device index, state.devices[deviceIndex]? = some device
    → device.vmId = some index → state.MayPoint deviceIndex index
  submitted : ∀ task ∈ state.tasks, task.fenceId ≤ state.lastFence task.engine
  covered : ∀ task ∈ state.tasks, state.Covers task
  private_zero : ∀ task ∈ state.tasks, task.vmId = 0 → task.device = 0

/-- The objects of the list are not the reserved one. -/
theorem Managed.ne_zero (managed : state.Managed) {index : Nat}
    (member : index ∈ state.mgr.vmIdList)
    : index ≠ 0 := by
  have reserved := managed.reserved_pos
  have inRange := managed.listed.mem_iff.mp member
  rw [List.mem_range'_1] at inRange
  omega

/-- The object a call takes is one its device may point to. -/
theorem Managed.chosen_mayPoint (managed : state.Managed)
    (found : state.devices[deviceIndex]? = some device)
    (chooses : state.Chooses deviceIndex device chosen)
    : state.MayPoint deviceIndex chosen.index := by
  cases chooses.source with
  | reserved first zero => simp only [MayPoint, first, if_true, zero]
  | own other pointed owner => exact managed.points deviceIndex device _ found pointed
  | idle other member returned => simpa only [MayPoint, if_neg other] using member

/-- A new manager has its invariant: no task, one device, and the objects in order. -/
theorem managed_start {totalVmIdNum reservedVmIdNum : Nat} {hwQueueSize : Nat → U32}
    (reserved : 0 < reservedVmIdNum)
    : (start totalVmIdNum reservedVmIdNum hwQueueSize).Managed where
  reserved_pos := reserved
  sound _ := BitVec.le_refl _
  listed := .refl _
  uuids := List.nodup_singleton _
  uuid_le device member := by
    obtain rfl := List.mem_singleton.mp member
    exact Nat.le_refl _
  points deviceIndex device index found pointed := by
    obtain rfl := List.mem_singleton.mp (List.mem_of_getElem? found)
    cases pointed
  submitted _ member := absurd member List.not_mem_nil
  covered _ member := absurd member List.not_mem_nil
  private_zero _ member := absurd member List.not_mem_nil

/-- Taking an object keeps the list a permutation and what devices may point to. -/
theorem Managed.list_perm (managed : state.Managed)
    (found : state.devices[deviceIndex]? = some device)
    (chooses : state.Chooses deviceIndex device chosen)
    : chosen.mgr.vmIdList.Perm state.mgr.vmIdList := by
  have mayPoint := managed.chosen_mayPoint found chooses
  rw [chooses.list_eq]
  split
  · next listed =>
      have member : chosen.index ∈ state.mgr.vmIdList := by
        simp only [MayPoint] at mayPoint
        split at mayPoint
        · exact absurd mayPoint listed
        · exact mayPoint
      exact List.perm_append_comm.trans (List.perm_cons_erase member).symm
  · exact .refl _

/-- The new task is covered by its own bit. -/
theorem addSync_covers {engine : Nat} {fenceId : U64} (inside : engine < maxEngineCount)
    : (state.addSync deviceIndex engine fenceId chosen).Covers
        ⟨deviceIndex, chosen.index, engine, fenceId⟩ := by
  have narrow : engine < 32 := Nat.lt_trans inside (by decide)
  refine .inr ⟨?_, ?_⟩
  · simp [VmIdState.addSync, vidschiVmIdAddSync, narrow]
  · simp [VmIdState.addSync, vidschiVmIdAddSync]

/-- A covered task stays covered: where its bit is cleared, its fence is in the slot, and a
newer task of its engine on the same object comes with a later fence.
-/
theorem Covers.addSync {task : SubmittedTask} (covered : state.Covers task) {engine : Nat}
    {fenceId : U64} (chooses : state.Chooses deviceIndex device chosen)
    (increasing : task.vmId = chosen.index → task.engine = engine → task.fenceId ≤ fenceId)
    : (state.addSync deviceIndex engine fenceId chosen).Covers task := by
  rcases covered with inSlot | ⟨set, flushed⟩
  · exact .inl (BitVec.le_trans inSlot (chooses.progress.later task.engine))
  · have flush := (chooses.objs task.vmId).flush
    rcases (chooses.objs task.vmId).kept task.engine set with still | inSlot
    · refine .inr ?_
      simp only [VmIdState.addSync, vidschiVmIdAddSync]
      rw [Function.update_apply]
      by_cases sameObj : task.vmId = chosen.index
      · rw [sameObj] at still flush flushed
        simp only [if_pos sameObj, getLsbD_zxSetBit, still, Bool.true_or, true_and,
          Function.update_apply, flush]
        split
        · next sameEngine => exact increasing sameObj sameEngine
        · exact flushed
      · simp only [if_neg sameObj, still, true_and, flush, flushed]
    · exact .inl (BitVec.le_trans flushed inSlot)

/-- The pair of calls keeps the invariant. Fence ids increase, so the new last flush fence
stands for the older tasks of its engine as well.
-/
theorem Managed.addSync (managed : state.Managed) {engine : Nat} {fenceId : U64}
    (inside : engine < maxEngineCount) (increasing : state.lastFence engine < fenceId)
    (found : state.devices[deviceIndex]? = some device)
    (chooses : state.Chooses deviceIndex device chosen)
    : (state.addSync deviceIndex engine fenceId chosen).Managed := by
  have mayPoint := managed.chosen_mayPoint found chooses
  have perm := managed.list_perm found chooses
  have bound := (List.getElem?_eq_some_iff.mp found).1
  constructor
  · exact chooses.reserved_eq ▸ managed.reserved_pos
  · exact chooses.progress.sound
  · have listed := perm.trans managed.listed
    rw [← chooses.reserved_eq, ← chooses.num_eq] at listed
    exact listed
  · have same : (state.devices.set deviceIndex chosen.device).map Device.uuid
        = state.devices.map Device.uuid := by
      rw [List.map_set, chooses.device_eq]
      apply List.ext_getElem?
      intro other
      rw [List.getElem?_set]
      split
      · next here =>
          subst here
          simp only [List.length_map, bound, if_true, List.getElem?_map, found, Option.map_some]
      · rfl
    have uuids := managed.uuids
    rw [← same] at uuids
    exact uuids
  · intro other member
    rcases List.mem_or_eq_of_mem_set member with old | new
    · exact managed.uuid_le other old
    · rw [new, chooses.device_eq]
      exact managed.uuid_le device (List.mem_of_getElem? found)
  · intro otherIndex other index otherFound pointed
    have there : state.MayPoint otherIndex index := by
      simp only [VmIdState.addSync, List.getElem?_set] at otherFound
      split at otherFound
      · next here =>
          subst here
          obtain rfl := Option.some.inj otherFound
          rw [chooses.device_eq] at pointed
          obtain rfl := Option.some.inj pointed
          exact mayPoint
      · exact managed.points otherIndex other index otherFound pointed
    simp only [MayPoint, VmIdState.addSync, perm.mem_iff] at there ⊢
    exact there
  · intro task member
    simp only [VmIdState.addSync, Function.update_apply]
    rcases List.mem_cons.mp member with rfl | old
    · rw [if_pos rfl]
      exact BitVec.le_refl _
    · have earlier := managed.submitted task old
      split
      · next same =>
          rw [same] at earlier
          exact BitVec.le_trans earlier (BitVec.le_of_lt increasing)
      · exact earlier
  · intro task member
    rcases List.mem_cons.mp member with rfl | old
    · exact addSync_covers inside
    · exact (managed.covered task old).addSync chooses
        fun _ same => BitVec.le_trans (same ▸ managed.submitted task old)
          (BitVec.le_of_lt increasing)
  · intro task member zero
    rcases List.mem_cons.mp member with rfl | old
    · by_contra other
      simp only [MayPoint, if_neg other] at mayPoint
      exact managed.ne_zero mayPoint zero
    · exact managed.private_zero task old zero

/-- Time passing elsewhere keeps the invariant, since it only concerns the fences. -/
theorem Managed.withFences (managed : state.Managed) {fences : EngineFences}
    (progress : state.fences.Progress fences)
    : ({ state with fences := fences } : VmIdState).Managed where
  reserved_pos := managed.reserved_pos
  sound := progress.sound
  listed := managed.listed
  uuids := managed.uuids
  uuid_le := managed.uuid_le
  points := managed.points
  submitted := managed.submitted
  covered task member :=
    (managed.covered task member).imp_left
      fun inSlot => BitVec.le_trans inSlot (progress.later task.engine)
  private_zero := managed.private_zero

/-- A new device points nowhere and has a new uuid. -/
theorem Managed.createDevice (managed : state.Managed)
    : ({ state with
          deviceUuid := state.deviceUuid + 1
          devices := state.devices ++ [⟨state.deviceUuid + 1, none⟩] } : VmIdState).Managed where
  reserved_pos := managed.reserved_pos
  sound := managed.sound
  listed := managed.listed
  uuids := by
    rw [List.map_append]
    refine List.nodup_append.mpr ⟨managed.uuids, List.nodup_singleton _, ?_⟩
    intro uuid old fresh new same
    obtain ⟨device, member, rfl⟩ := List.mem_map.mp old
    have le := managed.uuid_le device member
    rw [List.mem_singleton.mp new] at same
    exact absurd (same ▸ le) (Nat.not_succ_le_self _)
  uuid_le device member := by
    rcases List.mem_append.mp member with old | new
    · exact Nat.le_succ_of_le (managed.uuid_le device old)
    · rw [List.mem_singleton.mp new]
  points deviceIndex device index found pointed := by
    simp only [List.getElem?_append] at found
    split at found
    · exact managed.points deviceIndex device index found pointed
    · obtain rfl := List.mem_singleton.mp (List.mem_of_getElem? found)
      cases pointed
  submitted := managed.submitted
  covered := managed.covered
  private_zero := managed.private_zero

/-- A step of another user of the fence counters never takes over more than the slot. -/
theorem after_within_slot {counters : FenceCounters} {slot : U64} {action : FenceAction}
    (within : counters.returnedFenceId ≤ slot) (reads : action.Reads slot)
    : (counters.after action).returnedFenceId ≤ slot := by
  cases action with
  | incSendFenceId => exact within
  | updateFenceId newFence =>
      obtain rfl := reads
      exact EngineFences.vidschiUpdateFenceId_le within
  | isFenceBack newFence fenceId =>
      obtain rfl := reads
      exact EngineFences.vidschiUpdateFenceId_le within
  | canPrepareDmaTask newFence waitDmaFence =>
      obtain rfl := reads
      simp only [FenceCounters.after, vidschiCanPrepareDmaTask]
      repeat' split
      all_goals exact BitVec.le_refl _

/-- Every step keeps the invariant, by cases on the step. -/
theorem Managed.next {after : VmIdState} {action : VmIdAction} (managed : state.Managed)
    (taken : state.next action = some after)
    : after.Managed := by
  cases action with
  | createDevice =>
      obtain rfl := Option.some.inj taken
      exact managed.createDevice
  | chooseVmId deviceIndex engine fenceId arrivals =>
      simp only [VmIdState.next, Option.ite_none_right_eq_some, Option.map_eq_some_iff] at taken
      obtain ⟨⟨inside, increasing⟩, chosen, call, rfl⟩ := taken
      obtain ⟨device, found, _⟩ := Option.bind_eq_some_iff.mp call
      exact managed.addSync inside increasing found (choose_spec managed.sound found call)
  | fenceArrives engine fenceId =>
      simp only [VmIdState.next, Option.ite_none_right_eq_some, Option.some.injEq] at taken
      obtain ⟨later, rfl⟩ := taken
      exact managed.withFences (EngineFences.slot_progress managed.sound later)
  | useFence engine action =>
      simp only [VmIdState.next, Option.ite_none_right_eq_some, Option.some.injEq] at taken
      obtain ⟨reads, rfl⟩ := taken
      exact managed.withFences (EngineFences.counters_progress managed.sound engine
        (after_within_slot (managed.sound engine) reads))

/-- Every reachable state has the invariant. -/
theorem managed_of_reachable (reached : system.Reachable state) : state.Managed := by
  apply reached.invariant
  · intro first begins
    obtain ⟨totalVmIdNum, reservedVmIdNum, hwQueueSize, reserved, rfl⟩ := begins
    exact managed_start reserved
  · intro before action after managed taken
    exact managed.next taken

/-- The device at `deviceIndex` uses the object `index` as its own. -/
def Owns (state : VmIdState) (deviceIndex index : Nat) : Prop :=
  ∃ device, state.devices[deviceIndex]? = some device
    ∧ device.vmId = some index
    ∧ (state.mgr.vmIdArray index).deviceUuid = device.uuid

/-- In every reachable state no two devices own one object, the list holds the objects that
are not reserved, and a call that gives an object to another device finds the fences of
all tasks that other devices submitted with it returned.
-/
theorem vmId_exclusive (reached : system.Reachable state)
    : (∀ first second index, state.Owns first index → state.Owns second index → first = second)
      ∧ state.mgr.vmIdList.Perm
          (List.range' state.mgr.reservedNumIds (state.mgr.numIds - state.mgr.reservedNumIds))
      ∧ ∀ deviceIndex device arrivals chosen, state.devices[deviceIndex]? = some device
        → state.choose deviceIndex arrivals = some chosen
        → (state.mgr.vmIdArray chosen.index).deviceUuid ≠ device.uuid
        → ∀ task ∈ state.tasks, task.vmId = chosen.index → task.device ≠ deviceIndex
          → task.fenceId ≤ chosen.fences.slot task.engine := by
  have managed := managed_of_reachable reached
  refine ⟨?_, managed.listed, ?_⟩
  · intro first second index firstOwns secondOwns
    obtain ⟨device, found, _, owner⟩ := firstOwns
    obtain ⟨other, otherFound, _, otherOwner⟩ := secondOwns
    have bound : first < (state.devices.map Device.uuid).length := by
      rw [List.length_map]
      exact (List.getElem?_eq_some_iff.mp found).1
    refine (List.getElem?_inj bound managed.uuids).mp ?_
    simp only [List.getElem?_map, found, otherFound, Option.map_some, ← owner, otherOwner]
  · intro deviceIndex device arrivals chosen found call stolen task member sameObj otherDevice
    have chooses := choose_spec managed.sound found call
    cases chooses.source with
    | reserved first zero =>
        rw [first] at otherDevice
        exact absurd (managed.private_zero task member (sameObj.trans zero)) otherDevice
    | own _ _ owner => exact absurd owner stolen
    | idle _ _ returned =>
        rcases managed.covered task member with inSlot | ⟨set, flushed⟩
        · exact BitVec.le_trans inSlot (chooses.progress.later task.engine)
        · rw [sameObj] at set flushed
          exact BitVec.le_trans flushed (returned task.engine set)

/-- Two devices that share the only object that is not reserved, one after the other. -/
def handedOver : Option VmIdState :=
  System.replay next (start 2 1 fun _ => 8)
    [.createDevice, .createDevice, .chooseVmId 1 0 1 [], .chooseVmId 2 3 1 [0, 1]]

/-- The second device has to wait for the fence of the first one. -/
theorem handedOver_isSome : handedOver.isSome := by decide

/-- At most one of the two devices owns the object. -/
theorem vmId_exclusive_handedOver
    : ¬ ((handedOver.get handedOver_isSome).Owns 1 1
      ∧ (handedOver.get handedOver_isSome).Owns 2 1) := by
  intro both
  have reached : system.Reachable (handedOver.get handedOver_isSome) :=
    .replay _ ⟨2, 1, fun _ => 8, by decide, rfl⟩ (Option.some_get handedOver_isSome).symm
  exact absurd ((vmId_exclusive reached).1 1 2 1 both.1 both.2) (by decide)

end VmIdState

end Cx4Kernel.Vidsch
