import Cx4Kernel.Vidsch.VmIdSafety

/-! What looking for an idle vm id leaves alone: no engine sends a fence, and no object but
the chosen one changes its owner or the age of its page directory.
-/

namespace Cx4Kernel.Vidsch

open Cx4Kernel.Foundation

namespace EngineFences

/-- No engine has sent a fence in between. -/
def SameSent (before after : EngineFences) : Prop :=
  ∀ engine, (after.counters engine).lastSendFenceId = (before.counters engine).lastSendFenceId

variable {fences middle last : EngineFences}

/-- Sending nothing twice is sending nothing. -/
theorem SameSent.trans (first : fences.SameSent middle) (second : middle.SameSent last)
    : fences.SameSent last :=
  fun engine => (second engine).trans (first engine)

/-- An update of the returned fence sends none. -/
theorem vidschiUpdateFenceId_sent (counters : FenceCounters) (newFence : U64)
    : (vidschiUpdateFenceId counters newFence).counters.lastSendFenceId
      = counters.lastSendFenceId := by
  simp only [vidschiUpdateFenceId]
  split <;> rfl

/-- Checking a fence sends none. -/
theorem isFenceBack_sameSent (fences : EngineFences) (engine : Nat) (fenceId arrived : U64)
    : fences.SameSent (fences.isFenceBack engine fenceId arrived).1 := by
  intro other
  simp only [isFenceBack, vidschIsFenceBack, Function.update_apply]
  split
  · next same =>
      rw [same]
      exact vidschiUpdateFenceId_sent _ _
  · rfl

/-- Waiting for a fence sends none, by induction on the arrivals. -/
theorem vidschWaitFenceBack_sameSent {engine : Nat} {fenceId : U64} {arrivals rest : List U64}
    (returned : vidschWaitFenceBack engine fenceId arrivals fences = some (last, rest))
    : fences.SameSent last := by
  induction arrivals generalizing fences with
  | nil => cases returned
  | cons arrived arrivals ih =>
      have checked := isFenceBack_sameSent fences engine fenceId arrived
      simp only [vidschWaitFenceBack] at returned
      split at returned
      · obtain ⟨rfl, rfl⟩ := Prod.mk.inj (Option.some.inj returned)
        exact checked
      · exact checked.trans (ih returned)

end EngineFences

open EngineFences

/-- A check sends no fence and leaves the owner of its object. -/
structure IdleCheck.Kept (before after : IdleCheck) : Prop where
  sent : before.fences.SameSent after.fences
  owner : after.obj.deviceUuid = before.obj.deviceUuid
  age : after.obj.pdAge = before.obj.pdAge

/-- Checks follow one another. -/
theorem IdleCheck.Kept.trans {first middle last : IdleCheck} (earlier : first.Kept middle)
    (later : middle.Kept last)
    : first.Kept last :=
  ⟨earlier.sent.trans later.sent, later.owner.trans earlier.owner, later.age.trans earlier.age⟩

/-- The idle check keeps the owner, by induction on the bits. -/
theorem isVmIdIdleBelow_kept (bitmap : U32) (position : Nat) (check : IdleCheck)
    : check.Kept (isVmIdIdleBelow bitmap position check).1 := by
  induction position generalizing check with
  | zero => exact ⟨fun _ => rfl, rfl, rfl⟩
  | succ engineIndex ih =>
      have sent := isFenceBack_sameSent check.fences engineIndex
        (check.obj.lastFlush engineIndex) (check.arrivals.headD 0)
      simp only [isVmIdIdleBelow]
      split
      · split
        · refine IdleCheck.Kept.trans ?_ (ih _)
          exact ⟨sent, rfl, rfl⟩
        · exact ⟨sent, rfl, rfl⟩
      · exact ih check

/-- A wait keeps the owner, by induction on the bits. -/
theorem waitVmIdIdleBelow_kept {bitmap : U32} {position : Nat} {check after : IdleCheck}
    (waited : waitVmIdIdleBelow bitmap position check = some after)
    : check.Kept after := by
  induction position generalizing check with
  | zero =>
      obtain rfl := Option.some.inj waited
      exact ⟨fun _ => rfl, rfl, rfl⟩
  | succ engineIndex ih =>
      rw [waitVmIdIdleBelow] at waited
      split at waited
      · obtain ⟨⟨fences, arrivals⟩, back, rest⟩ := Option.bind_eq_some_iff.mp waited
        refine IdleCheck.Kept.trans ?_ (ih rest)
        exact ⟨vidschWaitFenceBack_sameSent back, rfl, rfl⟩
      · exact ih waited

/-- A search sends no fence and leaves the owners. -/
structure IdleSearch.Kept (before after : IdleSearch) : Prop where
  sent : before.fences.SameSent after.fences
  owner : ∀ index, (after.vmIdArray index).deviceUuid = (before.vmIdArray index).deviceUuid
  age : ∀ index, (after.vmIdArray index).pdAge = (before.vmIdArray index).pdAge

/-- Searches follow one another. -/
theorem IdleSearch.Kept.trans {first middle last : IdleSearch} (earlier : first.Kept middle)
    (later : middle.Kept last)
    : first.Kept last :=
  ⟨earlier.sent.trans later.sent, fun index => (later.owner index).trans (earlier.owner index),
    fun index => (later.age index).trans (earlier.age index)⟩

/-- Only the checked object changes. -/
theorem IdleSearch.kept_update {search : IdleSearch} {index : Nat} {check : IdleCheck}
    (kept : (search.check index).Kept check)
    : search.Kept (search.update index check) := by
  refine ⟨kept.sent, fun other => ?_, fun other => ?_⟩
  all_goals simp only [update, Function.update_apply]; split
  · next same =>
      rw [same]
      exact kept.owner
  · rfl
  · next same =>
      rw [same]
      exact kept.age
  · rfl

/-- Looking for the first idle object keeps the owners, by induction on the list. -/
theorem firstIdle_kept (list : List Nat) (search : IdleSearch)
    : search.Kept (firstIdle list search).1 := by
  induction list generalizing search with
  | nil => exact ⟨fun _ => rfl, fun _ => rfl, fun _ => rfl⟩
  | cons head rest ih =>
      have checked := isVmIdIdleBelow_kept
        ((search.check head).obj.bitmap &&& BitVec.allOnes 32) 32 (search.check head)
      rw [firstIdle, vidschiIsVmIdIdle]
      generalize isVmIdIdleBelow ((search.check head).obj.bitmap &&& BitVec.allOnes 32) 32
        (search.check head) = scanned at checked ⊢
      obtain ⟨check, idle⟩ := scanned
      have updated := IdleSearch.kept_update checked
      cases idle with
      | true => exact updated
      | false => exact updated.trans (ih (search.update head check))

/-- The search keeps the owners, by induction on its rounds. -/
theorem findIdle_kept {list : List Nat} {rounds : Nat} {search after : IdleSearch}
    {index : Nat} (found : findIdle list rounds search = some (after, index))
    : search.Kept after := by
  induction rounds generalizing search with
  | zero => cases found
  | succ rounds ih =>
      have scanned := firstIdle_kept list search
      rw [findIdle] at found
      generalize firstIdle list search = scan at scanned found
      obtain ⟨middle, result⟩ := scan
      cases result with
      | some chosen =>
          obtain ⟨rfl, rfl⟩ := Prod.mk.inj (Option.some.inj found)
          exact scanned
      | none =>
          obtain ⟨first, _, found⟩ := Option.bind_eq_some_iff.mp found
          obtain ⟨check, waited, found⟩ := Option.bind_eq_some_iff.mp found
          have updated := IdleSearch.kept_update (waitVmIdIdleBelow_kept waited)
          exact (scanned.trans updated).trans (ih found)

/-- The device has `index` as its own. -/
def ownsObj (mgr : VmIdMgr) (device : Device) (index : Nat) : Prop :=
  device.vmId = some index ∧ (mgr.vmIdArray index).deviceUuid = device.uuid

/-- The taken object belongs to the device, with a page directory of age 0 if it did not
before, and the others stay as they are.
-/
theorem takeVmId_owner (mgr : VmIdMgr) (device : Device) (fences : EngineFences) (index : Nat)
    : let obj := (takeVmId mgr device fences index).mgr.vmIdArray
      (obj index).deviceUuid = device.uuid
      ∧ (ownsObj mgr device index → (obj index).pdAge = (mgr.vmIdArray index).pdAge)
      ∧ (¬ ownsObj mgr device index → (obj index).pdAge = 0)
      ∧ ∀ other ≠ index, (obj other).deviceUuid = (mgr.vmIdArray other).deviceUuid
        ∧ (obj other).pdAge = (mgr.vmIdArray other).pdAge := by
  have array : (if index ≠ 0 then
        { mgr with vmIdList := mgr.vmIdList.erase index ++ [index] } else mgr).vmIdArray
      = mgr.vmIdArray := by
    split <;> rfl
  simp only [takeVmId, array, ownsObj]
  split
  · next differs =>
      simp only [Function.update_self, true_and, implies_true]
      refine ⟨fun own => ?_, fun other elsewhere => ?_⟩
      · rcases differs with pointer | owner
        · exact absurd own.1 pointer
        · exact absurd own.2 owner
      · simp only [Function.update_of_ne elsewhere, and_self]
  · next same =>
      rw [not_or, not_not, not_not] at same
      refine ⟨same.2 ▸ congrArg (fun array => (array index).deviceUuid) array, fun _ => ?_,
        fun other => absurd same other, fun other _ => ?_⟩
      · rw [array]
      · rw [array]
        exact ⟨rfl, rfl⟩

namespace VmIdState

variable {state : VmIdState} {deviceIndex : Nat} {device : Device} {arrivals : List U64}
  {chosen : ChosenVmId}

/-- What choosing a vm id leaves alone. -/
structure Keeps (state : VmIdState) (deviceIndex : Nat) (device : Device)
    (chosen : ChosenVmId) : Prop where
  sent : state.fences.SameSent chosen.fences
  owner : (chosen.mgr.vmIdArray chosen.index).deviceUuid = device.uuid
  age : ownsObj state.mgr device chosen.index
    → (chosen.mgr.vmIdArray chosen.index).pdAge = (state.mgr.vmIdArray chosen.index).pdAge
  reset : ¬ ownsObj state.mgr device chosen.index
    → (chosen.mgr.vmIdArray chosen.index).pdAge = 0
  others : ∀ other ≠ chosen.index,
    (chosen.mgr.vmIdArray other).deviceUuid = (state.mgr.vmIdArray other).deviceUuid
    ∧ (chosen.mgr.vmIdArray other).pdAge = (state.mgr.vmIdArray other).pdAge
  own : ∀ index, ownVmId state.mgr device (deviceIndex = 0) = some index → chosen.index = index

/-- Choosing a vm id sends no fence, leaves the owners of the other objects, and gives a
device the object it owns.
-/
theorem choose_keeps (found : state.devices[deviceIndex]? = some device)
    (call : state.choose deviceIndex arrivals = some chosen)
    : state.Keeps deviceIndex device chosen := by
  simp only [choose, found, Option.bind_some, vidschiChooseVmId004] at call
  cases owned : ownVmId state.mgr device (deviceIndex = 0) with
  | some index =>
      rw [owned] at call
      obtain rfl := Option.some.inj call
      obtain ⟨index_eq, fences_eq, _⟩ := takeVmId_eq state.mgr device state.fences index
      obtain ⟨owner, age, reset, others⟩ := takeVmId_owner state.mgr device state.fences index
      refine ⟨?_, ?_, ?_, ?_, ?_, ?_⟩
      · rw [fences_eq]
        exact fun _ => rfl
      · rw [index_eq, owner]
      · rw [index_eq]
        exact age
      · rw [index_eq]
        exact reset
      · rw [index_eq]
        exact others
      · intro other same
        rw [index_eq, Option.some.inj (owned.symm.trans same)]
  | none =>
      rw [owned] at call
      obtain ⟨⟨search, index⟩, searched, call⟩ := Option.bind_eq_some_iff.mp call
      obtain rfl := Option.some.inj call
      have kept := findIdle_kept searched
      obtain ⟨index_eq, fences_eq, _⟩ :=
        takeVmId_eq { state.mgr with vmIdArray := search.vmIdArray } device search.fences index
      obtain ⟨owner, age, reset, others⟩ :=
        takeVmId_owner { state.mgr with vmIdArray := search.vmIdArray } device search.fences index
      simp only [ownsObj, kept.owner] at age reset
      refine ⟨?_, ?_, ?_, ?_, ?_, ?_⟩
      · rw [fences_eq]
        exact kept.sent
      · rw [index_eq, owner]
      · rw [index_eq]
        exact fun own => (age own).trans (kept.age index)
      · rw [index_eq]
        exact reset
      · rw [index_eq]
        exact fun other differs => ⟨(others other differs).1.trans (kept.owner other),
          (others other differs).2.trans (kept.age other)⟩
      · intro other same
        rw [owned] at same
        cases same

end VmIdState

end Cx4Kernel.Vidsch
