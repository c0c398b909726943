import Cx4Kernel.Vidsch.SubmitOrder

/-! A vm id object remembers the newest fence of each engine. The page-table-set task is the
exception: it registers on the reserved object before it has a fence id.
-/

namespace Cx4Kernel.Vidsch

open Cx4Kernel.Foundation

-----------------------------------------------------------------------------------------
-- Freeing the manager
-----------------------------------------------------------------------------------------

/-- The waits for one object end with the fence of each of its bits in the slot, by induction
on the engines.
-/
theorem finiVmIdObj_returned {engines : List Nat} {check after : IdleCheck}
    (sound : check.fences.Sound) (waited : finiVmIdObj engines check = some after)
    : check.fences.Progress after.fences
      ∧ ∀ engine ∈ engines, check.obj.bitmap.getLsbD engine
        → check.obj.lastFlush engine ≤ after.fences.slot engine := by
  induction engines generalizing check with
  | nil =>
      obtain rfl := Option.some.inj waited
      exact ⟨.refl sound, fun engine none => absurd none List.not_mem_nil⟩
  | cons head rest ih =>
      rw [finiVmIdObj] at waited
      split at waited
      · obtain ⟨⟨fences, arrivals⟩, back, waited⟩ := Option.bind_eq_some_iff.mp waited
        obtain ⟨progress, inSlot⟩ := EngineFences.vidschWaitFenceBack_progress sound back
        obtain ⟨later, returned⟩ := ih progress.sound waited
        refine ⟨progress.trans later, ?_⟩
        intro engine member set
        by_cases here : engine = head
        · subst here
          exact BitVec.le_trans inSlot (later.later engine)
        · refine returned engine ((List.mem_cons.mp member).resolve_left here) ?_
          have other : ¬ head = engine := fun same => here same.symm
          simp [set, other]
      · next unset =>
          obtain ⟨later, returned⟩ := ih sound waited
          refine ⟨later, ?_⟩
          intro engine member set
          rcases List.mem_cons.mp member with rfl | old
          · exact absurd set unset
          · exact returned engine old set

/-- The waits for all objects, by induction on the objects. -/
theorem finiVmIdArray_returned {vmIdArray : Nat → VmIdObj} {indices : List Nat}
    {fences last : EngineFences} {arrivals : List U64} (sound : fences.Sound)
    (waited : finiVmIdArray vmIdArray indices fences arrivals = some last)
    : fences.Progress last
      ∧ ∀ index ∈ indices, ∀ engine < maxEngineCount, (vmIdArray index).bitmap.getLsbD engine
        → (vmIdArray index).lastFlush engine ≤ last.slot engine := by
  induction indices generalizing fences arrivals with
  | nil =>
      obtain rfl := Option.some.inj waited
      exact ⟨.refl sound, fun index none => absurd none List.not_mem_nil⟩
  | cons head rest ih =>
      obtain ⟨check, one, waited⟩ := Option.bind_eq_some_iff.mp waited
      obtain ⟨progress, inSlot⟩ := finiVmIdObj_returned (by exact sound) one
      obtain ⟨later, returned⟩ := ih progress.sound waited
      refine ⟨EngineFences.Progress.trans progress later, ?_⟩
      intro index member engine inside set
      rcases List.mem_cons.mp member with rfl | old
      · exact BitVec.le_trans (inSlot engine (List.mem_range.mpr inside) set)
          (later.later engine)
      · exact returned index old engine inside set

-----------------------------------------------------------------------------------------
-- Registrations
-----------------------------------------------------------------------------------------

namespace SubmitState

variable {state after : SubmitState} {engine : Nat} {remembers : Prop}

/-- The fence of a task has returned, or its object still stands for it. -/
def Covers (state : SubmitState) (desc : SubmitDesc) : Prop :=
  state.vmIds.Covers ⟨desc.device, desc.vmId, desc.engine, desc.fenceId⟩

/-- No page-table-set task has been submitted. -/
def NoneSet (state : SubmitState) : Prop :=
  ∀ task ∈ state.tasks, task.type ≠ .pageTableSet

/-- The task under way on `engine` is covered, and its device still owns its object. -/
structure Pending (state : SubmitState) (engine : Nat) (submission : Submission) : Prop where
  narrow : engine < maxEngineCount
  positive : 0 < submission.desc.fenceId
  covers : state.Covers submission.desc
  inRange : submission.desc.vmId < state.mgr.numIds
  owner : ∃ device, state.devices[submission.desc.device]? = some device
    ∧ device.vmId = some submission.desc.vmId
    ∧ (submission.desc.device ≠ 0
      → (state.mgr.vmIdArray submission.desc.vmId).deviceUuid = device.uuid)

/-- The invariant of the manager under submissions. The tasks of the reserved object and
engine are covered if `remembers` holds.
-/
structure Flushed (state : SubmitState) (remembers : Prop) : Prop where
  managed : state.vmIds.Managed
  reserved_le : state.mgr.reservedNumIds ≤ state.mgr.numIds
  inRing : state.InRing state.fences
  underway : ∀ engine, ∀ submission ∈ state.underway engine, state.Pending engine submission
  inRange : ∀ task ∈ state.tasks, task.engine < maxEngineCount ∧ task.vmId < state.mgr.numIds
  covered : ∀ task ∈ state.tasks,
    (task.vmId = 0 → task.engine = reservedEngineIndex → remembers) → state.Covers task

/-- What a call of `chooseVmId` is made of. -/
theorem chooseVmId_cases {deviceIndex index : Nat} {fenceId : U64} {arrivals : List U64}
    (chooses : state.chooseVmId deviceIndex engine fenceId arrivals = some (after, index))
    : ∃ device chosen, state.devices[deviceIndex]? = some device
      ∧ state.vmIds.choose deviceIndex arrivals = some chosen
      ∧ state.InRing chosen.fences
      ∧ after.vmIds = { state.vmIds.addSync deviceIndex engine fenceId chosen with
          lastFence := fun _ => 0, tasks := [] }
      ∧ index = chosen.index := by
  obtain ⟨chosen, call, chooses⟩ := Option.bind_eq_some_iff.mp chooses
  simp only [Option.ite_none_right_eq_some, Option.some.injEq, Prod.mk.injEq] at chooses
  obtain ⟨inRing, rfl, rfl⟩ := chooses
  obtain ⟨device, found, _⟩ := Option.bind_eq_some_iff.mp call
  exact ⟨device, chosen, found, call, inRing, rfl, rfl⟩

/-- Leaving a fence on an object leaves its owner. -/
theorem addSync_owner {vmIds : VmIdState} {deviceIndex : Nat} {fenceId : U64}
    {chosen : ChosenVmId} (index : Nat)
    : ((vmIds.addSync deviceIndex engine fenceId chosen).mgr.vmIdArray index).deviceUuid
      = (chosen.mgr.vmIdArray index).deviceUuid := by
  simp only [VmIdState.addSync, Function.update_apply]
  split
  · next same => rw [same]; rfl
  · rfl

/-- The fence of a task under way is not in the ring yet. -/
theorem Newest.written_lt {submission : Submission} (newest : state.Newest engine submission)
    (positive : 0 < submission.desc.fenceId)
    : state.written engine < submission.desc.fenceId := by
  have newer := newest.newer
  rw [written]
  cases entries : state.ring engine with
  | nil => exact positive
  | cons entry older =>
      rw [entries] at newer
      exact newer entry List.mem_cons_self

section Choose

variable {deviceIndex index : Nat} {fenceId : U64} {arrivals : List U64}
  (chooses : state.chooseVmId deviceIndex engine fenceId arrivals = some (after, index))

include chooses

/-- A choice keeps the invariant of the manager, whatever fence it leaves. -/
theorem Flushed.chooseVmId_managed (flushed : state.Flushed remembers) (inside : engine < maxEngineCount)
    : after.vmIds.Managed
      ∧ after.mgr.numIds = state.mgr.numIds
      ∧ after.mgr.reservedNumIds = state.mgr.reservedNumIds
      ∧ after.InRing after.fences := by
  obtain ⟨device, chosen, found, call, inRing, vmIds, _⟩ := chooseVmId_cases chooses
  have spec := VmIdState.choose_spec flushed.managed.sound found call
  have kept : (state.vmIds.addSync deviceIndex engine 1 chosen).Managed :=
    flushed.managed.addSync inside (by exact Nat.zero_lt_one) found spec
  have mgr := congrArg VmIdState.mgr vmIds
  have fences := congrArg VmIdState.fences vmIds
  refine ⟨?_, ?_, ?_, ?_⟩
  · rw [vmIds]
    exact ⟨kept.reserved_pos, kept.sound, kept.listed, kept.uuids, kept.uuid_le, kept.points,
      fun _ none => absurd none List.not_mem_nil, fun _ none => absurd none List.not_mem_nil,
      fun _ none => absurd none List.not_mem_nil⟩
  · exact (congrArg VmIdMgr.numIds mgr).trans spec.num_eq
  · exact (congrArg VmIdMgr.reservedNumIds mgr).trans spec.reserved_eq
  · have same : after.fences = chosen.fences := fences
    rw [same]
    intro other inside
    have bound := inRing other inside
    rw [written, (chooseVmId_spec chooses).1.ring]
    exact bound

/-- A choice keeps a task covered that it does not register an older fence for. -/
theorem Covers.chooseVmId {desc : SubmitDesc} (covers : state.Covers desc)
    (sound : state.fences.Sound)
    (increasing : desc.vmId = index → desc.engine = engine → desc.fenceId ≤ fenceId)
    : after.Covers desc := by
  obtain ⟨device, chosen, found, call, inRing, vmIds, rfl⟩ := chooseVmId_cases chooses
  have spec := VmIdState.choose_spec sound found call
  have kept := VmIdState.Covers.addSync covers spec increasing
  rw [Covers, vmIds]
  exact kept

/-- The task a choice is made for is covered. -/
theorem covers_chooseVmId {desc : SubmitDesc} (inside : engine < maxEngineCount)
    (sameIndex : desc.vmId = index) (sameEngine : desc.engine = engine)
    (sameFence : desc.fenceId = fenceId)
    : after.Covers desc := by
  obtain ⟨device, chosen, found, call, inRing, vmIds, rfl⟩ := chooseVmId_cases chooses
  have covers := @VmIdState.addSync_covers state.vmIds deviceIndex chosen engine fenceId inside
  subst sameEngine sameFence
  rw [Covers, vmIds, sameIndex]
  exact covers

/-- The reserved device gets the reserved object, and any other one an object of the list. -/
theorem Flushed.chooseVmId_index (flushed : state.Flushed remembers)
    : (deviceIndex = 0 ↔ index = 0) ∧ index < state.mgr.numIds := by
  obtain ⟨device, chosen, found, call, inRing, vmIds, rfl⟩ := chooseVmId_cases chooses
  have spec := VmIdState.choose_spec flushed.managed.sound found call
  have mayPoint := flushed.managed.chosen_mayPoint found spec
  have reserved : 0 < state.mgr.reservedNumIds := flushed.managed.reserved_pos
  have le := flushed.reserved_le
  simp only [VmIdState.MayPoint] at mayPoint
  split at mayPoint
  · next first =>
      rw [mayPoint]
      exact ⟨⟨fun _ => rfl, fun _ => first⟩, by omega⟩
  · next other =>
      have member : chosen.index ∈ List.range' state.mgr.reservedNumIds
          (state.mgr.numIds - state.mgr.reservedNumIds) :=
        flushed.managed.listed.mem_iff.mp mayPoint
      rw [List.mem_range'_1] at member
      exact ⟨⟨fun first => absurd first other, fun zero => by omega⟩, by omega⟩

/-- The device of a choice owns the object it gets. -/
theorem owner_chooseVmId (sound : state.fences.Sound)
    : ∃ device, after.devices[deviceIndex]? = some device
      ∧ device.vmId = some index
      ∧ (after.mgr.vmIdArray index).deviceUuid = device.uuid := by
  obtain ⟨device, chosen, found, call, inRing, registered, rfl⟩ := chooseVmId_cases chooses
  have spec := VmIdState.choose_spec sound found call
  have keeps := VmIdState.choose_keeps found call
  have bound := (List.getElem?_eq_some_iff.mp found).1
  have devices : after.devices = state.devices.set deviceIndex chosen.device :=
    congrArg VmIdState.devices registered
  have mgr : after.mgr = (state.vmIds.addSync deviceIndex engine fenceId chosen).mgr :=
    congrArg VmIdState.mgr registered
  refine ⟨chosen.device, ?_, ?_, ?_⟩
  · rw [devices, List.getElem?_set_self bound]
  · rw [spec.device_eq]
  · rw [mgr, addSync_owner, keeps.owner, spec.device_eq]

/-- A device of a submission under way keeps its object, and no other device gets it: it is
not idle, since the fence is not in the ring yet.
-/
theorem Pending.index_iff {other : Nat} {submission : Submission} (flushed : state.Flushed remembers)
    (pending : state.Pending other submission) (newest : state.Newest other submission)
    : (submission.desc.device = deviceIndex → index = submission.desc.vmId)
      ∧ (submission.desc.device ≠ deviceIndex → submission.desc.device ≠ 0
        → index ≠ submission.desc.vmId) := by
  obtain ⟨device, chosen, found, call, inRing, _, rfl⟩ := chooseVmId_cases chooses
  obtain ⟨own, ownFound, points, uuid⟩ := pending.owner
  have spec := VmIdState.choose_spec flushed.managed.sound found call
  have mayPoint := flushed.managed.points _ own _ ownFound points
  constructor
  · intro same
    rw [same] at ownFound uuid mayPoint
    obtain rfl := Option.some.inj (found.symm.trans ownFound)
    refine (VmIdState.choose_keeps found call).own _ ?_
    by_cases first : deviceIndex = 0
    · simp only [VmIdState.MayPoint, if_pos first] at mayPoint
      simp only [ownVmId, first, decide_true, if_true, mayPoint]
    · simp only [ownVmId, first, decide_false, Bool.false_eq_true, if_false,
        Option.filter_eq_some_iff, decide_eq_true_eq]
      exact ⟨points, uuid first⟩
  · intro differs ordinary same
    rw [VmIdState.MayPoint, if_neg ordinary] at mayPoint
    cases spec.source with
    | reserved _ zero =>
        exact flushed.managed.ne_zero mayPoint (same.symm.trans zero)
    | own _ _ owner =>
        rw [same] at owner
        have bound : submission.desc.device < (state.devices.map Device.uuid).length := by
          rw [List.length_map]
          exact (List.getElem?_eq_some_iff.mp ownFound).1
        refine differs ((List.getElem?_inj bound flushed.managed.uuids).mp ?_)
        have equal : own.uuid = device.uuid := (uuid ordinary).symm.trans owner
        simp only [List.getElem?_map, ownFound, found, Option.map_some, equal]
    | idle _ _ returned =>
        have inSlot : submission.desc.fenceId ≤ chosen.fences.slot other := by
          have covers := pending.covers
          rcases covers with early | ⟨set, flushed⟩
          · rw [newest.engine_eq] at early
            exact BitVec.le_trans early (spec.progress.later other)
          · rw [newest.engine_eq] at set flushed
            rw [same] at returned
            exact BitVec.le_trans flushed (returned other set)
        have bound := inRing other pending.narrow
        have lt := newest.written_lt pending.positive
        rw [BitVec.le_def] at inSlot bound
        rw [BitVec.lt_def] at lt
        omega

/-- A submission under way stays pending while another engine chooses. -/
theorem Pending.chooseVmId {other : Nat} {submission : Submission} (flushed : state.Flushed remembers)
    (inside : engine < maxEngineCount)
    (pending : state.Pending other submission) (newest : state.Newest other submission)
    (increasing : submission.desc.vmId = index → submission.desc.engine = engine
      → submission.desc.fenceId ≤ fenceId)
    : after.Pending other submission := by
  obtain ⟨_, num, _⟩ := flushed.chooseVmId_managed chooses inside
  have index_iff := pending.index_iff chooses flushed newest
  refine ⟨pending.narrow, pending.positive,
    pending.covers.chooseVmId chooses flushed.managed.sound increasing, ?_, ?_⟩
  · rw [num]
    exact pending.inRange
  · by_cases same : submission.desc.device = deviceIndex
    · obtain ⟨device, found, points, uuid⟩ := owner_chooseVmId chooses flushed.managed.sound
      rw [index_iff.1 same] at points uuid
      rw [same]
      exact ⟨device, found, points, fun _ => uuid⟩
    · obtain ⟨device, chosen, found, call, inRing, registered, rfl⟩ := chooseVmId_cases chooses
      obtain ⟨own, ownFound, points, uuid⟩ := pending.owner
      have devices : after.devices = state.devices.set deviceIndex chosen.device :=
        congrArg VmIdState.devices registered
      have mgr : after.mgr = (state.vmIds.addSync deviceIndex engine fenceId chosen).mgr :=
        congrArg VmIdState.mgr registered
      refine ⟨own, ?_, points, ?_⟩
      · rw [devices, List.getElem?_set_ne (fun equal => same equal.symm)]
        exact ownFound
      · intro ordinary
        have differs : submission.desc.vmId ≠ chosen.index :=
          fun equal => index_iff.2 same ordinary equal.symm
        rw [mgr, addSync_owner, ((VmIdState.choose_keeps found call).others _ differs).1]
        exact uuid ordinary

/-- A choice keeps the invariant if it registers no fence that is older than one of a task it
still has to stand for.
-/
theorem Flushed.chooseVmId (flushed : state.Flushed remembers) (inside : engine < maxEngineCount)
    (ordered : state.Ordered)
    (increasing : ∀ task ∈ state.tasks,
      (task.vmId = 0 → task.engine = reservedEngineIndex → remembers)
      → task.vmId = index → task.engine = engine → task.fenceId ≤ fenceId)
    (underway : ∀ submission ∈ state.underway engine,
      submission.desc.vmId = index → submission.desc.fenceId ≤ fenceId)
    : after.Flushed remembers := by
  obtain ⟨managed, num, reserved, inRing⟩ := flushed.chooseVmId_managed chooses inside
  obtain ⟨same, _⟩ := chooseVmId_spec chooses
  refine ⟨managed, ?_, inRing, ?_, ?_, ?_⟩
  · rw [num, reserved]
    exact flushed.reserved_le
  · intro other submission member
    rw [same.underway] at member
    have newest := ordered.underway other submission member
    refine (flushed.underway other submission member).chooseVmId chooses flushed inside newest ?_
    intro sameIndex sameEngine
    rw [newest.engine_eq] at sameEngine
    subst sameEngine
    exact underway submission member sameIndex
  · rw [same.tasks, num]
    exact flushed.inRange
  · intro task member remembered
    rw [same.tasks] at member
    exact (flushed.covered task member remembered).chooseVmId chooses flushed.managed.sound
      (increasing task member remembered)

end Choose

-----------------------------------------------------------------------------------------
-- The steps
-----------------------------------------------------------------------------------------

/-- Time passing keeps the invariant, since it only concerns the fences. -/
theorem Flushed.withFences (flushed : state.Flushed remembers) {fences : EngineFences}
    (progress : state.fences.Progress fences) (inRing : state.InRing fences)
    : ({ state with fences := fences } : SubmitState).Flushed remembers where
  managed := flushed.managed.withFences progress
  reserved_le := flushed.reserved_le
  inRing := inRing
  underway engine submission member :=
    have pending := flushed.underway engine submission member
    { pending with
      covers := pending.covers.imp_left
        fun inSlot => BitVec.le_trans inSlot (progress.later _) }
  inRange := flushed.inRange
  covered task member remembered :=
    (flushed.covered task member remembered).imp_left
      fun inSlot => BitVec.le_trans inSlot (progress.later _)

/-- Taking a fence id keeps the invariant and the order. -/
theorem Flushed.incSendFenceId {fenceId : U64} (flushed : state.Flushed remembers)
    (ordered : state.Ordered) (fits : (state.lastSend engine).toNat + 1 < 2 ^ 64)
    (taken : state.incSendFenceId engine = (after, fenceId))
    : after.Flushed remembers ∧ after.Ordered := by
  obtain ⟨same, fenceId_eq, sends⟩ := incSendFenceId_spec taken
  constructor
  · obtain ⟨rfl, _⟩ := Prod.mk.inj taken
    exact flushed.withFences
      (EngineFences.counters_progress flushed.managed.sound engine (flushed.managed.sound engine))
      flushed.inRing
  · refine ordered.same same fun other => ?_
    rw [sends, fenceId_eq]
    exact lastSend_le engine fits other

/-- The engines that tasks are submitted on are among those of the bitmap. -/
theorem SubmitRequest.Valid.narrow {request : SubmitRequest} (valid : request.Valid)
    : request.engine < maxEngineCount := by
  simp only [SubmitRequest.Valid, isVideoEngine, reservedEngineIndex] at valid
  simp only [maxEngineCount]
  split at valid
  · simp only [decide_eq_true_eq] at valid
    omega
  · omega
  · omega
  · exact valid.elim
  · exact valid.elim

/-- The first part of a submission keeps the invariant: its fence is newer than those of all
tasks of its engine.
-/
theorem Flushed.begin (flushed : state.Flushed remembers) (ordered : state.Ordered)
    {request : SubmitRequest} {arrivals : List U64} (valid : request.Valid)
    (free : (state.underway request.engine).isNone)
    (fits : (state.lastSend request.engine).toNat + 1 < 2 ^ 64)
    (begins : state.begin request arrivals = some after)
    : after.Flushed remembers := by
  rw [SubmitState.begin] at begins
  cases taken : state.incSendFenceId request.engine with
  | mk sent fenceId =>
      rw [taken] at begins
      obtain ⟨same, next_eq, sends⟩ := incSendFenceId_spec taken
      obtain ⟨flushed', ordered'⟩ := flushed.incSendFenceId ordered fits taken
      obtain ⟨⟨middle, vmId⟩, chooses, ends⟩ := Option.bind_eq_some_iff.mp begins
      have inside := SubmitRequest.Valid.narrow valid
      have newer : ∀ task ∈ state.tasks, task.engine = request.engine → task.fenceId ≤ fenceId := by
        intro task member same
        rw [next_eq]
        have old := ordered.tasks_sent task member
        rw [same] at old
        exact BitVec.le_of_lt (lt_next old fits)
      have flushed'' : middle.Flushed remembers := by
        refine flushed'.chooseVmId chooses inside ordered' ?_ ?_
        · intro task member _ _ sameEngine
          rw [same.tasks] at member
          exact newer task member sameEngine
        · intro submission member
          rw [same.underway, Option.isNone_iff_eq_none.mp free] at member
          cases member
      have num := (flushed'.chooseVmId_managed chooses inside).2.1
      obtain rfl := Option.some.inj ends
      refine ⟨flushed''.managed, flushed''.reserved_le, flushed''.inRing, ?_, flushed''.inRange,
        flushed''.covered⟩
      intro engine submission member
      simp only [Function.update_apply] at member
      split at member
      · next here =>
          obtain rfl := Option.some.inj member
          refine ⟨here ▸ inside, ?_, covers_chooseVmId chooses inside rfl rfl rfl, ?_, ?_⟩
          · rw [next_eq]
            exact lt_next (Nat.zero_le _) fits
          · exact num ▸ (flushed'.chooseVmId_index chooses).2
          · obtain ⟨device, found, points, uuid⟩ :=
              owner_chooseVmId chooses flushed'.managed.sound
            exact ⟨device, found, points, fun _ => uuid⟩
      · have pending := flushed''.underway engine submission member
        exact ⟨pending.narrow, pending.positive, pending.covers, pending.inRange, pending.owner⟩

/-- The manager after `vidschi_vm_id_add_sync` on one of its objects. -/
def register (state : SubmitState) (index engine : Nat) (fenceId : U64) : SubmitState :=
  let obj := vidschiVmIdAddSync (state.mgr.vmIdArray index) fenceId engine
  { state with
    mgr := { state.mgr with vmIdArray := Function.update state.mgr.vmIdArray index obj } }

/-- A newer fence keeps the tasks covered. -/
theorem Covers.register {desc : SubmitDesc} (covers : state.Covers desc) {index : Nat}
    {fenceId : U64}
    (increasing : desc.vmId = index → desc.engine = engine → desc.fenceId ≤ fenceId)
    : (state.register index engine fenceId).Covers desc := by
  refine covers.imp_right fun ⟨set, flushed⟩ => ?_
  simp only [SubmitState.register, vmIds, vidschiVmIdAddSync, Function.update_apply] at set flushed ⊢
  split
  · next sameIndex =>
      rw [sameIndex] at set flushed
      simp only [getLsbD_zxSetBit, set, Bool.true_or, true_and, Function.update_apply]
      split
      · next sameEngine => exact increasing sameIndex sameEngine
      · exact flushed
  · exact ⟨set, flushed⟩

/-- The task a fence is registered for is covered. -/
theorem covers_register {desc : SubmitDesc} (narrow : desc.engine < maxEngineCount)
    : (state.register desc.vmId desc.engine desc.fenceId).Covers desc := by
  have wide : desc.engine < 32 := Nat.lt_trans narrow (by decide)
  refine .inr ⟨?_, ?_⟩
  · simp [SubmitState.register, vmIds, vidschiVmIdAddSync, wide]
  · simp [SubmitState.register, vmIds, vidschiVmIdAddSync]

/-- Registering a fence leaves the owners. -/
theorem register_owner {index : Nat} {fenceId : U64} (other : Nat)
    : ((state.register index engine fenceId).mgr.vmIdArray other).deviceUuid
      = (state.mgr.vmIdArray other).deviceUuid := by
  simp only [register, Function.update_apply]
  split
  · next same => rw [same]; rfl
  · rfl

/-- Registering a fence that is newer than those of all tasks of its engine keeps the
invariant.
-/
theorem Flushed.register (flushed : state.Flushed remembers) {index : Nat} {fenceId : U64}
    (newer : ∀ task ∈ state.tasks, task.engine = engine → task.fenceId ≤ fenceId)
    (underway : ∀ submission ∈ state.underway engine, submission.desc.fenceId ≤ fenceId)
    (engine_eq : ∀ other, ∀ submission ∈ state.underway other, submission.desc.engine = other)
    : (state.register index engine fenceId).Flushed remembers where
  managed :=
    { flushed.managed with
      submitted := fun _ none => absurd none List.not_mem_nil
      covered := fun _ none => absurd none List.not_mem_nil }
  reserved_le := flushed.reserved_le
  inRing := flushed.inRing
  underway other submission member := by
    have pending := flushed.underway other submission member
    have here := engine_eq other submission member
    refine ⟨pending.narrow, pending.positive, pending.covers.register ?_, pending.inRange, ?_⟩
    · intro _ sameEngine
      rw [here] at sameEngine
      exact underway submission (sameEngine ▸ member)
    · obtain ⟨device, found, points, uuid⟩ := pending.owner
      exact ⟨device, found, points, fun ordinary => (register_owner _).trans (uuid ordinary)⟩
  inRange := flushed.inRange
  covered task member remembered :=
    (flushed.covered task member remembered).register fun _ => newer task member

/-- The fence ids are assigned with the same number of objects. -/
theorem assignFenceIds_numIds {target kept : Submission} {fenceId setFenceId : U64}
    (assigns : state.assignFenceIds engine target fenceId = some (after, kept, setFenceId))
    : after.mgr.numIds = state.mgr.numIds := by
  simp only [assignFenceIds] at assigns
  split at assigns
  · obtain ⟨device, _, assigns⟩ := Option.bind_eq_some_iff.mp assigns
    obtain ⟨index, _, assigns⟩ := Option.bind_eq_some_iff.mp assigns
    obtain ⟨rfl, _⟩ := by simpa only [Option.some.injEq, Prod.mk.injEq] using assigns
    rfl
  · obtain ⟨rfl, _⟩ := by simpa only [Option.some.injEq, Prod.mk.injEq] using assigns
    rfl

/-- The fence ids of a page-table-set task and of its target keep the invariant, and the
target is pending with the one it gets.
-/
theorem Flushed.assignFenceIds {target kept : Submission} {fenceId setFenceId : U64}
    (flushed : state.Flushed remembers) (ordered : state.Ordered)
    (held : state.underway engine = some target)
    (newer : ∀ task ∈ state.tasks, task.engine = reservedEngineIndex → task.fenceId ≤ fenceId)
    (older : target.desc.engine = reservedEngineIndex → target.desc.fenceId ≤ fenceId)
    (positive : 0 < fenceId)
    (assigns : state.assignFenceIds engine target fenceId = some (after, kept, setFenceId))
    : after.Flushed remembers ∧ after.Pending engine kept := by
  have pending := flushed.underway engine target held
  have newest := ordered.underway engine target held
  obtain ⟨own, ownFound, points, uuid⟩ := pending.owner
  simp only [SubmitState.assignFenceIds] at assigns
  split at assigns
  · next here =>
      obtain ⟨device, found, assigns⟩ := Option.bind_eq_some_iff.mp assigns
      obtain ⟨index, pointed, assigns⟩ := Option.bind_eq_some_iff.mp assigns
      obtain rfl := Option.some.inj (found.symm.trans ownFound)
      obtain rfl := Option.some.inj (pointed.symm.trans points)
      obtain ⟨rfl, rfl, rfl⟩ := by
        simpa only [Option.some.injEq, Prod.mk.injEq] using assigns
      have engine_eq := newest.engine_eq
      constructor
      · refine flushed.register (fun task member same => newer task member (same.trans here)) ?_
          fun other submission member => (ordered.underway other submission member).engine_eq
        intro submission member
        obtain rfl := Option.some.inj (held.symm.trans member)
        exact older (engine_eq.trans here)
      · refine ⟨pending.narrow, positive, ?_, pending.inRange, device, ownFound, points, ?_⟩
        · have covers := @covers_register state { target.desc with fenceId := fenceId }
            (engine_eq ▸ pending.narrow)
          rw [← engine_eq]
          exact covers
        · exact fun ordinary => (register_owner _).trans (uuid ordinary)
  · obtain ⟨rfl, rfl, rfl⟩ := by
      simpa only [Option.some.injEq, Prod.mk.injEq] using assigns
    exact ⟨flushed, pending.narrow, pending.positive, pending.covers, pending.inRange,
      pending.owner⟩

/-- The invariant with fewer tasks to be covered. -/
theorem Flushed.weaken (flushed : state.Flushed remembers) {weaker : Prop} (implies : weaker → remembers)
    : state.Flushed weaker :=
  { flushed with
    covered := fun task member remembered =>
      flushed.covered task member fun zero here => implies (remembered zero here) }

/-- A ring that grows in order ends with a later fence. -/
theorem Ordered.written_le (ordered : after.Ordered) {entry : RingFence}
    (grows : after.ring engine = entry :: state.ring engine)
    : state.written engine ≤ after.written engine := by
  have increasing := ordered.increasing engine
  rw [grows] at increasing
  simp only [SubmitState.written, grows]
  cases entries : state.ring engine with
  | nil => exact Nat.zero_le _
  | cons last older =>
      rw [entries] at increasing
      exact BitVec.le_of_lt ((List.pairwise_cons.mp increasing).1 last List.mem_cons_self)

/-- A page-table-set task keeps the invariant, but the reserved object then stands for no
fence of its engine: it was registered there with fence id 0.
-/
theorem Flushed.submitPageTableSetTask (flushed : state.Flushed remembers)
    (ordered : state.Ordered) {target : Submission} {arrivals : List U64}
    (held : state.underway engine = some target) (may : state.MayInsert engine target)
    (fits : (state.lastSend reservedEngineIndex).toNat + 1 < 2 ^ 64)
    (submits : state.submitPageTableSetTask engine target arrivals = some after)
    : after.Flushed False := by
  have ordered_after := ordered.submitPageTableSetTask held may fits submits
  have inside : reservedEngineIndex < maxEngineCount := by decide
  rw [SubmitState.submitPageTableSetTask] at submits
  cases taken : state.incSendFenceId reservedEngineIndex with
  | mk sent fenceId =>
      rw [taken] at submits
      obtain ⟨same, next_eq, sends⟩ := incSendFenceId_spec taken
      obtain ⟨flushed', ordered'⟩ := flushed.incSendFenceId ordered fits taken
      obtain ⟨⟨middle, vmId⟩, chooses, submits⟩ := Option.bind_eq_some_iff.mp submits
      obtain ⟨⟨last, kept, setFenceId⟩, assigns, ends⟩ := Option.bind_eq_some_iff.mp submits
      obtain ⟨same', sends'⟩ := chooseVmId_spec chooses
      have index := flushed'.chooseVmId_index chooses
      have zero : vmId = 0 := index.1.mp rfl
      have target_vmId : target.desc.vmId ≠ 0 := by
        obtain ⟨device, found, points, _⟩ := (flushed.underway engine target held).owner
        have mayPoint := flushed.managed.points _ device _ found points
        rw [VmIdState.MayPoint, if_neg may.1] at mayPoint
        exact flushed.managed.ne_zero mayPoint
      have flushed'' : middle.Flushed False := by
        refine (flushed'.weaken False.elim).chooseVmId chooses inside ordered' ?_ ?_
        · intro task _ remembered sameIndex sameEngine
          exact (remembered (sameIndex.trans zero) sameEngine).elim
        · intro submission member sameIndex
          rw [same.underway] at member
          rcases may.2.2 with here | unlocked
          · rw [here] at held
            obtain rfl := Option.some.inj (held.symm.trans member)
            exact absurd (sameIndex.trans zero) target_vmId
          · rw [Option.isNone_iff_eq_none.mp unlocked] at member
            cases member
      have ordered'' : middle.Ordered :=
        ordered'.same same' fun _ => sends' ▸ BitVec.le_refl _
      have held'' : middle.underway engine = some target := by
        rw [same'.underway, same.underway, held]
      have newer : ∀ sentFence ≤ state.lastSend reservedEngineIndex, sentFence ≤ fenceId := by
        intro sentFence old
        rw [next_eq]
        exact BitVec.le_of_lt (lt_next old fits)
      have assigned : last.Flushed False ∧ last.Pending engine kept := by
        refine flushed''.assignFenceIds ordered'' held'' ?_ ?_ ?_ assigns
        · intro task member here
          rw [same'.tasks, same.tasks] at member
          exact newer _ (here ▸ ordered.tasks_sent task member)
        · intro here
          have newest := ordered.underway engine target held
          rw [newest.engine_eq] at here
          exact newer _ (here ▸ newest.sent)
        · rw [next_eq]
          exact lt_next (Nat.zero_le _) fits
      obtain ⟨flushedLast, pending⟩ := assigned
      have num := (flushed'.chooseVmId_managed chooses inside).2.1
      have lastNum := assignFenceIds_numIds assigns
      have inRing := flushedLast.inRing
      obtain rfl := Option.some.inj ends
      refine ⟨flushedLast.managed, flushedLast.reserved_le, ?_, ?_, ?_, ?_⟩
      · intro other bound
        refine BitVec.le_trans (inRing other bound) ?_
        by_cases here : other = reservedEngineIndex
        · subst here
          exact ordered_after.written_le rfl
        · simp only [written, writeRing, Function.update_of_ne here]
          exact BitVec.le_refl _
      · intro other submission member
        simp only [Function.update_apply] at member
        split at member
        · next here =>
            obtain rfl := Option.some.inj member
            rw [here]
            exact ⟨pending.narrow, pending.positive, pending.covers, pending.inRange,
              pending.owner⟩
        · have waiting := flushedLast.underway other submission member
          exact ⟨waiting.narrow, waiting.positive, waiting.covers, waiting.inRange,
            waiting.owner⟩
      · intro task member
        rcases List.mem_cons.mp member with rfl | old
        · refine ⟨inside, ?_⟩
          have bound := index.2
          rw [← num, ← lastNum] at bound
          exact bound
        · exact flushedLast.inRange task old
      · intro task member remembered
        rcases List.mem_cons.mp member with rfl | old
        · exact (remembered zero rfl).elim
        · exact flushedLast.covered task old remembered

/-- The last part of a submission keeps the invariant: its task was covered all along. -/
theorem Flushed.finish (flushed : state.Flushed state.NoneSet) (ordered : state.Ordered)
    {submission : Submission} (held : state.underway engine = some submission)
    : (state.finish engine submission).Flushed (state.finish engine submission).NoneSet := by
  have newest := ordered.underway engine submission held
  have pending := flushed.underway engine submission held
  have ordered_after := ordered.finish held
  obtain ⟨desc, engine_eq, vmId_eq, fenceId, _, tasks, ring, _, underway, vmIds⟩ :=
    finish_spec newest
  have mgr : (state.finish engine submission).mgr = state.mgr := congrArg VmIdState.mgr vmIds
  have devices : (state.finish engine submission).devices = state.devices :=
    congrArg VmIdState.devices vmIds
  have fences : (state.finish engine submission).fences = state.fences :=
    congrArg VmIdState.fences vmIds
  have covers : ∀ task, state.Covers task → (state.finish engine submission).Covers task := by
    intro task covers
    rw [Covers, vmIds]
    exact covers
  have fewer : (state.finish engine submission).NoneSet → state.NoneSet := by
    intro none task member
    exact none task (tasks ▸ List.mem_cons_of_mem _ member)
  refine ⟨vmIds ▸ flushed.managed, mgr ▸ flushed.reserved_le, ?_, ?_, ?_, ?_⟩
  · intro other bound
    rw [fences]
    refine BitVec.le_trans (flushed.inRing other bound) ?_
    by_cases here : desc.Written ∧ other = desc.engine
    · obtain ⟨written, rfl⟩ := here
      refine @Ordered.written_le _ _ _ ordered_after desc.fence ?_
      rw [ring, if_pos written, Function.update_self]
    · have same : (state.finish engine submission).ring other = state.ring other := by
        rw [ring]
        split
        · next written =>
            exact Function.update_of_ne (fun equal => here ⟨written, equal⟩) ..
        · rfl
      rw [written, written, same]
      exact BitVec.le_refl _
  · intro other waiting member
    rw [underway, Function.update_apply] at member
    split at member
    · cases member
    · have still := flushed.underway other waiting member
      refine ⟨still.narrow, still.positive, covers _ still.covers, mgr ▸ still.inRange, ?_⟩
      rw [devices, mgr]
      exact still.owner
  · intro task member
    rw [tasks] at member
    rw [mgr]
    rcases List.mem_cons.mp member with rfl | old
    · exact ⟨engine_eq ▸ pending.narrow, vmId_eq ▸ pending.inRange⟩
    · exact flushed.inRange task old
  · intro task member remembered
    rw [tasks] at member
    rcases List.mem_cons.mp member with rfl | old
    · have own := pending.covers
      rw [Covers, newest.engine_eq, ← engine_eq, ← vmId_eq, ← fenceId] at own
      exact covers task own
    · exact covers task (flushed.covered task old fun zero here => fewer (remembered zero here))

/-- Every step keeps the invariant, by cases on the step. -/
theorem Flushed.next {action : SubmitAction} (flushed : state.Flushed state.NoneSet)
    (ordered : state.Ordered) (fits : state.FencesFit action)
    (taken : state.next action = some after)
    : after.Flushed after.NoneSet := by
  cases action with
  | createDevice =>
      obtain rfl := Option.some.inj taken
      have kept : ∀ (index : Nat) (device : Device), state.devices[index]? = some device
          → (state.devices ++ [⟨state.deviceUuid + 1, none⟩])[index]? = some device := by
        intro index device found
        rw [List.getElem?_append_left (List.getElem?_eq_some_iff.mp found).1]
        exact found
      refine ⟨flushed.managed.createDevice, flushed.reserved_le, flushed.inRing, ?_,
        flushed.inRange, flushed.covered⟩
      intro engine submission member
      have pending := flushed.underway engine submission member
      obtain ⟨device, found, points, uuid⟩ := pending.owner
      exact ⟨pending.narrow, pending.positive, pending.covers, pending.inRange,
        device, kept _ device found, points, uuid⟩
  | begin request arrivals =>
      simp only [SubmitState.next, Option.ite_none_right_eq_some] at taken
      have begun := flushed.begin ordered taken.1.1 taken.1.2 fits taken.2
      refine begun.weaken fun none task member => ?_
      rw [← (begin_spec taken.2).2.1] at member
      exact none task member
  | insertPageTableSet engine arrivals =>
      obtain ⟨target, held, taken⟩ := Option.bind_eq_some_iff.mp taken
      simp only [Option.ite_none_right_eq_some] at taken
      have set := flushed.submitPageTableSetTask ordered held taken.1 fits taken.2
      refine set.weaken fun none => ?_
      obtain ⟨vmId, _, setFenceId, _, _, tasks, _⟩ := submitPageTableSetTask_spec taken.2
      exact none (pageTableSetDesc (state.lastUuid + 1) vmId setFenceId)
        (tasks ▸ List.mem_cons_self) rfl
  | finish engine =>
      obtain ⟨submission, held, taken⟩ := Option.bind_eq_some_iff.mp taken
      simp only [Option.ite_none_right_eq_some, Option.some.injEq] at taken
      obtain ⟨_, rfl⟩ := taken
      exact flushed.finish ordered held
  | fenceArrives engine fenceId =>
      simp only [SubmitState.next, Option.ite_none_right_eq_some, Option.some.injEq] at taken
      obtain ⟨⟨later, inRing⟩, rfl⟩ := taken
      refine flushed.withFences (EngineFences.slot_progress flushed.managed.sound later) ?_
      intro other bound
      simp only [Function.update_apply]
      split
      · next same => rw [same]; exact inRing
      · exact flushed.inRing other bound
  | checkFence engine action =>
      simp only [SubmitState.next, Option.ite_none_right_eq_some, Option.some.injEq] at taken
      obtain ⟨⟨_, reads⟩, rfl⟩ := taken
      have within := VmIdState.after_within_slot (flushed.managed.sound engine) reads
      exact flushed.withFences (EngineFences.counters_progress flushed.managed.sound engine within)
        flushed.inRing

/-- A new state has the invariant. -/
theorem flushed_start {totalVmIdNum reservedVmIdNum : Nat} {hwQueueSize : Nat → U32}
    (reserved : 0 < reservedVmIdNum) (le : reservedVmIdNum ≤ totalVmIdNum)
    : (start totalVmIdNum reservedVmIdNum hwQueueSize).Flushed remembers where
  managed := @VmIdState.managed_start totalVmIdNum reservedVmIdNum hwQueueSize reserved
  reserved_le := le
  inRing _ _ := BitVec.le_refl _
  underway engine submission none := by cases none
  inRange task member := absurd member List.not_mem_nil
  covered task member := absurd member List.not_mem_nil

/-- In every run whose fence ids fit 64 bits, each task is covered by the object of its vm id,
as long as no page-table-set task was submitted; after that all but those of the reserved
object and engine still are. Where all are covered, the manager is freed after all fences
have returned.
-/
theorem lastFlush_newest (reached : system.ReachableUnder FencesFit state)
    : (∀ task ∈ state.tasks,
        state.NoneSet ∨ task.vmId ≠ 0 ∨ task.engine ≠ reservedEngineIndex → state.Covers task)
      ∧ ∀ arrivals fences, state.NoneSet
        → vidschiFiniVmIdMgr state.mgr state.fences arrivals = some fences
        → ∀ task ∈ state.tasks, task.fenceId ≤ fences.slot task.engine := by
  have kept : state.Ordered ∧ state.Flushed state.NoneSet := by
    apply reached.invariant
    · intro first begins
      obtain ⟨totalVmIdNum, reservedVmIdNum, hwQueueSize, reserved, le, rfl⟩ := begins
      exact ⟨ordered_start _ _ _, flushed_start reserved le⟩
    · intro before action after kept fits taken
      exact ⟨kept.1.next fits taken, kept.2.next kept.1 fits taken⟩
  obtain ⟨ordered, flushed⟩ := kept
  constructor
  · intro task member allowed
    refine flushed.covered task member fun zero here => ?_
    rcases allowed with none | other | other
    · exact none
    · exact absurd zero other
    · exact absurd here other
  · intro arrivals fences none freed task member
    obtain ⟨narrow, inRange⟩ := flushed.inRange task member
    obtain ⟨progress, returned⟩ := finiVmIdArray_returned flushed.managed.sound freed
    rcases flushed.covered task member fun _ _ => none with inSlot | ⟨set, newest⟩
    · exact BitVec.le_trans inSlot (progress.later task.engine)
    · exact BitVec.le_trans newest
        (returned task.vmId (List.mem_range.mpr inRange) task.engine narrow set)

/-- The fence of the first task comes back, and then a paging task is submitted. -/
def flushedActions : List SubmitAction :=
  [.begin pagingRequest [], .finish 0, .fenceArrives 0 1, .begin pagingRequest [], .finish 0]

/-- The state these steps end in. -/
def flushedTwice : Option SubmitState :=
  System.replay next (start 2 1 fun _ => 8) flushedActions

/-- The steps can be taken. -/
theorem flushedTwice_isSome : flushedTwice.isSome := by rfl

/-- Both tasks are covered by the reserved object. -/
theorem lastFlush_newest_flushedTwice
    : (flushedTwice.get flushedTwice_isSome).tasks.length = 2
      ∧ ∀ task ∈ (flushedTwice.get flushedTwice_isSome).tasks,
        (flushedTwice.get flushedTwice_isSome).Covers task := by
  have reached : system.ReachableUnder FencesFit (flushedTwice.get flushedTwice_isSome) :=
    .replay flushedActions ⟨2, 1, fun _ => 8, by decide, by decide, rfl⟩
      (by decide) (Option.some_get flushedTwice_isSome).symm
  have none : (flushedTwice.get flushedTwice_isSome).NoneSet := by
    unfold NoneSet
    decide
  exact ⟨by rfl, fun task member => (lastFlush_newest reached).1 task member (.inl none)⟩

/-- A render task of a new device with a page-table-set task before it. -/
def setActions : List SubmitAction :=
  [.createDevice, .begin ⟨.render, 1, 0, true, true⟩ [], .insertPageTableSet 0 []]

/-- The state these steps end in. -/
def setSubmitted : Option SubmitState := System.replay next (start 2 1 fun _ => 8) setActions

/-- The steps can be taken. -/
theorem setSubmitted_isSome : setSubmitted.isSome := by rfl

/-- The page-table-set task is forgotten by the reserved object, which stands for fence id 0
only.
-/
theorem lastFlush_forgets
    : ¬ ∀ state, system.Reachable state → ∀ task ∈ state.tasks, state.Covers task := by
  intro covered
  have reached : system.Reachable (setSubmitted.get setSubmitted_isSome) :=
    .replay setActions ⟨2, 1, fun _ => 8, by decide, by decide, rfl⟩
      (Option.some_get setSubmitted_isSome).symm
  have all := covered _ reached
  unfold Covers VmIdState.Covers at all
  exact absurd all (by decide)

end SubmitState

end Cx4Kernel.Vidsch
