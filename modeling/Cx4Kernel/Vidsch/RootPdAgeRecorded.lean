import Cx4Kernel.Vidsch.RootPdAge

/-! The age of a vm id is one that a root was set with. Several engines of a device may
choose at once, but they share one object, which no other device gets meanwhile.
-/

namespace Cx4Kernel.Vidsch

open Cx4Kernel.Foundation

-----------------------------------------------------------------------------------------
-- Ages under the steps of submissions
-----------------------------------------------------------------------------------------

namespace SubmitState

variable {state after : SubmitState} {engine other : Nat} {remembers : Prop}

/-- The ages of all objects but the reserved one are the same. -/
def SameAges (state after : SubmitState) : Prop :=
  ∀ index ≠ 0, (after.mgr.vmIdArray index).pdAge = (state.mgr.vmIdArray index).pdAge

/-- Leaving a fence on an object leaves the ages. -/
theorem addSync_pdAge {vmIds : VmIdState} {deviceIndex : Nat} {fenceId : U64}
    {chosen : ChosenVmId} (index : Nat)
    : ((vmIds.addSync deviceIndex engine fenceId chosen).mgr.vmIdArray index).pdAge
      = (chosen.mgr.vmIdArray index).pdAge := by
  simp only [VmIdState.addSync, Function.update_apply]
  split
  · next same => rw [same]; rfl
  · rfl

/-- A choice resets the age of its object unless the device owns it, and leaves the others. -/
theorem chooseVmId_ages {deviceIndex index : Nat} {fenceId : U64} {arrivals : List U64}
    (chooses : state.chooseVmId deviceIndex engine fenceId arrivals = some (after, index))
    : ∃ device, state.devices[deviceIndex]? = some device
      ∧ (ownsObj state.mgr device index
        → (after.mgr.vmIdArray index).pdAge = (state.mgr.vmIdArray index).pdAge)
      ∧ (¬ ownsObj state.mgr device index → (after.mgr.vmIdArray index).pdAge = 0)
      ∧ ∀ other ≠ index, (after.mgr.vmIdArray other).pdAge = (state.mgr.vmIdArray other).pdAge := by
  obtain ⟨device, chosen, found, call, _, registered, rfl⟩ := chooseVmId_cases chooses
  have keeps := VmIdState.choose_keeps found call
  have mgr : after.mgr = (state.vmIds.addSync deviceIndex engine fenceId chosen).mgr :=
    congrArg VmIdState.mgr registered
  refine ⟨device, found, fun own => ?_, fun other => ?_, fun other elsewhere => ?_⟩
  · rw [mgr, addSync_pdAge]
    exact keeps.age own
  · rw [mgr, addSync_pdAge]
    exact keeps.reset other
  · rw [mgr, addSync_pdAge]
    exact (keeps.others other elsewhere).2

/-- The ages after the first part of a submission. -/
theorem begin_ages {request : SubmitRequest} {arrivals : List U64}
    (begins : state.begin request arrivals = some after)
    : ∃ device submission, state.devices[request.device]? = some device
      ∧ after.underway = Function.update state.underway request.engine (some submission)
      ∧ submission.desc.device = request.device
      ∧ (ownsObj state.mgr device submission.desc.vmId
        → (after.mgr.vmIdArray submission.desc.vmId).pdAge
          = (state.mgr.vmIdArray submission.desc.vmId).pdAge)
      ∧ (¬ ownsObj state.mgr device submission.desc.vmId
        → (after.mgr.vmIdArray submission.desc.vmId).pdAge = 0)
      ∧ ∀ other ≠ submission.desc.vmId,
        (after.mgr.vmIdArray other).pdAge = (state.mgr.vmIdArray other).pdAge := by
  rw [begin] at begins
  cases taken : state.incSendFenceId request.engine with
  | mk sent fenceId =>
      rw [taken] at begins
      obtain ⟨rfl, _⟩ := Prod.mk.inj taken
      obtain ⟨⟨middle, vmId⟩, chooses, ends⟩ := Option.bind_eq_some_iff.mp begins
      obtain ⟨device, found, kept, reset, others⟩ := chooseVmId_ages chooses
      have same := (chooseVmId_spec chooses).1
      obtain rfl := Option.some.inj ends
      refine ⟨device, _, found, congrArg (Function.update · _ _) same.underway, rfl, kept, reset,
        others⟩

/-- A page-table-set task leaves the ages of all objects but the reserved one. -/
theorem Flushed.submitPageTableSetTask_ages (flushed : state.Flushed remembers)
    (ordered : state.Ordered) {target : Submission} {arrivals : List U64}
    (fits : (state.lastSend reservedEngineIndex).toNat + 1 < 2 ^ 64)
    (submits : state.submitPageTableSetTask engine target arrivals = some after)
    : state.SameAges after := by
  rw [SubmitState.submitPageTableSetTask] at submits
  cases taken : state.incSendFenceId reservedEngineIndex with
  | mk sent fenceId =>
      rw [taken] at submits
      obtain ⟨flushed', _⟩ := flushed.incSendFenceId ordered fits taken
      obtain ⟨rfl, _⟩ := Prod.mk.inj taken
      obtain ⟨⟨middle, vmId⟩, chooses, submits⟩ := Option.bind_eq_some_iff.mp submits
      obtain ⟨⟨last, kept, setFenceId⟩, assigns, ends⟩ := Option.bind_eq_some_iff.mp submits
      have zero : vmId = 0 := (flushed'.chooseVmId_index chooses).1.mp rfl
      obtain ⟨_, _, _, _, others⟩ := chooseVmId_ages chooses
      obtain rfl := Option.some.inj ends
      intro index positive
      refine Eq.trans ?_ (others index (zero ▸ positive))
      simp only [SubmitState.assignFenceIds] at assigns
      split at assigns
      · obtain ⟨device, _, assigns⟩ := Option.bind_eq_some_iff.mp assigns
        obtain ⟨pointed, _, assigns⟩ := Option.bind_eq_some_iff.mp assigns
        obtain ⟨rfl, _⟩ := by simpa only [Option.some.injEq, Prod.mk.injEq] using assigns
        simp only [writeRing, Function.update_apply]
        split
        · next same => rw [same]; rfl
        · rfl
      · obtain ⟨rfl, _⟩ := by simpa only [Option.some.injEq, Prod.mk.injEq] using assigns
        rfl

/-- Submissions under way share an object if and only if they are of one device. -/
theorem Flushed.vmId_eq_iff (flushed : state.Flushed remembers) {first second : Submission}
    (pending : state.Pending engine first) (pending' : state.Pending other second)
    (ordinary : first.desc.device ≠ 0) (ordinary' : second.desc.device ≠ 0)
    : first.desc.vmId = second.desc.vmId ↔ first.desc.device = second.desc.device := by
  obtain ⟨device, found, points, uuid⟩ := pending.owner
  obtain ⟨device', found', points', uuid'⟩ := pending'.owner
  constructor
  · intro same
    have bound : first.desc.device < (state.devices.map Device.uuid).length := by
      rw [List.length_map]
      exact (List.getElem?_eq_some_iff.mp found).1
    refine (List.getElem?_inj bound flushed.managed.uuids).mp ?_
    have equal : device.uuid = device'.uuid := by
      rw [← uuid ordinary, ← uuid' ordinary', same]
    simp only [List.getElem?_map, found, found', Option.map_some, equal]
  · intro same
    rw [same] at found
    obtain rfl := Option.some.inj (found.symm.trans found')
    exact Option.some.inj (points.symm.trans points')

/-- A submission of the reserved device uses the reserved object, and no other one does. -/
theorem Flushed.vmId_eq_zero_iff (flushed : state.Flushed remembers) {submission : Submission}
    (pending : state.Pending engine submission)
    : submission.desc.vmId = 0 ↔ submission.desc.device = 0 := by
  obtain ⟨device, found, points, _⟩ := pending.owner
  have mayPoint := flushed.managed.points _ device _ found points
  simp only [VmIdState.MayPoint] at mayPoint
  split at mayPoint
  · next reserved => simp only [mayPoint, reserved]
  · next ordinary =>
      exact iff_of_false (flushed.managed.ne_zero mayPoint) ordinary

end SubmitState

-----------------------------------------------------------------------------------------
-- What every run keeps
-----------------------------------------------------------------------------------------

namespace PdAgeState

variable {state after : PdAgeState} {engine other : Nat} {submission : Submission}

/-- The age of an object is at most the one its last root was set with. -/
def Bounded (state : PdAgeState) : Prop :=
  ∀ index ≠ 0, (state.pdAge index).sle (state.recorded index)

/-- Once the call on `engine` has issued its task, and until the age of its device is
increased, the last root was set with the present age or none was needed.
-/
def IssuedWith (state : PdAgeState) (engine : Nat) (submission : Submission) : Prop :=
  state.phase engine = .issued → submission.desc.device ≠ 0
  → state.increased submission.desc.device = false
  → state.rootPdAge submission.desc.device = state.recorded submission.desc.vmId
    ∨ state.isOld submission.desc.vmId submission.desc.device = false

/-- The invariant of the ages. -/
structure Recorded (state : PdAgeState) : Prop where
  ordered : state.submit.Ordered
  flushed : state.submit.Flushed state.submit.NoneSet
  bounded : state.Bounded
  issued : ∀ engine, ∀ submission ∈ state.submit.underway engine,
    state.IssuedWith engine submission

/-- A call that has issued its task is not affected by what leaves the ages of its object and
of its device.
-/
theorem IssuedWith.congr (issued : state.IssuedWith engine submission)
    (phase : after.phase engine = state.phase engine)
    (increased : after.increased submission.desc.device
      = state.increased submission.desc.device)
    (root : after.rootPdAge submission.desc.device = state.rootPdAge submission.desc.device)
    (recorded : after.recorded submission.desc.vmId = state.recorded submission.desc.vmId)
    (age : submission.desc.vmId ≠ 0
      → after.pdAge submission.desc.vmId = state.pdAge submission.desc.vmId)
    (vmId : submission.desc.device ≠ 0 → submission.desc.vmId ≠ 0)
    : after.IssuedWith engine submission := by
  intro here ordinary calm
  rw [phase] at here
  rw [increased] at calm
  simp only [isOld, root, recorded, age (vmId ordinary)]
  exact issued here ordinary calm

/-- A step of the scheduler that leaves the objects and what is under way keeps the
invariant.
-/
theorem Recorded.withSubmit (kept : state.Recorded) {submit : SubmitState}
    {action : SubmitAction} (fits : state.submit.FencesFit action)
    (taken : state.submit.next action = some submit)
    (ages : ∀ index, (submit.mgr.vmIdArray index).pdAge = state.pdAge index)
    (underway : ∀ engine, ∀ submission ∈ submit.underway engine,
      submission ∈ state.submit.underway engine)
    : (state.withSubmit submit).Recorded where
  ordered := kept.ordered.next fits taken
  flushed := kept.flushed.next kept.ordered fits taken
  bounded index positive := by
    rw [show (state.withSubmit submit).pdAge index = state.pdAge index from ages index]
    exact kept.bounded index positive
  issued engine submission member := by
    have earlier := underway engine submission member
    have zero := kept.flushed.vmId_eq_zero_iff (kept.flushed.underway engine submission earlier)
    exact (kept.issued engine submission earlier).congr rfl rfl rfl rfl (fun _ => ages _)
      fun ordinary => mt zero.mp ordinary

/-- Choosing an object keeps the invariant: one that is new to its device starts at 0. -/
theorem Recorded.choose (kept : state.Recorded) {request : SubmitRequest}
    {arrivals : List U64} (fits : state.submit.FencesFit (.begin request arrivals))
    (chooses : state.choose request arrivals = some after)
    : after.Recorded := by
  obtain ⟨submit, taken, chooses⟩ := Option.bind_eq_some_iff.mp chooses
  have ordered := kept.ordered.next fits taken
  have flushed := kept.flushed.next kept.ordered fits taken
  obtain ⟨started, held, chooses⟩ := Option.bind_eq_some_iff.mp chooses
  obtain ⟨owner, ownerFound, chooses⟩ := Option.bind_eq_some_iff.mp chooses
  obtain rfl := Option.some.inj chooses
  simp only [SubmitState.next, Option.ite_none_right_eq_some] at taken
  obtain ⟨device, begun, found, underway, device_eq, keep, reset, others⟩ :=
    SubmitState.begin_ages taken.2
  rw [underway, Function.update_self] at held
  obtain rfl := Option.some.inj held
  obtain rfl := Option.some.inj (ownerFound.symm.trans found)
  -- where another call has issued its task for the same object, the device owns it
  have owned : ∀ engine ≠ request.engine, ∀ submission ∈ state.submit.underway engine,
      submission.desc.device ≠ 0 → submission.desc.vmId = begun.desc.vmId
      → ownsObj state.submit.mgr owner begun.desc.vmId := by
    intro engine elsewhere submission member ordinary same
    have here : submit.underway request.engine = some begun := by
      rw [underway, Function.update_self]
    have there : submit.underway engine = some submission := by
      rw [underway, Function.update_of_ne elsewhere]
      exact member
    have pending := flushed.underway engine submission there
    have began := flushed.underway request.engine begun here
    have positive := mt (flushed.vmId_eq_zero_iff pending).mp ordinary
    have ordinary' := mt (flushed.vmId_eq_zero_iff began).mpr (same ▸ positive)
    have sameDevice := (flushed.vmId_eq_iff pending began ordinary ordinary').mp same
    obtain ⟨own, ownFound, points, uuid⟩ :=
      (kept.flushed.underway engine submission member).owner
    rw [sameDevice, device_eq] at ownFound
    obtain rfl := Option.some.inj (found.symm.trans ownFound)
    rw [← same]
    exact ⟨points, uuid ordinary⟩
  refine ⟨ordered, flushed, ?_, ?_⟩
  · intro index positive
    have earlier := kept.bounded index positive
    simp only [pdAge]
    by_cases same : index = begun.desc.vmId
    · subst same
      split
      · next own =>
          rw [keep own]
          exact earlier
      · next new =>
          rw [reset new, Function.update_self]
          decide
    · rw [others index same]
      split
      · exact earlier
      · rw [Function.update_of_ne same]
        exact earlier
  · intro engine submission member
    by_cases here : engine = request.engine
    · intro issued
      simp only [here, Function.update_self] at issued
      cases issued
    · rw [underway, Function.update_of_ne here] at member
      intro issued ordinary calm
      simp only [Function.update_of_ne here] at issued
      have earlier := kept.issued engine submission member issued ordinary calm
      simp only [isOld, pdAge]
      by_cases same : submission.desc.vmId = begun.desc.vmId
      · have own := owned engine here submission member ordinary same
        rw [same, if_pos own, keep own, ← same]
        exact earlier
      · rw [others _ same]
        split
        · exact earlier
        · rw [Function.update_of_ne same]
          exact earlier

/-- The test keeps the invariant: only the reserved device goes on without a task. -/
theorem Recorded.test (kept : state.Recorded) {dirty : Bool}
    (held : state.submit.underway engine = some submission)
    : (state.test engine dirty submission).Recorded := by
  refine ⟨kept.ordered, kept.flushed, kept.bounded, ?_⟩
  intro other waiting member issued ordinary
  by_cases here : other = engine
  · subst here
    obtain rfl := Option.some.inj (held.symm.trans member)
    simp only [PdAgeState.test, Function.update_self, if_neg ordinary] at issued
    split at issued <;> cases issued
  · simp only [PdAgeState.test, Function.update_of_ne here] at issued
    exact kept.issued other waiting member issued ordinary

/-- A page-table-set task keeps the invariant: it records the present age, for all calls of
the device.
-/
theorem Recorded.issue (kept : state.Recorded) {target : Submission} {arrivals : List U64}
    (fits : state.submit.FencesFit (.insertPageTableSet engine arrivals))
    (held : state.submit.underway engine = some target)
    (issues : state.issue engine target arrivals = some after)
    : after.Recorded := by
  obtain ⟨submit, taken, issues⟩ := Option.bind_eq_some_iff.mp issues
  have ordered := kept.ordered.next fits taken
  have flushed := kept.flushed.next kept.ordered fits taken
  obtain ⟨device, found, issues⟩ := Option.bind_eq_some_iff.mp issues
  obtain ⟨index, points, issues⟩ := Option.bind_eq_some_iff.mp issues
  obtain ⟨target', held', taken⟩ := Option.bind_eq_some_iff.mp taken
  obtain rfl := Option.some.inj (held.symm.trans held')
  simp only [Option.ite_none_right_eq_some] at taken
  have ages := kept.flushed.submitPageTableSetTask_ages kept.ordered fits taken.2
  obtain ⟨_, inserted, _, isTarget, _, _, _, underway⟩ :=
    SubmitState.submitPageTableSetTask_spec taken.2
  obtain ⟨own, ownFound, ownPoints, _⟩ := (kept.flushed.underway engine target held).owner
  obtain rfl := Option.some.inj (found.symm.trans ownFound)
  obtain rfl := Option.some.inj (points.symm.trans ownPoints)
  have here : submit.underway engine = some inserted := by
    rw [underway, Function.update_self]
  have same_desc : inserted.desc.device = target.desc.device
      ∧ inserted.desc.vmId = target.desc.vmId := by
    cases isTarget with
    | exchanged _ => exact ⟨rfl, rfl⟩
    | queued _ => exact ⟨rfl, rfl⟩
  have pending := flushed.underway engine inserted here
  have earlier : ∀ other ≠ engine, ∀ waiting ∈ submit.underway other,
      waiting ∈ state.submit.underway other := by
    intro other elsewhere waiting member
    rw [underway, Function.update_of_ne elsewhere] at member
    exact member
  split at issues
  · next old =>
      obtain rfl := Option.some.inj issues
      refine ⟨ordered, flushed, ?_, ?_⟩
      · intro index positive
        simp only [pdAge, ages index positive, Function.update_apply]
        split
        · next same =>
            subst same
            simp only [isOld, BitVec.slt_eq_decide, decide_eq_true_eq] at old
            simp only [BitVec.sle_eq_decide, decide_eq_true_eq]
            exact Int.le_of_lt old
        · exact kept.bounded index positive
      · intro other waiting member issued ordinary calm
        have waits := flushed.underway other waiting member
        have ordinary' : inserted.desc.device ≠ 0 := same_desc.1 ▸ taken.1.1
        have iff := flushed.vmId_eq_iff waits pending ordinary ordinary'
        rw [same_desc.1, same_desc.2] at iff
        by_cases same : waiting.desc.vmId = target.desc.vmId
        · refine .inl ?_
          simp only [same, iff.mp same, Function.update_self]
        · have differs := mt iff.mpr same
          have elsewhere : other ≠ engine := by
            rintro rfl
            obtain rfl := Option.some.inj (here.symm.trans member)
            exact differs same_desc.1
          have zero := mt (flushed.vmId_eq_zero_iff waits).mp ordinary
          simp only [Function.update_of_ne elsewhere] at issued
          simp only [Function.update_of_ne differs] at calm
          simp only [isOld, pdAge, ages _ zero, Function.update_of_ne same]
          exact kept.issued other waiting (earlier other elsewhere waiting member) issued
            ordinary calm
  · next recent =>
      obtain rfl := Option.some.inj issues
      refine ⟨ordered, flushed, ?_, ?_⟩
      · intro index positive
        simp only [pdAge, ages index positive]
        exact kept.bounded index positive
      · intro other waiting member issued ordinary calm
        have waits := flushed.underway other waiting member
        have zero := mt (flushed.vmId_eq_zero_iff waits).mp ordinary
        simp only [isOld, pdAge, ages _ zero]
        by_cases elsewhere : other = engine
        · subst elsewhere
          obtain rfl := Option.some.inj (here.symm.trans member)
          refine .inr ?_
          rw [same_desc.1, same_desc.2]
          exact Bool.not_eq_true _ |>.mp recent
        · simp only [Function.update_of_ne elsewhere] at issued
          exact kept.issued other waiting (earlier other elsewhere waiting member) issued
            ordinary calm

/-- An age leaves all else of the scheduler. -/
theorem setPdAge_kept {submit : SubmitState} {index : Nat} {age : U64}
    (ordered : submit.Ordered) (flushed : submit.Flushed submit.NoneSet)
    : (setPdAge submit index age).Ordered
      ∧ (setPdAge submit index age).Flushed (setPdAge submit index age).NoneSet := by
  have obj : ∀ other,
      ((setPdAge submit index age).mgr.vmIdArray other).bitmap
        = (submit.mgr.vmIdArray other).bitmap
      ∧ ((setPdAge submit index age).mgr.vmIdArray other).lastFlush
        = (submit.mgr.vmIdArray other).lastFlush
      ∧ ((setPdAge submit index age).mgr.vmIdArray other).deviceUuid
        = (submit.mgr.vmIdArray other).deviceUuid := by
    intro other
    simp only [setPdAge, Function.update_apply]
    split
    · next same => rw [same]; exact ⟨rfl, rfl, rfl⟩
    · exact ⟨rfl, rfl, rfl⟩
  have covers : ∀ task, submit.Covers task → (setPdAge submit index age).Covers task := by
    intro task covers
    simp only [SubmitState.Covers, VmIdState.Covers, SubmitState.vmIds] at covers ⊢
    rw [(obj task.vmId).1, (obj task.vmId).2.1]
    exact covers
  refine ⟨ordered.same ⟨rfl, rfl, rfl, rfl⟩ fun _ => BitVec.le_refl _, ?_⟩
  refine ⟨?_, flushed.reserved_le, flushed.inRing, ?_, flushed.inRange, ?_⟩
  · exact { flushed.managed with
      covered := fun _ none => absurd none List.not_mem_nil }
  · intro engine submission member
    have pending := flushed.underway engine submission member
    obtain ⟨device, found, points, uuid⟩ := pending.owner
    exact ⟨pending.narrow, pending.positive, covers _ pending.covers, pending.inRange,
      device, found, points, fun ordinary => (obj _).2.2.trans (uuid ordinary)⟩
  · exact fun task member remembered => covers task (flushed.covered task member remembered)

/-- The final assignment keeps the invariant unless the age was increased since. -/
theorem Recorded.assign (kept : state.Recorded)
    (held : state.submit.underway engine = some submission)
    (issued : state.phase engine = .issued)
    (calm : state.unincreased submission)
    : (state.assign engine submission).Recorded := by
  have pending := kept.flushed.underway engine submission held
  simp only [PdAgeState.assign]
  split
  · next old =>
      obtain ⟨ordered, flushed⟩ := @setPdAge_kept state.submit submission.desc.vmId
        (state.rootPdAge submission.desc.device) kept.ordered kept.flushed
      refine ⟨ordered, flushed, ?_, ?_⟩
      · intro index positive
        simp only [pdAge, setPdAge, Function.update_apply]
        split
        · next same =>
            subst same
            have ordinary := mt (kept.flushed.vmId_eq_zero_iff pending).mpr positive
            simp only [unincreased, ordinary, old, decide_false, Bool.not_true, Bool.or_self,
              Bool.false_or, Bool.not_eq_true'] at calm
            rcases kept.issued engine submission held issued ordinary calm
              with recorded | recent
            · simp only [recorded, BitVec.sle_eq_decide, Int.le_refl, decide_true]
            · rw [old] at recent
              cases recent
        · exact kept.bounded index positive
      · intro other waiting member issued' ordinary calm'
        by_cases here : other = engine
        · subst here
          simp only [Function.update_self] at issued'
          cases issued'
        · simp only [Function.update_of_ne here] at issued'
          have waits := kept.flushed.underway other waiting member
          simp only [isOld, pdAge, setPdAge]
          by_cases same : waiting.desc.vmId = submission.desc.vmId
          · have positive := mt (kept.flushed.vmId_eq_zero_iff waits).mp ordinary
            have ordinary' := mt (kept.flushed.vmId_eq_zero_iff pending).mpr (same ▸ positive)
            have sameDevice :=
              (kept.flushed.vmId_eq_iff waits pending ordinary ordinary').mp same
            refine .inr ?_
            rw [same, Function.update_self, sameDevice, BitVec.slt_eq_decide,
              decide_eq_false_iff_not]
            exact Int.lt_irrefl _
          · rw [Function.update_of_ne same]
            exact kept.issued other waiting member issued' ordinary calm'
  · refine ⟨kept.ordered, kept.flushed, kept.bounded, ?_⟩
    intro other waiting member issued' ordinary calm'
    by_cases here : other = engine
    · subst here
      simp only [Function.update_self] at issued'
      cases issued'
    · simp only [Function.update_of_ne here] at issued'
      exact kept.issued other waiting member issued' ordinary calm'

/-- A page-directory update keeps the invariant, which says nothing of an increased age. -/
theorem Recorded.updateMapping (kept : state.Recorded) (device : Nat)
    : ({ state with
          rootPdAge := Function.update state.rootPdAge device (state.rootPdAge device + 1)
          increased := Function.update state.increased device true } : PdAgeState).Recorded := by
  refine ⟨kept.ordered, kept.flushed, kept.bounded, ?_⟩
  intro engine waiting member issued ordinary calm
  by_cases here : waiting.desc.device = device
  · simp only [here, Function.update_self] at calm
    cases calm
  · simp only [Function.update_of_ne here] at calm
    simp only [isOld, Function.update_of_ne here]
    exact kept.issued engine waiting member issued ordinary calm

/-- Every step keeps the invariant, by cases on the step. -/
theorem Recorded.next {action : PdAgeAction} (kept : state.Recorded)
    (unraced : state.Unraced action) (taken : state.next action = some after)
    : after.Recorded := by
  cases action with
  | createDevice =>
      simp only [PdAgeState.next, Option.map_eq_some_iff] at taken
      obtain ⟨submit, taken, rfl⟩ := taken
      have fits : state.submit.FencesFit .createDevice := trivial
      have moved := taken
      obtain rfl := Option.some.inj moved
      exact kept.withSubmit fits taken (fun _ => rfl) fun _ _ member => member
  | fenceArrives engine fenceId =>
      simp only [PdAgeState.next, Option.map_eq_some_iff] at taken
      obtain ⟨submit, taken, rfl⟩ := taken
      have fits : state.submit.FencesFit (.fenceArrives engine fenceId) := trivial
      have moved := taken
      simp only [SubmitState.next, Option.ite_none_right_eq_some, Option.some.injEq] at moved
      obtain ⟨_, rfl⟩ := moved
      exact kept.withSubmit fits taken (fun _ => rfl) fun _ _ member => member
  | checkFence engine action =>
      simp only [PdAgeState.next, Option.map_eq_some_iff] at taken
      obtain ⟨submit, taken, rfl⟩ := taken
      have fits : state.submit.FencesFit (.checkFence engine action) := trivial
      have moved := taken
      simp only [SubmitState.next, Option.ite_none_right_eq_some, Option.some.injEq] at moved
      obtain ⟨_, rfl⟩ := moved
      exact kept.withSubmit fits taken (fun _ => rfl) fun _ _ member => member
  | choose request arrivals => exact kept.choose unraced taken
  | test engine dirty =>
      obtain ⟨submission, held, taken⟩ := Option.bind_eq_some_iff.mp taken
      simp only [Option.ite_none_right_eq_some, Option.some.injEq] at taken
      obtain ⟨_, rfl⟩ := taken
      exact kept.test held
  | issue engine arrivals =>
      obtain ⟨target, held, taken⟩ := Option.bind_eq_some_iff.mp taken
      simp only [Option.ite_none_right_eq_some] at taken
      exact kept.issue unraced held taken.2
  | assign engine =>
      obtain ⟨submission, held, taken⟩ := Option.bind_eq_some_iff.mp taken
      simp only [Option.ite_none_right_eq_some, Option.some.injEq] at taken
      obtain ⟨⟨issued, _⟩, rfl⟩ := taken
      rw [Unraced, held] at unraced
      exact kept.assign held issued unraced
  | finish engine =>
      simp only [PdAgeState.next, Option.ite_none_right_eq_some, Option.map_eq_some_iff] at taken
      obtain ⟨_, submit, taken, rfl⟩ := taken
      have fits : state.submit.FencesFit (.finish engine) := trivial
      have moved := taken
      obtain ⟨submission, held, moved⟩ := Option.bind_eq_some_iff.mp moved
      simp only [Option.ite_none_right_eq_some, Option.some.injEq] at moved
      obtain ⟨_, rfl⟩ := moved
      obtain ⟨_, _, _, _, _, _, _, _, underway, vmIds⟩ :=
        SubmitState.finish_spec (kept.ordered.underway engine submission held)
      have mgr := congrArg VmIdState.mgr vmIds
      refine kept.withSubmit fits taken
        (fun index => congrArg (fun mgr => (VmIdMgr.vmIdArray mgr index).pdAge) mgr) ?_
      intro other waiting member
      rw [underway, Function.update_apply] at member
      split at member
      · cases member
      · exact member
  | updateMapping device =>
      obtain rfl := Option.some.inj taken
      exact kept.updateMapping device

/-- In every run without a race, the age of an object is at most the one that was in force
when the last root was set for it on behalf of the device that owns it.
-/
theorem pdAge_recorded (reached : system.ReachableUnder Unraced state)
    : ∀ index ≠ 0, (state.pdAge index).sle (state.recorded index) := by
  have kept : state.Recorded := by
    apply reached.invariant
    · intro first begins
      obtain ⟨submit, begins, rfl⟩ := begins
      obtain ⟨totalVmIdNum, reservedVmIdNum, hwQueueSize, reserved, le, rfl⟩ := begins
      refine ⟨SubmitState.ordered_start _ _ _, SubmitState.flushed_start reserved le, ?_, ?_⟩
      · exact fun index _ => rfl
      · exact fun engine submission none => by cases none
    · intro before action after kept unraced taken
      exact kept.next unraced taken
  exact kept.bounded

/-- A new device submits a render task on the 3D engine, and a mapping call changes its page
directory before the root is set for the task.
-/
def setActions : List PdAgeAction :=
  [.createDevice, .choose ⟨.render, 1, 0, true, true⟩ [], .updateMapping 1, .test 0 false,
    .issue 0 [], .assign 0]

/-- The state these steps end in. -/
def rootSet : Option PdAgeState :=
  System.replay next (start (SubmitState.start 2 1 fun _ => 8)) setActions

/-- The steps can be taken. -/
theorem rootSet_isSome : rootSet.isSome := by rfl

/-- An initial state. -/
theorem start_initial : system.initial (start (SubmitState.start 2 1 fun _ => 8)) :=
  ⟨_, ⟨2, 1, fun _ => 8, by decide, by decide, rfl⟩, rfl⟩

/-- Both ages are 2. -/
theorem pdAge_recorded_rootSet
    : (rootSet.get rootSet_isSome).pdAge 1 = 2
      ∧ ((rootSet.get rootSet_isSome).pdAge 1).sle ((rootSet.get rootSet_isSome).recorded 1) := by
  have reached : system.ReachableUnder Unraced (rootSet.get rootSet_isSome) :=
    .replay setActions start_initial (by decide) (Option.some_get rootSet_isSome).symm
  exact ⟨by rfl, pdAge_recorded reached 1 (by decide)⟩

/-- The same with the mapping call after the root was set. -/
def racedActions : List PdAgeAction :=
  [.createDevice, .choose ⟨.render, 1, 0, true, true⟩ [], .test 0 false, .issue 0 [],
    .updateMapping 1, .assign 0]

/-- The state these steps end in. -/
def raced : Option PdAgeState :=
  System.replay next (start (SubmitState.start 2 1 fun _ => 8)) racedActions

/-- The steps can be taken. -/
theorem raced_isSome : raced.isSome := by rfl

/-- The object then has age 2, but its root was set with age 1. -/
theorem pdAge_lost
    : ¬ ∀ state, system.Reachable state
      → ∀ index ≠ 0, (state.pdAge index).sle (state.recorded index) := by
  intro recorded
  have reached : system.Reachable (raced.get raced_isSome) :=
    .replay racedActions start_initial (Option.some_get raced_isSome).symm
  exact absurd (recorded _ reached 1 (by decide)) (by decide)

end PdAgeState

end Cx4Kernel.Vidsch
