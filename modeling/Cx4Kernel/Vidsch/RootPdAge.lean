import Cx4Kernel.Vidsch.VmIdFlush

/-! The age of the root page directory a vm id is set to: the steps of `vidsch_choose_vm_id`
on several engines, between calls of `vidmm_vm_update_mapping` that increase
`root_pd_age`.
-/

namespace Cx4Kernel.Vidsch

open Cx4Kernel.Foundation

instance (mgr : VmIdMgr) (device : Device) (index : Nat)
    : Decidable (ownsObj mgr device index) :=
  inferInstanceAs (Decidable (_ ∧ _))

/-- How far the call of `vidsch_choose_vm_id` is on an engine. -/
inductive ChoosePhase where
  /-- the object is chosen -/
  | chosen
  /-- a page-table-set task is needed -/
  | wanted
  /-- that task was submitted, or the device is the reserved one, which has none -/
  | issued
  /-- the call has returned -/
  | done
deriving DecidableEq

/-- Submissions with the ages of the page directories. -/
structure PdAgeState where
  submit : SubmitState
  /-- `vma_space->root_pd_age` of each device -/
  rootPdAge : Nat → U64
  phase : Nat → ChoosePhase
  /-- the age that was in force when the last root was set for each vm id on behalf of the
  device that owns it, 0 if there was none
  -/
  recorded : Nat → U64
  /-- the age of a device was increased since the last root was set for it -/
  increased : Nat → Bool

/-- Steps of submissions, and page-directory updates. -/
inductive PdAgeAction where
  | createDevice
  | fenceArrives (engine : Nat) (fenceId : U64)
  | checkFence (engine : Nat) (action : FenceAction)
  | choose (request : SubmitRequest) (arrivals : List U64)
  | test (engine : Nat) (dirty : Bool)
  | issue (engine : Nat) (arrivals : List U64)
  | assign (engine : Nat)
  | finish (engine : Nat)
  | updateMapping (device : Nat)

namespace PdAgeState

/-- `vm_id_obj->pd_age`. -/
def pdAge (state : PdAgeState) (index : Nat) : U64 := (state.submit.mgr.vmIdArray index).pdAge

/-- The comparison `vm_id_obj->pd_age < vma_space->root_pd_age`, of two `long long`. -/
def isOld (state : PdAgeState) (index device : Nat) : Bool :=
  (state.pdAge index).slt (state.rootPdAge device)

/-- A step that leaves the ages alone. -/
def withSubmit (state : PdAgeState) (submit : SubmitState) : PdAgeState :=
  { state with submit := submit }

/-- The call up to the test, which holds the manager lock: a new owner of the object has had
no root set.
-/
def choose (state : PdAgeState) (request : SubmitRequest) (arrivals : List U64)
    : Option PdAgeState := do
  let submit ← state.submit.next (.begin request arrivals)
  let submission ← submit.underway request.engine
  let device ← state.submit.devices[request.device]?
  let index := submission.desc.vmId
  some
    { state with
      submit := submit
      phase := Function.update state.phase request.engine .chosen
      recorded :=
        if ownsObj state.submit.mgr device index then state.recorded
        else Function.update state.recorded index 0 }

/-- The test after the manager lock is given up. `dirty` is what the call reads of the dirty
ranges of its engine.
-/
def test (state : PdAgeState) (engine : Nat) (dirty : Bool) (submission : Submission)
    : PdAgeState :=
  let phase :=
    if submission.desc.device = 0 then .issued
    else if !state.isOld submission.desc.vmId submission.desc.device && !dirty then .done
    else .wanted
  { state with phase := Function.update state.phase engine phase }

/-- `vidsch_submit_page_table_set_task`: set the root of the device for its object, or
invalidate the TLB only.
-/
def issue (state : PdAgeState) (engine : Nat) (target : Submission) (arrivals : List U64)
    : Option PdAgeState := do
  let submit ← state.submit.next (.insertPageTableSet engine arrivals)
  let device ← state.submit.devices[target.desc.device]?
  let index ← device.vmId
  let phase := Function.update state.phase engine .issued
  if state.isOld index target.desc.device then
    some
      { state with
        submit := submit
        phase := phase
        recorded := Function.update state.recorded index (state.rootPdAge target.desc.device)
        increased := Function.update state.increased target.desc.device false }
  else some { state with submit := submit, phase := phase }

/-- `vm_id_obj->pd_age = age`. -/
def setPdAge (submit : SubmitState) (index : Nat) (age : U64) : SubmitState :=
  let obj := { submit.mgr.vmIdArray index with pdAge := age }
  { submit with
    mgr := { submit.mgr with vmIdArray := Function.update submit.mgr.vmIdArray index obj } }

/-- The final assignment, which reads `root_pd_age` anew. -/
def assign (state : PdAgeState) (engine : Nat) (submission : Submission) : PdAgeState :=
  let index := submission.desc.vmId
  let device := submission.desc.device
  let phase := Function.update state.phase engine .done
  if state.isOld index device then
    { state with
      submit := setPdAge state.submit index (state.rootPdAge device)
      phase := phase }
  else { state with phase := phase }

/-- One step. -/
def next (state : PdAgeState) : PdAgeAction → Option PdAgeState
  | .createDevice => (state.submit.next .createDevice).map state.withSubmit
  | .fenceArrives engine fenceId =>
      (state.submit.next (.fenceArrives engine fenceId)).map state.withSubmit
  | .checkFence engine action =>
      (state.submit.next (.checkFence engine action)).map state.withSubmit
  | .choose request arrivals => state.choose request arrivals
  | .test engine dirty => do
      let submission ← state.submit.underway engine
      if state.phase engine = .chosen then some (state.test engine dirty submission) else none
  | .issue engine arrivals => do
      let target ← state.submit.underway engine
      if state.phase engine = .wanted then state.issue engine target arrivals else none
  | .assign engine => do
      let submission ← state.submit.underway engine
      if state.phase engine = .issued ∧ state.submit.mayFinish submission then
        some (state.assign engine submission)
      else none
  | .finish engine =>
      if state.phase engine = .done then
        (state.submit.next (.finish engine)).map state.withSubmit
      else none
  | .updateMapping device =>
      some
        { state with
          rootPdAge := Function.update state.rootPdAge device (state.rootPdAge device + 1)
          increased := Function.update state.increased device true }

/-- The state after initialization: `root_pd_age` starts at 1. -/
def start (submit : SubmitState) : PdAgeState where
  submit := submit
  rootPdAge _ := 1
  phase _ := .done
  recorded _ := 0
  increased _ := false

/-- Submissions and page-directory updates under every interleaving. -/
def system : System PdAgeState PdAgeAction :=
  System.ofFunction
    (fun state => ∃ submit, SubmitState.system.initial submit ∧ state = start submit) next

/-- If the final assignment raises the age, then `root_pd_age` was not increased since the last
root was set for the device.
-/
def unincreased (state : PdAgeState) (submission : Submission) : Bool :=
  submission.desc.device = 0 || !state.isOld submission.desc.vmId submission.desc.device
    || !state.increased submission.desc.device

/-- Fence ids fit 64 bits, and no age is increased between a root set and the final
assignment.
-/
def Unraced (state : PdAgeState) : PdAgeAction → Prop
  | .choose request arrivals => state.submit.FencesFit (.begin request arrivals)
  | .issue engine arrivals => state.submit.FencesFit (.insertPageTableSet engine arrivals)
  | .assign engine => (state.submit.underway engine).all state.unincreased
  | _ => True

instance (state : PdAgeState) : ∀ action, Decidable (state.Unraced action)
  | .choose request arrivals =>
      inferInstanceAs (Decidable (state.submit.FencesFit (.begin request arrivals)))
  | .issue engine arrivals =>
      inferInstanceAs (Decidable (state.submit.FencesFit (.insertPageTableSet engine arrivals)))
  | .assign _ => inferInstanceAs (Decidable (_ = true))
  | .createDevice | .fenceArrives _ _ | .checkFence _ _ | .test _ _ | .finish _
  | .updateMapping _ => .isTrue trivial

end PdAgeState

end Cx4Kernel.Vidsch
