import Cx4Kernel.Vidsch.TaskQueue
import Cx4Kernel.Vidsch.VmId

/-! Submitting tasks to the rings, `vidsch_submit.c` and `vidsch_vm_id.c`: a task takes its
fence id, chooses its vm id, and may have a page-table-set task inserted before it, whose
fence id it exchanges with its own on engine 0.
-/

namespace Cx4Kernel.Vidsch

open Cx4Kernel.Foundation

/-- `RESERVED_ENGINE_INDEX`, the engine of the reserved context. -/
def reservedEngineIndex : Nat := 0

/-- `IS_VIDEO_ENGINE`. -/
def isVideoEngine (engine : Nat) : Bool := 7 ≤ engine ∧ engine ≤ 11

/-- The fields of `task_desc_t` that a submission reads and writes. The context is given by
the place of its device in the device list, its engine (`rb_index`), and whether its client
type is one that the ring commands of the 3D engine are written for.
-/
structure SubmitDesc where
  uuid : Nat
  type : TaskType
  device : Nat
  engine : Nat
  clientKnown : Bool
  vmId : Nat
  fenceId : U64
  /-- the value of its `dma_fence`, if it has one -/
  dmaFence : Option U64

/-- The chip's `submit` writes the commands of the task and the fence behind them: on the 3D
engine it does so for the client types it knows.
-/
def SubmitDesc.Written (desc : SubmitDesc) : Prop := isVideoEngine desc.engine ∨ desc.clientKnown

instance : DecidablePred SubmitDesc.Written := fun _ => inferInstanceAs (Decidable (_ ∨ _))

/-- What a submission is called with. -/
structure SubmitRequest where
  type : TaskType
  device : Nat
  engine : Nat
  clientKnown : Bool
  hasDmaFence : Bool
deriving DecidableEq

/-- Render tasks are submitted on the engines whose `chip_func` has `submit`; paging and
vm-update tasks come on the reserved context, without a `dma_fence`.
-/
def SubmitRequest.Valid (request : SubmitRequest) : Prop :=
  match request.type with
  | .render => request.engine = 0 ∨ isVideoEngine request.engine
  | .paging | .vmUpdate =>
      request.device = 0 ∧ request.engine = reservedEngineIndex ∧ request.hasDmaFence = false
  | .vmPrepare | .pageTableSet => False

instance : DecidablePred SubmitRequest.Valid := fun request => by
  unfold SubmitRequest.Valid
  cases request.type <;> infer_instance

/-- The descriptor of a task that is called with `request`. -/
def SubmitRequest.desc (request : SubmitRequest) (uuid vmId : Nat) (fenceId : U64)
    : SubmitDesc where
  uuid := uuid
  type := request.type
  device := request.device
  engine := request.engine
  clientKnown := request.clientKnown
  vmId := vmId
  fenceId := fenceId
  dmaFence := if request.hasDmaFence then some 0 else none

/-- The descriptor of a page-table-set task, which is on the reserved context. -/
def pageTableSetDesc (uuid vmId : Nat) (fenceId : U64) : SubmitDesc where
  uuid := uuid
  type := .pageTableSet
  device := 0
  engine := reservedEngineIndex
  clientKnown := true
  vmId := vmId
  fenceId := fenceId
  dmaFence := none

/-- `zx_dma_fence_update_value` in `vidschi_update_and_release_dma_fence`. -/
def vidschiUpdateAndReleaseDmaFence (desc : SubmitDesc) : SubmitDesc :=
  { desc with dmaFence := desc.dmaFence.map fun _ => desc.fenceId }

/-- A fence command in a ring, and the task it stands behind. -/
structure RingFence where
  task : Nat
  fenceId : U64
deriving DecidableEq

/-- The fence command with the fence id a task has recorded. -/
def SubmitDesc.fence (desc : SubmitDesc) : RingFence := ⟨desc.uuid, desc.fenceId⟩

/-- A submission that holds the lock of its engine, between its call of
`vidschi_choose_vm_id_004` and its commands.
-/
structure Submission where
  desc : SubmitDesc
  /-- the variable `fence_id` of the submitting function -/
  fenceId : U64
  /-- its page-table-set task has been submitted -/
  inserted : Bool
  /-- the fence of that task, if the submission waits for it -/
  waitsFor : Option U64

/-- The rings, the vm id manager with its devices, and what has been submitted. -/
structure SubmitState where
  mgr : VmIdMgr
  /-- the first one is the reserved device -/
  devices : List Device
  /-- `adapter->device_uuid` -/
  deviceUuid : Nat
  fences : EngineFences
  /-- the fence commands of each ring, the newest first -/
  ring : Nat → List RingFence
  /-- who holds the lock of each engine -/
  underway : Nat → Option Submission
  /-- the tasks whose submission is complete, the newest first -/
  tasks : List SubmitDesc
  /-- the last uuid given to a task -/
  lastUuid : Nat

namespace SubmitState

/-- The manager and its devices. -/
def vmIds (state : SubmitState) : VmIdState where
  mgr := state.mgr
  devices := state.devices
  deviceUuid := state.deviceUuid
  fences := state.fences
  lastFence _ := 0
  tasks := []

/-- `vidschi_inc_send_fence_id` of an engine: the fences and the new fence id. -/
def incSendFenceId (state : SubmitState) (engine : Nat) : SubmitState × U64 :=
  let (counters, fenceId) := vidschiIncSendFenceId (state.fences.counters engine)
  ({ state with
      fences :=
        { state.fences with
          counters := Function.update state.fences.counters engine counters } },
    fenceId)

/-- The last fence id in a ring. -/
def written (state : SubmitState) (engine : Nat) : U64 :=
  (state.ring engine).head?.elim 0 RingFence.fenceId

/-- The hardware has written no fence that is not in its ring. -/
def InRing (state : SubmitState) (fences : EngineFences) : Prop :=
  ∀ engine < maxEngineCount, fences.slot engine ≤ state.written engine

instance (state : SubmitState) (fences : EngineFences) : Decidable (state.InRing fences) :=
  inferInstanceAs (Decidable (∀ engine < maxEngineCount, _))

/-- The part of `vidsch_choose_vm_id` under the manager lock: choose an object for the
device, and leave the fence of the task on it.
-/
def chooseVmId (state : SubmitState) (device engine : Nat) (fenceId : U64)
    (arrivals : List U64) : Option (SubmitState × Nat) := do
  let chosen ← state.vmIds.choose device arrivals
  if state.InRing chosen.fences then
    let vmIds := state.vmIds.addSync device engine fenceId chosen
    some
      ({ state with mgr := vmIds.mgr, devices := vmIds.devices, fences := vmIds.fences },
        chosen.index)
  else none

/-- The first part of `vidschi_submit_dma`, `vidsch_submit_paging_task` and
`vidsch_submit_vm_update_task`.
-/
def begin (state : SubmitState) (request : SubmitRequest) (arrivals : List U64)
    : Option SubmitState := do
  let (state, fenceId) := state.incSendFenceId request.engine
  let (state, vmId) ← state.chooseVmId request.device request.engine fenceId arrivals
  let desc := request.desc (state.lastUuid + 1) vmId fenceId
  some
    { state with
      lastUuid := state.lastUuid + 1
      underway :=
        Function.update state.underway request.engine (some ⟨desc, fenceId, false, none⟩) }

/-- A fence command after the commands of a task. -/
def writeRing (state : SubmitState) (engine : Nat) (entry : RingFence) : SubmitState :=
  { state with ring := Function.update state.ring engine (entry :: state.ring engine) }

/-- The fence ids of a page-table-set task and of its target in
`vidsch_submit_page_table_set_task`. On one engine the set task jumps the queue, so the two
are exchanged, and the object of the target gets its new one. A target on a video engine
keeps its own and waits for the fence of the set task.
-/
def assignFenceIds (state : SubmitState) (targetEngine : Nat) (target : Submission)
    (fenceId : U64) : Option (SubmitState × Submission × U64) :=
  if targetEngine = reservedEngineIndex then do
    let device ← state.devices[target.desc.device]?
    let index ← device.vmId
    let obj := vidschiVmIdAddSync (state.mgr.vmIdArray index) fenceId targetEngine
    some
      ({ state with
          mgr := { state.mgr with vmIdArray := Function.update state.mgr.vmIdArray index obj } },
        { target with desc := { target.desc with fenceId := fenceId }, inserted := true },
        target.desc.fenceId)
  else some (state, { target with inserted := true, waitsFor := some fenceId }, fenceId)

/-- `vidsch_submit_page_table_set_task`. The new task registers for its object before it has
a fence id (its memory is zeroed).
-/
def submitPageTableSetTask (state : SubmitState) (targetEngine : Nat) (target : Submission)
    (arrivals : List U64) : Option SubmitState := do
  let (state, fenceId) := state.incSendFenceId reservedEngineIndex
  let (state, vmId) ← state.chooseVmId 0 reservedEngineIndex 0 arrivals
  let (state, target, setFenceId) ← state.assignFenceIds targetEngine target fenceId
  let desc := pageTableSetDesc (state.lastUuid + 1) vmId setFenceId
  let state := state.writeRing reservedEngineIndex desc.fence
  some
    { state with
      lastUuid := state.lastUuid + 1
      tasks := desc :: state.tasks
      underway := Function.update state.underway targetEngine (some target) }

/-- The last part of a submission. Render tasks are written with the fence id of their
descriptor, the others with the one their function holds.
-/
def finish (state : SubmitState) (engine : Nat) (submission : Submission) : SubmitState :=
  let desc :=
    if submission.desc.type = .render then vidschiUpdateAndReleaseDmaFence submission.desc
    else submission.desc
  let fenceId := if desc.type = .render then desc.fenceId else submission.fenceId
  let state :=
    if desc.Written then state.writeRing engine ⟨desc.uuid, fenceId⟩ else state
  { state with
    tasks := desc :: state.tasks
    underway := Function.update state.underway engine none }

end SubmitState

/-- The steps on the fence counters that take no new fence id. -/
def FenceAction.isCheck : FenceAction → Bool
  | .incSendFenceId => false
  | .updateFenceId _ | .isFenceBack _ _ | .canPrepareDmaTask _ _ => true

/-- Steps of submissions, hardware progress, and checks of the fence counters elsewhere. -/
inductive SubmitAction where
  | createDevice
  | begin (request : SubmitRequest) (arrivals : List U64)
  | insertPageTableSet (target : Nat) (arrivals : List U64)
  | finish (engine : Nat)
  | fenceArrives (engine : Nat) (fenceId : U64)
  | checkFence (engine : Nat) (action : FenceAction)

namespace SubmitState

/-- The steps of a page-table-set task whose target holds the lock of `engine`: it is taken
inside that lock on its own engine, and after the lock of its own engine otherwise. Tasks of
the reserved device have none.
-/
def MayInsert (state : SubmitState) (engine : Nat) (target : Submission) : Prop :=
  target.desc.device ≠ 0 ∧ target.inserted = false
  ∧ (engine = reservedEngineIndex
    ∨ (state.underway reservedEngineIndex).isNone)

instance (state : SubmitState) (engine : Nat) (target : Submission)
    : Decidable (state.MayInsert engine target) :=
  inferInstanceAs (Decidable (_ ∧ _ ∧ _))

/-- A fence the submission waits for has returned. -/
def mayFinish (state : SubmitState) (submission : Submission) : Bool :=
  submission.waitsFor.all fun fenceId =>
    fenceId ≤ (state.fences.counters reservedEngineIndex).returnedFenceId

/-- One step. -/
def next (state : SubmitState) : SubmitAction → Option SubmitState
  | .createDevice =>
      let uuid := state.deviceUuid + 1
      some { state with deviceUuid := uuid, devices := state.devices ++ [⟨uuid, none⟩] }
  | .begin request arrivals =>
      if request.Valid ∧ (state.underway request.engine).isNone then
        state.begin request arrivals
      else none
  | .insertPageTableSet engine arrivals => do
      let target ← state.underway engine
      if state.MayInsert engine target then state.submitPageTableSetTask engine target arrivals
      else none
  | .finish engine => do
      let submission ← state.underway engine
      if state.mayFinish submission then some (state.finish engine submission) else none
  | .fenceArrives engine fenceId =>
      if state.fences.slot engine ≤ fenceId ∧ fenceId ≤ state.written engine then
        some
          { state with
            fences :=
              { state.fences with slot := Function.update state.fences.slot engine fenceId } }
      else none
  | .checkFence engine action =>
      if action.isCheck ∧ action.Reads (state.fences.slot engine) then
        let counters := (state.fences.counters engine).after action
        some
          { state with
            fences :=
              { state.fences with
                counters := Function.update state.fences.counters engine counters } }
      else none

/-- The state after initialization, with the reserved device. -/
def start (totalVmIdNum reservedVmIdNum : Nat) (hwQueueSize : Nat → U32) : SubmitState where
  mgr := vidschiInitVmIdMgr totalVmIdNum reservedVmIdNum
  devices := [⟨2, none⟩]
  deviceUuid := 2
  fences := ⟨fun engine => fenceCountersInit (hwQueueSize engine), fun _ => 0⟩
  ring _ := []
  underway _ := none
  tasks := []
  lastUuid := 0

/-- Submissions on all engines under every interleaving. Vm id 0 is always reserved. -/
def system : System SubmitState SubmitAction :=
  System.ofFunction
    (fun state => ∃ totalVmIdNum reservedVmIdNum hwQueueSize,
      0 < reservedVmIdNum ∧ reservedVmIdNum ≤ totalVmIdNum
      ∧ state = start totalVmIdNum reservedVmIdNum hwQueueSize)
    next

/-- The fence ids of all engines fit 64 bits. -/
def FencesFit (state : SubmitState) : SubmitAction → Prop
  | .begin request _ =>
      (state.fences.counters request.engine).lastSendFenceId.toNat + 1 < 2 ^ 64
  | .insertPageTableSet _ _ =>
      (state.fences.counters reservedEngineIndex).lastSendFenceId.toNat + 1 < 2 ^ 64
  | _ => True

instance (state : SubmitState) : ∀ action, Decidable (state.FencesFit action)
  | .begin _ _ | .insertPageTableSet _ _ => inferInstanceAs (Decidable (_ < _))
  | .createDevice | .finish _ | .fenceArrives _ _ | .checkFence _ _ => .isTrue trivial

end SubmitState

end Cx4Kernel.Vidsch
