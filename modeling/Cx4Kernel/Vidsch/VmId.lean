import Mathlib.Logic.Function.Basic
import Cx4Kernel.Vidsch.Fence

/-! The vm id manager, `vidsch_vm_id.c`: the hardware address spaces that devices take in
turn, each task leaving its fence on the one it runs in.
-/

namespace Cx4Kernel.Vidsch

open Cx4Kernel.Foundation

/-- `MAX_ENGINE_COUNT`. -/
def maxEngineCount : Nat := 12

/-- `zx_set_bit`. -/
def zxSetBit (bit : Nat) (bitmap : U32) : U32 := bitmap ||| BitVec.twoPow 32 bit

/-- `zx_clear_bit`. -/
def zxClearBit (bit : Nat) (bitmap : U32) : U32 := bitmap &&& ~~~ BitVec.twoPow 32 bit

-----------------------------------------------------------------------------------------
-- Fences of all engines
-----------------------------------------------------------------------------------------

/-- The fence counters of all engines, and the slots the hardware writes returned fences
to.
-/
structure EngineFences where
  counters : Nat → FenceCounters
  slot : Nat → U64

/-- `vidsch_is_fence_back` on `engine`. Until it reads the slot, the hardware may have
written the fence `arrived` there, if that is a later one.
-/
def EngineFences.isFenceBack (fences : EngineFences) (engine : Nat) (fenceId arrived : U64)
    : EngineFences × Bool :=
  let newFence := if fences.slot engine < arrived then arrived else fences.slot engine
  let (counters, back) := vidschIsFenceBack (fences.counters engine) newFence fenceId
  ({ counters := Function.update fences.counters engine counters
     slot := Function.update fences.slot engine newFence },
    back)

/-- `vidsch_wait_fence_back` with `force_wait`: check until the fence is back. There is no
result where `arrivals` ends before that.
-/
def vidschWaitFenceBack (engine : Nat) (fenceId : U64)
    : List U64 → EngineFences → Option (EngineFences × List U64)
  | [], _ => none
  | arrived :: arrivals, fences =>
      let (fences, back) := fences.isFenceBack engine fenceId arrived
      if back then some (fences, arrivals)
      else vidschWaitFenceBack engine fenceId arrivals fences

-----------------------------------------------------------------------------------------
-- The vm id objects
-----------------------------------------------------------------------------------------

/-- `zx_vm_id_obj_t`. -/
structure VmIdObj where
  vmId : Nat
  /-- the device using this vm id, 0 before the first one -/
  deviceUuid : Nat
  pdAge : U64
  /-- the engines whose last flush fence may be outstanding -/
  bitmap : U32
  /-- fence of the last task with this vm id on each engine -/
  lastFlush : Nat → U64

/-- `vidsch_vm_id_mgr_t`. -/
structure VmIdMgr where
  numIds : Nat
  reservedNumIds : Nat
  /-- the objects that are not reserved, least recently used first -/
  vmIdList : List Nat
  vmIdArray : Nat → VmIdObj

/-- `vidschi_init_vm_id_mgr` (`CHIP_CHX004`), for the numbers the chip is queried for. -/
def vidschiInitVmIdMgr (totalVmIdNum reservedVmIdNum : Nat) : VmIdMgr where
  numIds := totalVmIdNum
  reservedNumIds := reservedVmIdNum
  vmIdList := List.range' reservedVmIdNum (totalVmIdNum - reservedVmIdNum)
  vmIdArray index := ⟨index, 0, 0, 0, fun _ => 0⟩

/-- `vidschi_vm_id_add_sync`. -/
def vidschiVmIdAddSync (obj : VmIdObj) (fenceId : U64) (engineIdx : Nat) : VmIdObj :=
  { obj with
    lastFlush := Function.update obj.lastFlush engineIdx fenceId
    bitmap := zxSetBit engineIdx obj.bitmap }

/-- What a call works on while it holds the manager lock: an object, the fences, and the
fences that are still to arrive at its checks.
-/
structure IdleCheck where
  obj : VmIdObj
  fences : EngineFences
  arrivals : List U64

/-- The loop of `vidschi_is_vm_id_idle` over the bits of `bitmap` below `position`, the
most significant one first. The local bitmap loses each bit once it is handled, so the
next one is the most significant bit that is left.
-/
def isVmIdIdleBelow (bitmap : U32) : Nat → IdleCheck → IdleCheck × Bool
  | 0, check => (check, true)
  | engineIndex + 1, check =>
      if bitmap.getLsbD engineIndex then
        let (fences, back) := check.fences.isFenceBack engineIndex
          (check.obj.lastFlush engineIndex) (check.arrivals.headD 0)
        let arrivals := check.arrivals.tail
        if back then
          isVmIdIdleBelow bitmap engineIndex
            { obj := { check.obj with bitmap := zxClearBit engineIndex check.obj.bitmap }
              fences := fences
              arrivals := arrivals }
        else (⟨check.obj, fences, arrivals⟩, false)
      else isVmIdIdleBelow bitmap engineIndex check

/-- `vidschi_is_vm_id_idle`. -/
def vidschiIsVmIdIdle (check : IdleCheck) (engineMask : U32) : IdleCheck × Bool :=
  isVmIdIdleBelow (check.obj.bitmap &&& engineMask) 32 check

/-- The loop of `vidschi_wait_vm_id_idle` over the bits of `bitmap` below `position`. -/
def waitVmIdIdleBelow (bitmap : U32) : Nat → IdleCheck → Option IdleCheck
  | 0, check => some check
  | engineIndex + 1, check =>
      if bitmap.getLsbD engineIndex then do
        let (fences, arrivals) ← vidschWaitFenceBack engineIndex
          (check.obj.lastFlush engineIndex) check.arrivals check.fences
        waitVmIdIdleBelow bitmap engineIndex
          { obj := { check.obj with bitmap := zxClearBit engineIndex check.obj.bitmap }
            fences := fences
            arrivals := arrivals }
      else waitVmIdIdleBelow bitmap engineIndex check

/-- `vidschi_wait_vm_id_idle`. -/
def vidschiWaitVmIdIdle (check : IdleCheck) (engineMask : U32) : Option IdleCheck :=
  waitVmIdIdleBelow (check.obj.bitmap &&& engineMask) 32 check

/-- The inner loop of `vidschi_fini_vm_id_mgr`, over the engines that are left. -/
def finiVmIdObj : List Nat → IdleCheck → Option IdleCheck
  | [], check => some check
  | engine :: rest, check =>
      if check.obj.bitmap.getLsbD engine then do
        let (fences, arrivals) ←
          vidschWaitFenceBack engine (check.obj.lastFlush engine) check.arrivals check.fences
        finiVmIdObj rest
          { obj := { check.obj with bitmap := zxClearBit engine check.obj.bitmap }
            fences := fences
            arrivals := arrivals }
      else finiVmIdObj rest check

/-- The outer loop of `vidschi_fini_vm_id_mgr`, over the objects that are left. -/
def finiVmIdArray (vmIdArray : Nat → VmIdObj)
    : List Nat → EngineFences → List U64 → Option EngineFences
  | [], fences, _ => some fences
  | index :: rest, fences, arrivals => do
      let check ← finiVmIdObj (List.range maxEngineCount) ⟨vmIdArray index, fences, arrivals⟩
      finiVmIdArray vmIdArray rest check.fences check.arrivals

/-- `vidschi_fini_vm_id_mgr` up to the point where it frees the objects. -/
def vidschiFiniVmIdMgr (mgr : VmIdMgr) (fences : EngineFences) (arrivals : List U64)
    : Option EngineFences :=
  finiVmIdArray mgr.vmIdArray (List.range mgr.numIds) fences arrivals

-----------------------------------------------------------------------------------------
-- vidschi_choose_vm_id_004
-----------------------------------------------------------------------------------------

/-- The objects and fences while a call looks for an idle object. -/
structure IdleSearch where
  vmIdArray : Nat → VmIdObj
  fences : EngineFences
  arrivals : List U64

/-- The search on one object. -/
def IdleSearch.check (search : IdleSearch) (index : Nat) : IdleCheck :=
  ⟨search.vmIdArray index, search.fences, search.arrivals⟩

/-- The search after what was done to one object. -/
def IdleSearch.update (search : IdleSearch) (index : Nat) (check : IdleCheck) : IdleSearch :=
  ⟨Function.update search.vmIdArray index check.obj, check.fences, check.arrivals⟩

/-- `list_for_each_entry` over the vm id list, up to the first idle object. -/
def firstIdle : List Nat → IdleSearch → IdleSearch × Option Nat
  | [], search => (search, none)
  | index :: rest, search =>
      let (check, idle) := vidschiIsVmIdIdle (search.check index) (BitVec.allOnes 32)
      if idle then (search.update index check, some index)
      else firstIdle rest (search.update index check)

/-- `while (!vm_id_obj)`: look for an idle object, and wait for the first one of the list
when there is none. `rounds` bounds the loop.
-/
def findIdle (vmIdList : List Nat) : Nat → IdleSearch → Option (IdleSearch × Nat)
  | 0, _ => none
  | rounds + 1, search =>
      match firstIdle vmIdList search with
      | (search, some index) => some (search, index)
      | (search, none) => do
          let first ← vmIdList.head?
          let check ← vidschiWaitVmIdIdle (search.check first) (BitVec.allOnes 32)
          findIdle vmIdList rounds (search.update first check)

/-- The fields of `gpu_device_t` the manager uses. -/
structure Device where
  uuid : Nat
  vmId : Option Nat

/-- What a call of `vidschi_choose_vm_id_004` leaves behind. -/
structure ChosenVmId where
  index : Nat
  mgr : VmIdMgr
  device : Device
  fences : EngineFences

/-- The last part of `vidschi_choose_vm_id_004`: move the object to the tail of the list and
give it to the device.
-/
def takeVmId (mgr : VmIdMgr) (device : Device) (fences : EngineFences) (index : Nat)
    : ChosenVmId :=
  let mgr :=
    if index ≠ 0 then { mgr with vmIdList := mgr.vmIdList.erase index ++ [index] } else mgr
  if device.vmId ≠ some index ∨ (mgr.vmIdArray index).deviceUuid ≠ device.uuid then
    let obj := { mgr.vmIdArray index with deviceUuid := device.uuid, pdAge := 0 }
    { index := index
      mgr := { mgr with vmIdArray := Function.update mgr.vmIdArray index obj }
      device := { device with vmId := some index }
      fences := fences }
  else ⟨index, mgr, device, fences⟩

/-- The object a device already owns: a device may have been robbed of the one it points
to.
-/
def ownVmId (mgr : VmIdMgr) (device : Device) (reserved : Bool) : Option Nat :=
  if reserved then some 0
  else device.vmId.filter fun index => (mgr.vmIdArray index).deviceUuid = device.uuid

/-- `vidschi_choose_vm_id_004`. The search loop ends in its second round at the latest,
since the first object of the list is idle then.
-/
def vidschiChooseVmId004 (mgr : VmIdMgr) (device : Device) (reserved : Bool)
    (fences : EngineFences) (arrivals : List U64) : Option ChosenVmId :=
  match ownVmId mgr device reserved with
  | some index => some (takeVmId mgr device fences index)
  | none => do
      let (search, index) ← findIdle mgr.vmIdList 2 ⟨mgr.vmIdArray, fences, arrivals⟩
      return takeVmId { mgr with vmIdArray := search.vmIdArray } device search.fences index

-----------------------------------------------------------------------------------------
-- The manager and its devices
-----------------------------------------------------------------------------------------

/-- A task as it was submitted. -/
structure SubmittedTask where
  device : Nat
  vmId : Nat
  engine : Nat
  fenceId : U64

/-- The manager with its devices, the first of which is the reserved one, and what has been
submitted so far.
-/
structure VmIdState where
  mgr : VmIdMgr
  devices : List Device
  /-- `adapter->device_uuid`, an atomic counter -/
  deviceUuid : Nat
  fences : EngineFences
  /-- the last fence id used on each engine -/
  lastFence : Nat → U64
  tasks : List SubmittedTask

/-- Device creation, calls under the manager lock, hardware progress, and other users of
the fence counters.
-/
inductive VmIdAction where
  | createDevice
  | chooseVmId (device engine : Nat) (fenceId : U64) (arrivals : List U64)
  | fenceArrives (engine : Nat) (fenceId : U64)
  | useFence (engine : Nat) (action : FenceAction)

/-- What `action` reads from the fence slot is `slot`. -/
def FenceAction.Reads (slot : U64) : FenceAction → Prop
  | .incSendFenceId => True
  | .updateFenceId newFence | .isFenceBack newFence _ | .canPrepareDmaTask newFence _ =>
      newFence = slot

instance (slot : U64) : ∀ action, Decidable (FenceAction.Reads slot action)
  | .incSendFenceId => .isTrue trivial
  | .updateFenceId _ | .isFenceBack _ _ | .canPrepareDmaTask _ _ =>
      inferInstanceAs (Decidable (_ = _))

namespace VmIdState

/-- A call of `vidschi_choose_vm_id_004` for a device, by its place in the device list. -/
def choose (state : VmIdState) (deviceIndex : Nat) (arrivals : List U64) : Option ChosenVmId :=
  state.devices[deviceIndex]?.bind fun device =>
    vidschiChooseVmId004 state.mgr device (deviceIndex = 0) state.fences arrivals

/-- `vidschi_vm_id_add_sync` on the chosen object, which completes the pair of calls. -/
def addSync (state : VmIdState) (deviceIndex engine : Nat) (fenceId : U64)
    (chosen : ChosenVmId) : VmIdState :=
  let obj := vidschiVmIdAddSync (chosen.mgr.vmIdArray chosen.index) fenceId engine
  { state with
    mgr :=
      { chosen.mgr with vmIdArray := Function.update chosen.mgr.vmIdArray chosen.index obj }
    devices := state.devices.set deviceIndex chosen.device
    fences := chosen.fences
    lastFence := Function.update state.lastFence engine fenceId
    tasks := ⟨deviceIndex, chosen.index, engine, fenceId⟩ :: state.tasks }

/-- One step. Fence ids increase on each engine; the hardware writes later and later
fences.
-/
def next (state : VmIdState) : VmIdAction → Option VmIdState
  | .createDevice =>
      let uuid := state.deviceUuid + 1
      some { state with deviceUuid := uuid, devices := state.devices ++ [⟨uuid, none⟩] }
  | .chooseVmId device engine fenceId arrivals =>
      if engine < maxEngineCount ∧ state.lastFence engine < fenceId then
        (state.choose device arrivals).map (state.addSync device engine fenceId)
      else none
  | .fenceArrives engine fenceId =>
      if state.fences.slot engine ≤ fenceId then
        some
          { state with
            fences :=
              { state.fences with slot := Function.update state.fences.slot engine fenceId } }
      else none
  | .useFence engine action =>
      if action.Reads (state.fences.slot engine) then
        let counters := (state.fences.counters engine).after action
        some
          { state with
            fences :=
              { state.fences with
                counters := Function.update state.fences.counters engine counters } }
      else none

/-- The state after initialization, with the reserved device. -/
def start (totalVmIdNum reservedVmIdNum : Nat) (hwQueueSize : Nat → U32) : VmIdState where
  mgr := vidschiInitVmIdMgr totalVmIdNum reservedVmIdNum
  devices := [⟨2, none⟩]
  deviceUuid := 2
  fences := ⟨fun engine => fenceCountersInit (hwQueueSize engine), fun _ => 0⟩
  lastFence _ := 0
  tasks := []

/-- The manager under every interleaving. Vm id 0 is always reserved. -/
def system : System VmIdState VmIdAction :=
  System.ofFunction
    (fun state => ∃ totalVmIdNum reservedVmIdNum hwQueueSize,
      0 < reservedVmIdNum ∧ state = start totalVmIdNum reservedVmIdNum hwQueueSize)
    next

end VmIdState

end Cx4Kernel.Vidsch
