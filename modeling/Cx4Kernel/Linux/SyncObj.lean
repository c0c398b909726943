import Cx4Kernel.Foundation.MachineInt
import Cx4Kernel.Foundation.RefCounts
import Cx4Kernel.Foundation.Transition

/-! The sync object requests of `linux/zx_drm_syncobj.c`, with the driver's own table of
handles (kernels before 4.15). Calls of many threads interleave at the sections that take a
lock or change a reference count.
-/

namespace Cx4Kernel.Linux

open Foundation

-----------------------------------------------------------------------------------------
-- Data
-----------------------------------------------------------------------------------------

/-- The fences of sync objects: the stub, which is signaled, and those of tasks. -/
inductive SyncFence where
  | stub
  | task (fence : Nat)
deriving DecidableEq

/-- `zx_drm_syncobj_t`. Nothing is ever added to its `cb_list`. -/
structure SyncObj where
  refs : RefCount
  fence : Option SyncFence
deriving DecidableEq

/-- An entry of `syncobj_idr` of a file. -/
structure HandleEntry where
  file : Nat
  handle : U32
  object : Nat
deriving DecidableEq

/-- The requests, with the handles that their pointers lead to. -/
inductive SyncRequest where
  | create (flags : U32)
  | destroy (handle pad : U32)
  | wait (flags : U32) (handles : List U32)
  | reset (pad : U32) (handles : List U32)
  | getStatus (handle : U32)
deriving DecidableEq

/-- What a call does next. -/
inductive SyncStage where
  | entered
  /-- `zx_drm_syncobj_get_handle` takes its reference -/
  | created (object : Nat)
  /-- `idr_alloc_cyclic` -/
  | exporting (object : Nat)
  /-- the loop of `zx_drm_syncobj_array_find` -/
  | finding (rest : List U32)
  /-- its loop at `err_put_syncobjs` -/
  | unwinding (ret : Int)
  /-- the first loop of `zx_drm_syncobj_array_wait_timeout` -/
  | walking (rest : List Nat) (signaledCount : Nat)
  /-- its waiting loop -/
  | passing (timeout : Nat)
  | resetting (rest : List Nat)
  /-- `zx_drm_syncobj_fence_get` of the status request -/
  | reading (object : Option Nat)
  /-- put the objects that are held, then return -/
  | putting (ret : Int)
  | done (ret : Int)
  /-- a missing object was read -/
  | faulted
deriving DecidableEq

/-- A call in progress. The last three fields only record what it did. -/
structure SyncCall where
  file : Nat
  request : SyncRequest
  stage : SyncStage
  /-- the objects it has a reference to -/
  held : List Nat
  /-- `entries[i].fence` -/
  entries : List SyncFence
  first : U32
  /-- `handle`, `first_signaled` or `value` of the request -/
  output : U32
  /-- the handle that `idr_alloc_cyclic` returned -/
  allocated : Option U32
  /-- it named a handle that is not in the table -/
  missed : Bool
  /-- the objects whose fence it replaced -/
  replaced : List Nat
deriving DecidableEq

structure SyncState where
  objects : List SyncObj
  handles : List HandleEntry
  calls : List SyncCall

/-- What can fail at the start of a step. -/
inductive SyncFailure where
  | noMemory
  | badAddress
deriving DecidableEq

def SyncFailure.errno : SyncFailure → Int
  | noMemory => -12
  | badAddress => -14

/-- What the kernel decides in a step. -/
structure SyncChoice where
  failure : Option SyncFailure
  /-- what `idr_alloc_cyclic` returns, if it does not fail -/
  handle : Option U32
  /-- the tasks whose fences are signaled -/
  completed : Nat → Bool
  /-- the timeout in jiffies, or what is left of it after `schedule_timeout` -/
  timeout : Nat
  /-- `signal_pending(current)` -/
  pending : Bool

/-- `dma_fence_is_signaled`. -/
def SyncChoice.signaled (choice : SyncChoice) : SyncFence → Bool
  | .stub => true
  | .task fence => choice.completed fence

/-- Steps of calls. -/
inductive SyncAction where
  | enter (file : Nat) (request : SyncRequest) (output : U32)
  | advance (call : Nat) (choice : SyncChoice)

def SyncRequest.isCreate : SyncRequest → Bool
  | create _ => true
  | _ => false

namespace SyncCall

/-- `ZX_DRM_SYNCOBJ_WAIT_FLAGS_WAIT_ALL`. -/
def waitAll (call : SyncCall) : Bool :=
  match call.request with
  | .wait flags _ => flags.getLsbD 0
  | _ => false

def finish (call : SyncCall) (ret : Int) : SyncCall :=
  { call with stage := .done ret }

end SyncCall

-----------------------------------------------------------------------------------------
-- Steps
-----------------------------------------------------------------------------------------

namespace SyncState

variable (state : SyncState)

/-- `idr_find`. -/
def find (file : Nat) (handle : U32) : Option Nat :=
  (state.handles.find? fun entry => entry.file = file && entry.handle = handle).map (·.object)

/-- `idr_remove`. -/
def remove (file : Nat) (handle : U32) : SyncState :=
  { state with
    handles := state.handles.eraseP fun entry => entry.file = file && entry.handle = handle }

/-- `idr_alloc_cyclic`, for a handle that is free. -/
def name (file : Nat) (handle : U32) (object : Nat) : SyncState :=
  { state with handles := state.handles ++ [⟨file, handle, object⟩] }

/-- `zx_drm_syncobj_create` behind its allocation. -/
def create (fence : Option SyncFence) : SyncState :=
  { state with objects := state.objects ++ [⟨⟨1, 0⟩, fence⟩] }

/-- `zx_drm_syncobj_get`. -/
def get (object : Nat) : SyncState :=
  { state with
    objects := state.objects.modify object fun entry =>
      { entry with refs := entry.refs.get } }

/-- `zx_drm_syncobj_put`, with `zx_drm_syncobj_free` for the last reference. -/
def put (object : Nat) : SyncState :=
  { state with
    objects := state.objects.modify object fun entry =>
      { refs := entry.refs.put
        fence := if entry.refs.count - 1 = 0 then none else entry.fence } }

/-- `zx_drm_syncobj_replace_fence` with `NULL`. -/
def replaceFence (object : Nat) : SyncState :=
  { state with objects := state.objects.modify object ({ · with fence := none }) }

/-- A call goes on. -/
def set (index : Nat) (call : SyncCall) : SyncState :=
  { state with calls := state.calls.set index call }

/-- `zx_drm_syncobj_create_ioctl`, which ignores what it calls returns. -/
def enterCreate (index : Nat) (call : SyncCall) (flags : U32) (choice : SyncChoice)
    : SyncState :=
  if flags &&& ~~~1 ≠ 0 then state.set index (call.finish (-22))
  else if choice.failure.isSome then state.set index (call.finish 0)
  else
    let object := state.objects.length
    (state.create (if flags.getLsbD 0 then some .stub else none)).set index
      { call with held := [object], stage := .created object }

/-- `zx_drm_syncobj_destroy_ioctl`. -/
def enterDestroy (index : Nat) (call : SyncCall) (handle pad : U32) : SyncState :=
  if pad ≠ 0 then state.set index (call.finish (-22))
  else
    match state.find call.file handle with
    | none => state.set index { call.finish (-22) with missed := true }
    | some object =>
        (state.remove call.file handle).set index
          { call with held := [object], stage := .putting 0 }

/-- The checks of the wait and the reset request, and the allocations and the copy of
`zx_drm_syncobj_array_find`.
-/
def enterArray (index : Nat) (call : SyncCall) (valid : Bool) (handles : List U32)
    (choice : SyncChoice) : SyncState :=
  if !valid || handles.isEmpty then state.set index (call.finish (-22))
  else
    match choice.failure with
    | some failure => state.set index (call.finish failure.errno)
    | none => state.set index { call with stage := .finding handles }

/-- The lookup of `zx_drm_syncobj_get_status_ioctl`. -/
def enterGetStatus (index : Nat) (call : SyncCall) (handle : U32) : SyncState :=
  match state.find call.file handle with
  | none => state.set index { call with stage := .reading none, missed := true }
  | some object =>
      (state.get object).set index
        { call with held := [object], stage := .reading (some object) }

def enter (index : Nat) (call : SyncCall) (choice : SyncChoice) : SyncState :=
  match call.request with
  | .create flags => state.enterCreate index call flags choice
  | .destroy handle pad => state.enterDestroy index call handle pad
  | .wait flags handles => state.enterArray index call (flags &&& ~~~3 = 0) handles choice
  | .reset pad handles => state.enterArray index call (pad = 0) handles choice
  | .getStatus handle => state.enterGetStatus index call handle

/-- `zx_drm_syncobj_get_handle` behind its reference. When `idr_alloc_cyclic` fails the
reference is put, and the request returns 0 all the same.
-/
def exportObject (index : Nat) (call : SyncCall) (object : Nat) (choice : SyncChoice)
    : Option SyncState :=
  match choice.handle with
  | none =>
      some ((state.put object).set index
        { call with held := call.held.erase object, stage := .putting 0 })
  | some handle =>
      if handle ≠ 0 ∧ state.find call.file handle = none then
        some ((state.name call.file handle object).set index
          { call with
            held := call.held.erase object
            stage := .putting 0
            output := handle
            allocated := some handle })
      else none

/-- A turn of the loop of `zx_drm_syncobj_array_find`. -/
def findHandle (index : Nat) (call : SyncCall) (handle : U32) (rest : List U32) : SyncState :=
  match state.find call.file handle with
  | none => state.set index { call with stage := .unwinding (-2), missed := true }
  | some object =>
      (state.get object).set index
        { call with held := call.held ++ [object], stage := .finding rest }

/-- All handles were found. The wait request allocates its points and entries. -/
def found (index : Nat) (call : SyncCall) (choice : SyncChoice) : Option SyncState :=
  match call.request with
  | .wait _ _ =>
      if choice.failure = some .noMemory then
        some (state.set index { call with stage := .putting (-12) })
      else some (state.set index { call with stage := .walking call.held 0, first := -1 })
  | .reset _ _ => some (state.set index { call with stage := .resetting call.held })
  | _ => none

/-- A turn of the first loop of `zx_drm_syncobj_array_wait_timeout`. -/
def walk (index : Nat) (call : SyncCall) (object : Nat) (rest : List Nat) (signaledCount : Nat)
    (choice : SyncChoice) : Option SyncState := do
  let entry ← state.objects[object]?
  let fence := entry.fence.getD .stub
  let signaled := choice.signaled fence
  return state.set index { call with
    entries := call.entries ++ [fence]
    first :=
      if signaled ∧ signaledCount = 0 then BitVec.ofNat 32 call.entries.length else call.first
    stage := .walking rest (if signaled then signaledCount + 1 else signaledCount) }

/-- The end of the first loop. -/
def walked (index : Nat) (call : SyncCall) (signaledCount : Nat) (choice : SyncChoice)
    : SyncState :=
  if signaledCount = call.entries.length ∨ 0 < signaledCount ∧ call.waitAll = false then
    state.set index { call with stage := .putting 0, output := call.first }
  else state.set index { call with stage := .passing choice.timeout }

/-- A turn of the waiting loop. `dma_fence_add_callback` fails for a signaled fence. -/
def pass (index : Nat) (call : SyncCall) (timeout : Nat) (choice : SyncChoice) : SyncState :=
  let one := if call.waitAll then none else call.entries.findIdx? choice.signaled
  match one with
  | some first =>
      state.set index { call with
        stage := .putting 0
        first := BitVec.ofNat 32 first
        output := BitVec.ofNat 32 first }
  | none =>
      if call.waitAll ∧ call.entries.countP choice.signaled = call.entries.length then
        state.set index { call with stage := .putting 0, output := call.first }
      else if timeout = 0 then state.set index { call with stage := .putting (-62) }
      else if choice.pending then state.set index { call with stage := .putting (-512) }
      else state.set index { call with stage := .passing choice.timeout }

/-- The fence of the status request. Without an object it is read through `NULL`. -/
def read (index : Nat) (call : SyncCall) (object : Option Nat) (choice : SyncChoice)
    : Option SyncState :=
  match object with
  | none => some (state.set index { call with stage := .faulted })
  | some object => do
      let entry ← state.objects[object]?
      return state.set index { call with
        stage := .putting 0
        output := if entry.fence.any choice.signaled then 1 else call.output }

/-- A turn of the loop at `err_put_syncobjs`, or the return behind it. -/
def unwind (index : Nat) (call : SyncCall) (ret : Int) : SyncState :=
  match call.held.getLast? with
  | none => state.set index (call.finish ret)
  | some object => (state.put object).set index { call with held := call.held.dropLast }

/-- A turn of `zx_drm_syncobj_array_free`, or the return behind it. Calls with one object put
it the same way.
-/
def putHeld (index : Nat) (call : SyncCall) (ret : Int) : SyncState :=
  match call.held with
  | [] => state.set index (call.finish ret)
  | object :: rest => (state.put object).set index { call with held := rest }

/-- The next step of a call. -/
def advance (index : Nat) (call : SyncCall) (choice : SyncChoice) : Option SyncState :=
  match call.stage with
  | .entered => some (state.enter index call choice)
  | .created object =>
      some ((state.get object).set index
        { call with held := object :: call.held, stage := .exporting object })
  | .exporting object => state.exportObject index call object choice
  | .finding [] => state.found index call choice
  | .finding (handle :: rest) => some (state.findHandle index call handle rest)
  | .unwinding ret => some (state.unwind index call ret)
  | .walking [] signaledCount => some (state.walked index call signaledCount choice)
  | .walking (object :: rest) signaledCount =>
      state.walk index call object rest signaledCount choice
  | .passing timeout => some (state.pass index call timeout choice)
  | .resetting [] => some (state.set index { call with stage := .putting 0 })
  | .resetting (object :: rest) =>
      some ((state.replaceFence object).set index
        { call with stage := .resetting rest, replaced := call.replaced ++ [object] })
  | .reading object => state.read index call object choice
  | .putting ret => some (state.putHeld index call ret)
  | .done _ | .faulted => none

/-- One step. -/
def next : SyncAction → Option SyncState
  | .enter file request output =>
      some { state with
        calls := state.calls
          ++ [⟨file, request, .entered, [], [], 0, output, none, false, []⟩] }
  | .advance index choice => do
      let call ← state.calls[index]?
      state.advance index call choice

/-- Nothing created, no call. -/
def start : SyncState :=
  ⟨[], [], []⟩

/-- The requests of all files and threads. -/
def system : System SyncState SyncAction :=
  System.ofFunction (fun state => state = start) next

end SyncState

end Cx4Kernel.Linux
