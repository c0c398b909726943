import Cx4Kernel.Foundation.MachineInt
import Cx4Kernel.Foundation.Transition

/-! The dma fences of `linux/zx_fence.c`: waiters that enable signaling, submissions that
give a fence its value, and the event thread that signals what has come back.
-/

namespace Cx4Kernel.Linux

open Cx4Kernel.Foundation

-----------------------------------------------------------------------------------------
-- Data
-----------------------------------------------------------------------------------------

/-- The value a fence has before its task is submitted. -/
def placeholder : U64 := 0xffffffffffffffff

/-- `signal_mode`. -/
inductive SignalMode where
  | unset
  /-- `ZX_SEND_INTERRUPT` -/
  | sendInterrupt
  /-- `ZX_POLL_SIGNAL` -/
  | pollSignal
deriving DecidableEq

/-- How far `zx_dma_fence_enable_signaling` is. It is called at most once for a fence. -/
inductive EnablePhase where
  | uncalled
  /-- the first test, without `driver->lock`, found the fence not back -/
  | tested
  | returned (ret : Bool)
deriving DecidableEq

/-- How far `vidschi_update_and_release_dma_fence` is for the task of a fence. -/
inductive SubmitPhase where
  | uncalled
  /-- the fence has its value -/
  | updated
  /-- `need_send_irq` is decided -/
  | decided
  /-- the reference of the task is dropped -/
  | released
deriving DecidableEq

/-- A `zx_dma_fence` with its task. -/
structure DmaFence where
  engineIndex : Nat
  value : U64
  signalMode : SignalMode
  /-- the references taken by `dma_fence_init` and `dma_fence_get` and not put -/
  references : Nat
  /-- how often it was signaled -/
  signals : Nat
  enable : EnablePhase
  submit : SubmitPhase
  /-- `task->need_send_irq` -/
  needSendIrq : Bool
deriving DecidableEq

/-- What the event thread does next. -/
inductive ThreadPhase where
  /-- wait for an event or the timeout -/
  | wait
  /-- move the list of the driver to its own one -/
  | splice
  /-- look at these fences of its own list -/
  | scan (rest : List Nat)
  /-- the end of a pass -/
  | passed
  /-- move its own list back -/
  | spliceBack
deriving DecidableEq

/-- The fence driver, the fences and the event thread. Fences go by their number. -/
structure FenceState where
  fences : List DmaFence
  /-- `driver->fence_list` -/
  fenceList : List Nat
  fenceCount : Int
  pollCount : Int
  canFreeze : Bool
  /-- the trace point of `zx_dma_fence_need_send_irq` is enabled -/
  traced : Bool
  thread : ThreadPhase
  /-- `process_list` of the thread -/
  processList : List Nat
  /-- `returned_fence_id` of each engine -/
  returnedFenceId : Nat → U64

/-- Steps of waiters, submissions, engines and the event thread, which may find that the
system is freezing.
-/
inductive FenceAction where
  | create (engineIndex : Nat)
  | testEnable (fence : Nat)
  | enable (fence : Nat)
  | updateValue (fence : Nat) (value : U64)
  | decideIrq (fence : Nat)
  | release (fence : Nat)
  | grow (engineIndex : Nat) (fenceId : U64)
  | thread (freezing : Bool)

namespace FenceState

variable (state : FenceState)

/-- A fence is changed. -/
def change (fence : Nat) (update : DmaFence → DmaFence) : FenceState :=
  { state with fences := state.fences.modify fence update }

/-- `zx_dma_fence_signaled`, once the returned fence id is up to date. -/
def signaled (fence : DmaFence) : Bool := fence.value ≤ state.returnedFenceId fence.engineIndex

/-- `zx_dma_fence_create`, for a new task. -/
def create (engineIndex : Nat) : FenceState :=
  { state with
    fences := state.fences
      ++ [⟨engineIndex, placeholder, .unset, 1, 0, .uncalled, .uncalled, true⟩] }

-----------------------------------------------------------------------------------------
-- zx_dma_fence_enable_signaling
-----------------------------------------------------------------------------------------

/-- The call returns FALSE, so its caller in the kernel signals the fence. -/
def refuse (fence : Nat) : FenceState :=
  state.change fence fun entry =>
    { entry with enable := .returned false, signals := entry.signals + 1 }

/-- The first test. -/
def testEnable (fence : Nat) (entry : DmaFence) : FenceState :=
  if state.signaled entry then state.refuse fence
  else state.change fence ({ · with enable := .tested })

/-- The section under `driver->lock`. -/
def enable (fence : Nat) (entry : DmaFence) : FenceState :=
  if state.signaled entry then state.refuse fence
  else
    let polled := if entry.value = placeholder then 0 else 1
    let mode := if entry.value = placeholder then .sendInterrupt else .pollSignal
    let queued : FenceState :=
      { state with
        fenceList := state.fenceList ++ [fence]
        fenceCount := state.fenceCount + 1
        pollCount := state.pollCount + polled }
    queued.change fence fun entry =>
      { entry with
        enable := .returned true, references := entry.references + 1, signalMode := mode }

-----------------------------------------------------------------------------------------
-- vidschi_update_and_release_dma_fence
-----------------------------------------------------------------------------------------

/-- `zx_dma_fence_update_value`. -/
def updateValue (fence : Nat) (value : U64) : FenceState :=
  state.change fence ({ · with value := value, submit := .updated })

/-- `zx_dma_fence_need_send_irq`. -/
def needSendIrq (entry : DmaFence) : Bool := state.traced || entry.signalMode = .sendInterrupt

/-- The task gets `need_send_irq`. -/
def decideIrq (fence : Nat) (entry : DmaFence) : FenceState :=
  state.change fence ({ · with needSendIrq := state.needSendIrq entry, submit := .decided })

/-- `zx_dma_fence_release_cb`. -/
def release (fence : Nat) : FenceState :=
  state.change fence fun entry =>
    { entry with references := entry.references - 1, submit := .released }

-----------------------------------------------------------------------------------------
-- zx_dma_fence_event_thread
-----------------------------------------------------------------------------------------

/-- `list_splice_init` puts the list of the driver before its own one. -/
def splice : FenceState :=
  { state with
    processList := state.fenceList ++ state.processList
    fenceList := []
    thread := .scan (state.fenceList ++ state.processList) }

/-- The thread looks at one fence of its list, and signals it when it is back. -/
def scan (fence : Nat) (entry : DmaFence) (rest : List Nat) : FenceState :=
  if state.signaled entry then
    let polled := if entry.signalMode = .pollSignal then 1 else 0
    let taken : FenceState :=
      { state with
        pollCount := state.pollCount - polled
        processList := state.processList.erase fence
        fenceCount := state.fenceCount - 1
        thread := .scan rest }
    taken.change fence fun entry =>
      { entry with signals := entry.signals + 1, references := entry.references - 1 }
  else { state with thread := .scan rest }

/-- The end of a pass. When the system is freezing, the thread goes on until both lists are
empty.
-/
def passed (freezing : Bool) : FenceState :=
  if state.canFreeze then
    if freezing && !state.processList.isEmpty then
      { state with thread := .scan state.processList }
    else if freezing && !state.fenceList.isEmpty then { state with thread := .splice }
    else { state with thread := .spliceBack }
  else { state with thread := .wait }

/-- The thread gives back what is left. -/
def spliceBack : FenceState :=
  { state with
    fenceList := state.processList ++ state.fenceList
    processList := []
    thread := .wait }

/-- The next step of the thread. -/
def threadStep (freezing : Bool) : Option FenceState :=
  match state.thread with
  | .wait => some { state with thread := .splice }
  | .splice => some state.splice
  | .scan [] => some { state with thread := .passed }
  | .scan (fence :: rest) => state.fences[fence]?.map (state.scan fence · rest)
  | .passed => some (state.passed freezing)
  | .spliceBack => some state.spliceBack

-----------------------------------------------------------------------------------------
-- Runs
-----------------------------------------------------------------------------------------

/-- One step. A call goes through its steps in order, and returned fence ids only grow. -/
def next : FenceAction → Option FenceState
  | .create engineIndex => some (state.create engineIndex)
  | .testEnable fence => do
      let entry ← state.fences[fence]?
      if entry.enable = .uncalled then
        some (state.testEnable fence entry)
      else none
  | .enable fence => do
      let entry ← state.fences[fence]?
      if entry.enable = .tested then
        some (state.enable fence entry)
      else none
  | .updateValue fence value => do
      let entry ← state.fences[fence]?
      if entry.submit = .uncalled then
        some (state.updateValue fence value)
      else none
  | .decideIrq fence => do
      let entry ← state.fences[fence]?
      if entry.submit = .updated then
        some (state.decideIrq fence entry)
      else none
  | .release fence => do
      let entry ← state.fences[fence]?
      if entry.submit = .decided then
        some (state.release fence)
      else none
  | .grow engineIndex fenceId =>
      if state.returnedFenceId engineIndex ≤ fenceId then
        some { state with
          returnedFenceId := Function.update state.returnedFenceId engineIndex fenceId }
      else none
  | .thread freezing => state.threadStep freezing

/-- The state after `zx_dma_fence_driver` is created, before any task. -/
def start (traced : Bool) : FenceState where
  fences := []
  fenceList := []
  fenceCount := 0
  pollCount := 0
  canFreeze := true
  traced := traced
  thread := .wait
  processList := []
  returnedFenceId := fun _ => 0

/-- The system of one driver. -/
def system : System FenceState FenceAction :=
  System.ofFunction (fun state => ∃ traced, state = start traced) fun state => state.next

end FenceState

end Cx4Kernel.Linux
