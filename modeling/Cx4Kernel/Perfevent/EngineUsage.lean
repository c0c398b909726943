import Cx4Kernel.Foundation.MachineInt
import Cx4Kernel.Foundation.Transition

/-! The engine usage of `perfevent.c` and `perfevent_e3k.c`: what the submission, the
completion and the vsync handler do with the idle time of engines. A call without a result
has made a subtraction that underflows or a division by 0.
-/

namespace Cx4Kernel.Perfevent

open Foundation

/-- `ENGINE_NONE`, `ENGINE_IDLE` and `ENGINE_BUSY`. -/
inductive EngineStatus where
  | none
  | idle
  | busy
deriving DecidableEq

/-- `hwq_event_info`, with all idle intervals that were ever added to `idle_time`. -/
structure HwqEventInfo where
  submitFenceId : U32
  completeFenceId : U32
  lastBusy2IdleTime : U64
  active : Bool
  status : EngineStatus
  idleTime : U64
  engineUsage : U64
  added : List (U64 × U64)

/-- What `zx_calloc` leaves. -/
def HwqEventInfo.zero : HwqEventInfo :=
  ⟨0, 0, 0, false, .none, 0, 0, []⟩

/-- `zx_hwq_info`. -/
structure HwqInfo where
  usage3d : U32
  usageVcp : U32
  usageVpp : U32

/-- The chips. -/
inductive ChipId where
  | chx004
  | cne001
deriving DecidableEq

/-- The indices of the engines. -/
def rbIndexGfxl : Nat := 0
def rbIndexGfxh : Nat := 1
def rbIndexVcp0 : Nat := 7
def rbIndexVcp1 : Nat := 8
def rbIndexVcp2 : Nat := 9
def rbIndexVpp0 : Nat := 10
def rbIndexVpp1 : Nat := 11

def isVcpEngine (chipId : ChipId) (engine : Nat) : Bool :=
  engine = rbIndexVcp0 || engine = rbIndexVcp1 || (chipId = .cne001 && engine = rbIndexVcp2)

def isVppEngine (chipId : ChipId) (engine : Nat) : Bool :=
  (chipId = .chx004 && engine = rbIndexVcp2)
    || (chipId = .cne001 && (engine = rbIndexVpp0 || engine = rbIndexVpp1))

/-- `hwq_event_mgr_t` with what the adapter has of the sampling, and the time of the last
call.
-/
structure HwqState where
  chipId : ChipId
  hwqEventEnable : Bool
  hwqStarted : Bool
  startTime : U64
  hwqEvents : List HwqEventInfo
  usage : HwqInfo
  now : U64

/-- A subtraction of the source that is meant not to underflow. -/
def subtract (a b : U64) : Option U64 :=
  if b ≤ a then some (a - b) else none

namespace HwqEventInfo

/-- `s_idle_time`: when the engine became idle, or the window started if that is later. -/
def sIdleTime (startTime : U64) (info : HwqEventInfo) : U64 :=
  if info.lastBusy2IdleTime < startTime then startTime else info.lastBusy2IdleTime

/-- Adds the time since then to the idle time. -/
def addIdle (startTime time : U64) (info : HwqEventInfo) : Option HwqEventInfo := do
  let idle ← subtract time (info.sIdleTime startTime)
  return { info with
    idleTime := info.idleTime + idle
    added := info.added ++ [(info.sIdleTime startTime, time)] }

/-- `addIdle` for an engine that is idle. -/
def addIfIdle (startTime time : U64) (info : HwqEventInfo) : Option HwqEventInfo :=
  if info.status = .idle then info.addIdle startTime time else some info

/-- `hwq_process_complete_event` for the engine. -/
def processComplete (time : U64) (fenceId : U32) (info : HwqEventInfo) : HwqEventInfo :=
  let info :=
    if info.submitFenceId = fenceId then
      { info with status := .idle, lastBusy2IdleTime := time }
    else { info with status := .busy }
  { info with completeFenceId := fenceId, active := true }

/-- `hwq_process_submit_event` for the engine. -/
def processSubmit (startTime time : U64) (fenceId : U32) (info : HwqEventInfo)
    : Option HwqEventInfo := do
  let info ← info.addIfIdle startTime time
  return { info with submitFenceId := fenceId, active := true, status := .busy }

/-- The turn of the loop of `hwq_process_vsync_event`. `zx_do_div` is the `do_div` of the
kernel.
-/
def sample (doDiv : U64 → U64 → Option U64) (startTime time : U64) (info : HwqEventInfo)
    : Option HwqEventInfo :=
  if info.active then do
    let info ← info.addIfIdle startTime time
    let window ← subtract time startTime
    let quotient ← doDiv (info.idleTime * 100) window
    let usage ← subtract 100 quotient
    return { info with engineUsage := usage, idleTime := 0, active := false }
  else
    some { info with
      engineUsage := if info.status = .busy then 100 else 0
      idleTime := 0 }

end HwqEventInfo

/-- The loop over the engines. -/
def sampleEngines (doDiv : U64 → U64 → Option U64) (startTime time : U64)
    : List HwqEventInfo → Option (List HwqEventInfo)
  | [] => some []
  | info :: rest => do
      let info ← info.sample doDiv startTime time
      let rest ← sampleEngines doDiv startTime time rest
      return info :: rest

/-- `perf_calculate_engine_usage_e3k`. -/
def perfCalculateEngineUsageE3k (chipId : ChipId) (hwqEvents : List HwqEventInfo) : HwqInfo :=
  hwqEvents.zipIdx.foldl
    (fun info (event, engine) =>
      let usage := event.engineUsage.setWidth 32
      { usage3d :=
          if (engine = rbIndexGfxl ∨ engine = rbIndexGfxh) ∧ info.usage3d < usage then usage
          else info.usage3d
        usageVcp :=
          if isVcpEngine chipId engine ∧ info.usageVcp < usage then usage else info.usageVcp
        usageVpp :=
          if isVppEngine chipId engine ∧ info.usageVpp < usage then usage
          else info.usageVpp })
    ⟨0, 0, 0⟩

/-- The calls, with their time. -/
inductive HwqCall where
  | submit (time : U64) (fenceId : U32) (engine : Nat)
  | complete (time : U64) (fenceId : U32) (engine : Nat)
  | vsync (time : U64)
deriving DecidableEq

def HwqCall.time : HwqCall → U64
  | submit time _ _ | complete time _ _ | vsync time => time

namespace HwqState

variable (doDiv : U64 → U64 → Option U64) (state : HwqState)

def hwqProcessSubmitEvent (time : U64) (fenceId : U32) (engine : Nat) : Option HwqState :=
  if !state.hwqStarted then some state
  else do
    let info ← state.hwqEvents[engine]?
    let info ← info.processSubmit state.startTime time fenceId
    return { state with hwqEvents := state.hwqEvents.set engine info }

def hwqProcessCompleteEvent (time : U64) (fenceId : U32) (engine : Nat) : Option HwqState :=
  if !state.hwqStarted then some state
  else do
    let info ← state.hwqEvents[engine]?
    return { state with
      hwqEvents := state.hwqEvents.set engine (info.processComplete time fenceId) }

/-- `hwq_process_vsync_event`. Sampling has started, so `hwq_get_hwq_info` starts nothing. -/
def hwqProcessVsyncEvent (time : U64) : Option HwqState :=
  if !state.hwqEventEnable || !state.hwqStarted then some state
  else do
    let window ← subtract time state.startTime
    if window < 1000000000 then return state
    let hwqEvents ← sampleEngines doDiv state.startTime time state.hwqEvents
    return { state with
      hwqEvents := hwqEvents
      usage := perfCalculateEngineUsageE3k state.chipId hwqEvents
      startTime := time }

/-- A call. -/
def call : HwqCall → Option HwqState
  | .submit time fenceId engine => state.hwqProcessSubmitEvent time fenceId engine
  | .complete time fenceId engine => state.hwqProcessCompleteEvent time fenceId engine
  | .vsync time => state.hwqProcessVsyncEvent doDiv time

/-- Calls that may come next: not before the last one, and for an engine there is. -/
def MayCall : HwqCall → Prop
  | .submit time _ engine | .complete time _ engine =>
      state.now ≤ time ∧ engine < state.hwqEvents.length
  | .vsync time => state.now ≤ time

instance : ∀ call, Decidable (state.MayCall call)
  | .submit _ _ _ | .complete _ _ _ => inferInstanceAs (Decidable (_ ∧ _))
  | .vsync _ => inferInstanceAs (Decidable (_ ≤ _))

def next (call : HwqCall) : Option HwqState :=
  if state.MayCall call then
    (state.call doDiv call).map fun after => { after with now := call.time }
  else none

/-- Sampling that has just been started. -/
def start (chipId : ChipId) (hwqEventEnable : Bool) (engines : Nat) (startTime : U64)
    : HwqState where
  chipId := chipId
  hwqEventEnable := hwqEventEnable
  hwqStarted := true
  startTime := startTime
  hwqEvents := .replicate engines .zero
  usage := ⟨0, 0, 0⟩
  now := startTime

/-- Calls from the start of sampling on. -/
def system : System HwqState HwqCall :=
  System.ofFunction
    (fun state => ∃ chipId hwqEventEnable engines startTime,
      state = start chipId hwqEventEnable engines startTime)
    (next doDiv)

end HwqState

end Cx4Kernel.Perfevent
