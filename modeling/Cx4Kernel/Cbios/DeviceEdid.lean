import Cx4Kernel.Foundation.Transition
import Cx4Kernel.Cbios.EdidRead

/-! The cached EDID of a device and the fake one: `cbGetDeviceEDID` of `CBiosDeviceShare.c`,
`cbDevSetEdid` of `CBiosDevice.c`, and any order of calls of them.
-/

namespace Cx4Kernel.Cbios

open Cx4Kernel.Foundation

-----------------------------------------------------------------------------------------
-- EDID data
-----------------------------------------------------------------------------------------

/-- `cbClearEdidData`, with the pool that its buffer goes back to. -/
def cbClearEdidData (edidData : EdidData) (pool : Pool) : EdidData × Pool :=
  (.null, edidData.buffer.elim pool pool.free)

/-- `cbCopyBuffer2EdidData`, or none if it returns FALSE. A buffer of the same size stays. -/
def cbCopyBuffer2EdidData (edidData : EdidData) (buffer : List U8) (allocated : Bool) (pool : Pool)
    : Option (EdidData × Pool) :=
  if buffer = [] then none
  else if edidData.bytes.length = buffer.length then some ({ edidData with bytes := buffer }, pool)
  else if allocated then
    let (tmpBuffer, pool) := pool.allocate
    some (⟨some tmpBuffer, buffer⟩, edidData.buffer.elim pool pool.free)
  else none

/-- The part of `CBIOS_DEVICE_COMMON` that holds EDIDs. -/
structure DeviceCommon where
  edidData : EdidData
  fakeEdid : EdidData
  isFakeEdid : Bool
  connectedDevSignature : DeviceSignature

-----------------------------------------------------------------------------------------
-- cbDevSetEdid
-----------------------------------------------------------------------------------------

/-- `cbDevSetEdid`. No bytes remove the fake EDID. -/
def cbDevSetEdid (device : DeviceCommon) (edidData : List U8) (allocated : Bool) (pool : Pool)
    : DeviceCommon × Pool :=
  if edidData = [] then
    let (fakeEdid, pool) := cbClearEdidData device.fakeEdid pool
    ({ device with fakeEdid, isFakeEdid := false }, pool)
  else if cbEdidModuleIsEdidValid edidData then
    match cbCopyBuffer2EdidData device.fakeEdid edidData allocated pool with
    | some (fakeEdid, pool) => ({ device with fakeEdid, isFakeEdid := true }, pool)
    | none => (device, pool)
  else (device, pool)

-----------------------------------------------------------------------------------------
-- cbGetDeviceEDID
-----------------------------------------------------------------------------------------

/-- One call of `cbGetDeviceEDID` and what it meets: the monitor that is connected, how its reads
go, and which allocations succeed.
-/
structure Detection where
  monitor : Monitor
  dpMode : Bool
  fullDetect : Bool
  /-- the reads of `cbGetDeviceSignature`, one after the other -/
  signatureLine : EdidSource.Line
  /-- the reads of `cbGetFullEdid`, by block -/
  edidLine : EdidSource.Line
  allocated : Option Nat → Bool

/-- Where the reads of a call go. -/
def Detection.source (detection : Detection) (device : DeviceCommon) : EdidSource :=
  ⟨detection.dpMode, device.edidData.bytes, detection.monitor⟩

/-- What `cbGetDeviceEDID` leaves. -/
structure DetectResult where
  device : DeviceCommon
  pool : Pool
  bGotEdid : Bool
  bDevChanged : Bool

/-- The end of a call that read from the monitor: a changed device gets the new EDID, and
otherwise that is freed.
-/
def finishDetection (device : DeviceCommon) (edidData : EdidData) (newSignature : DeviceSignature)
    (pool : Pool) (bGotEdid bDevChanged : Bool) : DetectResult :=
  if bDevChanged then
    let (_, pool) := cbClearEdidData device.edidData pool
    ⟨{ device with edidData, connectedDevSignature := newSignature }, pool, bGotEdid, true⟩
  else
    let (_, pool) := cbClearEdidData edidData pool
    ⟨device, pool, bGotEdid, false⟩

/-- `cbGetDeviceEDID`. -/
def cbGetDeviceEdid (device : DeviceCommon) (detection : Detection) (pool : Pool)
    : DetectResult :=
  let source := detection.source device
  if device.isFakeEdid then
    if device.fakeEdid.bytes ≠ device.edidData.bytes then
      match cbCopyBuffer2EdidData device.edidData device.fakeEdid.bytes (detection.allocated none)
        pool with
      | some (edidData, pool) => ⟨{ device with edidData }, pool, true, true⟩
      | none => ⟨device, pool, false, false⟩
    else ⟨device, pool, true, false⟩
  else if detection.fullDetect then
    let (edidData, pool) := source.cbGetFullEdid detection.edidLine detection.allocated pool
    if cbEdidModuleIsEdidValid edidData.bytes then
      let newSignature := cbGetDeviceSignatureFromEdid edidData.bytes
      finishDetection device edidData newSignature pool true
        (device.connectedDevSignature ≠ newSignature)
    else finishDetection device edidData .zero pool false false
  else
    match (source.cbGetDeviceSignature.run.run detection.signatureLine).1 with
    | none => finishDetection device .null .zero pool false false
    | some newSignature =>
        if device.connectedDevSignature ≠ newSignature then
          let (edidData, pool) := source.cbGetFullEdid detection.edidLine detection.allocated pool
          let valid := cbEdidModuleIsEdidValid edidData.bytes
          finishDetection device edidData newSignature pool valid valid
        else finishDetection device .null newSignature pool true false

-----------------------------------------------------------------------------------------
-- Runs
-----------------------------------------------------------------------------------------

/-- What is known of the last call if it was one of `cbGetDeviceEDID`. -/
structure Detected where
  monitor : Monitor
  bGotEdid : Bool
  bDevChanged : Bool
  /-- the cache before the call -/
  before : EdidData

/-- A device with its pool. `filledFrom` is no data of the program: it is the monitor that the
cache was filled from, or none if it holds a fake EDID or nothing.
-/
structure DeviceState where
  device : DeviceCommon
  pool : Pool
  filledFrom : Option Monitor
  detected : Option Detected

/-- Calls of the two functions. -/
inductive DeviceCall where
  | setEdid (edidData : List U8) (allocated : Bool)
  | getDeviceEdid (detection : Detection)

namespace DeviceState

/-- The state after a call. -/
def call (state : DeviceState) : DeviceCall → DeviceState
  | .setEdid edidData allocated =>
      let (device, pool) := cbDevSetEdid state.device edidData allocated state.pool
      { state with device, pool, detected := none }
  | .getDeviceEdid detection =>
      let result := cbGetDeviceEdid state.device detection state.pool
      { device := result.device
        pool := result.pool
        filledFrom :=
          if result.bDevChanged then
            if state.device.isFakeEdid then none else some detection.monitor
          else state.filledFrom
        detected :=
          some ⟨detection.monitor, result.bGotEdid, result.bDevChanged, state.device.edidData⟩ }

/-- One step, which is always possible. -/
def next (state : DeviceState) (call : DeviceCall) : Option DeviceState := some (state.call call)

/-- No EDID, and a signature of zeros. -/
def start : DeviceState where
  device := ⟨.null, .null, false, .zero⟩
  pool := ⟨[]⟩
  filledFrom := none
  detected := none

/-- The calls in any order. -/
def system : System DeviceState DeviceCall := System.ofFunction (· = start) next

end DeviceState

end Cx4Kernel.Cbios
