import Cx4Kernel.Foundation.MachineInt
import Cx4Kernel.Foundation.Transition

/-! The ring of interrupt events of `core/perfevent/perfevent.c`: interrupts append events
to it while a reader copies them to the user.
-/

namespace Cx4Kernel.Perfevent

open Cx4Kernel.Foundation

-----------------------------------------------------------------------------------------
-- Data
-----------------------------------------------------------------------------------------

/-- `PERF_EVENT_MAX_ISR_EVENT_BUFFER_SIZE`. -/
def maxIsrEventBufferSize : U32 := 512 * 1024

/-- A `zx_perf_event_t` by its bytes, as many as `header.size` says. -/
structure PerfEvent where
  bytes : List UInt8
  size_lt : bytes.length < 2 ^ 32

/-- `perf_event->header.size`. -/
def PerfEvent.size (event : PerfEvent) : U32 := BitVec.ofNat 32 event.bytes.length

/-- Memory by the distance from the begin of `isr_event_buffer`. -/
abbrev Memory : Type := Int → UInt8

/-- `zx_memcpy` to an address. -/
def Memory.copy (memory : Memory) (address : Int) (source : List UInt8) : Memory := fun place =>
  if address ≤ place then source.getD (place - address).toNat (memory place) else memory place

/-- `count` bytes from an address on. -/
def Memory.read (memory : Memory) (address : Int) (count : Nat) : List UInt8 :=
  (List.range count).map fun distance : Nat => memory (address + distance)

/-- The fields of `perf_event_mgr_t` that belong to interrupt events. -/
structure PerfEventMgr where
  perfStarted : Bool
  isrEventBuffer : Memory
  /-- offset in bytes -/
  isrEventTail : U32
  /-- offset in bytes -/
  isrEventHead : U32
  /-- size in bytes -/
  isrEventBufferSize : U32
  isrEventNum : U32

/-- The `isr_` fields of `zx_get_perf_event_t`. The user fills in the whole structure, and
gets it back after the call.
-/
structure GetPerfEvent where
  isrFilledNum : U32
  isrFilledSize : U32
deriving DecidableEq

-----------------------------------------------------------------------------------------
-- Producers
-----------------------------------------------------------------------------------------

namespace PerfEventMgr

/-- `perf_event_begin`. -/
def perfEventBegin (mgr : PerfEventMgr) : PerfEventMgr :=
  { mgr with
    isrEventHead := 0, isrEventTail := 0, isrEventBufferSize := 0, perfStarted := true }

/-- `perf_event_end`. -/
def perfEventEnd (mgr : PerfEventMgr) : PerfEventMgr := { mgr with perfStarted := false }

/-- The test for room in `perf_event_add_isr_event`. The size of the event is unsigned, so
the sum is too.
-/
def hasRoom (mgr : PerfEventMgr) (event : PerfEvent) : Bool :=
  mgr.isrEventBufferSize + event.size < maxIsrEventBufferSize

/-- The buffer after an event is copied behind the tail, in two parts when it reaches the
end.
-/
def copyEvent (mgr : PerfEventMgr) (event : PerfEvent) : Memory :=
  let tail := mgr.isrEventTail.toInt
  if tail + event.size.toNat < maxIsrEventBufferSize.toInt then
    mgr.isrEventBuffer.copy tail event.bytes
  else
    let partialCopySize := (maxIsrEventBufferSize.toInt - tail).toNat
    (mgr.isrEventBuffer.copy tail (event.bytes.take partialCopySize)).copy 0
      (event.bytes.drop partialCopySize)

/-- The test of `perf_event_add_isr_event` that decides whether the event is taken. -/
def accepts (mgr : PerfEventMgr) (event : PerfEvent) : Bool :=
  mgr.perfStarted && mgr.hasRoom event

/-- `perf_event_add_isr_event`. An event without room is dropped. -/
def perfEventAddIsrEvent (mgr : PerfEventMgr) (event : PerfEvent) : PerfEventMgr :=
  if mgr.accepts event then
    { mgr with
      isrEventBuffer := mgr.copyEvent event
      isrEventTail := (mgr.isrEventTail + event.size) % maxIsrEventBufferSize
      isrEventBufferSize := mgr.isrEventBufferSize + event.size
      isrEventNum := mgr.isrEventNum + 1 }
  else mgr

end PerfEventMgr

-----------------------------------------------------------------------------------------
-- The reader
-----------------------------------------------------------------------------------------

/-- What a call of `perf_event_get_isr_event` does next. -/
inductive ReadPhase where
  /-- read the counters under the lock -/
  | snapshot
  /-- copy to the user, up to the end of the buffer -/
  | copy
  /-- copy the part from the begin of the buffer -/
  | copyRest
  /-- move the head -/
  | moveHead
  /-- count down under the lock and return -/
  | updateCounters
deriving DecidableEq

/-- A call of `perf_event_get_isr_event` that has not returned, with its locals. -/
structure IsrRead where
  phase : ReadPhase
  args : GetPerfEvent
  eventFillNumber : U32
  eventFillSize : U32
  /-- what the copies wrote to the user's buffer, from its begin on -/
  copied : List UInt8

/-- A call that returned 0: what it wrote, and the fields of its argument. -/
structure FinishedRead where
  copied : List UInt8
  args : GetPerfEvent
deriving DecidableEq

/-- The ring, its reader and what they did. -/
structure IsrState where
  mgr : PerfEventMgr
  read : Option IsrRead
  /-- the events taken by `perf_event_add_isr_event` so far -/
  accepted : List PerfEvent
  finished : List FinishedRead

/-- Steps of the interrupts, of the reader and of the calls that start and end a trace. -/
inductive IsrAction where
  | perfEventBegin
  | perfEventEnd
  | addIsrEvent (event : PerfEvent)
  | getIsrEvent (args : GetPerfEvent)
  | readStep

namespace IsrState

/-- An interrupt adds an event. -/
def addIsrEvent (state : IsrState) (event : PerfEvent) : IsrState :=
  { state with
    mgr := state.mgr.perfEventAddIsrEvent event
    accepted := if state.mgr.accepts event then state.accepted ++ [event] else state.accepted }

/-- First locked section of the reader. Without events it returns 0 at once and leaves the
fields of its argument as they are.
-/
def snapshot (state : IsrState) (read : IsrRead) : IsrState :=
  if state.mgr.isrEventNum = 0 then
    { state with
      mgr := { state.mgr with isrEventNum := 0, isrEventBufferSize := 0 }
      read := none
      finished := state.finished ++ [⟨read.copied, read.args⟩] }
  else
    { state with
      read := some { read with
        phase := .copy
        eventFillNumber := state.mgr.isrEventNum
        eventFillSize := state.mgr.isrEventBufferSize } }

/-- First copy of the reader. A count that is negative as an `int` is refused by
`copy_to_user`.
-/
def copy (state : IsrState) (read : IsrRead) : IsrState :=
  let head := state.mgr.isrEventHead
  if (head + read.eventFillSize).sle maxIsrEventBufferSize then
    let count := state.mgr.isrEventBufferSize.toInt.toNat
    { state with
      read := some { read with
        phase := .moveHead
        copied := read.copied ++ state.mgr.isrEventBuffer.read head.toInt count } }
  else
    let fillSizePartial := (maxIsrEventBufferSize - head).toInt.toNat
    { state with
      read := some { read with
        phase := .copyRest
        copied := read.copied ++ state.mgr.isrEventBuffer.read head.toInt fillSizePartial } }

/-- Second copy of the reader, to the place behind the first one. -/
def copyRest (state : IsrState) (read : IsrRead) : IsrState :=
  { state with
    read := some { read with
      phase := .moveHead
      copied := read.copied
        ++ state.mgr.isrEventBuffer.read 0 read.eventFillSize.toInt.toNat } }

/-- The reader moves the head. -/
def moveHead (state : IsrState) (read : IsrRead) : IsrState :=
  { state with
    mgr := { state.mgr with
      isrEventHead := (state.mgr.isrEventHead + read.eventFillSize).srem maxIsrEventBufferSize }
    read := some { read with phase := .updateCounters } }

/-- Second locked section of the reader, and its return. -/
def updateCounters (state : IsrState) (read : IsrRead) : IsrState :=
  { state with
    mgr := { state.mgr with
      isrEventNum := state.mgr.isrEventNum - read.eventFillNumber
      isrEventBufferSize := state.mgr.isrEventBufferSize - read.eventFillSize }
    read := none
    finished := state.finished
      ++ [⟨read.copied, ⟨read.eventFillNumber, read.eventFillSize⟩⟩] }

/-- The next step of `perf_event_get_isr_event`. -/
def readStep (state : IsrState) (read : IsrRead) : IsrState :=
  match read.phase with
  | .snapshot => state.snapshot read
  | .copy => state.copy read
  | .copyRest => state.copyRest read
  | .moveHead => state.moveHead read
  | .updateCounters => state.updateCounters read

/-- One step. The assertions of `perf_event_begin` and `perf_event_end` hold when these are
called, there is one reader, and a call of it before the begin of a trace fails at once.
-/
def next (state : IsrState) : IsrAction → Option IsrState
  | .perfEventBegin =>
      if state.mgr.perfStarted then none
      else some { state with mgr := state.mgr.perfEventBegin }
  | .perfEventEnd =>
      if state.mgr.perfStarted then some { state with mgr := state.mgr.perfEventEnd }
      else none
  | .addIsrEvent event => some (state.addIsrEvent event)
  | .getIsrEvent args =>
      match state.read with
      | none =>
          if state.mgr.perfStarted then
            some { state with read := some ⟨.snapshot, args, 0, 0, []⟩ }
          else some state
      | some _ => none
  | .readStep => state.read.map state.readStep

/-- The state after `zx_perf_event_init`, which allocates the buffer and zeroes it. -/
def start : IsrState where
  mgr := ⟨false, fun _ => 0, 0, 0, 0, 0⟩
  read := none
  accepted := []
  finished := []

/-- The system of one ring. -/
def system : System IsrState IsrAction := System.ofFunction (· = start) next

end IsrState

end Cx4Kernel.Perfevent
