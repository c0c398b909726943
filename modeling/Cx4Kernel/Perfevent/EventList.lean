import Cx4Kernel.Foundation.MachineInt
import Cx4Kernel.Foundation.Transition

/-! The list of performance events of `core/perfevent/perfevent.c`: threads append events
to it, one reader takes them out. A section under `event_list_lock` is one step, and so is
each piece of code outside the lock.
-/

namespace Cx4Kernel.Perfevent

open Cx4Kernel.Foundation

-----------------------------------------------------------------------------------------
-- Data
-----------------------------------------------------------------------------------------

/-- What a call of `perf_event_add_event` does next. -/
inductive AddPhase where
  /-- test `lost_event_number` without the lock -/
  | checkLost
  /-- count one more lost event without the lock -/
  | countLost
  /-- allocate the node and copy the event to it -/
  | alloc
  /-- the section under the lock -/
  | link
  /-- test `lost_event_number` without the lock -/
  | testLost
  /-- compare the `next` pointer of the node with the list head -/
  | testNext
  /-- free the node -/
  | free
  /-- the call returned this value -/
  | done (ret : Int)
deriving DecidableEq

/-- A call of `perf_event_add_event`. Its event and its node go by the number of the call. -/
structure AddCall where
  phase : AddPhase
  /-- how often its node was freed -/
  freed : Nat
deriving DecidableEq

/-- What a call of `perf_event_get_event` does next. -/
inductive GetPhase where
  /-- read `event_number` under the lock -/
  | snapshot
  /-- find the first two nodes of the list -/
  | enter
  /-- copy the event to the user, if there is a node -/
  | copy
  /-- `list_del` -/
  | unlink
  /-- free the node and go on to the next one -/
  | free
  /-- count down under the lock and return -/
  | update
deriving DecidableEq

/-- A call of `perf_event_get_event` that has not returned, with its locals. In place of a
node, `none` is the list head.
-/
structure GetCall where
  phase : GetPhase
  maxEventNum : U32
  eventFillNum : U32
  i : U32
  eventNode : Option Nat
  eventNodeNext : Option Nat
deriving DecidableEq

/-- Fields of `zx_get_perf_event_t` after a call. -/
structure GetResult where
  eventFilledNum : U32
  eventLostNum : U32
deriving DecidableEq

/-- The list, the calls and what they did. -/
structure QueueState where
  perfStarted : Bool
  eventNumber : U32
  maxEventNumber : U32
  lostEventNumber : U32
  /-- `event_list` from its head on -/
  eventList : List Nat
  calls : List AddCall
  reader : Option GetCall
  /-- the nodes in the order in which they were linked -/
  inserted : List Nat
  /-- the nodes in the order in which they were copied to the user -/
  delivered : List Nat
  /-- the nodes that `perf_event_begin` took out of the list -/
  discarded : List Nat
  results : List GetResult
deriving DecidableEq

/-- Calls and their steps. The outcome of a step is what the environment decides: whether
`zx_calloc` succeeds, or whether memory that was freed reads as the address of the list.
-/
inductive QueueAction where
  | perfEventBegin (maxEventNum : U32)
  | perfEventEnd
  | addEvent
  | addStep (call : Nat) (outcome : Bool)
  | getEvent (maxEventNum : U32)
  | getStep
deriving DecidableEq

namespace QueueState

/-- How often a node was freed. -/
def freed (state : QueueState) (node : Nat) : Nat := (state.calls[node]?.map AddCall.freed).getD 0

/-- `zx_free`. -/
def free (state : QueueState) (node : Nat) : QueueState :=
  { state with
    calls := state.calls.modify node fun call => { call with freed := call.freed + 1 } }

/-- The call goes on with another phase. -/
def goto (state : QueueState) (call : Nat) (phase : AddPhase) : QueueState :=
  { state with calls := state.calls.modify call ({ · with phase := phase }) }

-----------------------------------------------------------------------------------------
-- Begin and end of a trace
-----------------------------------------------------------------------------------------

/-- `perf_event_begin`. It takes no lock and frees what is still linked. -/
def perfEventBegin (state : QueueState) (maxEventNum : U32) : QueueState :=
  { state.eventList.foldl free state with
    lostEventNumber := 0
    eventNumber := 0
    eventList := []
    discarded := state.discarded ++ state.eventList
    perfStarted := true
    maxEventNumber := maxEventNum }

-----------------------------------------------------------------------------------------
-- perf_event_add_event
-----------------------------------------------------------------------------------------

/-- A call begins. Before the begin of a trace it fails at once. -/
def addEvent (state : QueueState) : QueueState :=
  let phase := if state.perfStarted then .checkLost else .done (-1)
  { state with calls := state.calls ++ [⟨phase, 0⟩] }

/-- The section under the lock: link the node, or count a lost event. -/
def link (state : QueueState) (call : Nat) : QueueState :=
  if state.eventNumber.slt state.maxEventNumber then
    { state with
      eventList := state.eventList ++ [call]
      eventNumber := state.eventNumber + 1
      inserted := state.inserted ++ [call] }
  else { state with lostEventNumber := state.lostEventNumber + 1 }

/-- `event_node->list_node.next != &perf_event_mgr->event_list`. The pointer is NULL in a
node that was never linked or was taken out, and anything in one that was freed.
-/
def nextDiffers (state : QueueState) (node : Nat) (outcome : Bool) : Bool :=
  if state.freed node = 0 then state.eventList.getLast? != some node else !outcome

/-- The next step of a call. -/
def addStep (state : QueueState) (call : Nat) (outcome : Bool) : AddPhase → Option QueueState
  | .checkLost =>
      some (state.goto call (if 0 < state.lostEventNumber.toInt then .countLost else .alloc))
  | .countLost =>
      some ({ state with lostEventNumber := state.lostEventNumber + 1 }.goto call (.done (-1)))
  | .alloc => some (state.goto call (if outcome then .link else .done (-1)))
  | .link => some ((state.link call).goto call .testLost)
  | .testLost =>
      some (state.goto call (if 0 < state.lostEventNumber.toInt then .testNext else .done 0))
  | .testNext =>
      some (state.goto call (if state.nextDiffers call outcome then .free else .done 0))
  | .free => some ((state.free call).goto call (.done (-1)))
  | .done _ => none

-----------------------------------------------------------------------------------------
-- perf_event_get_event
-----------------------------------------------------------------------------------------

/-- The node behind a node of the list. -/
def successor : List Nat → Nat → Option Nat
  | first :: second :: rest, node =>
      if first = node then some second else successor (second :: rest) node
  | _, _ => none

/-- `->next` of a node, or of the list head. -/
def following (state : QueueState) : Option Nat → Option Nat
  | none => state.eventList.head?
  | some node => successor state.eventList node

/-- First section under the lock. One event stays in the list, and a call that finds no
other one returns.
-/
def snapshot (state : QueueState) (get : GetCall) : QueueState :=
  if 2 < state.eventNumber.toInt then
    { state with
      reader := some { get with phase := .enter, eventFillNum := state.eventNumber - 1 } }
  else { state with reader := none, results := state.results ++ [⟨0, 0⟩] }

/-- `list_for_each_entry_safe` finds the first node and the one behind it. -/
def enter (state : QueueState) (get : GetCall) : QueueState :=
  let first := state.following none
  { state with
    reader := some { get with
      phase := .copy, eventNode := first, eventNodeNext := state.following first } }

/-- Copy an event, or leave the loop at the list head. -/
def copyEvent (state : QueueState) (get : GetCall) : QueueState :=
  match get.eventNode with
  | none => { state with reader := some { get with phase := .update } }
  | some node =>
      { state with
        reader := some { get with phase := .unlink }, delivered := state.delivered ++ [node] }

/-- `list_del`. -/
def unlink (state : QueueState) (get : GetCall) : QueueState :=
  { state with
    eventList := state.eventList.filter (some · != get.eventNode)
    reader := some { get with phase := .free } }

/-- Free the node, count it, and leave the loop or go on to the next node. -/
def freeEvent (state : QueueState) (get : GetCall) : QueueState :=
  let i := get.i + 1
  let after := (get.eventNode.map state.free).getD state
  if get.maxEventNum ≤ i ∨ get.eventFillNum.sle i then
    { after with reader := some { get with phase := .update, i := i } }
  else
    { after with
      reader := some { get with
        phase := .copy
        i := i
        eventNode := get.eventNodeNext
        eventNodeNext := state.following get.eventNodeNext } }

/-- Second section under the lock, and the return. -/
def update (state : QueueState) (get : GetCall) : QueueState :=
  { state with
    eventNumber := state.eventNumber - get.i
    lostEventNumber := 0
    reader := none
    results := state.results ++ [⟨get.i, state.lostEventNumber⟩] }

/-- The next step of the reader. -/
def getStep (state : QueueState) (get : GetCall) : QueueState :=
  match get.phase with
  | .snapshot => state.snapshot get
  | .enter => state.enter get
  | .copy => state.copyEvent get
  | .unlink => state.unlink get
  | .free => state.freeEvent get
  | .update => state.update get

-----------------------------------------------------------------------------------------
-- Runs
-----------------------------------------------------------------------------------------

/-- One step. The assertions of `perf_event_begin` and `perf_event_end` hold when these are
called, and there is one reader.
-/
def next (state : QueueState) : QueueAction → Option QueueState
  | .perfEventBegin maxEventNum =>
      if state.perfStarted then none else some (state.perfEventBegin maxEventNum)
  | .perfEventEnd => if state.perfStarted then some { state with perfStarted := false } else none
  | .addEvent => some state.addEvent
  | .addStep call outcome => state.calls[call]?.bind (state.addStep call outcome ·.phase)
  | .getEvent maxEventNum =>
      match state.reader with
      | none =>
          if state.perfStarted then
            some { state with reader := some ⟨.snapshot, maxEventNum, 0, 0, none, none⟩ }
          else some state
      | some _ => none
  | .getStep => state.reader.map state.getStep

/-- The state after `zx_perf_event_init`. -/
def start : QueueState where
  perfStarted := false
  eventNumber := 0
  maxEventNumber := 0
  lostEventNumber := 0
  eventList := []
  calls := []
  reader := none
  inserted := []
  delivered := []
  discarded := []
  results := []

/-- The system of one list. -/
def system : System QueueState QueueAction := System.ofFunction (· = start) next

end QueueState

end Cx4Kernel.Perfevent
