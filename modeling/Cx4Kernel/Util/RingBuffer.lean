import Cx4Kernel.Foundation.MachineInt
import Cx4Kernel.Foundation.Transition

/-! The command ring of one engine: `core/util/ring_buffer.c` with the wrap callback of
`vidsch_submit_e3k.c`, run against hardware that reads the published commands.
-/

namespace Cx4Kernel.Util

open Cx4Kernel.Foundation

-----------------------------------------------------------------------------------------
-- ring_buffer.c
-----------------------------------------------------------------------------------------

/-- `ring_buffer_t`: offsets in bytes from the begin of the buffer. -/
structure RingBuffer where
  /-- begin of the used part, as it was last read from the hardware -/
  head : U32
  /-- end of the used part -/
  tail : U32
  size : U32
  leftSize : U32
  /-- bytes at the begin of the buffer that are never handed out -/
  reservedSize : U32
deriving DecidableEq

/-- A range the wrap callback fills with zeros: `count` bytes from `start` on. -/
structure ZeroFill where
  start : U32
  count : U32
deriving DecidableEq

/-- `ring_buffer_init`. -/
def ringBufferInit (size reservedSize : U32) : RingBuffer where
  head := reservedSize
  tail := reservedSize
  size := size
  leftSize := size - reservedSize
  reservedSize := reservedSize

/-- `enginei_ring_buffer_wrap_e3k`: zero `skipCnt` bytes from the tail on and return the
head register, which holds the hardware's own read offset. The skip command branch is
disabled in the source (`if(0 && …)`).
-/
def engineiRingBufferWrapE3k (ring : RingBuffer) (skipCnt readOffset : U32)
    : U32 × List ZeroFill :=
  (readOffset, if 0 < skipCnt.toInt then [⟨ring.tail, skipCnt⟩] else [])

/-- First part of `ring_buffer_get_space`: when the request reaches the end of the
buffer, skip the space behind the tail and restart at the reserved bytes.
-/
def wrapTail (ring : RingBuffer) (requestedSize readOffset : U32)
    : RingBuffer × List ZeroFill :=
  if ring.size ≤ ring.tail + requestedSize then
    let skipCnt := ring.size - ring.tail
    let (head, fills) := engineiRingBufferWrapE3k ring skipCnt readOffset
    ({ ring with
        head := head, tail := ring.reservedSize, leftSize := head - ring.reservedSize }, fills)
  else (ring, [])

/-- Second part of `ring_buffer_get_space`: when the known space does not suffice, read
the head again and count the space anew.
-/
def updateLeftSize (ring : RingBuffer) (requestedSize readOffset : U32) : RingBuffer :=
  if ring.leftSize < requestedSize then
    let head := (engineiRingBufferWrapE3k ring 0 readOffset).1
    { ring with
        head := head, leftSize := ring.size + head - ring.tail - ring.reservedSize }
  else ring

/-- Last part of `ring_buffer_get_space`: hand out the bytes behind the tail. -/
def takeSpace (ring : RingBuffer) (requestedSize : U32) : RingBuffer × Option U32 :=
  if requestedSize ≤ ring.leftSize then
    ({ ring with
        leftSize := ring.leftSize - requestedSize, tail := ring.tail + requestedSize },
      some ring.tail)
  else (ring, none)

/-- What one call of `ring_buffer_get_space` leaves behind. The source returns the offset
as an `int`, with -1 for no space.
-/
structure SpaceCall where
  ring : RingBuffer
  spaceOffset : Option U32
  fills : List ZeroFill

/-- `ring_buffer_get_space`, with the value the head register has during the call. -/
def ringBufferGetSpace (ring : RingBuffer) (requestedSize readOffset : U32) : SpaceCall :=
  let (wrapped, fills) := wrapTail ring requestedSize readOffset
  let (taken, spaceOffset) := takeSpace (updateLeftSize wrapped requestedSize readOffset) requestedSize
  ⟨taken, spaceOffset, fills⟩

-----------------------------------------------------------------------------------------
-- The ring and the hardware that reads it
-----------------------------------------------------------------------------------------

/-- A ring with its consumer. A successful call publishes everything up to the new tail:
the caller writes its commands there and then sets the tail register.
-/
structure RingState where
  ring : RingBuffer
  /-- where the hardware reads next -/
  readOffset : U32
  /-- bytes published and not yet read -/
  unread : Nat
  /-- bytes the tail has passed over since the last publication -/
  passed : Nat

/-- Producer calls and reads of the hardware, in any order. -/
inductive RingAction where
  | getSpace (requestedSize : U32)
  | hardwareRead (amount : Nat)
deriving DecidableEq

namespace RingState

/-- Bytes the tail moves over before a call takes its space: nothing, or the rest of the
buffer and the reserved bytes when it wraps.
-/
def skipped (state : RingState) (requestedSize : U32) : Nat :=
  if state.ring.size ≤ state.ring.tail + requestedSize then
    (state.ring.size - state.ring.tail).toNat + state.ring.reservedSize.toNat
  else 0

/-- One call. When it succeeds, everything the tail has moved over is published. -/
def getSpace (state : RingState) (requestedSize : U32) : RingState :=
  let call := ringBufferGetSpace state.ring requestedSize state.readOffset
  let extra := state.passed + state.skipped requestedSize
  match call.spaceOffset with
  | some _ =>
      { state with
        ring := call.ring
        unread := state.unread + (extra + requestedSize.toNat)
        passed := 0 }
  | none => { state with ring := call.ring, passed := extra }

/-- The hardware reads on, from the end of the buffer back to 0. -/
def hardwareRead (state : RingState) (amount : Nat) : RingState :=
  { state with
    readOffset := BitVec.ofNat 32 ((state.readOffset.toNat + amount) % state.ring.size.toNat)
    unread := state.unread - amount }

/-- One step. Requests are positive and smaller than the ring, and only published bytes
are read.
-/
def next (state : RingState) : RingAction → Option RingState
  | .getSpace requestedSize =>
      if 0 < requestedSize ∧ requestedSize < state.ring.size then
        some (state.getSpace requestedSize)
      else none
  | .hardwareRead amount =>
      if amount ≤ state.unread then some (state.hardwareRead amount) else none

/-- The state after `ring_buffer_init`: nothing published, the hardware at the head. -/
def start (size reservedSize : U32) : RingState where
  ring := ringBufferInit size reservedSize
  readOffset := reservedSize
  unread := 0
  passed := 0

/-- The ring system. Both sizes are positive `int` arguments of `ring_buffer_init` and
there is space behind the reserved bytes.
-/
def system : System RingState RingAction :=
  System.ofFunction
    (fun state => ∃ size reservedSize : U32,
      reservedSize < size ∧ size.toNat < 2 ^ 31 ∧ state = start size reservedSize)
    next

/-- `offset` was published and is not yet read. -/
def Unread (state : RingState) (offset : Nat) : Prop :=
  ∃ distance < state.unread,
    (state.readOffset.toNat + distance) % state.ring.size.toNat = offset

/-- None of the `count` bytes from `first` on is unread. -/
def Spares (state : RingState) (first count : Nat) : Prop :=
  ∀ offset, first ≤ offset → offset < first + count → ¬ state.Unread offset

/-- A call for `requestedSize` bytes, if it succeeds, hands out a range behind the reserved
bytes and inside the buffer, and neither this range nor one it zero-fills is unread.
-/
def SpaceSafe (state : RingState) (requestedSize : U32) : Prop :=
  let call := ringBufferGetSpace state.ring requestedSize state.readOffset
  ∀ offset, call.spaceOffset = some offset
    → state.ring.reservedSize ≤ offset
      ∧ offset.toNat + requestedSize.toNat ≤ state.ring.size.toNat
      ∧ state.Spares offset.toNat requestedSize.toNat
      ∧ ∀ fill ∈ call.fills, state.Spares fill.start.toNat fill.count.toNat

end RingState

end Cx4Kernel.Util
