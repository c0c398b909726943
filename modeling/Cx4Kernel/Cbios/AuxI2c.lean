import Cx4Kernel.Foundation.ByteBuffer
import Cx4Kernel.Foundation.MachineInt

/-! I2C transfers over the AUX channel of `CBiosDIU_DP.c`: the attempts of one transaction, and the
transactions of one transfer.
-/

namespace Cx4Kernel.Cbios

open Cx4Kernel.Foundation

-----------------------------------------------------------------------------------------
-- The sink
-----------------------------------------------------------------------------------------

/-- The replies of a sink. An ACK has the bytes of a read, as many as are asked for. -/
inductive AuxReply where
  | ack (data : Nat → U8)
  | nack
  | defer

def cbiosAuxReplyAck : U8 := 0

def cbiosAuxReplyNack : U8 := 1

def cbiosAuxReplyDefer : U8 := 2

/-- `CBIOS_AUX_REPLY_CMD`. -/
def AuxReply.command : AuxReply → U8
  | .ack _ => cbiosAuxReplyAck
  | .nack => cbiosAuxReplyNack
  | .defer => cbiosAuxReplyDefer

def AuxReply.IsAck (reply : AuxReply) : Prop := reply.command = cbiosAuxReplyAck

instance (reply : AuxReply) : Decidable reply.IsAck := inferInstanceAs (Decidable (_ = _))

/-- What becomes of one attempt: the reply of the sink, if there is one, is in the registers after so
many polls.
-/
structure SinkAnswer where
  reply : Option AuxReply
  polls : Nat

/-- The fields of `REG_MM8330` that are polled. -/
structure AuxTimer where
  swAux : Bool
  auxDrdy : Bool
  auxCommand : U8

/-- What the `j`-th poll of an attempt reads. -/
def SinkAnswer.auxTimer (answer : SinkAnswer) (j : Nat) : AuxTimer :=
  match answer.reply with
  | some reply => if answer.polls ≤ j then ⟨true, true, reply.command⟩ else ⟨true, false, 0⟩
  | none => ⟨true, false, 0⟩

/-- A port with a sink, whose answer to each attempt is given. -/
structure AuxPort where
  sink : Nat → SinkAnswer
  /-- The device of the port is known, and `cbDIU_DP_WaitAuxReady` returns TRUE, for each command. -/
  ready : Nat → Bool
  /-- `DpUsbMode` is `CBIOS_DP_TUNNEL`. -/
  tunnel : Bool

-----------------------------------------------------------------------------------------
-- One transaction
-----------------------------------------------------------------------------------------

def cbiosAuxRequestI2cWrite : U8 := 0

def cbiosAuxRequestI2cRead : U8 := 1

def cbiosAuxRequestI2cMot : U8 := 4

def cbiosAuxRequestNativeWrite : U8 := 8

def cbiosAuxRequestNativeRead : U8 := 9

def cbiosAuxRequestInnerWrite : U8 := 0xF

/-- `AUX_CONTROL`, where `buffer` has the bytes of a write. -/
structure AuxControl where
  function : U8
  slaveAddress : U8
  offset : U32
  length : Nat
  buffer : List U8

/-- One transaction as the sink sees it, with its reply to the last attempt, and with the bytes that
are sent or that are left in the read buffer.
-/
structure AuxTransaction where
  function : U8
  address : U32
  length : Nat
  bytes : List U8
  reply : AuxReply

/-- The state of the channel during a transfer. -/
structure AuxBus where
  /-- The commands that were given, with or without success. -/
  commands : Nat
  /-- The attempts whose answer was waited for. -/
  attempts : Nat
  transactions : List AuxTransaction
  /-- The caller's buffer. -/
  buffer : List U8

/-- The reply ends the polls of `cbDIU_DP_CheckAuxReplyStatus`. -/
def AuxTimer.replied (timer : AuxTimer) : Bool :=
  timer.swAux && timer.auxDrdy
    && (timer.auxCommand = cbiosAuxReplyAck || timer.auxCommand = cbiosAuxReplyNack)

/-- The inner loop of `cbDIU_DP_CheckAuxReplyStatus`. -/
def SinkAnswer.inTime (answer : SinkAnswer) (counter : Nat) : Bool :=
  (List.range' 1 (counter - 1)).any fun j => (answer.auxTimer j).replied

/-- The outer loop of `cbDIU_DP_CheckAuxReplyStatus`, with the number of the attempt: an attempt
without a reply in time is repeated.
-/
def AuxPort.checkAttempts (port : AuxPort) (counter : Nat) : Nat → Nat → Bool × Nat
  | 0, attempt => (false, attempt)
  | i + 1, attempt =>
    if (port.sink attempt).inTime counter then (true, attempt)
    else port.checkAttempts counter i (attempt + 1)

/-- `cbDIU_DP_CheckAuxReplyStatus`. -/
def AuxPort.cbDiuDpCheckAuxReplyStatus (port : AuxPort) (isNative : Bool) (attempt : Nat)
    : Bool × Nat :=
  let counter := if isNative then 10 else 100
  let counter := if port.tunnel then 50 else counter
  port.checkAttempts counter 10 attempt

/-- `cbDIU_DP_Aux_Cmd` for a command and its first attempt: the reply and the next attempt, or none if
it returns FALSE.
-/
def AuxPort.cbDiuDpAuxCmd (port : AuxPort) (cmd : U8) (command attempt : Nat)
    : Option (AuxReply × Nat) :=
  if port.ready command then
    let isNative := cmd &&& cbiosAuxRequestNativeRead ≠ 0 ∨ cmd &&& cbiosAuxRequestNativeWrite ≠ 0
    match port.cbDiuDpCheckAuxReplyStatus isNative attempt with
    | (true, last) => (port.sink last).reply.map fun reply => (reply, last + 1)
    | (false, _) => none
  else none

/-- The bytes in the read buffer, which is cleared before each read. -/
def AuxReply.readBuffer (reply : AuxReply) (length : Nat) : List U8 :=
  match reply with
  | .ack data => (List.range length).map data
  | _ => List.replicate length 0

/-- `cbDIU_AUX_Write_Data` and `cbDIU_AUX_Read_Data`, which differ in the function that is addressed
by the slave and in the direction of the bytes. The bytes of a read go to the caller's buffer.
-/
def AuxPort.auxData (port : AuxPort) (isRead : Bool) (aux : AuxControl) (bus : AuxBus)
    : Option (AuxBus × List U8) :=
  let i2c := if isRead then cbiosAuxRequestI2cRead else cbiosAuxRequestI2cWrite
  let address : U32 :=
    if aux.function &&& ~~~cbiosAuxRequestI2cMot = i2c then aux.slaveAddress.setWidth 32 >>> 1
    else aux.offset
  (port.cbDiuDpAuxCmd aux.function bus.commands bus.attempts).map fun (reply, attempts) =>
    let bytes :=
      if isRead then reply.readBuffer aux.length else aux.buffer.take aux.length
    ({ bus with
        commands := bus.commands + 1
        attempts := attempts
        transactions := bus.transactions ++ [⟨aux.function, address, aux.length, bytes, reply⟩] },
      bytes)

/-- `cbDIU_DP_Auxtransfer`, or none if it returns FALSE. -/
def AuxPort.cbDiuDpAuxtransfer (port : AuxPort) (aux : AuxControl) (bus : AuxBus)
    : Option (AuxBus × List U8) :=
  let function := aux.function &&& ~~~cbiosAuxRequestI2cMot
  if aux.function = cbiosAuxRequestInnerWrite then port.auxData false aux bus
  else if function = cbiosAuxRequestI2cRead ∨ function = cbiosAuxRequestNativeRead then
    port.auxData true aux bus
  else if function = cbiosAuxRequestI2cWrite ∨ function = cbiosAuxRequestNativeWrite then
    port.auxData false aux bus
  else none

-----------------------------------------------------------------------------------------
-- cbDIU_Aux_I2c_Access
-----------------------------------------------------------------------------------------

/-- The requests that the callers of `cbDIU_Aux_I2c_Access` make. -/
inductive I2cRequest where
  | write
  | read
deriving DecidableEq

def I2cRequest.function : I2cRequest → U8
  | .write => cbiosAuxRequestI2cWrite
  | .read => cbiosAuxRequestI2cRead

/-- `CBIOS_PARAM_AUX_DATA`, as far as `cbDIU_Aux_I2c_Access` reads it, with a buffer of the size that
is requested.
-/
structure AuxData where
  address : U32
  offset : U8
  bytesRequested : U32
  buffer : List U8
  isDdcci : Bool
  eddcMode : Bool
  i2cStop : Bool
  size : buffer.length = bytesRequested.toNat

def auxMaxPayloadBytes : Nat := 16

/-- `bMerge`. -/
def AuxData.merge (param : AuxData) : Bool :=
  param.i2cStop && param.bytesRequested.toNat ≤ auxMaxPayloadBytes

/-- The data transactions from byte `i` on, at most `rounds` of them. -/
def AuxPort.dataTransfers (port : AuxPort) (request : I2cRequest) (param : AuxData)
    (aux : AuxControl)
    : Nat → Nat → AuxBus → Option AuxBus
  | 0, _, bus => some bus
  | rounds + 1, i, bus =>
    if i < param.bytesRequested.toNat then
      let transferSize := min auxMaxPayloadBytes (param.bytesRequested.toNat - i)
      let chunk := { aux with buffer := bus.buffer.drop i, length := transferSize }
      match port.cbDiuDpAuxtransfer chunk bus with
      | none => none
      | some (bus, bytes) =>
        let bus :=
          match request with
          | .write => bus
          | .read => { bus with buffer := storeBytes bus.buffer i bytes }
        port.dataTransfers request param aux rounds (i + transferSize) bus
    else some bus

/-- An address-only transaction. -/
def addressOnly (function : U8) (param : AuxData) : AuxControl where
  function := function
  slaveAddress := param.address.setWidth 8
  offset := 0
  length := 0
  buffer := []

/-- A transaction that is made on a condition, and whose bytes nobody needs. -/
def AuxPort.transferIf (port : AuxPort) (condition : Bool) (aux : AuxControl) (bus : AuxBus)
    : Option AuxBus :=
  if condition then (port.cbDiuDpAuxtransfer aux bus).map (·.1) else some bus

/-- The transactions before the data: addresses only, and the offset. -/
def AuxPort.startTransfer (port : AuxPort) (request : I2cRequest) (param : AuxData) (bus : AuxBus)
    : Option AuxBus := do
  let start := addressOnly (cbiosAuxRequestI2cWrite ||| cbiosAuxRequestI2cMot) param
  let bus ← port.transferIf (!param.merge && (!param.isDdcci || request = .write)) start bus
  let bus ← port.transferIf (!param.merge && !param.isDdcci && !param.eddcMode)
    { start with buffer := [param.offset], length := 1 } bus
  port.transferIf (!param.merge && request = .read)
    (addressOnly (cbiosAuxRequestI2cRead ||| cbiosAuxRequestI2cMot) param) bus

/-- The function of the data transactions. -/
def dataFunction (request : I2cRequest) (param : AuxData) : U8 :=
  if !param.merge then request.function ||| cbiosAuxRequestI2cMot else request.function

/-- The transaction after the data, which stops the transfer. A segment is left without one. -/
def AuxPort.stopTransfer (port : AuxPort) (request : I2cRequest) (param : AuxData) (bus : AuxBus)
    : Option AuxBus :=
  if param.address = 0x60 ∧ request = .write then some bus
  else port.transferIf (!param.merge) (addressOnly request.function param) bus

/-- `cbDIU_Aux_I2c_Access`, or none if it does not return `CBIOS_OK`. Each round of the loop moves a
byte at least.
-/
def AuxPort.cbDiuAuxI2cAccess (port : AuxPort) (request : I2cRequest) (param : AuxData)
    : Option AuxBus := do
  let bus ← port.startTransfer request param ⟨0, 0, [], param.buffer⟩
  let bus ← port.dataTransfers request param (addressOnly (dataFunction request param) param)
    param.bytesRequested.toNat 0 bus
  port.stopTransfer request param bus

end Cx4Kernel.Cbios
