import Cx4Kernel.Cbios.AuxI2c

/-! The transactions that a transfer plans, and that it makes exactly these if it succeeds. -/

namespace Cx4Kernel.Cbios

open Cx4Kernel.Foundation

-----------------------------------------------------------------------------------------
-- The planned transactions
-----------------------------------------------------------------------------------------

/-- The function is a read over I2C. -/
def IsI2cRead (function : U8) : Prop :=
  function &&& ~~~cbiosAuxRequestI2cMot = cbiosAuxRequestI2cRead

instance (function : U8) : Decidable (IsI2cRead function) := inferInstanceAs (Decidable (_ = _))

/-- The function is a write over I2C. -/
def IsI2cWrite (function : U8) : Prop :=
  function &&& ~~~cbiosAuxRequestI2cMot = cbiosAuxRequestI2cWrite

instance (function : U8) : Decidable (IsI2cWrite function) := inferInstanceAs (Decidable (_ = _))

/-- What is known of a transaction before the sink replies. -/
structure AuxShape where
  function : U8
  length : Nat
  /-- The bytes of a write. -/
  sent : List U8
deriving DecidableEq

def AuxTransaction.shape (transaction : AuxTransaction) : AuxShape where
  function := transaction.function
  length := transaction.length
  sent := if IsI2cRead transaction.function then [] else transaction.bytes

/-- The bytes of a read are those of the reply. -/
def AuxTransaction.FromSink (transaction : AuxTransaction) : Prop :=
  IsI2cRead transaction.function →
    transaction.bytes = transaction.reply.readBuffer transaction.length

/-- The sink is told the offset. -/
def AuxData.sendsOffset (param : AuxData) : Bool :=
  !param.merge && !param.isDdcci && !param.eddcMode

def startPlan (request : I2cRequest) (param : AuxData) : List AuxShape :=
  let start := cbiosAuxRequestI2cWrite ||| cbiosAuxRequestI2cMot
  (if !param.merge && (!param.isDdcci || request = .write) then [⟨start, 0, []⟩] else [])
    ++ (if param.sendsOffset then [⟨start, 1, [param.offset]⟩] else [])
    ++ (if !param.merge && request = .read then
        [⟨cbiosAuxRequestI2cRead ||| cbiosAuxRequestI2cMot, 0, []⟩]
      else [])

/-- The `k`-th data transaction. -/
def dataShape (request : I2cRequest) (param : AuxData) (k : Nat) : AuxShape where
  function := dataFunction request param
  length := min auxMaxPayloadBytes (param.bytesRequested.toNat - auxMaxPayloadBytes * k)
  sent :=
    match request with
    | .write => (param.buffer.drop (auxMaxPayloadBytes * k)).take auxMaxPayloadBytes
    | .read => []

/-- The number of the data transactions. -/
def AuxData.chunks (param : AuxData) : Nat :=
  (param.bytesRequested.toNat + (auxMaxPayloadBytes - 1)) / auxMaxPayloadBytes

def dataPlan (request : I2cRequest) (param : AuxData) : List AuxShape :=
  (List.range param.chunks).map (dataShape request param)

/-- A segment is written to address 0x60. -/
def AuxData.writesSegment (request : I2cRequest) (param : AuxData) : Bool :=
  param.address = 0x60 && request = .write

def stopPlan (request : I2cRequest) (param : AuxData) : List AuxShape :=
  if param.writesSegment request then []
  else if !param.merge then [⟨request.function, 0, []⟩]
  else []

/-- All transactions of a transfer. -/
def i2cPlan (request : I2cRequest) (param : AuxData) : List AuxShape :=
  startPlan request param ++ dataPlan request param ++ stopPlan request param

-----------------------------------------------------------------------------------------
-- Runs
-----------------------------------------------------------------------------------------

namespace AuxPort

variable (port : AuxPort)

/-- The replies that end transactions with these functions, one after the other, or none if one of
them gets no reply.
-/
def replies : List U8 → Nat → Nat → Option (List AuxReply)
  | [], _, _ => some []
  | function :: rest, command, attempt =>
    (port.cbDiuDpAuxCmd function command attempt).bind fun (reply, next) =>
      (replies rest (command + 1) next).map (reply :: ·)

/-- A run makes the planned transactions, with the replies of the sink, and fails if one of them gets
no reply.
-/
def Runs (plan : List AuxShape) (bus : AuxBus) : Option AuxBus → Prop
  | none => ∀ more,
    port.replies (plan.map (·.function) ++ more) bus.commands bus.attempts = none
  | some bus' => ∃ made, bus'.transactions = bus.transactions ++ made
    ∧ made.map (·.shape) = plan
    ∧ (∀ transaction ∈ made, transaction.FromSink)
    ∧ ∀ more, port.replies (plan.map (·.function) ++ more) bus.commands bus.attempts
      = (port.replies more bus'.commands bus'.attempts).map (made.map (·.reply) ++ ·)

variable {port}

theorem runs_nil (bus : AuxBus) : port.Runs [] bus (some bus) :=
  ⟨[], by simp, rfl, by simp, by simp⟩

/-- Runs follow each other. -/
theorem Runs.bind {plan plan' : List AuxShape} {bus : AuxBus} {result : Option AuxBus}
    {next : AuxBus → Option AuxBus} (first : port.Runs plan bus result)
    (rest : ∀ bus', result = some bus' → port.Runs plan' bus' (next bus'))
    : port.Runs (plan ++ plan') bus (result.bind next) := by
  cases result with
  | none =>
    intro more
    rw [List.map_append, List.append_assoc]
    exact first _
  | some bus' =>
    obtain ⟨made, isMade, shapes, fromSink, follows⟩ := first
    have second := rest bus' rfl
    rw [Option.bind_some]
    cases last : next bus' with
    | none =>
      rw [last] at second
      intro more
      rw [List.map_append, List.append_assoc, follows, second more, Option.map_none]
    | some bus'' =>
      rw [last] at second
      obtain ⟨made', isMade', shapes', fromSink', follows'⟩ := second
      refine ⟨made ++ made', ?_, ?_, ?_, ?_⟩
      · rw [isMade', isMade, List.append_assoc]
      · rw [List.map_append, shapes, shapes']
      · intro transaction member
        rcases List.mem_append.mp member with old | new
        · exact fromSink transaction old
        · exact fromSink' transaction new
      · intro more
        rw [List.map_append, List.append_assoc, follows, follows', Option.map_map, List.map_append]
        congr 1
        funext replies
        exact (List.append_assoc _ _ _).symm

/-- The transaction of a control block, for the reply that it gets. -/
def transactionOf (aux : AuxControl) (reply : AuxReply) : AuxTransaction where
  function := aux.function
  address := aux.slaveAddress.setWidth 32 >>> 1
  length := aux.length
  bytes :=
    if IsI2cRead aux.function then reply.readBuffer aux.length else aux.buffer.take aux.length
  reply := reply

/-- A transaction over I2C gets one reply, or fails. -/
theorem cbDiuDpAuxtransfer_eq {aux : AuxControl}
    (i2c : IsI2cRead aux.function ∨ IsI2cWrite aux.function) (bus : AuxBus)
    : port.cbDiuDpAuxtransfer aux bus
      = (port.cbDiuDpAuxCmd aux.function bus.commands bus.attempts).map fun (reply, next) =>
        ({ bus with
            commands := bus.commands + 1
            attempts := next
            transactions := bus.transactions ++ [transactionOf aux reply] },
          (transactionOf aux reply).bytes) := by
  have outer : aux.function ≠ cbiosAuxRequestInnerWrite := by
    intro same
    rw [same] at i2c
    exact absurd i2c (by decide)
  rcases i2c with read | write
  · have isRead : aux.function &&& ~~~cbiosAuxRequestI2cMot = cbiosAuxRequestI2cRead := read
    simp only [cbDiuDpAuxtransfer, outer, isRead, if_false, true_or, if_true, auxData,
      transactionOf, read]
  · have isWrite : aux.function &&& ~~~cbiosAuxRequestI2cMot = cbiosAuxRequestI2cWrite := write
    have notRead : ¬ IsI2cRead aux.function := by
      rw [IsI2cRead, isWrite]
      decide
    have other : ¬ (cbiosAuxRequestI2cWrite = cbiosAuxRequestI2cRead
        ∨ cbiosAuxRequestI2cWrite = cbiosAuxRequestNativeRead) := by decide
    simp only [cbDiuDpAuxtransfer, outer, isWrite, if_false, other, true_or, if_true, auxData,
      transactionOf, notRead, Bool.false_eq_true]

/-- What a control block plans. -/
def shapeOf (aux : AuxControl) : AuxShape where
  function := aux.function
  length := aux.length
  sent := if IsI2cRead aux.function then [] else aux.buffer.take aux.length

theorem shape_transactionOf (aux : AuxControl) (reply : AuxReply)
    : (transactionOf aux reply).shape = shapeOf aux := by
  by_cases read : IsI2cRead aux.function
  · simp [AuxTransaction.shape, transactionOf, shapeOf, read]
  · simp [AuxTransaction.shape, transactionOf, shapeOf, read]

theorem fromSink_transactionOf (aux : AuxControl) (reply : AuxReply)
    : (transactionOf aux reply).FromSink := by
  intro read
  exact if_pos read

/-- One transaction is a run. -/
theorem runs_auxtransfer {aux : AuxControl}
    (i2c : IsI2cRead aux.function ∨ IsI2cWrite aux.function) (bus : AuxBus)
    {next : AuxBus × List U8 → AuxBus}
    (keeps : ∀ result, (next result).transactions = result.1.transactions
      ∧ (next result).commands = result.1.commands ∧ (next result).attempts = result.1.attempts)
    : port.Runs [shapeOf aux] bus ((port.cbDiuDpAuxtransfer aux bus).map next) := by
  rw [cbDiuDpAuxtransfer_eq i2c]
  cases replied : port.cbDiuDpAuxCmd aux.function bus.commands bus.attempts with
  | none =>
    intro more
    change (port.cbDiuDpAuxCmd aux.function bus.commands bus.attempts).bind _ = none
    rw [replied, Option.bind_none]
  | some reply =>
    obtain ⟨reply, following⟩ := reply
    obtain ⟨transactions, commands, attempts⟩ := keeps
      ({ bus with
          commands := bus.commands + 1
          attempts := following
          transactions := bus.transactions ++ [transactionOf aux reply] },
        (transactionOf aux reply).bytes)
    refine ⟨[transactionOf aux reply], transactions, ?_, ?_, ?_⟩
    · rw [List.map_singleton, shape_transactionOf]
    · intro transaction member
      rw [List.mem_singleton.mp member]
      exact fromSink_transactionOf aux reply
    · intro more
      change (port.cbDiuDpAuxCmd aux.function bus.commands bus.attempts).bind _ = _
      rw [replied, Option.bind_some, commands, attempts]
      rfl

/-- So is one that depends on a condition. -/
theorem runs_transferIf {aux : AuxControl}
    (i2c : IsI2cRead aux.function ∨ IsI2cWrite aux.function) (condition : Bool) (bus : AuxBus)
    : port.Runs (if condition then [shapeOf aux] else []) bus
        (port.transferIf condition aux bus) := by
  cases condition with
  | true => exact runs_auxtransfer i2c bus fun _ => ⟨rfl, rfl, rfl⟩
  | false => exact runs_nil bus

theorem shapeOf_addressOnly (function : U8) (param : AuxData)
    : shapeOf (addressOnly function param) = ⟨function, 0, []⟩ := by
  simp [shapeOf, addressOnly]

theorem function_i2c (request : I2cRequest)
    : IsI2cRead request.function ∨ IsI2cWrite request.function := by
  cases request with
  | write => exact .inr rfl
  | read => exact .inl rfl

theorem runs_startTransfer (request : I2cRequest) (param : AuxData) (bus : AuxBus)
    : port.Runs (startPlan request param) bus (port.startTransfer request param bus) := by
  let start := addressOnly (cbiosAuxRequestI2cWrite ||| cbiosAuxRequestI2cMot) param
  let offset : AuxControl := { start with buffer := [param.offset], length := 1 }
  let turn := addressOnly (cbiosAuxRequestI2cRead ||| cbiosAuxRequestI2cMot) param
  have write : IsI2cWrite (cbiosAuxRequestI2cWrite ||| cbiosAuxRequestI2cMot) := by decide
  have read : IsI2cRead (cbiosAuxRequestI2cRead ||| cbiosAuxRequestI2cMot) := by decide
  have starts : IsI2cRead start.function ∨ IsI2cWrite start.function := .inr write
  have offsets : IsI2cRead offset.function ∨ IsI2cWrite offset.function := .inr write
  have reads : IsI2cRead turn.function ∨ IsI2cWrite turn.function := .inl read
  have addresses (condition : Bool) (bus : AuxBus)
      : port.Runs (if condition then [shapeOf start] else []) bus
        (port.transferIf condition start bus) :=
    runs_transferIf starts condition bus
  have sends (condition : Bool) (bus : AuxBus)
      : port.Runs (if condition then [shapeOf offset] else []) bus
        (port.transferIf condition offset bus) :=
    runs_transferIf offsets condition bus
  have turns (condition : Bool) (bus : AuxBus)
      : port.Runs (if condition then [shapeOf turn] else []) bus
        (port.transferIf condition turn bus) :=
    runs_transferIf reads condition bus
  rw [startPlan, List.append_assoc]
  have offsetShape : shapeOf offset = ⟨start.function, 1, [param.offset]⟩ := by
    simp [shapeOf, offset, start, addressOnly, IsI2cRead, cbiosAuxRequestI2cRead,
      cbiosAuxRequestI2cMot, cbiosAuxRequestI2cWrite]
  rw [shapeOf_addressOnly] at addresses turns
  rw [offsetShape] at sends
  exact (addresses _ bus).bind fun bus' _ => (sends _ bus').bind fun bus'' _ => turns _ bus''

theorem runs_stopTransfer (request : I2cRequest) (param : AuxData) (bus : AuxBus)
    : port.Runs (stopPlan request param) bus (port.stopTransfer request param bus) := by
  rw [stopPlan, stopTransfer, AuxData.writesSegment]
  by_cases segment : param.address = 0x60 ∧ request = .write
  · rw [if_pos segment, if_pos (by simpa using segment)]
    exact runs_nil bus
  · rw [if_neg segment, if_neg (by simpa using segment), ← shapeOf_addressOnly _ param]
    exact runs_transferIf (function_i2c request) _ bus

-----------------------------------------------------------------------------------------
-- The data
-----------------------------------------------------------------------------------------

/-- The caller's buffer after these bytes of data. -/
def bufferAfter (request : I2cRequest) (param : AuxData) (moved : List U8) : List U8 :=
  match request with
  | .write => param.buffer
  | .read => storeBytes param.buffer 0 moved

/-- The bytes of the transactions that a run has made since a state. -/
def movedSince (bus bus' : AuxBus) : List U8 :=
  (bus'.transactions.drop bus.transactions.length).flatMap (·.bytes)

theorem length_readBuffer (reply : AuxReply) (length : Nat)
    : (reply.readBuffer length).length = length := by
  cases reply <;> simp [AuxReply.readBuffer]

/-- The control block of the `k`-th data transaction. -/
def dataControl (request : I2cRequest) (param : AuxData) (bus : AuxBus) (k : Nat) : AuxControl :=
  { addressOnly (dataFunction request param) param with
    buffer := bus.buffer.drop (auxMaxPayloadBytes * k)
    length := min auxMaxPayloadBytes (param.bytesRequested.toNat - auxMaxPayloadBytes * k) }

theorem dataFunction_i2c (request : I2cRequest) (param : AuxData)
    : dataFunction request param &&& ~~~cbiosAuxRequestI2cMot = request.function := by
  unfold dataFunction
  cases request <;> cases param.merge <;> rfl

theorem isI2cRead_dataFunction (request : I2cRequest) (param : AuxData)
    : IsI2cRead (dataFunction request param) ↔ request = .read := by
  rw [IsI2cRead, dataFunction_i2c]
  cases request <;> decide

theorem dataControl_i2c (request : I2cRequest) (param : AuxData) (bus : AuxBus) (k : Nat)
    : IsI2cRead (dataControl request param bus k).function
      ∨ IsI2cWrite (dataControl request param bus k).function := by
  change dataFunction request param &&& ~~~cbiosAuxRequestI2cMot = _
    ∨ dataFunction request param &&& ~~~cbiosAuxRequestI2cMot = _
  rw [dataFunction_i2c]
  cases request with
  | write => exact .inr rfl
  | read => exact .inl rfl

/-- The bytes of a data transaction are as many as it is long. -/
theorem length_dataControl {request : I2cRequest} {param : AuxData} {bus : AuxBus} (k : Nat)
    {moved : List U8} (buffered : bus.buffer = bufferAfter request param moved) (reply : AuxReply)
    : (transactionOf (dataControl request param bus k) reply).bytes.length
      = min auxMaxPayloadBytes (param.bytesRequested.toNat - auxMaxPayloadBytes * k) := by
  have size : bus.buffer.length = param.bytesRequested.toNat := by
    rw [buffered, ← param.size]
    cases request <;> simp [bufferAfter]
  rw [transactionOf]
  by_cases read : IsI2cRead (dataControl request param bus k).function
  · rw [if_pos read, length_readBuffer]
    rfl
  · rw [if_neg read]
    simp only [dataControl, List.length_take, List.length_drop, size]
    omega

theorem shapeOf_dataControl {request : I2cRequest} {param : AuxData} {bus : AuxBus} {k : Nat}
    {moved : List U8} (buffered : bus.buffer = bufferAfter request param moved)
    : shapeOf (dataControl request param bus k) = dataShape request param k := by
  have read := isI2cRead_dataFunction request param
  cases request with
  | read => simp [shapeOf, dataControl, dataShape, addressOnly, read]
  | write =>
    have length : (param.buffer.drop (auxMaxPayloadBytes * k)).length
        = param.bytesRequested.toNat - auxMaxPayloadBytes * k := by
      rw [List.length_drop, param.size]
    simp only [shapeOf, dataControl, dataShape, addressOnly, read, reduceCtorEq, if_false,
      buffered, bufferAfter, ← length, ← List.take_eq_take_min]

/-- The bytes of a read are stored behind those before. -/
def storeData (request : I2cRequest) (k : Nat) (result : AuxBus × List U8) : AuxBus :=
  match request with
  | .write => result.1
  | .read =>
    { result.1 with
      buffer := storeBytes result.1.buffer (auxMaxPayloadBytes * k) result.2 }

theorem storeData_keeps (request : I2cRequest) (k : Nat) (result : AuxBus × List U8)
    : (storeData request k result).transactions = result.1.transactions
      ∧ (storeData request k result).commands = result.1.commands
      ∧ (storeData request k result).attempts = result.1.attempts := by
  cases request <;> exact ⟨rfl, rfl, rfl⟩

/-- A data transaction moves its bytes. -/
theorem dataControl_moves {request : I2cRequest} {param : AuxData} {bus bus' : AuxBus} {k : Nat}
    {moved : List U8} (buffered : bus.buffer = bufferAfter request param moved)
    (length : moved.length = auxMaxPayloadBytes * k)
    (step : (port.cbDiuDpAuxtransfer (dataControl request param bus k) bus).map
      (storeData request k) = some bus')
    : ∃ reply, bus'.transactions
        = bus.transactions ++ [transactionOf (dataControl request param bus k) reply]
      ∧ bus'.buffer = bufferAfter request param
        (moved ++ (transactionOf (dataControl request param bus k) reply).bytes) := by
  rw [cbDiuDpAuxtransfer_eq (dataControl_i2c request param bus k), Option.map_map,
    Option.map_eq_some_iff] at step
  obtain ⟨⟨reply, next⟩, -, same⟩ := step
  refine ⟨reply, ?_, ?_⟩
  · rw [← same]
    exact (storeData_keeps request k _).1
  · rw [← same]
    cases request with
    | write => exact buffered
    | read =>
      change storeBytes bus.buffer (auxMaxPayloadBytes * k) _ = storeBytes param.buffer 0 _
      rw [buffered, ← storeBytes_append, Nat.zero_add, length]
      rfl

theorem movedSince_cons {bus bus' bus'' : AuxBus} {transaction : AuxTransaction}
    {made : List AuxTransaction} (first : bus'.transactions = bus.transactions ++ [transaction])
    (rest : bus''.transactions = bus'.transactions ++ made)
    : movedSince bus bus'' = transaction.bytes ++ movedSince bus' bus'' := by
  rw [movedSince, movedSince, rest, List.drop_left, first, List.append_assoc, List.drop_left]
  rfl

/-- One round of the loop. -/
theorem dataTransfers_succ (request : I2cRequest) {param : AuxData} (rounds : Nat) {k : Nat}
    (bus : AuxBus) (more : auxMaxPayloadBytes * k < param.bytesRequested.toNat)
    : port.dataTransfers request param (addressOnly (dataFunction request param) param)
        (rounds + 1) (auxMaxPayloadBytes * k) bus
      = ((port.cbDiuDpAuxtransfer (dataControl request param bus k) bus).map
        (storeData request k)).bind fun bus => port.dataTransfers request param
          (addressOnly (dataFunction request param) param) rounds
          (min (auxMaxPayloadBytes * (k + 1)) param.bytesRequested.toNat) bus := by
  have next : auxMaxPayloadBytes * k
      + min auxMaxPayloadBytes (param.bytesRequested.toNat - auxMaxPayloadBytes * k)
      = min (auxMaxPayloadBytes * (k + 1)) param.bytesRequested.toNat := by
    rw [Nat.mul_add]
    omega
  rw [dataTransfers, if_pos more, ← next]
  dsimp only
  cases transferred : port.cbDiuDpAuxtransfer (dataControl request param bus k) bus with
  | none =>
    unfold dataControl at transferred
    simp only [transferred]
    rfl
  | some result =>
    unfold dataControl at transferred
    simp only [transferred]
    rfl

/-- The loop makes the transactions that are left, and moves their bytes. -/
theorem runs_dataTransfers (request : I2cRequest) (param : AuxData) {rounds k : Nat}
    {bus : AuxBus} {moved : List U8}
    (enough : param.bytesRequested.toNat
      ≤ min (auxMaxPayloadBytes * k) param.bytesRequested.toNat + rounds)
    (buffered : bus.buffer = bufferAfter request param moved)
    (length : moved.length = min (auxMaxPayloadBytes * k) param.bytesRequested.toNat)
    : let i := min (auxMaxPayloadBytes * k) param.bytesRequested.toNat
      let result := port.dataTransfers request param
        (addressOnly (dataFunction request param) param) rounds i bus
      port.Runs ((List.range' k (param.chunks - k)).map (dataShape request param)) bus result
      ∧ ∀ bus', result = some bus' →
        bus'.buffer = bufferAfter request param (moved ++ movedSince bus bus') := by
  have done (bus : AuxBus) {k : Nat} (all : param.bytesRequested.toNat ≤ auxMaxPayloadBytes * k)
      : port.Runs ((List.range' k (param.chunks - k)).map (dataShape request param)) bus
        (some bus) := by
    have none : param.chunks - k = 0 := by
      change param.bytesRequested.toNat ≤ 16 * k at all
      change (param.bytesRequested.toNat + (16 - 1)) / 16 - k = 0
      omega
    rw [none]
    exact runs_nil bus
  induction rounds generalizing k bus moved with
  | zero =>
    refine ⟨done bus (by omega), ?_⟩
    intro bus' same
    rw [← Option.some.inj same]
    simpa [movedSince] using buffered
  | succ rounds ih =>
    dsimp only
    by_cases more : auxMaxPayloadBytes * k < param.bytesRequested.toNat
    · have here : min (auxMaxPayloadBytes * k) param.bytesRequested.toNat
          = auxMaxPayloadBytes * k := Nat.min_eq_left (Nat.le_of_lt more)
      have left : param.chunks - k = param.chunks - (k + 1) + 1 := by
        change 16 * k < param.bytesRequested.toNat at more
        change (param.bytesRequested.toNat + (16 - 1)) / 16 - k
          = (param.bytesRequested.toNat + (16 - 1)) / 16 - (k + 1) + 1
        omega
      rw [here] at enough length ⊢
      rw [dataTransfers_succ request rounds bus more, left, List.range'_succ, List.map_cons,
        ← shapeOf_dataControl buffered]
      have following (bus' : AuxBus)
          (step : (port.cbDiuDpAuxtransfer (dataControl request param bus k) bus).map
            (storeData request k) = some bus')
          : let result := port.dataTransfers request param
              (addressOnly (dataFunction request param) param) rounds
              (min (auxMaxPayloadBytes * (k + 1)) param.bytesRequested.toNat) bus'
            port.Runs ((List.range' (k + 1) (param.chunks - (k + 1))).map
              (dataShape request param)) bus' result
            ∧ ∀ bus'', result = some bus'' →
              bus''.buffer = bufferAfter request param (moved ++ movedSince bus bus'') := by
        obtain ⟨reply, first, moves⟩ := dataControl_moves buffered length step
        have longer := length_dataControl k buffered reply
        have product : auxMaxPayloadBytes * (k + 1) = auxMaxPayloadBytes * k + 16 :=
          Nat.mul_succ _ _
        have size : auxMaxPayloadBytes = 16 := rfl
        have grown : (moved ++ (transactionOf (dataControl request param bus k) reply).bytes).length
            = moved.length + _ := List.length_append
        obtain ⟨runs, kept⟩ := @ih (k + 1) bus' _ (by omega) moves (by omega)
        refine ⟨runs, ?_⟩
        intro bus'' last
        rw [last] at runs
        obtain ⟨made, isMade, -, -, -⟩ := runs
        rw [movedSince_cons first isMade, ← List.append_assoc]
        exact kept bus'' last
      refine ⟨?_, ?_⟩
      · exact (runs_auxtransfer (dataControl_i2c request param bus k) bus
          (storeData_keeps request k)).bind fun bus' step => (following bus' step).1
      · intro bus'' last
        obtain ⟨bus', step, rest⟩ := Option.bind_eq_some_iff.mp last
        exact (following bus' step).2 bus'' rest
    · rw [dataTransfers, if_neg (by omega)]
      refine ⟨done bus (by omega), ?_⟩
      intro bus' same
      rw [← Option.some.inj same]
      simpa [movedSince] using buffered

/-- The functions of the transactions of a transfer. -/
def i2cFunctions (request : I2cRequest) (param : AuxData) : List U8 :=
  (i2cPlan request param).map (·.function)

-----------------------------------------------------------------------------------------
-- The buffer outside of the data
-----------------------------------------------------------------------------------------

theorem auxData_buffer {isRead : Bool} {aux : AuxControl} {bus : AuxBus}
    {result : AuxBus × List U8} (made : port.auxData isRead aux bus = some result)
    : result.1.buffer = bus.buffer := by
  obtain ⟨_, -, same⟩ := Option.map_eq_some_iff.mp made
  rw [← same]

theorem transferIf_buffer {condition : Bool} {aux : AuxControl} {bus bus' : AuxBus}
    (made : port.transferIf condition aux bus = some bus') : bus'.buffer = bus.buffer := by
  cases condition with
  | false => rw [← Option.some.inj made]
  | true =>
    rw [transferIf, if_pos rfl, Option.map_eq_some_iff] at made
    obtain ⟨result, made, same⟩ := made
    rw [← same]
    rw [cbDiuDpAuxtransfer] at made
    split_ifs at made
    · exact auxData_buffer made
    · exact auxData_buffer made
    · exact auxData_buffer made

theorem startTransfer_buffer {request : I2cRequest} {param : AuxData} {bus bus' : AuxBus}
    (started : port.startTransfer request param bus = some bus') : bus'.buffer = bus.buffer := by
  obtain ⟨first, addressed, rest⟩ := Option.bind_eq_some_iff.mp started
  obtain ⟨second, sent, turned⟩ := Option.bind_eq_some_iff.mp rest
  rw [transferIf_buffer turned, transferIf_buffer sent, transferIf_buffer addressed]

theorem stopTransfer_buffer {request : I2cRequest} {param : AuxData} {bus bus' : AuxBus}
    (stopped : port.stopTransfer request param bus = some bus') : bus'.buffer = bus.buffer := by
  rw [stopTransfer] at stopped
  split_ifs at stopped
  · rw [Option.some.inj stopped]
  · exact transferIf_buffer stopped

-----------------------------------------------------------------------------------------
-- Whole transfers
-----------------------------------------------------------------------------------------

/-- The data of a transfer, from a buffer that is still the caller's. -/
theorem runs_data (request : I2cRequest) (param : AuxData) {bus : AuxBus}
    (buffered : bus.buffer = param.buffer)
    : let result := port.dataTransfers request param
        (addressOnly (dataFunction request param) param) param.bytesRequested.toNat 0 bus
      port.Runs (dataPlan request param) bus result
      ∧ ∀ bus', result = some bus' →
        bus'.buffer = bufferAfter request param (movedSince bus bus') := by
  have start : bus.buffer = bufferAfter request param [] := by
    rw [buffered]
    cases request with
    | write => rfl
    | read => exact (storeBytes_nil _ _).symm
  have run := @runs_dataTransfers port request param param.bytesRequested.toNat 0 bus [] (by omega)
    start (by simp)
  rw [Nat.mul_zero, Nat.zero_min, Nat.sub_zero, ← List.range_eq_range'] at run
  exact run

/-- A transfer is a run of its plan. -/
theorem runs_cbDiuAuxI2cAccess (request : I2cRequest) (param : AuxData)
    : port.Runs (i2cPlan request param) ⟨0, 0, [], param.buffer⟩
        (port.cbDiuAuxI2cAccess request param) := by
  rw [i2cPlan, List.append_assoc]
  refine (runs_startTransfer request param _).bind fun started isStarted => ?_
  exact (runs_data request param (startTransfer_buffer isStarted)).1.bind fun moved _ =>
    runs_stopTransfer request param moved

/-- The parts of a transfer that succeeds, with the data in the buffer. -/
theorem cbDiuAuxI2cAccess_parts {request : I2cRequest} {param : AuxData} {bus : AuxBus}
    (done : port.cbDiuAuxI2cAccess request param = some bus)
    : ∃ start data stop, bus.transactions = start ++ data ++ stop
      ∧ start.map (·.shape) = startPlan request param
      ∧ data.map (·.shape) = dataPlan request param
      ∧ stop.map (·.shape) = stopPlan request param
      ∧ (∀ transaction ∈ data, transaction.FromSink)
      ∧ bus.buffer = bufferAfter request param (data.flatMap (·.bytes)) := by
  obtain ⟨started, isStarted, rest⟩ := Option.bind_eq_some_iff.mp done
  obtain ⟨moved, isMoved, isStopped⟩ := Option.bind_eq_some_iff.mp rest
  have startRun : port.Runs (startPlan request param) ⟨0, 0, [], param.buffer⟩ _ :=
    runs_startTransfer request param _
  rw [isStarted] at startRun
  obtain ⟨start, isStart, startShapes, -, -⟩ := startRun
  obtain ⟨dataRun, buffered⟩ := runs_data request param (startTransfer_buffer isStarted)
  rw [isMoved] at dataRun
  obtain ⟨data, isData, dataShapes, fromSink, -⟩ := dataRun
  have stopRun : port.Runs (stopPlan request param) moved _ :=
    runs_stopTransfer request param moved
  rw [isStopped] at stopRun
  obtain ⟨stop, isStop, stopShapes, -, -⟩ := stopRun
  refine ⟨start, data, stop, ?_, startShapes, dataShapes, stopShapes, fromSink, ?_⟩
  · rw [isStop, isData, isStart, List.nil_append]
  · have moves : movedSince started moved = data.flatMap (·.bytes) := by
      rw [movedSince, isData, List.drop_left]
    rw [stopTransfer_buffer isStopped, buffered moved isMoved, moves]

end AuxPort

end Cx4Kernel.Cbios
