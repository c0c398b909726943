import Cx4Kernel.Cbios.AuxI2cRuns

/-! What the sink has seen of a transfer that succeeds: the buffer once and in order, with a reply to
each transaction, which is taken for a success even if it is a NACK.
-/

namespace Cx4Kernel.Cbios

open Cx4Kernel.Foundation AuxPort

-----------------------------------------------------------------------------------------
-- Chunks
-----------------------------------------------------------------------------------------

/-- The chunks of a list are the list. -/
theorem flatMap_chunks {α : Type} (values : List α)
    : ((List.range ((values.length + 15) / 16)).flatMap fun k =>
        (values.drop (16 * k)).take 16) = values := by
  have some (count : Nat)
      : ((List.range count).flatMap fun k => (values.drop (16 * k)).take 16)
        = values.take (16 * count) := by
    induction count with
    | zero => simp
    | succ count ih =>
      rw [List.range_succ, List.flatMap_append, ih, List.flatMap_singleton, Nat.mul_succ,
        List.take_add]
  rw [some, List.take_of_length_le (by omega)]

/-- The lengths of the chunks add up to the length of the list. -/
theorem sum_chunks (length : Nat)
    : ((List.range ((length + 15) / 16)).map fun k => min 16 (length - 16 * k)).sum = length := by
  have lengths := congrArg List.length (flatMap_chunks (List.replicate length ()))
  simpa [List.length_flatMap] using lengths

-----------------------------------------------------------------------------------------
-- The claim of a success
-----------------------------------------------------------------------------------------

/-- The transaction keeps the bus of the sink. -/
def AuxTransaction.HasMot (transaction : AuxTransaction) : Prop :=
  transaction.function &&& cbiosAuxRequestI2cMot ≠ 0

/-- The sink has seen the offset and then the buffer, once and in order and with an ACK for each
transaction.
-/
structure TransferredOnce (request : I2cRequest) (param : AuxData) (bus : AuxBus) : Prop where
  parts : ∃ start data stop, bus.transactions = start ++ data ++ stop
    ∧ (start.flatMap fun transaction => transaction.shape.sent)
      = (if param.sendsOffset then [param.offset] else [])
    ∧ (∀ transaction ∈ start ++ stop, transaction.length = transaction.shape.sent.length)
    ∧ (∀ transaction ∈ data, transaction.length ≤ 16
      ∧ transaction.function &&& ~~~cbiosAuxRequestI2cMot = request.function
      ∧ transaction.FromSink)
    ∧ data.flatMap (·.bytes) = bus.buffer
  written : request = .write → bus.buffer = param.buffer
  mot : ∀ transaction ∈ bus.transactions.dropLast, transaction.HasMot
  lastMot : ∀ transaction ∈ bus.transactions.getLast?,
    (transaction.HasMot ↔ param.writesSegment request = true ∧ param.merge = false)
  acked : ∀ transaction ∈ bus.transactions, transaction.reply.IsAck

/-- No transaction of the transfer is ended by a NACK, if all of them are replied to. -/
def NoneRefused (port : AuxPort) (request : I2cRequest) (param : AuxData) : Prop :=
  ∀ replies, port.replies (i2cFunctions request param) 0 0 = some replies →
    ∀ reply ∈ replies, reply.IsAck

variable {port : AuxPort} {request : I2cRequest} {param : AuxData}

/-- A property of shapes that a plan has. -/
theorem forall_of_plan {made : List AuxTransaction} {plan : List AuxShape} {p : AuxShape → Prop}
    (shapes : made.map (·.shape) = plan) (all : ∀ shape ∈ plan, p shape)
    : ∀ transaction ∈ made, p transaction.shape := by
  intro transaction member
  rw [← shapes] at all
  exact all _ (List.mem_map_of_mem member)

theorem startPlan_sent (request : I2cRequest) (param : AuxData)
    : ((startPlan request param).flatMap (·.sent))
        = (if param.sendsOffset then [param.offset] else [])
      ∧ ∀ shape ∈ startPlan request param,
        shape.length = shape.sent.length ∧ shape.function &&& cbiosAuxRequestI2cMot ≠ 0 := by
  unfold startPlan
  constructor
  · split_ifs <;> rfl
  · split_ifs <;> simp [cbiosAuxRequestI2cWrite, cbiosAuxRequestI2cRead, cbiosAuxRequestI2cMot]

theorem stopPlan_empty (request : I2cRequest) (param : AuxData)
    : ∀ shape ∈ stopPlan request param, shape.length = shape.sent.length := by
  unfold stopPlan
  split_ifs <;> simp

theorem mem_dataPlan {shape : AuxShape} (member : shape ∈ dataPlan request param)
    : shape.length ≤ 16 ∧ shape.function = dataFunction request param := by
  obtain ⟨k, -, same⟩ := List.mem_map.mp member
  rw [← same]
  exact ⟨Nat.min_le_left _ _, rfl⟩

/-- The data of a plan are the buffer. -/
theorem moved_eq {data : List AuxTransaction} {buffer : List U8}
    (shapes : data.map (·.shape) = dataPlan request param)
    (fromSink : ∀ transaction ∈ data, transaction.FromSink)
    (buffered : buffer = bufferAfter request param (data.flatMap (·.bytes)))
    : data.flatMap (·.bytes) = buffer := by
  have functions := forall_of_plan shapes fun _ member => (mem_dataPlan member).2
  have direction := isI2cRead_dataFunction request param
  cases request with
  | write =>
    have sent : data.flatMap (·.bytes) = (dataPlan .write param).flatMap (·.sent) := by
      rw [← shapes, List.flatMap_map]
      apply List.flatMap_congr
      intro transaction member
      have isWrite : ¬ IsI2cRead transaction.function := by
        rw [show transaction.function = dataFunction .write param from functions _ member,
          direction]
        decide
      rw [AuxTransaction.shape, if_neg isWrite]
    rw [sent, buffered, dataPlan, List.flatMap_map]
    change _ = param.buffer
    conv_rhs => rw [← flatMap_chunks param.buffer]
    rw [AuxData.chunks, ← param.size]
    rfl
  | read =>
    have length : (data.flatMap (·.bytes)).length = param.buffer.length := by
      have lengths : data.map (fun transaction => transaction.bytes.length)
          = (dataPlan .read param).map (·.length) := by
        rw [← shapes, List.map_map]
        apply List.map_congr_left
        intro transaction member
        have isRead : IsI2cRead transaction.function := by
          rw [show transaction.function = dataFunction .read param from functions _ member,
            direction]
        rw [fromSink _ member isRead, AuxPort.length_readBuffer]
        rfl
      rw [List.length_flatMap, lengths, dataPlan, List.map_map, param.size]
      exact sum_chunks param.bytesRequested.toNat
    rw [buffered]
    exact (storeBytes_whole length).symm

theorem dataFunction_mot (request : I2cRequest) (param : AuxData)
    : dataFunction request param &&& cbiosAuxRequestI2cMot ≠ 0 ↔ param.merge = false := by
  unfold dataFunction
  cases request <;> cases param.merge <;> decide

/-- A merged transfer has one transaction at most. -/
theorem dataPlan_merged (merged : param.merge = true) : (dataPlan request param).length ≤ 1 := by
  have small : param.bytesRequested.toNat ≤ 16 := by
    rw [AuxData.merge, Bool.and_eq_true] at merged
    exact of_decide_eq_true merged.2
  rw [dataPlan, List.length_map, List.length_range]
  change (param.bytesRequested.toNat + 15) / 16 ≤ 1
  omega

/-- Only the last transaction of a plan gives the bus up. -/
theorem mot_of_plan {start data stop : List AuxTransaction}
    (startShapes : start.map (·.shape) = startPlan request param)
    (dataShapes : data.map (·.shape) = dataPlan request param)
    (stopShapes : stop.map (·.shape) = stopPlan request param)
    : (∀ transaction ∈ (start ++ data ++ stop).dropLast, transaction.HasMot)
      ∧ ∀ transaction ∈ (start ++ data ++ stop).getLast?,
        (transaction.HasMot ↔ param.writesSegment request = true ∧ param.merge = false) := by
  have starts : ∀ transaction ∈ start, transaction.HasMot :=
    forall_of_plan startShapes fun shape member => ((startPlan_sent request param).2 shape member).2
  have datas : ∀ transaction ∈ data, (transaction.HasMot ↔ param.merge = false) := by
    intro transaction member
    have function := forall_of_plan dataShapes (fun _ member => (mem_dataPlan member).2) _ member
    rw [AuxTransaction.HasMot, show transaction.function = _ from function]
    exact dataFunction_mot request param
  cases merged : param.merge with
  | true =>
    have startEmpty : start = [] := by
      simpa [startPlan, AuxData.sendsOffset, merged] using startShapes
    have stopEmpty : stop = [] := by simpa [stopPlan, merged] using stopShapes
    have one : (dataPlan request param).length ≤ 1 := dataPlan_merged merged
    rw [← dataShapes, List.length_map] at one
    rw [startEmpty, stopEmpty, List.nil_append, List.append_nil]
    rcases data with _ | ⟨transaction, _ | ⟨second, rest⟩⟩
    · simp
    · refine ⟨by simp, ?_⟩
      intro last isLast
      rw [show last = transaction from (Option.some.inj isLast).symm]
      simp [datas transaction (List.mem_singleton_self _), merged]
    · simp only [List.length_cons] at one
      omega
  | false =>
    have keeps : ∀ transaction ∈ start ++ data, transaction.HasMot := by
      intro transaction member
      rcases List.mem_append.mp member with early | late
      · exact starts transaction early
      · exact (datas transaction late).mpr merged
    cases segment : param.writesSegment request with
    | true =>
      have stopEmpty : stop = [] := by simpa [stopPlan, segment] using stopShapes
      rw [stopEmpty, List.append_nil]
      refine ⟨fun transaction member => keeps transaction (List.mem_of_mem_dropLast member), ?_⟩
      intro last isLast
      exact iff_of_true (keeps last (List.mem_of_getLast? isLast)) ⟨rfl, rfl⟩
    | false =>
      have one : stop.map (·.shape) = [⟨request.function, 0, []⟩] := by
        simpa [stopPlan, segment, merged] using stopShapes
      obtain ⟨transaction, isStop, shape⟩ := List.map_eq_singleton_iff.mp one
      have stops : ¬ transaction.HasMot := by
        rw [AuxTransaction.HasMot,
          show transaction.function = request.function from congrArg AuxShape.function shape]
        cases request <;> decide
      rw [isStop, List.dropLast_concat, List.getLast?_concat]
      refine ⟨keeps, ?_⟩
      intro last isLast
      rw [show last = transaction from (Option.some.inj isLast).symm]
      simp [stops]

-----------------------------------------------------------------------------------------
-- Refusals
-----------------------------------------------------------------------------------------

/-- A transfer that succeeds has the replies of the sink, as a transfer that is replied to does. -/
theorem access_iff_replies (port : AuxPort) (request : I2cRequest) (param : AuxData)
    (replies : List AuxReply)
    : port.replies (i2cFunctions request param) 0 0 = some replies
      ↔ ∃ bus, port.cbDiuAuxI2cAccess request param = some bus
        ∧ bus.transactions.map (·.reply) = replies := by
  have run : port.Runs (i2cPlan request param) ⟨0, 0, [], param.buffer⟩ _ :=
    runs_cbDiuAuxI2cAccess request param
  cases done : port.cbDiuAuxI2cAccess request param with
  | none =>
    rw [done] at run
    have fails := run []
    rw [List.append_nil] at fails
    simp [i2cFunctions, fails]
  | some bus =>
    rw [done] at run
    obtain ⟨made, isMade, -, -, follows⟩ := run
    have given := follows []
    rw [List.append_nil] at given
    rw [i2cFunctions, given, AuxPort.replies, Option.map_some, List.append_nil, Option.some.injEq]
    simp [isMade]

/-- A success moves the buffer once and in order, and each transaction is answered with an ACK exactly
if none is refused.
-/
theorem cbDiuAuxI2cAccess_once (port : AuxPort) (request : I2cRequest) (param : AuxData)
    : (∀ bus, port.cbDiuAuxI2cAccess request param = some bus → TransferredOnce request param bus)
      ↔ NoneRefused port request param := by
  constructor
  · intro once replies given reply member
    obtain ⟨bus, done, same⟩ := (access_iff_replies port request param replies).mp given
    rw [← same] at member
    obtain ⟨transaction, mine, isReply⟩ := List.mem_map.mp member
    rw [← isReply]
    exact (once bus done).acked transaction mine
  · intro accepted bus done
    obtain ⟨start, data, stop, made, startShapes, dataShapes, stopShapes, fromSink, buffered⟩ :=
      cbDiuAuxI2cAccess_parts done
    have moved := moved_eq dataShapes fromSink buffered
    have mots := mot_of_plan startShapes dataShapes stopShapes
    rw [← made] at mots
    refine
      { parts := ⟨start, data, stop, made, ?_, ?_, ?_, moved⟩
        written := ?_
        mot := mots.1
        lastMot := mots.2
        acked := ?_ }
    · rw [← (startPlan_sent request param).1, ← startShapes, List.flatMap_map]
    · intro transaction member
      rcases List.mem_append.mp member with early | late
      · exact forall_of_plan startShapes
          (fun shape inside => ((startPlan_sent request param).2 shape inside).1) _ early
      · exact forall_of_plan stopShapes (stopPlan_empty request param) _ late
    · intro transaction member
      obtain ⟨short, function⟩ :=
        forall_of_plan dataShapes (fun _ inside => mem_dataPlan inside) _ member
      refine ⟨short, ?_, fromSink transaction member⟩
      rw [show transaction.function = _ from function]
      exact dataFunction_i2c request param
    · intro write
      rw [buffered, write]
      rfl
    · intro transaction member
      exact accepted _ ((access_iff_replies port request param _).mpr ⟨bus, done, rfl⟩) _
        (List.mem_map_of_mem member)

/-- A sink that refuses the data of a read, and accepts all else. -/
def refusingSink : AuxPort where
  sink attempt := ⟨some (if attempt = 3 then .nack else .ack fun _ => 0x5A), 1⟩
  ready _ := true
  tunnel := false

def oneByteRead : AuxData where
  address := 0xA0
  offset := 0
  bytesRequested := 1
  buffer := [0xFF]
  isDdcci := false
  eddcMode := false
  i2cStop := false
  size := rfl

/-- A read whose data are refused returns `CBIOS_OK` with a byte 0. -/
theorem cbDiuAuxI2cAccess_refused
    : (refusingSink.cbDiuAuxI2cAccess .read oneByteRead).map
        (fun bus => (bus.transactions.map (·.reply.command), bus.buffer))
        = some ([cbiosAuxReplyAck, cbiosAuxReplyAck, cbiosAuxReplyAck, cbiosAuxReplyNack,
          cbiosAuxReplyAck], [0])
      ∧ ¬ ∀ bus, refusingSink.cbDiuAuxI2cAccess .read oneByteRead = some bus →
        TransferredOnce .read oneByteRead bus := by
  have run : (refusingSink.cbDiuAuxI2cAccess .read oneByteRead).map
      (fun bus => (bus.transactions.map (·.reply.command), bus.buffer))
      = some ([0, 0, 0, 1, 0], [0]) := by decide +kernel
  refine ⟨run, ?_⟩
  intro once
  obtain ⟨bus, done, same⟩ := Option.map_eq_some_iff.mp run
  have commands := (Prod.mk.inj same).1
  have refused : (1 : U8) ∈ bus.transactions.map (·.reply.command) := by
    rw [commands]
    decide
  obtain ⟨transaction, member, isNack⟩ := List.mem_map.mp refused
  have acked : transaction.reply.command = 0 := (once bus done).acked transaction member
  rw [acked] at isNack
  exact absurd isNack (by decide)

end Cx4Kernel.Cbios
