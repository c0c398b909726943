import Cx4Kernel.Cbios.I2cLines

/-! Start, stop and bytes on the I2C bus: what each of them leaves on the lines and lets the slave
see, depending on whose turn it is.
-/

namespace Cx4Kernel.Cbios

open Cx4Kernel.Foundation

-----------------------------------------------------------------------------------------
-- Frames
-----------------------------------------------------------------------------------------

/-- The lower bits of a byte, the highest of them first. -/
def bitsBelow (data : U8) : Nat → List Bool
  | 0 => []
  | count + 1 => data.getLsbD count :: bitsBelow data count

/-- A byte from the master with the acknowledgement of the slave. -/
def writeFrame (data : U8) : List WireEvent :=
  (bitsBelow data 8).map (.bit · true) ++ [.bit true false]

/-- A byte from the slave with the acknowledgement of the master, or without it. -/
def readFrame (data : U8) (ack : Bool) : List WireEvent :=
  (bitsBelow data 8).map (.bit true ·) ++ [.bit (!ack) true]

section Bytes

variable {slave : Slave maxI2cWaitLoop} {params : I2cRegParams} {sda : Bool}
  {seen : List WireEvent} {wires : Wires}

-----------------------------------------------------------------------------------------
-- Clocks
-----------------------------------------------------------------------------------------

/-- The clock line is pulled, and a clock begins unless one has just begun. -/
theorem Does.pull (wired : params.Wired) (rests : wires.Rests slave sda seen)
    : Does params (cbI2cModuleSetScl slave params false) wires () (Wires.low slave sda seen) := by
  have pulled := @Does.setScl slave params wired false wires
  rwa [rests.sda_eq, rests.drive] at pulled

theorem Does.lowDelay
    : Does params (cbDelayMicroSeconds slave) (Wires.low slave sda seen) ()
      (Wires.low slave sda seen) :=
  Does.delay _

theorem Does.highDelay {level : Bool}
    : Does params (cbDelayMicroSeconds slave) (Wires.high sda level seen) ()
      (Wires.high sda level seen) :=
  Does.delay _

/-- The data line moves while the clock line is low. -/
theorem Does.lowSda (wired : params.Wired) (next : Bool)
    : Does params (cbI2cModuleSetSda slave params next) (Wires.low slave sda seen) ()
      (Wires.low slave next seen) :=
  Does.setSda wired next _

/-- The data line moves while the clock line is high. -/
theorem Does.highSda (wired : params.Wired) (next : Bool) {level : Bool}
    : Does params (cbI2cModuleSetSda slave params next) (Wires.high sda level seen) ()
      (Wires.high next level (seen ++ edge (sda && level) (next && level))) :=
  Does.setSda wired next _

/-- A clock that has begun goes on. -/
theorem Does.clock (wired : params.Wired)
    : Does params (waitSclHigh slave params maxI2cWaitLoop) (Wires.low slave sda seen) true
      (Wires.high sda (slave.level seen) (seen ++ [.bit sda (slave.level seen)])) :=
  Does.raise wired (show (Wires.low slave sda seen).clock = false from rfl)

/-- The data line is let go while the clock line is low. -/
theorem Does.release (wired : params.Wired) (rests : wires.Rests slave sda seen)
    : Does params (releaseSda slave params) wires () (Wires.low slave true seen) :=
  (Does.pull wired rests).seq <| Does.lowDelay.seq <| (Does.lowSda wired true).seq Does.lowDelay

-----------------------------------------------------------------------------------------
-- Start and stop
-----------------------------------------------------------------------------------------

/-- `cbI2CModule_Stop` sends a clock with the data line low and lets it go in the high half. -/
theorem Does.stop (wired : params.Wired) (rests : wires.Rests slave sda seen)
    : Does params (cbI2cModuleStop slave params) wires true
      (Wires.high true (slave.level seen)
        (seen ++ [.bit false (slave.level seen)]
          ++ if slave.level seen then [.stop] else [])) := by
  have released := @Does.highSda slave params false
    (seen ++ [.bit false (slave.level seen)]) wired true (slave.level seen)
  have stop : edge false (slave.level seen) = if slave.level seen then [.stop] else [] := by
    cases slave.level seen <;> rfl
  rw [Bool.false_and, Bool.true_and, stop] at released
  exact (Does.pull wired rests).seq <| Does.lowDelay.seq <| (Does.lowSda wired false).seq <|
    Does.lowDelay.seq <| (Does.clock wired).bind <| released.seq <| Does.highDelay.seq <|
      Does.pure true _

/-- With both lines high, `cbI2CModule_Start` sends a start. -/
theorem Does.begin (wired : params.Wired)
    : Does params (startCondition slave params) (Wires.high true true seen) true
      (Wires.low slave false (seen ++ [.start])) := by
  refine (Does.getScl wired _).bind ((Does.getSda wired _).bind ?_)
  exact (Does.highSda wired false).seq <| Does.highDelay.seq <|
    (Does.pull wired (.high true)).seq <| Does.lowDelay.seq <| Does.pure true _

/-- With the data line low, it does not. -/
theorem Does.noBegin (wired : params.Wired) {level : Bool} (held : (sda && level) = false)
    : Does params (startCondition slave params) (Wires.high sda level seen) false
      (Wires.high sda level seen) := by
  refine (Does.getScl wired _).bind ((Does.getSda wired _).bind ?_)
  have data : (Wires.high sda level seen).data = false := held
  rw [data]
  exact Does.pure false _

theorem Does.goOn {step rest : I2c Bool} {middle after : Wires} {result : Bool}
    (done : Does params step wires true middle) (goesOn : Does params rest middle result after)
    : Does params (orFail step rest) wires result after :=
  done.bind goesOn

theorem Does.fail {step rest : I2c Bool} {after : Wires} (failed : Does params step wires false after)
    : Does params (orFail step rest) wires false after :=
  failed.bind (Does.pure false _)

/-- With the data line low and the clock line high, `cbI2CModule_Start` sends one clock. -/
theorem Does.extraClock (wired : params.Wired) (rests : wires.Rests slave sda seen)
    : Does params (clockSda slave params) wires true
      (Wires.high true (slave.level seen) (seen ++ [.bit true (slave.level seen)])) :=
  (Does.pull wired rests).seq <| Does.lowDelay.seq <| (Does.lowSda wired true).seq <|
    Does.lowDelay.seq (Does.clock wired)

/-- The code returns TRUE and leaves such lines, or it returns FALSE and leaves lines that rest. -/
def Yields (slave : Slave maxI2cWaitLoop) (params : I2cRegParams) (code : I2c Bool)
    (before : Wires) (good : Wires → Prop)
    : Prop :=
  ∃ result after,
    Does params code before result after
    ∧ if result then good after else ∃ sda more, after.Rests slave sda more

theorem Yields.goOn {step rest : I2c Bool} {good better : Wires → Prop}
    (first : Yields slave params step wires good)
    (second : ∀ middle, good middle → Yields slave params rest middle better)
    : Yields slave params (orFail step rest) wires better := by
  obtain ⟨result, middle, does, ends⟩ := first
  rcases result with _ | _
  · exact ⟨false, middle, does.fail, ends⟩
  · obtain ⟨result, after, does', ends'⟩ := second middle ends
    exact ⟨result, after, does.goOn does', ends'⟩

/-- A step that is known to return TRUE. -/
theorem Does.andThen {step rest : I2c Bool} {middle : Wires} {good : Wires → Prop}
    (does : Does params step wires true middle) (goesOn : Yields slave params rest middle good)
    : Yields slave params (orFail step rest) wires good := by
  obtain ⟨result, after, later, ends⟩ := goesOn
  exact ⟨result, after, does.goOn later, ends⟩

/-- Code that returns TRUE. -/
theorem Does.yields {code : I2c Bool} {after : Wires} {good : Wires → Prop}
    (does : Does params code wires true after) (holds : good after)
    : Yields slave params code wires good :=
  ⟨true, after, does, holds⟩

/-- The rest of `cbI2CModule_Start` once the clock line is high: a start, with no other one before
it, unless the data line stays low.
-/
theorem Yields.startHigh (wired : params.Wired) (level : Bool)
    : Yields slave params
      (do
        let bySDL ← cbI2cModuleGetSda slave params
        orFail (if bySDL then pure true else clockSda slave params) (startCondition slave params))
      (Wires.high sda level seen)
      fun after => ∃ before, .start ∉ before
        ∧ after = Wires.low slave false (seen ++ before ++ [.start]) := by
  have data : (Wires.high sda level seen).data = (sda && level) := rfl
  rcases held : sda && level with _ | _
  · rw [held] at data
    have clocked := @Does.extraClock slave params sda seen _ wired (.high level)
    rcases again : slave.level seen with _ | _
    · refine ⟨false, _, (Does.getSda wired _).bind ?_, true,
        seen ++ [.bit true false], .high false⟩
      rw [data]
      rw [again] at clocked
      exact clocked.goOn (Does.noBegin wired rfl)
    · refine ⟨true, _, (Does.getSda wired _).bind ?_, [.bit true true], by simp, rfl⟩
      rw [data]
      rw [again] at clocked
      exact clocked.goOn (Does.begin wired)
  · obtain ⟨rfl, rfl⟩ : sda = true ∧ level = true := by simpa using held
    refine ⟨true, Wires.low slave false (seen ++ [.start]), (Does.getSda wired _).bind ?_, [],
      by simp, by rw [List.append_nil]⟩
    exact (Does.pure true _).goOn (Does.begin wired)

/-- `cbI2CModule_Start` from lines that it may find. -/
theorem Yields.start (wired : params.Wired)
    (found : wires.clock = false ∨ ∃ sda level, wires = Wires.high sda level wires.seen)
    : Yields slave params (cbI2cModuleStart slave params) wires
      fun after => ∃ before, .start ∉ before
        ∧ after = Wires.low slave false (wires.seen ++ before ++ [.start]) := by
  rcases found with low | ⟨sda, level, high⟩
  · obtain ⟨result, after, does, started⟩ := @Yields.startHigh slave params wires.sda
      (wires.seen ++ [.bit wires.sda wires.level]) wired wires.level
    refine ⟨result, after, (Does.getScl wired _).bind ?_, ?_⟩
    · rw [low]
      exact (Does.raise wired low).goOn does
    · rcases result with _ | _
      · exact started
      · obtain ⟨before, none, rfl⟩ := started
        exact ⟨.bit wires.sda wires.level :: before, by simpa using none, by simp⟩
  · obtain ⟨result, after, does, started⟩ := @Yields.startHigh slave params sda wires.seen wired level
    refine ⟨result, after, (Does.getScl wired _).bind ?_, started⟩
    rw [high]
    exact (Does.pure true _).goOn does

/-- `cbI2CModule_Start` behind a byte, with a slave that leaves the data line high. -/
theorem Does.repeatedStart (wired : params.Wired) (free : slave.level seen = true)
    : Does params (cbI2cModuleStart slave params) (Wires.low slave true seen) true
      (Wires.low slave false (seen ++ [.bit true true] ++ [.start])) := by
  refine (Does.getScl wired _).bind ?_
  have raised := @Does.clock slave params true seen wired
  rw [free] at raised
  exact raised.goOn <| (Does.getSda wired _).bind <| (Does.pure true _).goOn (Does.begin wired)

-----------------------------------------------------------------------------------------
-- Bytes to the slave
-----------------------------------------------------------------------------------------

/-- One bit from the master, which is lost if the slave holds the data line. -/
theorem Does.masterBit (wired : params.Wired) (rests : wires.Rests slave sda seen) (value : Bool)
    : Does params (writeBit slave params value) wires ((value && slave.level seen) == value)
      (Wires.high value (slave.level seen) (seen ++ [.bit value (slave.level seen)])) :=
  (Does.pull wired rests).seq <| Does.lowDelay.seq <| (Does.lowSda wired value).seq <|
    Does.lowDelay.seq <| (Does.clock wired).bind <| (Does.getSda wired _).bind (Does.pure _ _)

/-- The turn after some bits that the slave receives, by induction on the bits. -/
theorem turn_receive (bits : List Bool) {more : Nat} {address : Bool}
    (now : turn seen = .receive (more + bits.length) address)
    : turn (seen ++ bits.map (.bit · true)) = .receive more address := by
  induction bits generalizing seen with
  | nil => simpa using now
  | cons bit rest ih =>
      have next : turn (seen ++ [.bit bit true]) = .receive (more + rest.length) address := by
        rw [turn_append, now]
        rfl
      simpa using ih next

/-- A bit for a slave that receives. -/
theorem Does.receivedBit (wired : params.Wired) (rests : wires.Rests slave sda seen) (value : Bool)
    {more : Nat} {address : Bool} (now : turn seen = .receive more address)
    : Does params (writeBit slave params value) wires true
      (Wires.high value true (seen ++ [.bit value true])) := by
  have free : slave.level seen = true := slave.level_of_turn (by rw [now]; rfl)
  have bit := Does.masterBit wired rests value
  rwa [free, Bool.and_true, beq_self_eq_true] at bit

/-- Before the last bit the data line is not released. -/
theorem writeBits_succ (data : U8) (left : Nat)
    : writeBits slave params data (left + 2)
      = orFail (writeBit slave params (data.getLsbD (left + 1)))
        (writeBits slave params data (left + 1)) := by
  rw [writeBits, orFail]
  simp

/-- A slave that receives lets all bits of a byte through, by induction on the bits. -/
theorem Does.receivedBits (wired : params.Wired) (data : U8) (more : Nat) {address : Bool}
    (rests : wires.Rests slave sda seen) (now : turn seen = .receive more address)
    : Does params (writeBits slave params data (more + 1)) wires true
      (Wires.low slave true (seen ++ (bitsBelow data (more + 1)).map (.bit · true))) := by
  have bit := Does.receivedBit wired rests (data.getLsbD more) now
  induction more generalizing wires sda seen with
  | zero => exact bit.bind <| (Does.release wired (.high true)).seq <| Does.pure true _
  | succ more ih =>
      have next : turn (seen ++ [.bit (data.getLsbD (more + 1)) true]) = .receive more address := by
        rw [turn_append, now]
        rfl
      have rest := @ih (data.getLsbD (more + 1)) _ _ (.high true) next
        (Does.receivedBit wired (.high true) _ next)
      rw [writeBits_succ, bitsBelow, List.map_cons, ← List.singleton_append, ← List.append_assoc]
      exact bit.goOn rest

/-- The acknowledgement is the slave's level. -/
theorem Does.slaveAck (wired : params.Wired)
    : Does params (readAck slave params) (Wires.low slave true seen) (!slave.level seen)
      (Wires.low slave true (seen ++ [.bit true (slave.level seen)])) := by
  refine (Does.clock wired).bind ?_
  have ack : Does params ((! ·) <$> cbI2cModuleGetSda slave params)
      (Wires.high true (slave.level seen) (seen ++ [.bit true (slave.level seen)]))
      (!slave.level seen)
      (Wires.high true (slave.level seen) (seen ++ [.bit true (slave.level seen)])) := by
    rw [map_eq_pure_bind]
    exact (Does.getSda wired _).bind (Does.pure _ _)
  exact ack.bind <| (Does.release wired (.high _)).seq <| Does.pure _ _

/-- A byte for a slave that receives: it is sent whole, and fails only if it is not acknowledged. -/
theorem Yields.receivedByte (wired : params.Wired) (data : U8) {address : Bool}
    (rests : wires.Rests slave sda seen) (now : turn seen = .receive 7 address)
    : Yields slave params (cbI2cModuleWriteByte slave params data true) wires
      (· = Wires.low slave true (seen ++ writeFrame data)) := by
  have bits := Does.receivedBits wired data 7 rests now
  have acknowledged := @Does.slaveAck slave params
    (seen ++ (bitsBelow data 8).map (.bit · true)) wired
  rcases level : slave.level (seen ++ (bitsBelow data 8).map (.bit · true)) with _ | _
  · rw [level] at acknowledged
    refine ⟨true, _, bits.goOn acknowledged, ?_⟩
    simp [writeFrame]
  · rw [level] at acknowledged
    exact ⟨false, _, bits.goOn acknowledged, true, _, .low⟩

/-- Who is next after an acknowledged byte. -/
theorem turn_writeFrame (data : U8) {address : Bool} (now : turn seen = .receive 7 address)
    : turn (seen ++ writeFrame data)
      = if address && data.getLsbD 0 then .send 7 else .receive 7 false := by
  have early := @turn_receive seen [data.getLsbD 7, data.getLsbD 6, data.getLsbD 5,
    data.getLsbD 4, data.getLsbD 3, data.getLsbD 2, data.getLsbD 1] 0 address now
  have frame : seen ++ writeFrame data
      = seen ++ ([data.getLsbD 7, data.getLsbD 6, data.getLsbD 5, data.getLsbD 4,
          data.getLsbD 3, data.getLsbD 2, data.getLsbD 1].map (.bit · true))
        ++ [.bit (data.getLsbD 0) true] ++ [.bit true false] := by
    simp [writeFrame, bitsBelow]
  rw [frame, turn_append, turn_append, early]
  simp [Turn.next]

/-- A slave that sends may disturb the bits of a byte, by induction on the bits. -/
theorem Yields.disturbedBits (wired : params.Wired) (data : U8) (more : Nat)
    (rests : wires.Rests slave sda seen) (now : turn seen = .send more)
    : Yields slave params (writeBits slave params data (more + 1)) wires
      fun after => ∃ later, after = Wires.low slave true later ∧ turn later = .acknowledged := by
  induction more generalizing wires sda seen with
  | zero =>
      have bit := Does.masterBit wired rests (data.getLsbD 0)
      rcases kept : (data.getLsbD 0 && slave.level seen) == data.getLsbD 0 with _ | _
      · rw [kept] at bit
        exact ⟨false, _, bit.fail, _, _, .high _⟩
      · rw [kept] at bit
        refine ⟨true, _, bit.bind <| (Does.release wired (.high _)).seq <| Does.pure true _, _,
          rfl, ?_⟩
        rw [turn_append, now]
        rfl
  | succ more ih =>
      have bit := Does.masterBit wired rests (data.getLsbD (more + 1))
      rw [writeBits_succ]
      rcases kept : (data.getLsbD (more + 1) && slave.level seen) == data.getLsbD (more + 1)
        with _ | _
      · rw [kept] at bit
        exact ⟨false, _, bit.fail, _, _, .high _⟩
      · rw [kept] at bit
        have next : turn (seen ++ [.bit (data.getLsbD (more + 1)) (slave.level seen)])
            = .send more := by
          rw [turn_append, now]
          rfl
        exact bit.andThen (ih (.high (slave.level seen)) next)

/-- A slave that sends does not acknowledge, so that no byte can be written. -/
theorem Yields.disturbedByte (wired : params.Wired) (data : U8)
    (rests : wires.Rests slave sda seen) (now : turn seen = .send 7)
    : Yields slave params (cbI2cModuleWriteByte slave params data true) wires fun _ => False := by
  refine (Yields.disturbedBits wired data 7 rests now).goOn ?_
  rintro _ ⟨later, rfl, acknowledged⟩
  have free : slave.level later = true := slave.level_of_turn (by rw [acknowledged]; rfl)
  have ack := @Does.slaveAck slave params later wired
  rw [free] at ack
  exact ⟨false, _, ack, true, _, .low⟩

-----------------------------------------------------------------------------------------
-- Bytes from the slave
-----------------------------------------------------------------------------------------

/-- A byte with bits shifted in. -/
def shiftIn (data : U8) (bits : List Bool) : U8 :=
  bits.foldl (fun data bit => (data <<< 1) + if bit then 1 else 0) data

/-- Eight bits make a byte. -/
theorem bitsBelow_shiftIn (bits : List Bool) (eight : bits.length = 8)
    : bitsBelow (shiftIn 0 bits) 8 = bits := by
  have all : ∀ a b c d e f g h : Bool,
      bitsBelow (shiftIn 0 [a, b, c, d, e, f, g, h]) 8 = [a, b, c, d, e, f, g, h] := by
    decide
  obtain ⟨a, b, c, d, e, f, g, h, rfl⟩ : ∃ a b c d e f g h, bits = [a, b, c, d, e, f, g, h] := by
    match bits, eight with
    | [a, b, c, d, e, f, g, h], _ => exact ⟨a, b, c, d, e, f, g, h, rfl⟩
  exact all a b c d e f g h

/-- The bits that a slave sends arrive as it sends them, by induction on their number. -/
theorem Does.sentBits (wired : params.Wired) (more : Nat) (data : U8)
    (now : turn seen = .send more)
    : ∃ bits : List Bool, bits.length = more + 1
        ∧ turn (seen ++ bits.map (.bit true ·)) = .acknowledged
        ∧ Does params (readBits slave params (more + 1) data) (Wires.low slave true seen)
          (true, shiftIn data bits) (Wires.low slave true (seen ++ bits.map (.bit true ·))) := by
  induction more generalizing seen data with
  | zero =>
      refine ⟨[slave.level seen], rfl, ?_, ?_⟩
      · simp [now, Turn.next]
      · exact (Does.clock wired).bind <| (Does.getSda wired _).bind <|
          (Does.pull wired (.high _)).seq <| Does.lowDelay.seq <| Does.pure _ _
  | succ more ih =>
      have next : turn (seen ++ [.bit true (slave.level seen)]) = .send more := by
        rw [turn_append, now]
        rfl
      obtain ⟨bits, length, last, rest⟩ :=
        ih ((data <<< 1) + if slave.level seen then 1 else 0) next
      have all : seen ++ (slave.level seen :: bits).map (.bit true ·)
          = seen ++ [.bit true (slave.level seen)] ++ bits.map (.bit true ·) := by
        simp
      refine ⟨slave.level seen :: bits, by simp [length], ?_, ?_⟩
      · rw [all, last]
      · rw [all]
        exact (Does.clock wired).bind <| (Does.getSda wired _).bind <|
          (Does.pull wired (.high _)).seq <| Does.lowDelay.seq rest

/-- The master acknowledges, or does not, while the slave leaves the data line high. -/
theorem Does.masterAck (wired : params.Wired) (ack : Bool) (now : turn seen = .acknowledged)
    : Does params (writeAck slave params ack) (Wires.low slave true seen) true
      (Wires.low slave true (seen ++ [.bit (!ack) true])) := by
  have free : slave.level seen = true := slave.level_of_turn (by rw [now]; rfl)
  have clock := @Does.clock slave params (!ack) seen wired
  rw [free] at clock
  refine (Does.lowSda wired (!ack)).seq <| Does.lowDelay.seq <| clock.bind <|
    (Does.pull wired (.high true)).seq ?_
  rcases ack with _ | _
  · exact (Does.pure () _).seq <| Does.lowDelay.seq <| Does.pure true _
  · exact (Does.lowDelay.seq (Does.lowSda wired true)).seq <| Does.lowDelay.seq <| Does.pure true _

/-- A byte that a slave sends is stored as it sends it. -/
theorem Does.sentByte (wired : params.Wired) (ack : Bool) (now : turn seen = .send 7)
    : ∃ data,
        Does params (cbI2cModuleReadByte slave params ack (!ack)) (Wires.low slave true seen)
          (true, data) (Wires.low slave true (seen ++ readFrame data ack))
        ∧ turn (seen ++ readFrame data ack) = if ack then .send 7 else .idle := by
  obtain ⟨bits, eight, last, does⟩ := Does.sentBits wired 7 0 now
  have frame : seen ++ readFrame (shiftIn 0 bits) ack
      = seen ++ bits.map (.bit true ·) ++ [.bit (!ack) true] := by
    rw [readFrame, bitsBelow_shiftIn bits eight, List.append_assoc]
  refine ⟨shiftIn 0 bits, ?_, ?_⟩
  · rw [frame]
    have either : (ack || !ack) = true := by cases ack <;> rfl
    refine does.bind ?_
    simp only [either, Bool.and_true, if_true]
    exact (Does.masterAck wired ack last).bind (Does.pure _ _)
  · rw [frame, turn_append, last]
    cases ack <;> rfl

end Bytes

end Cx4Kernel.Cbios
