import Cx4Kernel.Cbios.I2cBytes

/-! `cbI2CModule_WriteData` and `cbI2CModule_ReadData` against a slave that obeys the protocol: what
it sees of a transfer that succeeds, and how one that fails ends.
-/

namespace Cx4Kernel.Cbios

open Cx4Kernel.Foundation

-----------------------------------------------------------------------------------------
-- What the slave sees
-----------------------------------------------------------------------------------------

/-- A transfer of `cbI2CModule_WriteData`, from its start on. -/
def writeSeen (slaveAddr offSet : U8) (buffer : List U8) : List WireEvent :=
  [.start] ++ writeFrame slaveAddr ++ (if hasOffset slaveAddr then writeFrame offSet else [])
    ++ buffer.flatMap writeFrame
    ++ if slaveAddr ≠ i2cEdidSegnumSlaveAddr then [.bit false true, .stop] else []

/-- The part of `cbI2CModule_ReadData` that the master sends. A second start comes in a clock of its
own.
-/
def requestSeen (slaveAddr offSet : U8) : List WireEvent :=
  (if hasOffset slaveAddr then
      [.start] ++ writeFrame slaveAddr ++ writeFrame offSet ++ [.bit true true]
    else [])
    ++ [.start] ++ writeFrame (slaveAddr + 1)

/-- Bytes from the slave, of which the master acknowledges all but the last. -/
def readFrames : List U8 → List WireEvent
  | [] => []
  | [data] => readFrame data false
  | data :: rest => readFrame data true ++ readFrames rest

/-- A transfer of `cbI2CModule_ReadData`, from its first start on. -/
def readSeen (slaveAddr offSet : U8) (buffer : List U8) : List WireEvent :=
  requestSeen slaveAddr offSet ++ readFrames buffer ++ [.bit false true, .stop]

section Transfers

variable {slave : Slave maxI2cWaitLoop} {params : I2cRegParams} {seen : List WireEvent}
  {wires : Wires}

-----------------------------------------------------------------------------------------
-- Writing
-----------------------------------------------------------------------------------------

theorem Yields.weaken {code : I2c Bool} {good better : Wires → Prop}
    (yields : Yields slave params code wires good) (implies : ∀ after, good after → better after)
    : Yields slave params code wires better := by
  obtain ⟨result, after, does, ends⟩ := yields
  refine ⟨result, after, does, ?_⟩
  rcases result with _ | _
  · exact ends
  · exact implies after ends

/-- After a start the slave receives the address. -/
theorem turn_start (seen : List WireEvent) : turn (seen ++ [.start]) = .receive 7 true := by
  rw [turn_append]
  cases turn seen <;> rfl

/-- Even addresses are for writing. -/
theorem turn_evenAddress {data : U8} (even : data.getLsbD 0 = false)
    (now : turn seen = .receive 7 true)
    : turn (seen ++ writeFrame data) = .receive 7 false := by
  rw [turn_writeFrame data now, even]
  rfl

theorem turn_data (data : U8) (now : turn seen = .receive 7 false)
    : turn (seen ++ writeFrame data) = .receive 7 false := by
  rw [turn_writeFrame data now]
  rfl

/-- Every byte of the buffer is sent and acknowledged, by induction on the buffer. -/
theorem Yields.writeBuffer (wired : params.Wired) (buffer : List U8)
    (now : turn seen = .receive 7 false)
    : Yields slave params (Cbios.writeBuffer slave params buffer) (Wires.low slave true seen)
      fun after => after = Wires.low slave true (seen ++ buffer.flatMap writeFrame)
        ∧ turn (seen ++ buffer.flatMap writeFrame) = .receive 7 false := by
  induction buffer generalizing seen with
  | nil =>
      refine (Does.pure true _).yields ?_
      simpa using now
  | cons data rest ih =>
      refine (Yields.receivedByte wired data .low now).goOn ?_
      rintro _ rfl
      have later := ih (turn_data data now)
      rw [List.append_assoc] at later
      exact later

theorem orFail_assoc (first second third : I2c Bool)
    : orFail (orFail first second) third = orFail first (orFail second third) := by
  rw [orFail, orFail, orFail, bind_assoc]
  refine congrArg (first >>= ·) (funext fun done => ?_)
  cases done
  · simp
  · simp [orFail]

/-- The address and the offset are sent and acknowledged. A slave that takes an odd address for the
start of a reading transfer takes no offset.
-/
theorem Yields.addressAndOffset (wired : params.Wired) (slaveAddr offSet : U8)
    (now : turn seen = .receive 7 true)
    : Yields slave params
      (orFail (cbI2cModuleWriteByte slave params slaveAddr true)
        (cbI2cModuleWriteByte slave params offSet true))
      (Wires.low slave false seen)
      fun after => after = Wires.low slave true (seen ++ writeFrame slaveAddr ++ writeFrame offSet)
        ∧ turn (seen ++ writeFrame slaveAddr ++ writeFrame offSet) = .receive 7 false
        ∧ slaveAddr.getLsbD 0 = false := by
  refine (Yields.receivedByte wired slaveAddr .low now).goOn ?_
  rintro _ rfl
  rcases odd : slaveAddr.getLsbD 0 with _ | _
  · have even := turn_evenAddress odd now
    refine (Yields.receivedByte wired offSet .low even).weaken ?_
    rintro _ rfl
    exact ⟨rfl, turn_data offSet even, rfl⟩
  · have sends : turn (seen ++ writeFrame slaveAddr) = .send 7 := by
      rw [turn_writeFrame slaveAddr now, odd]
      rfl
    exact (Yields.disturbedByte wired offSet .low sends).weaken fun _ => False.elim

/-- The slaves without an offset have even addresses. -/
theorem even_of_noOffset {slaveAddr : U8} (noOffset : hasOffset slaveAddr = false)
    : slaveAddr.getLsbD 0 = false := by
  have special : slaveAddr = i2cDdcciSlaveAddr ∨ slaveAddr = i2cEdidSegnumSlaveAddr := by
    simpa [hasOffset, Decidable.or_iff_not_imp_left] using noOffset
  rcases special with rfl | rfl <;> rfl

/-- The address, and the offset if there is one, are sent and acknowledged. -/
theorem Yields.writeHead (wired : params.Wired) (slaveAddr offSet : U8)
    (now : turn seen = .receive 7 true)
    : Yields slave params
      (orFail (cbI2cModuleWriteByte slave params slaveAddr true)
        (if hasOffset slaveAddr then cbI2cModuleWriteByte slave params offSet true else pure true))
      (Wires.low slave false seen)
      fun after => after
          = Wires.low slave true (seen ++ writeFrame slaveAddr
            ++ (if hasOffset slaveAddr then writeFrame offSet else []))
        ∧ turn (seen ++ writeFrame slaveAddr
            ++ (if hasOffset slaveAddr then writeFrame offSet else []))
          = .receive 7 false := by
  rcases offset : hasOffset slaveAddr with _ | _
  · refine (Yields.receivedByte wired slaveAddr .low now).goOn ?_
    rintro _ rfl
    refine (Does.pure true _).yields ?_
    simpa using turn_evenAddress (even_of_noOffset offset) now
  · refine (Yields.addressAndOffset wired slaveAddr offSet now).weaken ?_
    rintro after ⟨same, next, _⟩
    exact ⟨same, next⟩

/-- The end of a transfer that succeeds: a stop, which the slave does not keep from being seen. -/
theorem Does.stopSeen (wired : params.Wired) (rests : wires.Rests slave true seen)
    (other : (turn seen).ofSlave = false)
    : Does params (cbI2cModuleStop slave params) wires true
      (Wires.high true true (seen ++ [.bit false true, .stop])) := by
  have stopped := Does.stop wired rests
  rw [slave.level_of_turn other] at stopped
  simpa using stopped

/-- `cbI2CModule_WriteData` up to `exit`: if it succeeds, the slave sees the whole transfer. -/
theorem Yields.writeTransfer (wired : params.Wired) (slaveAddr offSet : U8) (buffer : List U8)
    (found : wires.clock = false ∨ ∃ sda level, wires = Wires.high sda level wires.seen)
    : Yields slave params (Cbios.writeTransfer slave params slaveAddr offSet buffer) wires
      fun after => ∃ before, .start ∉ before
        ∧ after.Rests slave true (wires.seen ++ before ++ writeSeen slaveAddr offSet buffer) := by
  rw [Cbios.writeTransfer, ← orFail_assoc (cbI2cModuleWriteByte slave params slaveAddr true)]
  refine (Yields.start wired found).goOn ?_
  rintro _ ⟨before, none, rfl⟩
  refine (Yields.writeHead wired slaveAddr offSet (turn_start _)).goOn ?_
  rintro _ ⟨rfl, head⟩
  refine (Yields.writeBuffer wired buffer head).goOn ?_
  rintro _ ⟨rfl, written⟩
  by_cases segment : slaveAddr = i2cEdidSegnumSlaveAddr
  · have noStop : ¬ slaveAddr ≠ 0x60 := not_not.mpr segment
    rw [if_neg noStop]
    refine (Does.pure true _).yields ⟨before, none, ?_⟩
    have all : wires.seen ++ before ++ writeSeen slaveAddr offSet buffer
        = wires.seen ++ before ++ [.start] ++ writeFrame slaveAddr
          ++ (if hasOffset slaveAddr then writeFrame offSet else [])
          ++ buffer.flatMap writeFrame := by
      simp [writeSeen, segment]
    rw [all]
    exact .low
  · have stop : slaveAddr ≠ 0x60 := segment
    rw [if_pos stop]
    refine (Does.stopSeen wired .low (by rw [written]; rfl)).yields ⟨before, none, ?_⟩
    have all : wires.seen ++ before ++ writeSeen slaveAddr offSet buffer
        = wires.seen ++ before ++ [.start] ++ writeFrame slaveAddr
          ++ (if hasOffset slaveAddr then writeFrame offSet else [])
          ++ buffer.flatMap writeFrame ++ [.bit false true, .stop] := by
      simp [writeSeen, segment]
    rw [all]
    exact .high true

-----------------------------------------------------------------------------------------
-- Reading
-----------------------------------------------------------------------------------------

/-- Behind an even address is the one for reading. -/
theorem odd_add_one : ∀ slaveAddr : U8, slaveAddr.getLsbD 0 = false
    → (slaveAddr + 1).getLsbD 0 = true := by
  decide

/-- After the address for reading the slave sends. -/
theorem Yields.readAddress (wired : params.Wired) {slaveAddr : U8}
    (even : slaveAddr.getLsbD 0 = false) (now : turn seen = .receive 7 true)
    : Yields slave params (cbI2cModuleWriteByte slave params (slaveAddr + 1) true)
      (Wires.low slave false seen)
      fun after => after = Wires.low slave true (seen ++ writeFrame (slaveAddr + 1))
        ∧ turn (seen ++ writeFrame (slaveAddr + 1)) = .send 7 := by
  refine (Yields.receivedByte wired (slaveAddr + 1) .low now).weaken ?_
  rintro _ rfl
  refine ⟨rfl, ?_⟩
  rw [turn_writeFrame _ now, odd_add_one slaveAddr even]
  rfl

/-- A request for a byte at an offset is the address, the offset and a second start. -/
theorem Yields.readRequest (wired : params.Wired) (slaveAddr offSet : U8)
    (found : wires.clock = false ∨ ∃ sda level, wires = Wires.high sda level wires.seen)
    : Yields slave params (Cbios.readRequest slave params slaveAddr offSet) wires
      fun after => ∃ before, .start ∉ before
        ∧ after
          = Wires.low slave true (wires.seen ++ before ++ requestSeen slaveAddr offSet)
        ∧ turn (wires.seen ++ before ++ requestSeen slaveAddr offSet) = .send 7 := by
  rcases offset : hasOffset slaveAddr with _ | _
  · have request (earlier : List WireEvent) : earlier ++ requestSeen slaveAddr offSet
        = earlier ++ [.start] ++ writeFrame (slaveAddr + 1) := by
      simp [requestSeen, offset]
    rw [Cbios.readRequest, offset]
    refine (Does.pure true wires).andThen ((Yields.start wired found).goOn ?_)
    rintro _ ⟨before, none, rfl⟩
    refine (Yields.readAddress wired (even_of_noOffset offset) (turn_start _)).weaken ?_
    rintro after ⟨same, sends⟩
    exact ⟨before, none, by rw [request, same], by rw [request, sends]⟩
  · have request (earlier : List WireEvent) : earlier ++ requestSeen slaveAddr offSet
        = earlier ++ [.start] ++ writeFrame slaveAddr ++ writeFrame offSet
          ++ [.bit true true] ++ [.start] ++ writeFrame (slaveAddr + 1) := by
      simp [requestSeen, offset]
    rw [Cbios.readRequest, offset, if_pos rfl, orFail_assoc]
    refine (Yields.start wired found).goOn ?_
    rintro _ ⟨before, none, rfl⟩
    refine (Yields.addressAndOffset wired slaveAddr offSet (turn_start _)).goOn ?_
    rintro _ ⟨rfl, written, even⟩
    have again := Does.repeatedStart wired (slave.level_of_turn (by rw [written]; rfl))
    refine again.andThen ((Yields.readAddress wired even (turn_start _)).weaken ?_)
    rintro after ⟨same, sends⟩
    exact ⟨before, none, by rw [request, same], by rw [request, sends]⟩

/-- The bytes that the slave sends are stored, and all but the last are acknowledged, by induction on
their number.
-/
theorem Does.readBuffer (wired : params.Wired) (left : Nat) (now : turn seen = .send 7)
    : ∃ buffer, buffer.length = left + 1
        ∧ Does params (Cbios.readBuffer slave params left) (Wires.low slave true seen)
          (true, buffer) (Wires.low slave true (seen ++ readFrames buffer))
        ∧ turn (seen ++ readFrames buffer) = .idle := by
  induction left generalizing seen with
  | zero =>
      obtain ⟨data, does, next⟩ := Does.sentByte wired false now
      exact ⟨[data], rfl, does.bind (Does.pure _ _), next⟩
  | succ left ih =>
      obtain ⟨data, does, next⟩ := Does.sentByte wired true now
      obtain ⟨rest, length, doesRest, last⟩ := ih next
      have all : seen ++ readFrames (data :: rest) = seen ++ readFrame data true ++ readFrames rest := by
        match rest, length with
        | _ :: _, _ => simp [readFrames]
      refine ⟨data :: rest, by simp [length], ?_, ?_⟩
      · rw [all]
        exact does.bind (doesRest.bind (Does.pure _ _))
      · rw [all, last]

/-- `cbI2CModule_ReadData` up to `exit`: if it succeeds, the slave sees the whole transfer, and the
buffer holds what it sent.
-/
theorem Does.readTransfer (wired : params.Wired) (slaveAddr offSet : U8) {bufferLen : U32}
    (some : bufferLen ≠ 0)
    (found : wires.clock = false ∨ ∃ sda level, wires = Wires.high sda level wires.seen)
    : ∃ status buffer after,
        Does params (Cbios.readTransfer slave params slaveAddr offSet bufferLen) wires
          (status, buffer) after
        ∧ if status then
            buffer.length = bufferLen.toNat
            ∧ ∃ before, .start ∉ before
              ∧ after.Rests slave true (wires.seen ++ before ++ readSeen slaveAddr offSet buffer)
          else ∃ sda more, after.Rests slave sda more := by
  have positive : 0 < bufferLen.toNat :=
    Nat.pos_of_ne_zero fun none => some (BitVec.eq_of_toNat_eq none)
  have last : (bufferLen - 1).toNat + 1 = bufferLen.toNat := by
    have bound := bufferLen.isLt
    have one : (1 : U32).toNat = 1 := rfl
    rw [BitVec.toNat_sub, one]
    omega
  obtain ⟨status, after, request, ends⟩ := Yields.readRequest wired slaveAddr offSet found
  rcases status with _ | _
  · exact ⟨false, [], after, request.bind (Does.pure _ _), ends⟩
  · obtain ⟨before, none, rfl, sends⟩ := ends
    obtain ⟨buffer, length, bytes, idle⟩ :=
      @Does.readBuffer slave params _ wired (bufferLen - 1).toNat sends
    have stop := @Does.stopSeen slave params _ _ wired .low (by rw [idle]; rfl)
    refine ⟨true, buffer, _, request.bind <| bytes.bind <| stop.bind (Does.pure _ _),
      length.trans last, before, none, ?_⟩
    have all : wires.seen ++ before ++ readSeen slaveAddr offSet buffer
        = wires.seen ++ before ++ requestSeen slaveAddr offSet ++ readFrames buffer
          ++ [.bit false true, .stop] := by
      simp [readSeen]
    rw [all]
    exact .high true

-----------------------------------------------------------------------------------------
-- Enabling and disabling the lines
-----------------------------------------------------------------------------------------

/-- Letting the data line go is no start. -/
theorem drive_noStart (wires : Wires) (scl : Bool)
    : ∃ more, .start ∉ more ∧ (wires.drive slave scl true).seen = wires.seen ++ more := by
  rcases clock : wires.clock with _ | _
  · exact ⟨[], by simp, by simp [Wires.drive, clock]⟩
  · rcases scl with _ | _
    · exact ⟨[], by simp, by simp [Wires.drive, clock]⟩
    · refine ⟨edge wires.data wires.level, ?_, by simp [Wires.drive, clock]⟩
      rw [Wires.data]
      cases wires.sda <;> cases wires.level <;> simp [edge]

theorem delay_noStart (wires : Wires)
    : ∃ more, .start ∉ more ∧ (wires.delay slave).seen = wires.seen ++ more := by
  unfold Wires.delay
  split
  · split
    · exact ⟨[], by simp, by simp⟩
    · exact ⟨[.bit wires.sda wires.level], by simp, rfl⟩
  · exact ⟨[], by simp, by simp⟩

/-- After the master has let the clock line go, `cbI2CModule_Start` can begin. -/
theorem delay_found (wires : Wires) (scl : wires.scl = true)
    : (wires.delay slave).clock = false
      ∨ ∃ sda level, wires.delay slave = Wires.high sda level (wires.delay slave).seen := by
  rcases clock : wires.clock with _ | _
  · by_cases held : wires.waited < slave.stretch wires.seen
    · exact .inl (by simp [Wires.delay, scl, clock, held])
    · exact .inr ⟨wires.sda, wires.level, by simp [Wires.delay, scl, clock, held, Wires.high]⟩
  · exact .inr ⟨wires.sda, wires.level, by simp [Wires.delay, scl, clock, Wires.high]⟩

/-- The data line is let go first, whatever the registers were. -/
theorem enableSda (wired : params.Wired) (state : I2cState)
    : params.dLine.Shows
        (((cbI2cModuleSetSda slave params true).run state).2.regs params.dLine.typeIndex) true
      ∧ ∃ more, .start ∉ more
        ∧ ((cbI2cModuleSetSda slave params true).run state).2.wires.seen
          = state.wires.seen ++ more := by
  have shown := (wired.dLine.set (state.regs params.dLine.typeIndex) true).update state.regs
  refine ⟨shown, ?_⟩
  have wires : ((cbI2cModuleSetSda slave params true).run state).2.wires
      = state.wires.drive slave
        (params.cLine.released
          (((cbI2cModuleSetSda slave params true).run state).2.regs params.cLine.typeIndex)) true :=
    congrArg (state.wires.drive slave _) shown.released
  rw [wires]
  exact drive_noStart _ _

/-- `cbI2CModule_Enable` makes the lines follow the registers, from any registers and lines, without
a start.
-/
theorem enable_on (wired : params.Wired) (state : I2cState)
    : On params ((cbI2cModuleEnable slave params).run state).2
      ∧ (((cbI2cModuleEnable slave params).run state).2.wires.clock = false
        ∨ ∃ sda level, ((cbI2cModuleEnable slave params).run state).2.wires
          = Wires.high sda level ((cbI2cModuleEnable slave params).run state).2.wires.seen)
      ∧ ∃ before, .start ∉ before
        ∧ ((cbI2cModuleEnable slave params).run state).2.wires.seen
          = state.wires.seen ++ before := by
  obtain ⟨shown, one, no1, seen1⟩ := @enableSda slave params wired state
  generalize first : ((cbI2cModuleSetSda slave params true).run state).2 = released at shown seen1
  obtain ⟨two, no2, seen2⟩ := @delay_noStart slave released.wires
  obtain ⟨three, no3, seen3⟩ := @drive_noStart slave (released.wires.delay slave) true
  obtain ⟨four, no4, seen4⟩ :=
    @delay_noStart slave ((released.wires.delay slave).drive slave true true)
  let waited : I2cState := { released with wires := released.wires.delay slave }
  have written := @On.write slave params waited params.cLine.typeIndex
    (params.cLine.levelValue true) params.cLine.levelMask true true
    ((wired.cLine.set _ true).update waited.regs)
    (@kept_of_update params.cLine params.dLine waited.regs _ _ shown
      fun same byte => (wired.apart same).1.set byte true true)
  have enabled : ((cbI2cModuleEnable slave params).run state).2
      = ((cbDelayMicroSeconds slave).run
        ((cbI2cModuleSetScl slave params true).run waited).2).2 := by
    subst first
    rfl
  have delayed := @Does.delay slave params _ _ written.1 rfl
  have wires : ((cbI2cModuleEnable slave params).run state).2.wires
      = ((released.wires.delay slave).drive slave true true).delay slave := by
    rw [enabled]
    exact delayed.2.2.trans (congrArg (Wires.delay slave) written.2)
  refine ⟨enabled ▸ delayed.2.1, ?_, one ++ two ++ three ++ four, by simp [no1, no2, no3, no4], ?_⟩
  · rw [wires]
    exact delay_found _ (Wires.drive_scl slave _ true true)
  · rw [wires, seen4, seen3, seen2, seen1]
    simp

/-- No line is pulled by the master. -/
def Released (params : I2cRegParams) (state : I2cState) : Prop :=
  params.cLine.released (state.regs params.cLine.typeIndex) = true
  ∧ params.dLine.released (state.regs params.dLine.typeIndex) = true

/-- The data line is not pulled, and the clock line is not while it is high. -/
structure Free (params : I2cRegParams) (state : I2cState) : Prop where
  sda : state.wires.sda = true
  dLine : params.dLine.released (state.regs params.dLine.typeIndex) = true
  cLine : state.wires.clock = true
    → params.cLine.released (state.regs params.cLine.typeIndex) = true

/-- A write that pulls no line shows nothing to the slave. -/
theorem Free.write {state : I2cState} (free : Free params state) {typeIndex : RegTypeIndex}
    {value mask : U8}
    (cKept : params.cLine.released (state.regs params.cLine.typeIndex) = true
      → params.cLine.released
        (Function.update state.regs typeIndex (writeReg (state.regs typeIndex) value mask)
          params.cLine.typeIndex) = true)
    (dKept : params.dLine.released (state.regs params.dLine.typeIndex) = true
      → params.dLine.released
        (Function.update state.regs typeIndex (writeReg (state.regs typeIndex) value mask)
          params.dLine.typeIndex) = true)
    : Free params ((cbMmioWriteReg slave params typeIndex value mask).run state).2
      ∧ ((cbMmioWriteReg slave params typeIndex value mask).run state).2.wires.seen
        = state.wires.seen := by
  have wires : ((cbMmioWriteReg slave params typeIndex value mask).run state).2.wires
      = state.wires.drive slave
        (params.cLine.released
          (Function.update state.regs typeIndex (writeReg (state.regs typeIndex) value mask)
            params.cLine.typeIndex)) true :=
    congrArg (state.wires.drive slave _) (dKept free.dLine)
  obtain ⟨clock, seen⟩ := Wires.drive_free slave state.wires free.sda fun high =>
    cKept (free.cLine high)
  refine ⟨⟨?_, dKept free.dLine, ?_⟩, ?_⟩
  · rw [wires, Wires.drive_sda]
  · rw [wires, clock]
    exact fun high => cKept (free.cLine high)
  · rw [wires, seen]

/-- `cbI2CModule_Disable` lets both lines go and shows nothing to the slave. -/
theorem disable_released (wired : params.Wired) {state : I2cState} (free : Free params state)
    : Released params ((cbI2cModuleDisable slave params).run state).2
      ∧ ((cbI2cModuleDisable slave params).run state).2.wires.seen = state.wires.seen := by
  let write (line : LineReg) (value mask : U8) (state : I2cState) : I2cState :=
    ((cbMmioWriteReg slave params line.typeIndex value mask).run state).2
  let first := write params.cLine
    (~~~params.cLine.readEnableValue &&& ~~~params.cLine.readEnableMask)
    params.cLine.readEnableMask state
  let second := write params.cLine
    (~~~params.cLine.writeEnableValue &&& ~~~params.cLine.writeEnableMask)
    params.cLine.writeEnableMask first
  let third := write params.dLine
    (~~~params.dLine.readEnableValue &&& ~~~params.dLine.readEnableMask)
    params.dLine.readEnableMask second
  have cOff : params.cLine.released
      (Function.update first.regs params.cLine.typeIndex
        (params.cLine.writeOffByte (first.regs params.cLine.typeIndex)) params.cLine.typeIndex)
      = true := by
    rw [Function.update_self]
    exact wired.cLine.writeOff _
  have dOff : params.dLine.released
      (Function.update third.regs params.dLine.typeIndex
        (params.dLine.writeOffByte (third.regs params.dLine.typeIndex)) params.dLine.typeIndex)
      = true := by
    rw [Function.update_self]
    exact wired.dLine.writeOff _
  have cThird := @kept_of_update params.dLine params.cLine second.regs params.dLine.readOffByte
    (params.cLine.released · = true) cOff fun same => (wired.apart same.symm).2.readOff
  have cLast := @kept_of_update params.dLine params.cLine third.regs params.dLine.writeOffByte
    (params.cLine.released · = true) cThird fun same => (wired.apart same.symm).2.writeOff
  obtain ⟨free1, seen1⟩ := @Free.write slave params state free params.cLine.typeIndex _ _
    (fun high => by rw [Function.update_self]; exact (wired.cLine.readOff _).trans high)
    (fun high => @kept_of_update params.cLine params.dLine _ params.cLine.readOffByte
      (params.dLine.released · = true) high fun same => (wired.apart same).1.readOff)
  obtain ⟨free2, seen2⟩ := @Free.write slave params first free1 params.cLine.typeIndex _ _
    (fun _ => cOff)
    (fun high => @kept_of_update params.cLine params.dLine _ params.cLine.writeOffByte
      (params.dLine.released · = true) high fun same => (wired.apart same).1.writeOff)
  obtain ⟨free3, seen3⟩ := @Free.write slave params second free2 params.dLine.typeIndex _ _
    (fun _ => cThird)
    (fun high => by rw [Function.update_self]; exact (wired.dLine.readOff _).trans high)
  obtain ⟨_, seen4⟩ := @Free.write slave params third free3 params.dLine.typeIndex _ _
    (fun _ => cLast) (fun _ => dOff)
  exact ⟨⟨cLast, dOff⟩, seen4.trans (seen3.trans (seen2.trans seen1))⟩

-----------------------------------------------------------------------------------------
-- Whole calls
-----------------------------------------------------------------------------------------

/-- With the data line let go, the lines are free. -/
theorem On.free {state : I2cState} (on : On params state) (sda : state.wires.sda = true)
    : Free params state where
  sda := sda
  dLine := (on.sda.released).trans sda
  cLine clock := (on.scl.released).trans (on.raised clock)

/-- A clock with the data line low, in which the master lets it go at the end: a stop, if the slave
does not hold the line.
-/
def StopAttempt (slave : Slave maxI2cWaitLoop) (seen : List WireEvent) : Prop :=
  ∃ earlier, seen
    = earlier ++ [.bit false (slave.level earlier)]
      ++ if slave.level earlier then [.stop] else []

/-- A transfer that succeeded ends with both lines let go. -/
theorem exit_done (wired : params.Wired) {state : I2cState} (on : On params state)
    (rests : state.wires.Rests slave true seen)
    : Released params ((exitTransfer slave params true).run state).2
      ∧ ((exitTransfer slave params true).run state).2.wires.seen = seen := by
  obtain ⟨released, same⟩ := @disable_released slave params wired state (on.free rests.sda_eq)
  exact ⟨released, same.trans rests.seen_eq⟩

/-- A transfer that failed ends with an attempt to send a stop, and with both lines let go. -/
theorem exit_failed (wired : params.Wired) {state : I2cState} (on : On params state) {sda : Bool}
    (rests : state.wires.Rests slave sda seen)
    : Released params ((exitTransfer slave params false).run state).2
      ∧ StopAttempt slave ((exitTransfer slave params false).run state).2.wires.seen := by
  obtain ⟨-, stopped, wires⟩ := Does.stop wired rests state on rfl
  obtain ⟨released, same⟩ := @disable_released slave params wired _
    (stopped.free (congrArg Wires.sda wires))
  exact ⟨released, seen, same.trans (congrArg Wires.seen wires)⟩

end Transfers

variable (slave : Slave maxI2cWaitLoop)

/-- `cbI2CModule_WriteData`. -/
theorem writeData_seen {i2cBusNum : U8} {params : I2cRegParams}
    (valid : cbI2cModuleGetI2cParams i2cBusNum = some params) (slaveAddr offSet : U8)
    (buffer : List U8) (state : I2cState)
    : let call := (cbI2cModuleWriteData slave i2cBusNum slaveAddr offSet buffer).run state
      Released params call.2
      ∧ if call.1 then
          ∃ before, .start ∉ before
            ∧ call.2.wires.seen
              = state.wires.seen ++ before ++ writeSeen slaveAddr offSet buffer
        else StopAttempt slave call.2.wires.seen := by
  have wired := cbI2cModuleGetI2cParams_wired valid
  obtain ⟨on, found, early, noEarly, enabled⟩ := @enable_on slave params wired state
  obtain ⟨status, after, does, ends⟩ :=
    Yields.writeTransfer wired slaveAddr offSet buffer found
  obtain ⟨returned, on', wires⟩ := does _ on rfl
  subst wires
  have call : (cbI2cModuleWriteData slave i2cBusNum slaveAddr offSet buffer).run state
      = (status, ((exitTransfer slave params status).run
        ((writeTransfer slave params slaveAddr offSet buffer).run
          ((cbI2cModuleEnable slave params).run state).2).2).2) := by
    subst returned
    simp only [cbI2cModuleWriteData, valid]
    rfl
  rw [call]
  rcases status with _ | _
  · obtain ⟨sda, more, rests⟩ := ends
    exact exit_failed wired on' rests
  · obtain ⟨before, none, rests⟩ := ends
    obtain ⟨released, same⟩ := exit_done wired on' rests
    refine ⟨released, early ++ before, by simp [noEarly, none], same.trans ?_⟩
    rw [enabled, List.append_assoc state.wires.seen]

/-- `cbI2CModule_ReadData`. -/
theorem readData_seen {i2cBusNum : U8} {params : I2cRegParams}
    (valid : cbI2cModuleGetI2cParams i2cBusNum = some params) (slaveAddr offSet : U8)
    {bufferLen : U32} (some : bufferLen ≠ 0) (state : I2cState)
    : let call := (cbI2cModuleReadData slave i2cBusNum slaveAddr offSet bufferLen).run state
      Released params call.2
      ∧ if call.1.1 then
          call.1.2.length = bufferLen.toNat
          ∧ ∃ before, .start ∉ before
            ∧ call.2.wires.seen
              = state.wires.seen ++ before ++ readSeen slaveAddr offSet call.1.2
        else StopAttempt slave call.2.wires.seen := by
  have wired := cbI2cModuleGetI2cParams_wired valid
  obtain ⟨on, found, early, noEarly, enabled⟩ := @enable_on slave params wired state
  obtain ⟨status, buffer, after, does, ends⟩ :=
    Does.readTransfer wired slaveAddr offSet some found
  obtain ⟨returned, on', wires⟩ := does _ on rfl
  subst wires
  have call : (cbI2cModuleReadData slave i2cBusNum slaveAddr offSet bufferLen).run state
      = ((status, buffer), ((exitTransfer slave params status).run
        ((readTransfer slave params slaveAddr offSet bufferLen).run
          ((cbI2cModuleEnable slave params).run state).2).2).2) := by
    simp only [cbI2cModuleReadData, valid]
    exact congrArg
      (fun out : Bool × List U8 => (out, ((exitTransfer slave params out.1).run
        ((readTransfer slave params slaveAddr offSet bufferLen).run
          ((cbI2cModuleEnable slave params).run state).2).2).2))
      returned
  rw [call]
  rcases status with _ | _
  · obtain ⟨sda, more, rests⟩ := ends
    exact exit_failed wired on' rests
  · obtain ⟨length, before, none, rests⟩ := ends
    obtain ⟨released, same⟩ := exit_done wired on' rests
    refine ⟨released, length, early ++ before, by simp [noEarly, none], same.trans ?_⟩
    rw [enabled, List.append_assoc state.wires.seen]

/-- Against a slave that obeys the protocol, from any registers and lines, a transfer that succeeds
is seen by the slave as it should be, and the bytes read are the ones that it sent. One that fails
ends with an attempt to send a stop. Either way no line stays pulled.
-/
theorem transfers_follow_protocol {i2cBusNum : U8} {params : I2cRegParams}
    (valid : cbI2cModuleGetI2cParams i2cBusNum = some params) (slaveAddr offSet : U8)
    : (∀ (buffer : List U8) (state : I2cState),
        let call := (cbI2cModuleWriteData slave i2cBusNum slaveAddr offSet buffer).run state
        Released params call.2
        ∧ if call.1 then
            ∃ before, .start ∉ before
              ∧ call.2.wires.seen
                = state.wires.seen ++ before ++ writeSeen slaveAddr offSet buffer
          else StopAttempt slave call.2.wires.seen)
      ∧ ∀ (bufferLen : U32) (state : I2cState), bufferLen ≠ 0
        → let call := (cbI2cModuleReadData slave i2cBusNum slaveAddr offSet bufferLen).run state
          Released params call.2
          ∧ if call.1.1 then
              call.1.2.length = bufferLen.toNat
              ∧ ∃ before, .start ∉ before
                ∧ call.2.wires.seen
                  = state.wires.seen ++ before ++ readSeen slaveAddr offSet call.1.2
            else StopAttempt slave call.2.wires.seen :=
  ⟨fun buffer state => writeData_seen slave valid slaveAddr offSet buffer state,
    fun _ state some => readData_seen slave valid slaveAddr offSet some state⟩

/-- A slave that acknowledges every byte and sends zeros. -/
def obligingSlave : Slave maxI2cWaitLoop where
  level seen := !(turn seen).ofSlave
  stretch _ := 0
  own seen pulled := by simpa using pulled
  short _ := by decide

/-- Lines that nobody pulls. -/
def idleLines : I2cState where
  regs _ := 0
  wires := ⟨true, true, true, 0, true, []⟩

/-- Such a slave gets the offset and the byte. -/
theorem obligingSlave_sees
    : ∃ before, .start ∉ before
      ∧ ((cbI2cModuleWriteData obligingSlave 0 0xA0 0x10 [0x55]).run idleLines).2.wires.seen
        = idleLines.wires.seen ++ before ++ writeSeen 0xA0 0x10 [0x55] := by
  have done
      : ((cbI2cModuleWriteData obligingSlave 0 0xA0 0x10 [0x55]).run idleLines).1 = true := by
    rfl
  have valid : cbI2cModuleGetI2cParams 0 = some (i2cBus .crA0) := rfl
  have call := ((transfers_follow_protocol obligingSlave valid 0xA0 0x10).1 [0x55] idleLines).2
  exact (if_pos done).mp call

end Cx4Kernel.Cbios
