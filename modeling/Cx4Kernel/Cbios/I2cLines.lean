import Cx4Kernel.Cbios.I2cModule

/-! The line operations of `CBiosI2C.c` on the lines themselves: on every bus the register bits of
the two lines do not disturb each other, so that the code moves the lines as its names say.
-/

namespace Cx4Kernel.Cbios

open Cx4Kernel.Foundation

-----------------------------------------------------------------------------------------
-- Register bits
-----------------------------------------------------------------------------------------

/-- The output of the line is enabled, with its bit at the level. -/
def LineReg.Shows (line : LineReg) (byte : U8) (lineLvl : Bool) : Prop :=
  byte &&& ~~~line.writeEnableMask = line.writeEnableValue
  ∧ byte.getLsbD line.writeBitNum = lineLvl

instance (line : LineReg) (byte : U8) (lineLvl : Bool) : Decidable (line.Shows byte lineLvl) :=
  inferInstanceAs (Decidable (_ ∧ _))

/-- The byte after a line was set. -/
def LineReg.setByte (line : LineReg) (byte : U8) (lineLvl : Bool) : U8 :=
  writeReg byte (line.levelValue lineLvl) line.levelMask

/-- The byte after a line was enabled for reading. -/
def LineReg.getByte (line : LineReg) (byte : U8) : U8 :=
  writeReg byte line.readEnableValue line.readEnableMask

/-- The byte after reading a line was disabled. -/
def LineReg.readOffByte (line : LineReg) (byte : U8) : U8 :=
  writeReg byte (~~~line.readEnableValue &&& ~~~line.readEnableMask) line.readEnableMask

/-- The byte after the output of a line was disabled. -/
def LineReg.writeOffByte (line : LineReg) (byte : U8) : U8 :=
  writeReg byte (~~~line.writeEnableValue &&& ~~~line.writeEnableMask) line.writeEnableMask

/-- The bits of a line do what they are for. -/
structure LineReg.Works (line : LineReg) : Prop where
  set : ∀ byte lineLvl, line.Shows (line.setByte byte lineLvl) lineLvl
  get : ∀ byte lineLvl, line.Shows byte lineLvl → line.Shows (line.getByte byte) lineLvl
  readOff : ∀ byte, line.released (line.readOffByte byte) = line.released byte
  writeOff : ∀ byte, line.released (line.writeOffByte byte) = true
  read : ∀ byte level, (withBit byte line.readBitNum level >>> line.readBitNum) &&& 1 = 1 ↔ level

/-- The bits of a line leave those of another line in the same register alone. -/
structure LineReg.Spares (line other : LineReg) : Prop where
  set : ∀ byte lineLvl level, other.Shows byte level → other.Shows (line.setByte byte lineLvl) level
  get : ∀ byte level, other.Shows byte level → other.Shows (line.getByte byte) level
  readOff : ∀ byte, other.released byte = true → other.released (line.readOffByte byte) = true
  writeOff : ∀ byte, other.released byte = true → other.released (line.writeOffByte byte) = true
  read : ∀ byte bit level,
    (withBit (withBit byte other.readBitNum level) line.readBitNum bit >>> other.readBitNum) &&& 1
      = 1 ↔ level

/-- Both lines of a bus can be used at once. -/
structure I2cRegParams.Wired (params : I2cRegParams) : Prop where
  cLine : params.cLine.Works
  dLine : params.dLine.Works
  apart : params.cLine.typeIndex = params.dLine.typeIndex
    → params.cLine.Spares params.dLine ∧ params.dLine.Spares params.cLine

/-- It does not matter in which register the bits are. -/
theorem LineReg.Works.moved {line : LineReg} (works : line.Works) (typeIndex : RegTypeIndex)
    : { line with typeIndex : LineReg }.Works :=
  ⟨works.set, works.get, works.readOff, works.writeOff, works.read⟩

theorem LineReg.Spares.moved {line other : LineReg} (spares : line.Spares other)
    (typeIndex : RegTypeIndex)
    : { line with typeIndex : LineReg }.Spares { other with typeIndex : LineReg } :=
  ⟨spares.set, spares.get, spares.readOff, spares.writeOff, spares.read⟩

theorem i2cBus_cLine_works : (i2cLine .crA0 2 0).Works := by
  constructor <;> decide

theorem i2cBus_dLine_works : (i2cLine .crA0 3 1).Works := by
  constructor <;> decide

theorem gpioUpper_works : (gpioUpper .sr48).Works := by
  constructor <;> decide

theorem gpioLower_works : (gpioLower .sr48).Works := by
  constructor <;> decide

theorem i2cBus_cLine_spares : (i2cLine .crA0 2 0).Spares (i2cLine .crA0 3 1) := by
  constructor <;> decide

theorem i2cBus_dLine_spares : (i2cLine .crA0 3 1).Spares (i2cLine .crA0 2 0) := by
  constructor <;> decide

theorem gpioUpper_spares : (gpioUpper .sr48).Spares (gpioLower .sr48) := by
  constructor <;> decide

theorem gpioLower_spares : (gpioLower .sr48).Spares (gpioUpper .sr48) := by
  constructor <;> decide

theorem i2cBus_wired (typeIndex : RegTypeIndex) : (i2cBus typeIndex).Wired :=
  ⟨i2cBus_cLine_works.moved typeIndex, i2cBus_dLine_works.moved typeIndex,
    fun _ => ⟨i2cBus_cLine_spares.moved typeIndex, i2cBus_dLine_spares.moved typeIndex⟩⟩

/-- Every bus that there are parameters for can be used. -/
theorem cbI2cModuleGetI2cParams_wired {i2cBusNum : U8} {params : I2cRegParams}
    (valid : cbI2cModuleGetI2cParams i2cBusNum = some params)
    : params.Wired := by
  have upper (typeIndex : RegTypeIndex) := gpioUpper_works.moved typeIndex
  have lower (typeIndex : RegTypeIndex) := gpioLower_works.moved typeIndex
  unfold cbI2cModuleGetI2cParams at valid
  split at valid <;> cases valid
  · exact i2cBus_wired _
  · exact i2cBus_wired _
  · exact i2cBus_wired _
  · exact i2cBus_wired _
  · exact i2cBus_wired _
  · exact ⟨upper _, lower _, fun same => absurd same (by decide)⟩
  · exact ⟨lower _, upper _, fun same => absurd same (by decide)⟩
  · exact ⟨lower _, upper _, fun _ => ⟨gpioLower_spares, gpioUpper_spares⟩⟩
  · exact ⟨upper _, lower _, fun same => absurd same (by decide)⟩
  · exact ⟨upper _, lower _, fun same => absurd same (by decide)⟩

/-- A line that is enabled is let go exactly at the high level. -/
theorem LineReg.Shows.released {line : LineReg} {byte : U8} {lineLvl : Bool}
    (shown : line.Shows byte lineLvl)
    : line.released byte = lineLvl := by
  obtain ⟨enabled, rfl⟩ := shown
  simp [LineReg.released, enabled]

theorem LineReg.Shows.update {line : LineReg} {byte : U8} {lineLvl : Bool}
    (shown : line.Shows byte lineLvl) (regs : RegTypeIndex → U8)
    : line.Shows (Function.update regs line.typeIndex byte line.typeIndex) lineLvl := by
  rwa [Function.update_self]

/-- What holds of the register of a line is kept when the register of the other line changes. -/
theorem kept_of_update {line other : LineReg} {regs : RegTypeIndex → U8} {change : U8 → U8}
    {property : U8 → Prop} (holds : property (regs other.typeIndex))
    (kept : line.typeIndex = other.typeIndex → ∀ byte, property byte → property (change byte))
    : property
        (Function.update regs line.typeIndex (change (regs line.typeIndex)) other.typeIndex) := by
  by_cases same : line.typeIndex = other.typeIndex
  · rw [same, Function.update_self]
    exact kept same _ holds
  · rw [Function.update_of_ne (Ne.symm same)]
    exact holds

-----------------------------------------------------------------------------------------
-- Line operations
-----------------------------------------------------------------------------------------

/-- Both lines are enabled, and they are what the registers say. -/
structure On (params : I2cRegParams) (state : I2cState) : Prop where
  scl : params.cLine.Shows (state.regs params.cLine.typeIndex) state.wires.scl
  sda : params.dLine.Shows (state.regs params.dLine.typeIndex) state.wires.sda
  raised : state.wires.clock = true → state.wires.scl = true

section Does

variable (slave : Slave maxI2cWaitLoop) (params : I2cRegParams)

/-- From these lines the code returns this and leaves those lines. -/
def Does {α : Type} (code : I2c α) (before : Wires) (result : α) (after : Wires) : Prop :=
  ∀ state, On params state → state.wires = before
    → (code.run state).1 = result
      ∧ On params (code.run state).2
      ∧ (code.run state).2.wires = after

variable {slave params}

theorem Does.pure {α : Type} (result : α) (wires : Wires)
    : Does params (Pure.pure result) wires result wires :=
  fun _ on same => ⟨rfl, on, same⟩

theorem Does.bind {α β : Type} {first : I2c α} {second : α → I2c β} {before middle after : Wires}
    {value : α} {result : β} (one : Does params first before value middle)
    (two : Does params (second value) middle result after)
    : Does params (first >>= second) before result after := by
  intro state on same
  obtain ⟨rfl, on, same⟩ := one state on same
  exact two _ on same

/-- The first step of a block whose result nothing uses. -/
theorem Does.seq {α : Type} {first : I2c Unit} {second : I2c α} {before middle after : Wires}
    {result : α} (one : Does params first before () middle)
    (two : Does params second middle result after)
    : Does params (first >>= fun _ => second) before result after :=
  one.bind two

/-- A write after which the registers show the levels. -/
theorem On.write {state : I2cState} {typeIndex : RegTypeIndex} {value mask : U8} {scl sda : Bool}
    (sclShown : params.cLine.Shows
      (Function.update state.regs typeIndex (writeReg (state.regs typeIndex) value mask)
        params.cLine.typeIndex) scl)
    (sdaShown : params.dLine.Shows
      (Function.update state.regs typeIndex (writeReg (state.regs typeIndex) value mask)
        params.dLine.typeIndex) sda)
    : On params ((cbMmioWriteReg slave params typeIndex value mask).run state).2
      ∧ ((cbMmioWriteReg slave params typeIndex value mask).run state).2.wires
        = state.wires.drive slave scl sda := by
  have wires : ((cbMmioWriteReg slave params typeIndex value mask).run state).2.wires
      = state.wires.drive slave scl sda := by
    rw [← sclShown.released, ← sdaShown.released]
    rfl
  refine ⟨⟨?_, ?_, ?_⟩, wires⟩
  · rw [wires, Wires.drive_scl]
    exact sclShown
  · rw [wires, Wires.drive_sda]
    exact sdaShown
  · rw [wires, Wires.drive_scl]
    intro high
    exact (Wires.drive_scl slave state.wires scl sda).symm.trans (Wires.drive_raised slave _ _ _ high)

theorem Does.setScl (wired : params.Wired) (lineLvl : Bool) (wires : Wires)
    : Does params (cbI2cModuleSetScl slave params lineLvl) wires ()
      (wires.drive slave lineLvl wires.sda) := by
  rintro state on rfl
  refine ⟨rfl, On.write ?_ ?_⟩
  · rw [Function.update_self]
    exact wired.cLine.set _ lineLvl
  · exact kept_of_update on.sda fun same byte => (wired.apart same).1.set byte lineLvl _

theorem Does.setSda (wired : params.Wired) (lineLvl : Bool) (wires : Wires)
    : Does params (cbI2cModuleSetSda slave params lineLvl) wires ()
      (wires.drive slave wires.scl lineLvl) := by
  rintro state on rfl
  refine ⟨rfl, On.write ?_ ?_⟩
  · exact kept_of_update on.scl fun same byte => (wired.apart same.symm).2.set byte lineLvl _
  · rw [Function.update_self]
    exact wired.dLine.set _ lineLvl

theorem Does.delay (wires : Wires)
    : Does params (cbDelayMicroSeconds slave) wires () (wires.delay slave) := by
  rintro state on rfl
  refine ⟨rfl, ⟨?_, ?_, ?_⟩, rfl⟩
  · exact (Wires.delay_scl slave state.wires).symm ▸ on.scl
  · exact (Wires.delay_sda slave state.wires).symm ▸ on.sda
  · exact Wires.delay_raised slave state.wires on.raised

/-- A write that leaves the levels as they are moves no line. -/
theorem On.still {state : I2cState} (on : On params state) {typeIndex : RegTypeIndex}
    {value mask : U8}
    (sclShown : params.cLine.Shows
      (Function.update state.regs typeIndex (writeReg (state.regs typeIndex) value mask)
        params.cLine.typeIndex) state.wires.scl)
    (sdaShown : params.dLine.Shows
      (Function.update state.regs typeIndex (writeReg (state.regs typeIndex) value mask)
        params.dLine.typeIndex) state.wires.sda)
    : On params ((cbMmioWriteReg slave params typeIndex value mask).run state).2
      ∧ ((cbMmioWriteReg slave params typeIndex value mask).run state).2.wires = state.wires := by
  have written := @On.write slave params _ _ _ _ _ _ sclShown sdaShown
  rwa [Wires.drive_same slave state.wires on.raised] at written

theorem cbMmioReadReg_run (typeIndex : RegTypeIndex) (state : I2cState)
    : ((cbMmioReadReg params typeIndex).run state).1
      = let byte :=
          if typeIndex = params.cLine.typeIndex then
            withBit (state.regs typeIndex) params.cLine.readBitNum state.wires.clock
          else state.regs typeIndex
        if typeIndex = params.dLine.typeIndex then
          withBit byte params.dLine.readBitNum state.wires.data
        else byte :=
  rfl

/-- The bit for reading the clock line shows it. -/
theorem I2cRegParams.Wired.read_scl (wired : params.Wired) (state : I2cState)
    : ((cbMmioReadReg params params.cLine.typeIndex).run state).1 >>> params.cLine.readBitNum
        &&& 1 = 1
      ↔ state.wires.clock = true := by
  rw [cbMmioReadReg_run, if_pos rfl]
  by_cases same : params.cLine.typeIndex = params.dLine.typeIndex
  · rw [if_pos same]
    exact (wired.apart same).2.read _ _ _
  · rw [if_neg same]
    exact wired.cLine.read _ _

/-- The bit for reading the data line shows it. -/
theorem I2cRegParams.Wired.read_sda (wired : params.Wired) (state : I2cState)
    : ((cbMmioReadReg params params.dLine.typeIndex).run state).1 >>> params.dLine.readBitNum
        &&& 1 = 1
      ↔ state.wires.data = true := by
  rw [cbMmioReadReg_run]
  exact (if_pos rfl).symm ▸ wired.dLine.read _ _

theorem Does.getScl (wired : params.Wired) (wires : Wires)
    : Does params (cbI2cModuleGetScl slave params) wires wires.clock wires := by
  rintro state on rfl
  have sclShown := (wired.cLine.get _ _ on.scl).update state.regs
  have sdaShown := kept_of_update on.sda fun same byte => (wired.apart same).1.get byte _
  obtain ⟨still, unmoved⟩ := @On.still slave params _ on _ _ _ sclShown sdaShown
  refine ⟨?_, still, unmoved⟩
  rw [← unmoved]
  exact Bool.eq_iff_iff.mpr (decide_eq_true_iff.trans (wired.read_scl _))

theorem Does.getSda (wired : params.Wired) (wires : Wires)
    : Does params (cbI2cModuleGetSda slave params) wires wires.data wires := by
  rintro state on rfl
  have sclShown := kept_of_update on.scl fun same byte => (wired.apart same.symm).2.get byte _
  have sdaShown := (wired.dLine.get _ _ on.sda).update state.regs
  obtain ⟨still, unmoved⟩ := @On.still slave params _ on _ _ _ sclShown sdaShown
  refine ⟨?_, still, unmoved⟩
  rw [← unmoved]
  exact Bool.eq_iff_iff.mpr (decide_eq_true_iff.trans (wired.read_sda _))

/-- The loops that raise the clock line get it high, by induction on the attempts that are left:
the slave does not hold it for as many.
-/
theorem Does.attempts (wired : params.Wired) (attempts : Nat) {wires : Wires}
    (low : wires.clock = false) (some : 0 < attempts)
    (enough : slave.stretch wires.seen < wires.waited + attempts)
    : Does params (waitSclHigh slave params attempts) wires true
      (Wires.high wires.sda wires.level (wires.seen ++ [.bit wires.sda wires.level])) := by
  induction attempts generalizing wires with
  | zero => exact absurd some (Nat.lt_irrefl 0)
  | succ attempts ih =>
      refine (Does.setScl wired true wires).seq ?_
      refine (Does.delay _).seq ?_
      rw [Wires.delay_raise wires low]
      refine (Does.getScl wired _).bind ?_
      split
      · have again := @ih { wires with scl := true, waited := wires.waited + 1 } low (by omega)
          (show slave.stretch wires.seen < wires.waited + 1 + attempts by omega)
        simpa [low] using again
      · exact Does.pure true _

/-- The same with the number of attempts that the code makes. -/
theorem Does.raise (wired : params.Wired) {wires : Wires} (low : wires.clock = false)
    : Does params (waitSclHigh slave params maxI2cWaitLoop) wires true
      (Wires.high wires.sda wires.level (wires.seen ++ [.bit wires.sda wires.level])) :=
  Does.attempts wired maxI2cWaitLoop low (by decide)
    (Nat.lt_of_lt_of_le (slave.short wires.seen) (Nat.le_add_left _ _))

end Does

end Cx4Kernel.Cbios
