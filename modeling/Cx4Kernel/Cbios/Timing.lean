import Cx4Kernel.Foundation.MachineInt

/-! The timings of the video BIOS and its arithmetic on them. -/

namespace Cx4Kernel.Cbios

/-- `CBIOS_TIMING_ATTRIB`. The pixel clock is in units of 100 Hz. -/
structure TimingAttrib where
  formatVIC : U16
  xRes : U16
  yRes : U16
  refreshRate : U16
  hvPolarity : U16
  pixelClock : U32
  horTotal : U16
  horDisEnd : U16
  horBStart : U16
  horBEnd : U16
  horSyncStart : U16
  horSyncEnd : U16
  verTotal : U16
  verDisEnd : U16
  verBStart : U16
  verBEnd : U16
  verSyncStart : U16
  verSyncEnd : U16
deriving DecidableEq

def TimingAttrib.zero : TimingAttrib :=
  ⟨0, 0, 0, 0, 0, 0, 0, 0, 0, 0, 0, 0, 0, 0, 0, 0, 0, 0⟩

def horNegative : U16 := 0x40

def verNegative : U16 := 0x80

/-- `CBIOS_ROUND_METHOD`. -/
inductive RoundMethod where
  | down
  | up
  | nearest
deriving DecidableEq

/-- `cbRound`. -/
def cbRound (dividend divisor : U32) (method : RoundMethod) : U32 :=
  if divisor = 0 then 0
  else
    match method with
    | .down => dividend / divisor
    | .up => if dividend % divisor ≠ 0 then dividend / divisor + 1 else dividend / divisor
    | .nearest =>
      if divisor ≤ dividend % divisor * 2 then dividend / divisor + 1 else dividend / divisor

/-- `cbCalcRefreshRate`, in hundredths of a hertz. -/
def cbCalcRefreshRate (pixelClock : U32) (hTotal vTotal : U16) : U16 :=
  if hTotal = 0 ∨ vTotal = 0 then 0
  else
    let temp := pixelClock * 100 / hTotal.setWidth 32
    let temp := temp * 100 / vTotal.setWidth 32
    temp.setWidth 16

theorem toNat_pos_of_ne_zero {x : U32} (h : x ≠ 0) : 0 < x.toNat :=
  Nat.pos_of_ne_zero (fun zero => h (BitVec.eq_of_toNat_eq zero))

/-- Rounding up adds one to a quotient with a remainder. -/
theorem toNat_cbRound_up {dividend divisor : U32} (positive : divisor ≠ 0)
    : (cbRound dividend divisor .up).toNat
      = if dividend.toNat % divisor.toNat = 0 then dividend.toNat / divisor.toNat
        else dividend.toNat / divisor.toNat + 1 := by
  have some := toNat_pos_of_ne_zero positive
  have rest : (dividend % divisor ≠ 0) ↔ ¬ dividend.toNat % divisor.toNat = 0 := by
    rw [ne_eq, ← BitVec.toNat_inj, BitVec.toNat_umod]
    rfl
  rw [cbRound, if_neg positive]
  by_cases exact : dividend.toNat % divisor.toNat = 0
  · simp only [rest, exact, not_true_eq_false, if_false, if_true, BitVec.toNat_udiv]
  · have less : dividend.toNat / divisor.toNat < dividend.toNat := by
      apply Nat.div_lt_self
      · exact Nat.pos_of_ne_zero (fun none => exact (by simp [none]))
      · by_contra small
        have one : divisor.toNat = 1 := by omega
        exact exact (by simp [one, Nat.mod_one])
    have bound : dividend.toNat / divisor.toNat + 1 < 2 ^ 32 :=
      Nat.lt_of_le_of_lt less dividend.isLt
    simp only [rest, exact, not_false_eq_true, if_true, if_false]
    rw [BitVec.toNat_add, BitVec.toNat_udiv, show (1 : U32).toNat = 1 from rfl,
      Nat.mod_eq_of_lt bound]

end Cx4Kernel.Cbios
