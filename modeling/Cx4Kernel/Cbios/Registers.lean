import Cx4Kernel.Foundation.BitFields
import Cx4Kernel.Foundation.MachineInt

/-! The register access of `CBiosUtilHw.c`. -/

namespace Cx4Kernel.Cbios

open Cx4Kernel.Foundation

/-- `CHIPID_HW`. -/
inductive ChipId where
  | e3k
  | chx004
  | cne001
  | other
deriving DecidableEq

/-- The groups of byte registers with memory-mapped bytes of their own, as far as the sources
modeled here use them.
-/
inductive RegGroup where
  | sr
  | crB
  | crC
deriving DecidableEq

/-- The registers of the adapter: those of 32 bits by address, and the byte registers by group
and index.
-/
structure Mmio where
  u32 : Nat → U32
  u8 : RegGroup → U8 → U8

namespace Mmio

/-- `cbMMIOReadReg`. -/
def readReg (regs : Mmio) (type : RegGroup) (index : U8) : U8 := regs.u8 type index

/-- `cb_WriteU8` on a byte register. -/
def setU8 (regs : Mmio) (type : RegGroup) (index value : U8) : Mmio :=
  { regs with
    u8 := fun t i => if t = type ∧ i = index then value else regs.u8 t i }

/-- `cbMMIOWriteReg`. -/
def writeReg (regs : Mmio) (type : RegGroup) (index value mask : U8) : Mmio :=
  if value &&& mask ≠ 0 then regs
  else if mask = 0xFF then regs
  else regs.setU8 type index ((regs.u8 type index &&& mask) ||| value)

/-- `cb_WriteU32`. -/
def setU32 (regs : Mmio) (index : Nat) (value : U32) : Mmio :=
  { regs with u32 := fun i => if i = index then value else regs.u32 i }

/-- `cbMMIOWriteReg32`. -/
def writeReg32 (regs : Mmio) (index : Nat) (value mask : U32) : Mmio :=
  if mask = 0xFFFFFFFF then regs
  else regs.setU32 index (writeMasked (regs.u32 index) value mask)

@[simp]
theorem u32_writeReg (regs : Mmio) (type : RegGroup) (index value mask : U8)
    : (regs.writeReg type index value mask).u32 = regs.u32 := by
  unfold writeReg
  split
  · rfl
  · split <;> rfl

/-- A 32-bit write changes one register, under the mask. -/
@[simp]
theorem u32_writeReg32 (regs : Mmio) (index : Nat) (value mask : U32) (i : Nat)
    : (regs.writeReg32 index value mask).u32 i
      = if i = index then writeMasked (regs.u32 index) value mask else regs.u32 i := by
  unfold writeReg32
  split
  · rename_i full
    by_cases same : i = index
    · subst same full
      rw [if_pos rfl]
      apply BitVec.eq_of_getLsbD_eq
      intro bit inside
      have set : (0xFFFFFFFF : U32).getLsbD bit = true := by
        rw [show (0xFFFFFFFF : U32) = BitVec.allOnes 32 from rfl, BitVec.getLsbD_allOnes]
        exact decide_eq_true inside
      rw [getLsbD_writeMasked, set, if_pos rfl]
    · rw [if_neg same]
  · rfl

end Mmio

end Cx4Kernel.Cbios
