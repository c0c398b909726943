import Mathlib.Data.BitVec
import Mathlib.Data.List.Basic

/-! Windows of addresses kept as an address and a mask of the bits that may differ. A
window that grows with each range that is recorded keeps covering the earlier ones.
-/

namespace Cx4Kernel.Foundation

variable {w : Nat}

/-- The addresses that agree with `addr` outside of `mask`. -/
structure MaskWindow (w : Nat) where
  addr : BitVec w
  mask : BitVec w
deriving DecidableEq

namespace MaskWindow

/-- The window covers `va` exactly. -/
def Contains (window : MaskWindow w) (va : BitVec w) : Prop :=
  va &&& ~~~window.mask = window.addr

instance (window : MaskWindow w) (va : BitVec w) : Decidable (window.Contains va) :=
  inferInstanceAs (Decidable (_ = _))

/-- The window covers the block of size `2 ^ shift` that `va` is in. -/
def ContainsBlock (window : MaskWindow w) (shift : Nat) (va : BitVec w) : Prop :=
  (va &&& ~~~window.mask) >>> shift = window.addr >>> shift

/-- The smallest window around `start` in which the bits of `mask` are free. -/
def around (start mask : BitVec w) : MaskWindow w := ⟨start &&& ~~~mask, mask⟩

/-- Grow a window so that it takes in `around start mask`. -/
def merge (window : MaskWindow w) (start mask : BitVec w) : MaskWindow w :=
  let grown := window.mask ||| mask ||| (window.addr ^^^ (start &&& ~~~mask))
  ⟨window.addr &&& ~~~grown, grown⟩

/-- The bits in which one of the addresses differs from `start`. -/
def spread (start : BitVec w) (vas : List (BitVec w)) : BitVec w :=
  vas.foldl (fun mask va => mask ||| (start ^^^ va)) 0

-----------------------------------------------------------------------------------------
-- Membership, bit by bit
-----------------------------------------------------------------------------------------

/-- A window contains an address when each of its bits is free or agrees. -/
theorem contains_iff (window : MaskWindow w) (va : BitVec w)
    : window.Contains va
      ↔ ∀ i, i < w → (va.getLsbD i && !window.mask.getLsbD i) = window.addr.getLsbD i := by
  rw [Contains, BitVec.eq_of_getLsbD_eq_iff]
  constructor
  · intro h i bound
    simpa [bound] using h i bound
  · intro h i bound
    simpa [bound] using h i bound

/-- An address that is covered has its whole block covered. -/
theorem Contains.block {window : MaskWindow w} {first va : BitVec w} {shift : Nat}
    (h : window.Contains first) (same : va >>> shift = first >>> shift)
    : window.ContainsBlock shift va := by
  rw [ContainsBlock, ← h, BitVec.ushiftRight_and_distrib, BitVec.ushiftRight_and_distrib,
    same]

-----------------------------------------------------------------------------------------
-- Growing a window
-----------------------------------------------------------------------------------------

/-- What a window covers stays covered when it grows. -/
theorem Contains.merge {window : MaskWindow w} {va : BitVec w} (h : window.Contains va)
    (start mask : BitVec w)
    : (window.merge start mask).Contains va := by
  rw [contains_iff] at h ⊢
  intro i bound
  have agrees := h i bound
  simp only [MaskWindow.merge, BitVec.getLsbD_or, BitVec.getLsbD_xor, BitVec.getLsbD_and,
    BitVec.getLsbD_not, bound, decide_true, Bool.true_and] at agrees ⊢
  revert agrees
  cases va.getLsbD i <;> cases window.mask.getLsbD i <;> cases window.addr.getLsbD i
    <;> simp

/-- A grown window covers what it was grown for. -/
theorem merge_contains {start mask va : BitVec w} (window : MaskWindow w)
    (h : (around start mask).Contains va)
    : (window.merge start mask).Contains va := by
  rw [contains_iff] at h ⊢
  intro i bound
  have agrees := h i bound
  simp only [MaskWindow.merge, around, BitVec.getLsbD_or, BitVec.getLsbD_xor,
    BitVec.getLsbD_and, BitVec.getLsbD_not, bound, decide_true, Bool.true_and] at agrees ⊢
  revert agrees
  cases va.getLsbD i <;> cases mask.getLsbD i <;> cases start.getLsbD i
    <;> cases window.addr.getLsbD i <;> simp

-----------------------------------------------------------------------------------------
-- The window of a list of addresses
-----------------------------------------------------------------------------------------

/-- The accumulated mask has a bit when the first mask has it or an address differs there,
by list induction.
-/
theorem getLsbD_foldl_spread (start : BitVec w) (vas : List (BitVec w)) (mask : BitVec w)
    (i : Nat)
    : (vas.foldl (fun mask va => mask ||| (start ^^^ va)) mask).getLsbD i
      = (mask.getLsbD i || vas.any fun va => (start ^^^ va).getLsbD i) := by
  induction vas generalizing mask with
  | nil => simp
  | cons va rest ih => simp [ih, Bool.or_assoc]

/-- A bit is free when one of the addresses differs from `start` in it. -/
theorem getLsbD_spread (start : BitVec w) (vas : List (BitVec w)) (i : Nat)
    : (spread start vas).getLsbD i = vas.any fun va => (start ^^^ va).getLsbD i := by
  simp [spread, getLsbD_foldl_spread]

/-- The window around `start` with the spread of a list covers each address of it. -/
theorem around_spread_contains {start va : BitVec w} {vas : List (BitVec w)}
    (member : va ∈ vas)
    : (around start (spread start vas)).Contains va := by
  rw [contains_iff]
  intro i bound
  have free : (start ^^^ va).getLsbD i = true → (spread start vas).getLsbD i = true := by
    intro differs
    rw [getLsbD_spread]
    exact List.any_eq_true.mpr ⟨va, member, differs⟩
  simp only [around, BitVec.getLsbD_and, BitVec.getLsbD_not, BitVec.getLsbD_xor, bound,
    decide_true, Bool.true_and] at free ⊢
  revert free
  cases va.getLsbD i <;> cases start.getLsbD i <;> simp

end MaskWindow

end Cx4Kernel.Foundation
