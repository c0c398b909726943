import Cx4Kernel.Foundation.MachineInt
import Cx4Kernel.Foundation.NextFit
import Cx4Kernel.Foundation.Transition

/-! The slots of the fence buffer, from `vidsch.c`: a bitmap that is searched from the slot
behind the last one that was handed out, and around its end.
-/

namespace Cx4Kernel.Vidsch

open Foundation

/-- The segment memory of a fence buffer, which does not wrap around the end of the GPU
addresses.
-/
structure FenceMemory where
  gpuVa : U64
  /-- `krnl_cpu_vma->virt_addr` -/
  virtAddr : U64
  size : Nat
  mapped : gpuVa.toNat + size ≤ 2 ^ 64

/-- `vidsch_fence_buffer_t`, with the values in its slots. -/
structure FenceBuffer where
  fenceReservedMemory : FenceMemory
  totalNum : U32
  leftNum : U32
  freeStart : Nat
  bitmap : Nat → Bool
  values : Nat → U64

/-- `vidschi_create_fence_buffer`: the number of slots is an `unsigned short`. -/
def vidschiCreateFenceBuffer (memory : FenceMemory) (values : Nat → U64) : FenceBuffer :=
  let totalNum : U32 := (BitVec.ofNat 16 (memory.size / 8)).setWidth 32
  {
    fenceReservedMemory := memory
    totalNum
    leftNum := totalNum
    freeStart := 0
    bitmap := fun _ => false
    values
  }

/-- The addresses of a slot that are handed out. -/
structure FenceSpace where
  virtAddr : U64
  gpuAddr : U64

namespace FenceBuffer

variable (fenceBuf : FenceBuffer)

/-- `gpu_addr` of a slot. -/
def gpuAddr (num : Nat) : U64 :=
  fenceBuf.fenceReservedMemory.gpuVa + (BitVec.ofNat 64 num <<< 3)

/-- `vidsch_request_fence_space`; `none` stands for `E_FAIL`. -/
def vidschRequestFenceSpace : FenceBuffer × Option FenceSpace :=
  let num := nextFreeAround fenceBuf.bitmap fenceBuf.totalNum.toNat fenceBuf.freeStart
  if num < fenceBuf.totalNum.toNat then
    ({ fenceBuf with
        bitmap := Function.update fenceBuf.bitmap num true
        leftNum := fenceBuf.leftNum - 1
        freeStart := (num + 1) % fenceBuf.totalNum.toNat
        values := Function.update fenceBuf.values num 0 },
      some
        { virtAddr := fenceBuf.fenceReservedMemory.virtAddr + BitVec.ofNat 64 (8 * num)
          gpuAddr := fenceBuf.gpuAddr num })
  else (fenceBuf, none)

/-- `vidsch_release_fence_space`. -/
def vidschReleaseFenceSpace (gpuAddr : U64) : FenceBuffer :=
  let num := (((gpuAddr - fenceBuf.fenceReservedMemory.gpuVa) >>> 3).setWidth 32 : U32).toNat
  { fenceBuf with
    leftNum := fenceBuf.leftNum + 1
    bitmap := Function.update fenceBuf.bitmap num false }

end FenceBuffer

/-- A fence buffer with the addresses that are handed out and not released. -/
structure FenceSpaceState where
  fenceBuf : FenceBuffer
  outstanding : List U64

/-- The calls, one after the other under `bitmap_lock`. -/
inductive FenceSpaceCall where
  | request
  | release (gpuAddr : U64)

/-- What a call does. -/
def FenceSpaceState.next (state : FenceSpaceState) : FenceSpaceCall → Option FenceSpaceState
  | .request =>
      match state.fenceBuf.vidschRequestFenceSpace with
      | (fenceBuf, none) => some ⟨fenceBuf, state.outstanding⟩
      | (fenceBuf, some space) => some ⟨fenceBuf, space.gpuAddr :: state.outstanding⟩
  | .release gpuAddr =>
      some ⟨state.fenceBuf.vidschReleaseFenceSpace gpuAddr, state.outstanding.erase gpuAddr⟩

/-- Only addresses that are handed out are released. -/
def FenceSpaceState.ReleasesOutstanding (state : FenceSpaceState) : FenceSpaceCall → Prop
  | .request => True
  | .release gpuAddr => gpuAddr ∈ state.outstanding

/-- The runs of a buffer that was created, whatever slot its search starts from. -/
def fenceSpaceSystem (memory : FenceMemory) : System FenceSpaceState FenceSpaceCall :=
  System.ofFunction
    (fun state => state.outstanding = []
      ∧ ∃ values freeStart, state.fenceBuf
        = { vidschiCreateFenceBuffer memory values with freeStart })
    FenceSpaceState.next

namespace FenceBuffer

variable {fenceBuf : FenceBuffer} {num other : Nat}

/-- The address of a slot is cut nowhere. -/
theorem gpuAddr_sub (small : num < 2 ^ 16)
    : (fenceBuf.gpuAddr num - fenceBuf.fenceReservedMemory.gpuVa).toNat = 8 * num := by
  have shifted : (BitVec.ofNat 64 num <<< 3 : U64).toNat = 8 * num := by
    rw [BitVec.toNat_shiftLeft, BitVec.toNat_ofNat, Nat.shiftLeft_eq]
    omega
  rw [gpuAddr, BitVec.add_comm, BitVec.add_sub_cancel, shifted]

/-- A slot is found from its address. -/
theorem slot_gpuAddr (small : num < 2 ^ 16)
    : (((fenceBuf.gpuAddr num - fenceBuf.fenceReservedMemory.gpuVa) >>> 3).setWidth 32
      : U32).toNat = num := by
  rw [BitVec.toNat_setWidth, BitVec.toNat_ushiftRight, gpuAddr_sub small,
    Nat.shiftRight_eq_div_pow]
  omega

/-- What a request does: it takes a free slot, or leaves the buffer alone when none is free. -/
theorem request_cases (fenceBuf : FenceBuffer)
    : (∃ num < fenceBuf.totalNum.toNat, fenceBuf.bitmap num = false
        ∧ fenceBuf.vidschRequestFenceSpace
          = ({ fenceBuf with
                bitmap := Function.update fenceBuf.bitmap num true
                leftNum := fenceBuf.leftNum - 1
                freeStart := (num + 1) % fenceBuf.totalNum.toNat
                values := Function.update fenceBuf.values num 0 },
              some
                { virtAddr := fenceBuf.fenceReservedMemory.virtAddr + BitVec.ofNat 64 (8 * num)
                  gpuAddr := fenceBuf.gpuAddr num }))
      ∨ (∀ num < fenceBuf.totalNum.toNat, fenceBuf.bitmap num = true)
        ∧ fenceBuf.vidschRequestFenceSpace = (fenceBuf, none) := by
  unfold vidschRequestFenceSpace
  dsimp only
  split
  next found => exact .inl ⟨_, found, nextFreeAround_free found, rfl⟩
  next missed =>
    exact .inr ⟨fun _ inside => nextFreeAround_full (Nat.not_lt.mp missed) inside, rfl⟩

end FenceBuffer

/-- The slots that are taken are those of the addresses that are handed out, and are counted. -/
structure FenceSpaceState.Accounted (memory : FenceMemory) (state : FenceSpaceState)
    (slots : List Nat) : Prop where
  same : state.fenceBuf.fenceReservedMemory = memory
  total : state.fenceBuf.totalNum.toNat = memory.size / 8 % 2 ^ 16
  listed : Listed state.fenceBuf.bitmap state.fenceBuf.totalNum.toNat slots
  handed : state.outstanding.Perm (slots.map state.fenceBuf.gpuAddr)
  counted : state.fenceBuf.leftNum.toNat + slots.length = state.fenceBuf.totalNum.toNat

namespace FenceSpaceState

variable {memory : FenceMemory} {state after : FenceSpaceState} {slots : List Nat}

/-- Slots have small numbers. -/
theorem Accounted.small (accounted : state.Accounted memory slots) {num : Nat}
    (taken : num ∈ slots)
    : num < 2 ^ 16 := by
  have inside := accounted.listed.inside num taken
  have total := accounted.total
  omega

/-- A created buffer has no slot taken. -/
theorem accounted_created {values : Nat → U64} {freeStart : Nat}
    (created : state.fenceBuf = { vidschiCreateFenceBuffer memory values with freeStart })
    (none : state.outstanding = [])
    : state.Accounted memory [] := by
  have total : ((BitVec.ofNat 16 (memory.size / 8)).setWidth 32 : U32).toNat
      = memory.size / 8 % 2 ^ 16 := by
    rw [BitVec.toNat_setWidth, BitVec.toNat_ofNat]
    omega
  constructor
  · rw [created]
    rfl
  · rw [created]
    exact total
  · rw [created]
    exact Listed.nil
  · rw [none]
    exact List.Perm.refl []
  · rw [created]
    rfl

/-- A request that succeeds takes a slot. -/
theorem Accounted.request (accounted : state.Accounted memory slots)
    (stepped : state.next .request = some after)
    : ∃ slots', after.Accounted memory slots' := by
  rcases state.fenceBuf.request_cases with ⟨num, inside, free, requested⟩ | ⟨_, requested⟩
  · rw [next, requested] at stepped
    obtain rfl := Option.some.inj stepped
    have listed := accounted.listed.take free inside
    have counted := accounted.counted
    have room := listed.length_le
    refine ⟨num :: slots, accounted.same, accounted.total, listed, ?_, ?_⟩
    · exact accounted.handed.cons _
    · rw [List.length_cons] at room ⊢
      change (state.fenceBuf.leftNum - 1).toNat + _ = state.fenceBuf.totalNum.toNat
      rw [BitVec.toNat_sub, show (1 : U32).toNat = 1 from rfl]
      omega
  · rw [next, requested] at stepped
    obtain rfl := Option.some.inj stepped
    exact ⟨slots, accounted⟩

/-- The release of an address that is handed out gives its slot back. -/
theorem Accounted.release (accounted : state.Accounted memory slots) {gpuAddr : U64}
    (handed : gpuAddr ∈ state.outstanding)
    (stepped : state.next (.release gpuAddr) = some after)
    : ∃ slots', after.Accounted memory slots' := by
  obtain ⟨num, taken, rfl⟩ := List.mem_map.mp (accounted.handed.mem_iff.mp handed)
  obtain rfl := Option.some.inj stepped
  have slot := state.fenceBuf.slot_gpuAddr (accounted.small taken)
  have counted := accounted.counted
  have room := state.fenceBuf.totalNum.isLt
  have length := List.length_erase_of_mem taken
  have some := List.length_pos_of_mem taken
  refine ⟨slots.erase num, accounted.same, accounted.total, ?_, ?_, ?_⟩
  · rw [FenceBuffer.vidschReleaseFenceSpace, slot]
    exact accounted.listed.giveBack
  · have parts := (List.perm_cons_erase taken).map state.fenceBuf.gpuAddr
    have erased := (accounted.handed.trans parts).erase (state.fenceBuf.gpuAddr num)
    rwa [List.map_cons, List.erase_cons_head] at erased
  · change (state.fenceBuf.leftNum + 1).toNat + _ = state.fenceBuf.totalNum.toNat
    rw [BitVec.toNat_add, length, show (1 : U32).toNat = 1 from rfl]
    omega

/-- Every state of a run is accounted for. -/
theorem accounted_of_reachable
    (reached : (fenceSpaceSystem memory).ReachableUnder ReleasesOutstanding state)
    : ∃ slots, state.Accounted memory slots := by
  apply reached.invariant
  · rintro state ⟨none, values, freeStart, created⟩
    exact ⟨[], accounted_created created none⟩
  · rintro before call after ⟨slots, accounted⟩ permitted stepped
    cases call with
    | request => exact accounted.request stepped
    | release gpuAddr => exact accounted.release permitted stepped

/-- In every run the addresses that are handed out differ and are in the fence buffer, the
slots that are left are counted, and a request fails if all slots are handed out, and only
then.
-/
theorem fenceSpace_exclusive (memory : FenceMemory) (state : FenceSpaceState)
    (reached : (fenceSpaceSystem memory).ReachableUnder ReleasesOutstanding state)
    : state.outstanding.Nodup
      ∧ (∀ gpuAddr ∈ state.outstanding, memory.gpuVa.toNat ≤ gpuAddr.toNat
        ∧ gpuAddr.toNat + 8 ≤ memory.gpuVa.toNat + memory.size)
      ∧ state.outstanding.length ≤ state.fenceBuf.totalNum.toNat
      ∧ state.fenceBuf.leftNum.toNat
        = state.fenceBuf.totalNum.toNat - state.outstanding.length
      ∧ (state.fenceBuf.vidschRequestFenceSpace.2.isNone
        ↔ state.outstanding.length = state.fenceBuf.totalNum.toNat) := by
  obtain ⟨slots, accounted⟩ := accounted_of_reachable reached
  have length : state.outstanding.length = slots.length := by
    rw [accounted.handed.length_eq, List.length_map]
  have counted := accounted.counted
  refine ⟨?_, ?_, ?_, ?_, ?_⟩
  · rw [accounted.handed.nodup_iff]
    apply accounted.listed.once.map_on
    intro num taken other taken' same
    have first := state.fenceBuf.gpuAddr_sub (accounted.small taken)
    have second := state.fenceBuf.gpuAddr_sub (accounted.small taken')
    rw [same, second] at first
    omega
  · intro gpuAddr handed
    obtain ⟨num, taken, rfl⟩ := List.mem_map.mp (accounted.handed.mem_iff.mp handed)
    have distance := state.fenceBuf.gpuAddr_sub (accounted.small taken)
    have inside := accounted.listed.inside num taken
    have total := accounted.total
    have mapped := memory.mapped
    rw [accounted.same] at distance
    have cut : (state.fenceBuf.gpuAddr num).toNat = memory.gpuVa.toNat + 8 * num := by
      bv_omega
    omega
  · exact length ▸ accounted.listed.length_le
  · omega
  · rw [length, accounted.listed.length_eq_iff]
    rcases state.fenceBuf.request_cases with ⟨num, inside, free, requested⟩ | ⟨full, requested⟩
    · rw [requested]
      refine iff_of_false (by simp) fun all => ?_
      cases free.symm.trans (all num inside)
    · rw [requested]
      exact iff_of_true rfl full

end FenceSpaceState

/-- The fence buffer of 16 KiB. -/
def fenceMemory16K : FenceMemory where
  gpuVa := 0x100000
  virtAddr := 0xFFFF888000000000
  size := 16 * 1024
  mapped := by decide

/-- It after one request. -/
def oneFence : FenceSpaceState where
  fenceBuf := (vidschiCreateFenceBuffer fenceMemory16K fun _ => 0).vidschRequestFenceSpace.1
  outstanding := [0x100000]

/-- One slot is handed out, and the next request does not fail. -/
theorem oneFence_exclusive
    : (fenceSpaceSystem fenceMemory16K).ReachableUnder FenceSpaceState.ReleasesOutstanding
        oneFence
      ∧ oneFence.fenceBuf.leftNum.toNat
        = oneFence.fenceBuf.totalNum.toNat - oneFence.outstanding.length := by
  have reached : (fenceSpaceSystem fenceMemory16K).ReachableUnder
      FenceSpaceState.ReleasesOutstanding oneFence := by
    have created : (fenceSpaceSystem fenceMemory16K).ReachableUnder
        FenceSpaceState.ReleasesOutstanding
        ⟨vidschiCreateFenceBuffer fenceMemory16K fun _ => 0, []⟩ :=
      .start ⟨rfl, fun _ => 0, 0, rfl⟩
    have requested : (fenceSpaceSystem fenceMemory16K).step
        ⟨vidschiCreateFenceBuffer fenceMemory16K fun _ => 0, []⟩ .request oneFence := by
      rfl
    have permitted : FenceSpaceState.ReleasesOutstanding
        ⟨vidschiCreateFenceBuffer fenceMemory16K fun _ => 0, []⟩ .request := trivial
    exact created.next permitted requested
  exact ⟨reached, (FenceSpaceState.fenceSpace_exclusive fenceMemory16K oneFence reached).2.2.2.1⟩

end Cx4Kernel.Vidsch
