import Mathlib.Data.List.Nodup
import Cx4Kernel.Foundation.Bag
import Cx4Kernel.Linux.DmaFence

/-! No fence that somebody waits for is lost: it is on one list with one reference, it is
signaled once and not too early, and something wakes the thread that signals it.
-/

namespace Cx4Kernel.Linux

open Cx4Kernel.Foundation

-----------------------------------------------------------------------------------------
-- What the driver guarantees
-----------------------------------------------------------------------------------------

namespace DmaFence

/-- `enable_signaling` returned TRUE and the fence is not signaled. -/
def waiting (fence : DmaFence) : Bool := fence.enable = .returned true ∧ fence.signals = 0

/-- It waits in poll mode. -/
def polling (fence : DmaFence) : Bool := fence.waiting && fence.signalMode = .pollSignal

/-- Its task was submitted, or at least `need_send_irq` is decided for that. -/
def submitted (fence : DmaFence) : Bool := fence.submit = .decided ∨ fence.submit = .released

/-- The reference that the task holds. -/
def taskReferences (fence : DmaFence) : Nat := if fence.submit = .released then 0 else 1

end DmaFence

namespace FenceState

/-- No enabled fence is lost. -/
structure Served (state : FenceState) : Prop where
  once : ∀ fence ∈ state.fences, fence.signals ≤ 1
  back : ∀ fence ∈ state.fences, 0 < fence.signals
    → fence.value ≤ state.returnedFenceId fence.engineIndex
  listed : ∀ (index : Nat) (fence : DmaFence), state.fences[index]? = some fence
    → fence.waiting → state.fenceList.count index + state.processList.count index = 1
  referenced : ∀ fence ∈ state.fences, fence.waiting
    → fence.references = fence.taskReferences + 1
  fenceCount : state.fenceCount = state.fences.countP DmaFence.waiting
  pollCount : state.pollCount = state.fences.countP DmaFence.polling
  woken : ∀ fence ∈ state.fences, fence.waiting → fence.submitted → fence.value ≠ placeholder
    → fence.needSendIrq ∨ fence.signalMode = .pollSignal

-----------------------------------------------------------------------------------------
-- The invariant
-----------------------------------------------------------------------------------------

/-- What holds of one fence, with the id its engine has returned. -/
structure FenceSound (returned : U64) (fence : DmaFence) : Prop where
  once : fence.signals ≤ 1
  fresh : fence.enable = .uncalled ∨ fence.enable = .tested → fence.signals = 0
  back : 0 < fence.signals → fence.value ≤ returned
  references : fence.references = fence.taskReferences + fence.waiting.toNat
  value : fence.submit = .uncalled → fence.value = placeholder
  mode : fence.enable = .returned true → fence.signalMode ≠ .unset
  woken : fence.waiting → fence.submitted → fence.value ≠ placeholder
    → fence.needSendIrq ∨ fence.signalMode = .pollSignal

/-- The fences the thread has still to look at are different ones of its own list. -/
def ScanSound (processList : List Nat) : ThreadPhase → Prop
  | .scan rest => rest.Nodup ∧ rest ⊆ processList
  | _ => True

/-- The lists hold the waiting fences. -/
structure Sound (state : FenceState) : Prop where
  fences : ∀ (index : Nat) (fence : DmaFence), state.fences[index]? = some fence
    → FenceSound (state.returnedFenceId fence.engineIndex) fence
  nodup : (state.fenceList ++ state.processList).Nodup
  listed : ∀ index : Nat, index ∈ state.fenceList ++ state.processList
    ↔ (state.fences[index]?.map DmaFence.waiting).getD false
  fenceCount : state.fenceCount = state.fences.countP DmaFence.waiting
  pollCount : state.pollCount = state.fences.countP DmaFence.polling
  thread : ScanSound state.processList state.thread

variable {state after : FenceState} {index : Nat} {fence : DmaFence} {returned : U64}

/-- What is sound serves every fence. -/
theorem Sound.served (sound : state.Sound) : state.Served := by
  have each : ∀ fence ∈ state.fences, FenceSound (state.returnedFenceId fence.engineIndex) fence := by
    intro fence member
    obtain ⟨index, found⟩ := List.mem_iff_getElem?.mp member
    exact sound.fences index fence found
  refine {
    once := fun fence member => (each fence member).once
    back := fun fence member => (each fence member).back
    listed := ?_
    referenced := ?_
    fenceCount := sound.fenceCount
    pollCount := sound.pollCount
    woken := fun fence member => (each fence member).woken }
  · intro index fence found waiting
    have member : index ∈ state.fenceList ++ state.processList := by
      rw [sound.listed, found]
      exact waiting
    rw [← List.count_append]
    exact List.count_eq_one_of_mem sound.nodup member
  · intro fence member waiting
    rw [(each fence member).references, waiting]
    rfl

/-- Whether a fence waits does not depend on the other ones. -/
theorem map_change {change : DmaFence → DmaFence} (found : state.fences[index]? = some fence)
    {View : Type*} (view : DmaFence → View) (same : view (change fence) = view fence) (other : Nat)
    : (state.fences.modify index change)[other]?.map view = state.fences[other]?.map view := by
  rcases eq_or_ne index other with rfl | different
  · rw [List.getElem?_modify_eq, found]
    exact congrArg some same
  · rw [List.getElem?_modify_ne _ _ different]

/-- A fence that is sound after its change leaves every fence sound. -/
theorem Sound.fences_modify {change : DmaFence → DmaFence} (sound : state.Sound)
    (found : state.fences[index]? = some fence)
    (engine : (change fence).engineIndex = fence.engineIndex)
    (h : FenceSound (state.returnedFenceId fence.engineIndex) (change fence))
    (other : Nat) (entry : DmaFence)
    (at_ : (state.fences.modify index change)[other]? = some entry)
    : FenceSound (state.returnedFenceId entry.engineIndex) entry := by
  rcases eq_or_ne index other with rfl | different
  · rw [List.getElem?_modify_eq, found] at at_
    obtain rfl := Option.some.inj at_
    rw [engine]
    exact h
  · rw [List.getElem?_modify_ne _ _ different] at at_
    exact sound.fences other entry at_

/-- A change of one fence that keeps it on the lists it is on. -/
theorem Sound.change {change : DmaFence → DmaFence} (sound : state.Sound)
    (found : state.fences[index]? = some fence)
    (engine : (change fence).engineIndex = fence.engineIndex)
    (waiting : (change fence).waiting = fence.waiting)
    (polling : (change fence).polling = fence.polling)
    (h : FenceSound (state.returnedFenceId fence.engineIndex) (change fence))
    : (state.change index change).Sound where
  fences := sound.fences_modify found engine h
  nodup := sound.nodup
  listed := by
    intro other
    rw [FenceState.change, map_change found DmaFence.waiting waiting]
    exact sound.listed other
  fenceCount := by
    have count := Bag.countP_modify found change DmaFence.waiting
    rw [waiting] at count
    exact sound.fenceCount.trans (congrArg _ (Nat.add_right_cancel count).symm)
  pollCount := by
    have count := Bag.countP_modify found change DmaFence.polling
    rw [polling] at count
    exact sound.pollCount.trans (congrArg _ (Nat.add_right_cancel count).symm)
  thread := sound.thread

-----------------------------------------------------------------------------------------
-- Waiters
-----------------------------------------------------------------------------------------

theorem not_waiting (h : fence.enable = .uncalled ∨ fence.enable = .tested)
    : fence.waiting = false := by
  rw [DmaFence.waiting, decide_eq_false_iff_not]
  rintro ⟨returned, _⟩
  rcases h with uncalled | tested
  · cases uncalled.symm.trans returned
  · cases tested.symm.trans returned

theorem not_polling (h : fence.waiting = false) : fence.polling = false := by
  rw [DmaFence.polling, h, Bool.false_and]

/-- A fence that is not waiting is on no list. -/
theorem Sound.unlisted (sound : state.Sound) (found : state.fences[index]? = some fence)
    (waiting : fence.waiting = false)
    : index ∉ state.fenceList ++ state.processList := by
  rw [sound.listed, found, Option.map_some, waiting]
  exact Bool.false_ne_true

/-- The kernel signals a fence that is back when signaling is enabled. -/
theorem Sound.refuse (sound : state.Sound) (found : state.fences[index]? = some fence)
    (h : fence.enable = .uncalled ∨ fence.enable = .tested) (signaled : state.signaled fence)
    : (state.refuse index).Sound := by
  have old := sound.fences index fence found
  have before := not_waiting h
  have none : ({ fence with
      enable := .returned false, signals := fence.signals + 1 } : DmaFence).waiting = false :=
    decide_eq_false fun ⟨returned, _⟩ => nomatch returned
  apply sound.change found rfl
  · rw [before]
    exact none
  · rw [not_polling before]
    exact not_polling none
  · exact {
      once := by rw [old.fresh h]
      fresh := fun later => by rcases later with later | later <;> cases later
      back := fun _ => of_decide_eq_true signaled
      references := by
        rw [none]
        exact old.references.trans (by rw [before]; rfl)
      value := old.value
      mode := fun returned => by cases returned
      woken := fun waiting => absurd waiting (by rw [none]; exact Bool.false_ne_true) }

/-- The first test of the waiter. -/
theorem Sound.testEnable (sound : state.Sound) (found : state.fences[index]? = some fence)
    (h : fence.enable = .uncalled)
    : (state.testEnable index fence).Sound := by
  have old := sound.fences index fence found
  have before := not_waiting (Or.inl h)
  have none : ({ fence with enable := .tested } : DmaFence).waiting = false :=
    not_waiting (Or.inr rfl)
  rw [FenceState.testEnable]
  split
  · exact sound.refuse found (Or.inl h) ‹_›
  · apply sound.change found rfl
    · rw [before]
      exact none
    · rw [not_polling before]
      exact not_polling none
    · exact {
        old with
        fresh := fun _ => old.fresh (Or.inl h)
        references := by
          rw [none]
          exact old.references.trans (by rw [before]; rfl)
        mode := fun returned => by cases returned
        woken := fun waiting => absurd waiting (by rw [none]; exact Bool.false_ne_true) }

/-- A fence begins to wait and is put on the list of the driver. -/
theorem Sound.queue {change : DmaFence → DmaFence} {polled : Int} (sound : state.Sound)
    (found : state.fences[index]? = some fence) (before : fence.waiting = false)
    (engine : (change fence).engineIndex = fence.engineIndex)
    (waiting : (change fence).waiting = true)
    (polling : polled = (change fence).polling.toNat)
    (h : FenceSound (state.returnedFenceId fence.engineIndex) (change fence))
    : FenceState.Sound
        { state with
          fences := state.fences.modify index change
          fenceList := state.fenceList ++ [index]
          fenceCount := state.fenceCount + 1
          pollCount := state.pollCount + polled } := by
  have unlisted := sound.unlisted found before
  refine {
    fences := sound.fences_modify found engine h
    nodup := ?_
    listed := ?_
    fenceCount := ?_
    pollCount := ?_
    thread := sound.thread }
  · have perm : (state.fenceList ++ [index] ++ state.processList).Perm
        (index :: (state.fenceList ++ state.processList)) := by
      rw [List.append_assoc]
      exact List.perm_middle
    exact perm.nodup_iff.mpr (List.nodup_cons.mpr ⟨unlisted, sound.nodup⟩)
  · intro other
    rw [List.append_assoc, List.singleton_append, List.perm_middle.mem_iff, List.mem_cons]
    rcases eq_or_ne other index with rfl | different
    · rw [List.getElem?_modify_eq, found]
      exact iff_of_true (Or.inl rfl) waiting
    · rw [List.getElem?_modify_ne _ _ different.symm, ← sound.listed]
      exact or_iff_right different
  · have count := Bag.countP_modify found change DmaFence.waiting
    have number := sound.fenceCount
    rw [before, waiting, Bool.toNat_false, Bool.toNat_true] at count
    change state.fenceCount + 1 = ((state.fences.modify index change).countP _ : Int)
    omega
  · have count := Bag.countP_modify found change DmaFence.polling
    have number := sound.pollCount
    rw [not_polling before, Bool.toNat_false] at count
    change state.pollCount + polled = ((state.fences.modify index change).countP _ : Int)
    omega

/-- The section of the waiter under the lock. -/
theorem Sound.enable (sound : state.Sound) (found : state.fences[index]? = some fence)
    (h : fence.enable = .tested)
    : (state.enable index fence).Sound := by
  have old := sound.fences index fence found
  have before := not_waiting (Or.inr h)
  have unsignaled := old.fresh (Or.inr h)
  have waits (mode : SignalMode) : ({ fence with
      enable := .returned true
      references := fence.references + 1
      signalMode := mode } : DmaFence).waiting = true :=
    decide_eq_true ⟨rfl, unsignaled⟩
  have references := old.references
  rw [before] at references
  rw [FenceState.enable]
  split
  · exact sound.refuse found (Or.inr h) ‹_›
  · apply sound.queue found before rfl (waits _)
    · rw [DmaFence.polling, waits]
      by_cases value : fence.value = placeholder <;> simp [value]
    · exact {
        once := old.once
        fresh := fun later => by rcases later with later | later <;> cases later
        back := old.back
        references := by
          rw [waits]
          exact congrArg (· + 1) references
        value := old.value
        mode := by
          intro _
          change (if fence.value = placeholder then _ else _) ≠ SignalMode.unset
          split <;> nofun
        woken := fun _ _ value => Or.inr (if_neg value) }

-----------------------------------------------------------------------------------------
-- Submissions
-----------------------------------------------------------------------------------------

/-- A fence gets its value. One that was signaled before has the largest value. -/
theorem Sound.updateValue (sound : state.Sound) (found : state.fences[index]? = some fence)
    (h : fence.submit = .uncalled) (value : U64)
    : (state.updateValue index value).Sound := by
  have old := sound.fences index fence found
  apply sound.change found rfl rfl rfl
  exact {
    once := old.once
    fresh := old.fresh
    back := by
      intro signaled
      have largest := old.back signaled
      rw [old.value h] at largest
      have top : placeholder.toNat = 2 ^ 64 - 1 := rfl
      have returned := BitVec.le_def.mp largest
      apply BitVec.le_def.mpr
      change value.toNat ≤ _
      omega
    references := by
      have references := old.references
      rw [DmaFence.taskReferences, h] at references
      exact references
    value := fun uncalled => by cases uncalled
    mode := old.mode
    woken := fun _ submitted => by cases submitted }

/-- The decision about the interrupt sees the mode that a waiter chose before the fence got
its value, and a waiter that comes later polls.
-/
theorem Sound.decideIrq (sound : state.Sound) (found : state.fences[index]? = some fence)
    (h : fence.submit = .updated)
    : (state.decideIrq index fence).Sound := by
  have old := sound.fences index fence found
  apply sound.change found rfl rfl rfl
  exact {
    once := old.once
    fresh := old.fresh
    back := old.back
    references := by
      have references := old.references
      rw [DmaFence.taskReferences, h] at references
      exact references
    value := fun uncalled => by cases uncalled
    mode := old.mode
    woken := by
      intro waiting _ _
      have mode := old.mode (of_decide_eq_true waiting).1
      cases chosen : fence.signalMode with
      | unset => exact absurd chosen mode
      | sendInterrupt =>
          left
          change state.needSendIrq fence
          rw [FenceState.needSendIrq, chosen, decide_eq_true rfl, Bool.or_true]
      | pollSignal => exact Or.inr rfl }

/-- The task drops its reference. -/
theorem Sound.release (sound : state.Sound) (found : state.fences[index]? = some fence)
    (h : fence.submit = .decided)
    : (state.release index).Sound := by
  have old := sound.fences index fence found
  apply sound.change found rfl rfl rfl
  exact {
    once := old.once
    fresh := old.fresh
    back := old.back
    references := by
      have references := old.references
      rw [DmaFence.taskReferences, h, if_neg (by decide), Nat.add_comm] at references
      change fence.references - 1 = 0 + fence.waiting.toNat
      rw [references, Nat.add_sub_cancel, Nat.zero_add]
    value := fun uncalled => by cases uncalled
    mode := old.mode
    woken := fun waiting _ value => old.woken waiting (by rw [DmaFence.submitted, h]; rfl) value }

/-- A new fence is sound and does not wait. -/
theorem fresh_sound (engineIndex : Nat)
    : FenceSound returned ⟨engineIndex, placeholder, .unset, 1, 0, .uncalled, .uncalled, true⟩ where
  once := Nat.zero_le _
  fresh := fun _ => rfl
  back := fun signaled => absurd signaled (Nat.lt_irrefl 0)
  references := rfl
  value := fun _ => rfl
  mode := fun returned => by cases returned
  woken := fun waiting => by cases waiting

/-- A fence for a new task. -/
theorem Sound.create (sound : state.Sound) (engineIndex : Nat)
    : (state.create engineIndex).Sound where
  fences := by
    intro index fence found
    rw [FenceState.create] at found
    rcases lt_trichotomy index state.fences.length with inside | rfl | outside
    · rw [List.getElem?_append_left inside] at found
      exact sound.fences index fence found
    · rw [List.getElem?_concat_length] at found
      obtain rfl := Option.some.inj found
      exact fresh_sound engineIndex
    · rw [List.getElem?_eq_none (by rw [List.length_append, List.length_singleton]; omega)]
        at found
      cases found
  nodup := sound.nodup
  listed := by
    intro index
    rw [FenceState.create]
    rcases lt_trichotomy index state.fences.length with inside | rfl | outside
    · rw [List.getElem?_append_left inside]
      exact sound.listed index
    · rw [List.getElem?_concat_length, sound.listed, List.getElem?_eq_none le_rfl]
      rfl
    · rw [List.getElem?_eq_none (by rw [List.length_append, List.length_singleton]; omega),
        sound.listed, List.getElem?_eq_none outside.le]
  fenceCount := by
    rw [FenceState.create, List.countP_append]
    exact sound.fenceCount
  pollCount := by
    rw [FenceState.create, List.countP_append]
    exact sound.pollCount
  thread := sound.thread

/-- Fences that were back stay back while the returned ids grow. -/
theorem Sound.grow (sound : state.Sound) {engineIndex : Nat} {fenceId : U64}
    (grows : state.returnedFenceId engineIndex ≤ fenceId)
    : FenceState.Sound
        { state with
          returnedFenceId := Function.update state.returnedFenceId engineIndex fenceId } := by
  refine { sound with fences := ?_ }
  intro index fence found
  have old := sound.fences index fence found
  refine { old with back := fun signaled => ?_ }
  have before := old.back signaled
  rcases eq_or_ne fence.engineIndex engineIndex with same | different
  · rw [same] at before ⊢
    change fence.value ≤ Function.update state.returnedFenceId engineIndex fenceId engineIndex
    rw [Function.update_self]
    exact BitVec.le_trans before grows
  · change fence.value ≤ Function.update state.returnedFenceId engineIndex fenceId fence.engineIndex
    rw [Function.update_of_ne different]
    exact before

-----------------------------------------------------------------------------------------
-- The event thread
-----------------------------------------------------------------------------------------

/-- The thread takes over the list of the driver. -/
theorem Sound.splice (sound : state.Sound) : state.splice.Sound :=
  { sound with thread := ⟨sound.nodup, fun _ member => member⟩ }

/-- The thread gives its list back. -/
theorem Sound.spliceBack (sound : state.Sound) : state.spliceBack.Sound := by
  have perm : (state.processList ++ state.fenceList ++ []).Perm
      (state.fenceList ++ state.processList) := by
    rw [List.append_nil]
    exact List.perm_append_comm
  exact {
    fences := sound.fences
    nodup := perm.nodup_iff.mpr sound.nodup
    listed := fun index => perm.mem_iff.trans (sound.listed index)
    fenceCount := sound.fenceCount
    pollCount := sound.pollCount
    thread := trivial }

/-- The thread goes on to a phase in which it does not scan, or scans its list again. -/
theorem Sound.goto (sound : state.Sound) {phase : ThreadPhase}
    (h : ScanSound state.processList phase)
    : FenceState.Sound { state with thread := phase } :=
  { sound with thread := h }

/-- The end of a pass. -/
theorem Sound.passed (sound : state.Sound) (freezing : Bool) : (state.passed freezing).Sound := by
  rw [FenceState.passed]
  split
  · split
    · exact sound.goto ⟨(List.nodup_append.mp sound.nodup).2.1, fun _ member => member⟩
    · split
      · exact sound.goto trivial
      · exact sound.goto trivial
  · exact sound.goto trivial

/-- A fence stops waiting and leaves the list of the thread. -/
theorem Sound.unqueue {change : DmaFence → DmaFence} {polled : Int} {rest : List Nat}
    (sound : state.Sound) (found : state.fences[index]? = some fence)
    (scanning : ScanSound state.processList (.scan (index :: rest)))
    (engine : (change fence).engineIndex = fence.engineIndex)
    (before : fence.waiting = true) (after : (change fence).waiting = false)
    (polling : polled = fence.polling.toNat)
    (h : FenceSound (state.returnedFenceId fence.engineIndex) (change fence))
    : FenceState.Sound
        { state with
          fences := state.fences.modify index change
          pollCount := state.pollCount - polled
          processList := state.processList.erase index
          fenceCount := state.fenceCount - 1
          thread := .scan rest } := by
  obtain ⟨different, own⟩ := scanning
  obtain ⟨absent, rest_nodup⟩ := List.nodup_cons.mp different
  have mine : index ∈ state.processList := own List.mem_cons_self
  have perm : (state.fenceList ++ state.processList).Perm
      (index :: (state.fenceList ++ state.processList.erase index)) :=
    ((List.perm_cons_erase mine).append_left _).trans List.perm_middle
  obtain ⟨gone, nodup⟩ := List.nodup_cons.mp (perm.nodup_iff.mp sound.nodup)
  refine {
    fences := sound.fences_modify found engine h
    nodup := nodup
    listed := ?_
    fenceCount := ?_
    pollCount := ?_
    thread := ⟨rest_nodup, ?_⟩ }
  · intro other
    rcases eq_or_ne other index with rfl | different
    · rw [List.getElem?_modify_eq, found]
      refine iff_of_false gone ?_
      change ¬ (change fence).waiting = true
      rw [after]
      exact Bool.false_ne_true
    · rw [List.getElem?_modify_ne _ _ different.symm, ← sound.listed, perm.mem_iff,
        List.mem_cons]
      exact (or_iff_right different).symm
  · have count := Bag.countP_modify found change DmaFence.waiting
    have number := sound.fenceCount
    rw [before, after, Bool.toNat_false, Bool.toNat_true] at count
    change state.fenceCount - 1 = ((state.fences.modify index change).countP _ : Int)
    omega
  · have count := Bag.countP_modify found change DmaFence.polling
    have number := sound.pollCount
    rw [not_polling after, Bool.toNat_false] at count
    change state.pollCount - polled = ((state.fences.modify index change).countP _ : Int)
    omega
  · intro other later
    have apart : other ≠ index := by
      rintro rfl
      exact absent later
    exact (List.mem_erase_of_ne apart).mpr (own (List.mem_cons_of_mem _ later))

/-- The thread signals a fence of its list that is back, and drops it. -/
theorem Sound.scan {rest : List Nat} (sound : state.Sound)
    (found : state.fences[index]? = some fence) (thread : state.thread = .scan (index :: rest))
    : (state.scan index fence rest).Sound := by
  have scanning := sound.thread
  rw [thread] at scanning
  have old := sound.fences index fence found
  rw [FenceState.scan]
  split
  · rename_i signaled
    have waiting : fence.waiting = true := by
      have listed := (sound.listed index).mp
        (List.mem_append_right _ (scanning.2 List.mem_cons_self))
      rw [found] at listed
      exact listed
    obtain ⟨returned, unsignaled⟩ : fence.enable = .returned true ∧ fence.signals = 0 :=
      of_decide_eq_true waiting
    have after : ({ fence with
        signals := fence.signals + 1, references := fence.references - 1 } : DmaFence).waiting
        = false :=
      decide_eq_false fun ⟨_, zero⟩ => nomatch zero
    apply sound.unqueue found scanning rfl waiting after
    · rw [DmaFence.polling, waiting, Bool.true_and]
      by_cases mode : fence.signalMode = .pollSignal <;> simp [mode]
    · exact {
        once := by rw [unsignaled]
        fresh := fun early => by
          rcases early with early | early <;> cases early.symm.trans returned
        back := fun _ => of_decide_eq_true signaled
        references := by
          rw [after]
          have references := old.references
          rw [waiting] at references
          change fence.references - 1 = fence.taskReferences + 0
          rw [references]
          rfl
        value := old.value
        mode := old.mode
        woken := fun waits => absurd waits (by rw [after]; exact Bool.false_ne_true) }
  · refine sound.goto ⟨(List.nodup_cons.mp scanning.1).2, ?_⟩
    exact fun other later => scanning.2 (List.mem_cons_of_mem _ later)

/-- One step of the thread. -/
theorem Sound.threadStep {freezing : Bool} (sound : state.Sound)
    (taken : state.threadStep freezing = some after)
    : after.Sound := by
  rw [FenceState.threadStep] at taken
  split at taken
  · exact Option.some.inj taken ▸ sound.goto trivial
  · exact Option.some.inj taken ▸ sound.splice
  · exact Option.some.inj taken ▸ sound.goto trivial
  · rename_i index rest thread
    obtain ⟨fence, found, same⟩ := Option.map_eq_some_iff.mp taken
    exact same ▸ sound.scan found thread
  · exact Option.some.inj taken ▸ sound.passed freezing
  · exact Option.some.inj taken ▸ sound.spliceBack

-----------------------------------------------------------------------------------------
-- Whole runs
-----------------------------------------------------------------------------------------

/-- The step of a call that is at the right point. -/
theorem step_of_bind {point : DmaFence → Prop} [DecidablePred point]
    {move : DmaFence → FenceState}
    (taken : (state.fences[index]?.bind fun entry =>
      if point entry then some (move entry) else none) = some after)
    : ∃ entry, state.fences[index]? = some entry ∧ point entry ∧ move entry = after := by
  obtain ⟨entry, found, step⟩ := Option.bind_eq_some_iff.mp taken
  obtain ⟨here, same⟩ := Option.ite_none_right_eq_some.mp step
  exact ⟨entry, found, here, Option.some.inj same⟩

/-- The step lemma. -/
theorem Sound.next {action : FenceAction} (sound : state.Sound)
    (taken : state.next action = some after)
    : after.Sound := by
  cases action with
  | create engineIndex => exact Option.some.inj taken ▸ sound.create engineIndex
  | testEnable index =>
      obtain ⟨fence, found, uncalled, rfl⟩ := step_of_bind taken
      exact sound.testEnable found uncalled
  | enable index =>
      obtain ⟨fence, found, tested, rfl⟩ := step_of_bind taken
      exact sound.enable found tested
  | updateValue index value =>
      obtain ⟨fence, found, uncalled, rfl⟩ := step_of_bind taken
      exact sound.updateValue found uncalled value
  | decideIrq index =>
      obtain ⟨fence, found, updated, rfl⟩ := step_of_bind taken
      exact sound.decideIrq found updated
  | release index =>
      obtain ⟨fence, found, decided, rfl⟩ := step_of_bind taken
      exact sound.release found decided
  | grow engineIndex fenceId =>
      obtain ⟨grows, same⟩ := Option.ite_none_right_eq_some.mp taken
      exact Option.some.inj same ▸ sound.grow grows
  | thread freezing => exact sound.threadStep taken

/-- A driver without fences is sound. -/
theorem start_sound (traced : Bool) : (start traced).Sound where
  fences := fun _ _ found => by cases found
  nodup := List.nodup_nil
  listed := fun _ => iff_of_false List.not_mem_nil Bool.false_ne_true
  fenceCount := rfl
  pollCount := rfl
  thread := trivial

/-- The run theorem: whatever waiters, submissions, engines and the thread do in any order,
no enabled fence is lost.
-/
theorem dma_fences_served {state : FenceState} (reached : system.Reachable state)
    : state.Served := by
  have sound : state.Sound := by
    apply reached.invariant
    · rintro _ ⟨traced, rfl⟩
      exact start_sound traced
    · intro before action after sound taken
      exact sound.next taken
  exact sound.served

/-- One waiter comes before the submission and one after it. The first fence comes back. -/
def servedActions : List FenceAction :=
  [.create 0, .create 0, .testEnable 0, .enable 0, .updateValue 0 1, .updateValue 1 2,
    .decideIrq 0, .decideIrq 1, .testEnable 1, .enable 1, .release 0, .release 1, .grow 0 1,
    .thread false, .thread false, .thread false, .thread false]

/-- The state this run ends in. -/
def servedFences : Option FenceState := System.replay next (start false) servedActions

/-- The steps can be taken. -/
theorem servedFences_isSome : servedFences.isSome := by rfl

/-- One fence is signaled, and the other one is still polled. -/
theorem dma_fences_served_servedFences
    : ((servedFences.get servedFences_isSome).fences
        = [⟨0, 1, .sendInterrupt, 0, 1, .returned true, .released, true⟩,
          ⟨0, 2, .pollSignal, 1, 0, .returned true, .released, false⟩]
        ∧ (servedFences.get servedFences_isSome).processList = [1])
      ∧ (servedFences.get servedFences_isSome).Served := by
  refine ⟨by decide, dma_fences_served ?_⟩
  exact .replay servedActions ⟨false, rfl⟩ (Option.some_get servedFences_isSome).symm

/-- A task whose fence id is the placeholder value is submitted before the waiter comes. -/
def placeholderId : Option FenceState :=
  System.replay next (start false)
    [.create 0, .updateValue 0 placeholder, .decideIrq 0, .testEnable 0, .enable 0]

/-- The steps can be taken. -/
theorem placeholderId_isSome : placeholderId.isSome := by rfl

/-- Nothing wakes the thread for this fence: it sends no interrupt and is not polled. -/
theorem placeholder_not_woken
    : ¬ ∀ state, system.Reachable state → ∀ fence ∈ state.fences, fence.waiting → fence.submitted
      → fence.needSendIrq ∨ fence.signalMode = .pollSignal := by
  intro claim
  have reached : system.Reachable (placeholderId.get placeholderId_isSome) :=
    .replay _ ⟨false, rfl⟩ (Option.some_get placeholderId_isSome).symm
  have woken := claim _ reached
    ⟨0, placeholder, .sendInterrupt, 2, 0, .returned true, .decided, false⟩ (by decide)
    (by decide) (by decide)
  exact absurd woken (by decide)

end FenceState

end Cx4Kernel.Linux
