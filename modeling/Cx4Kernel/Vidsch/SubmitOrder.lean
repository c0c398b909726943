import Cx4Kernel.Vidsch.Submit
import Cx4Kernel.Vidsch.VmIdKept

/-! The fence ids of a ring increase and are those of the tasks. A page-table-set task that
jumps the queue takes the older of two ids, so the ids are in the order of the commands.
-/

namespace Cx4Kernel.Vidsch

open Cx4Kernel.Foundation

-----------------------------------------------------------------------------------------
-- The parts of a submission
-----------------------------------------------------------------------------------------

/-- A check of the fence counters sends no fence. -/
theorem after_sent_of_isCheck {action : FenceAction} (counters : FenceCounters)
    (check : action.isCheck)
    : (counters.after action).lastSendFenceId = counters.lastSendFenceId := by
  cases action with
  | incSendFenceId => cases check
  | updateFenceId newFence => exact EngineFences.vidschiUpdateFenceId_sent counters newFence
  | isFenceBack newFence fenceId => exact EngineFences.vidschiUpdateFenceId_sent counters newFence
  | canPrepareDmaTask newFence waitDmaFence =>
      simp only [FenceCounters.after, vidschiCanPrepareDmaTask]
      repeat' split
      all_goals rfl

/-- Only render tasks come from other devices and have a `dma_fence`. -/
theorem SubmitRequest.Valid.reserved {request : SubmitRequest} (valid : request.Valid)
    (other : request.type ≠ .render)
    : request.device = 0 ∧ request.hasDmaFence = false := by
  simp only [SubmitRequest.Valid] at valid
  split at valid
  · next render => exact absurd render other
  · exact ⟨valid.1, valid.2.2⟩
  · exact ⟨valid.1, valid.2.2⟩
  · exact valid.elim
  · exact valid.elim

namespace SubmitState

variable {state after : SubmitState} {engine : Nat}

/-- The last fence id an engine has sent. -/
def lastSend (state : SubmitState) (engine : Nat) : U64 :=
  (state.fences.counters engine).lastSendFenceId

/-- What a step on the fences, the manager and the devices leaves alone. -/
structure SameRings (state after : SubmitState) : Prop where
  ring : after.ring = state.ring
  underway : after.underway = state.underway
  tasks : after.tasks = state.tasks
  lastUuid : after.lastUuid = state.lastUuid

/-- Taking a fence id sends the next one, on its engine only. -/
theorem incSendFenceId_spec {fenceId : U64} (taken : state.incSendFenceId engine = (after, fenceId))
    : state.SameRings after
      ∧ fenceId = state.lastSend engine + 1
      ∧ after.lastSend = Function.update state.lastSend engine fenceId := by
  obtain ⟨rfl, rfl⟩ := Prod.mk.inj taken
  refine ⟨⟨rfl, rfl, rfl, rfl⟩, rfl, ?_⟩
  funext other
  simp only [lastSend, Function.update_apply]
  split
  · rfl
  · rfl

/-- Choosing a vm id changes the manager, the devices and the checked fences only. -/
theorem chooseVmId_spec {device index : Nat} {fenceId : U64} {arrivals : List U64}
    (chooses : state.chooseVmId device engine fenceId arrivals = some (after, index))
    : state.SameRings after ∧ after.lastSend = state.lastSend := by
  obtain ⟨chosen, call, chooses⟩ := Option.bind_eq_some_iff.mp chooses
  simp only [Option.ite_none_right_eq_some, Option.some.injEq, Prod.mk.injEq] at chooses
  obtain ⟨_, rfl, _⟩ := chooses
  obtain ⟨found, at_index, _⟩ := Option.bind_eq_some_iff.mp call
  exact ⟨⟨rfl, rfl, rfl, rfl⟩, funext (VmIdState.choose_keeps at_index call).sent⟩

/-- What the first part of a submission does to the rings. -/
theorem begin_spec {request : SubmitRequest} {arrivals : List U64}
    (begins : state.begin request arrivals = some after)
    : let fenceId := state.lastSend request.engine + 1
      after.ring = state.ring
      ∧ after.tasks = state.tasks
      ∧ after.lastSend = Function.update state.lastSend request.engine fenceId
      ∧ ∃ vmId, after.underway = Function.update state.underway request.engine
          (some ⟨request.desc (state.lastUuid + 1) vmId fenceId, fenceId, false, none⟩) := by
  rw [begin] at begins
  cases taken : state.incSendFenceId request.engine with
  | mk sent fenceId =>
      rw [taken] at begins
      obtain ⟨same, rfl, sends⟩ := incSendFenceId_spec taken
      obtain ⟨⟨middle, vmId⟩, chooses, ends⟩ := Option.bind_eq_some_iff.mp begins
      obtain ⟨kept, keeps⟩ := chooseVmId_spec chooses
      obtain rfl := Option.some.inj ends
      refine ⟨kept.ring.trans same.ring, kept.tasks.trans same.tasks, keeps.trans sends,
        vmId, ?_⟩
      rw [kept.underway, kept.lastUuid, same.underway, same.lastUuid]

/-- What the target of a page-table-set task and the set task get when `fenceId` is the new
fence id: they exchange theirs on the reserved engine.
-/
inductive Inserted (engine : Nat) (target : Submission) (fenceId : U64)
    : Submission → U64 → Prop where
  | exchanged (here : engine = reservedEngineIndex)
      : Inserted engine target fenceId
          { target with desc := { target.desc with fenceId := fenceId }, inserted := true }
          target.desc.fenceId
  | queued (elsewhere : engine ≠ reservedEngineIndex)
      : Inserted engine target fenceId
          { target with inserted := true, waitsFor := some fenceId } fenceId

/-- The fence ids are assigned without a change of the rings. -/
theorem assignFenceIds_spec {target kept : Submission} {fenceId setFenceId : U64}
    (assigns : state.assignFenceIds engine target fenceId = some (after, kept, setFenceId))
    : state.SameRings after ∧ after.lastSend = state.lastSend
      ∧ Inserted engine target fenceId kept setFenceId := by
  simp only [assignFenceIds] at assigns
  split at assigns
  · next here =>
      obtain ⟨device, _, assigns⟩ := Option.bind_eq_some_iff.mp assigns
      obtain ⟨index, _, assigns⟩ := Option.bind_eq_some_iff.mp assigns
      obtain ⟨rfl, rfl, rfl⟩ := by simpa only [Option.some.injEq, Prod.mk.injEq] using assigns
      exact ⟨⟨rfl, rfl, rfl, rfl⟩, rfl, .exchanged here⟩
  · next elsewhere =>
      obtain ⟨rfl, rfl, rfl⟩ := by simpa only [Option.some.injEq, Prod.mk.injEq] using assigns
      exact ⟨⟨rfl, rfl, rfl, rfl⟩, rfl, .queued elsewhere⟩

/-- What a page-table-set task does to the rings. -/
theorem submitPageTableSetTask_spec {target : Submission} {arrivals : List U64}
    (submits : state.submitPageTableSetTask engine target arrivals = some after)
    : ∃ vmId kept setFenceId,
        Inserted engine target (state.lastSend reservedEngineIndex + 1) kept setFenceId
      ∧ after.ring = Function.update state.ring reservedEngineIndex
          (⟨state.lastUuid + 1, setFenceId⟩ :: state.ring reservedEngineIndex)
      ∧ after.tasks = pageTableSetDesc (state.lastUuid + 1) vmId setFenceId :: state.tasks
      ∧ after.lastSend = Function.update state.lastSend reservedEngineIndex
          (state.lastSend reservedEngineIndex + 1)
      ∧ after.underway = Function.update state.underway engine (some kept) := by
  rw [submitPageTableSetTask] at submits
  cases taken : state.incSendFenceId reservedEngineIndex with
  | mk sent fenceId =>
      rw [taken] at submits
      obtain ⟨same, rfl, sends⟩ := incSendFenceId_spec taken
      obtain ⟨⟨middle, vmId⟩, chooses, submits⟩ := Option.bind_eq_some_iff.mp submits
      obtain ⟨same', keeps⟩ := chooseVmId_spec chooses
      obtain ⟨⟨last, kept, setFenceId⟩, assigns, ends⟩ := Option.bind_eq_some_iff.mp submits
      obtain ⟨same'', keeps', inserted⟩ := assignFenceIds_spec assigns
      obtain rfl := Option.some.inj ends
      have ring := same''.ring.trans (same'.ring.trans same.ring)
      have uuid := same''.lastUuid.trans (same'.lastUuid.trans same.lastUuid)
      refine ⟨vmId, kept, setFenceId, inserted, ?_, ?_, ?_, ?_⟩
      · simp only [writeRing, SubmitDesc.fence, pageTableSetDesc, ring, uuid]
      · simp only [writeRing, uuid, same''.tasks.trans (same'.tasks.trans same.tasks)]
      · exact keeps'.trans (keeps.trans sends)
      · simp only [writeRing, same''.underway.trans (same'.underway.trans same.underway)]

-----------------------------------------------------------------------------------------
-- What every run keeps
-----------------------------------------------------------------------------------------

/-- The task of a submission under way on `engine`: its fence id is newer than all that are
in the ring, and a task that is not a render task cannot have exchanged it.
-/
structure Newest (state : SubmitState) (engine : Nat) (submission : Submission) : Prop where
  engine_eq : submission.desc.engine = engine
  sent : submission.desc.fenceId ≤ state.lastSend engine
  newer : ∀ entry ∈ state.ring engine, entry.fenceId < submission.desc.fenceId
  reserved : submission.desc.type ≠ .render → submission.desc.device = 0
    ∧ submission.desc.dmaFence = none ∧ submission.fenceId = submission.desc.fenceId

/-- The rings are in the order of the fence ids, which are those of the tasks. -/
structure Ordered (state : SubmitState) : Prop where
  underway : ∀ engine, ∀ submission ∈ state.underway engine, state.Newest engine submission
  sent : ∀ engine, ∀ entry ∈ state.ring engine, entry.fenceId ≤ state.lastSend engine
  increasing : ∀ engine,
    (state.ring engine).Pairwise fun newer older => older.fenceId < newer.fenceId
  recorded : ∀ engine, state.ring engine
    = (state.tasks.filter fun task => task.engine = engine ∧ task.Written).map SubmitDesc.fence
  tasks_sent : ∀ task ∈ state.tasks, task.fenceId ≤ state.lastSend task.engine
  dmaFence : ∀ task ∈ state.tasks, ∀ value ∈ task.dmaFence, value = task.fenceId

/-- The next fence id is newer than all that were sent. -/
theorem lt_next {fenceId sent : U64} (old : fenceId ≤ sent) (fits : sent.toNat + 1 < 2 ^ 64)
    : fenceId < sent + 1 := by
  have sum : (sent + 1).toNat = (sent.toNat + 1) % 2 ^ 64 := BitVec.toNat_add ..
  rw [BitVec.le_def] at old
  rw [BitVec.lt_def, sum]
  omega

/-- A submission that does not change the ring of its engine stays the newest there, as
fences are sent.
-/
theorem Newest.later {submission : Submission} (newest : state.Newest engine submission)
    (ring : after.ring engine = state.ring engine)
    (sent : state.lastSend engine ≤ after.lastSend engine)
    : after.Newest engine submission where
  engine_eq := newest.engine_eq
  sent := BitVec.le_trans newest.sent sent
  newer entry member := newest.newer entry (ring ▸ member)
  reserved := newest.reserved

/-- The order is kept where only more fences are sent. -/
theorem Ordered.same (ordered : state.Ordered) (same : state.SameRings after)
    (sends : ∀ engine, state.lastSend engine ≤ after.lastSend engine)
    : after.Ordered where
  underway engine submission member := by
    rw [same.underway] at member
    exact (ordered.underway engine submission member).later (congrFun same.ring engine)
      (sends engine)
  sent engine entry member := by
    rw [same.ring] at member
    exact BitVec.le_trans (ordered.sent engine entry member) (sends engine)
  increasing engine := by
    rw [same.ring]
    exact ordered.increasing engine
  recorded engine := by
    rw [same.ring, same.tasks]
    exact ordered.recorded engine
  tasks_sent task member :=
    BitVec.le_trans (ordered.tasks_sent task (same.tasks ▸ member)) (sends task.engine)
  dmaFence task member := ordered.dmaFence task (same.tasks ▸ member)

/-- The fences an engine has sent do not decrease as it sends the next one. -/
theorem lastSend_le (engine : Nat) (fits : (state.lastSend engine).toNat + 1 < 2 ^ 64)
    (other : Nat)
    : state.lastSend other
      ≤ Function.update state.lastSend engine (state.lastSend engine + 1) other := by
  rw [Function.update_apply]
  split
  · next same =>
      rw [same]
      exact BitVec.le_of_lt (lt_next (BitVec.le_refl _) fits)
  · exact BitVec.le_refl _

/-- The first part of a submission keeps the order: its fence id is the newest. -/
theorem Ordered.begin (ordered : state.Ordered) {request : SubmitRequest} {arrivals : List U64}
    (valid : request.Valid) (fits : (state.lastSend request.engine).toNat + 1 < 2 ^ 64)
    (begins : state.begin request arrivals = some after)
    : after.Ordered := by
  obtain ⟨ring, tasks, sends, vmId, underway⟩ := begin_spec begins
  have grows := lastSend_le request.engine fits
  rw [← sends] at grows
  refine ⟨?_, ?_, ?_, ?_, ?_, ?_⟩
  · intro engine submission member
    rw [underway, Function.update_apply] at member
    split at member
    · next here =>
        obtain rfl := Option.some.inj member
        refine ⟨here.symm, ?_, ?_, ?_⟩
        · rw [here, sends, Function.update_self]
          exact BitVec.le_refl _
        · intro entry older
          rw [here, ring] at older
          exact lt_next (ordered.sent _ entry older) fits
        · intro other
          obtain ⟨device, noFence⟩ := valid.reserved other
          exact ⟨device, by simp only [SubmitRequest.desc, noFence, Bool.false_eq_true, if_false],
            rfl⟩
    · exact (ordered.underway engine submission member).later (congrFun ring engine)
        (grows engine)
  · intro engine entry member
    rw [ring] at member
    exact BitVec.le_trans (ordered.sent engine entry member) (grows engine)
  · rw [ring]
    exact ordered.increasing
  · rw [ring, tasks]
    exact ordered.recorded
  · intro task member
    rw [tasks] at member
    exact BitVec.le_trans (ordered.tasks_sent task member) (grows task.engine)
  · rw [tasks]
    exact ordered.dmaFence

/-- A fence at the end of a ring that is newer than the others keeps the order. -/
theorem Ordered.written (ordered : state.Ordered) {entry : RingFence} (engine : Nat)
    (newer : ∀ older ∈ state.ring engine, older.fenceId < entry.fenceId) (other : Nat)
    : (Function.update state.ring engine (entry :: state.ring engine) other).Pairwise
        fun newer older => older.fenceId < newer.fenceId := by
  rw [Function.update_apply]
  split
  · exact List.pairwise_cons.mpr ⟨newer, ordered.increasing engine⟩
  · exact ordered.increasing other

/-- A task that is written behind the others of its ring is recorded there. -/
theorem Ordered.recorded_cons (ordered : state.Ordered) {desc : SubmitDesc}
    (written : desc.Written) (other : Nat)
    : Function.update state.ring desc.engine (desc.fence :: state.ring desc.engine) other
      = ((desc :: state.tasks).filter
          fun task => task.engine = other ∧ task.Written).map SubmitDesc.fence := by
  rw [Function.update_apply, List.filter_cons]
  by_cases same : other = desc.engine
  · simp only [same, if_true, written, and_self, decide_true, List.map_cons,
      ← ordered.recorded desc.engine]
  · have differs : ¬ (desc.engine = other ∧ desc.Written) := fun both => same both.1.symm
    simp only [if_neg same, differs, decide_false, Bool.false_eq_true, if_false]
    exact ordered.recorded other

/-- A page-table-set task keeps the order: on its own engine it takes the fence id its target
had, which is newer than the ring, and the target gets one that is newer still.
-/
theorem Ordered.submitPageTableSetTask (ordered : state.Ordered) {target : Submission}
    {arrivals : List U64} (held : state.underway engine = some target)
    (may : state.MayInsert engine target)
    (fits : (state.lastSend reservedEngineIndex).toNat + 1 < 2 ^ 64)
    (submits : state.submitPageTableSetTask engine target arrivals = some after)
    : after.Ordered := by
  obtain ⟨vmId, kept, setFenceId, inserted, ring, tasks, sends, underway⟩ :=
    submitPageTableSetTask_spec submits
  have grows := lastSend_le reservedEngineIndex fits
  rw [← sends] at grows
  have newest := ordered.underway engine target held
  have next := fun entry member =>
    lt_next (ordered.sent reservedEngineIndex entry member) fits
  have newer : ∀ entry ∈ state.ring reservedEngineIndex, entry.fenceId < setFenceId := by
    cases inserted with
    | exchanged here =>
        rw [← here]
        exact newest.newer
    | queued _ => exact next
  have sent : setFenceId ≤ after.lastSend reservedEngineIndex := by
    cases inserted with
    | exchanged here =>
        rw [← here]
        exact BitVec.le_trans newest.sent (grows engine)
    | queued _ =>
        rw [sends, Function.update_self]
        exact BitVec.le_refl _
  refine ⟨?_, ?_, ?_, ?_, ?_, ?_⟩
  · intro other submission member
    rw [underway, Function.update_apply] at member
    split at member
    · next here =>
        obtain rfl := Option.some.inj member
        cases inserted with
        | exchanged reserved =>
            have own := newest.sent
            rw [reserved] at own
            rw [here]
            refine ⟨newest.engine_eq, ?_, ?_, ?_⟩
            · rw [sends, reserved, Function.update_self]
              exact BitVec.le_refl _
            · intro entry member
              rw [ring, reserved, Function.update_self] at member
              rcases List.mem_cons.mp member with rfl | old
              · exact lt_next own fits
              · exact next entry old
            · intro render
              exact absurd (newest.reserved render).1 may.1
        | queued elsewhere =>
            rw [here]
            have later := newest.later (by rw [ring, Function.update_of_ne elsewhere])
              (grows engine)
            exact ⟨later.engine_eq, later.sent, later.newer, later.reserved⟩
    · next elsewhere =>
        have free : other ≠ reservedEngineIndex := by
          rintro rfl
          rcases may.2.2 with here | unlocked
          · exact elsewhere here.symm
          · rw [member] at unlocked
            cases unlocked
        exact (ordered.underway other submission member).later
          (by rw [ring, Function.update_of_ne free]) (grows other)
  · intro other entry member
    rw [ring, Function.update_apply] at member
    split at member
    · next same =>
        subst same
        rcases List.mem_cons.mp member with rfl | old
        · exact sent
        · exact BitVec.le_trans (ordered.sent _ entry old) (grows _)
    · exact BitVec.le_trans (ordered.sent other entry member) (grows other)
  · rw [ring]
    exact ordered.written reservedEngineIndex newer
  · rw [ring, tasks]
    exact @Ordered.recorded_cons state ordered
      (pageTableSetDesc (state.lastUuid + 1) vmId setFenceId) (.inr rfl)
  · intro task member
    rw [tasks] at member
    rcases List.mem_cons.mp member with rfl | old
    · exact sent
    · exact BitVec.le_trans (ordered.tasks_sent task old) (grows task.engine)
  · rw [tasks]
    intro task member
    rcases List.mem_cons.mp member with rfl | old
    · exact fun value none => by cases none
    · exact ordered.dmaFence task old

/-- What the last part of a submission does to the rings: the task is recorded, and written
with the fence id it records.
-/
theorem finish_spec {submission : Submission} (newest : state.Newest engine submission)
    : ∃ desc : SubmitDesc, desc.engine = engine
      ∧ desc.vmId = submission.desc.vmId
      ∧ desc.fenceId = submission.desc.fenceId
      ∧ (∀ value ∈ desc.dmaFence, value = desc.fenceId)
      ∧ (state.finish engine submission).tasks = desc :: state.tasks
      ∧ (state.finish engine submission).ring
        = (if desc.Written then
            Function.update state.ring desc.engine (desc.fence :: state.ring desc.engine)
          else state.ring)
      ∧ (state.finish engine submission).lastSend = state.lastSend
      ∧ (state.finish engine submission).underway = Function.update state.underway engine none
      ∧ (state.finish engine submission).vmIds = state.vmIds := by
  have here := newest.engine_eq
  by_cases render : submission.desc.type = .render
  · refine ⟨vidschiUpdateAndReleaseDmaFence submission.desc, here, rfl, rfl, ?_, ?_⟩
    · intro value member
      obtain ⟨_, _, rfl⟩ := Option.map_eq_some_iff.mp member
      rfl
    · subst here
      simp only [finish, if_pos render, vidschiUpdateAndReleaseDmaFence]
      split
      · next written => exact ⟨rfl, (if_pos written).symm, rfl, rfl, rfl⟩
      · next unwritten => exact ⟨rfl, (if_neg unwritten).symm, rfl, rfl, rfl⟩
  · obtain ⟨_, noFence, same⟩ := newest.reserved render
    refine ⟨submission.desc, here, rfl, rfl, ?_, ?_⟩
    · rw [noFence]
      exact fun value none => by cases none
    · subst here
      simp only [finish, if_neg render, same]
      split <;> exact ⟨rfl, rfl, rfl, rfl, rfl⟩

/-- The last part of a submission keeps the order: its fence id is newer than the ring. -/
theorem Ordered.finish (ordered : state.Ordered) {submission : Submission}
    (held : state.underway engine = some submission)
    : (state.finish engine submission).Ordered := by
  have newest := ordered.underway engine submission held
  obtain ⟨desc, engine_eq, _, fenceId, dmaFence, tasks, ring, sends, underway, _⟩ :=
    finish_spec newest
  have newer : ∀ entry ∈ state.ring desc.engine, entry.fenceId < desc.fence.fenceId := by
    rw [engine_eq, SubmitDesc.fence, fenceId]
    exact newest.newer
  have others (other : Nat) (elsewhere : other ≠ engine)
      : (state.finish engine submission).ring other = state.ring other := by
    rw [ring, engine_eq]
    split
    · rw [Function.update_of_ne elsewhere]
    · rfl
  refine ⟨?_, ?_, ?_, ?_, ?_, ?_⟩
  · intro other waiting member
    rw [underway, Function.update_apply] at member
    split at member
    · cases member
    · next elsewhere =>
        exact (ordered.underway other waiting member).later (others other elsewhere)
          (by rw [sends]; exact BitVec.le_refl _)
  · intro other entry member
    rw [sends]
    by_cases here : other = engine
    · subst here
      rw [ring] at member
      split at member
      · rw [engine_eq, Function.update_self] at member
        rcases List.mem_cons.mp member with rfl | old
        · rw [SubmitDesc.fence, fenceId]
          exact newest.sent
        · exact ordered.sent other entry old
      · exact ordered.sent other entry member
    · rw [others other here] at member
      exact ordered.sent other entry member
  · rw [ring]
    split
    · exact ordered.written desc.engine newer
    · exact ordered.increasing
  · rw [ring, tasks]
    split
    · next written => exact ordered.recorded_cons written
    · next unwritten =>
        intro other
        have skipped : ¬ (desc.engine = other ∧ desc.Written) := fun both => unwritten both.2
        simp only [List.filter_cons, skipped, decide_false, Bool.false_eq_true, if_false]
        exact ordered.recorded other
  · intro task member
    rw [tasks] at member
    rw [sends]
    rcases List.mem_cons.mp member with rfl | old
    · rw [fenceId, engine_eq]
      exact newest.sent
    · exact ordered.tasks_sent task old
  · rw [tasks]
    intro task member
    rcases List.mem_cons.mp member with rfl | old
    · exact dmaFence
    · exact ordered.dmaFence task old

/-- Every step keeps the order, by cases on the step. -/
theorem Ordered.next {action : SubmitAction} (ordered : state.Ordered)
    (fits : state.FencesFit action) (taken : state.next action = some after)
    : after.Ordered := by
  cases action with
  | createDevice =>
      obtain rfl := Option.some.inj taken
      exact ordered.same ⟨rfl, rfl, rfl, rfl⟩ fun _ => BitVec.le_refl _
  | begin request arrivals =>
      simp only [SubmitState.next, Option.ite_none_right_eq_some] at taken
      exact ordered.begin taken.1.1 fits taken.2
  | insertPageTableSet engine arrivals =>
      obtain ⟨target, held, taken⟩ := Option.bind_eq_some_iff.mp taken
      simp only [Option.ite_none_right_eq_some] at taken
      exact ordered.submitPageTableSetTask held taken.1 fits taken.2
  | finish engine =>
      obtain ⟨submission, held, taken⟩ := Option.bind_eq_some_iff.mp taken
      simp only [Option.ite_none_right_eq_some, Option.some.injEq] at taken
      obtain ⟨_, rfl⟩ := taken
      exact ordered.finish held
  | fenceArrives engine fenceId =>
      simp only [SubmitState.next, Option.ite_none_right_eq_some, Option.some.injEq] at taken
      obtain ⟨_, rfl⟩ := taken
      exact ordered.same ⟨rfl, rfl, rfl, rfl⟩ fun _ => BitVec.le_refl _
  | checkFence engine action =>
      simp only [SubmitState.next, Option.ite_none_right_eq_some, Option.some.injEq] at taken
      obtain ⟨⟨check, _⟩, rfl⟩ := taken
      refine ordered.same ⟨rfl, rfl, rfl, rfl⟩ fun other => ?_
      simp only [lastSend, Function.update_apply]
      split
      · next same =>
          rw [same, after_sent_of_isCheck _ check]
          exact BitVec.le_refl _
      · exact BitVec.le_refl _

/-- A new state is in order. -/
theorem ordered_start (totalVmIdNum reservedVmIdNum : Nat) (hwQueueSize : Nat → U32)
    : (start totalVmIdNum reservedVmIdNum hwQueueSize).Ordered where
  underway engine submission none := by cases none
  sent engine entry member := absurd member List.not_mem_nil
  increasing engine := .nil
  recorded engine := rfl
  tasks_sent task member := absurd member List.not_mem_nil
  dmaFence task member := absurd member List.not_mem_nil

/-- In every run whose fence ids fit 64 bits, the fence ids in each ring increase, a ring
holds the recorded fence id of each of its tasks in the order of their submission, and the
`dma_fence` of a task got the same id.
-/
theorem ring_increasing (reached : system.ReachableUnder FencesFit state)
    : (∀ engine, (state.ring engine).Pairwise fun newer older => older.fenceId < newer.fenceId)
      ∧ (∀ engine, state.ring engine
        = (state.tasks.filter fun task => task.engine = engine ∧ task.Written).map
          SubmitDesc.fence)
      ∧ ∀ task ∈ state.tasks, ∀ value ∈ task.dmaFence, value = task.fenceId := by
  have ordered : state.Ordered := by
    apply reached.invariant
    · intro first begins
      obtain ⟨totalVmIdNum, reservedVmIdNum, hwQueueSize, _, _, rfl⟩ := begins
      exact ordered_start totalVmIdNum reservedVmIdNum hwQueueSize
    · intro before action after ordered fits taken
      exact ordered.next fits taken
  exact ⟨ordered.increasing, ordered.recorded, ordered.dmaFence⟩

/-- A render task of a new device with a page-table-set task inserted before it, then a
paging task.
-/
def insertedActions : List SubmitAction :=
  [.createDevice, .begin ⟨.render, 1, 0, true, true⟩ [], .insertPageTableSet 0 [], .finish 0,
    .begin ⟨.paging, 0, 0, true, false⟩ [], .finish 0]

/-- The state these steps end in. -/
def inserted : Option SubmitState := System.replay next (start 2 1 fun _ => 8) insertedActions

/-- The steps can be taken. -/
theorem inserted_isSome : inserted.isSome := by rfl

/-- The page-table-set task, whose uuid is 2, has the first fence id. -/
theorem ring_increasing_inserted
    : (inserted.get inserted_isSome).ring 0 = [⟨3, 3⟩, ⟨1, 2⟩, ⟨2, 1⟩]
      ∧ ((inserted.get inserted_isSome).ring 0).Pairwise
        fun newer older => older.fenceId < newer.fenceId := by
  have reached : system.ReachableUnder FencesFit (inserted.get inserted_isSome) :=
    .replay insertedActions ⟨2, 1, fun _ => 8, by decide, by decide, rfl⟩
      (by decide) (Option.some_get inserted_isSome).symm
  exact ⟨by rfl, (ring_increasing reached).1 0⟩

-----------------------------------------------------------------------------------------
-- When the fence ids start again
-----------------------------------------------------------------------------------------

/-- Nothing is under way on the reserved engine, which has sent `sent`, and no fence has
returned anywhere.
-/
structure Quiet (state : SubmitState) (sent : U64) : Prop where
  free : state.underway 0 = none
  device : ∃ device, state.devices[0]? = some device
  slot : ∀ engine, state.fences.slot engine = 0
  sent_eq : state.lastSend 0 = sent

/-- A paging task. -/
def pagingRequest : SubmitRequest := ⟨.paging, 0, 0, true, false⟩

/-- The reserved device always gets its vm id. -/
theorem Quiet.chooseVmId {sent : U64} (quiet : state.Quiet sent) (fenceId : U64)
    : ∃ after, state.chooseVmId 0 0 fenceId [] = some (after, 0)
      ∧ (∃ device, after.devices[0]? = some device)
      ∧ after.fences = state.fences := by
  obtain ⟨device, found⟩ := quiet.device
  have taken : state.vmIds.choose 0 [] = some (takeVmId state.mgr device state.fences 0) := by
    simp only [VmIdState.choose, vmIds, found, Option.bind_some, vidschiChooseVmId004, ownVmId,
      decide_true, if_true]
  obtain ⟨index_eq, fences_eq, _⟩ := takeVmId_eq state.mgr device state.fences 0
  have inRing : state.InRing (takeVmId state.mgr device state.fences 0).fences := by
    intro engine _
    rw [fences_eq, quiet.slot engine]
    exact Nat.zero_le _
  have bound := (List.getElem?_eq_some_iff.mp found).1
  let vmIds := state.vmIds.addSync 0 0 fenceId (takeVmId state.mgr device state.fences 0)
  let after : SubmitState :=
    { state with mgr := vmIds.mgr, devices := vmIds.devices, fences := vmIds.fences }
  refine ⟨after, ?_, ⟨_, List.getElem?_set_self bound⟩, fences_eq⟩
  simp only [SubmitState.chooseVmId, taken, Option.bind_eq_bind, Option.bind_some,
    if_pos inRing, index_eq]
  rfl

/-- A paging task can be submitted, and gets the next fence id. -/
theorem Quiet.paging {sent : U64} (quiet : state.Quiet sent) (reached : system.Reachable state)
    : ∃ after, system.Reachable after
      ∧ after.Quiet (sent + 1)
      ∧ after.ring 0 = ⟨state.lastUuid + 1, sent + 1⟩ :: state.ring 0 := by
  cases taken : state.incSendFenceId 0 with
  | mk sending fenceId =>
      obtain ⟨same, next_eq, sends⟩ := incSendFenceId_spec taken
      rw [quiet.sent_eq] at next_eq
      obtain rfl := next_eq
      have quiet' : sending.Quiet (sent + 1) := by
        obtain ⟨rfl, _⟩ := Prod.mk.inj taken
        exact ⟨quiet.free, quiet.device, quiet.slot, by rw [sends, Function.update_self]⟩
      obtain ⟨chosen, chooses, device, fences⟩ := quiet'.chooseVmId (sent + 1)
      obtain ⟨same', sends'⟩ := chooseVmId_spec chooses
      let submission : Submission :=
        ⟨pagingRequest.desc (chosen.lastUuid + 1) 0 (sent + 1), sent + 1, false, none⟩
      let begun : SubmitState :=
        { chosen with
          lastUuid := chosen.lastUuid + 1
          underway := Function.update chosen.underway 0 (some submission) }
      have begins : state.next (.begin pagingRequest []) = some begun := by
        have may : pagingRequest.Valid ∧ (state.underway pagingRequest.engine).isNone :=
          ⟨⟨rfl, rfl, rfl⟩, Option.isNone_iff_eq_none.mpr quiet.free⟩
        rw [SubmitState.next, if_pos may, SubmitState.begin]
        simp only [show pagingRequest.engine = 0 from rfl, show pagingRequest.device = 0 from rfl,
          taken, Option.bind_eq_bind, chooses, Option.bind_some]
        rfl
      have ends : begun.next (.finish 0) = some (begun.finish 0 submission) := by
        have held : begun.underway 0 = some submission := rfl
        rw [SubmitState.next, held]
        rfl
      refine ⟨begun.finish 0 submission, ?_, ⟨rfl, device, ?_, ?_⟩, ?_⟩
      · exact (reached.next trivial begins).next trivial ends
      · exact fun engine => (congrArg (EngineFences.slot · engine) fences).trans (quiet'.slot engine)
      · exact (congrFun sends' 0).trans quiet'.sent_eq
      · have ring : (begun.finish 0 submission).ring 0
            = ⟨chosen.lastUuid + 1, sent + 1⟩ :: chosen.ring 0 := rfl
        rw [ring, same'.ring, same'.lastUuid, same.ring, same.lastUuid]

/-- Any number of paging tasks can be submitted, by induction on their number. -/
theorem quiet_reachable (count : Nat)
    : ∃ state, system.Reachable state ∧ state.Quiet (BitVec.ofNat 64 count) := by
  induction count with
  | zero =>
      exact ⟨start 1 1 fun _ => 0, .start ⟨1, 1, _, by decide, by decide, rfl⟩,
        rfl, ⟨_, rfl⟩, fun _ => rfl, rfl⟩
  | succ count ih =>
      obtain ⟨state, reached, quiet⟩ := ih
      obtain ⟨after, reached', quiet', _⟩ := quiet.paging reached
      have same : BitVec.ofNat 64 (count + 1) = BitVec.ofNat 64 count + 1 := BitVec.ofNat_add ..
      exact ⟨after, reached', same ▸ quiet'⟩

/-- The fence ids of a ring do not always increase: the one after 2^64 - 1 is 0. -/
theorem ring_restarts
    : ¬ ∀ state, system.Reachable state
      → (state.ring 0).Pairwise fun newer older => older.fenceId < newer.fenceId := by
  intro increasing
  obtain ⟨state, reached, quiet⟩ := quiet_reachable (2 ^ 64 - 2)
  obtain ⟨before, reached, quiet, ring⟩ := quiet.paging reached
  obtain ⟨after, reached, _, ring'⟩ := quiet.paging reached
  have increasing := increasing after reached
  rw [ring', ring] at increasing
  have lt : BitVec.ofNat 64 (2 ^ 64 - 2) + 1 < BitVec.ofNat 64 (2 ^ 64 - 2) + 1 + 1 :=
    (List.pairwise_cons.mp increasing).1 _ List.mem_cons_self
  exact absurd lt (by decide)

end SubmitState

end Cx4Kernel.Vidsch
