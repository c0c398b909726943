import Cx4Kernel.Foundation.Bag
import Cx4Kernel.Linux.SyncObj

/-! References to sync objects are balanced in every run: a count is the number of handles
and of calls that hold the object. What fails is the reports: a create request that runs out
of memory returns 0, and a status request for an unknown handle reads through `NULL`.
-/

namespace Cx4Kernel.Linux

open Foundation

-----------------------------------------------------------------------------------------
-- Holders
-----------------------------------------------------------------------------------------

/-- One holder more is counted for its object. -/
theorem count_cons_single (object : Nat) (held : List Nat) (other : Nat)
    : (object :: held).count other = held.count other + single object other := by
  rw [List.count_cons, single]
  by_cases same : other = object
  · rw [if_pos same, if_pos (beq_iff_eq.mpr same.symm)]
  · rw [if_neg same, if_neg fun equal => same (beq_iff_eq.mp equal).symm]

theorem count_concat_single (object : Nat) (held : List Nat) (other : Nat)
    : (held ++ [object]).count other = held.count other + single object other := by
  rw [List.count_append, count_cons_single, List.count_nil, Nat.zero_add]

namespace SyncState

variable {state after : SyncState} {index object : Nat} {call call' : SyncCall}

/-- How many handles and calls hold an object. -/
def holders (state : SyncState) (object : Nat) : Nat :=
  (state.handles.map (·.object)).count object
    + (state.calls.map fun call => call.held.count object).sum

/-- The counts of the objects. -/
def refs (state : SyncState) : List RefCount :=
  state.objects.map (·.refs)

/-- The counts agree with the holders. -/
def Balanced (state : SyncState) : Prop :=
  Counted state.refs state.holders

theorem refs_get (object : Nat)
    : (state.get object).refs = state.refs.modify object RefCount.get := by
  apply Bag.map_modify
  intro _
  rfl

theorem refs_put (object : Nat)
    : (state.put object).refs = state.refs.modify object RefCount.put := by
  apply Bag.map_modify
  intro _
  rfl

theorem refs_replaceFence (object : Nat) : (state.replaceFence object).refs = state.refs := by
  refine Eq.trans (Bag.map_modify ?_ state.objects object) (List.modify_id _ _)
  intro _
  rfl

theorem refs_create (fence : Option SyncFence)
    : (state.create fence).refs = state.refs ++ [⟨1, 0⟩] :=
  List.map_append

/-- An object that a call holds has a holder. -/
theorem holders_pos_of_held (known : state.calls[index]? = some call)
    (held : object ∈ call.held)
    : 0 < state.holders object := by
  have least := Bag.le_sum_map known fun call => call.held.count object
  have positive : 0 < call.held.count object := List.count_pos_iff.mpr held
  exact Nat.add_pos_right _ (Nat.lt_of_lt_of_le positive least)

/-- An object that a handle names has a holder. -/
theorem holders_pos_of_find {file : Nat} {handle : U32}
    (found : state.find file handle = some object)
    : 0 < state.holders object := by
  obtain ⟨entry, first, rfl⟩ := Option.map_eq_some_iff.mp found
  have named : entry.object ∈ state.handles.map (·.object) :=
    List.mem_map_of_mem (List.mem_of_find?_eq_some first)
  exact Nat.add_pos_left (List.count_pos_iff.mpr named) _

/-- Removing a handle takes one holder off its object. -/
theorem count_remove {file : Nat} {handle : U32}
    (found : state.find file handle = some object) (other : Nat)
    : ((state.remove file handle).handles.map (·.object)).count other + single object other
      = (state.handles.map (·.object)).count other := by
  obtain ⟨entry, first, rfl⟩ := Option.map_eq_some_iff.mp found
  obtain ⟨matched, before, behind, whole, unmatched⟩ := List.find?_eq_some_iff_append.mp first
  have earlier : ∀ entry ∈ before, ¬ (entry.file = file && entry.handle = handle) = true := by
    intro entry member
    have other := unmatched entry member
    rw [Bool.not_eq_true'] at other
    rw [other]
    exact Bool.false_ne_true
  have erased : (state.remove file handle).handles = before ++ behind := by
    rw [remove, whole, List.eraseP_append_right _ earlier]
    exact congrArg (before ++ ·) (List.eraseP_cons_of_pos matched)
  rw [erased, whole, List.map_append, List.map_append, List.count_append, List.count_append,
    List.map_cons, count_cons_single, Nat.add_assoc]

/-- What a step does to the references of a call, the objects and the handles. -/
inductive Exchange (state : SyncState) (before held : List Nat)
    : List RefCount → List HandleEntry → Prop where
  | keep (same : ∀ other, held.count other = before.count other)
    : Exchange state before held state.refs state.handles
  | take {object : Nat} (live : 0 < state.holders object)
    (more : ∀ other, held.count other = before.count other + single object other)
    : Exchange state before held (state.refs.modify object RefCount.get) state.handles
  | drop {object : Nat}
    (less : ∀ other, held.count other + single object other = before.count other)
    : Exchange state before held (state.refs.modify object RefCount.put) state.handles
  | make (more : ∀ other,
      held.count other = before.count other + single state.refs.length other)
    : Exchange state before held (state.refs ++ [⟨1, 0⟩]) state.handles
  | name {object file : Nat} {handle : U32}
    (less : ∀ other, held.count other + single object other = before.count other)
    : Exchange state before held state.refs (state.handles ++ [⟨file, handle, object⟩])
  | unname {object file : Nat} {handle : U32} (found : state.find file handle = some object)
    (more : ∀ other, held.count other = before.count other + single object other)
    : Exchange state before held state.refs (state.remove file handle).handles

/-- Every exchange keeps the balance. -/
theorem Exchange.balanced (known : state.calls[index]? = some call)
    (calls : after.calls = state.calls.set index call')
    (exchange : state.Exchange call.held call'.held after.refs after.handles)
    (balanced : state.Balanced)
    : after.Balanced := by
  have changed := fun other => Bag.sum_map_set known call' fun call => call.held.count other
  unfold Balanced at balanced ⊢
  generalize objects : after.refs = refs at exchange
  generalize named : after.handles = handles at exchange
  cases exchange with
  | keep same =>
      refine balanced.congr fun other => ?_
      rw [holders, holders, calls, named]
      have := changed other
      have := same other
      omega
  | take live more =>
      refine balanced.take live fun other => ?_
      rw [holders, holders, calls, named]
      have := changed other
      have := more other
      omega
  | drop less =>
      refine balanced.drop fun other => ?_
      rw [holders, holders, calls, named]
      have := changed other
      have := less other
      omega
  | make more =>
      refine balanced.make fun other => ?_
      rw [holders, holders, calls, named]
      have := changed other
      have := more other
      omega
  | @name object file handle less =>
      refine balanced.congr fun other => ?_
      rw [holders, holders, calls, named, List.map_append, List.map_singleton,
        count_concat_single]
      have := changed other
      have := less other
      dsimp only
      omega
  | unname found more =>
      refine balanced.congr fun other => ?_
      rw [holders, holders, calls, named]
      have := changed other
      have := more other
      have := count_remove found other
      omega

end SyncState

-----------------------------------------------------------------------------------------
-- Calls
-----------------------------------------------------------------------------------------

namespace SyncCall

/-- The objects a call holds in a stage where they are known. -/
def Shaped (call : SyncCall) : Prop :=
  match call.stage with
  | .entered | .reading none | .done _ | .faulted => call.held = []
  | .created object | .reading (some object) => call.held = [object]
  | .exporting object => call.held = [object, object]
  | .walking rest _ | .resetting rest => ∀ object ∈ rest, object ∈ call.held
  | _ => True

/-- The handle that is reported is the one that was allocated. -/
def Exported (call : SyncCall) : Prop :=
  ∃ handle, handle ≠ 0 ∧ call.allocated = some handle ∧ call.output = handle

/-- A call that misses a handle changes no object and returns an error, and a create request
that returns 0 has exported its object.
-/
def Clean (call : SyncCall) : Prop :=
  match call.stage with
  | .entered => call.missed = false ∧ call.replaced = []
  | .created _ | .exporting _ => call.missed = false
  | .finding _ => call.missed = false ∧ call.replaced = [] ∧ call.request.isCreate = false
  | .unwinding ret => ret < 0 ∧ call.replaced = [] ∧ call.request.isCreate = false
  | .walking _ _ | .passing _ | .resetting _ | .reading (some _) =>
      call.missed = false ∧ call.request.isCreate = false
  | .putting ret =>
      call.missed = false ∧ (call.request.isCreate = true → ret = 0 → call.Exported)
  | .done ret =>
      (call.missed = true → ret < 0 ∧ call.replaced = [])
        ∧ (call.request.isCreate = true → ret = 0 → call.Exported)
  | .reading none | .faulted => False

end SyncCall

namespace SyncState

variable {state after : SyncState} {index object : Nat} {call call' : SyncCall}
  {choice : SyncChoice}

/-- The steps whose report is right: allocations of a create request succeed, and a status
request names a handle of the table.
-/
def Permitted (state : SyncState) (call : SyncCall) (choice : SyncChoice) : Prop :=
  match call.stage, call.request with
  | .entered, .create flags => flags &&& ~~~1 = 0 → choice.failure = none
  | .entered, .getStatus handle => state.find call.file handle ≠ none
  | .exporting _, _ => choice.handle ≠ none
  | _, _ => True

/-- What a step does, to the call that takes it and to the references. -/
structure Stepped (state : SyncState) (index : Nat) (call call' : SyncCall)
    (choice : SyncChoice) (after : SyncState) : Prop where
  calls : after.calls = state.calls.set index call'
  exchange : state.Exchange call.held call'.held after.refs after.handles
  shaped : call'.Shaped
  clean : call.Clean → state.Permitted call choice → call'.Clean

/-- A step that changes no reference. -/
theorem stepped_set (held : call'.held = call.held) (shaped : call'.Shaped)
    (clean : call.Clean → state.Permitted call choice → call'.Clean)
    : state.Stepped index call call' choice (state.set index call') where
  calls := rfl
  exchange := .keep fun _ => by rw [held]
  shaped := shaped
  clean := clean

/-- A step that takes a reference. -/
theorem stepped_get (live : 0 < state.holders object)
    (held : ∀ other, call'.held.count other = call.held.count other + single object other)
    (shaped : call'.Shaped) (clean : call.Clean → state.Permitted call choice → call'.Clean)
    : state.Stepped index call call' choice ((state.get object).set index call') where
  calls := rfl
  exchange := by
    have refs : ((state.get object).set index call').refs
        = state.refs.modify object RefCount.get := refs_get object
    rw [refs]
    exact .take live held
  shaped := shaped
  clean := clean

/-- A step that puts a reference. -/
theorem stepped_put
    (held : ∀ other, call'.held.count other + single object other = call.held.count other)
    (shaped : call'.Shaped) (clean : call.Clean → state.Permitted call choice → call'.Clean)
    : state.Stepped index call call' choice ((state.put object).set index call') where
  calls := rfl
  exchange := by
    have refs : ((state.put object).set index call').refs
        = state.refs.modify object RefCount.put := refs_put object
    rw [refs]
    exact .drop held
  shaped := shaped
  clean := clean

/-- A step that makes an object. -/
theorem stepped_create (fence : Option SyncFence) (empty : call.held = [])
    (held : call'.held = [state.objects.length])
    (shaped : call'.Shaped) (clean : call.Clean → state.Permitted call choice → call'.Clean)
    : state.Stepped index call call' choice ((state.create fence).set index call') where
  calls := rfl
  exchange := by
    have refs : ((state.create fence).set index call').refs = state.refs ++ [⟨1, 0⟩] :=
      refs_create fence
    rw [refs]
    refine .make fun other => ?_
    rw [held, empty, count_cons_single, SyncState.refs, List.length_map]
  shaped := shaped
  clean := clean

-----------------------------------------------------------------------------------------
-- One step
-----------------------------------------------------------------------------------------

/-- A call that returns in its first step, with an error if it is a create request. -/
theorem stepped_finish {ret : Int} (entered : call.stage = .entered) (empty : call.held = [])
    (fails : call.request.isCreate = true → ret ≠ 0)
    : state.Stepped index call (call.finish ret) choice
        (state.set index (call.finish ret)) := by
  refine stepped_set rfl empty fun clean _ => ⟨fun missed => ?_, fun create returned => ?_⟩
  · simp only [SyncCall.Clean, entered] at clean
    cases clean.1.symm.trans missed
  · exact absurd returned (fails create)

/-- The first step of a create request. -/
theorem enterCreate_stepped {flags : U32} (entered : call.stage = .entered)
    (request : call.request = .create flags) (empty : call.held = [])
    : ∃ call', state.Stepped index call call' choice
        (state.enterCreate index call flags choice) := by
  unfold enterCreate
  split
  next =>
    exact ⟨_, stepped_finish entered empty fun _ => by decide⟩
  next valid =>
    split
    next fails =>
      refine ⟨_, stepped_set rfl empty fun clean permitted => ?_⟩
      simp only [Permitted, entered, request] at permitted
      rw [permitted (not_not.mp valid)] at fails
      cases fails
    next =>
      refine ⟨_, stepped_create _ empty rfl rfl fun clean _ => ?_⟩
      simp only [SyncCall.Clean, entered] at clean
      exact clean.1

/-- The first step of a destroy request. -/
theorem enterDestroy_stepped {handle pad : U32} (entered : call.stage = .entered)
    (request : call.request = .destroy handle pad) (empty : call.held = [])
    : ∃ call', state.Stepped index call call' choice
        (state.enterDestroy index call handle pad) := by
  unfold enterDestroy
  split
  next =>
    exact ⟨_, stepped_finish entered empty fun _ => by decide⟩
  next =>
    split
    next =>
      refine ⟨_, stepped_set rfl empty fun clean _ => ?_⟩
      simp only [SyncCall.Clean, entered] at clean
      simp [SyncCall.finish, SyncCall.Clean, clean, request, SyncRequest.isCreate]
    next object found =>
      refine ⟨_, rfl, .unname found fun other => ?_, trivial, fun clean _ => ?_⟩
      · rw [empty, count_cons_single]
      · simp only [SyncCall.Clean, entered] at clean
        simp [SyncCall.Clean, clean, request, SyncRequest.isCreate]

/-- The first step of a wait or a reset request. -/
theorem enterArray_stepped {valid : Bool} {handles : List U32} (entered : call.stage = .entered)
    (request : call.request.isCreate = false) (empty : call.held = [])
    : ∃ call', state.Stepped index call call' choice
        (state.enterArray index call valid handles choice) := by
  unfold enterArray
  split
  next =>
    exact ⟨_, stepped_finish entered empty fun _ => by decide⟩
  next =>
    split
    next failure _ =>
      exact ⟨_, stepped_finish entered empty fun create => by cases request.symm.trans create⟩
    next =>
      refine ⟨_, stepped_set rfl trivial fun clean _ => ?_⟩
      simp only [SyncCall.Clean, entered] at clean
      exact ⟨clean.1, clean.2, request⟩

/-- The first step of a status request. -/
theorem enterGetStatus_stepped {handle : U32} (entered : call.stage = .entered)
    (request : call.request = .getStatus handle) (empty : call.held = [])
    : ∃ call', state.Stepped index call call' choice
        (state.enterGetStatus index call handle) := by
  unfold enterGetStatus
  split
  next missing =>
    refine ⟨_, stepped_set rfl empty fun _ permitted => ?_⟩
    simp only [Permitted, entered, request] at permitted
    exact absurd missing permitted
  next object found =>
    refine ⟨_, stepped_get (holders_pos_of_find found) (fun other => ?_) rfl
      fun clean _ => ?_⟩
    · rw [empty, count_cons_single]
    · simp only [SyncCall.Clean, entered] at clean
      simp [SyncCall.Clean, clean, request, SyncRequest.isCreate]

theorem enter_stepped (entered : call.stage = .entered) (shaped : call.Shaped)
    : ∃ call', state.Stepped index call call' choice (state.enter index call choice) := by
  have empty : call.held = [] := by
    simpa only [SyncCall.Shaped, entered] using shaped
  unfold enter
  cases request : call.request with
  | create flags => exact enterCreate_stepped entered request empty
  | destroy handle pad => exact enterDestroy_stepped entered request empty
  | wait flags handles =>
      exact enterArray_stepped entered (by rw [request]; rfl) empty
  | reset pad handles => exact enterArray_stepped entered (by rw [request]; rfl) empty
  | getStatus handle => exact enterGetStatus_stepped entered request empty

/-- The handle of a new object, or its failure. -/
theorem exportObject_stepped (stage : call.stage = .exporting object) (shaped : call.Shaped)
    (stepped : state.exportObject index call object choice = some after)
    : ∃ call', state.Stepped index call call' choice after := by
  have both : call.held = [object, object] := by
    simpa only [SyncCall.Shaped, stage] using shaped
  have one : call.held.erase object = [object] := by rw [both, List.erase_cons_head]
  have less : ∀ other, (call.held.erase object).count other + single object other
      = call.held.count other := by
    intro other
    rw [one, both, count_cons_single object [object]]
  unfold exportObject at stepped
  split at stepped
  next failed =>
    obtain rfl := Option.some.inj stepped
    refine ⟨_, stepped_put less trivial fun _ permitted => ?_⟩
    simp only [Permitted, stage] at permitted
    exact absurd failed permitted
  next handle _ =>
    split at stepped
    next free =>
      obtain rfl := Option.some.inj stepped
      refine ⟨_, rfl, .name less, trivial, fun clean _ => ?_⟩
      simp only [SyncCall.Clean, stage] at clean
      exact ⟨clean, fun _ _ => ⟨handle, free.1, rfl, rfl⟩⟩
    next => cases stepped

/-- A turn of the loop over handles. -/
theorem findHandle_stepped {handle : U32} {rest : List U32}
    (stage : call.stage = .finding (handle :: rest))
    : ∃ call', state.Stepped index call call' choice
        (state.findHandle index call handle rest) := by
  unfold findHandle
  split
  next =>
    refine ⟨_, stepped_set rfl trivial fun clean _ => ?_⟩
    simp only [SyncCall.Clean, stage] at clean
    exact ⟨by decide, clean.2⟩
  next object found =>
    refine ⟨_, stepped_get (holders_pos_of_find found) (fun other => ?_) trivial
      fun clean _ => ?_⟩
    · exact count_concat_single object call.held other
    · simpa only [SyncCall.Clean, stage] using clean

/-- What happens once all handles are found. -/
theorem found_stepped (stage : call.stage = .finding [])
    (stepped : state.found index call choice = some after)
    : ∃ call', state.Stepped index call call' choice after := by
  unfold found at stepped
  split at stepped
  next flags handles request =>
    split at stepped
    next =>
      obtain rfl := Option.some.inj stepped
      refine ⟨_, stepped_set rfl trivial fun clean _ => ?_⟩
      simp only [SyncCall.Clean, stage] at clean
      exact ⟨clean.1, fun create => by simp [clean.2.2] at create⟩
    next =>
      obtain rfl := Option.some.inj stepped
      refine ⟨_, stepped_set rfl (fun _ member => member) fun clean _ => ?_⟩
      simp only [SyncCall.Clean, stage] at clean
      exact ⟨clean.1, clean.2.2⟩
  next =>
    obtain rfl := Option.some.inj stepped
    refine ⟨_, stepped_set rfl (fun _ member => member) fun clean _ => ?_⟩
    simp only [SyncCall.Clean, stage] at clean
    exact ⟨clean.1, clean.2.2⟩
  next => cases stepped

/-- A call that has not missed a handle, and is no create request, puts what it holds. -/
theorem clean_putting {ret : Int} (missed : call.missed = false)
    (request : call.request.isCreate = false) (stage : call.stage = .putting ret)
    : call.Clean := by
  simp [SyncCall.Clean, stage, missed, request]

/-- A turn of the loop that reads the fences. -/
theorem walk_stepped {rest : List Nat} {signaledCount : Nat}
    (stage : call.stage = .walking (object :: rest) signaledCount) (shaped : call.Shaped)
    (stepped : state.walk index call object rest signaledCount choice = some after)
    : ∃ call', state.Stepped index call call' choice after := by
  obtain ⟨entry, _, stepped⟩ := Option.bind_eq_some_iff.mp stepped
  obtain rfl := Option.some.inj stepped
  simp only [SyncCall.Shaped, stage] at shaped
  refine ⟨_, stepped_set rfl (fun other member => ?_) fun clean _ => ?_⟩
  · exact shaped other (.tail _ member)
  · simpa only [SyncCall.Clean, stage] using clean

/-- The end of that loop. -/
theorem walked_stepped {signaledCount : Nat} (stage : call.stage = .walking [] signaledCount)
    : ∃ call', state.Stepped index call call' choice
        (state.walked index call signaledCount choice) := by
  unfold walked
  split
  next =>
    refine ⟨_, stepped_set rfl trivial fun clean _ => ?_⟩
    simp only [SyncCall.Clean, stage] at clean
    exact clean_putting clean.1 clean.2 rfl
  next =>
    refine ⟨_, stepped_set rfl trivial fun clean _ => ?_⟩
    simpa only [SyncCall.Clean, stage] using clean

/-- A turn of the waiting loop. -/
theorem pass_stepped {timeout : Nat} (stage : call.stage = .passing timeout)
    : ∃ call', state.Stepped index call call' choice
        (state.pass index call timeout choice) := by
  have putting : ∀ call' : SyncCall, ∀ ret, call'.stage = .putting ret
      → call'.missed = call.missed → call'.request = call.request → call.Clean
      → call'.Clean := by
    intro call' ret ends missed request clean
    simp only [SyncCall.Clean, stage] at clean
    exact clean_putting (missed ▸ clean.1) (request ▸ clean.2) ends
  unfold pass
  dsimp only
  split
  next => exact ⟨_, stepped_set rfl trivial fun clean _ => putting _ 0 rfl rfl rfl clean⟩
  next =>
    split
    next => exact ⟨_, stepped_set rfl trivial fun clean _ => putting _ 0 rfl rfl rfl clean⟩
    next =>
      split
      next =>
        exact ⟨_, stepped_set rfl trivial fun clean _ => putting _ (-62) rfl rfl rfl clean⟩
      next =>
        split
        next =>
          exact ⟨_, stepped_set rfl trivial fun clean _ => putting _ (-512) rfl rfl rfl clean⟩
        next =>
          refine ⟨_, stepped_set rfl trivial fun clean _ => ?_⟩
          simpa only [SyncCall.Clean, stage] using clean

/-- The loop of the reset request. -/
theorem resetting_stepped {rest : List Nat} (stage : call.stage = .resetting (object :: rest))
    (shaped : call.Shaped)
    : ∃ call', state.Stepped index call call' choice ((state.replaceFence object).set index
        { call with stage := .resetting rest, replaced := call.replaced ++ [object] }) := by
  simp only [SyncCall.Shaped, stage] at shaped
  refine ⟨_, rfl, ?_, fun other member => shaped other (.tail _ member), fun clean _ => ?_⟩
  · have refs : ((state.replaceFence object).set index
        { call with stage := .resetting rest, replaced := call.replaced ++ [object] }).refs
        = state.refs := refs_replaceFence object
    rw [refs]
    exact .keep fun _ => rfl
  · simpa only [SyncCall.Clean, stage] using clean

/-- The fence of the status request. -/
theorem read_stepped {object : Option Nat} (stage : call.stage = .reading object)
    (shaped : call.Shaped) (stepped : state.read index call object choice = some after)
    : ∃ call', state.Stepped index call call' choice after := by
  unfold read at stepped
  cases object with
  | none =>
      simp only [SyncCall.Shaped, stage] at shaped
      obtain rfl := Option.some.inj stepped
      refine ⟨_, stepped_set rfl shaped fun clean _ => ?_⟩
      simp only [SyncCall.Clean, stage] at clean
  | some object =>
      obtain ⟨entry, _, stepped⟩ := Option.bind_eq_some_iff.mp stepped
      obtain rfl := Option.some.inj stepped
      refine ⟨_, stepped_set rfl trivial fun clean _ => ?_⟩
      simp only [SyncCall.Clean, stage] at clean
      exact clean_putting clean.1 clean.2 rfl

/-- Putting what is held, in either order. -/
theorem unwind_stepped {ret : Int} (stage : call.stage = .unwinding ret)
    : ∃ call', state.Stepped index call call' choice (state.unwind index call ret) := by
  unfold unwind
  cases last : call.held.getLast? with
  | none =>
      have empty := List.getLast?_eq_none_iff.mp last
      refine ⟨_, stepped_set rfl empty fun clean _ => ?_⟩
      simp only [SyncCall.Clean, stage] at clean
      exact ⟨fun _ => ⟨clean.1, clean.2.1⟩, fun create => by
        simp [SyncCall.finish, clean.2.2] at create⟩
  | some object =>
      have whole := List.dropLast_append_getLast? object last
      refine ⟨_, stepped_put (fun other => ?_) ?_ fun clean _ => ?_⟩
      · conv => rhs; rw [← whole]
        exact (count_concat_single object call.held.dropLast other).symm
      · simp only [SyncCall.Shaped, stage]
      · simpa only [SyncCall.Clean, stage] using clean

theorem putHeld_stepped {ret : Int} (stage : call.stage = .putting ret)
    : ∃ call', state.Stepped index call call' choice (state.putHeld index call ret) := by
  unfold putHeld
  cases held : call.held with
  | nil =>
      refine ⟨_, stepped_set rfl held fun clean _ => ?_⟩
      simp only [SyncCall.Clean, stage] at clean
      exact ⟨fun missed => by simp [SyncCall.finish, clean.1] at missed, clean.2⟩
  | cons object rest =>
      refine ⟨_, stepped_put (fun other => ?_) ?_ fun clean _ => ?_⟩
      · rw [held, count_cons_single]
      · simp only [SyncCall.Shaped, stage]
      · simp only [SyncCall.Clean, stage] at clean ⊢
        exact clean

/-- Every step of a call. -/
theorem advance_stepped (known : state.calls[index]? = some call) (shaped : call.Shaped)
    (stepped : state.advance index call choice = some after)
    : ∃ call', state.Stepped index call call' choice after := by
  unfold advance at stepped
  cases stage : call.stage with
  | entered =>
      rw [stage] at stepped
      obtain rfl := Option.some.inj stepped
      exact enter_stepped stage shaped
  | created object =>
      rw [stage] at stepped
      obtain rfl := Option.some.inj stepped
      have held : call.held = [object] := by simpa only [SyncCall.Shaped, stage] using shaped
      have live : 0 < state.holders object :=
        holders_pos_of_held known (held ▸ List.mem_singleton_self object)
      refine ⟨_, stepped_get live (fun other => ?_) ?_ fun clean _ => ?_⟩
      · exact count_cons_single object call.held other
      · simp only [SyncCall.Shaped, held]
      · simpa only [SyncCall.Clean, stage] using clean
  | exporting object =>
      rw [stage] at stepped
      exact exportObject_stepped stage shaped stepped
  | finding handles =>
      cases handles with
      | nil =>
          rw [stage] at stepped
          exact found_stepped stage stepped
      | cons handle rest =>
          rw [stage] at stepped
          obtain rfl := Option.some.inj stepped
          exact findHandle_stepped stage
  | unwinding ret =>
      rw [stage] at stepped
      obtain rfl := Option.some.inj stepped
      exact unwind_stepped stage
  | walking objects signaledCount =>
      cases objects with
      | nil =>
          rw [stage] at stepped
          obtain rfl := Option.some.inj stepped
          exact walked_stepped stage
      | cons object rest =>
          rw [stage] at stepped
          exact walk_stepped stage shaped stepped
  | passing timeout =>
      rw [stage] at stepped
      obtain rfl := Option.some.inj stepped
      exact pass_stepped stage
  | resetting objects =>
      cases objects with
      | nil =>
          rw [stage] at stepped
          obtain rfl := Option.some.inj stepped
          refine ⟨_, stepped_set rfl trivial fun clean _ => ?_⟩
          simp only [SyncCall.Clean, stage] at clean
          exact clean_putting clean.1 clean.2 rfl
      | cons object rest =>
          rw [stage] at stepped
          obtain rfl := Option.some.inj stepped
          exact resetting_stepped stage shaped
  | reading object =>
      rw [stage] at stepped
      exact read_stepped stage shaped stepped
  | putting ret =>
      rw [stage] at stepped
      obtain rfl := Option.some.inj stepped
      exact putHeld_stepped stage
  | done ret =>
      rw [stage] at stepped
      cases stepped
  | faulted =>
      rw [stage] at stepped
      cases stepped

-----------------------------------------------------------------------------------------
-- Runs
-----------------------------------------------------------------------------------------

/-- The steps of calls that are permitted. -/
def Reports (state : SyncState) : SyncAction → Prop
  | .enter _ _ _ => True
  | .advance index choice => ∀ call ∈ state.calls[index]?, state.Permitted call choice

instance (state : SyncState) (call : SyncCall) (choice : SyncChoice)
    : Decidable (state.Permitted call choice) := by
  unfold Permitted
  split <;> infer_instance

instance (state : SyncState) : ∀ action, Decidable (state.Reports action)
  | .enter _ _ _ => .isTrue trivial
  | .advance _ _ => inferInstanceAs (Decidable (∀ _ ∈ _, _))

/-- What every run keeps. -/
structure Kept (state : SyncState) : Prop where
  balanced : state.Balanced
  shaped : ∀ call ∈ state.calls, call.Shaped

/-- Calls other than the one that goes on stay as they are. -/
theorem forall_calls_set {property : SyncCall → Prop} (old : ∀ call ∈ state.calls, property call)
    (calls : after.calls = state.calls.set index call') (new : property call')
    : ∀ call ∈ after.calls, property call := by
  intro call member
  rw [calls] at member
  rcases List.mem_or_eq_of_mem_set member with earlier | rfl
  · exact old call earlier
  · exact new

/-- Entering a call holds nothing yet. -/
theorem Balanced.enter (balanced : state.Balanced) (empty : call.held = [])
    : { state with calls := state.calls ++ [call] }.Balanced := by
  refine balanced.congr fun other => ?_
  rw [holders, holders, List.map_append, List.sum_append, List.map_singleton, empty]
  rfl

theorem Kept.next {action : SyncAction} (kept : state.Kept)
    (stepped : state.next action = some after)
    : after.Kept := by
  cases action with
  | enter file request output =>
      obtain rfl := Option.some.inj stepped
      refine ⟨kept.balanced.enter rfl, fun call member => ?_⟩
      rcases List.mem_append.mp member with old | new
      · exact kept.shaped call old
      · obtain rfl := List.mem_singleton.mp new
        rfl
  | advance index choice =>
      obtain ⟨call, known, stepped⟩ := Option.bind_eq_some_iff.mp stepped
      obtain ⟨call', step⟩ :=
        advance_stepped known (kept.shaped call (List.mem_of_getElem? known)) stepped
      exact ⟨step.exchange.balanced known step.calls kept.balanced,
        forall_calls_set kept.shaped step.calls step.shaped⟩

/-- Every run keeps the references balanced, whatever fails. -/
theorem kept_of_reachable {allowed : SyncState → SyncAction → Prop}
    (reached : system.ReachableUnder allowed state)
    : state.Kept := by
  apply reached.invariant
  · rintro _ rfl
    refine ⟨⟨?_, ?_⟩, fun _ member => absurd member List.not_mem_nil⟩
    · intro thing refs found
      cases found
    · intro thing positive
      exact absurd positive (Nat.lt_irrefl 0)
  · intro before action after kept _ stepped
    exact kept.next stepped

/-- Steps whose report is right leave clean calls. -/
theorem clean_next {action : SyncAction} (kept : state.Kept)
    (clean : ∀ call ∈ state.calls, call.Clean) (reports : state.Reports action)
    (stepped : state.next action = some after)
    : ∀ call ∈ after.calls, call.Clean := by
  cases action with
  | enter file request output =>
      obtain rfl := Option.some.inj stepped
      intro call member
      rcases List.mem_append.mp member with old | new
      · exact clean call old
      · obtain rfl := List.mem_singleton.mp new
        exact ⟨rfl, rfl⟩
  | advance index choice =>
      obtain ⟨call, known, stepped⟩ := Option.bind_eq_some_iff.mp stepped
      have member := List.mem_of_getElem? known
      obtain ⟨call', step⟩ := advance_stepped known (kept.shaped call member) stepped
      exact forall_calls_set clean step.calls
        (step.clean (clean call member) (reports call known))

/-- A call that puts what it found before it missed a handle returns its error when it goes on.
By induction on the number of objects it holds.
-/
theorem unwind_returns (choice : SyncChoice) {ret : Int} {number : Nat}
    (known : state.calls[index]? = some call) (stage : call.stage = .unwinding ret)
    (length : call.held.length = number)
    : ∃ after last, System.replay next state
        (List.replicate (number + 1) (.advance index choice)) = some after
      ∧ after.calls[index]? = some last ∧ last.stage = .done ret := by
  have bound := (List.getElem?_eq_some_iff.mp known).1
  have first : state.next (.advance index choice) = some (state.unwind index call ret) := by
    rw [SyncState.next, known, Option.bind_eq_bind, Option.bind_some, advance, stage]
  induction number generalizing state call with
  | zero =>
      have empty := List.length_eq_zero_iff.mp length
      have finished : state.unwind index call ret = state.set index (call.finish ret) := by
        rw [unwind, empty]
        rfl
      refine ⟨state.set index (call.finish ret), call.finish ret, ?_, ?_, rfl⟩
      · rw [List.replicate_one, System.replay, first, Option.bind_some, finished]
        rfl
      · exact List.getElem?_set_self bound
  | succ number ih =>
      have filled : call.held ≠ [] := by
        intro empty
        rw [empty] at length
        cases length
      let call' := { call with held := call.held.dropLast }
      have turned : state.unwind index call ret
          = (state.put (call.held.getLast filled)).set index call' := by
        rw [unwind, List.getLast?_eq_getLast_of_ne_nil filled]
      have known' : (state.unwind index call ret).calls[index]? = some call' := by
        rw [turned]
        exact List.getElem?_set_self bound
      have length' : call'.held.length = number := by
        rw [List.length_dropLast, length, Nat.add_sub_cancel]
      have next' : (state.unwind index call ret).next (.advance index choice)
          = some ((state.unwind index call ret).unwind index call' ret) := by
        rw [SyncState.next, known', Option.bind_eq_bind, Option.bind_some, advance]
        simp only [call', stage]
      obtain ⟨after, last, ran, found, done⟩ := ih known' stage length'
        (List.getElem?_eq_some_iff.mp known').1 next'
      refine ⟨after, last, ?_, found, done⟩
      rw [List.replicate_succ, System.replay, first, Option.bind_some, ran]

/-- The promise about a state: a reference count is the number of handles and calls that hold
the object, which is freed exactly when there is none, no call reads a missing object, one
that names an unknown handle changes no object and returns an error, and a create request
that returns 0 reports the handle of its object.
-/
structure Sound (state : SyncState) : Prop where
  counts : ∀ (object : Nat) entry, state.objects[object]? = some entry
    → entry.refs.count = state.holders object
      ∧ entry.refs.freed = if state.holders object = 0 then 1 else 0
  held : ∀ call ∈ state.calls, ∀ object ∈ call.held,
    ∃ entry, state.objects[object]? = some entry ∧ entry.refs.freed = 0
  named : ∀ file handle object, state.find file handle = some object
    → ∃ entry, state.objects[object]? = some entry ∧ entry.refs.freed = 0
  returned : ∀ call ∈ state.calls, ∀ ret, call.stage = .done ret → call.held = []
  present : ∀ call ∈ state.calls, call.stage ≠ .faulted
  unknown : ∀ call ∈ state.calls, call.missed = true →
    call.replaced = [] ∧ ∀ ret, call.stage = .done ret → ret < 0
  fails : ∀ (index : Nat) call choice, state.calls[index]? = some call → call.missed = true
    → ∃ steps after last ret, System.replay next state
        (List.replicate steps (.advance index choice)) = some after
      ∧ after.calls[index]? = some last ∧ last.stage = .done ret ∧ ret < 0
  created : ∀ call ∈ state.calls, call.request.isCreate = true → call.stage = .done 0
    → call.Exported

/-- A held object is there. -/
theorem Balanced.live (balanced : state.Balanced) (held : 0 < state.holders object)
    : ∃ entry, state.objects[object]? = some entry ∧ entry.refs.freed = 0 := by
  obtain ⟨refs, found, _, alive⟩ := Counted.live balanced held
  rw [SyncState.refs, List.getElem?_map] at found
  obtain ⟨entry, known, rfl⟩ := Option.map_eq_some_iff.mp found
  exact ⟨entry, known, alive⟩

/-- A clean call that misses a handle has changed no object, and returns its error or has
returned it.
-/
theorem stage_of_missed (clean : call.Clean) (missed : call.missed = true)
    : call.replaced = [] ∧ ∃ ret < 0, call.stage = .unwinding ret ∨ call.stage = .done ret := by
  cases stage : call.stage with
  | unwinding ret =>
      simp only [SyncCall.Clean, stage] at clean
      exact ⟨clean.2.1, ret, clean.1, .inl rfl⟩
  | done ret =>
      simp only [SyncCall.Clean, stage] at clean
      exact ⟨(clean.1 missed).2, ret, (clean.1 missed).1, .inr rfl⟩
  | reading object =>
      cases object with
      | none => simp only [SyncCall.Clean, stage] at clean
      | some object => simp [SyncCall.Clean, stage, missed] at clean
  | _ => simp [SyncCall.Clean, stage, missed] at clean

/-- In every run in which the allocations of create requests succeed and status requests name
handles of the table, requests keep references balanced and report what they did.
-/
theorem requests_sound (state : SyncState) (reached : system.ReachableUnder Reports state)
    : state.Sound := by
  have kept := kept_of_reachable reached
  have clean : ∀ call ∈ state.calls, call.Clean := by
    have both : state.Kept ∧ ∀ call ∈ state.calls, call.Clean := by
      apply reached.invariant
      · rintro _ rfl
        exact ⟨@kept_of_reachable start Reports (.start rfl),
          fun _ member => absurd member List.not_mem_nil⟩
      · intro before action after held reports stepped
        exact ⟨held.1.next stepped, clean_next held.1 held.2 reports stepped⟩
    exact both.2
  refine ⟨?_, ?_, ?_, ?_, ?_, ?_, ?_, ?_⟩
  · intro object entry found
    refine kept.balanced.counts object entry.refs ?_
    rw [refs, List.getElem?_map, found]
    rfl
  · intro call member object held
    obtain ⟨index, known⟩ := List.mem_iff_getElem?.mp member
    exact kept.balanced.live (holders_pos_of_held known held)
  · exact fun file handle object found => kept.balanced.live (holders_pos_of_find found)
  · intro call member ret stage
    have shaped := kept.shaped call member
    simpa only [SyncCall.Shaped, stage] using shaped
  · intro call member stage
    have clean := clean call member
    simp only [SyncCall.Clean, stage] at clean
  · intro call member missed
    obtain ⟨unchanged, ret, negative, stage⟩ := stage_of_missed (clean call member) missed
    refine ⟨unchanged, fun other done => ?_⟩
    rcases stage with unwinding | same
    · rw [unwinding] at done
      cases done
    · obtain rfl := SyncStage.done.inj (same.symm.trans done)
      exact negative
  · intro index call choice known missed
    obtain ⟨_, ret, negative, stage⟩ :=
      stage_of_missed (clean call (List.mem_of_getElem? known)) missed
    rcases stage with unwinding | done
    · obtain ⟨after, last, ran, found, done⟩ := unwind_returns choice known unwinding rfl
      exact ⟨_, after, last, ret, ran, found, done, negative⟩
    · exact ⟨0, state, call, ret, rfl, known, done, negative⟩
  · intro call member create stage
    have clean := clean call member
    simp only [SyncCall.Clean, stage] at clean
    exact clean.2 create trivial

/-- A step in which nothing fails. -/
def succeeds (handle : U32) : SyncChoice :=
  ⟨none, some handle, fun _ => true, 0, false⟩

/-- A file creates a sync object, waits for it and destroys its handle while it waits. -/
def waitActions : List SyncAction :=
  [.enter 0 (.create 1) 0, .advance 0 (succeeds 1), .advance 0 (succeeds 1),
    .advance 0 (succeeds 1), .advance 0 (succeeds 1), .advance 0 (succeeds 1),
    .enter 0 (.wait 1 [1]) 0, .advance 1 (succeeds 1), .advance 1 (succeeds 1),
    .enter 0 (.destroy 1 0) 0, .advance 2 (succeeds 1), .advance 2 (succeeds 1)]

theorem waitActions_sound
    : ∃ state, System.replay next start waitActions = some state ∧ state.Sound := by
  have ends : (System.replay next start waitActions).isSome := by rfl
  obtain ⟨state, replayed⟩ := Option.isSome_iff_exists.mp ends
  refine ⟨state, replayed, requests_sound state ?_⟩
  exact .replay waitActions rfl (by decide) replayed

/-- A status request for a handle that nobody created. -/
def statusActions : List SyncAction :=
  [.enter 0 (.getStatus 5) 0, .advance 0 (succeeds 1), .advance 0 (succeeds 1)]

/-- A create request without memory. -/
def createActions : List SyncAction :=
  [.enter 0 (.create 0) 0, .advance 0 { succeeds 1 with failure := some .noMemory }]

/-- A status request reads through `NULL`, and a create request returns 0 without a handle. -/
theorem requests_not_sound
    : (∃ state, system.Reachable state ∧ ∃ call ∈ state.calls, call.stage = .faulted)
      ∧ ∃ state, system.Reachable state ∧ ∃ call ∈ state.calls,
        call.request.isCreate = true ∧ call.stage = .done 0 ∧ call.output = 0
          ∧ state.handles = [] := by
  have status : ∃ state ∈ System.replay next start statusActions,
      ∃ call ∈ state.calls, call.stage = .faulted := by decide
  have create : ∃ state ∈ System.replay next start createActions,
      ∃ call ∈ state.calls, call.request.isCreate = true ∧ call.stage = .done 0
        ∧ call.output = 0 ∧ state.handles = [] := by decide
  obtain ⟨missing, replayed, faulted⟩ := status
  obtain ⟨failed, replayed', reported⟩ := create
  exact ⟨⟨missing, .replay statusActions rfl replayed, faulted⟩,
    failed, .replay createActions rfl replayed', reported⟩

end SyncState

end Cx4Kernel.Linux
