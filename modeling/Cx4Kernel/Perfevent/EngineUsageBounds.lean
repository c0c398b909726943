import Cx4Kernel.Perfevent.EngineUsage

/-! Idle time is counted once and stays within the time since the window started. The usage is
a percentage of it as long as the divisor of a sample fits in the 32 bits that the kernel's
division takes.
-/

namespace Cx4Kernel.Perfevent

open Foundation

/-- A subtraction of a number that is not greater. -/
theorem subtract_eq {a b : U64} (le : b ≤ a) : subtract a b = some (a - b) :=
  if_pos le

namespace HwqEventInfo

/-- The time up to which idle time may have been counted: for an idle engine up to where its
next interval starts.
-/
def reach (info : HwqEventInfo) (startTime now : U64) : Nat :=
  if info.status = .idle then max info.lastBusy2IdleTime.toNat startTime.toNat else now.toNat

/-- The idle time of an engine lies in the window, its intervals lie one after the other, and
its usage is a percentage.
-/
structure Accounted (info : HwqEventInfo) (startTime now : U64) : Prop where
  last_le : info.lastBusy2IdleTime ≤ now
  idle : info.idleTime.toNat + startTime.toNat ≤ info.reach startTime now
  ends : ∀ interval ∈ info.added, interval.2.toNat ≤ info.reach startTime now
  once : info.added.Pairwise fun one other => one.2 ≤ other.1
  usage : info.engineUsage ≤ 100

variable {info after : HwqEventInfo} {startTime now time : U64}

/-- Idle time is counted up to now at most. -/
theorem Accounted.reach_le (accounted : info.Accounted startTime now) (started : startTime ≤ now)
    : info.reach startTime now ≤ now.toNat := by
  unfold reach
  split
  next => exact Nat.max_le.mpr ⟨accounted.last_le, started⟩
  next => exact Nat.le_refl _

/-- Time goes on. -/
theorem Accounted.later (accounted : info.Accounted startTime now) (later : now ≤ time)
    : info.Accounted startTime time := by
  have reach : info.reach startTime now ≤ info.reach startTime time := by
    unfold HwqEventInfo.reach
    split
    next => exact Nat.le_refl _
    next => exact later
  exact ⟨BitVec.le_trans accounted.last_le later, Nat.le_trans accounted.idle reach,
    fun interval member => Nat.le_trans (accounted.ends interval member) reach,
    accounted.once, accounted.usage⟩

/-- The idle time that is added starts where the last one may have ended. -/
theorem toNat_sIdleTime (idle : info.status = .idle)
    : (info.sIdleTime startTime).toNat = info.reach startTime now := by
  rw [sIdleTime, reach, if_pos idle]
  split
  next before => exact (Nat.max_eq_right (Nat.le_of_lt before)).symm
  next notBefore => exact (Nat.max_eq_left (Nat.le_of_not_lt notBefore)).symm

/-- What an engine has after its idle time up to now was added. -/
structure AddedUpTo (info after : HwqEventInfo) (startTime time : U64) : Prop where
  idle : after.idleTime.toNat + startTime.toNat ≤ time.toNat
  ends : ∀ interval ∈ after.added, interval.2.toNat ≤ time.toNat
  once : after.added.Pairwise fun one other => one.2 ≤ other.1
  last : after.lastBusy2IdleTime = info.lastBusy2IdleTime
  usage : after.engineUsage = info.engineUsage

/-- An engine to which nothing is added has no more idle time than before. -/
theorem Accounted.upTo (accounted : info.Accounted startTime now) (started : startTime ≤ now)
    (later : now ≤ time)
    : info.AddedUpTo info startTime time := by
  have reach : info.reach startTime now ≤ time.toNat :=
    Nat.le_trans (accounted.reach_le started) later
  exact ⟨Nat.le_trans accounted.idle reach,
    fun interval member => Nat.le_trans (accounted.ends interval member) reach,
    accounted.once, rfl, rfl⟩

/-- Adding the idle time up to now counts nothing twice. -/
theorem Accounted.addIfIdle (accounted : info.Accounted startTime now)
    (started : startTime ≤ now) (later : now ≤ time)
    : ∃ after, info.addIfIdle startTime time = some after
      ∧ info.AddedUpTo after startTime time := by
  have reach : info.reach startTime now ≤ time.toNat :=
    Nat.le_trans (accounted.reach_le started) later
  unfold HwqEventInfo.addIfIdle
  by_cases idle : info.status = .idle
  · have since := @toNat_sIdleTime _ startTime now idle
    have before : info.sIdleTime startTime ≤ time := by
      rw [BitVec.le_def, since]
      exact reach
    rw [if_pos idle, addIdle, subtract_eq before]
    refine ⟨_, rfl, ?_, ?_, ?_, rfl, rfl⟩
    · have counted := accounted.idle
      have small := time.isLt
      rw [BitVec.toNat_add, BitVec.toNat_sub_of_le before, since]
      rw [Nat.mod_eq_of_lt (by omega)]
      omega
    · intro interval member
      rcases List.mem_append.mp member with old | new
      · exact Nat.le_trans (accounted.ends interval old) reach
      · exact List.mem_singleton.mp new ▸ Nat.le_refl _
    · refine List.pairwise_append.mpr ⟨accounted.once, List.pairwise_singleton _ _, ?_⟩
      intro one old other new
      rw [List.mem_singleton.mp new, BitVec.le_def, since]
      exact accounted.ends one old
  · rw [if_neg idle]
    exact ⟨info, rfl, accounted.upTo started later⟩

/-- A submission makes the engine busy, and counts its idle time up to now. -/
theorem Accounted.processSubmit (accounted : info.Accounted startTime now)
    (started : startTime ≤ now) (later : now ≤ time) (fenceId : U32)
    : ∃ after, info.processSubmit startTime time fenceId = some after
      ∧ after.Accounted startTime time := by
  obtain ⟨added, counted, upTo⟩ := accounted.addIfIdle started later
  rw [HwqEventInfo.processSubmit, counted]
  refine ⟨_, rfl, ?_, upTo.idle, upTo.ends, upTo.once, ?_⟩
  · exact upTo.last ▸ BitVec.le_trans accounted.last_le later
  · exact upTo.usage ▸ accounted.usage

/-- A completion makes the engine idle from now on, or busy. -/
theorem Accounted.processComplete (accounted : info.Accounted startTime now)
    (started : startTime ≤ now) (later : now ≤ time) (fenceId : U32)
    : (info.processComplete time fenceId).Accounted startTime time := by
  have same := accounted.upTo started later
  unfold HwqEventInfo.processComplete
  split
  next =>
    have upTo : time.toNat ≤ max time.toNat startTime.toNat := Nat.le_max_left _ _
    exact ⟨BitVec.le_refl _, Nat.le_trans same.idle upTo,
      fun interval member => Nat.le_trans (same.ends interval member) upTo, same.once,
      accounted.usage⟩
  next =>
    exact ⟨BitVec.le_trans accounted.last_le later, same.idle, same.ends, same.once,
      accounted.usage⟩

/-- The percentage of a part of a window is one. -/
theorem percentage_le {part window : U64} (le : part ≤ window)
    : part * 100 / window ≤ 100 := by
  have le' : part.toNat ≤ window.toNat := le
  rw [BitVec.le_def, BitVec.toNat_udiv, BitVec.toNat_mul]
  apply Nat.div_le_of_le_mul
  refine Nat.le_trans (Nat.mod_le _ _) ?_
  exact Nat.mul_le_mul_right _ le'

/-- A window that starts now has no idle time yet. -/
theorem AddedUpTo.restart (upTo : info.AddedUpTo after startTime time)
    (last : info.lastBusy2IdleTime ≤ time) {usage : U64} (percentage : usage ≤ 100)
    (active : Bool)
    : { after with engineUsage := usage, idleTime := 0, active := active }.Accounted time
        time := by
  have reach : time.toNat ≤ HwqEventInfo.reach
      { after with engineUsage := usage, idleTime := 0, active := active } time time := by
    unfold HwqEventInfo.reach
    split
    next => exact Nat.le_max_right _ _
    next => exact Nat.le_refl _
  refine ⟨upTo.last ▸ last, ?_, ?_, upTo.once, percentage⟩
  · exact Nat.le_trans (Nat.le_of_eq (Nat.zero_add _)) reach
  · exact fun interval member => Nat.le_trans (upTo.ends interval member) reach

/-- A sample in a small window finds a percentage and starts the next window. -/
theorem Accounted.sample {doDiv : U64 → U64 → Option U64}
    (divides : ∀ number base : U64, 0 < base → base.toNat < 2 ^ 32
      → doDiv number base = some (number / base))
    (accounted : info.Accounted startTime now) (started : startTime ≤ now) (later : now ≤ time)
    (positive : startTime < time)
    (small : info.active = true → (time - startTime).toNat < 2 ^ 32)
    : ∃ after, info.sample doDiv startTime time = some after ∧ after.Accounted time time := by
  have last := BitVec.le_trans accounted.last_le later
  unfold HwqEventInfo.sample
  by_cases active : info.active = true
  · obtain ⟨added, counted, upTo⟩ := accounted.addIfIdle started later
    have before : startTime ≤ time := BitVec.le_of_lt positive
    have width : (time - startTime).toNat = time.toNat - startTime.toNat :=
      BitVec.toNat_sub_of_le before
    have part : added.idleTime ≤ time - startTime := by
      rw [BitVec.le_def, width]
      exact Nat.le_sub_of_add_le upTo.idle
    have wide : 0 < time - startTime := by
      rw [BitVec.lt_def, width]
      exact Nat.sub_pos_of_lt positive
    have percentage := percentage_le part
    rw [if_pos active, counted]
    refine ⟨{ added with
      engineUsage := 100 - added.idleTime * 100 / (time - startTime), idleTime := 0,
      active := false }, ?_, ?_⟩
    · simp only [Option.bind_eq_bind, Option.bind_some, subtract_eq before,
        divides _ _ wide (small active), subtract_eq percentage]
      rfl
    · refine upTo.restart last ?_ false
      rw [BitVec.le_def, BitVec.toNat_sub_of_le percentage]
      exact Nat.sub_le _ _
  · rw [if_neg active]
    refine ⟨_, rfl, (accounted.upTo started later).restart last ?_ info.active⟩
    split
    next => exact BitVec.le_refl _
    next => exact BitVec.le_def.mpr (Nat.zero_le _)

end HwqEventInfo

-----------------------------------------------------------------------------------------
-- Runs
-----------------------------------------------------------------------------------------

variable {doDiv : U64 → U64 → Option U64}

/-- A loop over engines that each sample succeeds for succeeds, and what holds of each engine
after its sample holds of all. By induction on the engines.
-/
theorem sampleEngines_all {property : HwqEventInfo → Prop} {startTime time : U64}
    {infos : List HwqEventInfo}
    (each : ∀ info ∈ infos, ∃ after, info.sample doDiv startTime time = some after
      ∧ property after)
    : ∃ afters, sampleEngines doDiv startTime time infos = some afters
      ∧ ∀ after ∈ afters, property after := by
  induction infos with
  | nil => exact ⟨[], rfl, fun _ member => absurd member List.not_mem_nil⟩
  | cons info rest ih =>
      obtain ⟨after, sampled, held⟩ := each info (.head _)
      obtain ⟨afters, others, all⟩ := ih fun other member => each other (.tail _ member)
      refine ⟨after :: afters, by rw [sampleEngines, sampled, others]; rfl, ?_⟩
      intro other member
      rcases List.mem_cons.mp member with rfl | later
      · exact held
      · exact all other later

namespace HwqState

variable {state : HwqState}

/-- A sample that finds an active engine is less than 2^32 ns after the start of its window. -/
def InTime (state : HwqState) : HwqCall → Prop
  | .submit _ _ _ | .complete _ _ _ => True
  | .vsync time =>
      state.hwqEventEnable = true → (∃ info ∈ state.hwqEvents, info.active = true)
        → (time - state.startTime).toNat < 2 ^ 32

instance (state : HwqState) : ∀ call, Decidable (state.InTime call)
  | .submit _ _ _ | .complete _ _ _ => .isTrue trivial
  | .vsync _ => inferInstanceAs (Decidable (_ → _ → _))

/-- All engines are accounted for in the window that has started. -/
structure Accounted (state : HwqState) : Prop where
  started : state.startTime ≤ state.now
  engines : ∀ info ∈ state.hwqEvents, info.Accounted state.startTime state.now

/-- One engine of accounted ones gives way to an accounted one at a later time. -/
theorem Accounted.set (accounted : state.Accounted) {time : U64} (later : state.now ≤ time)
    {info : HwqEventInfo} (new : info.Accounted state.startTime time) (engine : Nat)
    : { state with hwqEvents := state.hwqEvents.set engine info, now := time }.Accounted where
  started := BitVec.le_trans accounted.started later
  engines other member := by
    rcases List.mem_or_eq_of_mem_set member with old | rfl
    · exact (accounted.engines other old).later later
    · exact new

/-- Engines stay accounted for when nothing but time changes. -/
theorem Accounted.wait (accounted : state.Accounted) {time : U64} (later : state.now ≤ time)
    : { state with now := time }.Accounted where
  started := BitVec.le_trans accounted.started later
  engines info member := (accounted.engines info member).later later

theorem Accounted.submit (accounted : state.Accounted) {time : U64} {fenceId : U32}
    {engine : Nat} (later : state.now ≤ time) (known : engine < state.hwqEvents.length)
    : ∃ after, state.hwqProcessSubmitEvent time fenceId engine = some after
      ∧ { after with now := time }.Accounted := by
  unfold hwqProcessSubmitEvent
  by_cases off : (!state.hwqStarted) = true
  · exact ⟨state, if_pos off, accounted.wait later⟩
  · obtain ⟨after, submitted, new⟩ :=
      (accounted.engines _ (List.getElem_mem known)).processSubmit accounted.started later
        fenceId
    rw [if_neg off, List.getElem?_eq_getElem known]
    refine ⟨{ state with hwqEvents := state.hwqEvents.set engine after }, ?_,
      accounted.set later new engine⟩
    simp [submitted]

theorem Accounted.complete (accounted : state.Accounted) {time : U64} {fenceId : U32}
    {engine : Nat} (later : state.now ≤ time) (known : engine < state.hwqEvents.length)
    : ∃ after, state.hwqProcessCompleteEvent time fenceId engine = some after
      ∧ { after with now := time }.Accounted := by
  unfold hwqProcessCompleteEvent
  by_cases off : (!state.hwqStarted) = true
  · exact ⟨state, if_pos off, accounted.wait later⟩
  · have new := (accounted.engines _ (List.getElem_mem known)).processComplete
      accounted.started later fenceId
    rw [if_neg off, List.getElem?_eq_getElem known]
    exact ⟨_, rfl, accounted.set later new engine⟩

theorem Accounted.vsync
    (divides : ∀ number base : U64, 0 < base → base.toNat < 2 ^ 32
      → doDiv number base = some (number / base))
    (accounted : state.Accounted) {time : U64} (later : state.now ≤ time)
    (inTime : state.InTime (.vsync time))
    : ∃ after, state.hwqProcessVsyncEvent doDiv time = some after
      ∧ { after with now := time }.Accounted := by
  have before : state.startTime ≤ time := BitVec.le_trans accounted.started later
  unfold hwqProcessVsyncEvent
  by_cases off : (!state.hwqEventEnable || !state.hwqStarted) = true
  · exact ⟨state, if_pos off, accounted.wait later⟩
  · rw [if_neg off, subtract_eq before]
    by_cases early : time - state.startTime < 1000000000
    · exact ⟨state, if_pos early, accounted.wait later⟩
    · have enabled : state.hwqEventEnable = true := by
        cases enable : state.hwqEventEnable with
        | false => rw [enable] at off; exact absurd rfl off
        | true => rfl
      have positive : state.startTime < time := by
        apply BitVec.lt_of_le_ne before
        intro same
        rw [same, BitVec.sub_self] at early
        exact early (by decide)
      obtain ⟨afters, sampled, all⟩ := @sampleEngines_all doDiv (·.Accounted time time)
        state.startTime time state.hwqEvents fun info member =>
          (accounted.engines info member).sample divides accounted.started later positive
            fun active => inTime enabled ⟨info, member, active⟩
      refine ⟨{ state with
        hwqEvents := afters
        usage := perfCalculateEngineUsageE3k state.chipId afters
        startTime := time }, ?_, BitVec.le_refl _, all⟩
      simp only [Option.bind_eq_bind, Option.bind_some, if_neg early, sampled]
      rfl

/-- Calls that are in time return, and account for all engines. -/
theorem Accounted.call
    (divides : ∀ number base : U64, 0 < base → base.toNat < 2 ^ 32
      → doDiv number base = some (number / base))
    (accounted : state.Accounted) {call : HwqCall} (may : state.MayCall call)
    (inTime : state.InTime call)
    : ∃ after, state.call doDiv call = some after
      ∧ { after with now := call.time }.Accounted := by
  cases call with
  | submit time fenceId engine => exact accounted.submit may.1 may.2
  | complete time fenceId engine => exact accounted.complete may.1 may.2
  | vsync time => exact accounted.vsync divides may inTime

/-- When sampling starts nothing is idle. -/
theorem start_accounted (chipId : ChipId) (hwqEventEnable : Bool) (engines : Nat)
    (startTime : U64)
    : (start chipId hwqEventEnable engines startTime).Accounted where
  started := BitVec.le_refl _
  engines info member := by
    obtain rfl := List.eq_of_mem_replicate member
    refine ⟨BitVec.le_def.mpr (Nat.zero_le _), ?_, fun _ none => absurd none List.not_mem_nil,
      List.Pairwise.nil, by decide⟩
    exact Nat.le_of_eq (Nat.zero_add _)

/-- The promise about a state: the idle time of an engine is not more than the time since the
window started, no idle interval was added twice, the usage is between 0 and 100, and the
next call neither underflows nor divides by 0.
-/
structure Percent (doDiv : U64 → U64 → Option U64) (state : HwqState) : Prop where
  idle : ∀ info ∈ state.hwqEvents,
    info.idleTime.toNat ≤ state.now.toNat - state.startTime.toNat
  once : ∀ info ∈ state.hwqEvents, info.added.Pairwise fun one other => one.2 ≤ other.1
  usage : ∀ info ∈ state.hwqEvents, info.engineUsage ≤ 100
  returns : ∀ call, state.MayCall call → state.InTime call → (state.call doDiv call).isSome

/-- In every run whose samples are in time the engine usage is a percentage. -/
theorem usage_percent (doDiv : U64 → U64 → Option U64)
    (divides : ∀ number base : U64, 0 < base → base.toNat < 2 ^ 32
      → doDiv number base = some (number / base))
    (state : HwqState) (reached : (system doDiv).ReachableUnder InTime state)
    : state.Percent doDiv := by
  have accounted : state.Accounted := by
    apply reached.invariant
    · rintro _ ⟨chipId, hwqEventEnable, engines, startTime, rfl⟩
      exact start_accounted chipId hwqEventEnable engines startTime
    · intro before call after accounted inTime taken
      simp only [system, System.ofFunction, next] at taken
      split at taken
      next may =>
        obtain ⟨middle, returned, accountedAfter⟩ := accounted.call divides may inTime
        rw [returned] at taken
        obtain rfl := Option.some.inj taken
        exact accountedAfter
      next => cases taken
  refine ⟨?_, ?_, ?_, ?_⟩
  · intro info member
    have engine := accounted.engines info member
    exact Nat.le_sub_of_add_le
      (Nat.le_trans engine.idle (engine.reach_le accounted.started))
  · exact fun info member => (accounted.engines info member).once
  · exact fun info member => (accounted.engines info member).usage
  · intro call may inTime
    obtain ⟨after, returned, _⟩ := accounted.call divides may inTime
    rw [returned]
    rfl

/-- `do_div`, whose divisor is a `uint32_t`. -/
def doDiv32 (number base : U64) : Option U64 :=
  let base := (base.setWidth 32).setWidth 64
  if base = 0 then none else some (number / base)

theorem doDiv32_divides (number base : U64) (positive : 0 < base) (small : base.toNat < 2 ^ 32)
    : doDiv32 number base = some (number / base) := by
  have same : (base.setWidth 32).setWidth 64 = base := by
    apply BitVec.eq_of_toNat_eq
    rw [BitVec.toNat_setWidth, BitVec.toNat_setWidth, Nat.mod_eq_of_lt small,
      Nat.mod_eq_of_lt base.isLt]
  have nonzero : base ≠ 0 := by
    intro zero
    rw [zero] at positive
    exact absurd positive (BitVec.lt_irrefl _)
  unfold doDiv32
  dsimp only
  rw [same, if_neg nonzero]

/-- A task that runs for a quarter of a window of a second. -/
def quarterCalls : List HwqCall :=
  [.submit 500000000 1 0, .complete 750000000 1 0, .vsync 1000000000]

theorem quarter_percent
    : ∃ state, System.replay (next doDiv32) (start .chx004 true 1 0) quarterCalls = some state
      ∧ state.Percent doDiv32 := by
  have ends : (System.replay (next doDiv32) (start .chx004 true 1 0) quarterCalls).isSome := by
    rfl
  obtain ⟨state, replayed⟩ := Option.isSome_iff_exists.mp ends
  refine ⟨state, replayed, usage_percent doDiv32 doDiv32_divides state ?_⟩
  exact .replay quarterCalls ⟨.chx004, true, 1, 0, rfl⟩ (by decide) replayed

/-- An engine that completed a task, and is not sampled for more than 4 seconds. -/
def lateCalls : List HwqCall :=
  [.submit 0 1 0, .complete 0 1 0]

/-- A sample after 2^32 ns divides by 0, and one a second later finds less than 0 percent. -/
theorem late_not_percent
    : ∃ state, (system doDiv32).Reachable state
      ∧ state.MayCall (.vsync 4294967296)
      ∧ (state.call doDiv32 (.vsync 4294967296)).isNone
      ∧ state.MayCall (.vsync 5294967296)
      ∧ (state.call doDiv32 (.vsync 5294967296)).isNone := by
  have ends : ∃ state ∈ System.replay (next doDiv32) (start .chx004 true 1 0) lateCalls,
      state.MayCall (.vsync 4294967296) ∧ (state.call doDiv32 (.vsync 4294967296)).isNone
      ∧ state.MayCall (.vsync 5294967296)
      ∧ (state.call doDiv32 (.vsync 5294967296)).isNone := by
    decide
  obtain ⟨state, replayed, late⟩ := ends
  exact ⟨state, .replay lateCalls ⟨.chx004, true, 1, 0, rfl⟩ replayed, late⟩

end HwqState

end Cx4Kernel.Perfevent
