import Mathlib.Logic.Relation

/-! Labelled transition systems, runs restricted to permitted steps, and the rules that
carry a property of one step to a whole run. Executable systems replay action lists.
-/

namespace Cx4Kernel.Foundation

/-- A transition system: its initial states and what one action may do to a state. -/
structure System (State Action : Type*) where
  initial : State → Prop
  step : State → Action → State → Prop

namespace System

variable {State Action : Type*} (system : System State Action)

/-- One step whose action `allowed` permits in the state it starts from. -/
def StepUnder (allowed : State → Action → Prop) (before after : State) : Prop :=
  ∃ action, allowed before action ∧ system.step before action after

/-- Any number of steps, every one of them permitted by `allowed`. -/
def RunUnder (allowed : State → Action → Prop) : State → State → Prop :=
  Relation.ReflTransGen (system.StepUnder allowed)

/-- States some permitted run reaches from an initial state. -/
def ReachableUnder (allowed : State → Action → Prop) (state : State) : Prop :=
  ∃ first, system.initial first ∧ system.RunUnder allowed first state

/-- States some run reaches from an initial state, with every step permitted. -/
def Reachable (state : State) : Prop :=
  system.ReachableUnder (fun _ _ => True) state

variable {system} {allowed : State → Action → Prop}

/-- An initial state is reachable by the empty run. -/
theorem ReachableUnder.start {state : State} (h : system.initial state)
    : system.ReachableUnder allowed state :=
  ⟨state, h, .refl⟩

/-- A permitted step extends a permitted run. -/
theorem ReachableUnder.next {before after : State} {action : Action}
    (reached : system.ReachableUnder allowed before) (permitted : allowed before action)
    (taken : system.step before action after)
    : system.ReachableUnder allowed after := by
  obtain ⟨first, begins, run⟩ := reached
  exact ⟨first, begins, run.tail ⟨action, permitted, taken⟩⟩

/-- Permitted runs are runs, by forgetting the permissions step by step. -/
theorem ReachableUnder.reachable {state : State}
    (reached : system.ReachableUnder allowed state)
    : system.Reachable state := by
  obtain ⟨first, begins, run⟩ := reached
  have forget : ∀ before after, system.StepUnder allowed before after
      → system.StepUnder (fun _ _ => True) before after := by
    intro before after h
    obtain ⟨action, _, taken⟩ := h
    exact ⟨action, trivial, taken⟩
  exact ⟨first, begins, Relation.ReflTransGen.mono forget _ _ run⟩

-----------------------------------------------------------------------------------------
-- From one step to a whole run
-----------------------------------------------------------------------------------------

/-- A property that permitted steps preserve holds at the end of every permitted run
that starts with it, by induction on the run.
-/
theorem RunUnder.invariant {property : State → Prop}
    (preserved : ∀ before action after, property before → allowed before action
      → system.step before action after → property after)
    {first last : State} (run : system.RunUnder allowed first last) (h : property first)
    : property last := by
  induction run with
  | refl => exact h
  | tail _ taken ih =>
      obtain ⟨action, permitted, moved⟩ := taken
      exact preserved _ action _ ih permitted moved

/-- The invariant rule: true initially and preserved by permitted steps, hence true in
every state that permitted steps reach.
-/
theorem ReachableUnder.invariant {property : State → Prop}
    (initially : ∀ state, system.initial state → property state)
    (preserved : ∀ before action after, property before → allowed before action
      → system.step before action after → property after)
    {state : State} (reached : system.ReachableUnder allowed state)
    : property state := by
  obtain ⟨first, begins, run⟩ := reached
  exact run.invariant preserved (initially first begins)

/-- The invariant rule without a restriction on the steps. -/
theorem Reachable.invariant {property : State → Prop}
    (initially : ∀ state, system.initial state → property state)
    (preserved : ∀ before action after, property before
      → system.step before action after → property after)
    {state : State} (reached : system.Reachable state)
    : property state :=
  ReachableUnder.invariant initially
    (fun before action after h _ taken => preserved before action after h taken) reached

/-- A relation that is reflexive, transitive and respected by every permitted step from
an invariant state relates the ends of every permitted run, by induction on the run.
-/
theorem RunUnder.related {property : State → Prop} (relation : State → State → Prop)
    (reflexive : ∀ state, relation state state)
    (transitive : ∀ {a b c}, relation a b → relation b c → relation a c)
    (preserved : ∀ before action after, property before → allowed before action
      → system.step before action after → property after)
    (respected : ∀ before action after, property before → allowed before action
      → system.step before action after → relation before after)
    {first last : State} (run : system.RunUnder allowed first last) (h : property first)
    : relation first last := by
  induction run with
  | refl => exact reflexive _
  | tail earlier taken ih =>
      obtain ⟨action, permitted, moved⟩ := taken
      have held := RunUnder.invariant preserved earlier h
      exact transitive ih (respected _ action _ held permitted moved)

/-- Every reachable state of a system simulated by another one is matched there, by
replaying the run with the abstract steps.
-/
theorem ReachableUnder.simulated {Abstract Label : Type*} {spec : System Abstract Label}
    {refines : State → Abstract → Prop}
    (initially : ∀ state, system.initial state
      → ∃ abstract, spec.initial abstract ∧ refines state abstract)
    (matched : ∀ before action after abstract, refines before abstract
      → allowed before action → system.step before action after
      → ∃ next, spec.RunUnder (fun _ _ => True) abstract next ∧ refines after next)
    {state : State} (reached : system.ReachableUnder allowed state)
    : ∃ abstract, spec.Reachable abstract ∧ refines state abstract := by
  apply reached.invariant
  · intro state begins
    obtain ⟨abstract, start, related⟩ := initially state begins
    exact ⟨abstract, .start start, related⟩
  · intro before action after held permitted taken
    obtain ⟨abstract, ⟨first, start, run⟩, related⟩ := held
    obtain ⟨next, more, related'⟩ :=
      matched before action after abstract related permitted taken
    exact ⟨next, ⟨first, start, run.trans more⟩, related'⟩

-----------------------------------------------------------------------------------------
-- Systems given by a step function
-----------------------------------------------------------------------------------------

/-- The system of a partial step function that starts in the states of `initial`. -/
def ofFunction (initial : State → Prop) (next : State → Action → Option State)
    : System State Action where
  initial := initial
  step before action after := next before action = some after

/-- Replay a list of actions; `none` once an action is not enabled. -/
def replay (next : State → Action → Option State) : State → List Action → Option State
  | state, [] => some state
  | state, action :: rest => (next state action).bind (replay next · rest)

/-- Each action of the list is permitted in the state the replay takes it from. -/
def Permits (allowed : State → Action → Prop) (next : State → Action → Option State)
    : State → List Action → Prop
  | _, [] => True
  | state, action :: rest =>
      allowed state action ∧ ∀ after ∈ next state action, Permits allowed next after rest

instance Permits.decidable [∀ state action, Decidable (allowed state action)]
    (next : State → Action → Option State)
    : ∀ state actions, Decidable (Permits allowed next state actions)
  | _, [] => .isTrue trivial
  | state, action :: rest =>
      match h : next state action with
      | none =>
          decidable_of_iff (allowed state action) (by simp [Permits, h])
      | some after =>
          have := Permits.decidable next after rest
          decidable_of_iff (allowed state action ∧ Permits allowed next after rest)
            (by simp [Permits, h])

/-- A successful replay of permitted actions is a permitted run, by list induction. -/
theorem RunUnder.replay {initial : State → Prop} {next : State → Action → Option State}
    (actions : List Action) {first last : State}
    (permitted : Permits allowed next first actions)
    (ends : System.replay next first actions = some last)
    : (ofFunction initial next).RunUnder allowed first last := by
  induction actions generalizing first with
  | nil => exact Option.some.inj ends ▸ .refl
  | cons action rest ih =>
      obtain ⟨here, later⟩ := permitted
      obtain ⟨middle, taken, remaining⟩ := Option.bind_eq_some_iff.mp ends
      exact .head ⟨action, here, taken⟩ (ih (later middle taken) remaining)

/-- A successful replay of permitted actions from an initial state ends in a state that
permitted steps reach.
-/
theorem ReachableUnder.replay {initial : State → Prop}
    {next : State → Action → Option State} (actions : List Action) {first last : State}
    (begins : initial first) (permitted : Permits allowed next first actions)
    (ends : System.replay next first actions = some last)
    : (ofFunction initial next).ReachableUnder allowed last :=
  ⟨first, begins, .replay actions permitted ends⟩

/-- A successful replay from an initial state reaches its last state. -/
theorem Reachable.replay {initial : State → Prop} {next : State → Action → Option State}
    (actions : List Action) {first last : State} (begins : initial first)
    (ends : System.replay next first actions = some last)
    : (ofFunction initial next).Reachable last := by
  refine ReachableUnder.replay actions begins ?_ ends
  clear ends begins
  induction actions generalizing first with
  | nil => trivial
  | cons action rest ih => exact ⟨trivial, fun _ _ => ih⟩

end System

end Cx4Kernel.Foundation
