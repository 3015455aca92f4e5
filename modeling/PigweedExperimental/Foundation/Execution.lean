import Mathlib.Data.List.Basic

namespace PigweedExperimental

/-! # Executions of event-driven programs

A program that is called from outside is described by what its environment may
ask of it and by what it then does. This file names nothing of a particular
program: it provides runs, the invariant rule, and the rule that ties a
property of every visited state to a condition on every step.
-/

/-- `Enabled` says which events the environment may offer in a state; `step`
is the program's reaction, with `none` for a failed assertion. -/
structure Machine (State : Type u) (Event : Type v) where
  Enabled : State → Event → Prop
  step : State → Event → Option State

namespace Machine

/-- A finite execution, with the events it consumed in order. -/
inductive Run (machine : Machine State Event) :
    State → List Event → State → Prop
  | nil (state) : Run machine state [] state
  | cons {first middle last event events} :
      machine.Enabled first event →
      machine.step first event = some middle →
      Run machine middle events last →
      Run machine first (event :: events) last

/-- The property holds in every state the events lead through. -/
def Throughout (machine : Machine State Event) (property : State → Prop) :
    State → List Event → Prop
  | state, [] => property state
  | state, event :: events =>
      property state ∧ ∀ next, machine.step state event = some next →
        machine.Throughout property next events

/-- Every event meets the condition in the state it is offered in. -/
def EveryStep (machine : Machine State Event)
    (condition : State → Event → Prop) : State → List Event → Prop
  | _, [] => True
  | state, event :: events =>
      condition state event ∧ ∀ next, machine.step state event = some next →
        machine.EveryStep condition next events

/-- Offer the events one after another, as far as they are enabled. -/
def execute (machine : Machine State Event)
    [∀ state event, Decidable (machine.Enabled state event)] :
    State → List Event → Option State
  | state, [] => some state
  | state, event :: events =>
      if machine.Enabled state event then
        (machine.step state event).bind (machine.execute · events)
      else
        none

theorem Throughout.initially {machine : Machine State Event}
    {property : State → Prop} {state : State} {events : List Event}
    (throughout : machine.Throughout property state events) : property state := by
  cases events with
  | nil => exact throughout
  | cons => exact throughout.1

theorem EveryStep.cons {machine : Machine State Event} {condition : State → Event → Prop}
    {state next : State} {event : Event} {events : List Event}
    (atStep : condition state event) (step : machine.step state event = some next)
    (later : machine.EveryStep condition next events) :
    machine.EveryStep condition state (event :: events) := by
  refine ⟨atStep, ?_⟩
  intro other stepOther
  cases step.symm.trans stepOther
  exact later

namespace Run

variable {machine : Machine State Event} {first middle last : State}

theorem append (left : machine.Run first events middle)
    (right : machine.Run middle later last) :
    machine.Run first (events ++ later) last := by
  induction left with
  | nil => exact right
  | cons enabled step _ induction =>
      exact .cons enabled step (induction right)

theorem single (enabled : machine.Enabled first event)
    (step : machine.step first event = some last) :
    machine.Run first [event] last :=
  .cons enabled step (.nil last)

theorem of_execute [∀ state event, Decidable (machine.Enabled state event)]
    (executed : machine.execute first events = some last) :
    machine.Run first events last := by
  induction events generalizing first with
  | nil =>
      cases executed
      exact .nil _
  | cons event events induction =>
      rw [execute] at executed
      split at executed
      · rename_i enabled
        rcases Option.bind_eq_some_iff.mp executed with ⟨middle, step, rest⟩
        exact .cons enabled step (induction rest)
      · cases executed

/-- The steps after a run are those from the state it ends in. -/
theorem everyStep_append {condition : State → Event → Prop}
    (run : machine.Run first events middle) (later : List Event) :
    machine.EveryStep condition first (events ++ later) ↔
      machine.EveryStep condition first events ∧ machine.EveryStep condition middle later := by
  induction run with
  | nil => exact ⟨fun everyStep => ⟨trivial, everyStep⟩, And.right⟩
  | cons enabled step _ induction =>
      constructor
      · intro everyStep
        have parts := induction.mp (everyStep.2 _ step)
        exact ⟨.cons everyStep.1 step parts.1, parts.2⟩
      · intro parts
        exact .cons parts.1.1 step (induction.mpr ⟨parts.1.2 _ step, parts.2⟩)

/-- A condition on the events alone is one on each of them. -/
theorem everyStep_iff_forall {condition : Event → Prop}
    (run : machine.Run first events last) :
    machine.EveryStep (fun _ event => condition event) first events ↔
      ∀ event ∈ events, condition event := by
  induction run with
  | nil => exact iff_of_true trivial nofun
  | cons enabled step _ induction =>
      rw [List.forall_mem_cons, ← induction]
      constructor
      · intro everyStep
        exact ⟨everyStep.1, everyStep.2 _ step⟩
      · intro both
        exact .cons both.1 step both.2

/-- A property that every enabled step preserves survives every run. -/
theorem invariant (property : State → Prop)
    (preserved : ∀ state event next, property state →
      machine.Enabled state event → machine.step state event = some next →
      property next)
    (run : machine.Run first events last) (initially : property first) :
    property last := by
  induction run with
  | nil => exact initially
  | cons enabled step _ induction =>
      exact induction (preserved _ _ _ initially enabled step)

/-- The invariant rule from the progress of every step: no step fails, and it
leads to the property again. -/
theorem invariant_of_progress (property : State → Prop)
    (progress : ∀ state event, property state → machine.Enabled state event →
      ∃ next, machine.step state event = some next ∧ property next)
    (run : machine.Run first events last) (initially : property first) :
    property last := by
  apply run.invariant property _ initially
  intro state event next holds enabled step
  rcases progress state event holds enabled with ⟨after, stepAfter, afterHolds⟩
  cases step.symm.trans stepAfter
  exact afterHolds

/-- The invariant rule for runs in which only some events occur. -/
theorem invariant_of_events (property : State → Prop) (allowed : Event → Prop)
    (preserved : ∀ state event next, property state → allowed event →
      machine.Enabled state event → machine.step state event = some next →
      property next)
    (run : machine.Run first events last) (onlyAllowed : ∀ event ∈ events, allowed event)
    (initially : property first) : property last := by
  induction run with
  | nil => exact initially
  | cons enabled step _ induction =>
      apply induction
      · intro event isLater
        exact onlyAllowed event (List.mem_cons_of_mem _ isLater)
      · exact preserved _ _ _ initially (onlyAllowed _ List.mem_cons_self) enabled step

/-- A relation to an abstract state that every step keeps, while the abstract
state takes its own step, relates both ends of a run. -/
theorem refines {Abstract : Type w} (related : State → Abstract → Prop)
    (abstractStep : Abstract → Event → Abstract)
    (progress : ∀ state abstract event, related state abstract →
      machine.Enabled state event →
      ∃ next, machine.step state event = some next ∧
        related next (abstractStep abstract event))
    (run : machine.Run first events last) {abstract : Abstract}
    (initially : related first abstract) :
    related last (events.foldl abstractStep abstract) := by
  induction run generalizing abstract with
  | nil => exact initially
  | cons enabled step _ induction =>
      rcases progress _ _ _ initially enabled with ⟨next, stepNext, nextRelated⟩
      cases step.symm.trans stepNext
      exact induction nextRelated

/-- A machine whose every step another one matches, in as many steps as it needs. -/
theorem simulates {Abstract : Type w} {Deed : Type z} {abstractMachine : Machine Abstract Deed}
    (related : State → Abstract → Prop)
    (simulated : ∀ state abstract event next, related state abstract →
      machine.Enabled state event → machine.step state event = some next →
      ∃ deeds after, abstractMachine.Run abstract deeds after ∧ related next after)
    (run : machine.Run first events last) {abstract : Abstract}
    (initially : related first abstract) :
    ∃ deeds after, abstractMachine.Run abstract deeds after ∧ related last after := by
  induction run generalizing abstract with
  | nil => exact ⟨[], abstract, .nil abstract, initially⟩
  | cons enabled step _ induction =>
      rcases simulated _ _ _ _ initially enabled step with ⟨deeds, middle, matched, isRelated⟩
      rcases induction isRelated with ⟨later, after, rest, finallyRelated⟩
      exact ⟨deeds ++ later, after, matched.append rest, finallyRelated⟩

/-- Events that the environment may offer whenever the relation holds, and that
never fail, make up a run. -/
theorem exists_of_progress {Abstract : Type w} (related : State → Abstract → Prop)
    (abstractStep : Abstract → Event → Abstract) (allowed : Event → Prop)
    (progress : ∀ state abstract event, related state abstract → allowed event →
      machine.Enabled state event ∧ ∃ next, machine.step state event = some next ∧
        related next (abstractStep abstract event))
    {abstract : Abstract} (initially : related first abstract)
    (allAllowed : ∀ event ∈ events, allowed event) :
    ∃ last, machine.Run first events last ∧
      related last (events.foldl abstractStep abstract) := by
  induction events generalizing first abstract with
  | nil => exact ⟨first, .nil first, initially⟩
  | cons event events induction =>
      rw [List.forall_mem_cons] at allAllowed
      rcases progress first abstract event initially allAllowed.1 with
        ⟨enabled, next, step, nextRelated⟩
      rcases induction nextRelated allAllowed.2 with ⟨last, run, lastRelated⟩
      exact ⟨last, .cons enabled step run, lastRelated⟩

/-- An invariant that the steps under a condition preserve holds throughout
every run that meets the condition. -/
theorem throughout_of_everyStep (invariant : State → Prop)
    {property : State → Prop} {condition : State → Event → Prop}
    (preserved : ∀ state event next, invariant state → condition state event →
      machine.Enabled state event → machine.step state event = some next →
      invariant next)
    (entails : ∀ state, invariant state → property state)
    (run : machine.Run first events last) (initially : invariant first)
    (everyStep : machine.EveryStep condition first events) :
    machine.Throughout property first events := by
  induction run with
  | nil => exact entails _ initially
  | cons enabled step _ induction =>
      refine ⟨entails _ initially, fun next stepNext => ?_⟩
      cases step.symm.trans stepNext
      exact induction
        (preserved _ _ _ initially everyStep.1 enabled step) (everyStep.2 _ step)

/-- What holds throughout holds at the end. -/
theorem finally_of_throughout {property : State → Prop}
    (run : machine.Run first events last)
    (throughout : machine.Throughout property first events) : property last := by
  induction run with
  | nil => exact throughout
  | cons _ step _ induction => exact induction (throughout.2 _ step)

/-- Along a run, one condition on the steps entails another. -/
theorem everyStep_of_everyStep (property : State → Prop)
    {given wanted : State → Event → Prop}
    (preserved : ∀ state event next, property state → given state event →
      machine.Enabled state event → machine.step state event = some next →
      property next)
    (entails : ∀ state event, property state → given state event →
      machine.Enabled state event → wanted state event)
    (run : machine.Run first events last) (initially : property first)
    (everyStep : machine.EveryStep given first events) :
    machine.EveryStep wanted first events := by
  induction run with
  | nil => trivial
  | cons enabled step _ induction =>
      refine ⟨entails _ _ initially everyStep.1 enabled, fun next stepNext => ?_⟩
      cases step.symm.trans stepNext
      exact induction
        (preserved _ _ _ initially everyStep.1 enabled step)
        (everyStep.2 _ step)

/-- A condition that is both sufficient and necessary for one step to keep a
property is so for a whole run. The auxiliary invariant carries what the step
lemmas need besides the property itself; it only has to survive the steps that
meet the condition. -/
theorem throughout_iff_everyStep (auxiliary : State → Prop)
    {property : State → Prop} {condition : State → Event → Prop}
    (preserved : ∀ state event next, auxiliary state → property state →
      condition state event → machine.Enabled state event →
      machine.step state event = some next → auxiliary next)
    (exactStep : ∀ state event next, auxiliary state → property state →
      machine.Enabled state event → machine.step state event = some next →
      (property next ↔ condition state event))
    (run : machine.Run first events last)
    (initialAuxiliary : auxiliary first) (initially : property first) :
    machine.Throughout property first events ↔
      machine.EveryStep condition first events := by
  induction run with
  | nil => exact ⟨fun _ => trivial, fun _ => initially⟩
  | @cons state middle last event events enabled step rest induction =>
      have atStep := exactStep _ _ _ initialAuxiliary initially enabled step
      have tail (atCondition : condition state event) := induction
        (preserved _ _ _ initialAuxiliary initially atCondition enabled step)
        (atStep.mpr atCondition)
      constructor
      · intro throughout
        have later := throughout.2 _ step
        have atCondition := atStep.mp later.initially
        refine ⟨atCondition, fun next stepNext => ?_⟩
        cases step.symm.trans stepNext
        exact (tail atCondition).mp later
      · intro everyStep
        refine ⟨initially, fun next stepNext => ?_⟩
        cases step.symm.trans stepNext
        exact (tail everyStep.1).mpr (everyStep.2 _ step)

end Run

end Machine

end PigweedExperimental
