import PigweedExperimental.Foundation.Execution
import Mathlib.Data.List.Basic

namespace PigweedExperimental

/-! # Dispatchers

A dispatcher holds the tasks that were posted and runs any one of them next; a
task that is posted while one runs is added to the others. This file names
nothing of a particular program: it provides runs from outside calls and tasks,
and what holds once nothing is posted any more, whatever the order.
-/

/-- What the tasks work on, and the tasks that are posted. -/
structure Dispatched (State : Type u) (Task : Type v) where
  state : State
  posted : List Task

/-- A call from outside, or the run of a posted task. -/
inductive Work (Call : Type u) (Task : Type v) where
  | call (call : Call)
  | run (task : Task)

/-- The calls among what was done. -/
def Work.calls {Call : Type u} {Task : Type v} (work : List (Work Call Task)) : List Call :=
  work.filterMap fun
    | .call asked => some asked
    | .run _ => none

/-- What calls and tasks do to the state, and what they post; `none` is one that
goes wrong. -/
structure Workload (State : Type u) (Call : Type v) (Task : Type w) where
  call : Call → State → Option (State × List Task)
  run : Task → State → Option (State × List Task)

namespace Workload

variable {State : Type u} {Call : Type v} {Task : Type w} [DecidableEq Task]

def post (workload : Workload State Call Task) (call : Call)
    (dispatched : Dispatched State Task) : Option (Dispatched State Task) :=
  (workload.call call dispatched.state).map fun (state, posted) =>
    { state, posted := dispatched.posted ++ posted }

/-- The task is no longer posted when it starts to run. -/
def runTask (workload : Workload State Call Task) (task : Task)
    (dispatched : Dispatched State Task) : Option (Dispatched State Task) :=
  (workload.run task dispatched.state).map fun (state, posted) =>
    { state, posted := dispatched.posted.erase task ++ posted }

def machine (workload : Workload State Call Task) :
    Machine (Dispatched State Task) (Work Call Task) where
  Enabled
    | _, .call _ => True
    | dispatched, .run task => task ∈ dispatched.posted
  step
    | dispatched, .call call => workload.post call dispatched
    | dispatched, .run task => workload.runTask task dispatched

/-- A quantity that calls raise by one and tasks leave alone counts the calls. -/
theorem size_run {workload : Workload State Call Task} {first last : Dispatched State Task}
    (size : State → Nat)
    (call : ∀ call state next posted, workload.call call state = some (next, posted) →
      size next = size state + 1)
    (task : ∀ task state next posted, workload.run task state = some (next, posted) →
      size next = size state)
    {work : List (Work Call Task)} (run : workload.machine.Run first work last) :
    size last.state = size first.state + (Work.calls work).length := by
  induction run with
  | nil => rfl
  | @cons _ _ _ event events _ step _ induction =>
      rw [induction]
      cases event with
      | call calling =>
          rcases Option.map_eq_some_iff.mp step with ⟨⟨state, posted⟩, called, rfl⟩
          rw [call calling _ _ _ called]
          simp [Work.calls]
          omega
      | run running =>
          rcases Option.map_eq_some_iff.mp step with ⟨⟨state, posted⟩, ran, rfl⟩
          rw [task running _ _ _ ran]
          simp [Work.calls]

/-- In whatever order the tasks run, no task goes wrong, the dispatcher becomes
idle, and the goal holds then. -/
inductive Settles (workload : Workload State Call Task) (goal : State → Prop) :
    Dispatched State Task → Prop
  | idle {dispatched} : dispatched.posted = [] → goal dispatched.state →
      Settles workload goal dispatched
  | busy {dispatched} : dispatched.posted ≠ [] →
      (∀ task ∈ dispatched.posted, (workload.runTask task dispatched).isSome = true) →
      (∀ task ∈ dispatched.posted, ∀ next, workload.runTask task dispatched = some next →
        Settles workload goal next) →
      Settles workload goal dispatched

variable {workload : Workload State Call Task} {goal : State → Prop}
  {dispatched next : Dispatched State Task} {task : Task}

/-- A single task leaves only what it posts. -/
theorem runTask_single {state : State} {posted : List Task} (single : dispatched.posted = [task])
    (did : workload.run task dispatched.state = some (state, posted)) :
    workload.runTask task dispatched = some { state, posted } := by
  rw [runTask, did, Option.map_some, single]
  simp

theorem Settles.after (settles : workload.Settles goal dispatched)
    (isPosted : task ∈ dispatched.posted)
    (ran : workload.runTask task dispatched = some next) : workload.Settles goal next := by
  cases settles with
  | idle empty _ =>
      rw [empty] at isPosted
      cases isPosted
  | busy _ _ tasks => exact tasks task isPosted next ran

theorem Settles.atIdle (settles : workload.Settles goal dispatched)
    (idle : dispatched.posted = []) : goal dispatched.state := by
  cases settles with
  | idle _ reached => exact reached
  | busy posted _ _ => exact absurd idle posted

/-- A single task is all there is to run. -/
theorem settles_single_iff {state next : State} {posted : List Task}
    (did : workload.run task state = some (next, posted)) :
    workload.Settles goal { state, posted := [task] } ↔
      workload.Settles goal { state := next, posted } := by
  have ran : workload.runTask task { state, posted := [task] } = some { state := next, posted } :=
    runTask_single rfl did
  constructor
  · intro settles
    exact settles.after (List.mem_singleton_self task) ran
  · intro settles
    apply Settles.busy (List.cons_ne_nil _ _)
    · intro other isPosted
      rw [List.mem_singleton.mp isPosted, ran]
      rfl
    · intro other isPosted after ranTo
      rw [List.mem_singleton.mp isPosted, ran] at ranTo
      cases ranTo
      exact settles

end Workload

end PigweedExperimental
