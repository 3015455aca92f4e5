import PigweedExperimental.AsyncBench.PollEcho

namespace PigweedExperimental.AsyncBench

/-! # No wake-up is lost

Every task is posted once, from the start of its request to its second poll, and
goes through three stages. A task that runs changes nothing of the others.
-/

section Futures

variable [Movable String]

/-- The first poll makes the remote call and wakes the task. -/
theorem ProxyEchoImpl.EchoFuture.poll_before {future : ProxyEchoImpl.EchoFuture}
    {before : ProxyEchoImpl.BeforeRemoteCall} (holds : future.state.Holds (.inl before))
    (waker : TaskId) :
    ∃ state, future.poll waker = some {
        future := { state }
        result := .pending
        posted := [waker]
        observed := [.remoteCall, .wake] } ∧
      state.Holds (.inr { remoteFuture := { isFirstTime := false } }) := by
  have moved : (future.state.write (.inl (Movable.movedFrom before))).Holds
      (.inl (Movable.movedFrom before)) := holds.write rfl
  have called := moved.assignPayload (.inr { remoteFuture := RemoteEcho.echo before.request })
  refine ⟨_, ?_, called.write rfl⟩
  have isA : future.state.isA = true := holds.isA
  have valueB := called.valueB
  rw [EchoFuture.poll, isA, if_pos rfl, holds.valueA]
  dsimp only [bind, Option.bind, Sum.getLeft?_inl, Bivariant.moveAssignB]
  rw [valueB]
  rfl

/-- The second poll returns the value of the remote future. -/
theorem ProxyEchoImpl.EchoFuture.poll_waiting {future : ProxyEchoImpl.EchoFuture}
    {remoteFuture : RemoteEcho.EchoFuture}
    (holds : future.state.Holds (.inr { remoteFuture }))
    (waits : remoteFuture.isFirstTime = false) (waker : TaskId) :
    ∃ next, future.poll waker = some {
      future := next
      result := .ready (.ok { value := remoteFuture.value })
      posted := []
      observed := [] } := by
  have isA : future.state.isA = false := holds.isA
  refine ⟨{ state := future.state.write (.inr {
    remoteFuture := { remoteFuture with value := Movable.movedFrom remoteFuture.value } }) }, ?_⟩
  rw [EchoFuture.poll, isA, if_neg Bool.false_ne_true]
  dsimp only [bind, Option.bind]
  rw [holds.valueB]
  dsimp only [Sum.getRight?_inr, RemoteEcho.EchoFuture.poll]
  rw [waits]
  rfl

end Futures

/-! ## The stages of a task -/

inductive Stage where
  | fresh
  | waiting
  | done
  deriving DecidableEq, Repr

namespace Stage

/-- What has happened to the task. -/
def history : Stage → List Observation
  | .fresh => []
  | .waiting => [.remoteCall, .wake, .pending]
  | .done => [.remoteCall, .wake, .pending, .ready, .resultWritten]

/-- How often the task is posted. -/
def posts : Stage → Nat
  | .fresh | .waiting => 1
  | .done => 0

/-- What the caller finds. -/
def result : Stage → Option EchoResult
  | .fresh | .waiting => none
  | .done => some (.ok { value := "" })

/-- What the future of the task holds. -/
def Future : Stage → ProxyEchoImpl.EchoFuture → Prop
  | .fresh, future => ∃ before, future.state.Holds (.inl before)
  | .waiting, future =>
      future.state.Holds (.inr { remoteFuture := { isFirstTime := false } })
  | .done, _ => True

end Stage

abbrev PollDispatched := Dispatched PollStack TaskId

namespace PollDispatched

variable {dispatched next : PollDispatched}

structure TaskAt (dispatched : PollDispatched) (task : TaskId) (stage : Stage) : Prop where
  data : ∃ data, dispatched.state.tasks[task]? = some data ∧ data.resultOut = task ∧
    stage.Future data.echoFuture
  count : dispatched.posted.count task = stage.posts
  result : dispatched.state.results[task]? = some stage.result
  history : dispatched.state.history task = stage.history

structure Coherent (dispatched : PollDispatched) : Prop where
  sameLength : dispatched.state.results.length = dispatched.state.tasks.length
  stages : ∀ task < dispatched.state.tasks.length, ∃ stage, dispatched.TaskAt task stage
  noOthers : ∀ task, dispatched.state.tasks.length ≤ task →
    dispatched.posted.count task = 0 ∧ dispatched.state.history task = []

/-- A task of which nothing has changed stays at its stage. -/
theorem TaskAt.unchanged {task : TaskId} {stage : Stage} (at_ : dispatched.TaskAt task stage)
    (tasks : next.state.tasks[task]? = dispatched.state.tasks[task]?)
    (count : next.posted.count task = dispatched.posted.count task)
    (results : next.state.results[task]? = dispatched.state.results[task]?)
    (history : next.state.history task = dispatched.state.history task) :
    next.TaskAt task stage where
  data := by
    rw [tasks]
    exact at_.data
  count := count.trans at_.count
  result := results.trans at_.result
  history := history.trans at_.history

theorem history_append (stack : PollStack) (tasks : List TaskData)
    (results : List (Option EchoResult)) (task other : TaskId) (observed : List Observation) :
    PollStack.history { stack with
        tasks, results, log := stack.log ++ observed.map (task, ·) } other =
      stack.history other ++ if other = task then observed else [] := by
  by_cases same : other = task
  · simp [PollStack.history, same, List.filter_map, Function.comp_def]
  · have different : ¬task = other := fun isTask => same isTask.symm
    simp [PollStack.history, same, different, List.filter_map, Function.comp_def]

theorem Coherent.task_lt {task : TaskId} (coherent : dispatched.Coherent)
    (isPosted : task ∈ dispatched.posted) : task < dispatched.state.tasks.length := by
  by_contra beyond
  have count := (coherent.noOthers task (Nat.le_of_not_lt beyond)).1
  exact absurd (List.count_pos_iff.mpr isPosted) (by rw [count]; exact Nat.lt_irrefl 0)

/-- A posted task has one more poll to go, or two. -/
theorem TaskAt.not_done {task : TaskId} {stage : Stage} (at_ : dispatched.TaskAt task stage)
    (isPosted : task ∈ dispatched.posted) : stage ≠ .done := by
  intro isDone
  have count := at_.count
  rw [isDone] at count
  exact absurd (List.count_pos_iff.mpr isPosted) (by rw [count]; exact Nat.lt_irrefl 0)

/-- The dispatcher after a task that has run. -/
def afterRun (dispatched : PollDispatched) (task : TaskId) (data : TaskData)
    (results : List (Option EchoResult)) (observed : List Observation)
    (posted : List TaskId) : PollDispatched where
  state := { dispatched.state with
    tasks := dispatched.state.tasks.set task data
    results
    log := dispatched.state.log ++ observed.map (task, ·) }
  posted := dispatched.posted.erase task ++ posted

section AfterRun

variable {task : TaskId} {data : TaskData} {results : List (Option EchoResult)}
  {observed : List Observation} {posted : List TaskId}

/-- The frame rule: a run leaves every other task where it is. -/
theorem TaskAt.afterRun {other : TaskId} {stage : Stage} (at_ : dispatched.TaskAt other stage)
    (different : other ≠ task) (onlyTask : ∀ again ∈ posted, again = task)
    (sameResult : results[other]? = dispatched.state.results[other]?) :
    (dispatched.afterRun task data results observed posted).TaskAt other stage := by
  apply at_.unchanged
  · exact List.getElem?_set_ne different.symm
  · have notPosted : other ∉ posted := fun isPosted => different (onlyTask other isPosted)
    change (dispatched.posted.erase task ++ posted).count other = _
    rw [List.count_append, List.count_erase_of_ne different,
      List.count_eq_zero_of_not_mem notPosted, Nat.add_zero]
  · exact sameResult
  · rw [PollDispatched.afterRun, history_append, if_neg different, List.append_nil]

/-- A run brings its task to another stage. -/
theorem TaskAt.ran {before after : Stage} (at_ : dispatched.TaskAt task before)
    (isTask : task < dispatched.state.tasks.length) (isSlot : data.resultOut = task)
    (future : after.Future data.echoFuture)
    (posts : before.posts - 1 + posted.count task = after.posts)
    (result : results[task]? = some after.result)
    (history : before.history ++ observed = after.history) :
    (dispatched.afterRun task data results observed posted).TaskAt task after where
  data := ⟨data, List.getElem?_set_self isTask, isSlot, future⟩
  count := by
    change (dispatched.posted.erase task ++ posted).count task = _
    rw [List.count_append, List.count_erase_self, at_.count, posts]
  result := result
  history := by
    rw [PollDispatched.afterRun, history_append, if_pos rfl, at_.history, history]

theorem Coherent.afterRun {stage : Stage} (coherent : dispatched.Coherent)
    (isTask : task < dispatched.state.tasks.length)
    (onlyTask : ∀ again ∈ posted, again = task)
    (sameLength : results.length = dispatched.state.results.length)
    (sameResults : ∀ other, other ≠ task → results[other]? = dispatched.state.results[other]?)
    (at_ : (dispatched.afterRun task data results observed posted).TaskAt task stage) :
    (dispatched.afterRun task data results observed posted).Coherent := by
  have sameTasks : (dispatched.afterRun task data results observed posted).state.tasks.length =
      dispatched.state.tasks.length := List.length_set
  constructor
  case sameLength => exact sameLength.trans (coherent.sameLength.trans sameTasks.symm)
  case stages =>
    intro other isOther
    by_cases same : other = task
    · rw [same]
      exact ⟨stage, at_⟩
    · rcases coherent.stages other (by omega) with ⟨otherStage, otherAt⟩
      exact ⟨otherStage, otherAt.afterRun same onlyTask (sameResults other same)⟩
  case noOthers =>
    intro other beyond
    rw [sameTasks] at beyond
    have different : other ≠ task := by
      intro same
      rw [same] at beyond
      exact Nat.lt_irrefl _ (Nat.lt_of_lt_of_le isTask beyond)
    have notPosted : other ∉ posted := fun again => different (onlyTask other again)
    rcases coherent.noOthers other beyond with ⟨count, history⟩
    constructor
    · change (dispatched.posted.erase task ++ posted).count other = 0
      rw [List.count_append, List.count_erase_of_ne different, count,
        List.count_eq_zero_of_not_mem notPosted]
    · rw [PollDispatched.afterRun, history_append, history, if_neg different, List.append_nil]

end AfterRun

theorem Coherent.runTask [Movable String] {task : TaskId} (coherent : dispatched.Coherent)
    (isPosted : task ∈ dispatched.posted) :
    ∃ next, PollStack.workload.runTask task dispatched = some next ∧ Coherent next := by
  have isTask := coherent.task_lt isPosted
  rcases coherent.stages task isTask with ⟨stage, at_⟩
  rcases at_.data with ⟨data, isData, isSlot, future⟩
  have isResult : task < dispatched.state.results.length := by
    rw [coherent.sameLength]
    exact isTask
  cases stage with
  | done => exact absurd rfl (at_.not_done isPosted)
  | fresh =>
      rcases future with ⟨before, holds⟩
      rcases ProxyEchoImpl.EchoFuture.poll_before holds task with ⟨state, polled, nextHolds⟩
      have nextAt : (dispatched.afterRun task { data with echoFuture := { state } }
          dispatched.state.results [.remoteCall, .wake, .pending] [task]).TaskAt task .waiting :=
        at_.ran isTask isSlot nextHolds (by simp [Stage.posts]) at_.result rfl
      refine ⟨_, ?_, coherent.afterRun isTask (by simp) rfl (fun _ _ => rfl) nextAt⟩
      simp [Workload.runTask, PollStack.workload, PollStack.runTask, isData, polled,
        PollDispatched.afterRun]
  | waiting =>
      rcases ProxyEchoImpl.EchoFuture.poll_waiting future rfl task with ⟨echoFuture, polled⟩
      have nextAt : (dispatched.afterRun task { data with echoFuture }
          (dispatched.state.results.set task (some (.ok { value := "" })))
          [.ready, .resultWritten] []).TaskAt task .done :=
        at_.ran isTask isSlot trivial (by simp [Stage.posts])
          (List.getElem?_set_self isResult) rfl
      refine ⟨_, ?_, coherent.afterRun isTask (by simp) List.length_set
        (fun _ different => List.getElem?_set_ne different.symm) nextAt⟩
      simp [Workload.runTask, PollStack.workload, PollStack.runTask, isData, polled, isSlot,
        PollDispatched.afterRun]

/-- A new request adds its task, which is posted. -/
theorem Coherent.post [Movable String] (coherent : dispatched.Coherent) (request : EchoRequest) :
    ∃ next, PollStack.workload.post request dispatched = some next ∧ Coherent next := by
  have holds : (ProxyEchoImpl.echo dispatched.state.remote request).state.Holds
      (.inl { request, remote := dispatched.state.remote }) :=
    Bivariant.initialised_holds _
  rcases holds.moveConstruct with ⟨state, _, moved, stateHolds, _⟩
  have sameLength := coherent.sameLength
  refine ⟨{
    state := { dispatched.state with
      tasks := dispatched.state.tasks ++ [{
        resultOut := dispatched.state.results.length, echoFuture := { state } }]
      results := dispatched.state.results ++ [none] }
    posted := dispatched.posted ++ [dispatched.state.tasks.length] }, ?_, ?_⟩
  · simp [Workload.post, PollStack.workload, PollStack.postEcho, moved]
  · constructor
    case sameLength => simp [sameLength]
    case stages =>
      intro task isTask
      rw [List.length_append, List.length_singleton] at isTask
      rcases Nat.lt_succ_iff_lt_or_eq.mp isTask with isEarlier | isNew
      · rcases coherent.stages task isEarlier with ⟨stage, at_⟩
        refine ⟨stage, at_.unchanged ?_ ?_ ?_ rfl⟩
        · exact List.getElem?_append_left isEarlier
        · have different : dispatched.state.tasks.length ≠ task := Nat.ne_of_gt isEarlier
          simp [different]
        · exact List.getElem?_append_left (by rw [sameLength]; exact isEarlier)
      · rcases coherent.noOthers task (Nat.le_of_eq isNew.symm) with ⟨count, history⟩
        refine ⟨.fresh, ?_⟩
        constructor
        case data =>
          refine ⟨{ resultOut := dispatched.state.results.length, echoFuture := { state } },
            by simp [isNew], sameLength.trans isNew.symm, _, stateHolds⟩
        case count =>
          dsimp only
          rw [List.count_append, count, isNew]
          simp [Stage.posts]
        case result => simp [isNew, ← sameLength, Stage.result]
        case history => exact history
    case noOthers =>
      intro task beyond
      rw [List.length_append, List.length_singleton] at beyond
      rcases coherent.noOthers task (Nat.le_of_succ_le beyond) with ⟨count, history⟩
      have different : dispatched.state.tasks.length ≠ task := Nat.ne_of_lt beyond
      refine ⟨?_, history⟩
      dsimp only
      rw [List.count_append, count]
      simp [different]

theorem Coherent.step [Movable String] {event : Work EchoRequest TaskId}
    (coherent : dispatched.Coherent)
    (enabled : PollStack.workload.machine.Enabled dispatched event) :
    ∃ next, PollStack.workload.machine.step dispatched event = some next ∧ Coherent next := by
  cases event with
  | call request => exact coherent.post request
  | run task => exact coherent.runTask enabled

theorem coherent_start (remote : Address) :
    Coherent { state := .start remote, posted := [] } where
  sameLength := rfl
  stages := by
    intro task isTask
    cases isTask
  noOthers := fun _ _ => ⟨rfl, rfl⟩

end PollDispatched

theorem PollStack.postEcho_tasks [Movable String] {request : EchoRequest}
    {stack next : PollStack} {posted : List TaskId}
    (posts : stack.postEcho request = some (next, posted)) :
    next.tasks.length = stack.tasks.length + 1 := by
  rw [PollStack.postEcho] at posts
  rcases Option.bind_eq_some_iff.mp posts with ⟨_, _, isNext⟩
  cases isNext
  exact List.length_append

theorem PollStack.runTask_tasks [Movable String] {task : TaskId} (status : Status)
    {stack next : PollStack} {posted : List TaskId}
    (ran : stack.runTask task status = some (next, posted)) :
    next.tasks.length = stack.tasks.length := by
  rw [PollStack.runTask] at ran
  split at ran
  · cases ran
    rfl
  · rcases Option.bind_eq_some_iff.mp ran with ⟨data, _, polls⟩
    rcases Option.bind_eq_some_iff.mp polls with ⟨polled, _, isNext⟩
    dsimp only at isNext
    split at isNext
    · cases isNext
      exact List.length_set
    · cases isNext
      exact List.length_set

/-- However calls of `PostEcho` and runs of tasks follow each other, each request
has its task posted once and no result yet, or has its result and no task posted.
Its task has been polled never, once, after the remote call and with a wake-up of
its own, or a second time, which was ready and wrote the result. No task reads an
alternative that its future does not hold. -/
theorem wakeUps_kept [Movable String] {remote : Address}
    {work : List (Work EchoRequest TaskId)} {dispatched : PollDispatched}
    (run : PollStack.workload.machine.Run { state := .start remote, posted := [] }
      work dispatched) :
    (∀ request < (Work.calls work).length,
      (∃ data, dispatched.state.tasks[request]? = some data ∧ data.resultOut = request) ∧
      ((dispatched.posted.count request = 1 ∧
          dispatched.state.results[request]? = some none ∧
          (dispatched.state.history request = [] ∨
            dispatched.state.history request = [.remoteCall, .wake, .pending])) ∨
        (dispatched.posted.count request = 0 ∧
          (∃ result, dispatched.state.results[request]? = some (some result)) ∧
          dispatched.state.history request =
            [.remoteCall, .wake, .pending, .ready, .resultWritten]))) ∧
    (∀ task ∈ dispatched.posted, task < (Work.calls work).length) ∧
    (dispatched.posted = [] → ∀ request < (Work.calls work).length,
      ∃ result, dispatched.state.results[request]? = some (some result)) ∧
    ∀ event, PollStack.workload.machine.Enabled dispatched event →
      ∃ next, PollStack.workload.machine.step dispatched event = some next := by
  have coherent : dispatched.Coherent := by
    apply run.invariant_of_progress PollDispatched.Coherent _
      (PollDispatched.coherent_start remote)
    intro state event coherent enabled
    exact coherent.step enabled
  have size : dispatched.state.tasks.length = (Work.calls work).length := by
    have counted := Workload.size_run (fun stack : PollStack => stack.tasks.length)
      (fun _ _ _ _ posts => PollStack.postEcho_tasks posts)
      (fun _ _ _ _ ran => PollStack.runTask_tasks .ok ran) run
    simpa [PollStack.start] using counted
  rw [← size]
  refine ⟨?_, fun _ isPosted => coherent.task_lt isPosted, ?_, ?_⟩
  · intro request isRequest
    rcases coherent.stages request isRequest with ⟨stage, at_⟩
    rcases at_.data with ⟨data, isData, isSlot, _⟩
    refine ⟨⟨data, isData, isSlot⟩, ?_⟩
    cases stage with
    | fresh => exact .inl ⟨at_.count, at_.result, .inl at_.history⟩
    | waiting => exact .inl ⟨at_.count, at_.result, .inr at_.history⟩
    | done => exact .inr ⟨at_.count, ⟨_, at_.result⟩, at_.history⟩
  · intro idle request isRequest
    rcases coherent.stages request isRequest with ⟨stage, at_⟩
    have count := at_.count
    rw [idle] at count
    cases stage with
    | fresh => cases count
    | waiting => cases count
    | done => exact ⟨_, at_.result⟩
  · intro event enabled
    rcases coherent.step enabled with ⟨next, stepped, _⟩
    exact ⟨next, stepped⟩

section Example

/-- Strings that are empty after a move from them. -/
abbrev emptiedString : Movable String :=
  ⟨fun _ => ""⟩

/-- The second of two requests is answered first. -/
def crossed : List (Work EchoRequest TaskId) :=
  [.call ⟨"first"⟩, .call ⟨"second"⟩, .run 1, .run 1, .run 0]

theorem wakeUps_kept_crossed :
    ∃ dispatched : PollDispatched,
      (@PollStack.workload emptiedString).machine.Run { state := .start 16, posted := [] }
        crossed dispatched ∧
      (∀ task ∈ dispatched.posted, task < 2) ∧ dispatched.posted = [0] := by
  have run : (@PollStack.workload emptiedString).machine.Run
      { state := .start 16, posted := [] } crossed _ :=
    .cons trivial rfl (.cons trivial rfl (.cons (.tail _ (.head _)) rfl
      (.cons (.tail _ (.head _)) rfl (.cons (.head _) rfl (.nil _)))))
  exact ⟨_, run, (@wakeUps_kept emptiedString _ _ _ run).2.1, rfl⟩

end Example

end PigweedExperimental.AsyncBench
