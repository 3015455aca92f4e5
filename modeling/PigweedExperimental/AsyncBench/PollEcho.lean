import PigweedExperimental.AsyncBench.Bivariant
import PigweedExperimental.Foundation.Dispatcher
import PigweedExperimental.Framebuffer.Framebuffer
import PigweedExperimental.Status

namespace PigweedExperimental.AsyncBench

/-! # The poll-based echo stack

A future is polled by the task that owns it, and posts that task again through
its waker when it can make progress. What a moved-from string holds is left open.
-/

structure EchoRequest where
  value : String
  deriving DecidableEq, Repr

structure EchoResponse where
  value : String
  deriving DecidableEq, Repr

/-- `pw::Result<EchoResponse>`. -/
abbrev EchoResult := Except Status EchoResponse

instance [Movable String] : Movable EchoRequest :=
  ⟨fun request => { value := Movable.movedFrom request.value }⟩

inductive Poll (T : Type) where
  | ready (result : T)
  | pending
  deriving DecidableEq, Repr

/-- Tasks stay allocated, so that their numbers are their addresses. -/
abbrev TaskId := Nat

/-- What happens in the course of one request. -/
inductive Observation where
  | remoteCall
  | wake
  | pending
  | ready
  | resultWritten
  deriving DecidableEq, Repr

/-- What a call of `Poll` leaves and returns, and what its waker posts. -/
structure Polled (Future : Type) where
  future : Future
  result : Poll EchoResult
  posted : List TaskId
  observed : List Observation

namespace RemoteEcho

structure EchoFuture where
  value : String := ""
  isFirstTime : Bool := true
  deriving DecidableEq, Repr

instance [Movable String] : Movable EchoFuture :=
  ⟨fun future => { future with value := Movable.movedFrom future.value }⟩

def EchoFuture.poll [Movable String] (future : EchoFuture) (waker : TaskId) :
    Polled EchoFuture :=
  if future.isFirstTime then
    { future := { future with isFirstTime := false }
      result := .pending
      posted := [waker]
      observed := [.wake] }
  else
    { future := { future with value := Movable.movedFrom future.value }
      result := .ready (.ok { value := future.value })
      posted := []
      observed := [] }

/-- The request is not used. -/
def echo (_request : EchoRequest) : EchoFuture :=
  {}

end RemoteEcho

namespace ProxyEchoImpl

structure BeforeRemoteCall where
  request : EchoRequest
  remote : Address
  deriving DecidableEq, Repr

structure WaitingOnRemote where
  remoteFuture : RemoteEcho.EchoFuture
  deriving DecidableEq, Repr

instance [Movable String] : Movable BeforeRemoteCall :=
  ⟨fun before => { before with request := Movable.movedFrom before.request }⟩

instance [Movable String] : Movable WaitingOnRemote :=
  ⟨fun waiting => { waiting with remoteFuture := Movable.movedFrom waiting.remoteFuture }⟩

structure EchoFuture where
  state : Bivariant BeforeRemoteCall WaitingOnRemote

def echo (remote : Address) (request : EchoRequest) : EchoFuture where
  state := .ofA { request, remote }

variable [Movable String]

/-- The remote call replaces the first state; after it the second state is read. -/
def EchoFuture.poll (future : EchoFuture) (waker : TaskId) : Option (Polled EchoFuture) := do
  let (state, observed) ←
    if future.state.isA then do
      let beforeCall ← future.state.valueA
      let remoteFuture := RemoteEcho.echo beforeCall.request
      let state := future.state.write (.inl (Movable.movedFrom beforeCall))
      some (state.moveAssignB { remoteFuture }, [Observation.remoteCall])
    else
      some (future.state, [])
  let waitingOnRemote ← state.valueB
  let polled := waitingOnRemote.remoteFuture.poll waker
  return {
    future := { state := state.write (.inr { remoteFuture := polled.future }) }
    result := polled.result
    posted := polled.posted
    observed := observed ++ polled.observed }

end ProxyEchoImpl

/-- The capture of a task; `resultOut` numbers the results of the callers. -/
structure TaskData where
  resultOut : Nat
  echoFuture : ProxyEchoImpl.EchoFuture

/-- The tasks and the results of all requests, with what happened to the tasks. -/
structure PollStack where
  remote : Address
  tasks : List TaskData
  results : List (Option EchoResult)
  log : List (TaskId × Observation)

namespace PollStack

def start (remote : Address) : PollStack where
  remote
  tasks := []
  results := []
  log := []

/-- What happened to a task, in order. -/
def history (stack : PollStack) (task : TaskId) : List Observation :=
  (stack.log.filter (·.1 = task)).map Prod.snd

variable [Movable String]

/-- The caller's result is empty at first; the future is moved into the task. -/
def postEcho (request : EchoRequest) (stack : PollStack) : Option (PollStack × List TaskId) := do
  let echoFuture := ProxyEchoImpl.echo stack.remote request
  let (state, _) ← echoFuture.state.moveConstruct
  let data := { resultOut := stack.results.length, echoFuture := { state } }
  return ({ stack with
    tasks := stack.tasks ++ [data]
    results := stack.results ++ [none] }, [stack.tasks.length])

/-- The function of a task. -/
def runTask (task : TaskId) (status : Status) (stack : PollStack) :
    Option (PollStack × List TaskId) :=
  if status = .cancelled then
    some (stack, [])
  else do
    let data ← stack.tasks[task]?
    let polled ← data.echoFuture.poll task
    let tasks := stack.tasks.set task { data with echoFuture := polled.future }
    match polled.result with
    | .ready result =>
        let observed := polled.observed ++ [.ready, .resultWritten]
        return ({ stack with
          tasks
          results := stack.results.set data.resultOut (some result)
          log := stack.log ++ observed.map (task, ·) }, polled.posted)
    | .pending =>
        let observed := polled.observed ++ [.pending]
        return ({ stack with
          tasks
          log := stack.log ++ observed.map (task, ·) }, polled.posted)

/-- Nothing is cancelled. -/
def workload : Workload PollStack EchoRequest TaskId where
  call := postEcho
  run task stack := stack.runTask task .ok

end PollStack

end PigweedExperimental.AsyncBench
