import PigweedExperimental.AsyncBench.PollEcho

namespace PigweedExperimental.AsyncBench.CallbackEcho

/-! # The callback-based echo stack

Functions are passed on to be called later. A function that the stack makes is
described by what it captures.
-/

/-- The function that `PostEcho` makes; it captures the caller's result. -/
structure SendHandler where
  resultOut : Nat
  deriving DecidableEq, Repr

structure EchoResponder where
  sendHandler : SendHandler
  deriving DecidableEq, Repr

/-- The function that `ProxyEchoImpl::Echo` makes; it captures the responder. -/
structure OnResponse where
  responder : EchoResponder
  deriving DecidableEq, Repr

/-- The functions that are told that a response is sent; there is one, which does
nothing. -/
inductive OnSent where
  | ignore
  deriving DecidableEq, Repr

/-- The functions that are posted: by `RemoteEcho::Echo` and `EchoResponder::Send`. -/
inductive CallbackTask where
  | respond (response : EchoResult) (onResponse : OnResponse)
  | sent (onSent : OnSent)
  deriving DecidableEq, Repr

structure CallbackStack where
  results : List (Option EchoResult)
  deriving DecidableEq, Repr

def SendHandler.call (handler : SendHandler) (result : EchoResult) (stack : CallbackStack) :
    CallbackStack :=
  { stack with results := stack.results.set handler.resultOut (some result) }

def OnSent.call (_status : Status) (stack : CallbackStack) : OnSent → CallbackStack
  | .ignore => stack

def EchoResponder.send (responder : EchoResponder) (response : EchoResult) (onSent : OnSent)
    (stack : CallbackStack) : CallbackStack × List CallbackTask × Status :=
  (responder.sendHandler.call response stack, [.sent onSent], .ok)

/-- The result of the send is ignored. -/
def OnResponse.call (onResponse : OnResponse) (response : EchoResult)
    (stack : CallbackStack) : CallbackStack × List CallbackTask :=
  let (stack, posted, _) := onResponse.responder.send response .ignore stack
  (stack, posted)

namespace RemoteEcho

def echo (request : EchoRequest) (onResponse : OnResponse) : List CallbackTask × Status :=
  let response : EchoResult := .ok { value := request.value }
  ([.respond response onResponse], .ok)

end RemoteEcho

namespace ProxyEchoImpl

/-- Whatever the remote call returns, the proxy returns OK. -/
def echo (request : EchoRequest) (responder : EchoResponder) : List CallbackTask × Status :=
  let (posted, _) := RemoteEcho.echo request { responder }
  (posted, .ok)

end ProxyEchoImpl

namespace CallbackStack

def start : CallbackStack where
  results := []

def postEcho (request : EchoRequest) (stack : CallbackStack) :
    Option (CallbackStack × List CallbackTask) :=
  let responder := { sendHandler := { resultOut := stack.results.length } }
  let (posted, _) := ProxyEchoImpl.echo request responder
  some ({ stack with results := stack.results ++ [none] }, posted)

/-- The posted functions. -/
def runTask (status : Status) (stack : CallbackStack) :
    CallbackTask → CallbackStack × List CallbackTask
  | .respond response onResponse =>
      if status ≠ .cancelled then
        onResponse.call response stack
      else
        (stack, [])
  | .sent onSent =>
      if status ≠ .cancelled then
        (onSent.call .ok stack, [])
      else
        (stack, [])

/-- Nothing is cancelled. -/
def workload : Workload CallbackStack EchoRequest CallbackTask where
  call := postEcho
  run task stack := some (stack.runTask .ok task)

end CallbackStack

end PigweedExperimental.AsyncBench.CallbackEcho
