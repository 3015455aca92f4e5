import Mathlib.Data.List.Infix

namespace PigweedExperimental

/-! # Decoders of a stream

A transducer reads one item after another and puts out any number of items for
each. A program around it keeps what it has received and not yet fed to it, and
what it has got out of it and not yet handed on; nothing is lost as long as both
follow the items' order.
-/

structure Transducer (State : Type u) (In : Type v) (Out : Type w) where
  initial : State
  step : State → In → State × List Out

namespace Transducer

variable (transducer : Transducer State In Out)

/-- The state after some input. -/
def after (state : State) : List In → State
  | [] => state
  | item :: input => after (transducer.step state item).1 input

/-- What comes out for some input. -/
def output (state : State) : List In → List Out
  | [] => []
  | item :: input =>
      (transducer.step state item).2 ++ output (transducer.step state item).1 input

/-- The output for all input from the beginning. -/
def decode (input : List In) : List Out :=
  transducer.output transducer.initial input

theorem output_append (state : State) (first second : List In) :
    transducer.output state (first ++ second) =
      transducer.output state first ++
        transducer.output (transducer.after state first) second := by
  induction first generalizing state with
  | nil => rfl
  | cons item input induction =>
      rw [List.cons_append, output, output, after, induction, List.append_assoc]

theorem decode_append (first second : List In) :
    transducer.decode (first ++ second) =
      transducer.decode first ++
        transducer.output (transducer.after transducer.initial first) second :=
  transducer.output_append transducer.initial first second

/-- More input never takes output back. -/
theorem decode_prefix {first second : List In} (isPrefix : first <+: second) :
    transducer.decode first <+: transducer.decode second := by
  rcases isPrefix with ⟨rest, rfl⟩
  rw [decode_append]
  exact List.prefix_append _ _

end Transducer

/-- All that went through a program around a transducer, and the two places where
something waits. -/
structure Pipe (In : Type u) (Out : Type v) where
  received : List In
  processed : List In
  delivered : List Out
  waitingInput : List In
  waitingOutput : List Out
  deriving DecidableEq, Repr

namespace Pipe

/-- Nothing is lost, doubled or out of order on either side of the transducer. -/
structure InOrder (transducer : Transducer State In Out) (pipe : Pipe In Out) : Prop where
  input : pipe.received = pipe.processed ++ pipe.waitingInput
  output : transducer.decode pipe.processed = pipe.delivered ++ pipe.waitingOutput

variable {transducer : Transducer State In Out} {pipe : Pipe In Out}

/-- What has been handed on is the beginning of what the received input means. -/
theorem InOrder.delivered_prefix (inOrder : InOrder transducer pipe) :
    pipe.delivered <+: transducer.decode pipe.received := by
  have ofProcessed : pipe.delivered <+: transducer.decode pipe.processed := by
    rw [inOrder.output]
    exact List.prefix_append _ _
  apply ofProcessed.trans
  apply transducer.decode_prefix
  rw [inOrder.input]
  exact List.prefix_append _ _

/-- Received input waits behind the input that came before. -/
theorem InOrder.receive (inOrder : InOrder transducer pipe) (items : List In) :
    InOrder transducer { pipe with
      received := pipe.received ++ items
      waitingInput := pipe.waitingInput ++ items } where
  input := by
    dsimp only
    rw [inOrder.input, List.append_assoc]
  output := inOrder.output

/-- Output is handed on from its front. -/
theorem InOrder.deliver (inOrder : InOrder transducer pipe) (count : Nat) :
    InOrder transducer { pipe with
      delivered := pipe.delivered ++ pipe.waitingOutput.take count
      waitingOutput := pipe.waitingOutput.drop count } where
  input := inOrder.input
  output := by
    dsimp only
    rw [inOrder.output, List.append_assoc, List.take_append_drop]

/-- Input is fed to the transducer from its front; what is left to wait decides
whether the order is kept. -/
theorem InOrder.process_iff (inOrder : InOrder transducer pipe) {count : Nat}
    (left : List In) {items : List Out}
    (produced : transducer.decode (pipe.processed ++ pipe.waitingInput.take count) =
      transducer.decode pipe.processed ++ items) :
    InOrder transducer { pipe with
      processed := pipe.processed ++ pipe.waitingInput.take count
      waitingInput := left
      waitingOutput := pipe.waitingOutput ++ items } ↔
      left = pipe.waitingInput.drop count := by
  have parts : pipe.received =
      pipe.processed ++ pipe.waitingInput.take count ++ pipe.waitingInput.drop count := by
    rw [inOrder.input, List.append_assoc, List.take_append_drop]
  constructor
  · intro after
    have same := parts.symm.trans after.input
    exact (List.append_cancel_left same).symm
  · rintro rfl
    constructor
    case input => exact parts
    case output =>
      dsimp only
      rw [produced, inOrder.output, List.append_assoc]

/-- Nothing that waits can be dropped or put in. -/
theorem InOrder.replace_iff (inOrder : InOrder transducer pipe) (left : List In) :
    InOrder transducer { pipe with waitingInput := left } ↔ left = pipe.waitingInput := by
  have nothing : transducer.decode (pipe.processed ++ pipe.waitingInput.take 0) =
      transducer.decode pipe.processed ++ [] := by
    rw [List.take_zero, List.append_nil, List.append_nil]
  have replaced := inOrder.process_iff left nothing
  simp only [List.take_zero, List.append_nil, List.drop_zero] at replaced
  exact replaced

end Pipe

end PigweedExperimental
