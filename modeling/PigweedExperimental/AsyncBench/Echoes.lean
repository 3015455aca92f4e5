import PigweedExperimental.AsyncBench.CallbackEcho
import PigweedExperimental.AsyncBench.WakeUps

namespace PigweedExperimental.AsyncBench

/-! # What comes back from the two echo stacks

The callback-based stack brings the value of the request back. The remote side of
the poll-based stack drops the request, and answers with an empty value.
-/

open CallbackEcho (CallbackStack)

/-- One request to the poll-based stack, with its dispatcher run until idle in any
order, leaves the value of the request. -/
def PollEchoes [Movable String] (remote : Address) (request : EchoRequest) : Prop :=
  ∃ posted, PollStack.workload.post request { state := .start remote, posted := [] } =
      some posted ∧
    PollStack.workload.Settles
      (fun stack => stack.results = [some (.ok { value := request.value })]) posted

/-- The same of the callback-based stack. -/
def CallbackEchoes (request : EchoRequest) : Prop :=
  ∃ posted, CallbackStack.workload.post request { state := .start, posted := [] } =
      some posted ∧
    CallbackStack.workload.Settles
      (fun stack => stack.results = [some (.ok { value := request.value })]) posted

/-- The first function writes the result, and the second one does nothing. -/
theorem callbackEchoes (request : EchoRequest) : CallbackEchoes request := by
  refine ⟨_, rfl, ?_⟩
  apply (Workload.settles_single_iff rfl).mpr
  apply (Workload.settles_single_iff rfl).mpr
  exact .idle rfl rfl

/-- The poll-based stack always answers, with an empty value. -/
theorem pollEcho_settles_iff [Movable String] (remote : Address) (request : EchoRequest)
    (goal : List (Option EchoResult) → Prop) :
    (∃ posted, PollStack.workload.post request { state := .start remote, posted := [] } =
        some posted ∧
      PollStack.workload.Settles (fun stack => goal stack.results) posted) ↔
      goal [some (.ok { value := "" })] := by
  constructor
  · intro settles
    rcases settles with ⟨posted, posts, settles⟩
    cases posts
    have once := (Workload.settles_single_iff rfl).mp settles
    have twice := (Workload.settles_single_iff rfl).mp once
    exact twice.atIdle rfl
  · intro reached
    refine ⟨_, rfl, ?_⟩
    apply (Workload.settles_single_iff rfl).mpr
    apply (Workload.settles_single_iff rfl).mpr
    exact .idle rfl reached

theorem pollEchoes_iff [Movable String] (remote : Address) (request : EchoRequest) :
    PollEchoes remote request ↔ request.value = "" := by
  rw [PollEchoes, pollEcho_settles_iff remote request
    (fun results => results = [some (.ok { value := request.value })])]
  constructor
  · intro same
    simpa using same.symm
  · intro isEmpty
    rw [isEmpty]

/-- Both stacks leave an OK response with the value of the request exactly if that
value is empty. -/
theorem stacks_echo_iff [Movable String] (remote : Address) (request : EchoRequest) :
    (PollEchoes remote request ∧ CallbackEchoes request) ↔ request.value = "" := by
  rw [pollEchoes_iff]
  exact and_iff_left (callbackEchoes request)

/-- The request of the executables. -/
theorem someValue_not_echoed :
    ¬(@PollEchoes emptiedString 16 ⟨"some value"⟩ ∧ CallbackEchoes ⟨"some value"⟩) := by
  intro both
  have isEmpty := (@pollEchoes_iff emptiedString _ _).mp both.1
  exact absurd isEmpty (by decide)

end PigweedExperimental.AsyncBench
