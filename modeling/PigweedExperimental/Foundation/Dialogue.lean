import Mathlib.Data.List.Basic

namespace PigweedExperimental

/-! # Dialogues

A program that does nothing but ask its surroundings and go on with their answers.
The answers come from outside; where they run out the program waits. Its conditions
are about the questions and answers so far.
-/

/-- How far a program comes. A program that stops never asks anything again. -/
inductive Outcome (Question Answer Result : Type) where
  | waits (question : Question)
  | returns (result : Result) (unused : List Answer)
  | stops
  deriving Repr, DecidableEq

structure Conversation (Question Answer Result : Type) where
  asked : List (Question × Answer)
  outcome : Outcome Question Answer Result
  deriving Repr, DecidableEq

/-- A program, by the conversation that it has with the answers it is given. -/
structure Dialogue (Question Answer Result : Type) where
  converse : List Answer → Conversation Question Answer Result

namespace Conversation

variable {Question Answer Result : Type}

/-- A question of the conversation, with what was asked before it. The last one may be
without an answer. -/
def Asks (conversation : Conversation Question Answer Result)
    (before : List (Question × Answer)) (question : Question) : Prop :=
  (∃ answer after, conversation.asked = before ++ (question, answer) :: after) ∨
    (conversation.asked = before ∧ conversation.outcome = .waits question)

/-- A conversation after another one. -/
def after (earlier : List (Question × Answer))
    (conversation : Conversation Question Answer Result) :
    Conversation Question Answer Result where
  asked := earlier ++ conversation.asked
  outcome := conversation.outcome

end Conversation

namespace Dialogue

section Programs

variable {Question Answer Result Next : Type}

def finish (result : Result) : Dialogue Question Answer Result where
  converse answers := ⟨[], .returns result answers⟩

/-- `while (1);` -/
def stop : Dialogue Question Answer Result where
  converse _ := ⟨[], .stops⟩

def ask (question : Question) : Dialogue Question Answer Answer where
  converse
    | [] => ⟨[], .waits question⟩
    | answer :: answers => ⟨[(question, answer)], .returns answer answers⟩

def andThen (first : Dialogue Question Answer Result)
    (next : Result → Dialogue Question Answer Next) : Dialogue Question Answer Next where
  converse answers :=
    let conversation := first.converse answers
    match conversation.outcome with
    | .waits question => ⟨conversation.asked, .waits question⟩
    | .stops => ⟨conversation.asked, .stops⟩
    | .returns result unused => ((next result).converse unused).after conversation.asked

instance : Monad (Dialogue Question Answer) where
  pure := finish
  bind := andThen

/-- So many rounds at most. -/
def loopFrom (body : Dialogue Question Answer (Option Result)) :
    Nat → List Answer → Conversation Question Answer Result
  | 0, _ => ⟨[], .stops⟩
  | rounds + 1, answers =>
      let conversation := body.converse answers
      match conversation.outcome with
      | .waits question => ⟨conversation.asked, .waits question⟩
      | .stops => ⟨conversation.asked, .stops⟩
      | .returns (some result) unused => ⟨conversation.asked, .returns result unused⟩
      | .returns none unused => (loopFrom body rounds unused).after conversation.asked

/-- Goes round until the body has a result. There are enough rounds if each takes an
answer. -/
def loop (body : Dialogue Question Answer (Option Result)) :
    Dialogue Question Answer Result where
  converse answers := loopFrom body (answers.length + 1) answers

end Programs

section Progress

variable {Question Answer Result Next : Type}

/-- What comes back leaves no more answers than there were. -/
def Steady (dialogue : Dialogue Question Answer Result) : Prop :=
  ∀ answers result unused, (dialogue.converse answers).outcome = .returns result unused →
    unused.length ≤ answers.length

/-- A result takes an answer. -/
def Progresses (dialogue : Dialogue Question Answer Result) : Prop :=
  ∀ answers result unused, (dialogue.converse answers).outcome = .returns result unused →
    unused.length < answers.length

theorem steady_finish (result : Result) :
    Steady (pure result : Dialogue Question Answer Result) := by
  intro answers other unused returned
  cases returned
  exact Nat.le_refl _

theorem steady_stop : Steady (stop : Dialogue Question Answer Result) := nofun

theorem progresses_ask (question : Question) :
    Progresses (ask question : Dialogue Question Answer Answer) := by
  intro answers result unused returned
  cases answers with
  | nil => cases returned
  | cons answer answers =>
      cases returned
      exact Nat.lt_succ_self _

theorem Progresses.steady {dialogue : Dialogue Question Answer Result}
    (progresses : dialogue.Progresses) : dialogue.Steady :=
  fun answers result unused returned => Nat.le_of_lt (progresses answers result unused returned)

theorem bind_returns {dialogue : Dialogue Question Answer Result}
    {next : Result → Dialogue Question Answer Next} {answers unused : List Answer} {result : Next}
    (returned : ((dialogue >>= next).converse answers).outcome = .returns result unused) :
    ∃ middle rest, (dialogue.converse answers).outcome = .returns middle rest ∧
      ((next middle).converse rest).outcome = .returns result unused := by
  change ((dialogue.andThen next).converse answers).outcome = _ at returned
  rw [andThen] at returned
  dsimp only at returned
  split at returned
  · cases returned
  · cases returned
  · rename_i middle rest first
    exact ⟨middle, rest, first, returned⟩

theorem Steady.bind {dialogue : Dialogue Question Answer Result}
    {next : Result → Dialogue Question Answer Next} (steady : dialogue.Steady)
    (steadyNext : ∀ result, (next result).Steady) : (dialogue >>= next).Steady := by
  intro answers result unused returned
  rcases bind_returns returned with ⟨middle, rest, first, second⟩
  exact Nat.le_trans (steadyNext middle rest result unused second)
    (steady answers middle rest first)

theorem Progresses.bind {dialogue : Dialogue Question Answer Result}
    {next : Result → Dialogue Question Answer Next} (progresses : dialogue.Progresses)
    (steady : ∀ result, (next result).Steady) : (dialogue >>= next).Progresses := by
  intro answers result unused returned
  rcases bind_returns returned with ⟨middle, rest, first, second⟩
  exact Nat.lt_of_le_of_lt (steady middle rest result unused second)
    (progresses answers middle rest first)

theorem progresses_loop {body : Dialogue Question Answer (Option Result)}
    (progresses : body.Progresses) : (loop body).Progresses := by
  intro answers result unused returned
  change (loopFrom body (answers.length + 1) answers).outcome = _ at returned
  generalize answers.length + 1 = rounds at returned
  induction rounds generalizing answers with
  | zero => cases returned
  | succ rounds induction =>
      rw [loopFrom] at returned
      split at returned
      · cases returned
      · cases returned
      · rename_i other rest first
        cases returned
        exact progresses answers _ _ first
      · rename_i rest first
        exact Nat.lt_trans (induction rest returned) (progresses answers _ _ first)

end Progress

section Conditions

variable {Question Answer Result Next : Type}

/-- Which questions may come after what was asked and answered, and when a program may
stop. -/
structure Rules (Question Answer : Type) where
  Allowed : List (Question × Answer) → Question → Prop
  MayStop : List (Question × Answer) → Prop

/-- What a conversation keeps to, and what it leaves behind. -/
structure Keeps (rules : Rules Question Answer) (past : List (Question × Answer))
    (conversation : Conversation Question Answer Result)
    (post : Result → List (Question × Answer) → Prop) : Prop where
  asks : ∀ before question, conversation.Asks before question →
    rules.Allowed (past ++ before) question
  stops : conversation.outcome = .stops → rules.MayStop (past ++ conversation.asked)
  returns : ∀ result unused, conversation.outcome = .returns result unused →
    post result (past ++ conversation.asked)

/-- From a past that meets the precondition, whatever the answers are. -/
def Meets (rules : Rules Question Answer) (pre : List (Question × Answer) → Prop)
    (dialogue : Dialogue Question Answer Result)
    (post : Result → List (Question × Answer) → Prop) : Prop :=
  ∀ past answers, pre past → Keeps rules past (dialogue.converse answers) post

variable {rules : Rules Question Answer} {pre : List (Question × Answer) → Prop}
  {post : Result → List (Question × Answer) → Prop}

theorem Meets.weaken {stronger : List (Question × Answer) → Prop}
    {weaker : Result → List (Question × Answer) → Prop}
    {dialogue : Dialogue Question Answer Result} (meets : Meets rules pre dialogue post)
    (isStronger : ∀ past, stronger past → pre past)
    (isWeaker : ∀ result past, post result past → weaker result past) :
    Meets rules stronger dialogue weaker := by
  intro past answers holds
  have keeps := meets past answers (isStronger past holds)
  exact ⟨keeps.asks, keeps.stops, fun result unused returned =>
    isWeaker result _ (keeps.returns result unused returned)⟩

/-- What has happened stays true. -/
theorem Meets.frame {fact : List (Question × Answer) → Prop}
    {dialogue : Dialogue Question Answer Result} (meets : Meets rules pre dialogue post)
    (stays : ∀ past more, fact past → fact (past ++ more)) :
    Meets rules (fun past => pre past ∧ fact past) dialogue
      (fun result past => post result past ∧ fact past) := by
  intro past answers holds
  have keeps := meets past answers holds.1
  exact ⟨keeps.asks, keeps.stops, fun result unused returned =>
    ⟨keeps.returns result unused returned, stays past _ holds.2⟩⟩

theorem meets_pure {result : Result} (holds : ∀ past, pre past → post result past) :
    Meets rules pre (pure result : Dialogue Question Answer Result) post := by
  intro past answers isPre
  refine ⟨?_, nofun, ?_⟩
  · intro before question asks
    rcases asks with ⟨answer, after, same⟩ | ⟨_, waits⟩
    · cases before <;> cases same
    · cases waits
  · intro other unused returned
    cases returned
    change post result (past ++ [])
    rw [List.append_nil]
    exact holds past isPre

theorem meets_stop (mayStop : ∀ past, pre past → rules.MayStop past) :
    Meets rules pre (stop : Dialogue Question Answer Result) post := by
  intro past answers isPre
  refine ⟨?_, ?_, nofun⟩
  · intro before question asks
    rcases asks with ⟨answer, after, same⟩ | ⟨_, waits⟩
    · cases before <;> cases same
    · cases waits
  · intro _
    change rules.MayStop (past ++ [])
    rw [List.append_nil]
    exact mayStop past isPre

theorem meets_ask {question : Question}
    (isAllowed : ∀ past, pre past → rules.Allowed past question) :
    Meets rules pre (ask question) fun answer past =>
      ∃ before, pre before ∧ past = before ++ [(question, answer)] := by
  intro past answers isPre
  cases answers with
  | nil =>
      refine ⟨?_, nofun, nofun⟩
      intro before other asks
      rcases asks with ⟨answer, after, same⟩ | ⟨same, waits⟩
      · cases before <;> cases same
      · cases same
        cases waits
        change rules.Allowed (past ++ []) question
        rw [List.append_nil]
        exact isAllowed past isPre
  | cons answer answers =>
      refine ⟨?_, nofun, ?_⟩
      · intro before other asks
        rcases asks with ⟨otherAnswer, after, same⟩ | ⟨_, waits⟩
        · change [(question, answer)] = _ at same
          cases before with
          | nil =>
              cases same
              rw [List.append_nil]
              exact isAllowed past isPre
          | cons first before =>
              rw [List.cons_append, List.cons.injEq] at same
              cases before <;> cases same.2
        · cases waits
      · intro result unused returned
        cases returned
        exact ⟨past, isPre, rfl⟩

/-- What was so before a question was so before its answer. -/
theorem Meets.before {question : Question} {fact : List (Question × Answer) → Prop}
    {post : Answer → List (Question × Answer) → Prop}
    (meets : Meets rules pre (ask question) post) :
    Meets rules (fun past => pre past ∧ fact past) (ask question) fun answer past =>
      post answer past ∧ ∃ before, fact before ∧ past = before ++ [(question, answer)] := by
  intro past answers holds
  have keeps := meets past answers holds.1
  refine ⟨keeps.asks, keeps.stops, ?_⟩
  intro answer unused returned
  refine ⟨keeps.returns answer unused returned, past, holds.2, ?_⟩
  cases answers with
  | nil => cases returned
  | cons first answers =>
      cases returned
      rfl

/-- A conversation that asks the same and comes no further. -/
theorem Keeps.ends {first : Conversation Question Answer Result}
    {second : Conversation Question Answer Next} {past : List (Question × Answer)}
    {final : Next → List (Question × Answer) → Prop} (keeps : Keeps rules past first post)
    (sameAsked : second.asked = first.asked)
    (waits : ∀ question, second.outcome = .waits question → first.outcome = .waits question)
    (stops : second.outcome = .stops → first.outcome = .stops)
    (returns : ∀ result unused, second.outcome = .returns result unused →
      final result (past ++ second.asked)) : Keeps rules past second final where
  asks := by
    intro before question asks
    apply keeps.asks before question
    rw [Conversation.Asks, sameAsked] at asks
    exact asks.imp_right fun last => ⟨last.1, waits question last.2⟩
  stops := by
    intro stopped
    rw [sameAsked]
    exact keeps.stops (stops stopped)
  returns := returns

/-- What keeps to the rules after something that did. -/
theorem Keeps.after {first : Conversation Question Answer Result}
    {second : Conversation Question Answer Next} {past : List (Question × Answer)}
    {final : Next → List (Question × Answer) → Prop}
    (isFirst : ∀ before question, first.Asks before question →
      rules.Allowed (past ++ before) question)
    (keeps : Keeps rules (past ++ first.asked) second final) :
    Keeps rules past (second.after first.asked) final where
  asks := by
    intro before question asks
    rcases asks with ⟨answer, after, same⟩ | ⟨same, waits⟩
    · rcases List.append_eq_append_iff.mp same with ⟨rest, before_eq, second_eq⟩ |
        ⟨rest, first_eq, after_eq⟩
      · rw [before_eq, ← List.append_assoc]
        exact keeps.asks rest question (.inl ⟨answer, after, second_eq⟩)
      · cases rest with
        | nil =>
            rw [List.append_nil] at first_eq
            have atStart := keeps.asks [] question (.inl ⟨answer, after, after_eq.symm⟩)
            rwa [List.append_nil, first_eq] at atStart
        | cons asked rest =>
            rw [List.cons_append, List.cons.injEq] at after_eq
            rw [← after_eq.1] at first_eq
            exact isFirst before question (.inl ⟨answer, rest, first_eq⟩)
    · rw [← same, Conversation.after, ← List.append_assoc]
      exact keeps.asks second.asked question (.inr ⟨rfl, waits⟩)
  stops := by
    intro stopped
    rw [Conversation.after, ← List.append_assoc]
    exact keeps.stops stopped
  returns := by
    intro result unused returned
    rw [Conversation.after, ← List.append_assoc]
    exact keeps.returns result unused returned

theorem Meets.bind {dialogue : Dialogue Question Answer Result}
    {next : Result → Dialogue Question Answer Next}
    {final : Next → List (Question × Answer) → Prop} (meets : Meets rules pre dialogue post)
    (meetsNext : ∀ result, Meets rules (post result) (next result) final) :
    Meets rules pre (dialogue >>= next) final := by
  intro past answers isPre
  have keeps := meets past answers isPre
  change Keeps rules past ((dialogue.andThen next).converse answers) final
  rw [andThen]
  dsimp only
  split
  · rename_i question waits
    refine keeps.ends rfl ?_ nofun nofun
    intro other same
    cases same
    exact waits
  · rename_i stops
    exact keeps.ends rfl nofun (fun _ => stops) nofun
  · rename_i result unused returned
    exact Keeps.after keeps.asks (meetsNext result _ unused (keeps.returns result unused returned))

/-- A loop keeps what each round keeps. -/
theorem Meets.loop {body : Dialogue Question Answer (Option Result)}
    (progresses : body.Progresses)
    (meets : Meets rules pre body fun result past => result.elim (pre past) (post · past)) :
    Meets rules pre (loop body) post := by
  intro past answers isPre
  change Keeps rules past (loopFrom body (answers.length + 1) answers) post
  have enough : answers.length < answers.length + 1 := Nat.lt_succ_self _
  generalize answers.length + 1 = rounds at enough ⊢
  induction rounds generalizing past answers with
  | zero => exact absurd enough (Nat.not_lt_zero _)
  | succ rounds induction =>
      have keeps := meets past answers isPre
      rw [loopFrom]
      split
      · rename_i question waits
        refine keeps.ends rfl ?_ nofun nofun
        intro other same
        cases same
        exact waits
      · rename_i stops
        exact keeps.ends rfl nofun (fun _ => stops) nofun
      · rename_i result unused returned
        refine keeps.ends rfl nofun nofun ?_
        intro other rest same
        cases same
        exact keeps.returns (some result) unused returned
      · rename_i unused returned
        apply Keeps.after keeps.asks
        apply induction _ unused (keeps.returns none unused returned)
        exact Nat.lt_of_lt_of_le (progresses answers none unused returned)
          (Nat.le_of_lt_succ enough)

end Conditions

end Dialogue

end PigweedExperimental
