import PigweedExperimental.Foundation.Execution
import PigweedExperimental.Tls.PicotlsBackend

namespace PigweedExperimental.Tls

/-! # What the transport gets of picotls's bytes

A session is a successful handshake and any number of successful writes after
it.
-/

inductive Call where
  | handshake (first : PtlsAnswer) (rounds : List Round)
  | write (send : PtlsAnswer) (answer : WriteAnswer)
  deriving DecidableEq

structure Session where
  backend : PicotlsBackend
  handshaken : Bool
  deriving DecidableEq, Repr

namespace Session

def initial : Session where
  backend := .create
  handshaken := false

def call (session : Session) : Call → Option Session
  | .handshake first rounds => do
      let (status, backend) ← session.backend.handshake first rounds
      if status = 0 then some ⟨backend, true⟩ else none
  | .write send answer =>
      let (status, backend) := session.backend.write send answer
      if status = 0 then some { session with backend } else none

/-- The handshake comes once and first. -/
def machine : Machine Session Call where
  Enabled session call :=
    match call with
    | .handshake .. => session.handshaken = false
    | .write .. => session.handshaken = true
  step := call

instance (session : Session) (call : Call) : Decidable (machine.Enabled session call) :=
  match call with
  | .handshake .. => inferInstanceAs (Decidable (session.handshaken = false))
  | .write .. => inferInstanceAs (Decidable (session.handshaken = true))

/-- The transport has accepted exactly the bytes that picotls appended. -/
def Delivered (session : Session) : Prop :=
  session.backend.encodeBuffer.Delivered

end Session

/-- In every round up to the last one the transport takes all that picotls has
appended since the round before. -/
def RoundsTaken (pending : Nat) : List Round → Prop
  | [] => True
  | round :: rounds =>
      (pending + round.handshake.appended.length = 0 ∨
        round.write.TakesAll (pending + round.handshake.appended.length)) ∧
      (round.handshake.status = .inProgress → RoundsTaken 0 rounds)

/-- The transport takes all that it is offered, and that is only what picotls
has appended in the call: `encode_buffer_` holds nothing from before. -/
def Session.Taken (session : Session) : Call → Prop
  | .handshake first rounds => RoundsTaken first.appended.length rounds
  | .write send answer =>
      session.backend.encodeBuffer.buffer = [] ∧ answer.TakesAll send.appended.length

namespace PicotlsBackend

section Exchange

variable {backend : PicotlsBackend} {answer : WriteAnswer}

theorem sendHandshake_empties {sent : PicotlsBackend}
    (ok : backend.sendHandshake answer = .ok sent) :
    Outbox.Empties (backend.off = 0 ∨ answer.TakesAll backend.off) backend.encodeBuffer
      sent.encodeBuffer := by
  rw [sendHandshake] at ok
  split at ok
  · rename_i nonempty
    dsimp only [transmit] at ok
    split at ok
    · cases ok
    · cases ok
      apply (Outbox.Empties.offer_clear backend.encodeBuffer (answer.count backend.off)).congr
      rw [or_iff_right nonempty]
      exact ⟨WriteAnswer.takesAll_of_le_count (Nat.pos_of_ne_zero nonempty),
        WriteAnswer.le_count_of_takesAll⟩
  · rename_i isEmpty
    have isEmpty : backend.off = 0 := not_not.mp isEmpty
    cases ok
    apply (Outbox.Empties.of_cleared (List.length_eq_zero_iff.mp isEmpty)).congr
    exact iff_of_true trivial (.inl isEmpty)

theorem sendHandshake_eq_error {returned : Int × PicotlsBackend}
    (error : backend.sendHandshake answer = .error returned) : returned.1 = -1 := by
  rw [sendHandshake] at error
  split at error
  · dsimp only [transmit] at error
    split at error
    · cases error
      rfl
    · cases error
  · cases error

/-- How a round ends once its bytes are sent. -/
theorem exchange_of_sent {round : Round} {bytes : List UInt8} {next : PicotlsBackend}
    (read : round.read = some bytes)
    (sent : sendHandshake { backend.prepare round.handshake.appended with
      recvBuffer := (backend.recvBuffer ++ bytes).drop round.processed } round.write = .ok next) :
    backend.exchange round =
      match round.handshake.status with
      | .success => .error (0, next)
      | .inProgress => .ok next
      | .error => .error (-1, next) := by
  rw [exchange, read]
  dsimp only
  rw [sent]
  rfl

/-- A round whose bytes are not sent fails. -/
theorem exchange_of_unsent {round : Round} {bytes : List UInt8} {returned : Int × PicotlsBackend}
    (read : round.read = some bytes)
    (unsent : sendHandshake { backend.prepare round.handshake.appended with
      recvBuffer := (backend.recvBuffer ++ bytes).drop round.processed } round.write =
        .error returned) :
    backend.exchange round = .error (-1, returned.2) := by
  rw [exchange, read]
  dsimp only
  rw [unsent, ← sendHandshake_eq_error unsent]
  rfl

/-- A round that does not fail has sent its bytes; the status of picotls says
whether the handshake goes on. -/
theorem exchange_sent {round : Round} {after : PicotlsBackend}
    (succeeds : backend.exchange round = .ok after ∨
      backend.exchange round = .error (0, after)) :
    (∃ received, { backend.prepare round.handshake.appended with
        recvBuffer := received }.sendHandshake round.write = .ok after) ∧
      (backend.exchange round = .ok after ↔ round.handshake.status = .inProgress) := by
  cases read : round.read with
  | none =>
      rw [exchange, read] at succeeds
      rcases succeeds with ok | returned
      · cases ok
      · cases returned
  | some bytes =>
      cases sent : sendHandshake { backend.prepare round.handshake.appended with
          recvBuffer := (backend.recvBuffer ++ bytes).drop round.processed } round.write with
      | error result =>
          rw [exchange_of_unsent read sent] at succeeds
          rcases succeeds with ok | returned
          · cases ok
          · cases returned
      | ok next =>
          rw [exchange_of_sent read sent] at succeeds ⊢
          cases status : round.handshake.status with
          | success =>
              rw [status] at succeeds
              cases succeeds.resolve_left nofun
              exact ⟨⟨_, sent⟩, iff_of_false nofun nofun⟩
          | inProgress =>
              rw [status] at succeeds
              cases succeeds.resolve_right nofun
              exact ⟨⟨_, sent⟩, iff_of_true rfl rfl⟩
          | error =>
              rw [status] at succeeds
              rcases succeeds with ok | returned
              · cases ok
              · cases returned

/-- The round as a whole, from the bytes it finds in the buffer. -/
theorem exchange_empties {round : Round} {after : PicotlsBackend}
    (succeeds : backend.exchange round = .ok after ∨
      backend.exchange round = .error (0, after)) :
    Outbox.Empties
      (backend.off + round.handshake.appended.length = 0 ∨
        round.write.TakesAll (backend.off + round.handshake.appended.length))
      backend.encodeBuffer after.encodeBuffer := by
  rcases (exchange_sent succeeds).1 with ⟨received, sent⟩
  have pending : PicotlsBackend.off { backend.prepare round.handshake.appended with
      recvBuffer := received } = backend.off + round.handshake.appended.length := by
    rw [off, prepare, Outbox.append, List.length_append, List.length_zipIdx, off]
  rw [← pending]
  exact (sendHandshake_empties sent).after_append

/-- A successful handshake delivers its bytes exactly when the transport takes
them round by round. -/
theorem exchanges_empties {rounds : List Round} {last : PicotlsBackend}
    (returned : backend.exchanges rounds = some (0, last)) :
    Outbox.Empties (RoundsTaken backend.off rounds) backend.encodeBuffer
      last.encodeBuffer := by
  induction rounds generalizing backend with
  | nil => cases returned
  | cons round rounds induction =>
      rw [RoundsTaken]
      cases exchanged : backend.exchange round with
      | ok next =>
          rw [exchanges, exchanged] at returned
          have inProgress := (exchange_sent (.inl exchanged)).2.mp exchanged
          have first := exchange_empties (.inl exchanged)
          have rest := induction returned
          have nextOff : next.off = 0 := List.length_eq_zero_iff.mpr first.cleared
          rw [nextOff] at rest
          apply (first.trans rest).congr
          exact and_congr_right' (imp_iff_right inProgress).symm
      | error result =>
          rw [exchanges, exchanged] at returned
          rw [Option.some.inj returned] at exchanged
          have finished : round.handshake.status ≠ .inProgress := by
            intro inProgress
            rw [(exchange_sent (.inr exchanged)).2.mpr inProgress] at exchanged
            cases exchanged
          apply (exchange_empties (.inr exchanged)).congr
          exact (and_iff_left fun inProgress => absurd inProgress finished).symm

theorem handshake_empties {first : PtlsAnswer} {rounds : List Round} {last : PicotlsBackend}
    (returned : backend.handshake first rounds = some (0, last)) :
    Outbox.Empties (RoundsTaken (backend.off + first.appended.length) rounds)
      backend.encodeBuffer last.encodeBuffer := by
  have pending : PicotlsBackend.off { backend.prepare first.appended with recvBuffer := [] } =
      backend.off + first.appended.length := by
    rw [off, prepare, Outbox.append, List.length_append, List.length_zipIdx, off]
  rw [handshake] at returned
  split at returned
  · cases returned
  · rw [← pending]
    exact (exchanges_empties returned).after_append

/-- A successful write has sent a prefix of the buffer whose length is, as an
`int`, that of the whole buffer. -/
theorem write_eq_success {send : PtlsAnswer} {last : PicotlsBackend}
    (returned : backend.write send answer = (0, last)) :
    answer.returned (backend.off + send.appended.length) =
        staticCastInt (backend.off + send.appended.length) ∧
      last.encodeBuffer = (backend.encodeBuffer.append send.appended).offer
        (answer.count (backend.off + send.appended.length)) := by
  have failure : (-1 : Int) ≠ 0 := by decide
  have offered : (backend.prepare send.appended).off =
      backend.off + send.appended.length := by
    rw [off, prepare, Outbox.append, List.length_append, List.length_zipIdx, off]
  rw [write] at returned
  split at returned
  · exact absurd (Prod.mk.inj returned).1 failure
  · dsimp only [transmit] at returned
    rw [offered] at returned
    split at returned
    · exact absurd (Prod.mk.inj returned).1 failure
    · rename_i same
      rw [← (Prod.mk.inj returned).2]
      exact ⟨not_not.mp same, rfl⟩

/-- After a write that delivers everything the next one sends it again, unless
there was nothing. -/
theorem write_delivered_iff {send : PtlsAnswer} {last : PicotlsBackend}
    (returned : backend.write send answer = (0, last))
    (delivered : backend.encodeBuffer.Delivered)
    (held : ∀ item ∈ backend.encodeBuffer.buffer, item ∈ backend.encodeBuffer.stream)
    (fits : backend.off ≤ 2 ^ 31 - 1) :
    last.encodeBuffer.Delivered ↔
      backend.encodeBuffer.buffer = [] ∧ answer.TakesAll send.appended.length := by
  rcases write_eq_success returned with ⟨status, sent⟩
  rw [sent, Outbox.delivered_append_offer_iff delivered held]
  split
  · rename_i cleared
    have offered : backend.off + send.appended.length = send.appended.length := by
      rw [off, cleared, List.length_nil, Nat.zero_add]
    rw [offered] at status ⊢
    rw [and_iff_right cleared]
    constructor
    · intro takes
      have fits := Nat.le_trans takes (answer.count_fits send.appended.length)
      exact WriteAnswer.takesAll_of_returned status fits
    · exact WriteAnswer.le_count_of_takesAll
  · rename_i uncleared
    refine iff_of_false ?_ (fun both => uncleared both.1)
    rintro ⟨takesNone, nothingNew⟩
    rw [nothingNew, List.length_nil, Nat.add_zero] at status takesNone
    have takes := WriteAnswer.le_count_of_takesAll
      (WriteAnswer.takesAll_of_returned status fits)
    have nonempty : 0 < backend.off := List.length_pos_iff.mpr uncleared
    omega

end Exchange

end PicotlsBackend

section Sessions

/-- What the buffer holds has been delivered, and before the handshake nothing
has happened. -/
structure Held (session : Session) : Prop where
  fresh : session.handshaken = false → session.backend = .create
  held : ∀ item ∈ session.backend.encodeBuffer.buffer,
    item ∈ session.backend.encodeBuffer.stream
  fits : session.backend.encodeBuffer.buffer.length ≤ 2 ^ 31 - 1

theorem held_initial : Held .initial where
  fresh := fun _ => rfl
  held := fun _ held => absurd held List.not_mem_nil
  fits := Nat.zero_le _

theorem call_handshake {session next : Session} {first : PtlsAnswer} {rounds : List Round}
    (step : session.call (.handshake first rounds) = some next) :
    ∃ backend, session.backend.handshake first rounds = some (0, backend) ∧
      next = ⟨backend, true⟩ := by
  rw [Session.call] at step
  rcases Option.bind_eq_some_iff.mp step with ⟨⟨status, backend⟩, returned, isNext⟩
  dsimp only at isNext
  split at isNext
  · rename_i success
    rw [success] at returned
    exact ⟨backend, returned, (Option.some.inj isNext).symm⟩
  · cases isNext

theorem call_write {session next : Session} {send : PtlsAnswer} {answer : WriteAnswer}
    (step : session.call (.write send answer) = some next) :
    ∃ backend, session.backend.write send answer = (0, backend) ∧
      next = { session with backend } := by
  rw [Session.call] at step
  dsimp only at step
  split at step
  · rename_i success
    exact ⟨(session.backend.write send answer).2, Prod.ext success rfl,
      (Option.some.inj step).symm⟩
  · cases step

theorem call_delivered_iff {session next : Session} {call : Call} (held : Held session)
    (delivered : session.Delivered) (enabled : Session.machine.Enabled session call)
    (step : Session.machine.step session call = some next) :
    next.Delivered ↔ session.Taken call := by
  cases call with
  | handshake first rounds =>
      rcases call_handshake step with ⟨backend, returned, rfl⟩
      have fresh := held.fresh enabled
      have empties := PicotlsBackend.handshake_empties returned
      rw [fresh] at empties
      have offered : PicotlsBackend.create.off + first.appended.length =
          first.appended.length := Nat.zero_add _
      rw [offered] at empties
      exact empties.delivered_iff Outbox.empty_conserved
  | write send answer =>
      rcases call_write step with ⟨backend, returned, rfl⟩
      exact PicotlsBackend.write_delivered_iff returned delivered held.held held.fits

theorem Held.step {session next : Session} {call : Call} (held : Held session)
    (taken : session.Taken call) (enabled : Session.machine.Enabled session call)
    (step : Session.machine.step session call = some next) : Held next := by
  cases call with
  | handshake first rounds =>
      rcases call_handshake step with ⟨backend, returned, rfl⟩
      have cleared : backend.encodeBuffer.buffer = [] :=
        (PicotlsBackend.handshake_empties returned).cleared
      constructor
      case fresh => exact nofun
      case held =>
        rw [cleared]
        exact List.forall_mem_nil _
      case fits =>
        rw [cleared]
        exact Nat.zero_le _
  | write send answer =>
      rcases call_write step with ⟨backend, returned, rfl⟩
      have sent := (PicotlsBackend.write_eq_success returned).2
      have takes := WriteAnswer.le_count_of_takesAll taken.2
      constructor
      case fresh =>
        intro notYet
        cases enabled.symm.trans notYet
      case held =>
        rw [sent]
        exact Outbox.append_held held.held send.appended
      case fits =>
        rw [sent, Outbox.offer, Outbox.append, taken.1, List.nil_append, List.length_zipIdx]
        exact Nat.le_trans takes (answer.count_fits send.appended.length)

/-- In every session all bytes are delivered, throughout, exactly when the
transport takes all it is offered and no write finds bytes in the buffer. -/
theorem delivered_throughout_iff {calls : List Call} {last : Session}
    (run : Session.machine.Run .initial calls last) :
    Session.machine.Throughout Session.Delivered .initial calls ↔
      Session.machine.EveryStep Session.Taken .initial calls := by
  apply run.throughout_iff_everyStep Held
  case preserved =>
    intro session call next held _ taken enabled step
    exact held.step taken enabled step
  case exactStep =>
    intro session call next held delivered enabled step
    exact call_delivered_iff held delivered enabled step
  case initialAuxiliary => exact held_initial
  case initially => rfl

/-- A handshake of one round, and two writes of one byte each, to a transport
with room for all of it. -/
def twoWrites : List Call := [
  .handshake ⟨.inProgress, [1]⟩ [⟨some [22], ⟨.success, [2]⟩, 1, .takes 8⟩],
  .write ⟨.success, [3]⟩ (.takes 8),
  .write ⟨.success, [4]⟩ (.takes 8)]

/-- The session after them. -/
def afterTwoWrites : Session where
  backend := {
    encodeBuffer := {
      appended := [1, 2, 3, 4]
      buffer := [(3, 2), (4, 3)]
      accepted := [(1, 0), (2, 1), (3, 2), (3, 2), (4, 3)] }
    recvBuffer := [] }
  handshaken := true

theorem twoWrites_run : Session.machine.Run .initial twoWrites afterTwoWrites :=
  .of_execute (by decide)

theorem delivered_throughout_iff_twoWrites :
    Session.machine.Throughout Session.Delivered .initial twoWrites ↔
      Session.machine.EveryStep Session.Taken .initial twoWrites :=
  delivered_throughout_iff twoWrites_run

/-- The second write sends the byte of the first one again. -/
theorem twoWrites_sentAgain :
    ¬(∀ (calls : List Call) (last : Session), Session.machine.Run .initial calls last →
      last.Delivered) := by
  intro all
  have delivered : afterTwoWrites.backend.encodeBuffer.accepted =
      afterTwoWrites.backend.encodeBuffer.stream := all twoWrites afterTwoWrites twoWrites_run
  exact absurd delivered (by decide)

end Sessions

end PigweedExperimental.Tls
