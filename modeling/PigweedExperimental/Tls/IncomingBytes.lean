import PigweedExperimental.Foundation.Execution
import PigweedExperimental.Foundation.Transducer
import PigweedExperimental.Tls.OutgoingBytes
import PigweedExperimental.Tls.PicotlsRead

namespace PigweedExperimental.Tls

/-! # What the caller gets of the server's bytes

A connection makes calls one after another, and the loops of a handshake and of
a read go round by round. To picotls the raw bytes are a stream, of which it
processes as many as it likes at a time.
-/

namespace Connection

/-- The call that a loop is in. -/
inductive Phase where
  | idle
  | handshaking
  | reading (size : Nat)
  deriving DecidableEq, Repr

def Phase.isReading : Phase → Bool
  | .reading _ => true
  | .idle | .handshaking => false

theorem Phase.isReading_iff {phase : Phase} : phase.isReading ↔ ∃ size, phase = .reading size := by
  cases phase <;> simp [isReading]

inductive Event where
  | handshake (first : PtlsAnswer)
  | exchange (round : Round)
  | write (send : PtlsAnswer) (answer : WriteAnswer)
  | read (size : Nat)
  | receive (receipt : Receipt)
  deriving DecidableEq

end Connection

/-- The backend between two steps, with the bytes that the transport gave, those
that picotls processed, and those that the caller got. -/
structure Connection where
  reading : ReadingBackend
  phase : Connection.Phase
  received : List UInt8
  processed : List UInt8
  delivered : List UInt8
  deriving DecidableEq, Repr

namespace Connection

def initial : Connection where
  reading := .create
  phase := .idle
  received := []
  processed := []
  delivered := []

/-- The raw bytes in `recv_buffer_`. -/
def held (connection : Connection) : List UInt8 :=
  connection.reading.backend.recvBuffer

/-- The bytes as they went through `recv_buffer_`, picotls and `read_buffer_`. -/
def pipe (connection : Connection) : Pipe UInt8 UInt8 where
  received := connection.received
  processed := connection.processed
  delivered := connection.delivered
  waitingInput := connection.held
  waitingOutput := connection.reading.readBuffer

/-- The bytes of a round, of which picotls processes some. -/
def observe (connection : Connection) (read : Option (List UInt8)) (processed : Nat) :
    Connection :=
  match read with
  | none => connection
  | some bytes =>
      { connection with
        received := connection.received ++ bytes
        processed := connection.processed ++ (connection.held ++ bytes).take processed }

/-- A call that only touches the sending side and `recv_buffer_`. -/
def withBackend (connection : Connection) (phase : Phase) (backend : PicotlsBackend) :
    Connection :=
  { connection with reading := { connection.reading with backend }, phase }

/-- The first part of a handshake empties `recv_buffer_`, unless it fails. -/
def beginHandshake (connection : Connection) (first : PtlsAnswer) : Connection :=
  let prepared := connection.reading.backend.prepare first.appended
  if first.status ≠ .inProgress then
    connection.withBackend .idle prepared
  else
    connection.withBackend .handshaking { prepared with recvBuffer := [] }

def exchange (connection : Connection) (round : Round) : Connection :=
  let observed := connection.observe round.read round.processed
  match connection.reading.backend.exchange round with
  | .ok backend => observed.withBackend .handshaking backend
  | .error (_, backend) => observed.withBackend .idle backend

def receive (connection : Connection) (size : Nat) (receipt : Receipt) : Option Connection :=
  let observed := connection.observe receipt.read receipt.processed
  match connection.reading.receive size receipt with
  | .ok reading => some { observed with reading }
  | .error (.returned _ copied reading) =>
      some { observed with
        reading
        phase := .idle
        delivered := connection.delivered ++ copied }
  | .error .aborted => none

def step (connection : Connection) : Event → Option Connection
  | .handshake first => some (connection.beginHandshake first)
  | .exchange round => some (connection.exchange round)
  | .write send answer =>
      some (connection.withBackend .idle (connection.reading.backend.write send answer).2)
  | .read size => some { connection with phase := .reading size }
  | .receive receipt =>
      match connection.phase with
      | .reading size => connection.receive size receipt
      | .idle | .handshaking => none

/-- The transport fills at most the rest of `recv_buffer_`, and picotls processes
some of what is there and puts out what it means. -/
def Answers (picotls : Transducer State UInt8 UInt8) (connection : Connection)
    (read : Option (List UInt8)) (processed : Nat) (plaintext : List UInt8) : Prop :=
  ∀ bytes ∈ read,
    bytes.length ≤ recvBufferSize - connection.held.length ∧
      processed ≤ (connection.held ++ bytes).length ∧
      plaintext = picotls.output (picotls.after picotls.initial connection.processed)
        ((connection.held ++ bytes).take processed)

/-- Calls come when no other is under way, and the rounds of a loop while it
runs. A handshake puts out nothing for the caller. -/
def machine (picotls : Transducer State UInt8 UInt8) : Machine Connection Event where
  Enabled connection event :=
    match event with
    | .handshake _ | .write .. | .read _ => connection.phase = .idle
    | .exchange round =>
        connection.phase = .handshaking ∧
          Answers picotls connection round.read round.processed []
    | .receive receipt =>
        connection.phase.isReading ∧
          Answers picotls connection receipt.read receipt.processed receipt.receive.appended
  step := step

instance (picotls : Transducer State UInt8 UInt8) (connection : Connection)
    (read : Option (List UInt8)) (processed : Nat) (plaintext : List UInt8) :
    Decidable (Answers picotls connection read processed plaintext) :=
  inferInstanceAs (Decidable (∀ _ ∈ _, _))

instance (picotls : Transducer State UInt8 UInt8) (connection : Connection) (event : Event) :
    Decidable ((machine picotls).Enabled connection event) :=
  match event with
  | .handshake _ | .write .. | .read _ => inferInstanceAs (Decidable (connection.phase = .idle))
  | .exchange _ | .receive _ => inferInstanceAs (Decidable (_ ∧ Answers ..))

/-- A handshake finds `recv_buffer_` empty, and picotls has processed nothing
when it reports an error in a read. -/
def Undisturbed (connection : Connection) : Event → Prop
  | .handshake first => first.status = .inProgress → connection.held = []
  | .receive receipt =>
      receipt.read.isSome → receipt.receive.status = .error → receipt.processed = 0
  | .exchange _ | .write .. | .read _ => True

/-- The bytes are handed on in order, and `recv_buffer_` is not overrun. -/
structure InOrder (picotls : Transducer State UInt8 UInt8) (connection : Connection) :
    Prop where
  inOrder : connection.pipe.InOrder picotls
  fits : connection.held.length ≤ recvBufferSize

end Connection

namespace PicotlsBackend

variable {backend after : PicotlsBackend} {answer : WriteAnswer}

/-- What a round leaves, whether it ends the loop or not. -/
def LeavesRound (result : Except (Int × PicotlsBackend) PicotlsBackend)
    (after : PicotlsBackend) : Prop :=
  result = .ok after ∨ ∃ status, result = .error (status, after)

/-- Sending does not touch `recv_buffer_`. -/
theorem sendHandshake_recvBuffer (leaves : LeavesRound (backend.sendHandshake answer) after) :
    after.recvBuffer = backend.recvBuffer := by
  rw [sendHandshake] at leaves
  split at leaves
  · dsimp only [transmit] at leaves
    split at leaves
    · rcases leaves with ok | ⟨status, error⟩
      · cases ok
      · cases error
        rfl
    · rcases leaves with ok | ⟨status, error⟩
      · cases ok
        rfl
      · cases error
  · rcases leaves with ok | ⟨status, error⟩
    · cases ok
      rfl
    · cases error

theorem exchange_recvBuffer {round : Round} {bytes : List UInt8}
    (read : round.read = some bytes) (leaves : LeavesRound (backend.exchange round) after) :
    after.recvBuffer = (backend.recvBuffer ++ bytes).drop round.processed := by
  let prepared := { backend.prepare round.handshake.appended with
    recvBuffer := (backend.recvBuffer ++ bytes).drop round.processed }
  cases sent : prepared.sendHandshake round.write with
  | error result =>
      rw [exchange_of_unsent read sent] at leaves
      rcases leaves with ok | ⟨status, error⟩
      · cases ok
      · cases error
        exact sendHandshake_recvBuffer (.inr ⟨_, sent⟩)
  | ok next =>
      have kept : next.recvBuffer = prepared.recvBuffer :=
        sendHandshake_recvBuffer (.inl sent)
      rw [exchange_of_sent read sent] at leaves
      split at leaves <;> rcases leaves with ok | ⟨status, error⟩
      · cases ok
      · cases error
        exact kept
      · cases ok
        exact kept
      · cases error
      · cases ok
      · cases error
        exact kept

theorem write_recvBuffer (send : PtlsAnswer) :
    (backend.write send answer).2.recvBuffer = backend.recvBuffer := by
  rw [write]
  split
  · rfl
  · dsimp only [transmit]
    split <;> rfl

end PicotlsBackend

namespace Connection

section Steps

variable {picotls : Transducer State UInt8 UInt8} {connection next : Connection}

/-- The pipe after the bytes of a round have been read and processed, up to what
is then left in `recv_buffer_`. -/
theorem processed_iff (inOrder : connection.pipe.InOrder picotls) {bytes : List UInt8}
    {processed : Nat} {plaintext : List UInt8}
    (answers : Answers picotls connection (some bytes) processed plaintext)
    (left : List UInt8) :
    Pipe.InOrder picotls {
      received := connection.received ++ bytes
      processed := connection.processed ++ (connection.held ++ bytes).take processed
      delivered := connection.delivered
      waitingInput := left
      waitingOutput := connection.reading.readBuffer ++ plaintext } ↔
      left = (connection.held ++ bytes).drop processed := by
  have produced := (answers bytes rfl).2.2
  have received := inOrder.receive bytes
  apply received.process_iff left
  rw [produced]
  exact picotls.decode_append _ _

theorem step_handshake_iff (inOrder : connection.pipe.InOrder picotls) (first : PtlsAnswer) :
    (connection.beginHandshake first).pipe.InOrder picotls ↔
      connection.Undisturbed (.handshake first) := by
  rw [beginHandshake]
  split
  · rename_i failed
    exact iff_of_true inOrder (fun inProgress => absurd inProgress failed)
  · rename_i inProgress
    apply (inOrder.replace_iff []).trans
    rw [Undisturbed, imp_iff_right (not_not.mp inProgress), eq_comm]
    rfl

/-- A round of the handshake leaves what `exchange` of the backend does. -/
theorem exchange_leaves (connection : Connection) (round : Round) :
    ∃ phase after,
      PicotlsBackend.LeavesRound (connection.reading.backend.exchange round) after ∧
      connection.exchange round =
        (connection.observe round.read round.processed).withBackend phase after := by
  cases exchanged : connection.reading.backend.exchange round with
  | ok after =>
      refine ⟨.handshaking, after, .inl rfl, ?_⟩
      rw [exchange, exchanged]
  | error result =>
      refine ⟨.idle, result.2, .inr ⟨result.1, rfl⟩, ?_⟩
      rw [exchange, exchanged]

theorem exchange_unread {round : Round} (unread : round.read = none) :
    (connection.exchange round).pipe = connection.pipe := by
  have failed : connection.reading.backend.exchange round =
      .error (-1, connection.reading.backend) := by
    rw [PicotlsBackend.exchange, unread]
  rw [exchange, failed, unread]
  rfl

theorem step_exchange (inOrder : InOrder picotls connection) {round : Round}
    (answers : Answers picotls connection round.read round.processed []) :
    InOrder picotls (connection.exchange round) := by
  cases read : round.read with
  | none =>
      have same := @exchange_unread connection round read
      constructor
      case inOrder =>
        rw [same]
        exact inOrder.inOrder
      case fits => exact (congrArg (·.waitingInput.length) same).trans_le inOrder.fits
  | some bytes =>
      rcases exchange_leaves connection round with ⟨phase, after, leaves, result⟩
      have held := PicotlsBackend.exchange_recvBuffer read leaves
      rw [read] at answers result
      rw [result]
      constructor
      case inOrder =>
        have processed := (processed_iff inOrder.inOrder answers after.recvBuffer).mpr held
        rw [List.append_nil] at processed
        exact processed
      case fits =>
        have room := (answers bytes rfl).1
        have fits := inOrder.fits
        have length := congrArg List.length held
        rw [List.length_drop, List.length_append] at length
        change after.recvBuffer.length ≤ recvBufferSize
        rw [Connection.held] at room fits
        omega

/-- A round of a read goes on without bytes for the caller, or ends with some. -/
theorem copyOut_inOrder {size : Nat} {reading : ReadingBackend}
    (inOrder : ({ connection with reading } : Connection).pipe.InOrder picotls) :
    reading.copyOut size = .ok reading ∨
      ∃ copied readBuffer, reading.copyOut size =
          .error (.returned (staticCastInt copied.length) copied { reading with readBuffer }) ∧
        Pipe.InOrder picotls {
          received := connection.received
          processed := connection.processed
          delivered := connection.delivered ++ copied
          waitingInput := reading.backend.recvBuffer
          waitingOutput := readBuffer } := by
  by_cases nothing : reading.readBuffer = []
  case pos => exact .inl (reading.copyOut_of_nothing size nothing)
  case neg =>
    have delivered := inOrder.deliver (min size reading.readBuffer.length)
    refine .inr ⟨reading.readBuffer.take (min size reading.readBuffer.length),
      reading.readBuffer.drop (min size reading.readBuffer.length), ?_, delivered⟩
    rw [ReadingBackend.copyOut_of_waiting size nothing, List.length_take,
      Nat.min_eq_left (Nat.min_le_right size reading.readBuffer.length)]

theorem receive_eq_of_unread {size : Nat} {receipt : Receipt} (unread : receipt.read = none)
    (step : connection.receive size receipt = some next) :
    next.pipe = connection.pipe := by
  have failed : connection.reading.receive size receipt =
      .error (.returned (-1) [] connection.reading) := by
    rw [ReadingBackend.receive, unread]
  rw [receive, failed, unread] at step
  cases step
  rw [pipe, List.append_nil]
  rfl

theorem receive_eq_of_error {size : Nat} {receipt : Receipt} {bytes : List UInt8}
    (read : receipt.read = some bytes) (error : receipt.receive.status = .error)
    (step : connection.receive size receipt = some next) :
    next.pipe = {
      received := connection.received ++ bytes
      processed := connection.processed ++ (connection.held ++ bytes).take receipt.processed
      delivered := connection.delivered
      waitingInput := connection.held ++ bytes
      waitingOutput := connection.reading.readBuffer ++ receipt.receive.appended } := by
  have failed : connection.reading.receive size receipt =
      .error (.returned (-1) [] (connection.reading.holding (connection.held ++ bytes)
        (connection.reading.readBuffer ++ receipt.receive.appended))) := by
    rw [ReadingBackend.receive, read]
    exact if_pos error
  rw [receive, failed, read] at step
  cases step
  rw [pipe, List.append_nil]
  rfl

/-- Without an error of picotls the order is kept. -/
theorem receive_inOrder {size : Nat} {receipt : Receipt} {bytes : List UInt8}
    (inOrder : connection.pipe.InOrder picotls) (read : receipt.read = some bytes)
    (noError : receipt.receive.status ≠ .error)
    (answers : Answers picotls connection (some bytes) receipt.processed
      receipt.receive.appended)
    (step : connection.receive size receipt = some next) :
    next.pipe.InOrder picotls ∧
      next.held = (connection.held ++ bytes).drop receipt.processed := by
  let reading := connection.reading.holding
    ((connection.held ++ bytes).drop receipt.processed)
    (connection.reading.readBuffer ++ receipt.receive.appended)
  let observed : Connection := { connection.observe (some bytes) receipt.processed with reading }
  have continues : connection.reading.receive size receipt = reading.copyOut size := by
    rw [ReadingBackend.receive, read]
    exact if_neg noError
  have processed : observed.pipe.InOrder picotls :=
    (processed_iff inOrder answers _).mpr rfl
  rw [receive, continues, read] at step
  have ended := @copyOut_inOrder _ picotls observed size reading processed
  rcases ended with again | ⟨copied, left, returned, delivered⟩
  · rw [again] at step
    cases step
    exact ⟨processed, rfl⟩
  · rw [returned] at step
    cases step
    exact ⟨delivered, rfl⟩

theorem step_receive_iff (inOrder : InOrder picotls connection) {size : Nat}
    {receipt : Receipt}
    (answers : Answers picotls connection receipt.read receipt.processed
      receipt.receive.appended)
    (step : connection.receive size receipt = some next) :
    InOrder picotls next ↔ connection.Undisturbed (.receive receipt) := by
  have fits := inOrder.fits
  rw [Undisturbed]
  cases read : receipt.read with
  | none =>
      have same := receive_eq_of_unread read step
      apply iff_of_true _ nofun
      constructor
      case inOrder =>
        rw [same]
        exact inOrder.inOrder
      case fits => exact (congrArg (·.waitingInput.length) same).trans_le fits
  | some bytes =>
      rw [read] at answers
      rcases answers bytes rfl with ⟨room, within, _⟩
      have length : (connection.held ++ bytes).length ≤ recvBufferSize := by
        rw [List.length_append]
        omega
      rw [imp_iff_right (show (some bytes).isSome = true from rfl)]
      by_cases error : receipt.receive.status = .error
      case pos =>
        have after := receive_eq_of_error read error step
        have exact := processed_iff inOrder.inOrder answers (connection.held ++ bytes)
        rw [imp_iff_right error]
        constructor
        · intro nextInOrder
          have kept := nextInOrder.inOrder
          rw [after] at kept
          have lengths := congrArg List.length (exact.mp kept)
          rw [List.length_drop] at lengths
          omega
        · intro nothing
          constructor
          case inOrder =>
            rw [after]
            apply exact.mpr
            rw [nothing, List.drop_zero]
          case fits => exact (congrArg (·.waitingInput.length) after).trans_le length
      case neg =>
        rcases receive_inOrder inOrder.inOrder read error answers step with ⟨kept, held⟩
        refine iff_of_true ⟨kept, ?_⟩ (fun isError => absurd isError error)
        rw [held, List.length_drop]
        exact Nat.le_trans (Nat.sub_le _ _) length

/-- A step keeps the order exactly when it is undisturbed. -/
theorem step_inOrder_iff (inOrder : InOrder picotls connection) {event : Event}
    (enabled : (machine picotls).Enabled connection event)
    (step : (machine picotls).step connection event = some next) :
    InOrder picotls next ↔ connection.Undisturbed event := by
  cases event with
  | handshake first =>
      cases step
      have keeps := step_handshake_iff inOrder.inOrder first
      constructor
      · exact fun nextInOrder => keeps.mp nextInOrder.inOrder
      · intro undisturbed
        refine ⟨keeps.mpr undisturbed, ?_⟩
        rw [beginHandshake]
        split
        · exact inOrder.fits
        · exact Nat.zero_le _
  | exchange round =>
      cases step
      exact iff_of_true (step_exchange inOrder enabled.2) trivial
  | write send answer =>
      cases step
      have kept : (connection.withBackend .idle
          (connection.reading.backend.write send answer).2).held = connection.held :=
        PicotlsBackend.write_recvBuffer send
      apply iff_of_true _ trivial
      constructor
      case inOrder =>
        rw [pipe, kept]
        exact inOrder.inOrder
      case fits => exact kept.symm ▸ inOrder.fits
  | read size =>
      cases step
      exact iff_of_true ⟨inOrder.inOrder, inOrder.fits⟩ trivial
  | receive receipt =>
      rcases enabled with ⟨isReading, answers⟩
      rcases Phase.isReading_iff.mp isReading with ⟨size, reading⟩
      change (match connection.phase with
        | .reading size => connection.receive size receipt
        | .idle | .handshaking => none) = some next at step
      rw [reading] at step
      exact step_receive_iff inOrder answers step

end Steps

section Runs

variable (picotls : Transducer State UInt8 UInt8)

theorem inOrder_initial : InOrder picotls .initial where
  inOrder := ⟨rfl, rfl⟩
  fits := Nat.zero_le _

/-- No assertion fails, whatever the transport and picotls do. -/
theorem step_isSome {connection : Connection} {event : Event}
    (enabled : (machine picotls).Enabled connection event) :
    ∃ next, (machine picotls).step connection event = some next := by
  cases event with
  | handshake => exact ⟨_, rfl⟩
  | exchange => exact ⟨_, rfl⟩
  | write => exact ⟨_, rfl⟩
  | read => exact ⟨_, rfl⟩
  | receive receipt =>
      rcases Phase.isReading_iff.mp enabled.1 with ⟨size, reading⟩
      have returns := connection.reading.receive_ne_aborted size receipt
      change ∃ next, (match connection.phase with
        | .reading size => connection.receive size receipt
        | .idle | .handshaking => none) = some next
      rw [reading]
      dsimp only
      rw [receive]
      split
      · exact ⟨_, rfl⟩
      · exact ⟨_, rfl⟩
      · rename_i aborted
        exact absurd aborted returns

section Undisturbed

variable {picotls} {events : List Event} {last : Connection}

theorem throughout_of_undisturbed {property : Connection → Prop}
    (entails : ∀ connection, InOrder picotls connection → property connection)
    (run : (machine picotls).Run .initial events last)
    (undisturbed : (machine picotls).EveryStep Undisturbed .initial events) :
    (machine picotls).Throughout property .initial events := by
  apply run.throughout_of_everyStep (InOrder picotls) _ entails _ undisturbed
  · intro connection event next inOrder isUndisturbed enabled step
    exact (step_inOrder_iff inOrder enabled step).mpr isUndisturbed
  · exact inOrder_initial picotls

theorem inOrder_of_undisturbed (run : (machine picotls).Run .initial events last)
    (undisturbed : (machine picotls).EveryStep Undisturbed .initial events) :
    InOrder picotls last :=
  run.finally_of_throughout (throughout_of_undisturbed (fun _ => id) run undisturbed)

end Undisturbed

/-- The bytes are accounted for throughout a sequence of calls (what was received is
what was processed and what is in `recv_buffer_`, and the text of what was processed is
what the caller got and what is in `read_buffer_`) exactly when no handshake finds
`recv_buffer_` filled and no failing `ptls_receive` has processed any of it. What the
caller got is then, throughout, the beginning of the decoded stream. -/
theorem inOrder_throughout_iff {events : List Event} {last : Connection}
    (run : (machine picotls).Run .initial events last) :
    ((machine picotls).Throughout (InOrder picotls) .initial events ↔
      (machine picotls).EveryStep Undisturbed .initial events) ∧
    ((machine picotls).EveryStep Undisturbed .initial events →
      (machine picotls).Throughout
        (fun connection => connection.delivered <+: picotls.decode connection.received)
        .initial events) := by
  constructor
  · apply run.throughout_iff_everyStep fun _ => True
    case preserved => exact fun _ _ _ _ _ _ _ _ => trivial
    case exactStep =>
      intro connection event next _ inOrder enabled step
      exact step_inOrder_iff inOrder enabled step
    case initialAuxiliary => exact trivial
    case initially => exact inOrder_initial picotls
  · apply throughout_of_undisturbed _ run
    intro connection inOrder
    exact inOrder.inOrder.delivered_prefix

variable {picotls}

/-- However the same bytes arrive and are asked for, one caller gets the beginning
of what the other one gets. -/
theorem delivered_comparable {leftEvents rightEvents : List Event} {left right : Connection}
    (leftRun : (machine picotls).Run .initial leftEvents left)
    (rightRun : (machine picotls).Run .initial rightEvents right)
    (leftUndisturbed : (machine picotls).EveryStep Undisturbed .initial leftEvents)
    (rightUndisturbed : (machine picotls).EveryStep Undisturbed .initial rightEvents)
    (sameBytes : left.received <+: right.received) :
    left.delivered <+: right.delivered ∨ right.delivered <+: left.delivered := by
  have fromLeft := (inOrder_of_undisturbed leftRun leftUndisturbed).inOrder.delivered_prefix
  have fromRight := (inOrder_of_undisturbed rightRun rightUndisturbed).inOrder.delivered_prefix
  apply List.prefix_or_prefix_of_prefix _ fromRight
  exact fromLeft.trans (picotls.decode_prefix sameBytes)

end Runs

/-- Records of one byte for the length and that many bytes of text, which are
masked. The state counts the bytes that the record still has. -/
def maskedRecords : Transducer Nat UInt8 UInt8 where
  initial := 0
  step left byte :=
    if left = 0 then (byte.toNat, []) else (left - 1, [byte ^^^ 0x20])

/-- A handshake of a record without text; two records that come in three pieces,
and reads of one, five and five bytes, of which the last fails and is repeated. -/
def splitRecords : List Event := [
  .handshake ⟨.inProgress, [1]⟩,
  .exchange ⟨some [0, 3], ⟨.success, [2]⟩, 1, .takes 8⟩,
  .read 1,
  .receive ⟨some [0x41], ⟨.success, [0x61]⟩, 2⟩,
  .write ⟨.success, [3]⟩ (.takes 8),
  .read 5,
  .receive ⟨some [], ⟨.inProgress, []⟩, 0⟩,
  .receive ⟨some [0x42, 0x43, 1], ⟨.success, [0x62, 0x63]⟩, 2⟩,
  .read 5,
  .receive ⟨none, ⟨.success, []⟩, 0⟩,
  .read 5,
  .receive ⟨some [0x44], ⟨.success, [0x64]⟩, 2⟩]

/-- The connection after them, with all of the text delivered. -/
def afterSplitRecords : Connection where
  reading := {
    backend := {
      encodeBuffer := {
        appended := [1, 2, 3]
        buffer := [(3, 2)]
        accepted := [(1, 0), (2, 1), (3, 2)] }
      recvBuffer := [] }
    readBuffer := [] }
  phase := .idle
  received := [0, 3, 0x41, 0x42, 0x43, 1, 0x44]
  processed := [0, 3, 0x41, 0x42, 0x43, 1, 0x44]
  delivered := [0x61, 0x62, 0x63, 0x64]

theorem splitRecords_run :
    (machine maskedRecords).Run .initial splitRecords afterSplitRecords :=
  .of_execute (by decide)

theorem splitRecords_undisturbed :
    (machine maskedRecords).EveryStep Undisturbed .initial splitRecords := by
  refine .cons (fun _ => rfl) rfl ?_
  repeat
    first
      | exact trivial
      | refine .cons (by simp [Undisturbed]) rfl ?_

theorem inOrder_throughout_iff_splitRecords :
    (machine maskedRecords).Throughout
      (fun connection => connection.delivered <+: maskedRecords.decode connection.received)
      .initial splitRecords :=
  (inOrder_throughout_iff maskedRecords splitRecords_run).2 splitRecords_undisturbed

end Connection

end PigweedExperimental.Tls
