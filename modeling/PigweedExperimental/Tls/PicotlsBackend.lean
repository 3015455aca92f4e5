import PigweedExperimental.Foundation.MachineInt
import PigweedExperimental.Foundation.Outbox

namespace PigweedExperimental.Tls

/-! # `PicotlsBackend`

picotls only prepares outgoing bytes, in `encode_buffer_`; the backend moves
them to the network. What picotls and the transport answer comes from outside.
-/

/-- A status of picotls, as far as the backend tells them apart. -/
inductive PtlsStatus where
  | success
  | inProgress
  | error
  deriving DecidableEq, Repr

/-- What a call of picotls returns and appends to `encode_buffer_`. -/
structure PtlsAnswer where
  status : PtlsStatus
  appended : List UInt8
  deriving DecidableEq, Repr

/-- What `TransportInterface::Write` does with the bytes it is offered. -/
inductive WriteAnswer where
  | failed (status : { status : Int // status < 0 })
  | takes (room : Nat)
  deriving DecidableEq

namespace WriteAnswer

/-- The number of bytes taken, which an `int` has to hold. -/
def count (answer : WriteAnswer) (offered : Nat) : Nat :=
  match answer with
  | .failed _ => 0
  | .takes room => min (min room offered) (2 ^ 31 - 1)

def returned (answer : WriteAnswer) (offered : Nat) : Int :=
  match answer with
  | .failed status => status.val
  | .takes _ => answer.count offered

/-- The transport has room for that many bytes. -/
def TakesAll (answer : WriteAnswer) (offered : Nat) : Prop :=
  match answer with
  | .failed _ => False
  | .takes room => offered ≤ min room (2 ^ 31 - 1)

theorem count_fits (answer : WriteAnswer) (offered : Nat) :
    answer.count offered ≤ 2 ^ 31 - 1 := by
  cases answer with
  | failed => exact Nat.zero_le _
  | takes room => exact Nat.min_le_right _ _

/-- A result that is the offered number as an `int` means that all was taken, if
the number fits. -/
theorem takesAll_of_returned {answer : WriteAnswer} {offered : Nat}
    (returned : answer.returned offered = staticCastInt offered)
    (fits : offered ≤ 2 ^ 31 - 1) : answer.TakesAll offered := by
  rw [staticCastInt_of_fits fits] at returned
  cases answer with
  | failed status =>
      have negative := status.property
      have same : status.val = offered := returned
      omega
  | takes room =>
      have same : ((takes room).count offered : Int) = offered := returned
      rw [count] at same
      rw [TakesAll]
      omega

theorem takesAll_of_le_count {answer : WriteAnswer} {offered : Nat} (positive : 0 < offered)
    (takes : offered ≤ answer.count offered) : answer.TakesAll offered := by
  cases answer with
  | failed => exact absurd takes (Nat.not_le_of_lt positive)
  | takes room =>
      rw [count] at takes
      rw [TakesAll]
      omega

theorem le_count_of_takesAll {answer : WriteAnswer} {offered : Nat}
    (takesAll : answer.TakesAll offered) : offered ≤ answer.count offered := by
  cases answer with
  | failed => exact takesAll.elim
  | takes room =>
      rw [TakesAll] at takesAll
      rw [count]
      omega

end WriteAnswer

/-- What one round of the handshake meets: the bytes read, unless reading fails,
the answer of `ptls_handshake` with the number of bytes it processed, and that
of the write, if one is made. -/
structure Round where
  read : Option (List UInt8)
  handshake : PtlsAnswer
  processed : Nat
  write : WriteAnswer
  deriving DecidableEq

/-- The backend, with the filled part of `recv_buffer_`. -/
structure PicotlsBackend where
  encodeBuffer : Outbox UInt8
  recvBuffer : List UInt8
  deriving DecidableEq, Repr

namespace PicotlsBackend

/-- The constructor. -/
def create : PicotlsBackend where
  encodeBuffer := .empty
  recvBuffer := []

/-- A call of picotls, which appends to `encode_buffer_`. -/
def prepare (backend : PicotlsBackend) (appended : List UInt8) : PicotlsBackend :=
  { backend with encodeBuffer := backend.encodeBuffer.append appended }

/-- `encode_buffer_.off` -/
def off (backend : PicotlsBackend) : Nat :=
  backend.encodeBuffer.buffer.length

/-- `transport->Write(encode_buffer_.base, encode_buffer_.off)` -/
def transmit (backend : PicotlsBackend) (answer : WriteAnswer) : Int × PicotlsBackend :=
  (answer.returned backend.off,
    { backend with encodeBuffer := backend.encodeBuffer.offer (answer.count backend.off) })

/-- `if (encode_buffer_.off)` in the handshake, where the buffer is cleared
however much was written. -/
def sendHandshake (backend : PicotlsBackend) (answer : WriteAnswer) :
    Except (Int × PicotlsBackend) PicotlsBackend :=
  if backend.off ≠ 0 then
    let sent := backend.transmit answer
    if sent.1 < 0 then
      .error (-1, sent.2)
    else
      .ok { sent.2 with encodeBuffer := sent.2.encodeBuffer.clear }
  else
    .ok backend

/-- The body of the handshake loop; it returns a status or goes on. -/
def exchange (backend : PicotlsBackend) (round : Round) :
    Except (Int × PicotlsBackend) PicotlsBackend :=
  match round.read with
  | none => .error (-1, backend)
  | some read => do
      let received := backend.recvBuffer ++ read
      let prepared := { backend.prepare round.handshake.appended with
        recvBuffer := received.drop round.processed }
      let sent ← prepared.sendHandshake round.write
      match round.handshake.status with
      | .success => .error (0, sent)
      | .inProgress => .ok sent
      | .error => .error (-1, sent)

/-- The loop, with `none` while it has not returned. -/
def exchanges (backend : PicotlsBackend) : List Round → Option (Int × PicotlsBackend)
  | [] => none
  | round :: rounds =>
      match backend.exchange round with
      | .ok next => next.exchanges rounds
      | .error returned => some returned

def handshake (backend : PicotlsBackend) (first : PtlsAnswer) (rounds : List Round) :
    Option (Int × PicotlsBackend) :=
  let prepared := backend.prepare first.appended
  if first.status ≠ .inProgress then
    some (-1, prepared)
  else
    { prepared with recvBuffer := [] }.exchanges rounds

def write (backend : PicotlsBackend) (send : PtlsAnswer) (answer : WriteAnswer) :
    Int × PicotlsBackend :=
  let prepared := backend.prepare send.appended
  if send.status ≠ .success then
    (-1, prepared)
  else
    let sent := prepared.transmit answer
    if sent.1 ≠ staticCastInt prepared.off then
      (-1, sent.2)
    else
      (0, sent.2)

end PicotlsBackend

end PigweedExperimental.Tls
