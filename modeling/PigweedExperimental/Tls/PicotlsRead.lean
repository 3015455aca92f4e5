import PigweedExperimental.Tls.PicotlsBackend

namespace PigweedExperimental.Tls

/-! # `PicotlsBackend::Read`

Raw bytes collect in `recv_buffer_` and the bytes picotls makes of them in
`read_buffer_`, from where a read takes as many as its caller has room for.
-/

/-- `sizeof(recv_buffer_)` -/
def recvBufferSize : Nat := 4096

/-- What one round of the read loop meets: the bytes read, unless reading fails,
and the answer of `ptls_receive`, which appends to `read_buffer_`, with the
number of bytes it processed. -/
structure Receipt where
  read : Option (List UInt8)
  receive : PtlsAnswer
  processed : Nat
  deriving DecidableEq, Repr

/-- The backend with `read_buffer_`. -/
structure ReadingBackend where
  backend : PicotlsBackend
  readBuffer : List UInt8
  deriving DecidableEq, Repr

/-- How a round of the loop leaves it: with the result and the bytes copied to
the caller, or with a failed assertion. -/
inductive ReadExit where
  | returned (result : Int) (copied : List UInt8) (last : ReadingBackend)
  | aborted
  deriving DecidableEq, Repr

/-- `shift_buffer`, with its `assert`. -/
def shiftBuffer (buf : List UInt8) (delta : Nat) : Option (List UInt8) :=
  if delta ≠ 0 then
    if delta ≤ buf.length then
      some (if delta ≠ buf.length then buf.drop delta else [])
    else
      none
  else
    some buf

theorem shiftBuffer_within {buf : List UInt8} {delta : Nat} (within : delta ≤ buf.length) :
    shiftBuffer buf delta = some (buf.drop delta) := by
  rw [shiftBuffer, if_pos within]
  split
  · split
    · rfl
    · rename_i all
      rw [not_not.mp all, List.drop_length]
  · rename_i none
    rw [not_not.mp none, List.drop_zero]

namespace ReadingBackend

/-- The constructor. -/
def create : ReadingBackend where
  backend := .create
  readBuffer := []

/-- The backend with the raw bytes that `recv_buffer_` holds. -/
def holding (reading : ReadingBackend) (recvBuffer readBuffer : List UInt8) :
    ReadingBackend where
  backend := { reading.backend with recvBuffer }
  readBuffer

/-- `if (read_buffer_.off)` with the copy to a caller that has room for `size`
bytes. -/
def copyOut (reading : ReadingBackend) (size : Nat) : Except ReadExit ReadingBackend :=
  if reading.readBuffer.length ≠ 0 then
    let toCopy := min size reading.readBuffer.length
    match shiftBuffer reading.readBuffer toCopy with
    | some readBuffer =>
        .error (.returned (staticCastInt toCopy) (reading.readBuffer.take toCopy)
          { reading with readBuffer })
    | none => .error .aborted
  else
    .ok reading

/-- The body of the read loop. On an error of picotls it returns before the
processed bytes leave `recv_buffer_`. -/
def receive (reading : ReadingBackend) (size : Nat) (receipt : Receipt) :
    Except ReadExit ReadingBackend :=
  match receipt.read with
  | none => .error (.returned (-1) [] reading)
  | some read =>
      let received := reading.backend.recvBuffer ++ read
      let readBuffer := reading.readBuffer ++ receipt.receive.appended
      if receipt.receive.status = .error then
        .error (.returned (-1) [] (reading.holding received readBuffer))
      else
        (reading.holding (received.drop receipt.processed) readBuffer).copyOut size

/-- A round with bytes waiting for the caller hands them out. -/
theorem copyOut_of_waiting {reading : ReadingBackend} (size : Nat)
    (waiting : reading.readBuffer ≠ []) :
    reading.copyOut size = .error (.returned
      (staticCastInt (min size reading.readBuffer.length))
      (reading.readBuffer.take (min size reading.readBuffer.length))
      { reading with
        readBuffer := reading.readBuffer.drop (min size reading.readBuffer.length) }) := by
  rw [copyOut, if_pos (mt List.length_eq_zero_iff.mp waiting)]
  dsimp only
  rw [shiftBuffer_within (Nat.min_le_right _ _)]

theorem copyOut_of_nothing {reading : ReadingBackend} (size : Nat)
    (nothing : reading.readBuffer = []) : reading.copyOut size = .ok reading := by
  rw [copyOut, nothing, List.length_nil]
  exact if_neg (not_not.mpr rfl)

/-- The assertion in `shift_buffer` never fails. -/
theorem receive_ne_aborted (reading : ReadingBackend) (size : Nat) (receipt : Receipt) :
    reading.receive size receipt ≠ .error .aborted := by
  rw [receive]
  split
  · nofun
  · dsimp only
    split
    · nofun
    · rename_i read _ _
      generalize reading.holding ((reading.backend.recvBuffer ++ read).drop receipt.processed)
        (reading.readBuffer ++ receipt.receive.appended) = next
      by_cases nothing : next.readBuffer = []
      case pos =>
        rw [copyOut_of_nothing size nothing]
        nofun
      case neg =>
        rw [copyOut_of_waiting size nothing]
        nofun

end ReadingBackend

end PigweedExperimental.Tls
