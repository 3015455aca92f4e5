import PigweedExperimental.MipiDsi.ChunkedWrites

namespace PigweedExperimental.MipiDsi

/-! # Memory writes of pixels of three bytes

In builds for other formats than RGB565, the loop over a chunk copies three bytes at
a time, while a chunk is as long as whole pixels of two bytes allow.
-/

namespace ThreeBytePixels

open MemWriteDevice

variable {txMaxPayloadByte : UInt32}

/-- The loop over the pixels of a chunk. A read past the buffer and a write past
the array have no result. -/
def copyPixels (pixels i : Nat) (tmpArray : Vector UInt8 size) (txData : List UInt8) :
    Option (Vector UInt8 size × List UInt8) :=
  match pixels with
  | 0 => some (tmpArray, txData)
  | pixels + 1 =>
      match txData with
      | first :: second :: third :: rest =>
          if inside : i + 2 < size then
            let tmpArray := ((tmpArray.set i third).set (i + 1) second).set (i + 2) first
            copyPixels pixels (i + 3) tmpArray rest
          else
            none
      | _ => none

def copyLoop : CopyLoop size := fun curSendLen => copyPixels ((curSendLen + 2) / 3) 0

def dsiMemWriteSendChunck (device : MemWriteDevice txMaxPayloadByte) :
    Option (MemWriteDevice txMaxPayloadByte × DsiTransfer) :=
  sendChunckWith copyLoop device

def dsiMemWrite (device : MemWriteDevice txMaxPayloadByte) (virtualChannel : UInt8)
    (data : List UInt8) (transferNonBlocking : McuxStatus) :
    Option (MemWriteDevice txMaxPayloadByte × McuxStatus × Option DsiTransfer) :=
  memWriteWith copyLoop device virtualChannel data transferNonBlocking

def dsiMemWriteCallback (device : MemWriteDevice txMaxPayloadByte)
    (status transferNonBlocking : McuxStatus) :
    Option (MemWriteDevice txMaxPayloadByte × Option DsiTransfer × Option MemoryDone) :=
  callbackWith copyLoop device status transferNonBlocking

/-- One memory write as far as it got, with its transfers in order. -/
structure WriteProgress (txMaxPayloadByte : UInt32) where
  device : MemWriteDevice txMaxPayloadByte
  transfers : List DsiTransfer

/-- The start of a write, with the answer of the controller. -/
def WriteProgress.start (device : MemWriteDevice txMaxPayloadByte) (virtualChannel : UInt8)
    (data : List UInt8) (transferNonBlocking : McuxStatus) :
    Option (WriteProgress txMaxPayloadByte) := do
  let (device, _, transfer) ← dsiMemWrite device virtualChannel data transferNonBlocking
  return { device, transfers := transfer.toList }

/-- While a write goes on, the controller reports a status, and answers the transfer
that this leads to. -/
def writeMachine (txMaxPayloadByte : UInt32) :
    Machine (WriteProgress txMaxPayloadByte) (McuxStatus × McuxStatus) where
  Enabled progress _ := progress.device.ctx.ongoing
  step progress event := do
    let (device, transfer, _) ← dsiMemWriteCallback progress.device event.1 event.2
    return { device, transfers := progress.transfers ++ transfer.toList }

/-- A buffer with the bytes of every pixel in reverse order. -/
def reversePixels : List UInt8 → List UInt8
  | first :: second :: third :: rest => third :: second :: first :: reversePixels rest
  | rest => rest

/-- What the transfers sent so far. -/
def WriteProgress.sent (progress : WriteProgress txMaxPayloadByte) : List UInt8 :=
  progress.transfers.flatMap DsiTransfer.txData

/-- A write of a buffer stays within its arrays and sends the whole buffer. -/
structure SendsBuffer (device : MemWriteDevice txMaxPayloadByte) (virtualChannel : UInt8)
    (data : List UInt8) (transferNonBlocking : McuxStatus) : Prop where
  starts : ∃ first, WriteProgress.start device virtualChannel data transferNonBlocking = some first
  continues : ∀ first events last,
    WriteProgress.start device virtualChannel data transferNonBlocking = some first →
    (writeMachine txMaxPayloadByte).Run first events last → last.device.ctx.ongoing →
    ∀ event, ∃ next, (writeMachine txMaxPayloadByte).step last event = some next
  /-- The pointer advances by as much as the transfers send. -/
  advances : ∀ first events last,
    WriteProgress.start device virtualChannel data transferNonBlocking = some first →
    (writeMachine txMaxPayloadByte).Run first events last →
    last.sent.length + last.device.ctx.txData.length = data.length
  reversed : ∀ first events last,
    WriteProgress.start device virtualChannel data transferNonBlocking = some first →
    (writeMachine txMaxPayloadByte).Run first events last →
    last.device.ctx.numBytesRemaining = 0 → last.sent = reversePixels data
  /-- With success all along, everything is sent. -/
  completes : transferNonBlocking = .success → ∃ first events last,
    WriteProgress.start device virtualChannel data transferNonBlocking = some first ∧
    (writeMachine txMaxPayloadByte).Run first events last ∧
    last.device.ctx.numBytesRemaining = 0

section Loop

variable {size pixels i : Nat} {tmpArray : Vector UInt8 size} {txData : List UInt8}

theorem reversePixels_append {bytes : List UInt8} (whole : bytes.length = 3 * pixels)
    (more : List UInt8) :
    reversePixels (bytes ++ more) = reversePixels bytes ++ reversePixels more := by
  induction pixels generalizing bytes with
  | zero =>
      rw [List.length_eq_zero_iff.mp whole]
      rfl
  | succ pixels induction =>
      match bytes with
      | [] => cases whole
      | [_] | [_, _] =>
          simp only [List.length_cons, List.length_nil] at whole
          omega
      | first :: second :: third :: rest =>
          simp only [List.length_cons] at whole
          change third :: second :: first :: reversePixels (rest ++ more) = _
          rw [induction (by omega)]
          rfl

theorem length_reversePixels (bytes : List UInt8) :
    (reversePixels bytes).length = bytes.length := by
  fun_induction reversePixels bytes with
  | case1 first second third rest induction => simp [induction]
  | case2 => rfl

theorem take_set_set_set {bytes : List UInt8} (inside : i + 2 < bytes.length)
    (first second third : UInt8) :
    (((bytes.set i first).set (i + 1) second).set (i + 2) third).take (i + 3) =
      bytes.take i ++ [first, second, third] := by
  induction i generalizing bytes with
  | zero =>
      match bytes with
      | [] | [_] | [_, _] =>
          simp only [List.length_cons, List.length_nil] at inside
          omega
      | _ :: _ :: _ :: rest => rfl
  | succ i induction =>
      match bytes with
      | [] => cases inside
      | byte :: rest =>
          rw [List.length_cons] at inside
          change byte :: (((rest.set i first).set (i + 1) second).set (i + 2) third).take (i + 3) =
            _
          rw [induction (Nat.lt_of_succ_lt_succ inside)]
          rfl

/-- The loop copies whole pixels, reversed, behind what is in the array. -/
theorem copyPixels_eq (fits : i + 3 * pixels ≤ size) (enough : 3 * pixels ≤ txData.length) :
    ∃ after, copyPixels pixels i tmpArray txData = some (after, txData.drop (3 * pixels)) ∧
      after.toList.take (i + 3 * pixels) =
        tmpArray.toList.take i ++ reversePixels (txData.take (3 * pixels)) := by
  induction pixels generalizing i tmpArray txData with
  | zero =>
      refine ⟨tmpArray, rfl, ?_⟩
      simp [reversePixels]
  | succ pixels induction =>
      match txData with
      | [] | [_] | [_, _] =>
          simp only [List.length_cons, List.length_nil] at enough
          omega
      | first :: second :: third :: rest =>
          simp only [List.length_cons] at enough
          have inside : i + 2 < size := by omega
          rcases @induction (i + 3)
            (((tmpArray.set i third).set (i + 1) second).set (i + 2) first) rest
            (by omega) (by omega) with ⟨after, copied, taken⟩
          refine ⟨after, ?_, ?_⟩
          · rw [copyPixels, dif_pos inside]
            exact copied
          · rw [show i + 3 * (pixels + 1) = i + 3 + 3 * pixels by omega, taken]
            rw [Vector.toList_set, Vector.toList_set, Vector.toList_set,
              take_set_set_set (by simpa using inside), List.append_assoc]
            rfl

/-- More pixels than the array has room for are written past its end. -/
theorem copyPixels_overruns (beyond : size < i + 3 * pixels) (inside : i ≤ size) :
    copyPixels pixels i tmpArray txData = none := by
  induction pixels generalizing i tmpArray txData with
  | zero => omega
  | succ pixels induction =>
      unfold copyPixels
      split
      · split
        · exact induction (by omega) (by omega)
        · rfl
      · rfl

end Loop

section Chunks

theorem kMaxDSITxArraySize_pos (limit : 4 ≤ txMaxPayloadByte) :
    0 < (kMaxDSITxArraySize txMaxPayloadByte).toNat := by
  have atLeast := UInt32.le_iff_toNat_le.mp limit
  have small := txMaxPayloadByte.toNat_lt
  have one : (1 : UInt32) ≤ txMaxPayloadByte := UInt32.le_trans (by decide) limit
  rw [kMaxDSITxArraySize, UInt32.toNat_mul, UInt32.toNat_div, UInt32.toNat_sub_of_le _ _ one]
  change 4 ≤ txMaxPayloadByte.toNat at atLeast
  change 0 < (txMaxPayloadByte.toNat - 1) / 2 * 2 % 2 ^ 32
  omega

/-- The pointer and the count of a write go together, over whole pixels. -/
structure InStep (ctx : DSIMemWriteContext) : Prop where
  remaining : ctx.numBytesRemaining.toNat = ctx.txData.length
  whole : 3 ∣ ctx.txData.length

/-- The chunks of a buffer are whole pixels: the limit is, or there is one chunk. -/
def WholeChunks (txMaxPayloadByte : UInt32) (length : Nat) : Prop :=
  3 ∣ (kMaxDSITxArraySize txMaxPayloadByte).toNat ∨
    length ≤ (kMaxDSITxArraySize txMaxPayloadByte).toNat

/-- What sending a chunk does. -/
structure Advances (device next : MemWriteDevice txMaxPayloadByte) (transfer : DsiTransfer) :
    Prop where
  ongoing_eq : next.ctx.ongoing = device.ctx.ongoing
  inStep : InStep next.ctx
  chunk : reversePixels device.ctx.txData = transfer.txData ++ reversePixels next.ctx.txData
  some : 0 < device.ctx.txData.length → 0 < transfer.txData.length

theorem Advances.length_eq {device next : MemWriteDevice txMaxPayloadByte}
    {transfer : DsiTransfer} (advances : Advances device next transfer) :
    device.ctx.txData.length = transfer.txData.length + next.ctx.txData.length := by
  have lengths := congrArg List.length advances.chunk
  rw [List.length_append, length_reversePixels, length_reversePixels] at lengths
  exact lengths

theorem dsiMemWriteSendChunck_advances {device : MemWriteDevice txMaxPayloadByte}
    (large : 0 < (kMaxDSITxArraySize txMaxPayloadByte).toNat) (inStep : InStep device.ctx)
    (wholeChunks : WholeChunks txMaxPayloadByte device.ctx.txData.length) :
    ∃ next transfer, dsiMemWriteSendChunck device = some (next, transfer) ∧
      Advances device next transfer := by
  rcases inStep with ⟨remaining, pixelCount, whole⟩
  rw [WholeChunks, ← remaining] at wholeChunks
  rcases exists_curSendLen large (remaining.trans whole) wholeChunks with
    ⟨curSendLen, pixels, isLen, isPixels, fits, enough, some, inside⟩
  rcases @copyPixels_eq _ pixels 0 device.tmpArray device.ctx.txData (by omega) (by omega) with
    ⟨tmpArray, copied, taken⟩
  have rounded : (curSendLen.toNat + 2) / 3 = pixels := by omega
  rw [dsiMemWriteSendChunck, sendChunckWith]
  dsimp only [copyLoop]
  rw [← isLen, rounded, copied]
  refine ⟨_, _, rfl, ?_⟩
  have sent : tmpArray.toList.take curSendLen.toNat =
      reversePixels (device.ctx.txData.take (3 * pixels)) := by
    rw [isPixels, ← Nat.zero_add (3 * pixels), taken, Nat.zero_add]
    rfl
  have takeLength : (device.ctx.txData.take (3 * pixels)).length = 3 * pixels := by
    rw [List.length_take]
    omega
  constructor
  case ongoing_eq => rfl
  case inStep =>
    refine ⟨remaining_drop remaining inside isPixels, ?_⟩
    dsimp only
    rw [List.length_drop]
    omega
  case chunk =>
    dsimp only
    rw [sent, ← reversePixels_append takeLength, List.take_append_drop]
  case some =>
    dsimp only
    rw [sent, length_reversePixels, takeLength]
    omega

/-- A chunk that is not whole pixels is written past the array. -/
theorem dsiMemWriteSendChunck_overruns {device : MemWriteDevice txMaxPayloadByte}
    (broken : ¬3 ∣ (kMaxDSITxArraySize txMaxPayloadByte).toNat)
    (more : kMaxDSITxArraySize txMaxPayloadByte < device.ctx.numBytesRemaining) :
    dsiMemWriteSendChunck device = none := by
  have notLast : ¬kMaxDSITxArraySize txMaxPayloadByte > device.ctx.numBytesRemaining :=
    UInt32.not_lt.mpr (UInt32.le_of_lt more)
  rw [dsiMemWriteSendChunck, sendChunckWith]
  dsimp only [copyLoop]
  rw [if_neg notLast, copyPixels_overruns (by omega) (Nat.zero_le _)]
  rfl

end Chunks

section Writes

variable {data : List UInt8}

/-- What holds of a write at any time. -/
structure Sending (data : List UInt8) (progress : WriteProgress txMaxPayloadByte) : Prop where
  inStep : InStep progress.device.ctx
  chunks : progress.sent ++ reversePixels progress.device.ctx.txData = reversePixels data

theorem Sending.length_eq {progress : WriteProgress txMaxPayloadByte}
    (sending : Sending data progress) :
    progress.sent.length + progress.device.ctx.txData.length = data.length := by
  have lengths := congrArg List.length sending.chunks
  rw [List.length_append, length_reversePixels, length_reversePixels] at lengths
  exact lengths

theorem Sending.reversed {progress : WriteProgress txMaxPayloadByte}
    (sending : Sending data progress) (all : progress.device.ctx.numBytesRemaining = 0) :
    progress.sent = reversePixels data := by
  have remaining := sending.inStep.remaining
  rw [all] at remaining
  have nothing := List.length_eq_zero_iff.mp remaining.symm
  have chunks := sending.chunks
  rw [nothing] at chunks
  change progress.sent ++ [] = _ at chunks
  rw [List.append_nil] at chunks
  exact chunks

theorem WholeChunks.later {progress : WriteProgress txMaxPayloadByte}
    (wholeChunks : WholeChunks txMaxPayloadByte data.length) (sending : Sending data progress) :
    WholeChunks txMaxPayloadByte progress.device.ctx.txData.length := by
  have lengths := sending.length_eq
  exact wholeChunks.imp_right (by omega)

/-- A chunk goes from the rest of the buffer to what is sent. -/
theorem Sending.advance {progress : WriteProgress txMaxPayloadByte}
    {next : MemWriteDevice txMaxPayloadByte} {transfer : DsiTransfer} (ongoing : Bool)
    (sending : Sending data progress) (advances : Advances progress.device next transfer) :
    Sending data {
      device := { next with ctx := { next.ctx with ongoing } }
      transfers := progress.transfers ++ [transfer] } where
  inStep := ⟨advances.inStep.remaining, advances.inStep.whole⟩
  chunks := by
    rw [← sending.chunks, advances.chunk]
    dsimp only [WriteProgress.sent]
    rw [List.flatMap_append, List.flatMap_singleton, List.append_assoc]

/-- While the chunks are whole, every step has a result. A successful one leads on. -/
theorem step_sending {progress : WriteProgress txMaxPayloadByte}
    (large : 0 < (kMaxDSITxArraySize txMaxPayloadByte).toNat)
    (wholeChunks : WholeChunks txMaxPayloadByte data.length) (sending : Sending data progress)
    (event : McuxStatus × McuxStatus) :
    ∃ next, (writeMachine txMaxPayloadByte).step progress event = some next ∧
      Sending data next ∧
      (event = (.success, .success) → 0 < progress.device.ctx.numBytesRemaining →
        next.device.ctx.ongoing = progress.device.ctx.ongoing ∧
          next.device.ctx.txData.length < progress.device.ctx.txData.length) := by
  rcases event with ⟨status, answer⟩
  dsimp only [writeMachine]
  rw [dsiMemWriteCallback, callbackWith]
  by_cases more : status = .success ∧ progress.device.ctx.numBytesRemaining > 0
  · rcases dsiMemWriteSendChunck_advances large sending.inStep (wholeChunks.later sending) with
      ⟨device, transfer, sends, advances⟩
    rw [dsiMemWriteSendChunck] at sends
    rw [if_pos more, sends]
    have lengths := advances.length_eq
    have remaining := sending.inStep.remaining
    have someLeft := UInt32.lt_iff_toNat_lt.mp more.2
    change 0 < progress.device.ctx.numBytesRemaining.toNat at someLeft
    by_cases taken : answer = .success
    · refine ⟨{ device, transfers := progress.transfers ++ [transfer] }, ?_,
        sending.advance device.ctx.ongoing advances, ?_⟩
      · rw [taken]
        rfl
      · intro _ _
        have some := advances.some (by omega)
        exact ⟨advances.ongoing_eq, by dsimp only; omega⟩
    · refine ⟨_, ?_, sending.advance false advances, ?_⟩
      · dsimp only [bind, Option.bind]
        rw [if_neg taken]
        rfl
      · intro success
        exact absurd (Prod.mk.inj success).2 taken
  · rw [if_neg more]
    refine ⟨_, rfl, ⟨⟨sending.inStep.remaining, sending.inStep.whole⟩, ?_⟩, ?_⟩
    · rw [← sending.chunks]
      change (progress.transfers ++ []).flatMap _ ++ _ = _
      rw [List.append_nil]
      rfl
    · intro success someLeft
      exact absurd ⟨(Prod.mk.inj success).1, someLeft⟩ more

variable {device : MemWriteDevice txMaxPayloadByte} {virtualChannel : UInt8}

theorem toNat_remaining (short : data.length < UInt32.size) :
    (prepared device virtualChannel data).ctx.numBytesRemaining.toNat = data.length :=
  UInt32.toNat_ofNat_of_lt' short

/-- A write starts with the first chunk, and goes on if the controller takes it. -/
theorem start_eq (idle : device.ctx.ongoing = false) (answer : McuxStatus) :
    WriteProgress.start device virtualChannel data answer =
      (dsiMemWriteSendChunck (prepared device virtualChannel data)).map fun sent => {
        device := { sent.1 with
          ctx := { sent.1.ctx with
            ongoing := if answer = .success then sent.1.ctx.ongoing else false } }
        transfers := [sent.2] } := by
  rw [WriteProgress.start, dsiMemWrite, memWriteWith_idle idle, dsiMemWriteSendChunck]
  cases (prepared device virtualChannel data).sendChunckWith copyLoop with
  | none => rfl
  | some sent =>
      by_cases taken : answer = .success
      · rw [taken]
        rfl
      · dsimp only [bind, Option.bind, Option.map]
        rw [if_pos taken, if_neg taken]
        rfl

theorem start_overruns (idle : device.ctx.ongoing = false) (short : data.length < UInt32.size)
    (broken : ¬3 ∣ (kMaxDSITxArraySize txMaxPayloadByte).toNat)
    (more : (kMaxDSITxArraySize txMaxPayloadByte).toNat < data.length) {answer : McuxStatus} :
    WriteProgress.start device virtualChannel data answer = none := by
  rw [start_eq idle, dsiMemWriteSendChunck_overruns broken]
  · rfl
  · rw [UInt32.lt_iff_toNat_lt, toNat_remaining short]
    exact more

theorem start_sending (large : 0 < (kMaxDSITxArraySize txMaxPayloadByte).toNat)
    (idle : device.ctx.ongoing = false) (whole : 3 ∣ data.length)
    (short : data.length < UInt32.size)
    (wholeChunks : WholeChunks txMaxPayloadByte data.length) (answer : McuxStatus) :
    ∃ first, WriteProgress.start device virtualChannel data answer = some first ∧
      Sending data first ∧ (answer = .success → first.device.ctx.ongoing) := by
  have inStep : InStep (prepared device virtualChannel data).ctx :=
    ⟨toNat_remaining short, whole⟩
  have nothingSent : Sending data {
      device := prepared device virtualChannel data
      transfers := [] } := ⟨inStep, rfl⟩
  rcases dsiMemWriteSendChunck_advances large inStep wholeChunks with
    ⟨next, transfer, sends, advances⟩
  rw [start_eq idle, sends]
  refine ⟨_, rfl, nothingSent.advance _ advances, ?_⟩
  intro success
  dsimp only
  rw [if_pos success]
  exact advances.ongoing_eq

/-- Successful transfers lead to the end of the buffer. -/
theorem completes_of_sending (large : 0 < (kMaxDSITxArraySize txMaxPayloadByte).toNat)
    (wholeChunks : WholeChunks txMaxPayloadByte data.length) (bound : Nat)
    {progress : WriteProgress txMaxPayloadByte} (sending : Sending data progress)
    (ongoing : progress.device.ctx.ongoing)
    (within : progress.device.ctx.txData.length ≤ bound) :
    ∃ events last, (writeMachine txMaxPayloadByte).Run progress events last ∧
      last.device.ctx.numBytesRemaining = 0 := by
  induction bound generalizing progress with
  | zero =>
      have remaining := sending.inStep.remaining
      refine ⟨[], progress, .nil progress, UInt32.toNat_inj.mp ?_⟩
      change progress.device.ctx.numBytesRemaining.toNat = 0
      omega
  | succ bound induction =>
      by_cases done : progress.device.ctx.numBytesRemaining = 0
      · exact ⟨[], progress, .nil progress, done⟩
      · rcases step_sending large wholeChunks sending (.success, .success) with
          ⟨next, step, nextSending, progresses⟩
        rcases progresses rfl (UInt32.pos_iff_ne_zero.mpr done) with ⟨stillOngoing, shorter⟩
        rcases induction nextSending (stillOngoing.trans ongoing) (by omega) with
          ⟨events, last, run, finished⟩
        exact ⟨_, last, .cons ongoing step run, finished⟩

/-- A write sends its buffer, within its arrays, exactly if its chunks are whole
pixels. -/
theorem sendsBuffer_iff (limit : 4 ≤ txMaxPayloadByte) (idle : device.ctx.ongoing = false)
    (whole : 3 ∣ data.length) (short : data.length < UInt32.size) (answer : McuxStatus) :
    SendsBuffer device virtualChannel data answer ↔
      3 ∣ (kMaxDSITxArraySize txMaxPayloadByte).toNat ∨
        data.length ≤ (kMaxDSITxArraySize txMaxPayloadByte).toNat := by
  constructor
  · intro sends
    by_contra neither
    rw [not_or, Nat.not_le] at neither
    rcases sends.starts with ⟨first, start⟩
    rw [start_overruns idle short neither.1 neither.2] at start
    cases start
  · intro wholeChunks
    have large := kMaxDSITxArraySize_pos limit
    rcases @start_sending _ data device virtualChannel large idle whole short wholeChunks answer
      with ⟨started, start, sending, goesOn⟩
    have invariant {first last : WriteProgress txMaxPayloadByte} {events}
        (startFirst : WriteProgress.start device virtualChannel data answer = some first)
        (run : (writeMachine txMaxPayloadByte).Run first events last) : Sending data last := by
      cases start.symm.trans startFirst
      apply run.invariant_of_progress (Sending data) _ sending
      intro progress event now _
      rcases step_sending large wholeChunks now event with ⟨next, step, nextSending, _⟩
      exact ⟨next, step, nextSending⟩
    constructor
    case starts => exact ⟨started, start⟩
    case continues =>
      intro first events last startFirst run _ event
      rcases step_sending large wholeChunks (invariant startFirst run) event with ⟨next, step, _⟩
      exact ⟨next, step⟩
    case advances =>
      intro first events last startFirst run
      exact (invariant startFirst run).length_eq
    case reversed =>
      intro first events last startFirst run
      exact (invariant startFirst run).reversed
    case completes =>
      intro success
      rcases completes_of_sending large wholeChunks _ sending (goesOn success)
        (Nat.le_refl _) with ⟨events, last, run, finished⟩
      exact ⟨started, events, last, start, run, finished⟩

/-- A payload of eight bytes has room for two pixels, so three take two chunks. -/
theorem sendsBuffer_iff_threePixels :
    3 ∣ (kMaxDSITxArraySize 8).toNat ∧ (kMaxDSITxArraySize 8).toNat < 9 ∧
      SendsBuffer (.fresh : MemWriteDevice 8) 0 [1, 2, 3, 4, 5, 6, 7, 8, 9] .success :=
  ⟨by decide, by decide,
    (sendsBuffer_iff (by decide) rfl (by decide) (by decide) .success).mpr (.inl (by decide))⟩

/-- With a payload of 256 bytes, a chunk has 254, and 85 pixels overrun the array. -/
theorem payload256_overruns :
    ¬(∀ (txMaxPayloadByte : UInt32) (device : MemWriteDevice txMaxPayloadByte)
      (virtualChannel : UInt8) (data : List UInt8) (answer : McuxStatus),
      4 ≤ txMaxPayloadByte → device.ctx.ongoing = false → 3 ∣ data.length →
      data.length < UInt32.size → SendsBuffer device virtualChannel data answer) := by
  intro all
  have sends := all 256 .fresh 0 (List.replicate 255 0) .success (by decide) rfl
    (by rw [List.length_replicate]; decide) (by rw [List.length_replicate]; decide)
  rcases sends.starts with ⟨first, start⟩
  rw [start_overruns rfl (by rw [List.length_replicate]; decide) (by decide)
    (by rw [List.length_replicate]; decide)] at start
  cases start

end Writes

end ThreeBytePixels

end PigweedExperimental.MipiDsi
