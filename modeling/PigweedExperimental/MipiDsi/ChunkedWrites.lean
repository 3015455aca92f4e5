import PigweedExperimental.Foundation.Execution
import PigweedExperimental.MipiDsi.MemWrite

namespace PigweedExperimental.MipiDsi

/-! # Memory writes, chunk by chunk

What the panel gets of a buffer, over every order of calls, completions and
answers of the controller.
-/

/-- A buffer with the two bytes of every pixel exchanged. -/
def swapPixels : List UInt8 → List UInt8
  | first :: second :: rest => second :: first :: swapPixels rest
  | rest => rest

theorem swapPixels_append {pixels : Nat} {bytes : List UInt8} (whole : bytes.length = 2 * pixels)
    (more : List UInt8) : swapPixels (bytes ++ more) = swapPixels bytes ++ swapPixels more := by
  induction pixels generalizing bytes with
  | zero =>
      rw [List.length_eq_zero_iff.mp whole]
      rfl
  | succ pixels induction =>
      match bytes with
      | [] => cases whole
      | [_] =>
          rw [List.length_singleton] at whole
          omega
      | first :: second :: rest =>
          rw [List.length_cons, List.length_cons] at whole
          change second :: first :: swapPixels (rest ++ more) = _
          rw [induction (by omega)]
          rfl

theorem length_swapPixels (bytes : List UInt8) : (swapPixels bytes).length = bytes.length := by
  fun_induction swapPixels bytes with
  | case1 first second rest induction => simp [induction]
  | case2 => rfl

theorem take_set_set {i : Nat} {bytes : List UInt8} (inside : i + 1 < bytes.length)
    (first second : UInt8) :
    ((bytes.set i first).set (i + 1) second).take (i + 2) = bytes.take i ++ [first, second] := by
  induction i generalizing bytes with
  | zero =>
      match bytes with
      | [] => cases inside
      | [_] => cases inside with | step impossible => cases impossible
      | _ :: _ :: rest => rfl
  | succ i induction =>
      match bytes with
      | [] => cases inside
      | byte :: rest =>
          rw [List.length_cons] at inside
          change byte :: ((rest.set i first).set (i + 1) second).take (i + 2) = _
          rw [induction (Nat.lt_of_succ_lt_succ inside)]
          rfl

section Chunks

open MemWriteDevice

variable {txMaxPayloadByte : UInt32}

/-- The loop copies whole pixels, exchanged, behind what is in the array. -/
theorem copyPixels_eq {size pixels i : Nat} {tmpArray : Vector UInt8 size}
    {txData : List UInt8} (fits : i + 2 * pixels ≤ size) (enough : 2 * pixels ≤ txData.length) :
    ∃ after, copyPixels pixels i tmpArray txData = some (after, txData.drop (2 * pixels)) ∧
      after.toList.take (i + 2 * pixels) =
        tmpArray.toList.take i ++ swapPixels (txData.take (2 * pixels)) := by
  induction pixels generalizing i tmpArray txData with
  | zero =>
      refine ⟨tmpArray, rfl, ?_⟩
      simp [swapPixels]
  | succ pixels induction =>
      match txData with
      | [] =>
          rw [List.length_nil] at enough
          omega
      | [_] =>
          rw [List.length_singleton] at enough
          omega
      | first :: second :: rest =>
          rw [List.length_cons, List.length_cons] at enough
          have inside : i + 1 < size := by omega
          rcases @induction (i + 2) ((tmpArray.set i second).set (i + 1) first) rest
            (by omega) (by omega) with ⟨after, copied, taken⟩
          refine ⟨after, ?_, ?_⟩
          · rw [copyPixels, dif_pos inside]
            exact copied
          · rw [show i + 2 * (pixels + 1) = i + 2 + 2 * pixels by omega, taken]
            rw [Vector.toList_set, Vector.toList_set, take_set_set (by simpa using inside),
              List.append_assoc]
            rfl

theorem kMaxDSITxArraySize_even (txMaxPayloadByte : UInt32) :
    2 ∣ (kMaxDSITxArraySize txMaxPayloadByte).toNat := by
  have small := (txMaxPayloadByte - 1).toNat_lt
  rw [kMaxDSITxArraySize]
  rw [UInt32.toNat_mul, UInt32.toNat_div]
  change 2 ∣ (txMaxPayloadByte - 1).toNat / 2 * 2 % 2 ^ 32
  omega

/-- A chunk is whole pixels if the limit is, or if there is one chunk. It is not
empty unless nothing remains. -/
theorem exists_curSendLen {width pixelCount : Nat} {limit remaining : UInt32}
    (large : 0 < limit.toNat) (whole : remaining.toNat = width * pixelCount)
    (wholeChunks : width ∣ limit.toNat ∨ remaining.toNat ≤ limit.toNat) :
    ∃ curSendLen : UInt32, ∃ pixels,
      curSendLen = (if limit > remaining then remaining else limit) ∧
      curSendLen.toNat = width * pixels ∧ width * pixels ≤ limit.toNat ∧
      pixels ≤ pixelCount ∧ (0 < pixelCount → 0 < pixels) ∧ curSendLen ≤ remaining := by
  split
  · rename_i last
    have isLast := UInt32.lt_iff_toNat_lt.mp last
    exact ⟨remaining, pixelCount, rfl, whole, by omega, Nat.le_refl _, id, UInt32.le_refl _⟩
  · rename_i notLast
    have inside := UInt32.not_lt.mp notLast
    have isFull := UInt32.le_iff_toNat_le.mp inside
    rcases wholeChunks with ⟨maxPixels, isMax⟩ | oneChunk
    · have positive : 0 < width * maxPixels := Nat.lt_of_lt_of_eq large isMax
      have atMost : maxPixels ≤ pixelCount := by
        apply Nat.le_of_mul_le_mul_left _ (Nat.pos_of_mul_pos_right positive)
        rw [← isMax, ← whole]
        exact isFull
      exact ⟨limit, maxPixels, rfl, isMax, Nat.le_of_eq isMax.symm, atMost,
        fun _ => Nat.pos_of_mul_pos_left positive, inside⟩
    · exact ⟨limit, pixelCount, rfl, by omega, by omega, Nat.le_refl _, id, inside⟩

/-- The count that is left agrees with the bytes that are left. -/
theorem remaining_drop {bytes : List UInt8} {remaining sent : UInt32} {count : Nat}
    (agrees : remaining.toNat = bytes.length) (inside : sent ≤ remaining)
    (isCount : sent.toNat = count) :
    (remaining - sent).toNat = (bytes.drop count).length := by
  rw [UInt32.toNat_sub_of_le _ _ inside, List.length_drop, agrees, isCount]

/-- The pointer and the count of a write go together, over whole pixels. -/
structure InStep (ctx : DSIMemWriteContext) : Prop where
  remaining : ctx.numBytesRemaining.toNat = ctx.txData.length
  whole : 2 ∣ ctx.txData.length

/-- What sending a chunk does. -/
structure Advances (device next : MemWriteDevice txMaxPayloadByte) (transfer : DsiTransfer) :
    Prop where
  ongoing_eq : next.ctx.ongoing = device.ctx.ongoing
  inStep : InStep next.ctx
  chunk : swapPixels device.ctx.txData = transfer.txData ++ swapPixels next.ctx.txData
  some : 0 < device.ctx.numBytesRemaining.toNat → 2 ≤ transfer.txData.length
  command : transfer.dscCmd = device.ctx.dscCmd
  nextCommand : next.ctx.dscCmd = .writeMemoryContinue

/-- A chunk never reads past the buffer or writes past the array. -/
theorem dsiMemWriteSendChunck_advances {device : MemWriteDevice txMaxPayloadByte}
    (large : 2 ≤ (kMaxDSITxArraySize txMaxPayloadByte).toNat) (inStep : InStep device.ctx) :
    ∃ next transfer, device.dsiMemWriteSendChunck = some (next, transfer) ∧
      Advances device next transfer := by
  rcases inStep with ⟨remaining, pixelCount, whole⟩
  rcases exists_curSendLen (Nat.zero_lt_of_lt large) (remaining.trans whole)
    (.inl (kMaxDSITxArraySize_even txMaxPayloadByte)) with
    ⟨curSendLen, pixels, isLen, isPixels, fits, enough, some, inside⟩
  rcases @copyPixels_eq _ pixels 0 device.tmpArray device.ctx.txData (by omega) (by omega) with
    ⟨tmpArray, copied, taken⟩
  have halved : (curSendLen.toNat + 1) / 2 = pixels := by omega
  rw [dsiMemWriteSendChunck, sendChunckWith]
  dsimp only [copyLoop]
  rw [← isLen, halved, copied]
  refine ⟨_, _, rfl, ?_⟩
  have sent : tmpArray.toList.take curSendLen.toNat =
      swapPixels (device.ctx.txData.take (2 * pixels)) := by
    rw [isPixels, ← Nat.zero_add (2 * pixels), taken, Nat.zero_add]
    rfl
  have takeLength : (device.ctx.txData.take (2 * pixels)).length = 2 * pixels := by
    rw [List.length_take]
    omega
  constructor
  case ongoing_eq => rfl
  case inStep =>
    refine ⟨remaining_drop remaining inside isPixels, ?_⟩
    dsimp only
    rw [List.length_drop]
    omega
  case chunk =>
    dsimp only
    rw [sent, ← swapPixels_append takeLength, List.take_append_drop]
  case some =>
    dsimp only
    rw [sent, length_swapPixels, takeLength]
    omega
  case command => rfl
  case nextCommand => rfl

end Chunks

/-- A transfer that the controller was asked for, and its answer. -/
structure Handed where
  transfer : DsiTransfer
  answer : McuxStatus
  deriving DecidableEq

/-- One memory write: its buffer, the transfers it asked for, the statuses in the
order they came, and the calls of the memory-done callback. -/
structure MemWrite where
  data : List UInt8
  transfers : List Handed
  statuses : List McuxStatus
  done : List MemWriteDevice.MemoryDone
  deriving DecidableEq

structure MemWriteState (txMaxPayloadByte : UInt32) where
  device : MemWriteDevice txMaxPayloadByte
  inFlight : Bool
  writes : List MemWrite
  deriving DecidableEq

/-- What comes from outside, with what the controller answers if it is asked. -/
inductive MemWriteEvent where
  | memWrite (virtualChannel : UInt8) (data : List UInt8) (transferNonBlocking : McuxStatus)
  | transferDone (status transferNonBlocking : McuxStatus)
  deriving DecidableEq

namespace MemWrite

def started (data : List UInt8) (transfer : DsiTransfer) (status : McuxStatus) : MemWrite where
  data
  transfers := [⟨transfer, status⟩]
  statuses := [status]
  done := []

/-- The write after a further status, and what it led to. -/
def continued (status transferNonBlocking : McuxStatus) (transfer : Option DsiTransfer)
    (done : Option MemWriteDevice.MemoryDone) (write : MemWrite) : MemWrite where
  data := write.data
  transfers := write.transfers ++ transfer.toList.map fun transfer =>
    ⟨transfer, transferNonBlocking⟩
  statuses := write.statuses ++ status :: transfer.toList.map fun _ => transferNonBlocking
  done := write.done ++ done.toList

/-- The bytes that the controller took. -/
def sent (write : MemWrite) : List UInt8 :=
  (write.transfers.filter fun handed => handed.answer = .success).flatMap
    fun handed => handed.transfer.txData

/-- The first chunk starts the write, and the others continue it. -/
def chunkCommands : Nat → List DcsCommand
  | 0 => []
  | chunks + 1 => .writeMemoryStart :: List.replicate chunks .writeMemoryContinue

/-- What holds of a memory write at any time. -/
structure Correct (write : MemWrite) : Prop where
  sentPrefix : write.sent <+: swapPixels write.data
  nonempty : 0 < write.transfers.length
  commands : write.transfers.map (fun handed => handed.transfer.dscCmd) =
    chunkCommands write.transfers.length
  few : write.transfers.length ≤ write.data.length / 2 + 1

/-- What holds of a memory write that is over. Its end is reported exactly if it
had started, and once. -/
structure Settled (write : MemWrite) : Prop extends write.Correct where
  done : write.done =
    if write.statuses.head? = some .success then
      [⟨write.statuses.getLastD .fail, false⟩]
    else
      []
  whole : (∀ status ∈ write.statuses, status = .success) → write.sent = swapPixels write.data

/-- What holds of a memory write that goes on. -/
structure InProgress (ctx : DSIMemWriteContext) (write : MemWrite) : Prop
    extends write.Correct where
  done : write.done = []
  statuses : write.statuses ≠ [] ∧ ∀ status ∈ write.statuses, status = .success
  inStep : InStep ctx
  chunks : write.sent ++ swapPixels ctx.txData = swapPixels write.data
  remaining : write.sent.length + ctx.numBytesRemaining.toNat = write.data.length
  nextCommand : ctx.dscCmd = .writeMemoryContinue
  chunksSent : 2 * write.transfers.length ≤ 2 + write.sent.length

end MemWrite

def memWriteMachine (txMaxPayloadByte : UInt32) :
    Machine (MemWriteState txMaxPayloadByte) MemWriteEvent where
  Enabled state
    | .memWrite _ data _ =>
        state.device.ctx.ongoing ∨ 2 ∣ data.length ∧ data.length < UInt32.size
    | .transferDone _ _ => state.inFlight
  step state
    | .memWrite virtualChannel data transferNonBlocking => do
        let (device, status, transfer) ←
          state.device.dsiMemWrite virtualChannel data transferNonBlocking
        match transfer with
        | none => return { state with device }
        | some transfer =>
            return {
              device
              inFlight := status = .success
              writes := .started data transfer status :: state.writes }
    | .transferDone status transferNonBlocking => do
        let (device, transfer, done) ←
          state.device.dsiMemWriteCallback status transferNonBlocking
        return {
          device
          inFlight := transfer.isSome ∧ transferNonBlocking = .success
          writes := state.writes.modifyHead
            (.continued status transferNonBlocking transfer done) }

instance (state : MemWriteState txMaxPayloadByte) (event : MemWriteEvent) :
    Decidable ((memWriteMachine txMaxPayloadByte).Enabled state event) :=
  match event with
  | .memWrite _ _ _ => inferInstanceAs (Decidable (_ ∨ _))
  | .transferDone _ _ => inferInstanceAs (Decidable (_ = true))

/-- One write goes on at a time, and while it does, a transfer is in flight. -/
structure MemWriteInvariant (state : MemWriteState txMaxPayloadByte) : Prop where
  inFlight_eq : state.inFlight = state.device.ctx.ongoing
  inStep : InStep state.device.ctx
  idle : state.device.ctx.ongoing = false → ∀ write ∈ state.writes, write.Settled
  busy : state.device.ctx.ongoing = true → ∃ write earlier, state.writes = write :: earlier ∧
    write.InProgress state.device.ctx ∧ ∀ earlierWrite ∈ earlier, earlierWrite.Settled

namespace MemWrite

theorem chunkCommands_succ {chunks : Nat} (some : 0 < chunks) :
    chunkCommands (chunks + 1) = chunkCommands chunks ++ [.writeMemoryContinue] := by
  cases chunks with
  | zero => cases some
  | succ chunks =>
      change _ :: List.replicate (chunks + 1) _ = _
      rw [List.replicate_succ']
      rfl

theorem sent_started (data : List UInt8) (transfer : DsiTransfer) (status : McuxStatus) :
    (started data transfer status).sent = if status = .success then transfer.txData else [] := by
  rw [sent, started]
  split
  · rename_i success
    simp [success]
  · rename_i failure
    simp [failure]

theorem transfers_continued (write : MemWrite) (status answer : McuxStatus)
    (transfer : DsiTransfer) (done : Option MemWriteDevice.MemoryDone) :
    (write.continued status answer (some transfer) done).transfers =
      write.transfers ++ [⟨transfer, answer⟩] := rfl

theorem sent_continued (write : MemWrite) (status answer : McuxStatus) (transfer : DsiTransfer)
    (done : Option MemWriteDevice.MemoryDone) :
    (write.continued status answer (some transfer) done).sent =
      write.sent ++ if answer = .success then transfer.txData else [] := by
  dsimp only [sent]
  rw [transfers_continued, List.filter_append, List.flatMap_append]
  split
  · rename_i success
    simp [success]
  · rename_i failure
    simp [failure]

variable {txMaxPayloadByte : UInt32} {device next : MemWriteDevice txMaxPayloadByte}
  {transfer : DsiTransfer} {data : List UInt8} {write : MemWrite} {status answer : McuxStatus}

theorem length_swapPixels_eq {first second data : List UInt8}
    (parts : first ++ swapPixels second = swapPixels data) :
    first.length + second.length = data.length := by
  have lengths := congrArg List.length parts
  rw [List.length_append, length_swapPixels, length_swapPixels] at lengths
  exact lengths

/-- The first chunk either begins a write that goes on, or is all there is of it. -/
theorem started_inProgress (isData : device.ctx.txData = data)
    (isFirst : device.ctx.dscCmd = .writeMemoryStart) (advances : Advances device next transfer) :
    (started data transfer .success).InProgress next.ctx := by
  have chunk := advances.chunk
  rw [isData] at chunk
  have lengths := length_swapPixels_eq chunk.symm
  have sent := sent_started data transfer .success
  rw [if_pos rfl] at sent
  constructor
  case toCorrect =>
    constructor
    · rw [sent]
      exact ⟨_, chunk.symm⟩
    · exact Nat.one_pos
    · rw [started, List.map_singleton, advances.command, isFirst]
      rfl
    · exact Nat.le_add_left 1 _
  case done => rfl
  case statuses => exact ⟨List.cons_ne_nil _ _, List.forall_mem_singleton.mpr rfl⟩
  case inStep => exact advances.inStep
  case chunks =>
    rw [sent]
    exact chunk.symm
  case remaining =>
    rw [sent, advances.inStep.remaining]
    exact lengths
  case nextCommand => exact advances.nextCommand
  case chunksSent => exact Nat.le_add_right 2 _

theorem started_settled (isFirst : device.ctx.dscCmd = .writeMemoryStart)
    (advances : Advances device next transfer) (refused : status ≠ .success) :
    (started data transfer status).Settled := by
  have sent := sent_started data transfer status
  rw [if_neg refused] at sent
  constructor
  case toCorrect =>
    constructor
    · rw [sent]
      exact List.nil_prefix
    · exact Nat.one_pos
    · rw [started, List.map_singleton, advances.command, isFirst]
      rfl
    · exact Nat.le_add_left 1 _
  case done =>
    rw [if_neg]
    · rfl
    · intro success
      exact refused (Option.some.inj success)
  case whole =>
    intro allSucceeded
    exact absurd (allSucceeded status List.mem_cons_self) refused

/-- What a further chunk leaves of the buffer. -/
theorem InProgress.advanced (inProgress : write.InProgress device.ctx)
    (advances : Advances device next transfer) :
    write.sent ++ transfer.txData ++ swapPixels next.ctx.txData = swapPixels write.data ∧
      write.sent.length + transfer.txData.length + next.ctx.txData.length =
        write.data.length := by
  have parts := inProgress.chunks
  rw [advances.chunk, ← List.append_assoc] at parts
  have lengths := length_swapPixels_eq parts
  rw [List.length_append] at lengths
  exact ⟨parts, lengths⟩

/-- A further chunk keeps what holds of a write. -/
theorem InProgress.correct_continued (inProgress : write.InProgress device.ctx)
    (advances : Advances device next transfer) (more : 0 < device.ctx.numBytesRemaining.toNat)
    (done : Option MemWriteDevice.MemoryDone) :
    (write.continued .success answer (some transfer) done).Correct := by
  rcases inProgress.advanced advances with ⟨parts, lengths⟩
  have atLeast := advances.some more
  have chunksSent := inProgress.chunksSent
  constructor
  case sentPrefix =>
    rw [sent_continued]
    split
    · exact ⟨_, parts⟩
    · rw [List.append_nil]
      exact inProgress.sentPrefix
  case nonempty =>
    rw [transfers_continued, List.length_append]
    exact Nat.lt_add_left _ Nat.one_pos
  case commands =>
    rw [transfers_continued, List.map_append, inProgress.commands, List.length_append,
      List.length_singleton, chunkCommands_succ inProgress.nonempty, List.map_singleton,
      advances.command, inProgress.nextCommand]
  case few =>
    rw [transfers_continued, List.length_append, List.length_singleton]
    change write.transfers.length + 1 ≤ write.data.length / 2 + 1
    omega

theorem InProgress.continued_accepted (inProgress : write.InProgress device.ctx)
    (advances : Advances device next transfer)
    (more : 0 < device.ctx.numBytesRemaining.toNat) :
    (write.continued .success .success (some transfer) none).InProgress next.ctx := by
  rcases inProgress.advanced advances with ⟨parts, lengths⟩
  have atLeast := advances.some more
  have chunksSent := inProgress.chunksSent
  have sent := sent_continued write .success .success transfer none
  rw [if_pos rfl] at sent
  constructor
  case toCorrect => exact inProgress.correct_continued advances more none
  case done =>
    rw [continued]
    rw [inProgress.done]
    rfl
  case statuses =>
    refine ⟨List.append_ne_nil_of_left_ne_nil inProgress.statuses.1 _, ?_⟩
    intro status isStatus
    rcases List.mem_append.mp isStatus with earlier | later
    · exact inProgress.statuses.2 status earlier
    · change status ∈ [McuxStatus.success, McuxStatus.success] at later
      simpa using later
  case inStep => exact advances.inStep
  case chunks =>
    rw [sent]
    exact parts
  case remaining =>
    rw [sent, List.length_append, advances.inStep.remaining]
    exact lengths
  case nextCommand => exact advances.nextCommand
  case chunksSent =>
    rw [sent, transfers_continued, List.length_append, List.length_append,
      List.length_singleton]
    omega

/-- A write is started if its first status is a success, and this never changes. -/
theorem InProgress.head?_statuses (inProgress : write.InProgress device.ctx)
    (more : List McuxStatus) : (write.statuses ++ more).head? = some .success := by
  rcases inProgress.statuses with ⟨nonempty, succeeded⟩
  cases statuses : write.statuses with
  | nil => exact absurd statuses nonempty
  | cons first rest =>
      rw [succeeded first (by rw [statuses]; exact List.mem_cons_self)]
      rfl

theorem InProgress.continued_refused (inProgress : write.InProgress device.ctx)
    (advances : Advances device next transfer)
    (more : 0 < device.ctx.numBytesRemaining.toNat) (refused : answer ≠ .success) :
    (write.continued .success answer (some transfer) (some ⟨answer, false⟩)).Settled := by
  constructor
  case toCorrect => exact inProgress.correct_continued advances more _
  case done =>
    rw [continued]
    dsimp only
    rw [inProgress.done, inProgress.head?_statuses, if_pos rfl]
    change [_] = [MemWriteDevice.MemoryDone.mk
      ((write.statuses ++ [McuxStatus.success, answer]).getLastD .fail) false]
    rw [List.getLastD_eq_getLast?, List.getLast?_append]
    rfl
  case whole =>
    intro allSucceeded
    exfalso
    apply refused
    apply allSucceeded
    exact List.mem_append_right _ (List.mem_cons_of_mem _ List.mem_cons_self)

/-- A write ends with a failure, or with its last byte. -/
theorem InProgress.continued_ended (inProgress : write.InProgress device.ctx)
    (ended : ¬(status = .success ∧ 0 < device.ctx.numBytesRemaining.toNat)) :
    (write.continued status answer none (some ⟨status, false⟩)).Settled := by
  have transfers : (write.continued status answer none (some ⟨status, false⟩)).transfers =
      write.transfers := List.append_nil _
  have sent : (write.continued status answer none (some ⟨status, false⟩)).sent = write.sent := by
    dsimp only [MemWrite.sent]
    rw [transfers]
  constructor
  case toCorrect =>
    constructor
    · rw [sent]
      exact inProgress.sentPrefix
    · rw [transfers]
      exact inProgress.nonempty
    · rw [transfers]
      exact inProgress.commands
    · rw [transfers]
      exact inProgress.few
  case done =>
    rw [continued]
    dsimp only
    rw [inProgress.done, inProgress.head?_statuses, if_pos rfl]
    change [_] = [MemWriteDevice.MemoryDone.mk
      ((write.statuses ++ [status]).getLastD .fail) false]
    rw [List.getLastD_concat]
  case whole =>
    intro allSucceeded
    have succeeded : status = .success :=
      allSucceeded status (List.mem_append_right _ List.mem_cons_self)
    have none : device.ctx.txData = [] := by
      apply List.length_eq_zero_iff.mp
      rw [← inProgress.inStep.remaining]
      by_contra some
      exact ended ⟨succeeded, Nat.pos_of_ne_zero some⟩
    have parts := inProgress.chunks
    rw [none] at parts
    rw [sent]
    exact (List.append_nil _).symm.trans parts

end MemWrite

section Steps

variable {txMaxPayloadByte : UInt32} {state next : MemWriteState txMaxPayloadByte}

theorem MemWriteInvariant.correct (invariant : MemWriteInvariant state) :
    ∀ write ∈ state.writes, write.Correct := by
  intro write isWrite
  cases ongoing : state.device.ctx.ongoing with
  | false => exact (invariant.idle ongoing write isWrite).toCorrect
  | true =>
      rcases invariant.busy ongoing with ⟨current, earlier, writes, inProgress, settled⟩
      rw [writes] at isWrite
      rcases List.mem_cons.mp isWrite with rfl | isEarlier
      · exact inProgress.toCorrect
      · exact (settled write isEarlier).toCorrect

/-- The invariant when no write goes on. -/
theorem MemWriteInvariant.ofIdle (notInFlight : state.inFlight = false)
    (notOngoing : state.device.ctx.ongoing = false) (inStep : InStep state.device.ctx)
    (settled : ∀ write ∈ state.writes, write.Settled) : MemWriteInvariant state where
  inFlight_eq := notInFlight.trans notOngoing.symm
  inStep := inStep
  idle _ := settled
  busy ongoing := absurd (notOngoing.symm.trans ongoing) Bool.noConfusion

/-- The invariant while a write goes on. -/
theorem MemWriteInvariant.ofBusy {write : MemWrite} {earlier : List MemWrite}
    (inFlight : state.inFlight = true) (ongoing : state.device.ctx.ongoing = true)
    (writes : state.writes = write :: earlier) (inProgress : write.InProgress state.device.ctx)
    (settled : ∀ earlierWrite ∈ earlier, earlierWrite.Settled) : MemWriteInvariant state where
  inFlight_eq := inFlight.trans ongoing.symm
  inStep := inProgress.inStep
  idle notOngoing := absurd (ongoing.symm.trans notOngoing) Bool.noConfusion
  busy _ := ⟨write, earlier, writes, inProgress, settled⟩

/-- `DSI_MemWrite` asks for a transfer of its first chunk and returns the answer. -/
theorem dsiMemWrite_idle (large : 2 ≤ (kMaxDSITxArraySize txMaxPayloadByte).toNat)
    {device : MemWriteDevice txMaxPayloadByte} (idle : device.ctx.ongoing = false)
    (virtualChannel : UInt8) {data : List UInt8} (answer : McuxStatus)
    (whole : 2 ∣ data.length) (short : data.length < UInt32.size) :
    ∃ after transfer, Advances (device.prepared virtualChannel data) after transfer ∧
      device.dsiMemWrite virtualChannel data answer = some
        (if answer ≠ .success then
          { after with ctx := { after.ctx with ongoing := false } }
        else
          after,
          answer, some transfer) := by
  have inStep : InStep (device.prepared virtualChannel data).ctx :=
    ⟨UInt32.toNat_ofNat_of_lt short, whole⟩
  rcases dsiMemWriteSendChunck_advances large inStep with ⟨after, transfer, sent, advances⟩
  refine ⟨after, transfer, advances, ?_⟩
  rw [MemWriteDevice.dsiMemWrite, MemWriteDevice.memWriteWith_idle idle]
  rw [MemWriteDevice.dsiMemWriteSendChunck] at sent
  rw [sent]
  rfl

/-- A write that is not turned down becomes the newest of the writes. -/
structure Begins (state next : MemWriteState txMaxPayloadByte) (virtualChannel : UInt8)
    (data : List UInt8) (answer : McuxStatus) (transfer : DsiTransfer) : Prop where
  returned : state.device.dsiMemWrite virtualChannel data answer =
    some (next.device, answer, some transfer)
  step : (memWriteMachine txMaxPayloadByte).step state
    (.memWrite virtualChannel data answer) = some next
  ongoing : next.device.ctx.ongoing = decide (answer = .success)
  inFlight : next.inFlight = decide (answer = .success)
  writes : next.writes = .started data transfer answer :: state.writes

/-- A write that asks for a transfer begins, and goes on if the controller takes it. -/
theorem begins_of_returned {virtualChannel : UInt8} {data : List UInt8} {answer : McuxStatus}
    {transfer : DsiTransfer} {device : MemWriteDevice txMaxPayloadByte}
    (returned : state.device.dsiMemWrite virtualChannel data answer =
      some (device, answer, some transfer))
    (ongoing : device.ctx.ongoing = decide (answer = .success)) :
    Begins state {
      device
      inFlight := answer = .success
      writes := .started data transfer answer :: state.writes }
      virtualChannel data answer transfer where
  returned := returned
  step := by
    dsimp only [memWriteMachine]
    rw [returned]
    rfl
  ongoing := ongoing
  inFlight := rfl
  writes := rfl

/-- A write that comes at any other time sends its first chunk. -/
theorem memWrite_idle (large : 2 ≤ (kMaxDSITxArraySize txMaxPayloadByte).toNat)
    (invariant : MemWriteInvariant state) (idle : state.device.ctx.ongoing = false)
    (virtualChannel : UInt8) (data : List UInt8) (answer : McuxStatus)
    (whole : 2 ∣ data.length) (short : data.length < UInt32.size) :
    ∃ next transfer, Begins state next virtualChannel data answer transfer ∧
      MemWriteInvariant next := by
  rcases dsiMemWrite_idle large idle virtualChannel answer whole short with
    ⟨after, transfer, advances, returned⟩
  have settled := invariant.idle idle
  by_cases accepted : answer = .success
  · subst accepted
    rw [if_neg (not_not_intro rfl)] at returned
    refine ⟨_, transfer, begins_of_returned returned advances.ongoing_eq, ?_⟩
    exact .ofBusy rfl advances.ongoing_eq rfl (MemWrite.started_inProgress rfl rfl advances)
      settled
  · rw [if_pos accepted] at returned
    refine ⟨_, transfer, begins_of_returned returned (decide_eq_false accepted).symm, ?_⟩
    apply MemWriteInvariant.ofIdle (decide_eq_false accepted) rfl
    · exact ⟨advances.inStep.remaining, advances.inStep.whole⟩
    · exact List.forall_mem_cons.mpr ⟨MemWrite.started_settled rfl advances accepted, settled⟩

/-- The end of a transfer leads to the next chunk or to the end of the write. -/
theorem transferDone_step (large : 2 ≤ (kMaxDSITxArraySize txMaxPayloadByte).toNat)
    (invariant : MemWriteInvariant state) (inFlight : state.inFlight = true)
    (status answer : McuxStatus) :
    ∃ next, (memWriteMachine txMaxPayloadByte).step state (.transferDone status answer) =
      some next ∧ MemWriteInvariant next := by
  have ongoing : state.device.ctx.ongoing = true := invariant.inFlight_eq ▸ inFlight
  rcases invariant.busy ongoing with ⟨write, earlier, writes, inProgress, settled⟩
  dsimp only [memWriteMachine]
  rw [MemWriteDevice.dsiMemWriteCallback, MemWriteDevice.callbackWith]
  split
  · rename_i continues
    rcases continues with ⟨rfl, more⟩
    have remaining : 0 < state.device.ctx.numBytesRemaining.toNat := UInt32.lt_iff_toNat_lt.mp more
    rcases dsiMemWriteSendChunck_advances large inProgress.inStep with
      ⟨after, transfer, sent, advances⟩
    rw [MemWriteDevice.dsiMemWriteSendChunck] at sent
    rw [sent]
    by_cases accepted : answer = .success
    · rw [accepted]
      refine ⟨_, rfl, .ofBusy rfl (advances.ongoing_eq.trans ongoing) ?_
        (inProgress.continued_accepted advances remaining) settled⟩
      dsimp only
      rw [writes]
      rfl
    · dsimp only [bind, Option.bind]
      rw [if_neg accepted]
      refine ⟨_, rfl, .ofIdle ?_ rfl ?_ ?_⟩
      · apply decide_eq_false
        intro both
        exact accepted both.2
      · exact ⟨advances.inStep.remaining, advances.inStep.whole⟩
      · rw [writes]
        exact List.forall_mem_cons.mpr
          ⟨inProgress.continued_refused advances remaining accepted, settled⟩
  · rename_i ends
    refine ⟨_, rfl, .ofIdle ?_ rfl ?_ ?_⟩
    · change decide (false = true ∧ answer = .success) = false
      apply decide_eq_false
      intro both
      exact Bool.noConfusion both.1
    · exact ⟨inProgress.inStep.remaining, inProgress.inStep.whole⟩
    · rw [writes]
      refine List.forall_mem_cons.mpr ⟨inProgress.continued_ended ?_, settled⟩
      intro both
      exact ends ⟨both.1, UInt32.lt_iff_toNat_lt.mpr both.2⟩

/-- Nothing that may come leads to a read past the buffer or a write past the
array. -/
theorem memWriteMachine_step (large : 2 ≤ (kMaxDSITxArraySize txMaxPayloadByte).toNat)
    (invariant : MemWriteInvariant state) {event : MemWriteEvent}
    (enabled : (memWriteMachine txMaxPayloadByte).Enabled state event) :
    ∃ next, (memWriteMachine txMaxPayloadByte).step state event = some next ∧
      MemWriteInvariant next := by
  cases event with
  | memWrite virtualChannel data answer =>
      cases ongoing : state.device.ctx.ongoing with
      | true =>
          dsimp only [memWriteMachine]
          rw [MemWriteDevice.dsiMemWrite, MemWriteDevice.memWriteWith_busy ongoing]
          exact ⟨state, rfl, invariant⟩
      | false =>
          rcases enabled with impossible | ⟨whole, short⟩
          · exact absurd (ongoing.symm.trans impossible) Bool.noConfusion
          · rcases memWrite_idle large invariant ongoing virtualChannel data answer whole short with
              ⟨next, transfer, begins, kept⟩
            exact ⟨next, begins.step, kept⟩
  | transferDone status answer => exact transferDone_step large invariant enabled status answer

theorem MemWriteInvariant.initially {device : MemWriteDevice txMaxPayloadByte}
    (cleared : device.ctx = .cleared) :
    MemWriteInvariant { device, inFlight := false, writes := [] } := by
  apply MemWriteInvariant.ofIdle rfl
  · dsimp only
    rw [cleared]
    rfl
  · dsimp only
    rw [cleared]
    exact ⟨rfl, Nat.dvd_zero 2⟩
  · intro write impossible
    cases impossible

end Steps

end PigweedExperimental.MipiDsi
