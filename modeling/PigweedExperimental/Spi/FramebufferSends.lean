import PigweedExperimental.DisplayDriver.ILI9341
import PigweedExperimental.Foundation.RowMajor
import PigweedExperimental.Spi.Stm32CubeInitiator

namespace PigweedExperimental.Spi.Stm32CubeInitiator

/-! # A frame sent in parts or whole

`DisplayDriverILI9341::WriteFramebuffer` can be compiled to send its pixels ten
rows at a time or all at once. `Transaction::Write` is a `WriteRead` that reads
nothing.
-/

open DisplayDriver.ILI9341

variable {Frame : Type}

/-- One round of the loop, which a failed write ends. -/
def writeRows (hal : Hal Frame) (fbData : Nat → Frame) (send : Nat)
    (initiator : Stm32CubeInitiator Frame) :
    Except (Status × Stm32CubeInitiator Frame) (Stm32CubeInitiator Frame) :=
  let written := initiator.writeRead hal
    ⟨fun index => fbData (kDisplayWidth * (kNumRowsPerSend * send) + index), kNumPixelsInSend⟩ 0
  if written.1 = .ok then .ok written.2 else .error written

/-- The variant that is compiled: `#if 1`. -/
def writeInParts (hal : Hal Frame) (fbData : Nat → Frame)
    (initiator : Stm32CubeInitiator Frame) : Status × Stm32CubeInitiator Frame :=
  match forUp kNumSends (writeRows hal fbData) initiator with
  | .ok written => (.ok, written)
  | .error failed => failed

/-- The variant after `#else`. -/
def writeWhole (hal : Hal Frame) (fbData : Nat → Frame)
    (initiator : Stm32CubeInitiator Frame) : Status × Stm32CubeInitiator Frame :=
  initiator.writeRead hal ⟨fbData, kDisplayNumPixels⟩ 0

section Variants

variable {hal : Hal Frame} {fbData : Nat → Frame} {initiator : Stm32CubeInitiator Frame}

theorem sent_of_transfers {next : Stm32CubeInitiator Frame} {transfer : Transfer Frame}
    (transfers : next.transfers = initiator.transfers ++ [transfer]) :
    next.sent = initiator.sent ++ transfer.sent := by
  rw [sent, transfers, List.flatMap_append, List.flatMap_singleton]
  rfl

/-- A write that succeeds sends what 16 bits keep of its size. -/
theorem sent_write {size : Nat} (isExact : hal.Exact) (positive : size ≠ 0)
    (ok : (initiator.writeRead hal ⟨fbData, size⟩ 0).1 = .ok) :
    (initiator.writeRead hal ⟨fbData, size⟩ 0).2.sent =
      initiator.sent ++ frames fbData (size % 65536) := by
  rcases writeRead_ok isExact ok with ⟨transfer, transfers, moved, _⟩
  have whole : requested size 0 = size := by
    rw [requested, if_pos positive]
    rfl
  rw [sent_of_transfers transfers, moved positive, whole]

theorem frames_add (first second : Nat) :
    frames fbData (first + second) =
      frames fbData first ++ frames (fun index => fbData (first + index)) second := by
  rw [frames, frames, frames, List.range_add, List.map_append, List.map_map]
  rfl

/-- The rows that the loop has sent when it gets on. -/
theorem sent_writeRows (isExact : hal.Exact) {count : Nat} {written : Stm32CubeInitiator Frame}
    (done : forUp count (writeRows hal fbData) initiator = .ok written) :
    written.sent = initiator.sent ++ frames fbData (count * kNumPixelsInSend) := by
  induction count generalizing written with
  | zero =>
      cases done
      rw [Nat.zero_mul]
      exact (List.append_nil _).symm
  | succ count induction =>
      cases before : forUp count (writeRows hal fbData) initiator with
      | error failed =>
          rw [forUp, before] at done
          cases done
      | ok middle =>
          rw [forUp, before, Except.bind, writeRows] at done
          split at done
          case isFalse failed => cases done
          case isTrue ok =>
            cases done
            have start : kDisplayWidth * (kNumRowsPerSend * count) = count * kNumPixelsInSend := by
              rw [kNumPixelsInSend, ← Nat.mul_assoc, Nat.mul_comm]
            have fits : kNumPixelsInSend % 65536 = kNumPixelsInSend := by decide
            rw [sent_write isExact (by decide) ok, induction before, start, fits, Nat.succ_mul,
              List.append_assoc, frames_add]

/-- The loop is left with the status of a write that failed. -/
theorem writeRows_failed {count : Nat} {failed : Status × Stm32CubeInitiator Frame}
    (stopped : forUp count (writeRows hal fbData) initiator = .error failed) :
    failed.1 ≠ .ok := by
  induction count with
  | zero => cases stopped
  | succ count induction =>
      cases before : forUp count (writeRows hal fbData) initiator with
      | error earlier =>
          rw [forUp, before] at stopped
          cases stopped
          exact induction before
      | ok middle =>
          rw [forUp, before, Except.bind, writeRows] at stopped
          split at stopped
          case isTrue ok => cases stopped
          case isFalse notOk =>
            cases stopped
            exact notOk

theorem sent_writeInParts (isExact : hal.Exact)
    (ok : (writeInParts hal fbData initiator).1 = .ok) :
    (writeInParts hal fbData initiator).2.sent =
      initiator.sent ++ frames fbData (kNumSends * kNumPixelsInSend) := by
  unfold writeInParts at ok ⊢
  generalize ran : forUp kNumSends (writeRows hal fbData) initiator = result at ok ⊢
  cases result with
  | ok written => exact sent_writeRows isExact ran
  | error failed => exact absurd ok (writeRows_failed ran)

theorem sent_writeWhole (isExact : hal.Exact)
    (ok : (writeWhole hal fbData initiator).1 = .ok) :
    (writeWhole hal fbData initiator).2.sent =
      initiator.sent ++ frames fbData (kDisplayNumPixels % 65536) := by
  rw [writeWhole] at ok ⊢
  exact sent_write isExact (by decide) ok

/-- A success stands for everything requested exactly below 2^16 frames. A whole frame
is above: sent at once, it is cut short where the loop sends it all. -/
theorem transfersRequested_iff_fits [Inhabited Frame] {writeBuffer : WriteBuffer Frame}
    {readSize : Nat} (notEmpty : ¬(writeBuffer.size = 0 ∧ readSize = 0)) :
    ((∀ hal : Hal Frame, hal.Exact → ∀ initiator : Stm32CubeInitiator Frame,
      initiator.TransfersRequested hal writeBuffer readSize) ↔
      requested writeBuffer.size readSize < 65536) ∧
    ∀ (hal : Hal Frame) (fbData : Nat → Frame) (initiator : Stm32CubeInitiator Frame),
      hal.Exact → (writeInParts hal fbData initiator).1 = .ok →
      (writeWhole hal fbData initiator).1 = .ok →
      (writeInParts hal fbData initiator).2.sent = initiator.sent ++ frames fbData 76800 ∧
        (writeWhole hal fbData initiator).2.sent = initiator.sent ++ frames fbData 11264 := by
  refine ⟨transfersRequested_iff notEmpty, ?_⟩
  intro hal fbData initiator isExact inParts whole
  have whole_eq : kNumSends * kNumPixelsInSend = 76800 := by decide
  have kept_eq : kDisplayNumPixels % 65536 = 11264 := by decide
  rw [sent_writeInParts isExact inParts, sent_writeWhole isExact whole, whole_eq, kept_eq]
  exact ⟨rfl, rfl⟩

theorem writeRows_reliable [Inhabited Frame] (ready : initiator.initStatus = .ok) (count : Nat) :
    ∃ written, forUp count (writeRows (.reliable Frame) fbData) initiator = .ok written ∧
      written.initStatus = .ok := by
  induction count with
  | zero => exact ⟨initiator, rfl, ready⟩
  | succ count induction =>
      rcases induction with ⟨middle, before, middleReady⟩
      rcases @writeRead_reliable Frame middle
        ⟨fun index => fbData (kDisplayWidth * (kNumRowsPerSend * count) + index), kNumPixelsInSend⟩
        0 _ middleReady with ⟨ok, stillReady⟩
      refine ⟨_, ?_, stillReady⟩
      rw [forUp, before, Except.bind, writeRows]
      exact if_pos ok

end Variants

theorem transfersRequested_iff_fits_reliable :
    fresh.TransfersRequested (.reliable UInt16) ⟨fun _ => 5, 3⟩ 0 ∧
      (writeInParts (.reliable UInt16) (fun _ => 5) fresh).2.sent = frames (fun _ => 5) 76800 ∧
      (writeWhole (.reliable UInt16) (fun _ => 5) fresh).2.sent = frames (fun _ => 5) 11264 := by
  have isExact := Hal.reliable_exact UInt16
  have both := @transfersRequested_iff_fits UInt16 _ ⟨fun _ => 5, 3⟩ 0 (by decide)
  have inParts : (writeInParts (.reliable UInt16) (fun _ => 5) fresh).1 = .ok := by
    rcases @writeRows_reliable UInt16 (fun _ => 5) fresh _ rfl kNumSends with ⟨written, ran, _⟩
    unfold writeInParts
    rw [ran]
  have whole : (writeWhole (.reliable UInt16) (fun _ => 5) fresh).1 = .ok :=
    (writeRead_reliable rfl).1
  have sends := both.2 _ _ fresh isExact inParts whole
  have nothingBefore : (@fresh UInt16).sent = [] := rfl
  rw [nothingBefore, List.nil_append, List.nil_append] at sends
  exact ⟨both.1.mpr (by decide) _ isExact fresh, sends⟩

/-- A whole frame in one write is over after 11264 of its 76800 pixels. -/
theorem writeRead_cutShort :
    ¬∀ hal : Hal UInt16, hal.Exact → ∀ (initiator : Stm32CubeInitiator UInt16)
      (writeBuffer : WriteBuffer UInt16) (readSize : Nat),
      ¬(writeBuffer.size = 0 ∧ readSize = 0) →
      initiator.TransfersRequested hal writeBuffer readSize := by
  intro always
  have notEmpty : ¬(kDisplayNumPixels = 0 ∧ 0 = 0) := by decide
  have fits := (@transfersRequested_iff UInt16 ⟨fun _ => 5, kDisplayNumPixels⟩ 0 _ notEmpty).mp
    fun hal isExact initiator => always hal isExact initiator _ 0 notEmpty
  revert fits
  decide

end PigweedExperimental.Spi.Stm32CubeInitiator
