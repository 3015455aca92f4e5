import Mathlib.Data.List.Basic
import PigweedExperimental.Status

namespace PigweedExperimental.Spi

/-! # `Stm32CubeInitiator`

The SPI initiator on top of the STM32 HAL. The HAL moves data frames of 8 or 16
bits and counts them in a `uint16_t`; the spans of the interface have a `size_t`.
-/

inductive HalStatus where
  | ok
  | error
  | busy
  | timeout
  deriving DecidableEq, Repr

def convertStatus : HalStatus → Status
  | .ok => .ok
  | .error => .internal
  | .busy => .unavailable
  | .timeout => .deadlineExceeded

theorem convertStatus_eq_ok (status : HalStatus) : convertStatus status = .ok ↔ status = .ok := by
  cases status <;> simp [convertStatus]

/-- What a transfer function returns, and the frames it has moved. -/
structure Transfer (Frame : Type) where
  status : HalStatus
  sent : List Frame
  received : List Frame
  deriving DecidableEq, Repr

/-- The functions of the HAL. A transfer is given the frames from a pointer on
and a count, and may turn out differently from one call to the next. -/
structure Hal (Frame : Type) where
  spiInit : HalStatus
  transmit (call : Nat) (data : Nat → Frame) (size : UInt16) : Transfer Frame
  receive (call : Nat) (size : UInt16) : Transfer Frame
  transmitReceive (call : Nat) (data : Nat → Frame) (size : UInt16) : Transfer Frame

/-- The first frames from a pointer on. -/
def frames {Frame : Type} (data : Nat → Frame) (count : Nat) : List Frame :=
  (List.range count).map data

/-- A transfer that succeeds has moved as many frames as it was given. -/
structure Hal.Exact {Frame : Type} (hal : Hal Frame) : Prop where
  transmit : ∀ call data size, (hal.transmit call data size).status = .ok →
    (hal.transmit call data size).sent = frames data size.toNat
  receive : ∀ call size, (hal.receive call size).status = .ok →
    (hal.receive call size).received.length = size.toNat
  transmitReceive : ∀ call data size, (hal.transmitReceive call data size).status = .ok →
    (hal.transmitReceive call data size).sent = frames data size.toNat ∧
      (hal.transmitReceive call data size).received.length = size.toNat

/-- A HAL without failures. -/
def Hal.reliable (Frame : Type) [Inhabited Frame] : Hal Frame where
  spiInit := .ok
  transmit := fun _ data size => ⟨.ok, frames data size.toNat, []⟩
  receive := fun _ size => ⟨.ok, [], List.replicate size.toNat default⟩
  transmitReceive := fun _ data size =>
    ⟨.ok, frames data size.toNat, List.replicate size.toNat default⟩

theorem Hal.reliable_exact (Frame : Type) [Inhabited Frame] : (Hal.reliable Frame).Exact where
  transmit := fun _ _ _ _ => rfl
  receive := fun _ _ _ => List.length_replicate
  transmitReceive := fun _ _ _ _ => ⟨rfl, List.length_replicate⟩

structure WriteBuffer (Frame : Type) where
  data : Nat → Frame
  size : Nat

/-- The initiator, with the transfers made so far. -/
structure Stm32CubeInitiator (Frame : Type) where
  initialized : Bool
  initStatus : Status
  transfers : List (Transfer Frame)

namespace Stm32CubeInitiator

variable {Frame : Type}

def fresh : Stm32CubeInitiator Frame where
  initialized := false
  initStatus := .ok
  transfers := []

def lazyInit (hal : Hal Frame) (initiator : Stm32CubeInitiator Frame) :
    Status × Stm32CubeInitiator Frame :=
  if initiator.initialized then
    (initiator.initStatus, initiator)
  else
    let initStatus := convertStatus hal.spiInit
    (initStatus, { initiator with initialized := true, initStatus })

def complete (initiator : Stm32CubeInitiator Frame) (transfer : Transfer Frame) :
    Status × Stm32CubeInitiator Frame :=
  (convertStatus transfer.status,
    { initiator with transfers := initiator.transfers ++ [transfer] })

def writeRead (hal : Hal Frame) (initiator : Stm32CubeInitiator Frame)
    (writeBuffer : WriteBuffer Frame) (readSize : Nat) : Status × Stm32CubeInitiator Frame :=
  let ready := initiator.lazyInit hal
  let call := ready.2.transfers.length
  if ready.1 ≠ .ok then
    ready
  else if writeBuffer.size ≠ 0 then
    if readSize ≠ 0 then
      let size := UInt16.ofNat (min writeBuffer.size readSize)
      ready.2.complete (hal.transmitReceive call writeBuffer.data size)
    else
      ready.2.complete (hal.transmit call writeBuffer.data (.ofNat writeBuffer.size))
  else
    ready.2.complete (hal.receive call (.ofNat readSize))

/-- The frames that have been sent, in their order. -/
def sent (initiator : Stm32CubeInitiator Frame) : List Frame :=
  initiator.transfers.flatMap Transfer.sent

/-- How many frames a `WriteRead` is to move. -/
def requested (writeSize readSize : Nat) : Nat :=
  if writeSize ≠ 0 then
    if readSize ≠ 0 then min writeSize readSize else writeSize
  else
    readSize

/-- `WriteRead` returns `OK` only after one transfer of what was requested, in
each direction that it has a span for. -/
def TransfersRequested (hal : Hal Frame) (initiator : Stm32CubeInitiator Frame)
    (writeBuffer : WriteBuffer Frame) (readSize : Nat) : Prop :=
  (initiator.writeRead hal writeBuffer readSize).1 = .ok →
    ∃ transfer, (initiator.writeRead hal writeBuffer readSize).2.transfers =
        initiator.transfers ++ [transfer] ∧
      (writeBuffer.size ≠ 0 → transfer.sent.length = requested writeBuffer.size readSize) ∧
      (readSize ≠ 0 → transfer.received.length = requested writeBuffer.size readSize)

section Narrowing

variable {hal : Hal Frame} {initiator : Stm32CubeInitiator Frame}
  {writeBuffer : WriteBuffer Frame} {readSize : Nat}

theorem length_frames (data : Nat → Frame) (count : Nat) : (frames data count).length = count := by
  rw [frames, List.length_map, List.length_range]

theorem lazyInit_transfers : (initiator.lazyInit hal).2.transfers = initiator.transfers := by
  rw [lazyInit]
  split <;> rfl

/-- A transfer that returns `OK` has moved what 16 bits keep of the request. -/
theorem writeRead_ok (isExact : hal.Exact)
    (ok : (initiator.writeRead hal writeBuffer readSize).1 = .ok) :
    ∃ transfer, (initiator.writeRead hal writeBuffer readSize).2.transfers =
        initiator.transfers ++ [transfer] ∧
      (writeBuffer.size ≠ 0 → transfer.sent =
        frames writeBuffer.data (requested writeBuffer.size readSize % 65536)) ∧
      (readSize ≠ 0 → transfer.received.length =
        requested writeBuffer.size readSize % 65536) := by
  rw [writeRead] at ok ⊢
  rw [requested]
  dsimp only at ok ⊢
  split at ok
  case isTrue failed => exact absurd ok failed
  case isFalse ready =>
    rw [if_neg ready, ← @lazyInit_transfers Frame hal initiator]
    split at ok
    case isTrue writes =>
      rw [if_pos writes, if_pos writes]
      split at ok
      case isTrue reads =>
        have moved := isExact.transmitReceive _ _ _ ((convertStatus_eq_ok _).mp ok)
        rw [UInt16.toNat_ofNat'] at moved
        rw [if_pos reads, if_pos reads]
        exact ⟨_, rfl, fun _ => moved.1, fun _ => moved.2⟩
      case isFalse noRead =>
        have moved := isExact.transmit _ _ _ ((convertStatus_eq_ok _).mp ok)
        rw [UInt16.toNat_ofNat'] at moved
        rw [if_neg noRead, if_neg noRead]
        exact ⟨_, rfl, fun _ => moved, fun reads => absurd reads noRead⟩
    case isFalse noWrite =>
      have moved := isExact.receive _ _ ((convertStatus_eq_ok _).mp ok)
      rw [UInt16.toNat_ofNat'] at moved
      rw [if_neg noWrite, if_neg noWrite]
      exact ⟨_, rfl, fun writes => absurd writes noWrite, fun _ => moved⟩

/-- Without failures `WriteRead` returns `OK`, time and again. -/
theorem writeRead_reliable [Inhabited Frame] (ready : initiator.initStatus = .ok) :
    (initiator.writeRead (.reliable Frame) writeBuffer readSize).1 = .ok ∧
      (initiator.writeRead (.reliable Frame) writeBuffer readSize).2.initStatus = .ok := by
  have initialised : (initiator.lazyInit (.reliable Frame)).1 = .ok ∧
      (initiator.lazyInit (.reliable Frame)).2.initStatus = .ok := by
    rw [lazyInit]
    split
    · exact ⟨ready, ready⟩
    · exact ⟨rfl, rfl⟩
  rw [writeRead]
  dsimp only
  rw [if_neg (not_not.mpr initialised.1)]
  split
  · split <;> exact ⟨rfl, initialised.2⟩
  · exact ⟨rfl, initialised.2⟩

/-- An `OK` means that everything was transferred exactly for requests that fit
the HAL's count. -/
theorem transfersRequested_iff [Inhabited Frame]
    (notEmpty : ¬(writeBuffer.size = 0 ∧ readSize = 0)) :
    (∀ hal : Hal Frame, hal.Exact → ∀ initiator : Stm32CubeInitiator Frame,
      initiator.TransfersRequested hal writeBuffer readSize) ↔
      requested writeBuffer.size readSize < 65536 := by
  constructor
  · intro always
    have ok := (@writeRead_reliable Frame fresh writeBuffer readSize _ rfl).1
    rcases always (.reliable Frame) (Hal.reliable_exact Frame) fresh ok with
      ⟨transfer, transfers, written, read⟩
    rcases writeRead_ok (Hal.reliable_exact Frame) ok with
      ⟨other, otherTransfers, moved, movedBack⟩
    rw [transfers] at otherTransfers
    cases List.append_cancel_left otherTransfers
    by_cases writes : writeBuffer.size = 0
    case pos =>
      have reads : readSize ≠ 0 := fun noRead => notEmpty ⟨writes, noRead⟩
      have same := (read reads).symm.trans (movedBack reads)
      omega
    case neg =>
      have same := written writes
      rw [moved writes, length_frames] at same
      omega
  · intro fits hal isExact initiator ok
    rcases writeRead_ok isExact ok with ⟨transfer, transfers, moved, movedBack⟩
    rw [Nat.mod_eq_of_lt fits] at moved movedBack
    refine ⟨transfer, transfers, ?_, movedBack⟩
    intro writes
    rw [moved writes, length_frames]

end Narrowing

end Stm32CubeInitiator

end PigweedExperimental.Spi
