import PigweedExperimental.MipiDsi.FramebufferDevice

namespace PigweedExperimental.MipiDsi

/-! # Memory writes over MIPI DSI

`DSI_MemWrite` sends a buffer in chunks that fit the controller: the first one
itself, each further one when the controller reports the one before. This is the
build without SmartDMA. What differs between builds for pixels of two and of three
bytes is the loop over a chunk, so the functions are given for any such loop, and
under the source's names for RGB565.
-/

/-- The DCS commands of a memory write, and the one in a cleared context. -/
inductive DcsCommand where
  | nop
  | writeMemoryStart
  | writeMemoryContinue
  deriving DecidableEq, Repr

/-- The payload that a transfer may have, in whole pixels. -/
def kMaxDSITxArraySize (txMaxPayloadByte : UInt32) : UInt32 := (txMaxPayloadByte - 1) / 2 * 2

/-- A pointer into the buffer is what the buffer has from there on. -/
structure DSIMemWriteContext where
  ongoing : Bool
  txData : List UInt8
  numBytesRemaining : UInt32
  dscCmd : DcsCommand
  deriving DecidableEq, Repr

/-- The context after `memset`. -/
def DSIMemWriteContext.cleared : DSIMemWriteContext where
  ongoing := false
  txData := []
  numBytesRemaining := 0
  dscCmd := .nop

/-- `dsi_transfer_t`, with the bytes that its pointer and its size stand for. -/
structure DsiTransfer where
  virtualChannel : UInt8
  useHighSpeed : Bool
  sendDscCmd : Bool
  dcsLongWrite : Bool
  dscCmd : DcsCommand
  txData : List UInt8
  deriving DecidableEq, Repr

/-- The part of `MCUXpressoDevice` that memory writes use. -/
structure MemWriteDevice (txMaxPayloadByte : UInt32) where
  ctx : DSIMemWriteContext
  xfer : DsiTransfer
  tmpArray : Vector UInt8 (kMaxDSITxArraySize txMaxPayloadByte).toNat
  deriving DecidableEq

namespace MemWriteDevice

variable {txMaxPayloadByte : UInt32}

def fresh : MemWriteDevice txMaxPayloadByte where
  ctx := .cleared
  xfer := {
    virtualChannel := 0
    useHighSpeed := false
    sendDscCmd := false
    dcsLongWrite := false
    dscCmd := .nop
    txData := [] }
  tmpArray := .replicate _ 0

/-- The loop over the pixels of a chunk. A read past the buffer and a write past
the array have no result. -/
def copyPixels (pixels i : Nat) (tmpArray : Vector UInt8 size) (txData : List UInt8) :
    Option (Vector UInt8 size × List UInt8) :=
  match pixels with
  | 0 => some (tmpArray, txData)
  | pixels + 1 =>
      match txData with
      | first :: second :: rest =>
          if inside : i + 1 < size then
            let tmpArray := (tmpArray.set i second).set (i + 1) first
            copyPixels pixels (i + 2) tmpArray rest
          else
            none
      | _ => none

/-- What a build's loop does with a chunk of some length: the array and the pointer
after it. -/
abbrev CopyLoop (size : Nat) :=
  Nat → Vector UInt8 size → List UInt8 → Option (Vector UInt8 size × List UInt8)

/-- The loop of the RGB565 build. -/
def copyLoop : CopyLoop size := fun curSendLen => copyPixels ((curSendLen + 1) / 2) 0

/-- `DsiMemWriteSendChunck` with the loop of a build: everything up to the call of
`DSI_TransferNonBlocking`, with its argument. -/
def sendChunckWith (copyLoop : CopyLoop (kMaxDSITxArraySize txMaxPayloadByte).toNat)
    (device : MemWriteDevice txMaxPayloadByte) :
    Option (MemWriteDevice txMaxPayloadByte × DsiTransfer) := do
  let ctx := device.ctx
  let curSendLen :=
    if kMaxDSITxArraySize txMaxPayloadByte > ctx.numBytesRemaining then
      ctx.numBytesRemaining
    else
      kMaxDSITxArraySize txMaxPayloadByte
  let (tmpArray, txData) ← copyLoop curSendLen.toNat device.tmpArray ctx.txData
  let xfer := { device.xfer with
    dcsLongWrite := true
    dscCmd := ctx.dscCmd
    txData := tmpArray.toList.take curSendLen.toNat }
  let ctx := { ctx with
    txData
    numBytesRemaining := ctx.numBytesRemaining - curSendLen
    dscCmd := .writeMemoryContinue }
  return ({ ctx, xfer, tmpArray }, xfer)

/-- `DSI_MemWrite` with the loop of a build, given the answer of
`DSI_TransferNonBlocking`: what it returns, and the transfer it asked for, if any. -/
def memWriteWith (copyLoop : CopyLoop (kMaxDSITxArraySize txMaxPayloadByte).toNat)
    (device : MemWriteDevice txMaxPayloadByte) (virtualChannel : UInt8) (data : List UInt8)
    (transferNonBlocking : McuxStatus) :
    Option (MemWriteDevice txMaxPayloadByte × McuxStatus × Option DsiTransfer) :=
  if device.ctx.ongoing then
    some (device, .fail, none)
  else do
    let device := { device with
      xfer := { device.xfer with virtualChannel, useHighSpeed := true, sendDscCmd := true }
      ctx := {
        ongoing := true
        txData := data
        numBytesRemaining := .ofNat data.length
        dscCmd := .writeMemoryStart } }
    let (device, transfer) ← device.sendChunckWith copyLoop
    let status := transferNonBlocking
    let device :=
      if status ≠ .success then
        { device with ctx := { device.ctx with ongoing := false } }
      else
        device
    return (device, status, some transfer)

/-- A call of the memory-done callback: its status, and whether the write counts
as ongoing then. -/
structure MemoryDone where
  status : McuxStatus
  ongoing : Bool
  deriving DecidableEq, Repr

/-- What `DsiMemWriteCallback` does last. -/
def memoryDone (device : MemWriteDevice txMaxPayloadByte) (status : McuxStatus) :
    MemWriteDevice txMaxPayloadByte × MemoryDone :=
  let device := { device with ctx := { device.ctx with ongoing := false } }
  (device, { status, ongoing := device.ctx.ongoing })

/-- `DsiMemWriteCallback` with the loop of a build, given the answer of
`DSI_TransferNonBlocking`: the transfer it asked for, and its call of the memory-done
callback. -/
def callbackWith (copyLoop : CopyLoop (kMaxDSITxArraySize txMaxPayloadByte).toNat)
    (device : MemWriteDevice txMaxPayloadByte) (status transferNonBlocking : McuxStatus) :
    Option (MemWriteDevice txMaxPayloadByte × Option DsiTransfer × Option MemoryDone) :=
  if status = .success ∧ device.ctx.numBytesRemaining > 0 then do
    let (device, transfer) ← device.sendChunckWith copyLoop
    let status := transferNonBlocking
    if status = .success then
      return (device, some transfer, none)
    else
      let (device, done) := device.memoryDone status
      return (device, some transfer, some done)
  else
    let (device, done) := device.memoryDone status
    some (device, none, some done)

def dsiMemWriteSendChunck (device : MemWriteDevice txMaxPayloadByte) :
    Option (MemWriteDevice txMaxPayloadByte × DsiTransfer) :=
  device.sendChunckWith copyLoop

def dsiMemWrite (device : MemWriteDevice txMaxPayloadByte) (virtualChannel : UInt8)
    (data : List UInt8) (transferNonBlocking : McuxStatus) :
    Option (MemWriteDevice txMaxPayloadByte × McuxStatus × Option DsiTransfer) :=
  device.memWriteWith copyLoop virtualChannel data transferNonBlocking

def dsiMemWriteCallback (device : MemWriteDevice txMaxPayloadByte)
    (status transferNonBlocking : McuxStatus) :
    Option (MemWriteDevice txMaxPayloadByte × Option DsiTransfer × Option MemoryDone) :=
  device.callbackWith copyLoop status transferNonBlocking

/-- `DSI_MemWrite` before its first chunk. -/
def prepared (device : MemWriteDevice txMaxPayloadByte) (virtualChannel : UInt8)
    (data : List UInt8) : MemWriteDevice txMaxPayloadByte :=
  { device with
    xfer := { device.xfer with virtualChannel, useHighSpeed := true, sendDscCmd := true }
    ctx := {
      ongoing := true
      txData := data
      numBytesRemaining := .ofNat data.length
      dscCmd := .writeMemoryStart } }

section MemWriteWith

variable {copyLoop : CopyLoop (kMaxDSITxArraySize txMaxPayloadByte).toNat}
  {device : MemWriteDevice txMaxPayloadByte}

/-- A write that comes while another one goes on is turned down. -/
theorem memWriteWith_busy (ongoing : device.ctx.ongoing = true) (virtualChannel : UInt8)
    (data : List UInt8) (answer : McuxStatus) :
    device.memWriteWith copyLoop virtualChannel data answer = some (device, .fail, none) := by
  rw [memWriteWith, if_pos ongoing]

/-- A write that comes at any other time sends its first chunk, and goes on if the
controller takes it. -/
theorem memWriteWith_idle (idle : device.ctx.ongoing = false) (virtualChannel : UInt8)
    (data : List UInt8) (answer : McuxStatus) :
    device.memWriteWith copyLoop virtualChannel data answer =
      ((device.prepared virtualChannel data).sendChunckWith copyLoop).map fun sent =>
        (if answer ≠ .success then
          { sent.1 with ctx := { sent.1.ctx with ongoing := false } }
        else
          sent.1,
          answer, some sent.2) := by
  rw [memWriteWith, if_neg (by rw [idle]; exact Bool.false_ne_true)]
  change ((device.prepared virtualChannel data).sendChunckWith copyLoop).bind _ = _
  cases (device.prepared virtualChannel data).sendChunckWith copyLoop <;> rfl

end MemWriteWith

end MemWriteDevice

end PigweedExperimental.MipiDsi
