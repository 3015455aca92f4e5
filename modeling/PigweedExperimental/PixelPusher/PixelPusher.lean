import PigweedExperimental.Foundation.Execution
import PigweedExperimental.Framebuffer.Framebuffer
import PigweedExperimental.Status

namespace PigweedExperimental.PixelPusher

/-! # `PixelPusherRp2040Pio`

Frames go to the panel by DMA: a frame as it is in one transfer, a frame whose
pixels are doubled in one transfer for two panel rows, where an interrupt
handler starts the next transfer at the end of each.
-/

/-- The unit of a DMA transfer: one pixel, or two. -/
inductive DmaSize where
  | size16
  | size32
  deriving DecidableEq, Repr

def DmaSize.pixels : DmaSize → Int
  | .size16 => 1
  | .size32 => 2

/-- A DMA channel, as far as the pusher sets it up. The end of a transfer raises
an interrupt, which the handler sees if it is enabled. -/
structure DmaChannel where
  dataSize : DmaSize
  transCount : Int
  irq0Enabled : Bool
  irqRaised : Bool
  busy : Bool
  deriving DecidableEq, Repr

/-- `dma_channel_get_irq0_status`. -/
def DmaChannel.irq0Status (channel : DmaChannel) : Bool :=
  channel.irqRaised && channel.irq0Enabled

/-- `dma_channel_acknowledge_irq0`. -/
def DmaChannel.acknowledgeIrq0 (channel : DmaChannel) : DmaChannel :=
  { channel with irqRaised := false }

/-- The end of a transfer, before any handler runs. -/
def DmaChannel.finish (channel : DmaChannel) : DmaChannel :=
  { channel with busy := false, irqRaised := true }

inductive PioProgram where
  | raw
  | pixelDouble
  deriving DecidableEq, Repr

structure Pio where
  program : PioProgram
  autopull : Bool
  pullThreshold : Nat
  deriving DecidableEq, Repr

/-- A transfer that is started: from which pixel of which buffer, how many units
of which size, for which program and in which mode of the pusher. -/
structure Transfer where
  data : Address
  offset : Int
  count : Int
  dataSize : DmaSize
  program : PioProgram
  pixelDouble : Bool
  deriving DecidableEq, Repr

/-- A completion callback that is called, with its arguments. -/
structure Completion (Callback : Type) where
  callback : Callback
  framebuffer : Framebuffer
  status : Status
  deriving DecidableEq

/-- The pusher with the static variables of its file, and the hardware. The
channel that `Init` claims is `ownChannel`; the handler goes by `dmaChannel`. -/
structure Pusher (Callback : Type) where
  pixelDoubleEnabled : Bool
  writeMode : Bool
  ownChannel : Nat
  framebuffer : Framebuffer
  drawCallback : Option Callback
  dmaChannel : Nat
  currentScanline : Int
  irqFireCount : Int
  channels : Nat → DmaChannel
  pio : Pio

namespace Pusher

variable {Callback : Type}

def updateChannel (pusher : Pusher Callback) (channel : Nat)
    (update : DmaChannel → DmaChannel) : Pusher Callback :=
  { pusher with channels := fun other =>
      if other = channel then update (pusher.channels other) else pusher.channels other }

/-- After `Init`, which claims a channel for units of 16 bits. -/
def afterInit (ownChannel : Nat) : Pusher Callback where
  pixelDoubleEnabled := false
  writeMode := false
  ownChannel
  framebuffer := .invalid
  drawCallback := none
  dmaChannel := 0
  currentScanline := 240
  irqFireCount := 0
  channels := fun _ => {
    dataSize := .size16
    transCount := 0
    irq0Enabled := false
    irqRaised := false
    busy := false }
  pio := { program := .raw, autopull := true, pullThreshold := 8 }

/-- `dma_channel_set_trans_count` and `dma_channel_set_read_addr`, the second with
a trigger. -/
def startTransfer (pusher : Pusher Callback) (channel : Nat) (count offset : Int) :
    Pusher Callback × Transfer :=
  let pusher := pusher.updateChannel channel fun dma =>
    { dma with transCount := count, busy := true }
  (pusher, {
    data := pusher.framebuffer.pixelData
    offset
    count
    dataSize := (pusher.channels channel).dataSize
    program := pusher.pio.program
    pixelDouble := pusher.pixelDoubleEnabled })

/-- `irq_handler`, with the transfer that it starts, or the callback that it calls.
The call and the `s_draw_callback = nullptr` behind it are one step here. This
supposes that a callback writes no frame itself; the one of the display only gives
its framebuffer back to the pool. -/
def irqHandler (pusher : Pusher Callback) :
    Pusher Callback × Option Transfer × Option (Completion Callback) :=
  let pusher := { pusher with irqFireCount := pusher.irqFireCount + 1 }
  if (pusher.channels pusher.dmaChannel).irq0Status then
    let pusher := pusher.updateChannel pusher.dmaChannel DmaChannel.acknowledgeIrq0
    let fbWidth : UInt16 := pusher.framebuffer.size.width * 2
    let fbHeight : UInt16 := pusher.framebuffer.size.height * 2
    let pusher := { pusher with currentScanline := pusher.currentScanline + 1 }
    if pusher.currentScanline > (fbHeight.toNat / 2 : Nat) then
      match pusher.drawCallback with
      | some callback =>
          ({ pusher with
              framebuffer := pusher.framebuffer.movedFrom
              drawCallback := none },
            none, some { callback, framebuffer := pusher.framebuffer, status := .ok })
      | none => (pusher, none, none)
    else
      let count : Int :=
        if pusher.currentScanline = ((fbHeight.toNat + 1) / 2 : Nat) then
          (fbWidth.toNat / 4 : Nat)
        else
          (fbWidth.toNat / 2 : Nat)
      let (pusher, transfer) := pusher.startTransfer pusher.dmaChannel count
        ((pusher.currentScanline - 1) * (fbWidth.toNat / 2 : Nat))
      (pusher, some transfer, none)
  else
    (pusher, none, none)

def dmaIsBusy (pusher : Pusher Callback) : Bool :=
  if pusher.pixelDoubleEnabled ∧
      pusher.currentScanline ≤ (pusher.framebuffer.size.height.toNat * 2 / 2 : Nat) then
    true
  else
    (pusher.channels pusher.dmaChannel).busy

/-- The raw program is what `Init` has set up; nothing goes back to it. -/
def setupWriteFramebuffer (pusher : Pusher Callback) : Pusher Callback :=
  let pusher :=
    if pusher.pixelDoubleEnabled then
      { pusher with pio := { program := .pixelDouble, autopull := false, pullThreshold := 0 } }
    else
      { pusher with pio := { pusher.pio with autopull := true, pullThreshold := 16 } }
  let dataSize := if pusher.pixelDoubleEnabled then DmaSize.size32 else DmaSize.size16
  let pusher := pusher.updateChannel pusher.ownChannel fun dma => { dma with dataSize }
  { pusher with writeMode := true }

/-- A call of `WriteFramebuffer` that has come out of its waits. -/
def writeFramebuffer (pusher : Pusher Callback) (framebuffer : Framebuffer)
    (completeCallback : Callback) : Option (Pusher Callback × Transfer) :=
  let pusher := if pusher.writeMode then pusher else pusher.setupWriteFramebuffer
  if pusher.drawCallback.isSome then
    none
  else
    let pusher := { pusher with
      drawCallback := some completeCallback
      framebuffer
      dmaChannel := pusher.ownChannel }
    let fbWidth : Int := framebuffer.size.width.toNat
    let fbHeight : Int := framebuffer.size.height.toNat
    if pusher.pixelDoubleEnabled then
      let fbWidth := fbWidth * 2
      let pusher := { pusher with currentScanline := 0, irqFireCount := 0 }
      some (pusher.startTransfer pusher.ownChannel (fbWidth / 4) 0)
    else
      some (pusher.startTransfer pusher.ownChannel (fbWidth * fbHeight) 0)

def setPixelDouble (pusher : Pusher Callback) (enabled : Bool) : Pusher Callback :=
  let pusher := { pusher with pixelDoubleEnabled := enabled }
  if pusher.pixelDoubleEnabled then
    let pusher := pusher.updateChannel pusher.dmaChannel DmaChannel.acknowledgeIrq0
    pusher.updateChannel pusher.dmaChannel fun dma => { dma with irq0Enabled := true }
  else
    pusher.updateChannel pusher.dmaChannel fun dma => { dma with irq0Enabled := false }

end Pusher

/-- A frame with the transfers that were started for it. -/
structure Frame (Callback : Type) where
  framebuffer : Framebuffer
  callback : Callback
  transfers : List Transfer
  deriving DecidableEq

/-- What the frame's callback should be called with. -/
def Frame.completion (frame : Frame Callback) : Completion Callback where
  callback := frame.callback
  framebuffer := frame.framebuffer
  status := .ok

/-- The pusher with its frames and the calls of callbacks, the newest first. -/
structure Session (Callback : Type) where
  pusher : Pusher Callback
  frames : List (Frame Callback)
  completions : List (Completion Callback)

inductive Event (Callback : Type) where
  | setPixelDouble (enabled : Bool)
  | writeFramebuffer (framebuffer : Framebuffer) (completeCallback : Callback)
  | transferDone
  | interrupt
  deriving DecidableEq

namespace Session

variable {Callback : Type}

def start (pusher : Pusher Callback) : Session Callback where
  pusher
  frames := []
  completions := []

/-- The channel that all transfers of the pusher go through. -/
def channel (session : Session Callback) : DmaChannel :=
  session.pusher.channels session.pusher.ownChannel

/-- No transfer is under way, and no interrupt of one. -/
def BetweenFrames (session : Session Callback) : Prop :=
  session.channel.busy = false ∧ session.channel.irq0Status = false

/-- A write gets out of its waits when nothing is busy any more. -/
def Enabled (session : Session Callback) : Event Callback → Prop
  | .setPixelDouble _ => session.BetweenFrames
  | .writeFramebuffer _ _ =>
      session.pusher.dmaIsBusy = false ∧
        (session.pusher.channels session.pusher.dmaChannel).busy = false
  | .transferDone => session.channel.busy = true
  | .interrupt => session.channel.irq0Status = true

instance (session : Session Callback) :
    (event : Event Callback) → Decidable (session.Enabled event)
  | .setPixelDouble _ => inferInstanceAs (Decidable (_ = false ∧ _ = false))
  | .writeFramebuffer _ _ => inferInstanceAs (Decidable (_ = false ∧ _ = false))
  | .transferDone => inferInstanceAs (Decidable (_ = true))
  | .interrupt => inferInstanceAs (Decidable (_ = true))

/-- The transfer belongs to the newest frame. -/
def startedFor (transfer : Option Transfer) (frame : Frame Callback) : Frame Callback :=
  { frame with transfers := frame.transfers ++ transfer.toList }

def step (session : Session Callback) : Event Callback → Option (Session Callback)
  | .setPixelDouble enabled =>
      some { session with pusher := session.pusher.setPixelDouble enabled }
  | .writeFramebuffer framebuffer completeCallback => do
      let (pusher, transfer) ← session.pusher.writeFramebuffer framebuffer completeCallback
      let frame := { framebuffer, callback := completeCallback, transfers := [transfer] }
      return { session with pusher, frames := frame :: session.frames }
  | .transferDone =>
      some { session with
        pusher := session.pusher.updateChannel session.pusher.ownChannel DmaChannel.finish }
  | .interrupt =>
      let (pusher, transfer, completion) := session.pusher.irqHandler
      some {
        pusher
        frames := session.frames.modifyHead (startedFor transfer)
        completions := completion.toList ++ session.completions }

def machine (Callback : Type) : Machine (Session Callback) (Event Callback) where
  Enabled := Enabled
  step := step

instance (session : Session Callback) (event : Event Callback) :
    Decidable ((machine Callback).Enabled session event) :=
  inferInstanceAs (Decidable (session.Enabled event))

end Session

end PigweedExperimental.PixelPusher
