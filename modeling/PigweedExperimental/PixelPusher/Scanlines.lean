import PigweedExperimental.PixelPusher.PixelPusher
import Mathlib.Data.List.Range

namespace PigweedExperimental.PixelPusher

/-! # The scanlines of a doubled frame

While the pusher doubles pixels with its interrupt enabled, it is at rest, or
`current_scanline` says how many transfers of the newest frame it has started.
The invariant holds for all sizes, also where the doubled size overflows.
-/

/-- The last scanline for which the handler starts a transfer. -/
def lastScanline (framebuffer : Framebuffer) : Nat :=
  (framebuffer.size.height * 2).toNat / 2

/-- The transfer that belongs to a scanline of a doubled frame. -/
def scanlineTransfer (framebuffer : Framebuffer) (scanline : Nat) : Transfer where
  data := framebuffer.pixelData
  offset :=
    if scanline = 0 then 0
    else ((scanline : Int) - 1) * ((framebuffer.size.width * 2).toNat / 2 : Nat)
  count :=
    if scanline = 0 then (framebuffer.size.width.toNat : Int) * 2 / 4
    else if scanline = lastScanline framebuffer then
      ((framebuffer.size.width * 2).toNat / 4 : Nat)
    else
      ((framebuffer.size.width * 2).toNat / 2 : Nat)
  dataSize := .size32
  program := .pixelDouble
  pixelDouble := true

/-- The transfers for the scanlines up to one. -/
def transfersUpTo (framebuffer : Framebuffer) (scanline : Nat) : List Transfer :=
  (List.range (scanline + 1)).map (scanlineTransfer framebuffer)

theorem transfersUpTo_succ (framebuffer : Framebuffer) (scanline : Nat) :
    transfersUpTo framebuffer (scanline + 1) =
      transfersUpTo framebuffer scanline ++ [scanlineTransfer framebuffer (scanline + 1)] := by
  simp [transfersUpTo, List.range_succ]

/-- The handler halves an even number with and without rounding up. -/
theorem lastScanline_eq_roundedUp (framebuffer : Framebuffer) :
    ((framebuffer.size.height * 2).toNat + 1) / 2 = lastScanline framebuffer := by
  rw [lastScanline, UInt16.toNat_mul]
  change (_ * 2 % 65536 + 1) / 2 = _ * 2 % 65536 / 2
  omega

theorem lastScanline_le_height (framebuffer : Framebuffer) :
    lastScanline framebuffer ≤ framebuffer.size.height.toNat := by
  rw [lastScanline, UInt16.toNat_mul]
  change _ * 2 % 65536 / 2 ≤ _
  omega

namespace Pusher

variable {Callback : Type} {pusher : Pusher Callback}

@[simp] theorem updateChannel_same (pusher : Pusher Callback) (channel : Nat)
    (update : DmaChannel → DmaChannel) :
    (pusher.updateChannel channel update).channels channel = update (pusher.channels channel) := by
  simp [updateChannel]

@[simp] theorem updateChannel_ownChannel (pusher : Pusher Callback) (channel : Nat)
    (update : DmaChannel → DmaChannel) :
    (pusher.updateChannel channel update).ownChannel = pusher.ownChannel :=
  rfl

/-- The channel is set up for units of two pixels, if it is set up at all. -/
def SetUpForDoubling (pusher : Pusher Callback) : Prop :=
  pusher.writeMode = true →
    (pusher.channels pusher.ownChannel).dataSize = .size32 ∧ pusher.pio.program = .pixelDouble

/-- The handler has acknowledged the interrupt and counted the scanline. -/
def counted (pusher : Pusher Callback) : Pusher Callback :=
  { pusher.updateChannel pusher.dmaChannel DmaChannel.acknowledgeIrq0 with
    irqFireCount := pusher.irqFireCount + 1
    currentScanline := pusher.currentScanline + 1 }

/-- What the handler does about the interrupt of its channel. -/
theorem irqHandler_raised (raised : (pusher.channels pusher.dmaChannel).irq0Status = true) :
    pusher.irqHandler =
      if pusher.currentScanline + 1 > (lastScanline pusher.framebuffer : Int) then
        match pusher.drawCallback with
        | some callback =>
            ({ pusher.counted with
                framebuffer := pusher.framebuffer.movedFrom
                drawCallback := none },
              none, some { callback, framebuffer := pusher.framebuffer, status := .ok })
        | none => (pusher.counted, none, none)
      else
        let count : Int :=
          if pusher.currentScanline + 1 =
              (((pusher.framebuffer.size.height * 2).toNat + 1) / 2 : Nat) then
            ((pusher.framebuffer.size.width * 2).toNat / 4 : Nat)
          else
            ((pusher.framebuffer.size.width * 2).toNat / 2 : Nat)
        let offset := (pusher.currentScanline + 1 - 1) *
          ((pusher.framebuffer.size.width * 2).toNat / 2 : Nat)
        let (next, transfer) := pusher.counted.startTransfer pusher.dmaChannel count offset
        (next, some transfer, none) := by
  rw [irqHandler]
  exact if_pos raised

/-- Before the last scanline, the handler starts the transfer of the next one. -/
theorem irqHandler_next {scanline : Nat}
    (raised : (pusher.channels pusher.dmaChannel).irq0Status = true)
    (atScanline : pusher.currentScanline = scanline)
    (notLast : scanline < lastScanline pusher.framebuffer)
    (unit : (pusher.channels pusher.dmaChannel).dataSize = .size32)
    (program : pusher.pio.program = .pixelDouble) (doubled : pusher.pixelDoubleEnabled = true) :
    let transfer := scanlineTransfer pusher.framebuffer (scanline + 1)
    pusher.irqHandler =
      ((pusher.counted.startTransfer pusher.dmaChannel transfer.count transfer.offset).1,
        some transfer, none) := by
  intro transfer
  have nextScanline : pusher.currentScanline + 1 = ((scanline + 1 : Nat) : Int) := by omega
  have isCount : transfer.count =
      if ((scanline + 1 : Nat) : Int) = (lastScanline pusher.framebuffer : Int) then
        (((pusher.framebuffer.size.width * 2).toNat / 4 : Nat) : Int)
      else
        (((pusher.framebuffer.size.width * 2).toNat / 2 : Nat) : Int) := by
    simp only [transfer, scanlineTransfer, Nat.add_one_ne_zero, if_false, Int.natCast_inj]
  have isOffset : transfer.offset = (((scanline + 1 : Nat) : Int) - 1) *
      ((pusher.framebuffer.size.width * 2).toNat / 2 : Nat) := rfl
  have isTransfer : (pusher.counted.startTransfer pusher.dmaChannel
      transfer.count transfer.offset).2 = transfer := by
    simp [startTransfer, counted, DmaChannel.acknowledgeIrq0, updateChannel, unit, program,
      doubled, transfer, scanlineTransfer]
  rw [irqHandler_raised raised, if_neg (by omega), lastScanline_eq_roundedUp, nextScanline,
    ← isCount, ← isOffset]
  dsimp only
  rw [isTransfer]

/-- After the last scanline, the handler calls the callback of the frame. -/
theorem irqHandler_last {callback : Callback}
    (raised : (pusher.channels pusher.dmaChannel).irq0Status = true)
    (last : lastScanline pusher.framebuffer ≤ pusher.currentScanline)
    (hasCallback : pusher.drawCallback = some callback) :
    pusher.irqHandler =
      ({ pusher.counted with
          framebuffer := pusher.framebuffer.movedFrom
          drawCallback := none },
        none, some { callback, framebuffer := pusher.framebuffer, status := .ok }) := by
  rw [irqHandler_raised raised, if_pos (by omega), hasCallback]

/-- What a write in pixel-double mode leaves behind. -/
structure StartsDoubled (pusher next : Pusher Callback) (framebuffer : Framebuffer)
    (callback : Callback) : Prop where
  doubled : next.pixelDoubleEnabled = true
  ownChannel : next.ownChannel = pusher.ownChannel
  dmaChannel : next.dmaChannel = pusher.ownChannel
  writeMode : next.writeMode = true
  program : next.pio.program = .pixelDouble
  framebuffer : next.framebuffer = framebuffer
  drawCallback : next.drawCallback = some callback
  currentScanline : next.currentScanline = 0
  channel : ∃ transCount, next.channels pusher.ownChannel =
    { pusher.channels pusher.ownChannel with dataSize := .size32, transCount, busy := true }

theorem writeFramebuffer_doubled (framebuffer : Framebuffer) (callback : Callback)
    (setUp : pusher.SetUpForDoubling) (doubled : pusher.pixelDoubleEnabled = true)
    (empty : pusher.drawCallback = none) :
    ∃ next, pusher.writeFramebuffer framebuffer callback =
        some (next, scanlineTransfer framebuffer 0) ∧
      pusher.StartsDoubled next framebuffer callback := by
  cases latched : pusher.writeMode with
  | true =>
      rcases setUp latched with ⟨unit, program⟩
      refine ⟨(Pusher.startTransfer { pusher with
        drawCallback := some callback
        framebuffer
        dmaChannel := pusher.ownChannel
        currentScanline := 0
        irqFireCount := 0 } pusher.ownChannel
          ((framebuffer.size.width.toNat : Int) * 2 / 4) 0).1, ?_, ?_⟩
      · simp [writeFramebuffer, latched, empty, doubled, startTransfer, updateChannel,
          scanlineTransfer, unit, program]
      · constructor
        case doubled => exact doubled
        case writeMode => exact latched
        case program => exact program
        case channel =>
          refine ⟨(framebuffer.size.width.toNat : Int) * 2 / 4, ?_⟩
          simp [startTransfer, updateChannel, ← unit]
        all_goals rfl
  | false =>
      refine ⟨(Pusher.startTransfer { pusher.setupWriteFramebuffer with
        drawCallback := some callback
        framebuffer
        dmaChannel := pusher.ownChannel
        currentScanline := 0
        irqFireCount := 0 } pusher.ownChannel
          ((framebuffer.size.width.toNat : Int) * 2 / 4) 0).1, ?_, ?_⟩
      · simp [writeFramebuffer, latched, empty, doubled, setupWriteFramebuffer, startTransfer,
          updateChannel, scanlineTransfer]
      · constructor
        case doubled => simp [startTransfer, updateChannel, setupWriteFramebuffer, doubled]
        case ownChannel => simp [startTransfer, updateChannel, setupWriteFramebuffer, doubled]
        case program => simp [startTransfer, updateChannel, setupWriteFramebuffer, doubled]
        case channel =>
          refine ⟨(framebuffer.size.width.toNat : Int) * 2 / 4, ?_⟩
          simp [startTransfer, updateChannel, setupWriteFramebuffer, doubled]
        all_goals rfl

/-- Switching the mode touches one channel, and starts or raises nothing. -/
theorem setPixelDouble_channel (pusher : Pusher Callback) (enabled : Bool) (channel : Nat) :
    let next := (pusher.setPixelDouble enabled).channels channel
    next.busy = (pusher.channels channel).busy ∧
      next.dataSize = (pusher.channels channel).dataSize ∧
      ((pusher.channels channel).irqRaised = false → next.irqRaised = false) := by
  cases enabled with
  | true =>
      by_cases own : channel = pusher.dmaChannel
      · simp [setPixelDouble, updateChannel, own, DmaChannel.acknowledgeIrq0]
      · simp [setPixelDouble, updateChannel, own]
  | false =>
      by_cases own : channel = pusher.dmaChannel
      · simp [setPixelDouble, updateChannel, own]
      · simp [setPixelDouble, updateChannel, own]

theorem setPixelDouble_keeps (pusher : Pusher Callback) (enabled : Bool) :
    ∃ channels, pusher.setPixelDouble enabled =
      { pusher with pixelDoubleEnabled := enabled, channels } := by
  cases enabled with
  | true => exact ⟨_, rfl⟩
  | false => exact ⟨_, rfl⟩

end Pusher

/-- All transfers of the frame are started. -/
def Frame.Written (frame : Frame Callback) : Prop :=
  frame.transfers = transfersUpTo frame.framebuffer (lastScanline frame.framebuffer)

namespace Session

variable {Callback : Type} {session next : Session Callback}

/-- Every frame is written, and its callback called. -/
structure Settled (session : Session Callback) : Prop where
  setUp : session.pusher.SetUpForDoubling
  idle : session.channel.busy = false
  dmaIdle : (session.pusher.channels session.pusher.dmaChannel).busy = false
  quiet : session.channel.irqRaised = false
  empty : session.pusher.drawCallback = none
  past : (lastScanline session.pusher.framebuffer : Int) < session.pusher.currentScanline
  written : ∀ frame ∈ session.frames, frame.Written
  completed : session.completions = session.frames.map Frame.completion

/-- The newest frame is being written: the transfer of a scanline is under way,
or its interrupt is raised. -/
structure Writing (session : Session Callback) (frame : Frame Callback)
    (earlier : List (Frame Callback)) (scanline : Nat) : Prop where
  isFrames : session.frames = frame :: earlier
  doubled : session.pusher.pixelDoubleEnabled = true
  irq0 : session.channel.irq0Enabled = true
  ownChannel : session.pusher.dmaChannel = session.pusher.ownChannel
  unit : session.channel.dataSize = .size32
  program : session.pusher.pio.program = .pixelDouble
  phase : session.channel.busy = !session.channel.irqRaised
  framebuffer : session.pusher.framebuffer = frame.framebuffer
  callback : session.pusher.drawCallback = some frame.callback
  atScanline : session.pusher.currentScanline = scanline
  inFrame : scanline ≤ lastScanline frame.framebuffer
  started : frame.transfers = transfersUpTo frame.framebuffer scanline
  written : ∀ other ∈ earlier, other.Written
  completed : session.completions = earlier.map Frame.completion

def Orderly (session : Session Callback) : Prop :=
  session.Settled ∨ ∃ frame earlier scanline, session.Writing frame earlier scanline

/-- Frames are written only with doubled pixels and with the interrupt enabled. -/
def DoublesWithInterrupt (session : Session Callback) : Event Callback → Prop
  | .writeFramebuffer _ _ =>
      session.pusher.pixelDoubleEnabled = true ∧ session.channel.irq0Enabled = true
  | _ => True

/-- A doubled frame keeps `DmaIsBusy` true to its end. -/
theorem Writing.dmaIsBusy {frame : Frame Callback} {earlier : List (Frame Callback)}
    {scanline : Nat} (writing : session.Writing frame earlier scanline) :
    session.pusher.dmaIsBusy = true := by
  have inFrame := writing.inFrame
  have inHeight := lastScanline_le_height frame.framebuffer
  rw [Pusher.dmaIsBusy, if_pos]
  refine ⟨writing.doubled, ?_⟩
  rw [writing.atScanline, writing.framebuffer]
  omega

theorem Settled.setPixelDouble (settled : session.Settled) (enabled : Bool) :
    Settled { session with pusher := session.pusher.setPixelDouble enabled } := by
  have atOwn := session.pusher.setPixelDouble_channel enabled session.pusher.ownChannel
  have atDma := session.pusher.setPixelDouble_channel enabled session.pusher.dmaChannel
  rcases session.pusher.setPixelDouble_keeps enabled with ⟨channels, keeps⟩
  rw [keeps] at atOwn atDma ⊢
  exact { settled with
    setUp := by
      intro latched
      exact ⟨atOwn.2.1.trans (settled.setUp latched).1, (settled.setUp latched).2⟩
    idle := atOwn.1.trans settled.idle
    dmaIdle := atDma.1.trans settled.dmaIdle
    quiet := atOwn.2.2 settled.quiet }

/-- A write starts the first transfer of its frame; its assertion holds. -/
theorem Settled.writeFramebuffer {framebuffer : Framebuffer} {callback : Callback}
    (settled : session.Settled)
    (doubled : session.pusher.pixelDoubleEnabled = true)
    (irq0 : session.channel.irq0Enabled = true) :
    ∃ next, session.step (.writeFramebuffer framebuffer callback) = some next ∧
      next.Writing
        { framebuffer, callback, transfers := transfersUpTo framebuffer 0 } session.frames 0 := by
  rcases Pusher.writeFramebuffer_doubled framebuffer callback settled.setUp doubled
    settled.empty with ⟨pusher, written, starts⟩
  rcases starts.channel with ⟨transCount, atOwn⟩
  have stepped : session.step (.writeFramebuffer framebuffer callback) = some { session with
      pusher
      frames := { framebuffer, callback, transfers := transfersUpTo framebuffer 0 } ::
        session.frames } := by
    dsimp only [step]
    rw [written]
    rfl
  refine ⟨_, stepped, ?_⟩
  have isChannel : pusher.channels pusher.ownChannel =
      { session.channel with dataSize := .size32, transCount, busy := true } := by
    rw [starts.ownChannel, atOwn]
    rfl
  constructor
  case isFrames => rfl
  case doubled => exact starts.doubled
  case irq0 => exact (congrArg DmaChannel.irq0Enabled isChannel).trans irq0
  case ownChannel => exact starts.dmaChannel.trans starts.ownChannel.symm
  case unit => exact congrArg DmaChannel.dataSize isChannel
  case program => exact starts.program
  case phase =>
    dsimp only [channel]
    rw [isChannel]
    dsimp only
    rw [settled.quiet]
    rfl
  case framebuffer => exact starts.framebuffer
  case callback => exact starts.drawCallback
  case atScanline => exact starts.currentScanline
  case inFrame => exact Nat.zero_le _
  case started => rfl
  case written => exact settled.written
  case completed => exact settled.completed

theorem step_interrupt (session : Session Callback) :
    session.step .interrupt = some {
      pusher := session.pusher.irqHandler.1
      frames := session.frames.modifyHead (startedFor session.pusher.irqHandler.2.1)
      completions := session.pusher.irqHandler.2.2.toList ++ session.completions } :=
  rfl

section Writing

variable {frame : Frame Callback} {earlier : List (Frame Callback)} {scanline : Nat}

theorem Writing.not_betweenFrames (writing : session.Writing frame earlier scanline) :
    ¬session.BetweenFrames := by
  intro betweenFrames
  rcases betweenFrames with ⟨notBusy, notRaised⟩
  have phase := writing.phase
  rw [DmaChannel.irq0Status, writing.irq0, Bool.and_true] at notRaised
  rw [notBusy, notRaised] at phase
  cases phase

theorem Writing.transferDone (writing : session.Writing frame earlier scanline) :
    Writing { session with
        pusher := session.pusher.updateChannel session.pusher.ownChannel DmaChannel.finish }
      frame earlier scanline := by
  exact { writing with
    irq0 := by simpa [channel, DmaChannel.finish] using writing.irq0
    unit := by simpa [channel, DmaChannel.finish] using writing.unit
    phase := by simp [channel, DmaChannel.finish] }

/-- The interrupt of a transfer starts the next one of the frame. -/
theorem Writing.interrupt_next (writing : session.Writing frame earlier scanline)
    (raised : session.channel.irq0Status = true)
    (notLast : scanline < lastScanline frame.framebuffer) :
    ∃ next, session.step .interrupt = some next ∧
      next.Writing
        { frame with transfers := transfersUpTo frame.framebuffer (scanline + 1) }
        earlier (scanline + 1) := by
  have isChannel : session.pusher.channels session.pusher.dmaChannel = session.channel := by
    rw [writing.ownChannel]
    rfl
  have handled := Pusher.irqHandler_next (by rw [isChannel]; exact raised) writing.atScanline
    (by rw [writing.framebuffer]; exact notLast) (by rw [isChannel]; exact writing.unit)
    writing.program writing.doubled
  have stepped := session.step_interrupt
  rw [handled] at stepped
  refine ⟨_, stepped, ?_⟩
  have atOwn : session.pusher.ownChannel = session.pusher.dmaChannel := writing.ownChannel.symm
  exact { writing with
    isFrames := by
      dsimp only
      rw [writing.isFrames, List.modifyHead_cons, startedFor, transfersUpTo_succ,
        writing.framebuffer, writing.started]
      rfl
    irq0 := by
      simpa [channel, Pusher.startTransfer, Pusher.counted, Pusher.updateChannel, atOwn,
        DmaChannel.acknowledgeIrq0] using writing.irq0
    unit := by
      simpa [channel, Pusher.startTransfer, Pusher.counted, Pusher.updateChannel, atOwn,
        DmaChannel.acknowledgeIrq0] using writing.unit
    phase := by
      simp [channel, Pusher.startTransfer, Pusher.counted, Pusher.updateChannel, atOwn,
        DmaChannel.acknowledgeIrq0]
    atScanline := congrArg (· + 1) writing.atScanline
    inFrame := notLast
    started := rfl }

/-- The interrupt of the last transfer calls the callback of the frame. -/
theorem Writing.interrupt_last (writing : session.Writing frame earlier scanline)
    (raised : session.channel.irq0Status = true)
    (last : scanline = lastScanline frame.framebuffer) :
    ∃ next, session.step .interrupt = some next ∧ next.frames = session.frames ∧
      next.Settled := by
  have isChannel : session.pusher.channels session.pusher.dmaChannel = session.channel := by
    rw [writing.ownChannel]
    rfl
  have handled := Pusher.irqHandler_last (by rw [isChannel]; exact raised)
    (Int.le_of_eq (by rw [writing.framebuffer, writing.atScanline, last])) writing.callback
  have atOwn : session.pusher.ownChannel = session.pusher.dmaChannel := writing.ownChannel.symm
  have notBusy : session.channel.busy = false := by
    rw [writing.phase]
    rw [DmaChannel.irq0Status, Bool.and_eq_true] at raised
    rw [raised.1]
    rfl
  have sameFrames : session.frames.modifyHead (startedFor none) = session.frames := by
    rw [writing.isFrames, List.modifyHead_cons, startedFor, Option.toList_none, List.append_nil]
  have stepped := session.step_interrupt
  rw [handled] at stepped
  refine ⟨_, stepped, ?_⟩
  refine ⟨sameFrames, ?_⟩
  constructor
  case setUp =>
    intro _
    refine ⟨?_, writing.program⟩
    simpa [channel, Pusher.counted, Pusher.updateChannel, atOwn,
      DmaChannel.acknowledgeIrq0] using writing.unit
  case idle =>
    simpa [channel, Pusher.counted, Pusher.updateChannel, atOwn,
      DmaChannel.acknowledgeIrq0] using notBusy
  case dmaIdle =>
    simpa [channel, Pusher.counted, Pusher.updateChannel, atOwn,
      DmaChannel.acknowledgeIrq0] using notBusy
  case quiet =>
    simp [channel, Pusher.counted, Pusher.updateChannel, atOwn, DmaChannel.acknowledgeIrq0]
  case empty => rfl
  case past =>
    change (lastScanline session.pusher.framebuffer : Int) < session.pusher.currentScanline + 1
    rw [writing.framebuffer, writing.atScanline, last]
    omega
  case written =>
    intro other isFrame
    dsimp only at isFrame
    rw [sameFrames, writing.isFrames, List.mem_cons] at isFrame
    rcases isFrame with rfl | isEarlier
    · rw [Frame.Written, ← last]
      exact writing.started
    · exact writing.written other isEarlier
  case completed =>
    dsimp only
    rw [sameFrames, writing.isFrames, writing.completed, writing.framebuffer]
    rfl

end Writing

theorem Orderly.startedUpTo (orderly : session.Orderly) :
    ∀ frame ∈ session.frames, ∃ scanline ≤ lastScanline frame.framebuffer,
      frame.transfers = transfersUpTo frame.framebuffer scanline := by
  intro frame isFrame
  rcases orderly with settled | ⟨newest, earlier, scanline, writing⟩
  · exact ⟨_, Nat.le_refl _, settled.written frame isFrame⟩
  · rw [writing.isFrames, List.mem_cons] at isFrame
    rcases isFrame with rfl | isEarlier
    · exact ⟨scanline, writing.inFrame, writing.started⟩
    · exact ⟨_, Nat.le_refl _, writing.written frame isEarlier⟩

theorem Orderly.step {event : Event Callback} (orderly : session.Orderly)
    (doubles : session.DoublesWithInterrupt event) (enabled : session.Enabled event) :
    ∃ next, session.step event = some next ∧ next.Orderly := by
  rcases orderly with settled | ⟨frame, earlier, scanline, writing⟩
  · cases event with
    | setPixelDouble doubled => exact ⟨_, rfl, .inl (settled.setPixelDouble doubled)⟩
    | writeFramebuffer framebuffer callback =>
        rcases settled.writeFramebuffer doubles.1 doubles.2 with ⟨next, stepped, writing⟩
        exact ⟨next, stepped, .inr ⟨_, _, _, writing⟩⟩
    | transferDone => exact absurd (settled.idle.symm.trans enabled) Bool.false_ne_true
    | interrupt =>
        have notRaised : session.channel.irq0Status = false := by
          rw [DmaChannel.irq0Status, settled.quiet]
          rfl
        exact absurd (notRaised.symm.trans enabled) Bool.false_ne_true
  · cases event with
    | setPixelDouble _ => exact absurd enabled writing.not_betweenFrames
    | writeFramebuffer _ _ =>
        exact absurd (enabled.1.symm.trans writing.dmaIsBusy) Bool.false_ne_true
    | transferDone => exact ⟨_, rfl, .inr ⟨_, _, _, writing.transferDone⟩⟩
    | interrupt =>
        rcases Nat.lt_or_eq_of_le writing.inFrame with notLast | last
        · rcases writing.interrupt_next enabled notLast with ⟨next, stepped, nextWriting⟩
          exact ⟨next, stepped, .inr ⟨_, _, _, nextWriting⟩⟩
        · rcases writing.interrupt_last enabled last with ⟨next, stepped, _, settled⟩
          exact ⟨next, stepped, .inl settled⟩

theorem Orderly.preserved {event : Event Callback} (orderly : session.Orderly)
    (doubles : session.DoublesWithInterrupt event) (enabled : session.Enabled event)
    (stepped : session.step event = some next) : next.Orderly := by
  rcases orderly.step doubles enabled with ⟨after, steppedTo, afterOrderly⟩
  cases stepped.symm.trans steppedTo
  exact afterOrderly

end Session

end PigweedExperimental.PixelPusher
