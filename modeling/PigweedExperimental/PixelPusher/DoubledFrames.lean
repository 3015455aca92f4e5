import PigweedExperimental.PixelPusher.Scanlines
import Mathlib.Tactic.Ring

namespace PigweedExperimental.PixelPusher

/-! # Doubled frames

A pusher that stays in pixel-double mode, for framebuffers whose doubled size
does not overflow.
-/

/-- Both sides of the framebuffer can be doubled in 16 bits. -/
def Doublable (framebuffer : Framebuffer) : Prop :=
  (1 ≤ framebuffer.size.width.toNat ∧ framebuffer.size.width.toNat ≤ 32767) ∧
    1 ≤ framebuffer.size.height.toNat ∧ framebuffer.size.height.toNat ≤ 32767

instance (framebuffer : Framebuffer) : Decidable (Doublable framebuffer) :=
  inferInstanceAs (Decidable ((_ ∧ _) ∧ _ ∧ _))

/-- The transfer reads only pixels of the framebuffer. -/
def Transfer.Within (transfer : Transfer) (framebuffer : Framebuffer) : Prop :=
  transfer.data = framebuffer.pixelData ∧ 0 ≤ transfer.offset ∧ 0 ≤ transfer.count ∧
    transfer.offset + transfer.count * transfer.dataSize.pixels ≤
      (framebuffer.size.width.toNat * framebuffer.size.height.toNat : Nat)

theorem lastScanline_eq_height {framebuffer : Framebuffer}
    (small : framebuffer.size.height.toNat ≤ 32767) :
    lastScanline framebuffer = framebuffer.size.height.toNat := by
  rw [lastScanline, UInt16.toNat_mul]
  change _ * 2 % 65536 / 2 = _
  omega

/-- The first and the last transfer read a row of pixels, the others two rows. -/
theorem scanlineTransfer_within {framebuffer : Framebuffer} {scanline : Nat}
    (doublable : Doublable framebuffer) (inFrame : scanline ≤ lastScanline framebuffer) :
    (scanlineTransfer framebuffer scanline).Within framebuffer := by
  rcases doublable with ⟨⟨_, widthSmall⟩, someRow, heightSmall⟩
  have doubleWidth : (framebuffer.size.width * 2).toNat =
      framebuffer.size.width.toNat * 2 := by
    rw [UInt16.toNat_mul]
    change _ * 2 % 65536 = _
    omega
  have isLast := lastScanline_eq_height heightSmall
  rw [isLast] at inFrame
  rw [Transfer.Within, scanlineTransfer, doubleWidth, isLast]
  dsimp only [DmaSize.pixels]
  generalize framebuffer.size.width.toNat = width at *
  generalize framebuffer.size.height.toNat = height at *
  by_cases isFirst : scanline = 0
  · have oneRow : width * 1 ≤ width * height := Nat.mul_le_mul_left width someRow
    rw [if_pos isFirst, if_pos isFirst]
    refine ⟨rfl, ?_, ?_, ?_⟩ <;> omega
  · rw [if_neg isFirst, if_neg isFirst]
    have atRow : ((scanline : Int) - 1) * ((width * 2 / 2 : Nat) : Int) =
        ((width * (scanline - 1) : Nat) : Int) := by
      rw [Nat.mul_div_cancel width (by omega), Nat.cast_mul, Nat.cast_sub (by omega)]
      ring
    have someWidth : width * 2 / 2 = width := Nat.mul_div_cancel width (by omega)
    rw [atRow, someWidth]
    by_cases isLast : scanline = height
    · have rows : width * (scanline - 1) + width = width * height := by
        rw [← isLast, ← Nat.mul_succ]
        congr 1
        omega
      rw [if_pos isLast]
      refine ⟨rfl, ?_, ?_, ?_⟩ <;> omega
    · have rows : width * (scanline - 1) + width * 2 ≤ width * height := by
        rw [← Nat.mul_add]
        exact Nat.mul_le_mul_left width (by omega)
      rw [if_neg isLast]
      refine ⟨rfl, ?_, ?_, ?_⟩ <;> omega

theorem transfersUpTo_within {framebuffer : Framebuffer} {scanline : Nat}
    (doublable : Doublable framebuffer) (inFrame : scanline ≤ lastScanline framebuffer) :
    ∀ transfer ∈ transfersUpTo framebuffer scanline, transfer.Within framebuffer := by
  intro transfer isTransfer
  rcases List.mem_map.mp isTransfer with ⟨started, isStarted, rfl⟩
  rw [List.mem_range] at isStarted
  exact scanlineTransfer_within doublable (by omega)

theorem transfersUpTo_length (framebuffer : Framebuffer) (scanline : Nat) :
    (transfersUpTo framebuffer scanline).length = scanline + 1 := by
  simp [transfersUpTo]

namespace Pusher

variable {Callback : Type} {pusher next : Pusher Callback}

/-- After `Init` and `SetPixelDouble(true)`, with the interrupt of the channel
that `Init` has claimed. -/
def inDoubleMode (ownChannel : Nat) : Pusher Callback :=
  ((afterInit ownChannel).setPixelDouble true).updateChannel ownChannel fun dma =>
    { dma with irq0Enabled := true }

theorem inDoubleMode_channel (ownChannel : Nat) :
    (inDoubleMode ownChannel : Pusher Callback).channels ownChannel =
      { dataSize := .size16, transCount := 0, irq0Enabled := true, irqRaised := false,
        busy := false } := by
  by_cases first : ownChannel = 0
  · simp [inDoubleMode, setPixelDouble, updateChannel, afterInit, first,
      DmaChannel.acknowledgeIrq0]
  · simp [inDoubleMode, setPixelDouble, updateChannel, afterInit, first]

/-- What no transfer and no interrupt changes. -/
structure SameMode (pusher next : Pusher Callback) : Prop where
  pixelDoubleEnabled : next.pixelDoubleEnabled = pusher.pixelDoubleEnabled
  irq0Enabled : (next.channels next.ownChannel).irq0Enabled =
    (pusher.channels pusher.ownChannel).irq0Enabled
  size : next.framebuffer.size = pusher.framebuffer.size

theorem irq0Enabled_updateChannel (update : DmaChannel → DmaChannel)
    (keeps : ∀ channel, (update channel).irq0Enabled = channel.irq0Enabled)
    (pusher : Pusher Callback) (channel other : Nat) :
    ((pusher.updateChannel channel update).channels other).irq0Enabled =
      (pusher.channels other).irq0Enabled := by
  dsimp only [updateChannel]
  split
  · exact keeps _
  · rfl

theorem irq0Enabled_startTransfer (pusher : Pusher Callback) (channel : Nat)
    (count offset : Int) (other : Nat) :
    ((pusher.startTransfer channel count offset).1.channels other).irq0Enabled =
      (pusher.channels other).irq0Enabled :=
  irq0Enabled_updateChannel (fun dma => { dma with transCount := count, busy := true })
    (fun _ => rfl) pusher channel other

theorem irqHandler_sameMode (pusher : Pusher Callback) :
    pusher.SameMode pusher.irqHandler.1 := by
  have acknowledged := irq0Enabled_updateChannel DmaChannel.acknowledgeIrq0
    (fun _ => rfl) pusher pusher.dmaChannel pusher.ownChannel
  cases raised : (pusher.channels pusher.dmaChannel).irq0Status with
  | false =>
      have untouched : pusher.irqHandler =
          ({ pusher with irqFireCount := pusher.irqFireCount + 1 }, none, none) := by
        rw [irqHandler]
        exact if_neg (by rw [raised]; exact Bool.false_ne_true)
      rw [untouched]
      exact ⟨rfl, rfl, rfl⟩
  | true =>
      rw [irqHandler_raised raised]
      split
      · cases pusher.drawCallback with
        | some _ => exact ⟨rfl, acknowledged, rfl⟩
        | none => exact ⟨rfl, acknowledged, rfl⟩
      · refine ⟨rfl, ?_, rfl⟩
        dsimp only
        exact (pusher.counted.irq0Enabled_startTransfer _ _ _ _).trans acknowledged

end Pusher

/-- A frame is written, or the hardware does its part. -/
def Event.WritesDoublable : Event Callback → Prop
  | .setPixelDouble _ => False
  | .writeFramebuffer framebuffer _ => Doublable framebuffer
  | .transferDone | .interrupt => True

/-- The event comes from the DMA channel. -/
def Event.OfHardware : Event Callback → Prop
  | .transferDone | .interrupt => True
  | _ => False

theorem Event.OfHardware.writesDoublable {event : Event Callback} (hardware : event.OfHardware) :
    event.WritesDoublable := by
  cases event with
  | setPixelDouble _ => exact hardware
  | writeFramebuffer _ _ => exact hardware.elim
  | transferDone => trivial
  | interrupt => trivial

theorem Frame.Written.length {frame : Frame Callback} (written : frame.Written)
    (doublable : Doublable frame.framebuffer) :
    frame.transfers.length = frame.framebuffer.size.height.toNat + 1 := by
  rw [written, transfersUpTo_length, lastScanline_eq_height doublable.2.2]

namespace Session

variable {Callback : Type} {session next : Session Callback}

/-- Pixel-double mode, with framebuffers that can be doubled. -/
structure Doubling (session : Session Callback) : Prop where
  doubled : session.pusher.pixelDoubleEnabled = true
  irq0 : session.channel.irq0Enabled = true
  small : session.pusher.framebuffer.size.height.toNat ≤ 32767
  doublable : ∀ frame ∈ session.frames, Doublable frame.framebuffer

theorem Doubling.sameMode {pusher : Pusher Callback} {frames : List (Frame Callback)}
    {completions : List (Completion Callback)} (doubling : session.Doubling)
    (sameMode : session.pusher.SameMode pusher)
    (doublable : ∀ frame ∈ frames, Doublable frame.framebuffer) :
    Doubling { pusher, frames, completions } where
  doubled := sameMode.pixelDoubleEnabled.trans doubling.doubled
  irq0 := sameMode.irq0Enabled.trans doubling.irq0
  small := by
    dsimp only
    rw [sameMode.size]
    exact doubling.small
  doublable := doublable

theorem mem_modifyHead_startedFor {transfer : Option Transfer}
    {frames : List (Frame Callback)} {frame : Frame Callback}
    (isFrame : frame ∈ frames.modifyHead (startedFor transfer)) :
    ∃ before ∈ frames, frame.framebuffer = before.framebuffer := by
  cases frames with
  | nil => cases isFrame
  | cons newest earlier =>
      rw [List.modifyHead_cons, List.mem_cons] at isFrame
      rcases isFrame with rfl | isEarlier
      · exact ⟨newest, List.mem_cons_self, rfl⟩
      · exact ⟨frame, List.mem_cons_of_mem _ isEarlier, rfl⟩

theorem Doubling.step {event : Event Callback} (doubling : session.Doubling)
    (settled : session.Orderly) (writes : event.WritesDoublable)
    (enabled : session.Enabled event) (stepped : session.step event = some next) :
    next.Doubling := by
  cases event with
  | setPixelDouble _ => exact writes.elim
  | writeFramebuffer framebuffer callback =>
      rcases settled with settled | ⟨_, _, _, writing⟩
      case inr => exact absurd (enabled.1.symm.trans writing.dmaIsBusy) Bool.false_ne_true
      rcases settled.writeFramebuffer doubling.doubled doubling.irq0 with
        ⟨after, steppedTo, writing⟩
      cases stepped.symm.trans steppedTo
      constructor
      case doubled => exact writing.doubled
      case irq0 => exact writing.irq0
      case small =>
        rw [writing.framebuffer]
        exact writes.2.2
      case doublable =>
        intro frame isFrame
        rw [writing.isFrames, List.mem_cons] at isFrame
        rcases isFrame with rfl | isEarlier
        · exact writes
        · exact doubling.doublable frame isEarlier
  | transferDone =>
      cases stepped
      apply doubling.sameMode _ doubling.doublable
      exact ⟨rfl, Pusher.irq0Enabled_updateChannel DmaChannel.finish (fun _ => rfl) _ _ _, rfl⟩
  | interrupt =>
      cases stepped.symm.trans session.step_interrupt
      apply doubling.sameMode session.pusher.irqHandler_sameMode
      intro frame isFrame
      rcases mem_modifyHead_startedFor isFrame with ⟨before, isBefore, same⟩
      rw [same]
      exact doubling.doublable before isBefore

section Completing

variable {frame : Frame Callback} {earlier : List (Frame Callback)} {scanline : Nat}

/-- The hardware raises the interrupt of the transfer that is under way. -/
theorem Writing.raises (writing : session.Writing frame earlier scanline) :
    ∃ events next, (machine Callback).Run session events next ∧
      (∀ event ∈ events, event.OfHardware) ∧
      next.Writing frame earlier scanline ∧ next.channel.irq0Status = true := by
  cases busy : session.channel.busy with
  | true =>
      refine ⟨[.transferDone], _, .single busy rfl, ?_, writing.transferDone, ?_⟩
      · intro event isEvent
        rw [List.mem_singleton] at isEvent
        rw [isEvent]
        trivial
      · have irq0 := writing.irq0
        simpa [channel, DmaChannel.irq0Status, DmaChannel.finish] using irq0
  | false =>
      refine ⟨[], session, .nil session, by simp, writing, ?_⟩
      have phase := writing.phase
      rw [busy] at phase
      rw [DmaChannel.irq0Status, writing.irq0, Bool.and_true]
      simpa using phase.symm

/-- The hardware alone brings a frame to its end. -/
theorem Writing.completes (writing : session.Writing frame earlier scanline) :
    ∃ events last, (machine Callback).Run session events last ∧
      (∀ event ∈ events, event.OfHardware) ∧ last.Settled ∧
      last.frames.map Frame.completion = session.frames.map Frame.completion := by
  have inFrame := writing.inFrame
  generalize remaining : lastScanline frame.framebuffer - scanline = count
  induction count generalizing session frame scanline with
  | zero =>
      rcases writing.raises with ⟨events, next, run, hardware, nextWriting, raised⟩
      rcases nextWriting.interrupt_last raised (by omega) with ⟨last, stepped, same, settled⟩
      have interrupted : (machine Callback).Run next [.interrupt] last :=
        .single raised stepped
      refine ⟨events ++ [.interrupt], last, run.append interrupted, ?_, settled, ?_⟩
      · intro event isEvent
        rcases List.mem_append.mp isEvent with isEarlier | isLast
        · exact hardware event isEarlier
        · rw [List.mem_singleton] at isLast
          rw [isLast]
          trivial
      · rw [same, nextWriting.isFrames, writing.isFrames]
  | succ count induction =>
      rcases writing.raises with ⟨events, next, run, hardware, nextWriting, raised⟩
      rcases nextWriting.interrupt_next raised (by omega) with ⟨after, stepped, afterWriting⟩
      rcases induction afterWriting afterWriting.inFrame (by dsimp only; omega) with
        ⟨later, last, runLater, hardwareLater, settled, same⟩
      have interrupted : (machine Callback).Run next (.interrupt :: later) last :=
        .cons raised stepped runLater
      refine ⟨events ++ .interrupt :: later, last, run.append interrupted, ?_, settled, ?_⟩
      · intro event isEvent
        rcases List.mem_append.mp isEvent with isEarlier | isLater
        · exact hardware event isEarlier
        · rcases List.mem_cons.mp isLater with rfl | isLast
          · trivial
          · exact hardwareLater event isLast
      · rw [same, afterWriting.isFrames, writing.isFrames]
        rfl

end Completing

theorem settled_start (ownChannel : Nat) :
    (start (Pusher.inDoubleMode ownChannel) : Session Callback).Settled where
  setUp := by
    intro latched
    cases latched
  idle := congrArg DmaChannel.busy (Pusher.inDoubleMode_channel ownChannel)
  quiet := congrArg DmaChannel.irqRaised (Pusher.inDoubleMode_channel ownChannel)
  dmaIdle := by
    cases ownChannel with
    | zero => rfl
    | succ _ => rfl
  empty := rfl
  past := by
    change (lastScanline .invalid : Int) < 240
    decide
  written := by simp [start]
  completed := rfl

theorem doubling_start (ownChannel : Nat) :
    (start (Pusher.inDoubleMode ownChannel) : Session Callback).Doubling where
  doubled := rfl
  irq0 := congrArg DmaChannel.irq0Enabled (Pusher.inDoubleMode_channel ownChannel)
  small := by
    change Framebuffer.invalid.size.height.toNat ≤ 32767
    decide
  doublable := by simp [start]

theorem Settled.dmaIsBusy (settled : session.Settled) (doubling : session.Doubling) :
    session.pusher.dmaIsBusy = false := by
  have past := settled.past
  rw [lastScanline_eq_height doubling.small] at past
  rw [Pusher.dmaIsBusy, if_neg, settled.dmaIdle]
  intro behind
  omega

theorem Settled.betweenFrames (settled : session.Settled) : session.BetweenFrames := by
  refine ⟨settled.idle, ?_⟩
  rw [DmaChannel.irq0Status, settled.quiet]
  rfl

theorem Writing.onlyHardware {event : Event Callback} {frame : Frame Callback}
    {earlier : List (Frame Callback)} {scanline : Nat}
    (writing : session.Writing frame earlier scanline) (enabled : session.Enabled event) :
    event.OfHardware := by
  cases event with
  | setPixelDouble _ => exact absurd enabled writing.not_betweenFrames
  | writeFramebuffer _ _ =>
      exact absurd (enabled.1.symm.trans writing.dmaIsBusy) Bool.false_ne_true
  | transferDone => trivial
  | interrupt => trivial

theorem Doubling.doubles (doubling : session.Doubling) (event : Event Callback) :
    session.DoublesWithInterrupt event := by
  cases event with
  | writeFramebuffer _ _ => exact ⟨doubling.doubled, doubling.irq0⟩
  | _ => trivial

theorem orderly_doubling {ownChannel : Nat} {events : List (Event Callback)}
    (run : (machine Callback).Run (start (.inDoubleMode ownChannel)) events session)
    (writes : ∀ event ∈ events, event.WritesDoublable) :
    session.Orderly ∧ session.Doubling := by
  apply run.invariant_of_events (fun state => state.Orderly ∧ state.Doubling)
    Event.WritesDoublable _ writes
  · exact ⟨.inl (settled_start ownChannel), doubling_start ownChannel⟩
  · intro state event next invariant writesEvent enabled stepped
    rcases invariant with ⟨orderly, doubling⟩
    exact ⟨orderly.preserved (doubling.doubles event) enabled stepped,
      doubling.step orderly writesEvent enabled stepped⟩

end Session

/-- In pixel-double mode, every frame starts one transfer more than it has rows,
each inside its framebuffer. `DmaIsBusy` is true from the start of a frame to
the interrupt of its last transfer; by then every frame has called its callback
once, with its framebuffer and OK. While it is true only the hardware can go on,
which brings the frame to its end. No assertion fails on the way. -/
theorem doubledFrames_complete {Callback : Type} {ownChannel : Nat}
    {events : List (Event Callback)} {session : Session Callback}
    (run : (Session.machine Callback).Run (.start (.inDoubleMode ownChannel)) events session)
    (writes : ∀ event ∈ events, event.WritesDoublable) :
    (∀ frame ∈ session.frames, ∀ transfer ∈ frame.transfers,
      transfer.Within frame.framebuffer) ∧
    (session.pusher.dmaIsBusy = false →
      session.BetweenFrames ∧
      (∀ frame ∈ session.frames,
        frame.transfers.length = frame.framebuffer.size.height.toNat + 1) ∧
      session.completions = session.frames.map Frame.completion) ∧
    (session.pusher.dmaIsBusy = true →
      ∃ frame earlier, session.frames = frame :: earlier ∧
        frame.transfers.length ≤ frame.framebuffer.size.height.toNat + 1 ∧
        (∀ other ∈ earlier,
          other.transfers.length = other.framebuffer.size.height.toNat + 1) ∧
        session.completions = earlier.map Frame.completion ∧
        (∀ event, session.Enabled event → event.OfHardware) ∧
        ∃ later last, (Session.machine Callback).Run session later last ∧
          (∀ event ∈ later, event.OfHardware) ∧ last.pusher.dmaIsBusy = false ∧
          last.completions = session.frames.map Frame.completion) ∧
    ∀ event, event.WritesDoublable → session.Enabled event →
      ∃ next, session.step event = some next := by
  rcases Session.orderly_doubling run writes with ⟨orderly, doubling⟩
  refine ⟨?_, ?_, ?_, ?_⟩
  · intro frame isFrame
    rcases orderly.startedUpTo frame isFrame with ⟨scanline, inFrame, started⟩
    rw [started]
    exact transfersUpTo_within (doubling.doublable frame isFrame) inFrame
  · intro notBusy
    rcases orderly with settled | ⟨_, _, _, writing⟩
    · refine ⟨settled.betweenFrames, ?_, settled.completed⟩
      intro frame isFrame
      exact (settled.written frame isFrame).length (doubling.doublable frame isFrame)
    · exact absurd (notBusy.symm.trans writing.dmaIsBusy) Bool.false_ne_true
  · intro busy
    rcases orderly with settled | ⟨frame, earlier, scanline, writing⟩
    · exact absurd ((settled.dmaIsBusy doubling).symm.trans busy) Bool.false_ne_true
    · have doublable := doubling.doublable
      have inFrame := writing.inFrame
      rw [writing.isFrames] at doublable
      rw [lastScanline_eq_height (doublable frame List.mem_cons_self).2.2] at inFrame
      refine ⟨frame, earlier, writing.isFrames, ?_, ?_, writing.completed, ?_, ?_⟩
      · rw [writing.started, transfersUpTo_length]
        omega
      · intro other isEarlier
        exact (writing.written other isEarlier).length
          (doublable other (List.mem_cons_of_mem _ isEarlier))
      · intro event enabled
        exact writing.onlyHardware enabled
      · rcases writing.completes with ⟨later, last, runLater, hardware, settled, same⟩
        have lastDoubling := (Session.orderly_doubling (run.append runLater) (by
          intro event isEvent
          rcases List.mem_append.mp isEvent with isEarlier | isLater
          · exact writes event isEarlier
          · exact (hardware event isLater).writesDoublable)).2
        exact ⟨later, last, runLater, hardware, settled.dmaIsBusy lastDoubling,
          settled.completed.trans same⟩
  · intro event writesEvent enabled
    rcases orderly.step (doubling.doubles event) enabled with ⟨next, stepped, _⟩
    exact ⟨next, stepped⟩

section Example

/-- Two frames, the second with its last interrupt still to come. -/
def twoFrames : List (Event Nat) :=
  [.writeFramebuffer ⟨16, .rgb565, ⟨2, 1⟩, 4⟩ 7, .transferDone, .interrupt, .transferDone,
    .interrupt, .writeFramebuffer ⟨32, .rgb565, ⟨1, 1⟩, 2⟩ 8, .transferDone, .interrupt,
    .transferDone]

theorem doubledFrames_complete_twoFrames :
    ∃ session : Session Nat,
      (Session.machine Nat).Run (.start (.inDoubleMode 3)) twoFrames session ∧
      session.pusher.dmaIsBusy = true ∧
      ∀ frame ∈ session.frames, ∀ transfer ∈ frame.transfers,
        transfer.Within frame.framebuffer := by
  have run := @Machine.Run.of_execute _ _ (Session.machine Nat)
    (.start (.inDoubleMode 3)) _ twoFrames _ rfl
  exact ⟨_, run, rfl, (doubledFrames_complete run (by
    intro event isEvent
    simp only [twoFrames, List.mem_cons, List.not_mem_nil, or_false] at isEvent
    rcases isEvent with rfl | rfl | rfl | rfl | rfl | rfl | rfl | rfl | rfl <;>
      dsimp only [Event.WritesDoublable] <;> decide)).1⟩

end Example

end PigweedExperimental.PixelPusher
