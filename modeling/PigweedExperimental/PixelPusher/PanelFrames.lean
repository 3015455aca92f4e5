import PigweedExperimental.DisplayDriver.PanelMemory
import PigweedExperimental.PixelPusher.DoubledRows

namespace PigweedExperimental.PixelPusher

open DisplayDriver (Panel)

/-! # Doubled frames on the panel

The memory write command comes with the first frame only. Every later frame is shown
because the frames before it have filled the panel's window to its end.
-/

section Bits

/-- The pixel whose bits a panel takes, the most significant one first. -/
def pixelOfBits (bits : List Bool) : UInt16 := ⟨(BitVec.ofBoolListBE bits).setWidth 16⟩

/-- So many pixels, of sixteen bits each. -/
def pixelsOfBits : Nat → List Bool → List UInt16
  | 0, _ => []
  | count + 1, bits => pixelOfBits (bits.take 16) :: pixelsOfBits count (bits.drop 16)

theorem length_pixelBits (pixel : UInt16) : (pixelBits pixel).length = 16 := by
  rw [pixelBits, List.length_map, List.length_range]

theorem pixelOfBits_pixelBits (pixel : UInt16) : pixelOfBits (pixelBits pixel) = pixel := by
  apply UInt16.toBitVec_inj.mp
  apply BitVec.eq_of_getMsbD_eq
  intro index index_lt
  have length := length_pixelBits pixel
  simp [pixelOfBits, pixelBits, BitVec.getMsbD_setWidth, index_lt]

theorem pixelsOfBits_pixelBits (pixels : List UInt16) :
    pixelsOfBits pixels.length (pixels.flatMap pixelBits) = pixels := by
  induction pixels with
  | nil => rfl
  | cons pixel pixels induction =>
      rw [List.length_cons, pixelsOfBits, List.flatMap_cons,
        List.take_left' (length_pixelBits pixel), List.drop_left' (length_pixelBits pixel),
        pixelOfBits_pixelBits, induction]

theorem length_flatMap_pixelBits (pixels : List UInt16) :
    (pixels.flatMap pixelBits).length = pixels.length * 16 := by
  rw [List.length_flatMap, List.map_congr_left fun pixel _ => length_pixelBits pixel]
  simp

/-- A panel that is clocked for some bits. -/
def takeBits (panel : Panel) (bits : List Bool) : Panel :=
  panel.take (pixelsOfBits (bits.length / 16) bits)

theorem takeBits_pixelBits (panel : Panel) (pixels : List UInt16) :
    takeBits panel (pixels.flatMap pixelBits) = panel.take pixels := by
  rw [takeBits, length_flatMap_pixelBits, Nat.mul_div_cancel _ (by decide),
    pixelsOfBits_pixelBits]

end Bits

section Picture

variable {framebuffer : Framebuffer}

/-- Every row and in it every pixel twice. -/
def scaledPixels (framebuffer : Framebuffer) (content : Int → UInt16) : List UInt16 :=
  (doubledRows framebuffer).flatMap fun place => [content place, content place]

/-- The pixel of the framebuffer that is shown at a row and a column. -/
def scaledPixel (framebuffer : Framebuffer) (content : Int → UInt16) (row column : Nat) : UInt16 :=
  content (framebuffer.size.width.toNat * (row / 2) + column / 2 : Nat)

theorem completeRow_twice (content : Int → UInt16) (row : Nat) :
    (completeRow framebuffer row).flatMap (fun place => [content place, content place]) =
      (List.range (2 * framebuffer.size.width.toNat)).map fun column =>
        content (framebuffer.size.width.toNat * row + column / 2 : Nat) := by
  rw [completeRow, rowPixels, List.flatMap_map, List.map_eq_flatMap]
  simp only [Nat.cast_add]
  exact flatMap_twice
    (fun column => [content ((framebuffer.size.width.toNat * row : Nat) + (column : Int))]) _

theorem scaledPixels_eq (content : Int → UInt16) :
    scaledPixels framebuffer content =
      (List.range (2 * framebuffer.size.height.toNat)).flatMap fun row =>
        (List.range (2 * framebuffer.size.width.toNat)).map fun column =>
          scaledPixel framebuffer content row column := by
  rw [scaledPixels, doubledRows, List.flatMap_assoc]
  simp only [List.flatMap_append, completeRow_twice]
  exact flatMap_twice (fun row => (List.range (2 * framebuffer.size.width.toNat)).map
    fun column => content (framebuffer.size.width.toNat * row + column / 2 : Nat)) _

theorem length_scaledPixels (content : Int → UInt16) :
    (scaledPixels framebuffer content).length =
      2 * framebuffer.size.height.toNat * (2 * framebuffer.size.width.toNat) := by
  rw [scaledPixels_eq, List.flatMap_def, length_flatten_map]

theorem getElem?_scaledPixels (content : Int → UInt16) {row column : Nat}
    (row_lt : row < 2 * framebuffer.size.height.toNat)
    (column_lt : column < 2 * framebuffer.size.width.toNat) :
    (scaledPixels framebuffer content)[row * (2 * framebuffer.size.width.toNat) + column]? =
      some (scaledPixel framebuffer content row column) := by
  rw [scaledPixels_eq, List.flatMap_def, getElem?_flatten_map row_lt column_lt]

end Picture

section Sending

variable {Callback : Type}

/-- What is in the buffers of frames, the newest frame first, while they are read. -/
def wordsSent (content : Nat → Int → UInt16) : List (Frame Callback) → List (UInt16 × UInt16)
  | [] => []
  | frame :: earlier => wordsSent content earlier ++
      frame.transfers.flatMap fun transfer => transfer.wordsRead (content earlier.length)

/-- The frames scaled by two, one after the other. -/
def scaledFrames (content : Nat → Int → UInt16) : List (Frame Callback) → List UInt16
  | [] => []
  | frame :: earlier => scaledFrames content earlier ++
      scaledPixels frame.framebuffer (content earlier.length)

/-- A framebuffer of half the size of the panel, in rows of whole words. -/
structure HalfOf (config : DisplayDriver.ST7789.Config) (framebuffer : Framebuffer) : Prop where
  width : 2 * framebuffer.size.width.toNat = config.screenWidth.toNat
  height : 2 * framebuffer.size.height.toNat = config.screenHeight.toNat
  someWidth : 1 ≤ framebuffer.size.width.toNat
  someHeight : 1 ≤ framebuffer.size.height.toNat
  even : 2 ∣ framebuffer.size.width.toNat

variable {config : DisplayDriver.ST7789.Config} {content : Nat → Int → UInt16}

theorem HalfOf.doublable {framebuffer : Framebuffer} (halfOf : HalfOf config framebuffer) :
    Doublable framebuffer := by
  have width := config.screenWidth.toNat_lt
  have height := config.screenHeight.toNat_lt
  rw [← halfOf.width] at width
  rw [← halfOf.height] at height
  exact ⟨⟨halfOf.someWidth, by omega⟩, halfOf.someHeight, by omega⟩

/-- The program sends every pixel of a frame twice, and so every pixel of its scaled
picture once. -/
theorem Frame.Written.bits {frame : Frame Callback} (written : frame.Written)
    (halfOf : HalfOf config frame.framebuffer) (content : Int → UInt16) :
    (frame.transfers.flatMap fun transfer => transfer.wordsRead content).flatMap
        (fun word => pixelBits word.1 ++ pixelBits word.1 ++
          (pixelBits word.2 ++ pixelBits word.2)) =
      (scaledPixels frame.framebuffer content).flatMap pixelBits := by
  have rows := (pixelsRead_doubledRows_iff halfOf.doublable).mpr halfOf.even
  rw [← written] at rows
  rw [scaledPixels, ← rows, List.flatMap_assoc, List.flatMap_assoc, List.flatMap_assoc]
  apply List.flatMap_congr
  intro transfer isTransfer
  rw [written, transfersUpTo, List.mem_map] at isTransfer
  rcases isTransfer with ⟨scanline, _, rfl⟩
  rw [wordsRead_flatMap rfl content fun pixel => pixelBits pixel ++ pixelBits pixel]
  simp

theorem bits_eq {frames : List (Frame Callback)} (written : ∀ frame ∈ frames, frame.Written)
    (halfOf : ∀ frame ∈ frames, HalfOf config frame.framebuffer) :
    (wordsSent content frames).flatMap
        (fun word => pixelBits word.1 ++ pixelBits word.1 ++
          (pixelBits word.2 ++ pixelBits word.2)) =
      (scaledFrames content frames).flatMap pixelBits := by
  induction frames with
  | nil => rfl
  | cons frame earlier induction =>
      rw [List.forall_mem_cons] at written halfOf
      rw [wordsSent, scaledFrames, List.flatMap_append, List.flatMap_append,
        induction written.2 halfOf.2, written.1.bits halfOf.1]

/-- The window of the panel's `Init` is twice as wide and twice as high. -/
theorem HalfOf.rectangle {framebuffer : Framebuffer} (halfOf : HalfOf config framebuffer) :
    (DisplayDriver.st7789 config).frameWindow.rectangle =
      ⟨0, 0, 2 * framebuffer.size.width.toNat, 2 * framebuffer.size.height.toNat⟩ := by
  have columns : config.kMaxColumn.toNat + 1 = config.screenWidth.toNat := by
    have some : (1 : UInt16) ≤ config.screenWidth := by
      rw [UInt16.le_iff_toNat_le, ← halfOf.width]
      have someWidth := halfOf.someWidth
      change 1 ≤ _
      omega
    rw [DisplayDriver.ST7789.Config.kMaxColumn, UInt16.toNat_sub_of_le _ _ some]
    rw [UInt16.le_iff_toNat_le] at some
    exact Nat.sub_add_cancel some
  have rows : config.kMaxRow.toNat + 1 = config.screenHeight.toNat := by
    have some : (1 : UInt16) ≤ config.screenHeight := by
      rw [UInt16.le_iff_toNat_le, ← halfOf.height]
      have someHeight := halfOf.someHeight
      change 1 ≤ _
      omega
    rw [DisplayDriver.ST7789.Config.kMaxRow, UInt16.toNat_sub_of_le _ _ some]
    rw [UInt16.le_iff_toNat_le] at some
    exact Nat.sub_add_cancel some
  rw [DisplayDriver.frameWindow, DisplayDriver.Window.rectangle]
  simp only [columns, rows, halfOf.width, halfOf.height, Nat.sub_zero]

/-- A panel shows a frame, two by two pixels for each. -/
def ShowsScaled (panel : Panel) (config : DisplayDriver.ST7789.Config)
    (framebuffer : Framebuffer) (content : Int → UInt16) : Prop :=
  ∀ row < config.screenHeight.toNat, ∀ column < config.screenWidth.toNat,
    panel.memory (column, row) = scaledPixel framebuffer content row column

/-- A scaled frame fills the window, so that the next one begins where it began. -/
theorem takeScaled {panel : Panel} {framebuffer : Framebuffer} (content : Int → UInt16)
    (halfOf : HalfOf config framebuffer)
    (awaits : panel.Awaits (DisplayDriver.st7789 config).frameWindow) :
    (panel.take (scaledPixels framebuffer content)).Awaits
        (DisplayDriver.st7789 config).frameWindow ∧
      ShowsScaled (panel.take (scaledPixels framebuffer content)) config framebuffer content := by
  have rectangle := halfOf.rectangle
  have whole : (scaledPixels framebuffer content).length =
      (DisplayDriver.st7789 config).frameWindow.rectangle.area := by
    rw [length_scaledPixels, rectangle, Rectangle.area, Nat.mul_comm]
  have frame := awaits.takeFrame whole
  rw [rectangle] at frame
  refine ⟨frame.1, ?_⟩
  intro row row_lt column column_lt
  rw [← halfOf.height] at row_lt
  rw [← halfOf.width] at column_lt
  have pixel := frame.2 row row_lt column column_lt _
    (getElem?_scaledPixels content row_lt column_lt)
  change (panel.take (scaledPixels framebuffer content)).memory (0 + column, 0 + row) = _ at pixel
  rwa [Nat.zero_add, Nat.zero_add] at pixel

theorem takeScaledFrames {panel : Panel} {frames : List (Frame Callback)}
    (halfOf : ∀ frame ∈ frames, HalfOf config frame.framebuffer)
    (awaits : panel.Awaits (DisplayDriver.st7789 config).frameWindow) :
    (panel.take (scaledFrames content frames)).Awaits
        (DisplayDriver.st7789 config).frameWindow ∧
      ∀ newest earlier, frames = newest :: earlier →
        ShowsScaled (panel.take (scaledFrames content frames)) config newest.framebuffer
          (content earlier.length) := by
  induction frames with
  | nil =>
      refine ⟨?_, nofun⟩
      rw [scaledFrames, awaits.take]
      exact ⟨awaits.command, awaits.cursor, awaits.window⟩
  | cons frame earlier induction =>
      rw [List.forall_mem_cons] at halfOf
      rw [scaledFrames, ← Panel.take_append]
      have last := takeScaled (content earlier.length) halfOf.1 (induction halfOf.2).1
      refine ⟨last.1, ?_⟩
      rintro newest others same
      cases same
      exact last.2

end Sending

/-- A framebuffer of half the size of the panel is written, or the hardware does its
part. -/
def Event.WritesHalf (config : DisplayDriver.ST7789.Config) : Event Callback → Prop
  | .setPixelDouble _ => False
  | .writeFramebuffer framebuffer _ => HalfOf config framebuffer
  | .transferDone | .interrupt => True

theorem Event.WritesHalf.doublable {config : DisplayDriver.ST7789.Config}
    {event : Event Callback} (half : event.WritesHalf config) : event.WritesDoublable := by
  cases event with
  | setPixelDouble _ => exact half
  | writeFramebuffer _ _ => exact HalfOf.doublable half
  | transferDone => trivial
  | interrupt => trivial

namespace Pusher

variable {Callback : Type} {pusher next : Pusher Callback}

theorem irqHandler_writeMode (pusher : Pusher Callback) :
    pusher.irqHandler.1.writeMode = pusher.writeMode := by
  cases raised : (pusher.channels pusher.dmaChannel).irq0Status with
  | false =>
      rw [irqHandler]
      simp [raised]
  | true =>
      rw [irqHandler_raised raised]
      split
      · cases pusher.drawCallback <;> rfl
      · rfl

theorem writeFramebuffer_writeMode {framebuffer : Framebuffer} {callback : Callback}
    {transfer : Transfer}
    (written : pusher.writeFramebuffer framebuffer callback = some (next, transfer)) :
    next.writeMode = true := by
  cases latched : pusher.writeMode <;> cases empty : pusher.drawCallback <;>
    cases doubled : pusher.pixelDoubleEnabled <;>
    simp [writeFramebuffer, setupWriteFramebuffer, updateChannel, startTransfer, latched, empty,
      doubled] at written <;>
    rcases written with ⟨rfl, -⟩
  · rfl
  · rfl
  · rfl
  · rfl

end Pusher

namespace Session

variable {Callback : Type} {session : Session Callback}

/-- The memory write command comes with the first frame. -/
theorem writeMode_iff {ownChannel : Nat} {events : List (Event Callback)}
    (run : (machine Callback).Run (start (.inDoubleMode ownChannel)) events session) :
    session.pusher.writeMode = true ↔ session.frames ≠ [] := by
  apply run.invariant (fun state => state.pusher.writeMode = true ↔ state.frames ≠ [])
  · intro state event next same _ stepped
    cases event with
    | setPixelDouble enabled =>
        cases stepped
        cases enabled <;> exact same
    | writeFramebuffer framebuffer callback =>
        rcases Option.bind_eq_some_iff.mp stepped with ⟨written, isWritten, isNext⟩
        cases isNext
        exact iff_of_true (Pusher.writeFramebuffer_writeMode isWritten) (List.cons_ne_nil _ _)
    | transferDone =>
        cases stepped
        exact same
    | interrupt =>
        cases stepped.symm.trans state.step_interrupt
        rw [Pusher.irqHandler_writeMode, same]
        cases state.frames <;> simp
  · simp [start, Pusher.inDoubleMode, Pusher.setPixelDouble, Pusher.updateChannel,
      Pusher.afterInit]

/-- Every frame is one that was written. -/
theorem frames_halfOf {config : DisplayDriver.ST7789.Config} {ownChannel : Nat}
    {events : List (Event Callback)}
    (run : (machine Callback).Run (start (.inDoubleMode ownChannel)) events session)
    (half : ∀ event ∈ events, event.WritesHalf config) :
    ∀ frame ∈ session.frames, HalfOf config frame.framebuffer := by
  apply run.invariant_of_events (fun state => ∀ frame ∈ state.frames,
    HalfOf config frame.framebuffer) (Event.WritesHalf config) _ half
  · simp [start]
  · intro state event next all writesHalf _ stepped
    cases event with
    | setPixelDouble enabled => exact writesHalf.elim
    | writeFramebuffer framebuffer callback =>
        rcases Option.bind_eq_some_iff.mp stepped with ⟨written, _, isNext⟩
        cases isNext
        exact List.forall_mem_cons.mpr ⟨writesHalf, all⟩
    | transferDone =>
        cases stepped
        exact all
    | interrupt =>
        cases stepped.symm.trans state.step_interrupt
        intro frame isFrame
        rcases mem_modifyHead_startedFor isFrame with ⟨before, isBefore, same⟩
        rw [same]
        exact all before isBefore

end Session

/-- The panel after the commands of `Init`, the memory write command in
`SetupWriteFramebuffer`, and the bits that the program has sent. -/
def panelAfter (config : DisplayDriver.ST7789.Config) (mode : DisplayDriver.Mode) (panel : Panel)
    (pusher : Pusher Callback) (bits : List Bool) : Panel :=
  let initialized := panel.receiveAll (fun _ => 0)
    ((DisplayDriver.st7789 config).initialized mode).bus.writes
  if pusher.writeMode then
    takeBits (initialized.receive (fun _ => 0)
      ⟨.command, .bytes [DisplayDriver.memoryWrite], .ok⟩) bits
  else
    initialized

theorem panelAfter_pixels (config : DisplayDriver.ST7789.Config) (mode : DisplayDriver.Mode)
    (panel : Panel) {pusher : Pusher Callback} (commanded : pusher.writeMode = true) :
    ∃ before : Panel, before.Awaits (DisplayDriver.st7789 config).frameWindow ∧
      ∀ pixels : List UInt16,
        panelAfter config mode panel pusher (pixels.flatMap pixelBits) = before.take pixels := by
  have window : (panel.receiveAll (fun _ => 0)
      ((DisplayDriver.st7789 config).initialized mode).bus.writes).controller.window =
        (DisplayDriver.st7789 config).frameWindow :=
    DisplayDriver.ready_initialized (.st7789 config) mode (fun _ => 0) panel
  have awaits := Panel.awaits_memoryWrite (fun _ => 0) (panel.receiveAll (fun _ => 0)
    ((DisplayDriver.st7789 config).initialized mode).bus.writes) .ok
  rw [window] at awaits
  refine ⟨_, awaits, ?_⟩
  intro pixels
  rw [panelAfter, if_pos commanded, takeBits_pixelBits]

/-- A display of twice the size of its framebuffers, with the pusher in pixel-double
mode: once the last transfer is done, the panel shows the newest frame scaled by two,
however many frames went before it without a command. The program has been fed the words
that came by DMA. -/
theorem doubledFrames_appear {Callback : Type} {ownChannel : Nat}
    {events : List (Event Callback)} {session : Session Callback}
    (config : DisplayDriver.ST7789.Config) (mode : DisplayDriver.Mode) (panel : Panel)
    (run : (Session.machine Callback).Run (.start (.inDoubleMode ownChannel)) events session)
    (half : ∀ event ∈ events, event.WritesHalf config)
    (notBusy : session.pusher.dmaIsBusy = false) (content : Nat → Int → UInt16)
    {machine : StateMachine} (atStart : machine.pc = 0) (fresh : machine.sent = [])
    (queued : machine.txFifo = (wordsSent content session.frames).map
      fun word => pixelWord word.1 word.2) :
    ∃ steps, (StateMachine.step^[steps] machine).step = StateMachine.step^[steps] machine ∧
      ∀ newest earlier, session.frames = newest :: earlier →
        ShowsScaled
          (panelAfter config mode panel session.pusher (StateMachine.step^[steps] machine).sent)
          config newest.framebuffer (content earlier.length) := by
  rcases Session.orderly_doubling run fun event isEvent => (half event isEvent).doublable with
    ⟨settled | ⟨_, _, _, writing⟩, _⟩
  case inr => exact absurd (notBusy.symm.trans writing.dmaIsBusy) Bool.false_ne_true
  have halves := Session.frames_halfOf run half
  rcases StateMachine.doubles_words atStart queued with ⟨steps, waits, sent⟩
  refine ⟨steps, waits, ?_⟩
  intro newest earlier isFrames
  have commanded : session.pusher.writeMode = true := by
    rw [Session.writeMode_iff run, isFrames]
    exact List.cons_ne_nil _ _
  rcases panelAfter_pixels config mode panel commanded with ⟨before, awaits, takes⟩
  rw [sent, fresh, List.nil_append, bits_eq settled.written halves, takes]
  exact (takeScaledFrames halves awaits).2 newest earlier isFrames

section Example

/-- Two frames of two pixels each, for a panel of four by two. -/
def twoHalves : List (Event Nat) := oneFrame evenRow ++ oneFrame evenRow

theorem twoHalves_half : ∀ event ∈ twoHalves, event.WritesHalf ⟨4, 2⟩ := by
  have halfOf : HalfOf ⟨4, 2⟩ evenRow := ⟨rfl, rfl, by decide, by decide, ⟨1, rfl⟩⟩
  simp [twoHalves, oneFrame, Event.WritesHalf, halfOf]

theorem doubledFrames_appear_twoHalves :
    ∃ session : Session Nat,
      (Session.machine Nat).Run (.start (.inDoubleMode 3)) twoHalves session ∧
      session.frames.length = 2 ∧
      ∃ machine : StateMachine, ∀ panel : Panel, ∃ steps,
        (StateMachine.step^[steps] machine).step = StateMachine.step^[steps] machine ∧
        ∀ newest earlier, session.frames = newest :: earlier →
          ShowsScaled
            (panelAfter ⟨4, 2⟩ .data panel session.pusher
              (StateMachine.step^[steps] machine).sent)
            ⟨4, 2⟩ newest.framebuffer fun place => UInt16.ofInt (place + 2 * earlier.length) := by
  have finished : ∃ session : Session Nat,
      (Session.machine Nat).Run (.start (.inDoubleMode 3)) twoHalves session ∧
      session.frames.length = 2 ∧ session.pusher.dmaIsBusy = false :=
    ⟨_, @Machine.Run.of_execute _ _ (Session.machine Nat) (.start (.inDoubleMode 3)) _ twoHalves
      _ rfl, rfl, rfl⟩
  rcases finished with ⟨session, run, two, notBusy⟩
  let content (frame : Nat) (place : Int) : UInt16 := UInt16.ofInt (place + 2 * frame)
  refine ⟨session, run, two, ⟨0, 0, 0, 0, 0, (wordsSent content session.frames).map
    fun word => pixelWord word.1 word.2, []⟩, ?_⟩
  intro panel
  exact doubledFrames_appear ⟨4, 2⟩ .data panel run twoHalves_half notBusy content rfl rfl rfl

end Example

end PigweedExperimental.PixelPusher
