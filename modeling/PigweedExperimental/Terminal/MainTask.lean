import PigweedExperimental.Display.PanelContents
import PigweedExperimental.Terminal.FrameLayout

namespace PigweedExperimental.Terminal

open Draw
open DemoDecoder (kBlack)

/-! # `MainTask`

The application's loop: a framebuffer is taken from the display, filled and drawn
on, and released to the display, which sends it to the panel and takes it back. The
log and the message about the frame rate may be anything in each iteration.
-/

/-- What an iteration finds in the log and in `fps_buffer`. -/
structure FrameInput where
  logTextBuffer : TextBuffer
  fpsMsg : List Int
  fpsFits : fpsMsg.length ≤ 40

structure MainTask where
  framebufferPool : FramebufferPool
  memory : Address → Array UInt16
  sun : SunMotion
  screen : DisplayDriver.Screen

/-- The pixels of a framebuffer in memory, with the reader's assertions. -/
def writerOf (memory : Address → Array UInt16) (framebuffer : Framebuffer) :
    Option FramebufferWriter :=
  if usable : framebuffer.pixelFormat = .rgb565 ∧ framebuffer.isValid ∧
      framebuffer.size.width.toNat * framebuffer.size.height.toNat ≤
        (memory framebuffer.pixelData).size then
    some ⟨framebuffer, memory framebuffer.pixelData, usable.1, usable.2.1, usable.2.2⟩
  else
    none

/-- The framebuffer with its pixels, as it is released. -/
def releaseOf (frame : FramebufferWriter) : DisplayDriver.FrameRelease where
  framebuffer := frame.framebuffer
  fbdata := fun index => frame.data.getD index 0

/-- The pixel of a frame for a place of the display: the one at this place or, if the
frame is resized, the nearest one towards its first row and column. -/
def framePixel (display : Display) (frame : FramebufferWriter) (row column : Nat) : UInt16 :=
  if display.resizesInSoftware frame.framebuffer then
    frame.pixel (column * (frame.width.toNat - 1) / (display.size.width.toNat - 1))
      (row * (frame.height.toNat - 1) / (display.size.height.toNat - 1))
  else
    frame.pixel column row

/-- The panel has the pixels of a frame, from the first column and page of its window. -/
def PanelHas (driver : DisplayDriver) (display : Display) (panel : DisplayDriver.Panel)
    (frame : FramebufferWriter) : Prop :=
  ∀ row < ((releaseOf frame).shownSize display).height.toNat,
    ∀ column < ((releaseOf frame).shownSize display).width.toNat,
      panel.memory (driver.frameWindow.columns.1 + column, driver.frameWindow.pages.1 + row) =
        framePixel display frame row column

/-- What does not change while the loop runs: the pool is over buffers that the
driver can show, with rows that follow one another, and all of them are free. -/
structure Application where
  driver : DisplayDriver
  display : Display
  artwork : Artwork
  signed : Bool
  someFree : 0 < display.framebufferPool.framebufferSemaphore
  inRange : display.framebufferPool.nextFbIdx < display.framebufferPool.bufferAddresses.length
  format : display.framebufferPool.pixelFormat = .rgb565
  noPadding : display.framebufferPool.rowBytes.toNat / 2 =
    display.framebufferPool.bufferDimensions.width.toNat
  presentable : ∀ address ∈ display.framebufferPool.bufferAddresses, ∀ fbdata,
    driver.Presentable display ⟨⟨address, .rgb565, display.framebufferPool.bufferDimensions,
      display.framebufferPool.rowBytes⟩, fbdata⟩

namespace Application

variable (application : Application)

def displayWith (framebufferPool : FramebufferPool) : Display :=
  { application.display with framebufferPool }

/-- One iteration. The write callback has given the framebuffer back to the pool by
the time `ReleaseFramebuffer` returns. -/
def iterate (task : MainTask) (input : FrameInput) : Option MainTask := do
  let (framebuffer, display) ←
    (application.displayWith task.framebufferPool).getFramebuffer
  let writer ← writerOf task.memory framebuffer
  let sun ← task.sun.advance
  let frame := drawFrame application.artwork (writer.fill kBlack) application.signed
    input.logTextBuffer sun input.fpsMsg
  let screen ← application.driver.present display task.screen (releaseOf frame)
  return {
    framebufferPool := (display.framebufferPool.releaseFramebuffer framebuffer).2
    memory := Function.update task.memory framebuffer.pixelData frame.data
    sun
    screen }

/-- The loop goes on once the semaphore lets it have a framebuffer. -/
def loop : Machine MainTask FrameInput where
  Enabled task _ := 0 < task.framebufferPool.framebufferSemaphore
  step := application.iterate

/-- When the loop begins, no framebuffer is in use. -/
def initial (mode : DisplayDriver.Mode) (panel : DisplayDriver.Panel)
    (memory : Address → Array UInt16) : MainTask where
  framebufferPool := application.display.framebufferPool
  memory
  sun := .initial
  screen := application.driver.initialScreen mode panel

/-- The pixels of each buffer are in its memory. -/
def Covers (memory : Address → Array UInt16) : Prop :=
  ∀ address ∈ application.display.framebufferPool.bufferAddresses,
    application.display.framebufferPool.bufferDimensions.width.toNat *
      application.display.framebufferPool.bufferDimensions.height.toNat ≤ (memory address).size

/-- The pool with all buffers free. -/
def poolAt (next : Nat) : FramebufferPool :=
  { application.display.framebufferPool with nextFbIdx := next }

/-- The state between two iterations, after a number of them. -/
structure Ready (frames : Nat) (task : MainTask) : Prop where
  pool : ∃ next < application.display.framebufferPool.bufferAddresses.length,
    task.framebufferPool = application.poolAt next
  covers : application.Covers task.memory
  sun : SunMotion.after frames = some task.sun
  screen : application.driver.Holds application.display task.screen

/-- What the last of some iterations has drawn. -/
def scene (input : FrameInput) {frames : Nat} {sun : SunMotion}
    (reached : SunMotion.after frames = some sun) : Scene where
  artwork := application.artwork
  signed := application.signed
  logTextBuffer := input.logTextBuffer
  sun
  fpsMsg := input.fpsMsg
  sunReached := ⟨frames, reached⟩
  fpsFits := input.fpsFits

/-- The framebuffer over one of the pool's buffers. -/
def framebufferOver (address : Address) : Framebuffer :=
  ⟨address, .rgb565, application.display.framebufferPool.bufferDimensions,
    application.display.framebufferPool.rowBytes⟩

/-- The panel shows, pixel by pixel, the frame for an input, drawn on a black
framebuffer of the pool. -/
def ShowsFrame (frames : Nat) (task : MainTask) (input : FrameInput) : Prop :=
  ∃ (sun : SunMotion) (reached : SunMotion.after frames = some sun) (black : FramebufferWriter),
    (∃ address ∈ application.display.framebufferPool.bufferAddresses,
      black.framebuffer = application.framebufferOver address) ∧
    (∀ x y : Nat, x < black.width.toNat → y < black.height.toNat →
      black.pixel x y = kBlack) ∧
    PanelHas application.driver application.display task.screen.panel
      ((application.scene input reached).draw black)

end Application

/-- A call of `GetFramebuffer` in full. -/
theorem getFramebuffer_eq {pool : FramebufferPool} {address : Address}
    (isNext : pool.bufferAddresses[pool.nextFbIdx]? = some address)
    (notNull : address ≠ nullptr) (format : pool.pixelFormat ≠ .none) :
    pool.getFramebuffer = some
      (⟨address, pool.pixelFormat, pool.bufferDimensions, pool.rowBytes⟩, { pool with
        framebufferSemaphore := pool.framebufferSemaphore - 1
        nextFbIdx := pool.following pool.nextFbIdx }) := by
  rw [FramebufferPool.getFramebuffer, FramebufferPool.resetAtEnd_fetchIncrement,
    FramebufferPool.framebufferAt]
  dsimp only [FramebufferPool.fetchIncrement, FramebufferPool.acquire]
  have created : Framebuffer.create address pool.pixelFormat pool.bufferDimensions
      pool.rowBytes = some ⟨address, pool.pixelFormat, pool.bufferDimensions, pool.rowBytes⟩ :=
    if_pos ⟨notNull, format⟩
  rw [isNext, Option.bind_eq_bind, Option.bind_eq_bind, Option.bind_some, created]
  rfl

theorem writerOf_eq {memory : Address → Array UInt16} {framebuffer : Framebuffer}
    (format : framebuffer.pixelFormat = .rgb565) (valid : framebuffer.isValid)
    (covered : framebuffer.size.width.toNat * framebuffer.size.height.toNat ≤
      (memory framebuffer.pixelData).size) :
    writerOf memory framebuffer =
      some ⟨framebuffer, memory framebuffer.pixelData, format, valid, covered⟩ :=
  dif_pos ⟨format, valid, covered⟩

theorem Scene.draw_framebuffer (scene : Scene) (framebuffer : FramebufferWriter) :
    (scene.draw framebuffer).framebuffer = framebuffer.framebuffer := by
  rw [scene.draw_eq, FramePart.drawParts_eq]
  exact drawAll_framebuffer (FramePart.calls_lossless scene _) framebuffer

/-- Where rows follow one another, the display sends what was drawn. -/
theorem panelHas_of_shows {driver : DisplayDriver} {display : Display}
    {panel : DisplayDriver.Panel} {frame : FramebufferWriter}
    (noPadding : frame.framebuffer.rowBytes.toNat / 2 = frame.width.toNat)
    (shows : driver.Shows display panel (releaseOf frame)) :
    PanelHas driver display panel frame := by
  intro row row_lt column column_lt
  have pixel (row column : Nat) :
      NearestNeighbor.source ((releaseOf frame).resizeInput display) row column =
        frame.pixel column row := by
    change frame.data.getD (row * (frame.framebuffer.rowBytes.toNat / 2) + column) 0 = _
    rw [noPadding]
    rfl
  rw [shows row row_lt column column_lt, DisplayDriver.FrameRelease.picture, framePixel,
    NearestNeighbor.shown, pixel, pixel]
  rfl

namespace Application

variable {application : Application} {frames : Nat} {task : MainTask}

/-- The pool with the next buffer taken. -/
def taken (application : Application) (index : Nat) : FramebufferPool :=
  { application.display.framebufferPool with
    framebufferSemaphore := application.display.framebufferPool.framebufferSemaphore - 1
    nextFbIdx := application.display.framebufferPool.following index }

theorem displayWith_getFramebuffer {index : Nat} {address : Address}
    (isNext : application.display.framebufferPool.bufferAddresses[index]? = some address)
    (notNull : address ≠ nullptr) :
    (application.displayWith (application.poolAt index)).getFramebuffer =
      some (application.framebufferOver address,
        application.displayWith (application.taken index)) := by
  have format : application.display.framebufferPool.pixelFormat ≠ .none := by
    rw [application.format]
    exact PixelFormat.noConfusion
  have got := @getFramebuffer_eq (application.poolAt index) address isNext notNull format
  have isFramebuffer : application.framebufferOver address = ⟨address,
      application.display.framebufferPool.pixelFormat,
      application.display.framebufferPool.bufferDimensions,
      application.display.framebufferPool.rowBytes⟩ := by
    rw [framebufferOver, application.format]
  rw [isFramebuffer, Display.getFramebuffer, displayWith, got]
  rfl

theorem taken_dimensions (index : Nat) : (application.taken index).bufferDimensions =
    application.display.framebufferPool.bufferDimensions := rfl

/-- What is given back is what was taken. -/
theorem taken_released (index : Nat) (framebuffer : Framebuffer) :
    ((application.taken index).releaseFramebuffer framebuffer).2 =
      application.poolAt (application.display.framebufferPool.following index) := by
  rw [FramebufferPool.releaseFramebuffer, poolAt, taken]
  dsimp only
  rw [Nat.sub_add_cancel application.someFree]

/-- What the display can show does not depend on which buffers are free. -/
theorem presentable_with {release : DisplayDriver.FrameRelease} {pool : FramebufferPool}
    (dimensions : pool.bufferDimensions = application.display.framebufferPool.bufferDimensions)
    (presentable : application.driver.Presentable application.display release) :
    application.driver.Presentable (application.displayWith pool) release where
  valid := presentable.valid
  ofPool := presentable.ofPool.trans dimensions.symm
  resized := presentable.resized
  sent := presentable.sent

theorem holds_with {screen : DisplayDriver.Screen} {pool : FramebufferPool}
    (dimensions : pool.bufferDimensions = application.display.framebufferPool.bufferDimensions) :
    application.driver.Holds (application.displayWith pool) screen ↔
      application.driver.Holds application.display screen := by
  have same : DisplayDriver.PoolResizes (application.displayWith pool) ↔
      DisplayDriver.PoolResizes application.display := by
    rw [DisplayDriver.PoolResizes, DisplayDriver.PoolResizes, displayWith, dimensions]
  constructor
  · intro holds
    exact ⟨holds.works, fun notResized => holds.ready fun resizes => notResized (same.mp resizes)⟩
  · intro holds
    exact ⟨holds.works, fun notResized => holds.ready fun resizes => notResized (same.mpr resizes)⟩

theorem sun_advances (reached : SunMotion.after frames = some task.sun)
    (counted : frames + 1 < 2 ^ 31) :
    ∃ sun, task.sun.advance = some sun ∧ SunMotion.after (frames + 1) = some sun := by
  have next := SunMotion.after_eq counted
  refine ⟨_, ?_, next⟩
  rw [← next, SunMotion.after, reached, Option.bind_some]

/-- An iteration takes a framebuffer, shows it and gives it back. -/
theorem iterate_shows (ready : application.Ready frames task) (counted : frames + 1 < 2 ^ 31)
    (input : FrameInput) :
    0 < task.framebufferPool.framebufferSemaphore ∧
      ∃ next, application.iterate task input = some next ∧
        application.Ready (frames + 1) next ∧
        application.ShowsFrame (frames + 1) next input := by
  rcases ready.pool with ⟨index, index_lt, pool⟩
  have isNext := List.getElem?_eq_getElem index_lt
  have isBuffer := List.getElem_mem index_lt
  generalize application.display.framebufferPool.bufferAddresses[index] = address
    at isNext isBuffer
  let framebuffer := application.framebufferOver address
  have presentable := application.presentable address isBuffer
  have valid : framebuffer.isValid := (presentable fun _ => 0).valid
  have notNull : address ≠ nullptr := by
    simpa [framebuffer, framebufferOver, Framebuffer.isValid] using valid
  have got := displayWith_getFramebuffer isNext notNull
  have writer := @writerOf_eq task.memory framebuffer rfl valid (ready.covers address isBuffer)
  generalize isBefore : (⟨framebuffer, task.memory framebuffer.pixelData, rfl, valid,
    ready.covers address isBuffer⟩ : FramebufferWriter) = before at writer
  rcases sun_advances ready.sun counted with ⟨sun, advanced, reached⟩
  let frame := (application.scene input reached).draw (before.fill kBlack)
  have sameFramebuffer : frame.framebuffer = framebuffer := by
    rw [Scene.draw_framebuffer, FramebufferWriter.fill, ← isBefore]
  have presented : application.driver.Presentable
      (application.displayWith (application.taken index)) (releaseOf frame) := by
    apply presentable_with (taken_dimensions index)
    rw [releaseOf, sameFramebuffer]
    exact presentable _
  have heldBefore := (holds_with (taken_dimensions index)).mpr ready.screen
  rcases DisplayDriver.present_shows heldBefore presented with ⟨screen, step, holds, shows⟩
  refine ⟨by rw [pool]; exact application.someFree, {
    framebufferPool := application.poolAt (application.display.framebufferPool.following index)
    memory := Function.update task.memory framebuffer.pixelData frame.data
    sun
    screen }, ?_, ?_, ?_⟩
  · rw [iterate, pool, got]
    simp only [Option.bind_eq_bind, Option.bind_some]
    rw [writer, Option.bind_some, advanced, Option.bind_some]
    have drawn : drawFrame application.artwork (before.fill kBlack) application.signed
        input.logTextBuffer sun input.fpsMsg = frame := rfl
    have released : ((application.displayWith (application.taken
        index)).framebufferPool.releaseFramebuffer framebuffer).2 =
        application.poolAt (application.display.framebufferPool.following index) :=
      application.taken_released index framebuffer
    rw [drawn, step, Option.bind_some, ← released]
    rfl
  · refine ⟨⟨_, FramebufferPool.following_lt index_lt, rfl⟩, ?_, reached,
      (holds_with (taken_dimensions index)).mp holds⟩
    intro other isOther
    by_cases same : other = framebuffer.pixelData
    case pos =>
      have covered := frame.covered
      rw [sameFramebuffer] at covered
      dsimp only
      rw [same, Function.update_self]
      exact covered
    case neg =>
      dsimp only
      rw [Function.update_of_ne same]
      exact ready.covers other isOther
  · have noPadding : frame.framebuffer.rowBytes.toNat / 2 = frame.width.toNat := by
      rw [FramebufferWriter.width, sameFramebuffer]
      exact application.noPadding
    refine ⟨sun, reached, before.fill kBlack, ⟨address, isBuffer, ?_⟩, ?_,
      panelHas_of_shows noPadding shows⟩
    · rw [FramebufferWriter.fill, ← isBefore]
    · intro x y x_lt y_lt
      exact FramebufferWriter.pixel_fill x_lt y_lt

/-- The state between two iterations, and the frame on the panel. -/
structure Showing (application : Application) (frames : Nat) (task : MainTask)
    (latest : Option FrameInput) : Prop where
  ready : application.Ready frames task
  shows : ∀ input ∈ latest, application.ShowsFrame frames task input

theorem showing_run {latest : Option FrameInput} {inputs : List FrameInput}
    (showing : application.Showing frames task latest)
    (counted : frames + inputs.length < 2 ^ 31) :
    ∃ last, application.loop.Run task inputs last ∧
      application.Showing (frames + inputs.length) last
        (inputs.foldl (fun _ input => some input) latest) := by
  induction inputs generalizing frames task latest with
  | nil => exact ⟨task, .nil task, showing⟩
  | cons input inputs induction =>
      rw [List.length_cons, Nat.add_comm inputs.length, ← Nat.add_assoc] at counted ⊢
      rcases iterate_shows showing.ready (Nat.lt_of_le_of_lt (Nat.le_add_right ..) counted)
        input with ⟨enabled, next, step, ready, shows⟩
      have nextShowing : application.Showing (frames + 1) next (some input) := by
        refine ⟨ready, ?_⟩
        intro other same
        cases same
        exact shows
      rcases induction nextShowing counted with ⟨last, run, lastShowing⟩
      exact ⟨last, .cons enabled step run, lastShowing⟩

end Application

/-- Whatever is logged, as long as the frames can be counted, every iteration of the
application gets a framebuffer, and the panel shows the last frame that was drawn. -/
theorem mainTask_shows (application : Application) (mode : DisplayDriver.Mode)
    (panel : DisplayDriver.Panel) {memory : Address → Array UInt16}
    (covers : application.Covers memory) {inputs : List FrameInput}
    (counted : inputs.length < 2 ^ 31) :
    ∃ last, application.loop.Run (application.initial mode panel memory) inputs last ∧
      ∀ input ∈ inputs.getLast?, application.ShowsFrame inputs.length last input := by
  have ready : application.Ready 0 (application.initial mode panel memory) := {
    pool := ⟨_, application.inRange, rfl⟩
    covers
    sun := rfl
    screen := application.driver.holds_initial application.display mode panel }
  have initially : application.Showing 0 (application.initial mode panel memory) none :=
    ⟨ready, fun _ isLatest => absurd isLatest (Option.not_mem_none _)⟩
  rcases Application.showing_run initially (by rwa [Nat.zero_add]) with ⟨last, run, showing⟩
  rw [Nat.zero_add, DisplayDriver.foldl_some_eq_getLast?] at showing
  exact ⟨last, run, showing.shows⟩

/-- A display of 320x240 pixels over a pool of one framebuffer of its size. -/
def demoDisplay : Display where
  size := ⟨320, 240⟩
  framebufferPool := {
    framebufferSemaphore := 1
    bufferAddresses := [0x20000000]
    bufferDimensions := ⟨320, 240⟩
    rowBytes := 640
    pixelFormat := .rgb565
    nextFbIdx := 0 }
  displayResize := false
  supportsResize := false

theorem demo_fits :
    (DisplayDriver.st7789 ⟨320, 240⟩).FrameFits ⟨0x20000000, .rgb565, ⟨320, 240⟩, 640⟩ := by
  constructor <;> decide

def demoApplication : Application where
  driver := .st7789 ⟨320, 240⟩
  display := demoDisplay
  artwork := firstScene.artwork
  signed := true
  someFree := Nat.one_pos
  inRange := Nat.one_pos
  format := rfl
  noPadding := (by decide : (640 : UInt16).toNat / 2 = (320 : UInt16).toNat)
  presentable := List.forall_mem_singleton.mpr fun _ => {
    valid := rfl
    ofPool := rfl
    resized := fun bySoftware => absurd bySoftware Bool.false_ne_true
    sent := fun _ => ⟨demo_fits, (by decide : (640 : UInt16).toNat / 2 = (320 : UInt16).toNat)⟩ }

def demoMemory : Address → Array UInt16 := fun _ => Array.replicate (320 * 240) 0

theorem demoMemory_covers : demoApplication.Covers demoMemory := by
  intro address _
  rw [demoMemory, Array.size_replicate]
  exact Nat.le_refl (320 * 240)

/-- A frame rate that nobody has measured yet, and then one of 9 frames. -/
def demoInputs : List FrameInput := [
  ⟨.fresh, [], by decide⟩,
  ⟨.fresh, wide "FPS:9, Draw:90ms, Flush:20ms", by decide +kernel⟩]

theorem mainTask_shows_demo :
    ∃ last, demoApplication.loop.Run
        (demoApplication.initial .data DisplayDriver.blankPanel demoMemory) demoInputs last ∧
      ∀ input ∈ demoInputs.getLast?,
        demoApplication.ShowsFrame demoInputs.length last input :=
  mainTask_shows demoApplication .data DisplayDriver.blankPanel demoMemory_covers (by decide)

end PigweedExperimental.Terminal
