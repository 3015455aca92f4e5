import PigweedExperimental.Display.Display
import PigweedExperimental.DisplayDriver.PanelPictures
import PigweedExperimental.Foundation.Execution

namespace PigweedExperimental.DisplayDriver

/-! # What a display shows

A display with its driver, the connection and the panel at the other end of it.
All framebuffers are of the size that the display's pool has, so that either all
of them are resized or none.
-/

/-- The connection, and the panel with what it has received. -/
structure Screen where
  bus : SpiBus
  panel : Panel

/-- A framebuffer that is released, with its pixels. -/
structure FrameRelease where
  framebuffer : Framebuffer
  fbdata : Nat → UInt16

namespace FrameRelease

/-- The pixels, and a driver that accepts every row write. -/
def surroundings (release : FrameRelease) : Surroundings where
  fbdata := release.fbdata
  writeRow := fun _ _ => .ok

def resizeInput (release : FrameRelease) (display : Display) : NearestNeighbor.Input :=
  display.resizeInput release.surroundings release.framebuffer

/-- The size at which the framebuffer appears. -/
def shownSize (release : FrameRelease) (display : Display) : Size UInt16 :=
  if display.resizesInSoftware release.framebuffer then
    display.size
  else
    release.framebuffer.size

/-- The pixel of the framebuffer for a place of the display. -/
def picture (release : FrameRelease) (display : Display) (row column : Nat) : UInt16 :=
  if display.resizesInSoftware release.framebuffer then
    NearestNeighbor.shown (release.resizeInput display) row column
  else
    NearestNeighbor.source (release.resizeInput display) row column

end FrameRelease

/-- The panel receives what has been written to the bus. -/
def Screen.update (screen : Screen) (fbdata : Nat → UInt16) (bus : SpiBus) : Screen where
  bus
  panel := screen.panel.receiveAll fbdata (bus.since screen.bus)

/-- `ReleaseFramebuffer`, up to the end of the write callback with its
`PW_ASSERT_OK`. -/
def present (driver : DisplayDriver) (display : Display) (screen : Screen)
    (release : FrameRelease) : Option Screen :=
  match display.releaseFramebuffer release.surroundings release.framebuffer with
  | .ok .rejected => some screen
  | .ok .writing =>
      match driver.writeFramebuffer screen.bus release.framebuffer with
      | .ok delivery =>
          if delivery.status = .ok then
            some (screen.update release.fbdata delivery.bus)
          else
            none
      | .error _ => none
  | .ok (.resized ..) =>
      match NearestNeighbor.updateNearestNeighbor (release.resizeInput display) with
      | .ok (_, writes) => (driver.writeRows screen.bus writes).map (screen.update release.fbdata)
      | .error _ => none
  | .error _ => none

/-- What the display can show: a framebuffer of the pool's size which the resize
can compute or, without resizing, one without padding that fits the panel. -/
structure Presentable (driver : DisplayDriver) (display : Display) (release : FrameRelease) :
    Prop where
  valid : release.framebuffer.isValid
  ofPool : release.framebuffer.size = display.framebufferPool.bufferDimensions
  resized : display.resizesInSoftware release.framebuffer →
    (∀ config, driver ≠ .st7735 config) ∧ display.size = ⟨driver.getWidth, driver.getHeight⟩ ∧
      NearestNeighbor.Computable (release.resizeInput display)
  sent : display.resizesInSoftware release.framebuffer = false →
    driver.FrameFits release.framebuffer ∧
      release.framebuffer.rowBytes.toNat / 2 = release.framebuffer.size.width.toNat

/-- The panel shows a framebuffer, from the first column and page of its window. -/
def Shows (driver : DisplayDriver) (display : Display) (panel : Panel)
    (release : FrameRelease) : Prop :=
  ∀ row < (release.shownSize display).height.toNat,
    ∀ column < (release.shownSize display).width.toNat,
      panel.memory (driver.frameWindow.columns.1 + column, driver.frameWindow.pages.1 + row) =
        release.picture display row column

def screen (driver : DisplayDriver) (display : Display) : Machine Screen FrameRelease where
  Enabled _ release := driver.Presentable display release
  step := driver.present display

/-- The screen after `Init`, on a connection that fails no write. -/
def initialScreen (driver : DisplayDriver) (mode : Mode) (panel : Panel) : Screen where
  bus := (driver.initialized mode).bus
  panel := panel.receiveAll (fun _ => 0) (driver.initialized mode).bus.writes

/-- All framebuffers of the pool are resized. -/
def PoolResizes (display : Display) : Prop :=
  display.framebufferPool.bufferDimensions ≠ display.size ∧ display.displayResize ∧
    ¬display.supportsResize

/-- What a release finds: a working connection and, unless it is resized, a panel
that is ready for frames. -/
structure Holds (driver : DisplayDriver) (display : Display) (screen : Screen) : Prop where
  works : Works screen.bus
  ready : ¬PoolResizes display → driver.Ready screen.panel

section Present

variable {driver : DisplayDriver} {display : Display} {screen : Screen} {release : FrameRelease}

theorem Presentable.resizes_iff (presentable : driver.Presentable display release) :
    display.resizesInSoftware release.framebuffer ↔ PoolResizes display := by
  rw [Display.resizesInSoftware, presentable.ofPool, decide_eq_true_iff, PoolResizes]

/-- A framebuffer that is sent as it is. -/
theorem present_sent (holds : driver.Holds display screen)
    (presentable : driver.Presentable display release)
    (byDriver : display.resizesInSoftware release.framebuffer = false) :
    ∃ next, driver.present display screen release = some next ∧
      driver.Holds display next ∧ driver.Shows display next.panel release := by
  rcases presentable.sent byDriver with ⟨fits, noPadding⟩
  rcases writeFramebuffer_shows holds.works fits with
    ⟨delivery, sent, written, status, sends, shows⟩
  have notResized : ¬PoolResizes display := by
    rw [← presentable.resizes_iff, byDriver]
    exact Bool.false_ne_true
  have shown := shows screen.panel release.fbdata (holds.ready notResized)
  have since := screen.bus.since_of_writes sends.writes
  refine ⟨screen.update release.fbdata delivery.bus, ?_, ⟨sends.works, ?_⟩, ?_⟩
  · rw [present, Display.releaseFramebuffer_writing presentable.valid byDriver]
    dsimp only
    rw [written]
    exact if_pos status
  · intro _
    rw [Screen.update, since]
    exact shown.1
  · intro row row_lt column column_lt
    rw [FrameRelease.shownSize, byDriver] at row_lt column_lt
    rw [Screen.update, since, FrameRelease.picture, byDriver]
    have pixel := shown.2 row (fits.height ▸ row_lt) column (fits.width ▸ column_lt)
    rw [← fits.width, ← noPadding] at pixel
    exact pixel

/-- A resize whose row writes are all accepted makes all of them. -/
theorem updateNearestNeighbor_accepted {input : NearestNeighbor.Input}
    (valid : input.framebuffer.isValid) (computable : NearestNeighbor.Computable input)
    (accepts : ∀ write, NearestNeighbor.answer input write = .ok) :
    NearestNeighbor.updateNearestNeighbor input =
      .ok (.ok, NearestNeighbor.allWrites input input.size.height.toNat) := by
  rw [NearestNeighbor.updateNearestNeighbor, NearestNeighbor.run_eq computable valid]
  rcases NearestNeighbor.deliver_cases input
    (NearestNeighbor.allWrites input input.size.height.toNat) [] with
    ⟨all, _⟩ | ⟨_, failed, _, isFailure, _⟩
  · rw [all]
    rfl
  · exact absurd (accepts failed) isFailure

/-- Drivers with row writes show their frames from column and page 0. -/
theorem frameWindow_origin (addressed : ∀ config, driver ≠ .st7735 config) :
    driver.frameWindow.columns.1 = 0 ∧ driver.frameWindow.pages.1 = 0 := by
  cases driver with
  | ili9341 config => exact ⟨rfl, rfl⟩
  | st7735 config => exact absurd rfl (addressed config)
  | st7789 config => exact ⟨rfl, rfl⟩

/-- A framebuffer that the display resizes. -/
theorem present_resized (holds : driver.Holds display screen)
    (presentable : driver.Presentable display release)
    (bySoftware : display.resizesInSoftware release.framebuffer) :
    ∃ next, driver.present display screen release = some next ∧
      driver.Holds display next ∧ driver.Shows display next.panel release := by
  rcases presentable.resized bySoftware with ⟨addressed, size, computable⟩
  let input := release.resizeInput display
  let writes := NearestNeighbor.allWrites input input.size.height.toNat
  have updated : NearestNeighbor.updateNearestNeighbor input = .ok (.ok, writes) :=
    updateNearestNeighbor_accepted presentable.valid computable fun _ => rfl
  have within := NearestNeighbor.updateNearestNeighbor_within updated
  rw [show input.size = ⟨driver.getWidth, driver.getHeight⟩ from size] at within
  rcases writeRows_shows addressed within holds.works with ⟨after, sent, written, sends, shows⟩
  have since := screen.bus.since_of_writes sends.writes
  refine ⟨screen.update release.fbdata after, ?_, ⟨sends.works, ?_⟩, ?_⟩
  · have released : display.releaseFramebuffer release.surroundings release.framebuffer =
        .ok (.resized .ok (display.framebufferPool.releaseFramebuffer release.framebuffer).2) := by
      rw [Display.releaseFramebuffer_resized presentable.valid bySoftware]
      change (NearestNeighbor.updateNearestNeighbor input).bind _ = _
      rw [updated]
      rfl
    rw [present, released]
    dsimp only
    rw [updated]
    dsimp only
    rw [written]
    rfl
  · intro notResized
    exact absurd (presentable.resizes_iff.mp bySoftware) notResized
  · intro row row_lt column column_lt
    rw [FrameRelease.shownSize, if_pos bySoftware] at row_lt column_lt
    rcases frameWindow_origin addressed with ⟨columns, pages⟩
    rw [Screen.update, since, FrameRelease.picture, if_pos bySoftware, columns, pages,
      Nat.zero_add, Nat.zero_add]
    dsimp only
    rw [shows, (NearestNeighbor.allWrites_rowMajor input).pixels]
    exact paint_displayPixels input screen.panel.memory row_lt column_lt

theorem present_shows (holds : driver.Holds display screen)
    (presentable : driver.Presentable display release) :
    ∃ next, driver.present display screen release = some next ∧
      driver.Holds display next ∧ driver.Shows display next.panel release := by
  cases byWhom : display.resizesInSoftware release.framebuffer with
  | false => exact present_sent holds presentable byWhom
  | true => exact present_resized holds presentable byWhom

end Present

section Runs

variable (driver : DisplayDriver) (display : Display) (mode : Mode) (panel : Panel)

/-- Any command leaves the connection ready for data. -/
theorem writeCommands_mode {commands : List Command} {bus : SpiBus} (succeeds : bus.Succeeds)
    (ready : bus.mode = .data ∨ commands ≠ []) : (bus.writeCommands commands).mode = .data := by
  induction commands generalizing bus with
  | nil => exact ready.resolve_right (not_not.mpr rfl)
  | cons command commands induction =>
      apply induction (succeeds.of_outcome (bus.writeCommand_outcome command))
      exact .inl (succeeds.writeCommand command).2.1

theorem initCommands_ne_nil : driver.initCommands ≠ [] := by
  cases driver <;> exact List.cons_ne_nil _ _

theorem holds_initial : driver.Holds display (driver.initialScreen mode panel) where
  works := {
    succeeds := init_succeeds driver mode
    mode := by
      rw [initialScreen, initialized, init_eq]
      exact writeCommands_mode (SpiBus.idle_succeeds mode) (.inr driver.initCommands_ne_nil) }
  ready := fun _ => ready_initialized driver mode (fun _ => 0) panel

theorem foldl_some_eq_getLast? (items : List Item) :
    items.foldl (fun _ item => some item) none = items.getLast? := by
  induction items using List.reverseRecOn with
  | nil => rfl
  | append_singleton items item => simp

/-- The screen shows the framebuffer released last. -/
def ShowsLatest (screen : Screen) (latest : Option FrameRelease) : Prop :=
  driver.Holds display screen ∧ ∀ release ∈ latest, driver.Shows display screen.panel release

theorem showsLatest_step {screen : Screen} {latest : Option FrameRelease}
    {release : FrameRelease} (showsLatest : driver.ShowsLatest display screen latest)
    (presentable : driver.Presentable display release) :
    ∃ next, driver.present display screen release = some next ∧
      driver.ShowsLatest display next (some release) := by
  rcases present_shows showsLatest.1 presentable with ⟨next, step, holds, shows⟩
  refine ⟨next, step, holds, ?_⟩
  intro other same
  cases same
  exact shows

/-- Whatever framebuffers are released one after another, the display takes them
all, and the panel shows the last one: as it is, or resized to the panel. -/
theorem releases_shown {releases : List FrameRelease}
    (presentable : ∀ release ∈ releases, driver.Presentable display release) :
    ∃ last, (driver.screen display).Run (driver.initialScreen mode panel) releases last ∧
      ∀ latest ∈ releases.getLast?, driver.Shows display last.panel latest := by
  have initially : driver.ShowsLatest display (driver.initialScreen mode panel) none :=
    ⟨driver.holds_initial display mode panel, fun _ isLatest =>
      absurd isLatest (Option.not_mem_none _)⟩
  have ran := @Machine.Run.exists_of_progress _ _ (driver.screen display) _ releases _
    (driver.ShowsLatest display) (fun _ release => some release) (driver.Presentable display)
    (fun _ _ _ showsLatest isPresentable =>
      ⟨isPresentable, driver.showsLatest_step display showsLatest isPresentable⟩)
    none initially presentable
  rcases ran with ⟨last, run, _, shows⟩
  rw [foldl_some_eq_getLast?] at shows
  exact ⟨last, run, shows⟩

end Runs

/-- A display of 4x2 pixels over a pool of one framebuffer. -/
def smallDisplay (bufferDimensions : Size UInt16) : Display where
  size := ⟨4, 2⟩
  framebufferPool := {
    framebufferSemaphore := 1
    bufferAddresses := [0x20000000]
    bufferDimensions
    rowBytes := 2 * bufferDimensions.width
    pixelFormat := .rgb565
    nextFbIdx := 0 }
  displayResize := true
  supportsResize := false

def smallFramebuffer (size : Size UInt16) : Framebuffer :=
  ⟨0x20000000, .rgb565, size, 2 * size.width⟩

/-- Its pixels are numbered from a first one on. -/
def smallRelease (size : Size UInt16) (first : Nat) : FrameRelease where
  framebuffer := smallFramebuffer size
  fbdata := fun index => .ofNat (first + index)

theorem smallFramebuffer_fits :
    (DisplayDriver.st7789 ⟨4, 2⟩).FrameFits (smallFramebuffer ⟨4, 2⟩) := by
  constructor <;> decide

theorem smallRelease_sent (first : Nat) :
    (DisplayDriver.st7789 ⟨4, 2⟩).Presentable (smallDisplay ⟨4, 2⟩)
      (smallRelease ⟨4, 2⟩ first) where
  valid := rfl
  ofPool := rfl
  resized := fun bySoftware => absurd bySoftware Bool.false_ne_true
  sent := fun _ => ⟨smallFramebuffer_fits,
    (by decide : (2 * 4 : UInt16).toNat / 2 = (4 : UInt16).toNat)⟩

theorem smallRelease_computable (first : Nat) :
    NearestNeighbor.Computable
      ((smallRelease ⟨3, 3⟩ first).resizeInput (smallDisplay ⟨3, 3⟩)) where
  someWidth := (by decide : 1 ≤ (3 : UInt16).toNat)
  someHeight := (by decide : 1 ≤ (3 : UInt16).toNat)
  severalColumns := (by decide : 2 ≤ (4 : UInt16).toNat)
  severalRows := (by decide : 2 ≤ (2 : UInt16).toNat)
  rowsFit := (by decide : ((2 : UInt16).toNat * (3 : UInt16).toNat : Int) ≤
    NearestNeighbor.intMax)
  columnsFit := (by decide : ((4 : UInt16).toNat * (3 : UInt16).toNat : Int) ≤
    NearestNeighbor.intMax)

theorem smallRelease_resized (first : Nat) :
    (DisplayDriver.st7789 ⟨4, 2⟩).Presentable (smallDisplay ⟨3, 3⟩)
      (smallRelease ⟨3, 3⟩ first) where
  valid := rfl
  ofPool := rfl
  resized := fun _ => ⟨nofun, rfl, smallRelease_computable first⟩
  sent := fun byDriver => absurd byDriver.symm Bool.false_ne_true

def blankPanel : Panel where
  controller := ⟨0, ⟨(0, 0), (0, 0)⟩⟩
  cursor := 0
  memory := fun _ => 0

/-- Two frames one after another, sent as they are and resized. -/
theorem releases_shown_small :
    (∃ last, ((DisplayDriver.st7789 ⟨4, 2⟩).screen (smallDisplay ⟨4, 2⟩)).Run
      ((DisplayDriver.st7789 ⟨4, 2⟩).initialScreen .data blankPanel)
      [smallRelease ⟨4, 2⟩ 1, smallRelease ⟨4, 2⟩ 9] last ∧
      ∀ latest ∈ [smallRelease ⟨4, 2⟩ 1, smallRelease ⟨4, 2⟩ 9].getLast?,
        (DisplayDriver.st7789 ⟨4, 2⟩).Shows (smallDisplay ⟨4, 2⟩) last.panel latest) ∧
    ∃ last, ((DisplayDriver.st7789 ⟨4, 2⟩).screen (smallDisplay ⟨3, 3⟩)).Run
      ((DisplayDriver.st7789 ⟨4, 2⟩).initialScreen .data blankPanel)
      [smallRelease ⟨3, 3⟩ 1, smallRelease ⟨3, 3⟩ 10] last ∧
      ∀ latest ∈ [smallRelease ⟨3, 3⟩ 1, smallRelease ⟨3, 3⟩ 10].getLast?,
        (DisplayDriver.st7789 ⟨4, 2⟩).Shows (smallDisplay ⟨3, 3⟩) last.panel latest := by
  constructor
  · apply releases_shown
    exact List.forall_mem_cons.mpr
      ⟨smallRelease_sent 1, List.forall_mem_singleton.mpr (smallRelease_sent 9)⟩
  · apply releases_shown
    exact List.forall_mem_cons.mpr
      ⟨smallRelease_resized 1, List.forall_mem_singleton.mpr (smallRelease_resized 10)⟩

end PigweedExperimental.DisplayDriver
