import PigweedExperimental.DisplayDriver.PanelController
import PigweedExperimental.DisplayDriver.SizeMismatch
import PigweedExperimental.Foundation.Execution

namespace PigweedExperimental.DisplayDriver

/-! # Frames after row writes

`Init` sets the address window to the whole panel, `WriteRow` narrows it, and
`WriteFramebuffer` sends its pixels to whatever window is in force.
-/

inductive Call where
  | writeRow (write : RowWrite)
  | writeFramebuffer (framebuffer : Framebuffer)
  deriving DecidableEq, Repr

/-- A driver in use: its connection, and the latest row write since `Init`. -/
structure Session where
  bus : SpiBus
  lastRow : Option RowWrite

def call (driver : DisplayDriver) (session : Session) : Call → Option Session
  | .writeRow write =>
      (driver.writeRow session.bus write).toOption.map fun result => ⟨result.2, some write⟩
  | .writeFramebuffer framebuffer =>
      (driver.writeFramebuffer session.bus framebuffer).toOption.map fun delivery =>
        { session with bus := delivery.bus }

def session (driver : DisplayDriver) : Machine Session Call where
  Enabled _ _ := True
  step := driver.call

/-- After a successful `Init`, on a connection that fails no write. -/
def initialized (driver : DisplayDriver) (mode : Mode) : Session where
  bus := (driver.init (.idle mode)).2
  lastRow := none

/-- The window that `Init` programs. -/
def initWindow (driver : DisplayDriver) (controller : Controller) (mode : Mode) : Window :=
  (controller.receiveAll (driver.initialized mode).bus.writes).window

/-- Pixels of framebuffers were only ever sent to the window of `Init`. -/
def FramesFull (driver : DisplayDriver) (controller : Controller) (mode : Mode)
    (session : Session) : Prop :=
  ∀ window ∈ controller.frameWindows session.bus.writes,
    window = driver.initWindow controller mode

/-- The row write addresses the whole panel. The ILI9341 has more than one row;
on the ST7789 this takes a panel of one row, and a row write from its first
column to its last, in 16 bits. -/
def CoversPanel (driver : DisplayDriver) (write : RowWrite) : Prop :=
  match driver with
  | .ili9341 _ | .st7735 _ => False
  | .st7789 config =>
      config.screenHeight = 1 ∧ write.rowIdx = 0 ∧ write.colIdx = 0 ∧
        (max (config.screenWidth.toNat - 1 : Int) (staticCastInt write.rowPixels.length) -
          (config.screenWidth.toNat - 1)) % 2 ^ 16 = 0

/-- A frame is written before any row, or after one that covers the panel. -/
def RowRestored (driver : DisplayDriver) (session : Session) : Call → Prop
  | .writeRow _ => True
  | .writeFramebuffer _ => ∀ write ∈ session.lastRow, driver.CoversPanel write

section Frames

variable {bus : SpiBus} {framebuffer : Framebuffer}

/-- What a frame leaves on a connection without failures: writes that are
pixels or command bytes, among them pixels. -/
structure FrameWrites (bus : SpiBus) (delivery : Delivery) (sent : List SpiWrite) : Prop where
  outcome : delivery.bus.outcome = bus.outcome
  writes : delivery.bus.writes = bus.writes ++ sent
  keeps : ∀ write ∈ sent, Controller.KeepsWindow write
  pixels : ∃ write ∈ sent, ∃ first count, write.span = .framebuffer first count

theorem keepsWindow_framebuffer (mode : Mode) (first count : Nat) (status : Status) :
    Controller.KeepsWindow ⟨mode, .framebuffer first count, status⟩ :=
  .inr fun _ => Span.noConfusion

theorem sendFrame_frameWrites {memoryWrite : UInt8} {width height : UInt16}
    (succeeds : bus.Succeeds) {delivery : Delivery}
    (sent : sendFrame memoryWrite width height bus framebuffer = .ok delivery) :
    ∃ sent, FrameWrites bus delivery sent := by
  rcases (sendFrame_commanded memoryWrite width height succeeds.nextOutcome).mp sent with
    ⟨_, rfl⟩
  refine ⟨_, bus.writeCommand_outcome _, bus.write_after_noData memoryWrite _, ?_, ?_⟩
  · refine List.forall_mem_append.mpr ⟨?_, ?_⟩
    · exact List.forall_mem_singleton.mpr (.inl rfl)
    · exact List.forall_mem_singleton.mpr (keepsWindow_framebuffer _ _ _ _)
  · exact ⟨_, List.mem_append_right _ (List.mem_singleton_self _), _, _, rfl⟩

theorem ILI9341.sendPixels_frameWrites (succeeds : bus.Succeeds) :
    ∃ sent, FrameWrites bus ⟨framebuffer, (ILI9341.sendPixels bus).1, (ILI9341.sendPixels bus).2⟩
      sent := by
  have all : ILI9341.sendPixels bus = (.ok, ILI9341.afterSends bus ILI9341.kNumSends) :=
    congrArg ILI9341.loopStatus (ILI9341.forUp_sendRows_ok fun _ _ => succeeds _)
  rw [all]
  refine ⟨(List.range ILI9341.kNumSends).map (ILI9341.rowsWrite bus), rfl, rfl, ?_, ?_⟩
  · intro write isWrite
    rcases List.mem_map.mp isWrite with ⟨send, _, rfl⟩
    exact keepsWindow_framebuffer _ _ _ _
  · exact ⟨ILI9341.rowsWrite bus 0, List.mem_map_of_mem (List.mem_range.mpr (by decide)), _, _,
      rfl⟩

theorem writeFramebuffer_frameWrites (driver : DisplayDriver) (succeeds : bus.Succeeds)
    {delivery : Delivery}
    (written : driver.writeFramebuffer bus framebuffer = .ok delivery) :
    ∃ sent, FrameWrites bus delivery sent := by
  cases driver with
  | ili9341 config =>
      rcases ILI9341.writeFramebuffer_eq_ok.mp written with ⟨_, _, rfl⟩
      exact ILI9341.sendPixels_frameWrites succeeds
  | st7735 config =>
      exact sendFrame_frameWrites succeeds (ST7735.writeFramebuffer_eq_ok.mp written).2.2
  | st7789 config =>
      exact sendFrame_frameWrites succeeds (ST7789.writeFramebuffer_eq_ok.mp written).2

end Frames

section Rows

variable {bus : SpiBus} {write : RowWrite}

theorem ILI9341.initWindow_eq (config : ILI9341.Config) (controller : Controller)
    (mode : Mode) :
    (DisplayDriver.ili9341 config).initWindow controller mode =
      ⟨(0, config.kMaxColumn.toNat), (0, config.kMaxRow.toNat)⟩ := by
  have addresses : config.windowCommands = [
      ⟨columnAddressSet, addressBytes 0 config.kMaxColumn⟩,
      ⟨pageAddressSet, addressBytes 0 config.kMaxRow⟩] := rfl
  have others : ∀ command ∈ config.displayCommands,
      command.command ≠ columnAddressSet ∧ command.command ≠ pageAddressSet := by
    rw [Config.displayCommands, Config.interfaceControl]
    refine List.forall_mem_append.mpr ⟨?_, by decide⟩
    split
    · decide
    · exact List.forall_mem_nil _
  have programmed := window_after_commands controller mode config.powerCommands 0
    config.kMaxColumn 0 config.kMaxRow others
  rw [← addresses] at programmed
  exact programmed

theorem ST7789.initWindow_eq (config : ST7789.Config) (controller : Controller)
    (mode : Mode) :
    (DisplayDriver.st7789 config).initWindow controller mode =
      ⟨(0, config.kMaxColumn.toNat), (0, config.kMaxRow.toNat)⟩ := by
  have addresses : config.windowCommands = [
      ⟨columnAddressSet, addressBytes 0 config.kMaxColumn⟩,
      ⟨pageAddressSet, addressBytes 0 config.kMaxRow⟩] := rfl
  have notColumn : (0x36 : UInt8) ≠ columnAddressSet := by decide
  have notPage : (0x36 : UInt8) ≠ pageAddressSet := by decide
  have others : ∀ command ∈ config.displayCommands,
      command.command ≠ columnAddressSet ∧ command.command ≠ pageAddressSet :=
    List.forall_mem_singleton.mpr ⟨notColumn, notPage⟩
  have programmed := window_after_commands controller mode powerCommands 0 config.kMaxColumn 0
    config.kMaxRow others
  rw [← addresses] at programmed
  exact programmed

/-- The last column of a row write is that of the panel. -/
theorem ST7789.lastColumn_iff (config : ST7789.Config) (write : RowWrite)
    (firstColumn : write.colIdx = 0) {colIdx : UInt16}
    (computed : maxColIdx (config.screenWidth.toNat - 1) write = .ok colIdx) :
    colIdx = config.kMaxColumn ↔
      (max (config.screenWidth.toNat - 1 : Int) (staticCastInt write.rowPixels.length) -
        (config.screenWidth.toNat - 1)) % 2 ^ 16 = 0 := by
  have colEnd : (write.colIdx.toNat : Int) + staticCastInt write.rowPixels.length =
      staticCastInt write.rowPixels.length := by
    rw [firstColumn]
    exact zero_add _
  rw [maxColIdx_eq_ok computed, colEnd]
  exact ofInt_eq_sub_one_iff _ config.screenWidth

theorem ILI9341.Config.kMaxRow_ne_zero (config : ILI9341.Config) : config.kMaxRow ≠ 0 := by
  rw [Config.kMaxRow]
  split <;> decide

/-- The window of a row is a whole panel only if that has one row. -/
theorem rowWindow_eq_iff {firstColumn lastColumn row maxColumn maxRow : UInt16} :
    (⟨(firstColumn.toNat, lastColumn.toNat), (row.toNat, row.toNat)⟩ : Window) =
        ⟨(0, maxColumn.toNat), (0, maxRow.toNat)⟩ ↔
      maxRow = 0 ∧ row = 0 ∧ firstColumn = 0 ∧ lastColumn = maxColumn := by
  simp only [Window.mk.injEq, Prod.mk.injEq, ← UInt16.toNat_inj, UInt16.toNat_zero]
  constructor
  · rintro ⟨⟨first, last⟩, top, bottom⟩
    exact ⟨bottom.symm.trans top, top, first, last⟩
  · rintro ⟨oneRow, top, first, last⟩
    exact ⟨⟨first, last⟩, top, top.trans oneRow.symm⟩

/-- What a row write leaves on a connection without failures. -/
structure RowWrites (driver : DisplayDriver) (full : Window) (bus after : SpiBus)
    (write : RowWrite) (sent : List SpiWrite) : Prop where
  outcome : after.outcome = bus.outcome
  writes : after.writes = bus.writes ++ sent
  noPixels : ∀ controller : Controller, controller.frameWindows sent = []
  window : ∀ controller : Controller,
    (controller.receiveAll sent).window = full ↔ driver.CoversPanel write

/-- A row write, and when it covers the panel, by the addresses of its window. -/
theorem addressedRow_rowWrites {driver : DisplayDriver} {lastColumn : Int}
    {maxColumn maxRow : UInt16} (succeeds : bus.Succeeds) {result : Status × SpiBus}
    (written : writeAddressedRow ⟨columnAddressSet, pageAddressSet, memoryWrite⟩ lastColumn bus
      write = .ok result)
    (covers : ∀ colIdx, maxColIdx lastColumn write = .ok colIdx →
      ((maxRow = 0 ∧ write.rowIdx = 0 ∧ write.colIdx = 0 ∧ colIdx = maxColumn) ↔
        driver.CoversPanel write)) :
    ∃ sent, RowWrites driver ⟨(0, maxColumn.toNat), (0, maxRow.toNat)⟩ bus result.2 write
      sent := by
  rcases writeAddressedRow_writes succeeds written with ⟨colIdx, computed, outcome, writes⟩
  refine ⟨_, outcome, writes, ?_, ?_⟩
  · exact fun before => frameWindows_rowCommands before _ colIdx write
  · intro before
    rw [receiveAll_rowCommands before colIdx write, rowWindow_eq_iff]
    exact covers colIdx computed

theorem writeRow_rowWrites (driver : DisplayDriver) (controller : Controller) (mode : Mode)
    (succeeds : bus.Succeeds) {result : Status × SpiBus}
    (written : driver.writeRow bus write = .ok result) :
    ∃ sent, RowWrites driver (driver.initWindow controller mode) bus result.2 write sent := by
  cases driver with
  | ili9341 config =>
      rw [ILI9341.initWindow_eq]
      apply addressedRow_rowWrites succeeds written
      intro colIdx _
      exact iff_of_false (fun whole => config.kMaxRow_ne_zero whole.1) not_false
  | st7735 config => cases written
  | st7789 config =>
      rw [ST7789.initWindow_eq]
      apply addressedRow_rowWrites succeeds written
      intro colIdx computed
      rw [CoversPanel, ST7789.Config.kMaxRow, UInt16.sub_eq_iff_eq_add, UInt16.zero_add]
      apply and_congr_right'
      apply and_congr_right'
      apply and_congr_right
      intro firstColumn
      exact ST7789.lastColumn_iff config write firstColumn computed

end Rows

section Runs

variable {driver : DisplayDriver} {controller : Controller} {mode : Mode}

/-- The window in force is that of `Init` exactly when no row write has
narrowed it. -/
structure Tracks (driver : DisplayDriver) (controller : Controller) (mode : Mode)
    (session : Session) : Prop where
  succeeds : session.bus.Succeeds
  window : (controller.receiveAll session.bus.writes).window =
    driver.initWindow controller mode ↔ ∀ write ∈ session.lastRow, driver.CoversPanel write

theorem call_writeRow {session next : Session} {write : RowWrite} :
    driver.call session (.writeRow write) = some next ↔
      ∃ result, driver.writeRow session.bus write = .ok result ∧
        next = ⟨result.2, some write⟩ := by
  rw [call]
  cases driver.writeRow session.bus write with
  | error => exact iff_of_false nofun (by simp)
  | ok result => simp [Except.toOption, eq_comm]

theorem call_writeFramebuffer {session next : Session} {framebuffer : Framebuffer} :
    driver.call session (.writeFramebuffer framebuffer) = some next ↔
      ∃ delivery, driver.writeFramebuffer session.bus framebuffer = .ok delivery ∧
        next = { session with bus := delivery.bus } := by
  rw [call]
  cases driver.writeFramebuffer session.bus framebuffer with
  | error => exact iff_of_false nofun (by simp)
  | ok delivery => simp [Except.toOption, eq_comm]

theorem Tracks.writeRow {session next : Session} {write : RowWrite}
    (tracks : Tracks driver controller mode session)
    (step : driver.call session (.writeRow write) = some next) :
    Tracks driver controller mode next ∧
      (driver.FramesFull controller mode next ↔
        driver.FramesFull controller mode session) := by
  rcases call_writeRow.mp step with ⟨result, written, rfl⟩
  rcases writeRow_rowWrites driver controller mode tracks.succeeds written with ⟨sent, after⟩
  constructor
  · constructor
    case succeeds => exact tracks.succeeds.of_outcome after.outcome
    case window =>
      rw [after.writes, Controller.receiveAll_append, after.window]
      simp
  · rw [FramesFull, FramesFull, after.writes, Controller.frameWindows_append,
      after.noPixels, List.append_nil]

theorem Tracks.writeFramebuffer {session next : Session} {framebuffer : Framebuffer}
    (tracks : Tracks driver controller mode session)
    (step : driver.call session (.writeFramebuffer framebuffer) = some next) :
    Tracks driver controller mode next ∧
      (driver.FramesFull controller mode next ↔
        driver.FramesFull controller mode session ∧
          ∀ write ∈ session.lastRow, driver.CoversPanel write) := by
  rcases call_writeFramebuffer.mp step with ⟨delivery, written, rfl⟩
  rcases writeFramebuffer_frameWrites driver tracks.succeeds written with ⟨sent, frame⟩
  let before := controller.receiveAll session.bus.writes
  constructor
  · constructor
    case succeeds => exact tracks.succeeds.of_outcome frame.outcome
    case window =>
      rw [frame.writes, Controller.receiveAll_append,
        Controller.receiveAll_window_of_keeps frame.keeps]
      exact tracks.window
  · rw [FramesFull, FramesFull, frame.writes, Controller.frameWindows_append,
      List.forall_mem_append, ← tracks.window]
    apply and_congr_right'
    constructor
    · intro full
      exact full before.window
        ((Controller.mem_frameWindows_of_keeps frame.keeps before).mpr ⟨rfl, frame.pixels⟩)
    · intro atInit window isWindow
      exact ((Controller.mem_frameWindows_of_keeps frame.keeps before).mp isWindow).1.trans
        atInit

theorem init_succeeds (driver : DisplayDriver) (mode : Mode) :
    (driver.initialized mode).bus.Succeeds := by
  cases driver <;>
    exact (SpiBus.idle_succeeds mode).of_outcome (SpiBus.writeCommands_outcome _ _)

/-- `Init` sends no pixels of a framebuffer. -/
theorem framesFull_initialized (driver : DisplayDriver) (controller : Controller)
    (mode : Mode) : driver.FramesFull controller mode (driver.initialized mode) := by
  have noPixels : controller.frameWindows (driver.initialized mode).bus.writes = [] := by
    cases driver <;>
      exact (congrArg controller.frameWindows
        ((SpiBus.idle_succeeds mode).writeCommands _)).trans
        (controller.frameWindows_commands _)
  rw [FramesFull, noPixels]
  exact List.forall_mem_nil _

theorem tracks_initialized (driver : DisplayDriver) (controller : Controller) (mode : Mode) :
    Tracks driver controller mode (driver.initialized mode) where
  succeeds := init_succeeds driver mode
  window := iff_of_true rfl nofun

/-- In every sequence of calls after `Init`, all frames go to the window of
`Init` exactly when none comes after a row write that narrowed it. -/
theorem framesFull_throughout_iff (driver : DisplayDriver) (controller : Controller)
    (mode : Mode) {calls : List Call} {last : Session}
    (run : driver.session.Run (driver.initialized mode) calls last) :
    driver.session.Throughout (driver.FramesFull controller mode) (driver.initialized mode)
        calls ↔
      driver.session.EveryStep driver.RowRestored (driver.initialized mode) calls := by
  apply run.throughout_iff_everyStep (Tracks driver controller mode)
  case preserved =>
    intro session call next tracks _ _ _ step
    cases call with
    | writeRow write => exact (tracks.writeRow step).1
    | writeFramebuffer framebuffer => exact (tracks.writeFramebuffer step).1
  case exactStep =>
    intro session call next tracks framesFull _ step
    cases call with
    | writeRow write => exact iff_of_true ((tracks.writeRow step).2.mpr framesFull) trivial
    | writeFramebuffer framebuffer =>
        exact (tracks.writeFramebuffer step).2.trans (and_iff_right framesFull)
  case initialAuxiliary => exact tracks_initialized driver controller mode
  case initially => exact framesFull_initialized driver controller mode

theorem session_run_cons {first middle last : Session} {event : Call} {events : List Call}
    (step : driver.call first event = some middle)
    (rest : driver.session.Run middle events last) :
    driver.session.Run first (event :: events) last :=
  .cons trivial step rest

/-- A frame right after a row is full only if the row covers the panel. -/
theorem covers_of_rowThenFrame {write : RowWrite} {framebuffer : Framebuffer} {last : Session}
    (run : driver.session.Run (driver.initialized mode)
      [.writeRow write, .writeFramebuffer framebuffer] last)
    (framesFull : driver.FramesFull controller mode last) : driver.CoversPanel write := by
  cases run with
  | cons _ rowStep rest =>
      have afterRow := (tracks_initialized driver controller mode).writeRow rowStep
      cases rest with
      | cons _ frameStep rest =>
          cases rest
          have covered := ((afterRow.1.writeFramebuffer frameStep).2.mp framesFull).2
          rcases call_writeRow.mp rowStep with ⟨_, _, rfl⟩
          exact covered write rfl

end Runs

/-- One pixel of the first row, then a frame. -/
def rowThenFrame : List Call := [
  .writeRow ⟨[0xFFFF], 0, 0⟩,
  .writeFramebuffer tileFramebuffer]

theorem rowThenFrame_run : ∃ last,
    (DisplayDriver.st7789 ⟨320, 240⟩).session.Run
      ((DisplayDriver.st7789 ⟨320, 240⟩).initialized .data) rowThenFrame last := by
  have computed : maxColIdx ((320 : UInt16).toNat - 1) ⟨[0xFFFF], 0, 0⟩ = .ok 319 := by decide
  have rowReturns (bus : SpiBus) :
      ∃ result, (DisplayDriver.st7789 ⟨320, 240⟩).writeRow bus ⟨[0xFFFF], 0, 0⟩ = .ok result :=
    writeAddressedRow_returns ST7789.addressCommands bus computed
  rcases rowReturns ((DisplayDriver.st7789 ⟨320, 240⟩).initialized .data).bus with
    ⟨result, written⟩
  have rowStep := call_writeRow.mpr ⟨result, written, rfl⟩
  have afterRow := ((tracks_initialized (.st7789 ⟨320, 240⟩) ⟨0, ⟨(0, 0), (0, 0)⟩⟩
    .data).writeRow rowStep).1
  have frameReturns (bus : SpiBus) (succeeds : bus.Succeeds) : ∃ delivery,
      (DisplayDriver.st7789 ⟨320, 240⟩).writeFramebuffer bus tileFramebuffer =
        .ok delivery :=
    ⟨_, ST7789.writeFramebuffer_eq_ok.mpr
      ⟨rfl, (sendFrame_commanded _ _ _ succeeds.nextOutcome).mpr ⟨by decide, rfl⟩⟩⟩
  rcases frameReturns _ afterRow.succeeds with ⟨delivery, written⟩
  have frameStep := call_writeFramebuffer.mpr ⟨delivery, written, rfl⟩
  exact ⟨_, session_run_cons rowStep (session_run_cons frameStep (.nil _))⟩

theorem framesFull_throughout_iff_rowThenFrame :
    (DisplayDriver.st7789 ⟨320, 240⟩).session.Throughout
        ((DisplayDriver.st7789 ⟨320, 240⟩).FramesFull ⟨0, ⟨(0, 0), (0, 0)⟩⟩ .data)
        ((DisplayDriver.st7789 ⟨320, 240⟩).initialized .data) rowThenFrame ↔
      (DisplayDriver.st7789 ⟨320, 240⟩).session.EveryStep
        (DisplayDriver.st7789 ⟨320, 240⟩).RowRestored
        ((DisplayDriver.st7789 ⟨320, 240⟩).initialized .data) rowThenFrame :=
  rowThenFrame_run.elim fun _ run =>
    framesFull_throughout_iff (.st7789 ⟨320, 240⟩) ⟨0, ⟨(0, 0), (0, 0)⟩⟩ .data run

/-- The frame after the row is sent to a window of one row. -/
theorem rowThenFrame_narrowed :
    ¬(∀ (driver : DisplayDriver) (controller : Controller) (mode : Mode) (calls : List Call)
      (last : Session), driver.session.Run (driver.initialized mode) calls last →
      driver.session.Throughout (driver.FramesFull controller mode)
        (driver.initialized mode) calls) := by
  intro all
  rcases rowThenFrame_run with ⟨last, run⟩
  have throughout := all (.st7789 ⟨320, 240⟩) ⟨0, ⟨(0, 0), (0, 0)⟩⟩ .data rowThenFrame last run
  have covers := covers_of_rowThenFrame run (run.finally_of_throughout throughout)
  exact absurd covers.1 (by decide)

end PigweedExperimental.DisplayDriver
