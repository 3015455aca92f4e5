import PigweedExperimental.Display.RowWrites
import PigweedExperimental.DisplayDriver.FullFrames
import PigweedExperimental.DisplayDriver.RowWindow
import PigweedExperimental.Foundation.Raster

namespace PigweedExperimental.DisplayDriver

/-! # The panel's memory

The memory write command moves a controller's cursor to the beginning of the
address window. The words that come after it fill the window, in which the
cursor goes on from write to write.
-/

def Window.rectangle (window : Window) : Rectangle where
  left := window.columns.1
  top := window.pages.1
  width := window.columns.2 + 1 - window.columns.1
  height := window.pages.2 + 1 - window.pages.1

/-- A controller with its memory, by column and page. -/
structure Panel where
  controller : Controller
  cursor : Nat
  memory : Nat × Nat → UInt16

namespace Panel

/-- Pixels are taken while the memory write command is in force. -/
def take (panel : Panel) (words : List UInt16) : Panel :=
  if panel.controller.command = memoryWrite then
    { panel with
      cursor := panel.cursor + words.length
      memory := panel.controller.window.rectangle.fill panel.memory panel.cursor words }
  else
    panel

/-- One write; `fbdata` has the pixels of the framebuffer that is being sent. -/
def receive (fbdata : Nat → UInt16) (panel : Panel) (write : SpiWrite) : Panel :=
  match write.span, write.mode with
  | .bytes _, mode =>
      let controller := panel.controller.receive write
      { panel with
        controller
        cursor := if mode = .command ∧ controller.command = memoryWrite then 0 else panel.cursor }
  | .framebuffer first count, .data => panel.take ((List.range' first count).map fbdata)
  | .row rowPixels, .data => panel.take rowPixels
  | .framebuffer .., .command | .row _, .command => panel

def receiveAll (fbdata : Nat → UInt16) (panel : Panel) (writes : List SpiWrite) : Panel :=
  writes.foldl (receive fbdata) panel

variable (fbdata : Nat → UInt16) (panel : Panel)

theorem receiveAll_append (first second : List SpiWrite) :
    panel.receiveAll fbdata (first ++ second) =
      (panel.receiveAll fbdata first).receiveAll fbdata second :=
  List.foldl_append

@[simp] theorem take_controller (words : List UInt16) :
    (panel.take words).controller = panel.controller := by
  rw [take]
  split <;> rfl

/-- Writes of pixels in a row are as good as one. -/
theorem take_append (first second : List UInt16) :
    (panel.take first).take second = panel.take (first ++ second) := by
  rw [take, take_controller]
  split
  · rename_i writing
    rw [take, take, if_pos writing, if_pos writing, Rectangle.fill_append, List.length_append,
      Nat.add_assoc]
  · rename_i notWriting
    rw [take, take, if_neg notWriting, if_neg notWriting]

theorem receive_controller (write : SpiWrite) :
    (panel.receive fbdata write).controller = panel.controller.receive write := by
  rw [receive, Controller.receive]
  cases write.span <;> cases write.mode <;> simp [take_controller]

theorem receiveAll_controller (writes : List SpiWrite) :
    (panel.receiveAll fbdata writes).controller = panel.controller.receiveAll writes := by
  induction writes generalizing panel with
  | nil => rfl
  | cons write writes induction =>
      have rest := induction (panel.receive fbdata write)
      rw [receive_controller] at rest
      exact rest

/-- Commands do not reach the memory. -/
theorem receiveAll_memory_of_bytes {writes : List SpiWrite}
    (onlyBytes : ∀ write ∈ writes, ∃ bytes, write.span = .bytes bytes) :
    (panel.receiveAll fbdata writes).memory = panel.memory := by
  induction writes generalizing panel with
  | nil => rfl
  | cons write writes induction =>
      rw [List.forall_mem_cons] at onlyBytes
      rcases onlyBytes.1 with ⟨bytes, span⟩
      have first : (panel.receive fbdata write).memory = panel.memory := by
        rw [receive, span]
      exact (induction (panel.receive fbdata write) onlyBytes.2).trans first

theorem commands_bytes (commands : List Command) :
    ∀ write ∈ commands.flatMap Command.writes, ∃ bytes, write.span = .bytes bytes := by
  intro write isWrite
  rcases List.mem_flatMap.mp isWrite with ⟨command, _, isWrite⟩
  rw [Command.writes] at isWrite
  rcases List.mem_cons.mp isWrite with rfl | isData
  · exact ⟨_, rfl⟩
  · split at isData
    · cases isData
    · rw [List.mem_singleton.mp isData]
      exact ⟨_, rfl⟩

/-- A panel that takes pixels from the beginning of a window on. -/
structure Awaits (panel : Panel) (window : Window) : Prop where
  command : panel.controller.command = memoryWrite
  cursor : window.rectangle.area ∣ panel.cursor
  window : panel.controller.window = window

/-- After a memory write command. -/
theorem awaits_memoryWrite (status : Status) :
    Awaits (panel.receive fbdata ⟨.command, .bytes [memoryWrite], status⟩)
      panel.controller.window where
  command := rfl
  window := rfl
  cursor := Nat.dvd_zero _

/-- Commands of which the last is the memory write command. -/
theorem commands_await (commands : List Command) :
    let after := panel.receiveAll fbdata
      ((commands ++ [Command.mk memoryWrite []]).flatMap Command.writes)
    Awaits after (commands.foldl Controller.execute panel.controller).window ∧
      after.cursor = 0 ∧ after.memory = panel.memory := by
  dsimp only
  have memory := receiveAll_memory_of_bytes fbdata panel
    (commands_bytes (commands ++ [Command.mk memoryWrite []]))
  rw [List.flatMap_append, receiveAll_append] at memory ⊢
  have addressed := receiveAll_controller fbdata panel (commands.flatMap Command.writes)
  rw [Controller.receiveAll_commands] at addressed
  rw [← addressed]
  exact ⟨awaits_memoryWrite fbdata _ .ok, rfl, memory⟩

variable {fbdata panel}

theorem Awaits.take {window : Window} (awaits : panel.Awaits window) (words : List UInt16) :
    panel.take words = { panel with
      cursor := panel.cursor + words.length
      memory := window.rectangle.fill panel.memory panel.cursor words } := by
  rw [Panel.take, if_pos awaits.command, awaits.window]

/-- A whole frame, after which the cursor is at the beginning again. -/
theorem Awaits.takeFrame {window : Window} (awaits : panel.Awaits window)
    {words : List UInt16} (whole : words.length = window.rectangle.area) :
    (panel.take words).Awaits window ∧
      ∀ row < window.rectangle.height, ∀ column < window.rectangle.width, ∀ word,
        words[row * window.rectangle.width + column]? = some word →
        (panel.take words).memory
          (window.columns.1 + column, window.pages.1 + row) = word := by
  rw [awaits.take]
  constructor
  · constructor
    case command => exact awaits.command
    case window => exact awaits.window
    case cursor =>
      rw [whole]
      exact Nat.dvd_add awaits.cursor (Nat.dvd_refl _)
  · intro row row_lt column column_lt word isWord
    exact Rectangle.fill_round whole awaits.cursor row_lt column_lt isWord

end Panel

/-- The window that `Init` leaves, in which frames appear. -/
def frameWindow (driver : DisplayDriver) : Window :=
  match driver with
  | .ili9341 config => ⟨(0, config.kMaxColumn.toNat), (0, config.kMaxRow.toNat)⟩
  | .st7735 config => ⟨(ST7735.colStart.toNat, config.maxColumn.toNat),
      (ST7735.rowStart.toNat, config.maxRow.toNat)⟩
  | .st7789 config => ⟨(0, config.kMaxColumn.toNat), (0, config.kMaxRow.toNat)⟩

/-- What a frame has to find: the window of `Init`, and on the ILI9341, whose
frames come without a command of their own, also the cursor. -/
def Ready (driver : DisplayDriver) (panel : Panel) : Prop :=
  match driver with
  | .ili9341 _ => panel.Awaits driver.frameWindow
  | .st7735 _ | .st7789 _ => panel.controller.window = driver.frameWindow

theorem ST7735.initWindow_eq (config : ST7735.Config) (controller : Controller)
    (mode : Mode) :
    (DisplayDriver.st7735 config).initWindow controller mode =
      (DisplayDriver.st7735 config).frameWindow := by
  have addresses : config.windowCommands = [
      ⟨columnAddressSet, addressBytes colStart config.maxColumn⟩,
      ⟨pageAddressSet, addressBytes rowStart config.maxRow⟩] := rfl
  have others : ∀ command ∈ displayCommands,
      command.command ≠ columnAddressSet ∧ command.command ≠ pageAddressSet := by decide
  have programmed := window_after_commands controller mode powerCommands colStart
    config.maxColumn rowStart config.maxRow others
  rw [← addresses] at programmed
  exact programmed

theorem initWindow_eq_frameWindow (driver : DisplayDriver) (controller : Controller)
    (mode : Mode) : driver.initWindow controller mode = driver.frameWindow := by
  cases driver with
  | ili9341 config => exact ILI9341.initWindow_eq config controller mode
  | st7735 config => exact ST7735.initWindow_eq config controller mode
  | st7789 config => exact ST7789.initWindow_eq config controller mode

theorem initialized_writes (driver : DisplayDriver) (mode : Mode) :
    (driver.initialized mode).bus.writes = driver.initCommands.flatMap Command.writes := by
  rw [initialized, init_eq]
  exact (SpiBus.idle_succeeds mode).writeCommands driver.initCommands

/-- The last command of the ILI9341's `Init` lets it take pixels. -/
theorem ILI9341.initCommands_last (config : ILI9341.Config) :
    ∃ commands, (DisplayDriver.ili9341 config).initCommands =
      commands ++ [Command.mk memoryWrite []] := by
  have last : Command.mk memoryWrite [] ∈
      (DisplayDriver.ili9341 config).initCommands.getLast? := by
    simp [initCommands, Config.displayCommands, cmdGram, memoryWrite]
  exact ⟨_, (List.dropLast_append_getLast? _ last).symm⟩

theorem ready_initialized (driver : DisplayDriver) (mode : Mode) (fbdata : Nat → UInt16)
    (panel : Panel) :
    driver.Ready (panel.receiveAll fbdata (driver.initialized mode).bus.writes) := by
  have window : (panel.receiveAll fbdata (driver.initialized mode).bus.writes).controller.window =
      driver.frameWindow := by
    rw [Panel.receiveAll_controller]
    exact initWindow_eq_frameWindow driver panel.controller mode
  cases driver with
  | ili9341 config =>
      rw [initialized_writes] at window ⊢
      rcases ILI9341.initCommands_last config with ⟨commands, last⟩
      rw [last] at window ⊢
      have awaits := (panel.commands_await fbdata commands).1
      exact ⟨awaits.command, (awaits.window.symm.trans window) ▸ awaits.cursor, window⟩
  | st7735 config => exact window
  | st7789 config => exact window

end PigweedExperimental.DisplayDriver
