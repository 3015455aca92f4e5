import PigweedExperimental.DisplayDriver.DisplayDriver

namespace PigweedExperimental.DisplayDriver

/-! # The panel controller

The other end of the connection, as far as the address window goes. A command
byte selects what the data after it means; an address command takes two
addresses of two bytes each, high byte first.
-/

/-- The first and last column and page of an address window. -/
structure Window where
  columns : Nat × Nat
  pages : Nat × Nat
  deriving DecidableEq, Repr

structure Controller where
  command : UInt8
  window : Window
  deriving DecidableEq, Repr

def address (high low : UInt8) : Nat :=
  256 * high.toNat + low.toNat

def columnAddressSet : UInt8 := 0x2A

def pageAddressSet : UInt8 := 0x2B

def memoryWrite : UInt8 := 0x2C

namespace Controller

/-- The data of the current command. -/
def program (controller : Controller) (commandData : List UInt8) : Controller :=
  match commandData with
  | [firstHigh, firstLow, lastHigh, lastLow] =>
      let addresses := (address firstHigh firstLow, address lastHigh lastLow)
      if controller.command = columnAddressSet then
        { controller with window := { controller.window with columns := addresses } }
      else if controller.command = pageAddressSet then
        { controller with window := { controller.window with pages := addresses } }
      else
        controller
  | _ => controller

def receive (controller : Controller) (write : SpiWrite) : Controller :=
  match write.span, write.mode with
  | .bytes bytes, .command => { controller with command := bytes.getLastD controller.command }
  | .bytes bytes, .data => controller.program bytes
  | .framebuffer .., _ | .row _, _ => controller

def receiveAll (controller : Controller) (writes : List SpiWrite) : Controller :=
  writes.foldl receive controller

/-- A command with its data. -/
def execute (controller : Controller) (command : Command) : Controller :=
  { controller with command := command.command }.program command.commandData

/-- The windows in force at the writes that send pixels of a framebuffer. -/
def frameWindows (controller : Controller) : List SpiWrite → List Window
  | [] => []
  | write :: writes =>
      let later := (controller.receive write).frameWindows writes
      match write.span with
      | .framebuffer .. => controller.window :: later
      | .bytes _ | .row _ => later

theorem receiveAll_append (controller : Controller) (first second : List SpiWrite) :
    controller.receiveAll (first ++ second) =
      (controller.receiveAll first).receiveAll second :=
  List.foldl_append

theorem frameWindows_append (controller : Controller) (first second : List SpiWrite) :
    controller.frameWindows (first ++ second) =
      controller.frameWindows first ++
        (controller.receiveAll first).frameWindows second := by
  induction first generalizing controller with
  | nil => rfl
  | cons write writes induction =>
      have rest := induction (controller.receive write)
      rw [List.cons_append, frameWindows, frameWindows, rest]
      cases write.span <;> rfl

theorem receiveAll_command (controller : Controller) (command : Command) :
    controller.receiveAll command.writes = controller.execute command := by
  rw [Command.writes]
  split
  · rename_i noData
    rw [execute, noData]
    rfl
  · rfl

/-- Commands one after another, each as a whole. -/
theorem receiveAll_commands (commands : List Command) (controller : Controller) :
    controller.receiveAll (commands.flatMap Command.writes) =
      commands.foldl execute controller := by
  induction commands generalizing controller with
  | nil => rfl
  | cons command commands induction =>
      rw [List.flatMap_cons, receiveAll_append, receiveAll_command, induction]
      rfl

/-- Only the address commands touch the window. -/
theorem execute_window_of_other (controller : Controller) {command : Command}
    (notColumn : command.command ≠ columnAddressSet)
    (notPage : command.command ≠ pageAddressSet) :
    (controller.execute command).window = controller.window := by
  rw [execute, program.eq_def]
  split
  · rw [if_neg notColumn, if_neg notPage]
  · rfl

theorem foldl_execute_window_of_other {commands : List Command}
    (others : ∀ command ∈ commands,
      command.command ≠ columnAddressSet ∧ command.command ≠ pageAddressSet)
    (controller : Controller) :
    (commands.foldl execute controller).window = controller.window := by
  induction commands generalizing controller with
  | nil => rfl
  | cons command commands induction =>
      have first := others command List.mem_cons_self
      have rest := induction (fun later isLater => others later (List.mem_cons_of_mem _ isLater))
        (controller.execute command)
      exact rest.trans (execute_window_of_other controller first.1 first.2)

theorem address_addressBytes (val : UInt16) :
    address (highByte val) (lowByte val) = val.toNat :=
  highByte_lowByte val

/-- Both address commands together set the whole window. -/
theorem foldl_execute_addresses (controller : Controller)
    (firstColumn lastColumn firstPage lastPage : UInt16) :
    ([⟨columnAddressSet, addressBytes firstColumn lastColumn⟩,
        ⟨pageAddressSet, addressBytes firstPage lastPage⟩].foldl execute controller).window =
      ⟨(firstColumn.toNat, lastColumn.toNat), (firstPage.toNat, lastPage.toNat)⟩ := by
  simp only [← address_addressBytes]
  rfl

/-- The write leaves the window alone: it is a command byte, or it is pixels. -/
def KeepsWindow (write : SpiWrite) : Prop :=
  write.mode = .command ∨ ∀ bytes, write.span ≠ .bytes bytes

theorem receive_window_of_keeps (controller : Controller) {write : SpiWrite}
    (keeps : KeepsWindow write) : (controller.receive write).window = controller.window := by
  rw [receive]
  rcases keeps with command | pixels
  · rw [command]
    cases write.span <;> rfl
  · cases span : write.span with
    | bytes bytes => exact absurd span (pixels bytes)
    | framebuffer => rfl
    | row => rfl

theorem receiveAll_window_of_keeps {writes : List SpiWrite}
    (keeps : ∀ write ∈ writes, KeepsWindow write) (controller : Controller) :
    (controller.receiveAll writes).window = controller.window := by
  induction writes generalizing controller with
  | nil => rfl
  | cons write writes induction =>
      have rest := induction (fun later isLater => keeps later (List.mem_cons_of_mem _ isLater))
        (controller.receive write)
      exact rest.trans (receive_window_of_keeps controller (keeps write List.mem_cons_self))

/-- While the window is left alone, all pixels of a framebuffer are sent to the
same one. -/
theorem mem_frameWindows_of_keeps {writes : List SpiWrite}
    (keeps : ∀ write ∈ writes, KeepsWindow write) (controller : Controller) {window : Window} :
    window ∈ controller.frameWindows writes ↔
      window = controller.window ∧ ∃ write ∈ writes, ∃ first count,
        write.span = .framebuffer first count := by
  induction writes generalizing controller with
  | nil => exact iff_of_false List.not_mem_nil fun none => by simp at none
  | cons write writes induction =>
      have rest := induction (fun later isLater => keeps later (List.mem_cons_of_mem _ isLater))
        (controller.receive write)
      rw [receive_window_of_keeps controller (keeps write List.mem_cons_self)] at rest
      simp only [frameWindows, List.mem_cons, exists_eq_or_imp]
      cases span : write.span with
      | framebuffer first count =>
          dsimp only
          rw [List.mem_cons, rest]
          constructor
          · intro sent
            exact ⟨sent.elim id And.left, .inl ⟨first, count, rfl⟩⟩
          · exact fun sent => .inl sent.1
      | bytes bytes =>
          dsimp only
          rw [rest]
          simp
      | row rowPixels =>
          dsimp only
          rw [rest]
          simp

/-- Writes without pixels of a framebuffer show no window. -/
theorem frameWindows_eq_nil {writes : List SpiWrite}
    (noPixels : ∀ write ∈ writes, ∀ first count, write.span ≠ .framebuffer first count)
    (controller : Controller) : controller.frameWindows writes = [] := by
  induction writes generalizing controller with
  | nil => rfl
  | cons write writes induction =>
      have rest := induction
        (fun later isLater => noPixels later (List.mem_cons_of_mem _ isLater))
        (controller.receive write)
      rw [frameWindows]
      cases span : write.span with
      | framebuffer first count =>
          exact absurd span (noPixels write List.mem_cons_self first count)
      | bytes => exact rest
      | row => exact rest

theorem command_noPixels {command : Command} {write : SpiWrite}
    (isWrite : write ∈ command.writes) (first count : Nat) :
    write.span ≠ .framebuffer first count := by
  rw [Command.writes] at isWrite
  split at isWrite
  · rw [List.mem_singleton.mp isWrite]
    exact Span.noConfusion
  · rcases List.mem_cons.mp isWrite with rfl | isData
    · exact Span.noConfusion
    · rw [List.mem_singleton.mp isData]
      exact Span.noConfusion

theorem frameWindows_commands (controller : Controller) (commands : List Command) :
    controller.frameWindows (commands.flatMap Command.writes) = [] := by
  apply frameWindows_eq_nil
  intro write isWrite
  rcases List.mem_flatMap.mp isWrite with ⟨command, _, isWrite⟩
  exact command_noPixels isWrite

end Controller

/-- A row write programs its own window. -/
theorem receiveAll_rowCommands (controller : Controller) (colIdx : UInt16)
    (write : RowWrite) :
    (controller.receiveAll ((rowCommands ⟨columnAddressSet, pageAddressSet, memoryWrite⟩ colIdx
        write).flatMap Command.writes ++ [⟨.data, .row write.rowPixels, .ok⟩])).window =
      ⟨(write.colIdx.toNat, colIdx.toNat), (write.rowIdx.toNat, write.rowIdx.toNat)⟩ := by
  have pixelsKeep : Controller.KeepsWindow ⟨.data, .row write.rowPixels, .ok⟩ :=
    .inr fun _ => Span.noConfusion
  have addresses := controller.foldl_execute_addresses write.colIdx colIdx write.rowIdx
    write.rowIdx
  rw [Controller.receiveAll_append, Controller.receiveAll_commands,
    Controller.receiveAll_window_of_keeps (List.forall_mem_singleton.mpr pixelsKeep)]
  rw [← addresses]
  have notColumn : (Command.mk memoryWrite []).command ≠ columnAddressSet := by decide
  have notPage : (Command.mk memoryWrite []).command ≠ pageAddressSet := by decide
  exact Controller.execute_window_of_other _ notColumn notPage

theorem frameWindows_rowCommands (controller : Controller) (commands : AddressCommands)
    (colIdx : UInt16) (write : RowWrite) :
    controller.frameWindows ((rowCommands commands colIdx write).flatMap Command.writes ++
      [⟨.data, .row write.rowPixels, .ok⟩]) = [] := by
  rw [Controller.frameWindows_append, Controller.frameWindows_commands]
  rfl

/-- The window after commands of which the address commands are not followed by
others. -/
theorem window_after_commands (controller : Controller) (mode : Mode) (before : List Command)
    {after : List Command} (firstColumn lastColumn firstPage lastPage : UInt16)
    (others : ∀ command ∈ after,
      command.command ≠ columnAddressSet ∧ command.command ≠ pageAddressSet) :
    (controller.receiveAll ((SpiBus.idle mode).writeCommands (before ++ [
        ⟨columnAddressSet, addressBytes firstColumn lastColumn⟩,
        ⟨pageAddressSet, addressBytes firstPage lastPage⟩] ++ after)).writes).window =
      ⟨(firstColumn.toNat, lastColumn.toNat), (firstPage.toNat, lastPage.toNat)⟩ := by
  rw [(SpiBus.idle_succeeds mode).writeCommands, Controller.receiveAll_append,
    Controller.receiveAll_commands, List.foldl_append, List.foldl_append,
    Controller.foldl_execute_window_of_other others]
  exact Controller.foldl_execute_addresses _ _ _ _ _

end PigweedExperimental.DisplayDriver
