import Mathlib.Data.List.Basic
import PigweedExperimental.Status

namespace PigweedExperimental.DisplayDriver

/-! # The SPI connection of a panel controller

A driver talks to its controller over an 8-bit and a 16-bit SPI device and the
D/CX pin. What it does there is a sequence of writes, whose outcomes come from
outside.
-/

/-- The level of the D/CX pin. -/
inductive Mode where
  | data
  | command
  deriving DecidableEq, Repr

/-- What a write is handed. A span of the framebuffer is a pointer and a count
of units, as the device gets it: nothing says that the framebuffer is that
long. -/
inductive Span where
  | bytes (bytes : List UInt8)
  | framebuffer (first count : Nat)
  | row (rowPixels : List UInt16)
  deriving DecidableEq, Repr

/-- A pixel of the framebuffer lies in the span. -/
def Span.Reads (span : Span) (index : Nat) : Prop :=
  match span with
  | .framebuffer first count => first ≤ index ∧ index < first + count
  | .bytes _ | .row _ => False

structure SpiWrite where
  mode : Mode
  span : Span
  status : Status
  deriving DecidableEq, Repr

/-- The connection, with the writes made so far. `outcome` has the status of
every write by its number. -/
structure SpiBus where
  outcome : Nat → Status
  mode : Mode
  writes : List SpiWrite

/-- A command and its data. -/
structure Command where
  command : UInt8
  commandData : List UInt8
  deriving DecidableEq, Repr

namespace SpiBus

/-- A connection that has made no writes and fails none. -/
def idle (mode : Mode) : SpiBus where
  outcome := fun _ => .ok
  mode
  writes := []

/-- The status of the next write. -/
def nextOutcome (bus : SpiBus) : Status :=
  bus.outcome bus.writes.length

def setMode (bus : SpiBus) (mode : Mode) : SpiBus :=
  { bus with mode }

/-- `Transaction::Write` -/
def write (bus : SpiBus) (span : Span) : Status × SpiBus :=
  (bus.nextOutcome, { bus with writes := bus.writes ++ [⟨bus.mode, span, bus.nextOutcome⟩] })

def writeCommand (bus : SpiBus) (command : Command) : Status × SpiBus :=
  let sent := (bus.setMode .command).write (.bytes [command.command])
  if sent.1 ≠ .ok then
    sent
  else if command.commandData = [] then
    (.ok, sent.2.setMode .data)
  else
    (sent.2.setMode .data).write (.bytes command.commandData)

/-- A row of `WriteCommand` statements that drop the status. -/
def writeCommands (bus : SpiBus) (commands : List Command) : SpiBus :=
  commands.foldl (fun bus command => (bus.writeCommand command).2) bus

/-- The writes since an earlier state of the bus. -/
def since (bus earlier : SpiBus) : List SpiWrite :=
  bus.writes.drop earlier.writes.length

/-- Every write succeeds. -/
def Succeeds (bus : SpiBus) : Prop :=
  ∀ number, bus.outcome number = .ok

variable (bus : SpiBus)

@[simp] theorem write_fst (span : Span) : (bus.write span).1 = bus.nextOutcome := rfl

@[simp] theorem write_writes (span : Span) :
    (bus.write span).2.writes = bus.writes ++ [⟨bus.mode, span, bus.nextOutcome⟩] := rfl

@[simp] theorem write_outcome (span : Span) : (bus.write span).2.outcome = bus.outcome := rfl

@[simp] theorem setMode_writes (mode : Mode) : (bus.setMode mode).writes = bus.writes := rfl

theorem since_of_writes {later : SpiBus} {sent : List SpiWrite}
    (writes : later.writes = bus.writes ++ sent) : later.since bus = sent := by
  rw [since, writes, List.drop_left]

@[simp] theorem writeCommand_outcome (command : Command) :
    (bus.writeCommand command).2.outcome = bus.outcome := by
  rw [writeCommand]
  split
  · rfl
  · split <;> rfl

/-- A command without data is one write. -/
theorem writeCommand_noData (command : UInt8) :
    (bus.writeCommand ⟨command, []⟩).1 = bus.nextOutcome ∧
      (bus.writeCommand ⟨command, []⟩).2.writes =
        bus.writes ++ [⟨.command, .bytes [command], bus.nextOutcome⟩] := by
  rw [writeCommand]
  split
  · exact ⟨rfl, rfl⟩
  · rename_i sent
    exact ⟨(not_not.mp sent).symm, rfl⟩

theorem write_after_noData (command : UInt8) (span : Span) :
    ((bus.writeCommand ⟨command, []⟩).2.write span).2.writes =
      bus.writes ++ ([⟨.command, .bytes [command], bus.nextOutcome⟩] ++
        [⟨(bus.writeCommand ⟨command, []⟩).2.mode, span,
          (bus.writeCommand ⟨command, []⟩).2.nextOutcome⟩]) := by
  rw [write_writes, (bus.writeCommand_noData command).2, List.append_assoc]

end SpiBus

/-- The writes of a command on a bus where they succeed. -/
def Command.writes (command : Command) : List SpiWrite :=
  ⟨.command, .bytes [command.command], .ok⟩ ::
    if command.commandData = [] then []
    else [⟨.data, .bytes command.commandData, .ok⟩]

namespace SpiBus

variable {bus : SpiBus}

theorem idle_succeeds (mode : Mode) : (idle mode).Succeeds :=
  fun _ => rfl

theorem Succeeds.nextOutcome (succeeds : bus.Succeeds) : bus.nextOutcome = .ok :=
  succeeds _

theorem Succeeds.of_outcome {other : SpiBus} (succeeds : bus.Succeeds)
    (same : other.outcome = bus.outcome) : other.Succeeds := by
  intro number
  rw [same]
  exact succeeds number

theorem Succeeds.write (succeeds : bus.Succeeds) (span : Span) :
    (bus.write span).1 = .ok ∧
      (bus.write span).2.writes = bus.writes ++ [⟨bus.mode, span, .ok⟩] := by
  rw [write_fst, write_writes, succeeds.nextOutcome]
  exact ⟨rfl, rfl⟩

theorem Succeeds.writeCommand (succeeds : bus.Succeeds) (command : Command) :
    (bus.writeCommand command).1 = .ok ∧ (bus.writeCommand command).2.mode = .data ∧
      (bus.writeCommand command).2.writes = bus.writes ++ command.writes := by
  have atCommand : (bus.setMode .command).Succeeds := succeeds
  have commandSent := atCommand.write (.bytes [command.command])
  rw [SpiBus.writeCommand, Command.writes]
  rw [if_neg (not_not.mpr commandSent.1)]
  split
  · exact ⟨rfl, rfl, commandSent.2⟩
  · have atData : (((bus.setMode .command).write (.bytes [command.command])).2.setMode
        .data).Succeeds := succeeds
    have dataSent := atData.write (.bytes command.commandData)
    refine ⟨dataSent.1, rfl, ?_⟩
    rw [dataSent.2, setMode_writes, commandSent.2, List.append_assoc]
    rfl

theorem writeCommands_outcome (commands : List Command) (bus : SpiBus) :
    (bus.writeCommands commands).outcome = bus.outcome := by
  induction commands generalizing bus with
  | nil => rfl
  | cons command commands induction =>
      exact (induction (bus.writeCommand command).2).trans (bus.writeCommand_outcome command)

theorem Succeeds.writeCommands (commands : List Command) {bus : SpiBus}
    (succeeds : bus.Succeeds) :
    (bus.writeCommands commands).writes = bus.writes ++ commands.flatMap Command.writes := by
  induction commands generalizing bus with
  | nil => exact (List.append_nil _).symm
  | cons command commands induction =>
      have first := (succeeds.writeCommand command).2.2
      have rest := induction (succeeds.of_outcome (bus.writeCommand_outcome command))
      rw [first, List.append_assoc, ← List.flatMap_cons] at rest
      exact rest

end SpiBus

end PigweedExperimental.DisplayDriver
