import PigweedExperimental.DisplayDriver.DisplayDriver

namespace PigweedExperimental.DisplayDriver

/-! # Writes that fail

A command is two writes, of which the second is made only after the first has
succeeded. Here the writes of a driver are followed through every pattern of
outcomes, and its status is compared with theirs.
-/

/-- The writes of a command whose first one has that number. -/
def Command.sent (command : Command) (outcome : Nat → Status) (number : Nat) : List SpiWrite :=
  ⟨.command, .bytes [command.command], outcome number⟩ ::
    if outcome number = .ok ∧ command.commandData ≠ [] then
      [⟨.data, .bytes command.commandData, outcome (number + 1)⟩]
    else
      []

/-- The writes of commands one after another, whatever becomes of them. -/
def commandsSent (outcome : Nat → Status) : Nat → List Command → List SpiWrite
  | _, [] => []
  | number, command :: commands =>
      command.sent outcome number ++
        commandsSent outcome (number + (command.sent outcome number).length) commands

/-- How many writes commands make when none of them fails. -/
def writeCount (commands : List Command) : Nat := (commands.flatMap Command.writes).length

def AllOk (writes : List SpiWrite) : Prop := ∀ write ∈ writes, write.status = .ok

section Commands

variable {outcome : Nat → Status} {number : Nat}

theorem nextOutcome_write (bus : SpiBus) (span : Span) :
    (bus.write span).2.nextOutcome = bus.outcome (bus.writes.length + 1) := by
  rw [SpiBus.nextOutcome, SpiBus.write_outcome, SpiBus.write_writes, List.length_append]
  rfl

theorem nextOutcome_setMode (bus : SpiBus) (mode : Mode) :
    (bus.setMode mode).nextOutcome = bus.nextOutcome := rfl

theorem writeCommand_writes (bus : SpiBus) (command : Command) :
    (bus.writeCommand command).2.writes =
      bus.writes ++ command.sent bus.outcome bus.writes.length := by
  rw [SpiBus.writeCommand, Command.sent]
  split
  case isTrue failed =>
    rw [if_neg fun both => failed both.1]
    rfl
  case isFalse sent =>
    have sentOk : bus.outcome bus.writes.length = .ok := not_not.mp sent
    split
    case isTrue noData =>
      rw [if_neg fun both => both.2 noData]
      rfl
    case isFalse hasData =>
      rw [if_pos ⟨sentOk, hasData⟩, SpiBus.write_writes, nextOutcome_setMode,
        nextOutcome_write, SpiBus.setMode_writes, SpiBus.write_writes, List.append_assoc]
      rfl

theorem writeCommands_writes (commands : List Command) (bus : SpiBus) :
    (bus.writeCommands commands).writes =
      bus.writes ++ commandsSent bus.outcome bus.writes.length commands := by
  induction commands generalizing bus with
  | nil => exact (List.append_nil _).symm
  | cons command commands induction =>
      have rest := induction (bus.writeCommand command).2
      rw [writeCommand_writes, bus.writeCommand_outcome, List.length_append,
        List.append_assoc] at rest
      exact rest

theorem writeCount_cons (command : Command) (commands : List Command) :
    writeCount (command :: commands) = command.writes.length + writeCount commands := by
  rw [writeCount, List.flatMap_cons, List.length_append]
  rfl

/-- A command whose writes succeed makes all of them. -/
theorem allOk_sent_iff (command : Command) :
    AllOk (command.sent outcome number) ↔
      ∀ offset < command.writes.length, outcome (number + offset) = .ok := by
  rw [AllOk, Command.sent, Command.writes, List.forall_mem_cons]
  dsimp only
  by_cases noData : command.commandData = []
  case pos =>
    rw [if_neg fun both => both.2 noData, if_pos noData]
    simp
  case neg =>
    rw [if_neg noData]
    simp only [List.length_cons, List.length_nil, Nat.forall_lt_succ_right, Nat.not_lt_zero]
    constructor
    · intro both
      rw [if_pos ⟨both.1, noData⟩, List.forall_mem_singleton] at both
      exact ⟨⟨fun _ impossible => impossible.elim, both.1⟩, both.2⟩
    · intro both
      rw [if_pos ⟨both.1.2, noData⟩, List.forall_mem_singleton]
      exact ⟨both.1.2, both.2⟩

theorem length_sent (command : Command) (allOk : AllOk (command.sent outcome number)) :
    (command.sent outcome number).length = command.writes.length := by
  have first := (List.forall_mem_cons.mp allOk).1
  dsimp only at first
  rw [Command.sent, Command.writes]
  by_cases noData : command.commandData = []
  case pos => rw [if_neg fun both => both.2 noData, if_pos noData]; rfl
  case neg => rw [if_pos ⟨first, noData⟩, if_neg noData]; rfl

/-- All writes that are made succeed exactly if all writes that are to be made would. -/
theorem allOk_commandsSent_iff (commands : List Command) :
    AllOk (commandsSent outcome number commands) ↔
      ∀ offset < writeCount commands, outcome (number + offset) = .ok := by
  induction commands generalizing number with
  | nil => exact iff_of_true nofun nofun
  | cons command commands induction =>
      rw [commandsSent, AllOk, List.forall_mem_append, writeCount_cons]
      constructor
      · rintro ⟨first, rest⟩ offset offset_lt
        by_cases inFirst : offset < command.writes.length
        case pos => exact (allOk_sent_iff command).mp first offset inFirst
        case neg =>
          rw [length_sent command first] at rest
          have later := induction.mp rest (offset - command.writes.length) (by omega)
          rw [show number + command.writes.length + (offset - command.writes.length) =
            number + offset by omega] at later
          exact later
      · intro all
        have first : AllOk (command.sent outcome number) :=
          (allOk_sent_iff command).mpr fun offset inFirst => all offset (by omega)
        refine ⟨first, ?_⟩
        rw [length_sent command first]
        apply induction.mpr
        intro offset offset_lt
        rw [Nat.add_assoc]
        exact all _ (by omega)

end Commands

/-- The commands of `Init`. -/
def initCommands (driver : DisplayDriver) : List Command :=
  match driver with
  | .ili9341 config => config.powerCommands ++ config.windowCommands ++ config.displayCommands
  | .st7735 config => ST7735.powerCommands ++ config.windowCommands ++ ST7735.displayCommands
  | .st7789 config => ST7789.powerCommands ++ config.windowCommands ++ config.displayCommands

/-- `Init` returns `OK` only if every write it has made succeeded. -/
def InitReports (driver : DisplayDriver) (bus : SpiBus) : Prop :=
  (driver.init bus).1 = .ok → AllOk ((driver.init bus).2.since bus)

theorem init_eq (driver : DisplayDriver) (bus : SpiBus) :
    driver.init bus = (.ok, bus.writeCommands driver.initCommands) := by
  cases driver <;> rfl

/-- `Init` drops the statuses of its commands and returns `OK` in any case. -/
theorem initReports_iff (driver : DisplayDriver) (bus : SpiBus) :
    driver.InitReports bus ↔
      ∀ offset < writeCount driver.initCommands,
        bus.outcome (bus.writes.length + offset) = .ok := by
  rw [InitReports, init_eq, imp_iff_right rfl,
    bus.since_of_writes (writeCommands_writes driver.initCommands bus)]
  exact allOk_commandsSent_iff driver.initCommands

section Rows

variable {bus : SpiBus} {write : RowWrite} {result : Status × SpiBus}

/-- The two address commands of a row write. -/
def addressing (commands : AddressCommands) (maxColIdx : UInt16) (write : RowWrite) :
    List Command := [
  ⟨commands.columnAddress, addressBytes write.colIdx maxColIdx⟩,
  ⟨commands.pageAddress, addressBytes write.rowIdx write.rowIdx⟩]

/-- How many writes the address commands make: the data only after its command. -/
def addressWrites (outcome : Nat → Status) (number : Nat) : Nat :=
  let column := if outcome number = .ok then 2 else 1
  column + if outcome (number + column) = .ok then 2 else 1

/-- A row write from its memory write command on. -/
def pixelsSent (commands : AddressCommands) (write : RowWrite) (outcome : Nat → Status)
    (number : Nat) : List SpiWrite :=
  ⟨.command, .bytes [commands.memoryWrite], outcome number⟩ ::
    if outcome number = .ok then [⟨.data, .row write.rowPixels, outcome (number + 1)⟩] else []

/-- `WriteRow` returns `OK` only if every write succeeded, and sends no pixels
once the write of a command has failed. -/
structure RowReports (bus : SpiBus) (result : Status × SpiBus) : Prop where
  allOk : result.1 = .ok → AllOk (result.2.since bus)
  noPixels : ∀ failed ∈ result.2.since bus, ∀ bytes, failed.span = .bytes bytes →
    failed.status ≠ .ok → ∀ sent ∈ result.2.since bus, ∀ rowPixels, sent.span ≠ .row rowPixels

theorem length_addressSent (command : UInt8) (first last : UInt16) (outcome : Nat → Status)
    (number : Nat) :
    (Command.sent ⟨command, addressBytes first last⟩ outcome number).length =
      if outcome number = .ok then 2 else 1 := by
  rw [Command.sent]
  by_cases ok : outcome number = .ok
  case pos => rw [if_pos ⟨ok, List.cons_ne_nil _ _⟩, if_pos ok]; rfl
  case neg => rw [if_neg fun both => ok both.1, if_neg ok]; rfl

theorem length_addressing (commands : AddressCommands) (maxColIdx : UInt16) (write : RowWrite)
    (outcome : Nat → Status) (number : Nat) :
    (commandsSent outcome number (addressing commands maxColIdx write)).length =
      addressWrites outcome number := by
  rw [addressing, commandsSent, commandsSent, commandsSent, List.append_nil, List.length_append,
    length_addressSent, length_addressSent]
  rfl

theorem pixels_sent (commands : AddressCommands) (write : RowWrite) (addressed : SpiBus)
    (pixels : (let commanded := addressed.writeCommand ⟨commands.memoryWrite, []⟩
      if commanded.1 ≠ .ok then commanded else commanded.2.write (.row write.rowPixels)) =
        result) :
    result.2.writes = addressed.writes ++
        pixelsSent commands write addressed.outcome addressed.writes.length ∧
      (result.1 = .ok ↔
        AllOk (pixelsSent commands write addressed.outcome addressed.writes.length)) := by
  have sent := addressed.writeCommand_noData commands.memoryWrite
  rw [pixelsSent, AllOk, List.forall_mem_cons]
  dsimp only at pixels ⊢
  split at pixels
  case isTrue failed =>
    have notOk : addressed.outcome addressed.writes.length ≠ .ok := by
      rw [sent.1] at failed
      exact failed
    subst pixels
    rw [if_neg notOk, sent.2]
    exact ⟨rfl, iff_of_false failed fun both => notOk both.1⟩
  case isFalse ok =>
    have commandOk : addressed.outcome addressed.writes.length = .ok := by
      rw [not_not, sent.1] at ok
      exact ok
    have commanded : addressed.writeCommand ⟨commands.memoryWrite, []⟩ =
        (.ok, (((addressed.setMode .command).write (.bytes [commands.memoryWrite])).2.setMode
          .data)) := by
      have noFailure : ¬((addressed.setMode .command).write
          (.bytes [commands.memoryWrite])).1 ≠ .ok := not_not.mpr commandOk
      rw [SpiBus.writeCommand, if_neg noFailure]
      rfl
    subst pixels
    rw [if_pos commandOk, commanded, List.forall_mem_singleton, and_iff_right commandOk,
      SpiBus.write_fst, SpiBus.write_writes, nextOutcome_setMode, nextOutcome_write,
      SpiBus.setMode_writes, SpiBus.write_writes, List.append_assoc]
    refine ⟨?_, Iff.rfl⟩
    rw [nextOutcome_setMode, SpiBus.nextOutcome, commandOk]
    rfl

/-- The writes of a row, and its status, for every pattern of outcomes. -/
theorem writeAddressedRow_sent {commands : AddressCommands} {lastColumn : Int}
    (written : writeAddressedRow commands lastColumn bus write = .ok result) :
    ∃ colIdx, maxColIdx lastColumn write = .ok colIdx ∧
      result.2.since bus =
        commandsSent bus.outcome bus.writes.length (addressing commands colIdx write) ++
          pixelsSent commands write bus.outcome
            (bus.writes.length + addressWrites bus.outcome bus.writes.length) ∧
      (result.1 = .ok ↔ AllOk (pixelsSent commands write bus.outcome
        (bus.writes.length + addressWrites bus.outcome bus.writes.length))) := by
  cases computed : maxColIdx lastColumn write with
  | error fault =>
      rw [writeAddressedRow, computed] at written
      cases written
  | ok colIdx =>
      refine ⟨colIdx, rfl, ?_⟩
      rw [writeAddressedRow, computed] at written
      simp only [bind, Except.bind, pure, Except.pure] at written
      have addressed : (bus.writeCommands (addressing commands colIdx write)).writes =
          bus.writes ++ commandsSent bus.outcome bus.writes.length
            (addressing commands colIdx write) := writeCommands_writes _ bus
      have sameOutcome : (bus.writeCommands (addressing commands colIdx write)).outcome =
          bus.outcome := SpiBus.writeCommands_outcome _ bus
      have sent := @pixels_sent result commands write
        (bus.writeCommands (addressing commands colIdx write)) (by
          dsimp only [addressing]
          split at written
          case isTrue failed =>
            rw [if_pos failed]
            exact Except.ok.inj written
          case isFalse ok =>
            rw [if_neg ok]
            exact Except.ok.inj written)
      rw [sameOutcome, addressed, List.length_append, length_addressing, List.append_assoc] at sent
      exact ⟨bus.since_of_writes sent.1, sent.2⟩

theorem bytes_of_commandsSent {outcome : Nat → Status} {commands : List Command} {number : Nat}
    {sent : SpiWrite} (isSent : sent ∈ commandsSent outcome number commands) :
    ∃ bytes, sent.span = .bytes bytes := by
  induction commands generalizing number with
  | nil => cases isSent
  | cons command commands induction =>
      rw [commandsSent, List.mem_append, Command.sent, List.mem_cons] at isSent
      rcases isSent with (rfl | isData) | later
      · exact ⟨_, rfl⟩
      · split at isData
        · rw [List.mem_singleton.mp isData]
          exact ⟨_, rfl⟩
        · cases isData
      · exact induction later

/-- Without a successful memory write command there are no pixels. -/
theorem bytes_of_pixelsSent {commands : AddressCommands} {outcome : Nat → Status} {number : Nat}
    (failed : outcome number ≠ .ok) {sent : SpiWrite}
    (isSent : sent ∈ pixelsSent commands write outcome number) :
    ∃ bytes, sent.span = .bytes bytes := by
  rw [pixelsSent, if_neg failed, List.mem_singleton] at isSent
  rw [isSent]
  exact ⟨_, rfl⟩

/-- Of the writes from the memory write command on, only the command has bytes. -/
theorem failed_of_pixelsSent {commands : AddressCommands} {outcome : Nat → Status} {number : Nat}
    {sent : SpiWrite} (isSent : sent ∈ pixelsSent commands write outcome number)
    {bytes : List UInt8} (isBytes : sent.span = .bytes bytes) (notOk : sent.status ≠ .ok) :
    outcome number ≠ .ok := by
  rw [pixelsSent, List.mem_cons] at isSent
  rcases isSent with rfl | isData
  · exact notOk
  · split at isData
    · rw [List.mem_singleton.mp isData] at isBytes
      cases isBytes
    · cases isData

theorem row_mem_pixelsSent {commands : AddressCommands} {outcome : Nat → Status} {number : Nat}
    (commanded : outcome number = .ok) :
    ⟨.data, .row write.rowPixels, outcome (number + 1)⟩ ∈
      pixelsSent commands write outcome number := by
  rw [pixelsSent, if_pos commanded]
  exact List.mem_cons_of_mem _ (List.mem_singleton_self _)

/-- A failed address command goes unnoticed exactly if the memory write command
after it succeeds. -/
theorem rowReports_of_sent_iff {commands : AddressCommands} {addresses : List Command}
    {first number : Nat}
    (since : result.2.since bus = commandsSent bus.outcome first addresses ++
      pixelsSent commands write bus.outcome number)
    (ok_iff : result.1 = .ok ↔ AllOk (pixelsSent commands write bus.outcome number)) :
    RowReports bus result ↔
      AllOk (commandsSent bus.outcome first addresses) ∨ bus.outcome number ≠ .ok := by
  constructor
  · intro reports
    by_cases commanded : bus.outcome number = .ok
    case neg => exact .inr commanded
    case pos =>
      left
      intro address isAddress
      by_contra failed
      rcases bytes_of_commandsSent isAddress with ⟨bytes, isBytes⟩
      have noPixels := reports.noPixels
      rw [since] at noPixels
      exact noPixels address (List.mem_append_left _ isAddress) bytes isBytes failed _
        (List.mem_append_right _ (row_mem_pixelsSent commanded)) write.rowPixels rfl
  · intro either
    refine ⟨?_, ?_⟩
    · intro isOk
      have allSent := ok_iff.mp isOk
      rw [since, AllOk, List.forall_mem_append]
      refine ⟨either.resolve_right fun failed => ?_, allSent⟩
      exact failed (List.forall_mem_cons.mp allSent).1
    · intro failed isFailed bytes isBytes notOk sent isSent rowPixels isRow
      rw [since, List.mem_append] at isFailed isSent
      have commandFailed : bus.outcome number ≠ .ok := by
        rcases either with addressed | commandFailed
        case inr => exact commandFailed
        case inl =>
          rcases isFailed with isAddress | isPixels
          · exact absurd (addressed failed isAddress) notOk
          · exact failed_of_pixelsSent isPixels isBytes notOk
      have noRow : ∃ bytes, sent.span = .bytes bytes := by
        rcases isSent with isAddress | isPixels
        · exact bytes_of_commandsSent isAddress
        · exact bytes_of_pixelsSent commandFailed isPixels
      rcases noRow with ⟨other, isOther⟩
      cases isOther.symm.trans isRow

theorem writeAddressedRow_reports_iff {commands : AddressCommands} {lastColumn : Int}
    (written : writeAddressedRow commands lastColumn bus write = .ok result) :
    RowReports bus result ↔
      (∀ offset < 4, bus.outcome (bus.writes.length + offset) = .ok) ∨
        bus.outcome (bus.writes.length + addressWrites bus.outcome bus.writes.length) ≠ .ok := by
  rcases writeAddressedRow_sent written with ⟨colIdx, _, since, ok_iff⟩
  rw [rowReports_of_sent_iff since ok_iff, allOk_commandsSent_iff]
  exact Iff.rfl

end Rows

/-- `Init` reports failures exactly if there are none, and `WriteRow` exactly if none
of the address writes fails or the memory write command does. -/
theorem reports_iff (driver : DisplayDriver) (bus : SpiBus) :
    (driver.InitReports bus ↔ ∀ offset < writeCount driver.initCommands,
      bus.outcome (bus.writes.length + offset) = .ok) ∧
    ∀ write result, driver.writeRow bus write = .ok result →
      (RowReports bus result ↔
        (∀ offset < 4, bus.outcome (bus.writes.length + offset) = .ok) ∨
          bus.outcome (bus.writes.length + addressWrites bus.outcome bus.writes.length) ≠ .ok) := by
  refine ⟨initReports_iff driver bus, ?_⟩
  intro write result written
  cases driver with
  | ili9341 config => exact writeAddressedRow_reports_iff written
  | st7735 config => cases written
  | st7789 config => exact writeAddressedRow_reports_iff written

/-- A connection whose first write fails. -/
def firstFails : SpiBus := { SpiBus.idle .data with
  outcome := fun number => if number = 0 then .unavailable else .ok }

theorem square_lastColumn : maxColIdx (240 - 1) ⟨[5], 0, 0⟩ = .ok 239 := by decide

/-- Nothing fails. -/
theorem reports_iff_idle :
    (DisplayDriver.st7789 ⟨240, 240⟩).InitReports (.idle .data) ∧
      ∃ result, (DisplayDriver.st7789 ⟨240, 240⟩).writeRow (.idle .data) ⟨[5], 0, 0⟩ =
        .ok result ∧ RowReports (.idle .data) result := by
  have both := reports_iff (.st7789 ⟨240, 240⟩) (.idle .data)
  rcases writeAddressedRow_returns ST7789.addressCommands (.idle .data) square_lastColumn with
    ⟨result, written⟩
  refine ⟨both.1.mpr fun _ _ => rfl, result, written, ?_⟩
  exact (both.2 ⟨[5], 0, 0⟩ result written).mpr (.inl fun _ _ => rfl)

/-- The column address is lost, and its row is sent all the same. -/
theorem firstFails_unnoticed :
    ¬∀ (driver : DisplayDriver) (bus : SpiBus), driver.InitReports bus ∧
      ∀ write result, driver.writeRow bus write = .ok result → RowReports bus result := by
  intro always
  rcases writeAddressedRow_returns ST7789.addressCommands firstFails square_lastColumn with
    ⟨result, written⟩
  have reports := (always (.st7789 ⟨240, 240⟩) firstFails).2 ⟨[5], 0, 0⟩ result written
  rcases (writeAddressedRow_reports_iff written).mp reports with addressed | commandFailed
  · exact absurd (addressed 0 (by decide)) (by decide)
  · exact absurd commandFailed (by decide)

end PigweedExperimental.DisplayDriver
