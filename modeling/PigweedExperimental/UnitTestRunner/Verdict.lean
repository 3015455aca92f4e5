import PigweedExperimental.UnitTestRunner.UnitTestRunner

namespace PigweedExperimental.UnitTestRunner

/-! # When a passed test has passed

The runner is right to report success as long as its reader thread comes back
with some output. An exception of the reader passes for a success.
-/

/-- The output shows a finished run without failures after its last start. -/
def Evidence (testOutput : Bytes) : Prop :=
  ∃ before lastRun, testOutput = before ++ lastRun ∧
    testsStartingString <+: lastRun ∧ ¬testsStartingString <:+: lastRun.tail ∧
    testsDoneString <:+: lastRun ∧ ¬testFailureString <:+: lastRun

/-- The binary was flashed, and the reader has returned evidence. -/
def PassedOnEvidence (bench : Bench) (stlinkSerial port : Option String) : Prop :=
  ∃ board : Option String × Option String,
    chooseBoard bench stlinkSerial port = .ok board ∧
    flashDevice (bench.openocd board.1) = .ok () ∧
    ∃ testOutput, readSerial (bench.serial board.2) = .ok testOutput ∧ Evidence testOutput

/-- The port opens, and the first read gets a byte in time. -/
def SerialDevice.Producing (device : SerialDevice) : Prop :=
  device.isOpen = true ∧ device.read .flash ≠ []

/-- Whenever flashing succeeds, the board is heard. -/
def Heard (bench : Bench) (stlinkSerial port : Option String) : Prop :=
  ∀ board, chooseBoard bench stlinkSerial port = .ok board →
    bench.openocd board.1 = 0 → (bench.serial board.2).Producing

theorem flashDevice_eq_ok {returncode : Int} :
    flashDevice returncode = .ok () ↔ returncode = 0 := by
  simp [flashDevice]

/-- The reader raises an exception exactly if the board is not heard. -/
theorem readSerial_returns_iff (device : SerialDevice) :
    (∃ testOutput, readSerial device = .ok testOutput) ↔ device.Producing := by
  rw [readSerial, SerialDevice.Producing]
  cases isOpen : device.isOpen with
  | false => simp
  | true =>
      by_cases silent : device.read .flash = []
      · simp [silent]
      · simp only [silent, not_true_eq_false, if_false]
        split <;> simp [silent]

theorem readSerial_eq_ok {device : SerialDevice} {testOutput : Bytes}
    (returned : readSerial device = .ok testOutput) :
    ∃ serialData, testOutput = serialData ∧ Search.rfind testsStartingString serialData = none ∨
      ∃ testStartIndex, testOutput = serialData.drop testStartIndex ∧
        Search.rfind testsStartingString serialData = some testStartIndex := by
  rw [readSerial] at returned
  cases isOpen : device.isOpen with
  | false => simp [isOpen] at returned
  | true =>
      by_cases silent : device.read .flash = []
      · simp [isOpen, silent] at returned
      · simp only [isOpen, silent, not_true_eq_false, if_false] at returned
        split at returned
        · rename_i absent
          cases returned
          exact ⟨_, .inl ⟨rfl, absent⟩⟩
        · rename_i testStartIndex found
          cases returned
          exact ⟨_, .inr ⟨testStartIndex, rfl, found⟩⟩

/-- What the reader returns has no test start but at its beginning. -/
theorem readSerial_trimmed {device : SerialDevice} {testOutput : Bytes}
    (returned : readSerial device = .ok testOutput)
    (starts : testsStartingString <:+: testOutput) :
    testsStartingString <+: testOutput ∧ ¬testsStartingString <:+: testOutput.tail := by
  rcases readSerial_eq_ok returned with ⟨serialData, absent | found⟩
  · rcases absent with ⟨rfl, absent⟩
    exact absurd starts (Search.rfind_eq_none.mp absent)
  · rcases found with ⟨testStartIndex, rfl, found⟩
    exact Search.rfind_eq_some (by decide) found

theorem handleTestResults_eq_ok {testOutput : Bytes} :
    handleTestResults testOutput = .ok () ↔
      testsStartingString <:+: testOutput ∧ testsDoneString <:+: testOutput ∧
        ¬testFailureString <:+: testOutput := by
  rw [handleTestResults]
  simp only [Search.find_eq_none, Search.rfind_eq_none, ne_eq]
  by_cases starts : testsStartingString <:+: testOutput
  · by_cases done : testsDoneString <:+: testOutput
    · by_cases failed : testFailureString <:+: testOutput
      · simp [starts, done, failed]
      · simp [starts, done, failed]
    · simp [starts, done]
  · simp [starts]

/-- The output of a failed reader is not asked for. -/
theorem flashAndCheck_eq_ok {bench : Bench} {stlinkSerial port : Option String} :
    flashAndCheck bench stlinkSerial port = .ok () ↔
      bench.openocd stlinkSerial = 0 ∧
        ∀ testOutput, readSerial (bench.serial port) = .ok testOutput →
          handleTestResults testOutput = .ok () := by
  rw [flashAndCheck, threadedTestReader]
  by_cases flashed : bench.openocd stlinkSerial = 0
  · cases read : readSerial (bench.serial port) with
    | error failure => simp [flashDevice, flashed, bind, Except.bind]
    | ok testOutput => simp [flashDevice, flashed, bind, Except.bind]
  · simp [flashDevice, flashed, bind, Except.bind]

theorem runDeviceTest_eq_true {bench : Bench} {stlinkSerial port : Option String} :
    runDeviceTest bench stlinkSerial port = .ok true ↔
      ∃ board, chooseBoard bench stlinkSerial port = .ok board ∧
        flashAndCheck bench board.1 board.2 = .ok () := by
  rw [runDeviceTest]
  cases chosen : chooseBoard bench stlinkSerial port with
  | error notFound => simp [bind, Except.bind]
  | ok board =>
      simp only [bind, Except.bind]
      cases checked : flashAndCheck bench board.1 board.2 with
      | error failure => simp [checked]
      | ok _ => simp [checked]

/-- A success is reported only on evidence exactly if the reader thread raises no
exception after which flashing succeeds. -/
theorem passedOnEvidence_iff_heard (bench : Bench) (stlinkSerial port : Option String) :
    (runDeviceTest bench stlinkSerial port = .ok true →
      PassedOnEvidence bench stlinkSerial port) ↔ Heard bench stlinkSerial port := by
  constructor
  · intro onEvidence board isBoard flashed
    by_contra notHeard
    have reports : runDeviceTest bench stlinkSerial port = .ok true := by
      apply runDeviceTest_eq_true.mpr
      refine ⟨board, isBoard, flashAndCheck_eq_ok.mpr ⟨flashed, ?_⟩⟩
      intro testOutput returned
      exact absurd ((readSerial_returns_iff _).mp ⟨testOutput, returned⟩) notHeard
    rcases onEvidence reports with ⟨other, isOther, _, testOutput, returned, _⟩
    cases isBoard.symm.trans isOther
    exact notHeard ((readSerial_returns_iff _).mp ⟨testOutput, returned⟩)
  · intro heard reports
    rcases runDeviceTest_eq_true.mp reports with ⟨board, isBoard, checked⟩
    rcases flashAndCheck_eq_ok.mp checked with ⟨flashed, handled⟩
    rcases (readSerial_returns_iff _).mpr (heard board isBoard flashed) with
      ⟨testOutput, returned⟩
    rcases handleTestResults_eq_ok.mp (handled testOutput returned) with ⟨starts, done, passed⟩
    rcases readSerial_trimmed returned starts with ⟨first, last⟩
    exact ⟨board, isBoard, flashDevice_eq_ok.mpr flashed, testOutput, returned,
      [], testOutput, rfl, first, last, done, passed⟩

/-- Two runs, the first of which failed, are reported as passed. -/
example :
    (readSerial {
      isOpen := true
      read := fun _ => ascii "["
      readlines := [
        fun _ => ascii "==========] Running all tests.\r\n", fun _ => testFailureString,
        fun _ => testsStartingString, fun _ => testsDoneString] }).bind handleTestResults =
      .ok () := by
  decide

/-- A board that is flashed and stays silent. -/
def silentBench : Bench where
  detectBoards := [⟨"/dev/ttyACM0", "0672FF"⟩]
  serial := fun _ => { isOpen := true, read := fun _ => [], readlines := [] }
  openocd := fun _ => 0

theorem silentBench_passes :
    ¬(runDeviceTest silentBench none none = .ok true →
      PassedOnEvidence silentBench none none) := by
  intro onEvidence
  rcases onEvidence rfl with ⟨board, isBoard, _, testOutput, returned, _⟩
  cases returned

end PigweedExperimental.UnitTestRunner
