import PigweedExperimental.Foundation.Search

namespace PigweedExperimental.UnitTestRunner

/-! # The unit test runner of the STM32F769I discovery board

A test binary is flashed while another thread reads what the board prints, and
the printed text decides about the test. Subprocesses and serial ports are
described by what they return; log output is left out.
-/

abbrev Bytes := List UInt8

/-- A literal of ASCII characters. -/
def ascii (text : String) : Bytes :=
  text.toList.map fun character => character.toNat.toUInt8

def testsStartingString : Bytes := ascii "[==========] Running all tests."

def testsDoneString : Bytes := ascii "[==========] Done running all tests."

def testFailureString : Bytes := ascii "[  FAILED  ]"

/-- The exceptions of the runner. -/
structure TestingFailure where
  message : String
  deriving DecidableEq, Repr

structure DeviceNotFound where
  message : String
  deriving DecidableEq, Repr

/-- What bounds a read from the serial port: the time to flash, the time of the
user, or the short time after the end of the tests. -/
inductive Timeout where
  | flash
  | test
  | lastLines
  deriving DecidableEq, Repr

/-- An opened `serial.Serial`: what `read` returns, at most a byte, and what the
calls of `readline` return after it, depending on the timeout. A line that times
out may be incomplete or empty. -/
structure SerialDevice where
  isOpen : Bool
  read : Timeout → Bytes
  readlines : List (Timeout → Bytes)

/-- The loop of `read_serial`, over the lines that the device returns. -/
def readLines (serialData : Bytes) (timeout : Timeout) :
    List (Timeout → Bytes) → Bytes
  | [] => serialData
  | readline :: later =>
      let bytesRead := readline timeout
      if bytesRead = [] then
        serialData
      else
        let serialData := serialData ++ bytesRead
        let timeout :=
          if Search.rfind testsDoneString serialData ≠ none then .lastLines else timeout
        readLines serialData timeout later

def readSerial (device : SerialDevice) : Except TestingFailure Bytes :=
  if ¬device.isOpen then
    .error ⟨"Failed to open device"⟩
  else
    let serialData := device.read .flash
    if serialData = [] then
      .error ⟨"Device not producing output"⟩
    else
      let serialData := readLines serialData .test device.readlines
      let serialData := serialData.filter (· ≠ 13)
      match Search.rfind testsStartingString serialData with
      | none => .ok serialData
      | some testStartIndex => .ok (serialData.drop testStartIndex)

/-- `flash_device`, by the return code of the flash tool. -/
def flashDevice (returncode : Int) : Except TestingFailure Unit :=
  if returncode ≠ 0 then
    .error ⟨"Failed to flash target device"⟩
  else
    .ok ()

def handleTestResults (testOutput : Bytes) : Except TestingFailure Unit :=
  if Search.find testsStartingString testOutput = none then
    .error ⟨"Failed to find test start"⟩
  else if Search.rfind testsDoneString testOutput = none then
    .error ⟨"Tests did not complete"⟩
  else if Search.rfind testFailureString testOutput ≠ none then
    .error ⟨"Test suite had one or more failures"⟩
  else
    .ok ()

/-- `_threaded_test_reader`: an exception ends the thread, and nothing more. -/
def threadedTestReader (dest : List Bytes) (device : SerialDevice) : List Bytes :=
  match readSerial device with
  | .ok testOutput => dest ++ [testOutput]
  | .error _ => dest

structure BoardInfo where
  devName : String
  serialNumber : String
  deriving DecidableEq, Repr

/-- What the runner finds on the host: the boards, what `serial.Serial` opens for
a port, and how the flash tool returns for a serial number. -/
structure Bench where
  detectBoards : List BoardInfo
  serial : Option String → SerialDevice
  openocd : Option String → Int

/-- The serial number and the port to work with. -/
def chooseBoard (bench : Bench) (stlinkSerial port : Option String) :
    Except DeviceNotFound (Option String × Option String) :=
  if stlinkSerial = none ∧ port = none then
    match bench.detectBoards with
    | [] => .error ⟨"Could not find an attached device"⟩
    | board :: _ => .ok (some board.serialNumber, some board.devName)
  else
    .ok (stlinkSerial, port)

/-- The body of the `try` block, after the reader thread has ended. -/
def flashAndCheck (bench : Bench) (stlinkSerial port : Option String) :
    Except TestingFailure Unit := do
  let result := threadedTestReader [] (bench.serial port)
  flashDevice (bench.openocd stlinkSerial)
  match result with
  | [] => .ok ()
  | testOutput :: _ => handleTestResults testOutput

def runDeviceTest (bench : Bench) (stlinkSerial port : Option String) :
    Except DeviceNotFound Bool := do
  let (stlinkSerial, port) ← chooseBoard bench stlinkSerial port
  match flashAndCheck bench stlinkSerial port with
  | .ok _ => .ok true
  | .error _ => .ok false

end PigweedExperimental.UnitTestRunner
