import PigweedExperimental.DisplayDriver.RowAddress

namespace PigweedExperimental.DisplayDriver.ILI9341

/-! # `DisplayDriverILI9341`

The driver without a pixel pusher. The panel is hard-coded at 320x240, whatever
framebuffer it is given.
-/

inductive InterfaceType where
  | spi
  | withDE
  | withoutDE
  deriving DecidableEq, Repr

/-- The configuration, with the target's value of `ILI9341_MADCTL`. -/
structure Config where
  interface : InterfaceType
  swapRowCol : Bool
  kMADMode : UInt8
  deriving DecidableEq, Repr

def kDisplayWidth : Nat := 320

def kDisplayHeight : Nat := 240

def kDisplayNumPixels : Nat := kDisplayWidth * kDisplayHeight

def kRGBWithDE : UInt8 := 0xC2

def kRGBWithoutDE : UInt8 := 0xE2

def kFrameRate70 : UInt8 := 0x1B

def kPixelFormat16bits : UInt8 := 0x55

def cmdColumnAddr : UInt8 := 0x2A

def cmdPageAddr : UInt8 := 0x2B

def cmdGram : UInt8 := 0x2C

def addressCommands : AddressCommands := ⟨cmdColumnAddr, cmdPageAddr, cmdGram⟩

def kMaxX : UInt16 := 240 - 1

def kMaxY : UInt16 := 320 - 1

def Config.kMaxColumn (config : Config) : UInt16 :=
  if config.swapRowCol then kMaxX else kMaxY

def Config.kMaxRow (config : Config) : UInt16 :=
  if config.swapRowCol then kMaxY else kMaxX

/-- The RGB interface command, which an SPI panel does without. -/
def Config.rgbInterface (config : Config) : List Command :=
  match config.interface with
  | .spi => []
  | .withDE => [⟨0xB0, [kRGBWithDE]⟩]
  | .withoutDE => [⟨0xB0, [kRGBWithoutDE]⟩]

def Config.interfaceControl (config : Config) : List Command :=
  if config.interface ≠ .spi then [⟨0xF6, [0x00, 0x01, 0x06]⟩] else []

/-- The commands of `Init` before the address window is set. -/
def Config.powerCommands (config : Config) : List Command := [
  ⟨0xEF, [0x03, 0x80, 0x02]⟩,
  ⟨0xCF, [0x00, 0xC1, 0x30]⟩,
  ⟨0xED, [0x64, 0x03, 0x12, 0x81]⟩,
  ⟨0xE8, [0x85, 0x00, 0x78]⟩,
  ⟨0xCB, [0x39, 0x2C, 0x00, 0x34, 0x02]⟩,
  ⟨0xF7, [0x20]⟩,
  ⟨0xEA, [0x00, 0x00]⟩,
  ⟨0xB1, [0x00, kFrameRate70]⟩,
  ⟨0xB6, [0x0A, 0xA2]⟩,
  ⟨0xC0, [0x10]⟩,
  ⟨0xC1, [0x10]⟩,
  ⟨0xC5, [0x3e, 0x28]⟩,
  ⟨0xC7, [0x86]⟩,
  ⟨0x36, [config.kMADMode]⟩,
  ⟨0x3A, [kPixelFormat16bits]⟩,
  ⟨0xF2, [0x00]⟩] ++ config.rgbInterface ++ [⟨0xB6, [0x0A, 0xA7, 0x27, 0x04]⟩]

/-- The address window of `Init`. -/
def Config.windowCommands (config : Config) : List Command := [
  ⟨cmdColumnAddr, addressBytes 0 config.kMaxColumn⟩,
  ⟨cmdPageAddr, addressBytes 0 config.kMaxRow⟩]

/-- The commands of `Init` after the address window is set. -/
def Config.displayCommands (config : Config) : List Command :=
  config.interfaceControl ++ [
  ⟨cmdGram, []⟩,
  ⟨0x26, [0x01]⟩,
  ⟨0xE0, [0x0F, 0x31, 0x2B, 0x0C, 0x0E, 0x08, 0x4E, 0xF1, 0x37, 0x07, 0x10, 0x03, 0x0E, 0x09,
    0x00]⟩,
  ⟨0xE1, [0x00, 0x0E, 0x14, 0x03, 0x11, 0x07, 0x31, 0xC1, 0x48, 0x08, 0x0F, 0x0C, 0x31, 0x36,
    0x0F]⟩,
  ⟨0x11, []⟩,
  ⟨0x29, []⟩,
  ⟨0x13, []⟩,
  ⟨cmdGram, []⟩]

def init (config : Config) (bus : SpiBus) : Status × SpiBus :=
  (.ok, bus.writeCommands
    (config.powerCommands ++ config.windowCommands ++ config.displayCommands))

def kNumRowsPerSend : Nat := 10

def kNumSends : Nat := kDisplayHeight / kNumRowsPerSend

def kNumPixelsInSend : Nat := kDisplayWidth * kNumRowsPerSend

/-- One round of the pixel loop, which a failed write ends. -/
def sendRows (send : Nat) (bus : SpiBus) : Except (Status × SpiBus) SpiBus :=
  let sent := bus.write
    (.framebuffer (kDisplayWidth * (kNumRowsPerSend * send)) kNumPixelsInSend)
  if sent.1 = .ok then .ok sent.2 else .error sent

/-- The status after the loop. -/
def loopStatus : Except (Status × SpiBus) SpiBus → Status × SpiBus
  | .ok bus => (.ok, bus)
  | .error failed => failed

def sendPixels (bus : SpiBus) : Status × SpiBus :=
  loopStatus (forUp kNumSends sendRows bus)

def writeFramebuffer (bus : SpiBus) (framebuffer : Framebuffer) :
    Except Fault Delivery := do
  pwAssert framebuffer.isValid
  pwAssert (framebuffer.pixelFormat = .rgb565)
  let sent := sendPixels bus
  return ⟨framebuffer, sent.1, sent.2⟩

def writeRow (bus : SpiBus) (write : RowWrite) : Except Fault (Status × SpiBus) :=
  writeAddressedRow addressCommands (kDisplayWidth - 1) bus write

def getWidth : UInt16 := .ofNat kDisplayWidth

def getHeight : UInt16 := .ofNat kDisplayHeight

end PigweedExperimental.DisplayDriver.ILI9341
