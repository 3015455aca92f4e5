import PigweedExperimental.DisplayDriver.RowAddress

namespace PigweedExperimental.DisplayDriver.ST7735

/-! # `DisplayDriverST7735`

The amount of pixels to send is that of the configured screen.
-/

structure Config where
  screenWidth : UInt16
  screenHeight : UInt16
  deriving DecidableEq, Repr

def caset : UInt8 := 0x2A

def raset : UInt8 := 0x2B

def ramwr : UInt8 := 0x2C

def rowStart : UInt16 := 2

def colStart : UInt16 := 1

def invctrNla : UInt8 := 0b00000100

def invctrNlb : UInt8 := 0b00000010

def invctrNlc : UInt8 := 0b00000001

def madctlColOrder : UInt8 := 0b01000000

def madctlSwapXy : UInt8 := 0b00100000

def madctlScanOrder : UInt8 := 0b00010000

def Config.maxColumn (config : Config) : UInt16 :=
  config.screenWidth + colStart - 1

def Config.maxRow (config : Config) : UInt16 :=
  config.screenHeight + rowStart - 1

/-- The commands of `Init` before the address window is set. -/
def powerCommands : List Command := [
  ⟨0x01, []⟩,
  ⟨0x11, []⟩,
  ⟨0xB1, [0x00, 0x06, 0x03]⟩,
  ⟨0xB6, [0x15, 0x02]⟩,
  ⟨0xB4, [invctrNla ||| invctrNlb ||| invctrNlc]⟩,
  ⟨0x35, []⟩,
  ⟨0x3A, [0x05]⟩,
  ⟨0xB2, [0x0c, 0x0c, 0x00, 0x33, 0x33]⟩,
  ⟨0xC0, [0x02, 0x70]⟩,
  ⟨0xC1, [0x05]⟩,
  ⟨0xC2, [0x01, 0x02]⟩,
  ⟨0xC5, [0x3c, 0x38]⟩,
  ⟨0xFC, [0x11, 0x15]⟩,
  ⟨0xC3, [0x12]⟩,
  ⟨0xC4, [0x20]⟩,
  ⟨0xD0, [0xa4, 0xa1]⟩,
  ⟨0xC6, [0x0f]⟩,
  ⟨0x20, []⟩,
  ⟨0xE0, [0x09, 0x16, 0x09, 0x20, 0x21, 0x1B, 0x13, 0x19, 0x17, 0x15, 0x1E, 0x2B, 0x04, 0x05,
    0x02, 0x0E]⟩,
  ⟨0xE1, [0x0B, 0x14, 0x08, 0x1E, 0x22, 0x1D, 0x18, 0x1E, 0x1B, 0x1A, 0x24, 0x2B, 0x06, 0x06,
    0x02, 0x0F]⟩]

/-- The address window of `Init`. -/
def Config.windowCommands (config : Config) : List Command := [
  ⟨caset, addressBytes colStart config.maxColumn⟩,
  ⟨raset, addressBytes rowStart config.maxRow⟩]

/-- The commands of `Init` after the address window is set. -/
def displayCommands : List Command := [
  ⟨0x36, [madctlColOrder ||| (madctlSwapXy ||| madctlScanOrder)]⟩,
  ⟨0x13, []⟩,
  ⟨0x29, []⟩]

def init (config : Config) (bus : SpiBus) : Status × SpiBus :=
  (.ok, bus.writeCommands (powerCommands ++ config.windowCommands ++ displayCommands))

def writeFramebuffer (config : Config) (bus : SpiBus) (framebuffer : Framebuffer) :
    Except Fault Delivery := do
  pwAssert framebuffer.isValid
  pwAssert (framebuffer.pixelFormat = .rgb565)
  sendFrame ramwr config.screenWidth config.screenHeight bus framebuffer

/-- `PW_ASSERT(false)` -/
def writeRow (_bus : SpiBus) (_write : RowWrite) : Except Fault (Status × SpiBus) :=
  .error .assertion

def getWidth (config : Config) : UInt16 := config.screenWidth

def getHeight (config : Config) : UInt16 := config.screenHeight

end PigweedExperimental.DisplayDriver.ST7735
