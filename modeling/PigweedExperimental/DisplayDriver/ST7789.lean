import PigweedExperimental.DisplayDriver.RowAddress

namespace PigweedExperimental.DisplayDriver.ST7789

/-! # `DisplayDriverST7789`

The driver without a pixel pusher. The amount of pixels to send is that of the
framebuffer.
-/

structure Config where
  screenWidth : UInt16
  screenHeight : UInt16
  deriving DecidableEq, Repr

def caset : UInt8 := 0x2A

def raset : UInt8 := 0x2B

def ramwr : UInt8 := 0x2C

def addressCommands : AddressCommands := ⟨caset, raset, ramwr⟩

def madctlColOrder : UInt8 := 0b01000000

def madctlSwapXy : UInt8 := 0b00100000

def madctlScanOrder : UInt8 := 0b00010000

def madctlHorizOrder : UInt8 := 0b00000100

/-- The value of the memory data access control register. -/
def Config.madctl (config : Config) : UInt8 :=
  if config.screenWidth = 240 ∧ config.screenHeight = 240 then
    madctlHorizOrder
  else if config.screenWidth = 320 ∧ config.screenHeight = 240 then
    madctlColOrder ||| (madctlSwapXy ||| madctlScanOrder)
  else
    0

def Config.kMaxColumn (config : Config) : UInt16 :=
  config.screenWidth - 1

def Config.kMaxRow (config : Config) : UInt16 :=
  config.screenHeight - 1

/-- The commands of `Init` before the address window is set. -/
def powerCommands : List Command := [
  ⟨0x01, []⟩,
  ⟨0x35, []⟩,
  ⟨0x3A, [0x05]⟩,
  ⟨0xB2, [0x0c, 0x0c, 0x00, 0x33, 0x33]⟩,
  ⟨0xC0, [0x2c]⟩,
  ⟨0xC2, [0x01]⟩,
  ⟨0xC3, [0x12]⟩,
  ⟨0xC4, [0x20]⟩,
  ⟨0xD0, [0xa4, 0xa1]⟩,
  ⟨0xC6, [0x0f]⟩,
  ⟨0x21, []⟩,
  ⟨0x11, []⟩,
  ⟨0x29, []⟩]

/-- The address window of `Init`. -/
def Config.windowCommands (config : Config) : List Command := [
  ⟨caset, addressBytes 0 config.kMaxColumn⟩,
  ⟨raset, addressBytes 0 config.kMaxRow⟩]

/-- The commands of `Init` after the address window is set. -/
def Config.displayCommands (config : Config) : List Command := [
  ⟨0x36, [config.madctl]⟩]

def init (config : Config) (bus : SpiBus) : Status × SpiBus :=
  (.ok, bus.writeCommands
    (powerCommands ++ config.windowCommands ++ config.displayCommands))

def writeFramebuffer (bus : SpiBus) (framebuffer : Framebuffer) :
    Except Fault Delivery := do
  pwAssert (framebuffer.pixelFormat = .rgb565)
  sendFrame ramwr framebuffer.size.width framebuffer.size.height bus framebuffer

def writeRow (config : Config) (bus : SpiBus) (write : RowWrite) :
    Except Fault (Status × SpiBus) :=
  writeAddressedRow addressCommands (config.screenWidth.toNat - 1) bus write

def getWidth (config : Config) : UInt16 := config.screenWidth

def getHeight (config : Config) : UInt16 := config.screenHeight

end PigweedExperimental.DisplayDriver.ST7789
