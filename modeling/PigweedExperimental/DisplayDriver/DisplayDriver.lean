import PigweedExperimental.DisplayDriver.ILI9341
import PigweedExperimental.DisplayDriver.ST7735
import PigweedExperimental.DisplayDriver.ST7789

namespace PigweedExperimental

/-! # `DisplayDriver`

The SPI drivers behind their common interface.
-/

inductive DisplayDriver where
  | ili9341 (config : DisplayDriver.ILI9341.Config)
  | st7735 (config : DisplayDriver.ST7735.Config)
  | st7789 (config : DisplayDriver.ST7789.Config)
  deriving DecidableEq, Repr

namespace DisplayDriver

def init (driver : DisplayDriver) (bus : SpiBus) : Status × SpiBus :=
  match driver with
  | .ili9341 config => ILI9341.init config bus
  | .st7735 config => ST7735.init config bus
  | .st7789 config => ST7789.init config bus

def writeFramebuffer (driver : DisplayDriver) (bus : SpiBus) (framebuffer : Framebuffer) :
    Except Fault Delivery :=
  match driver with
  | .ili9341 _ => ILI9341.writeFramebuffer bus framebuffer
  | .st7735 config => ST7735.writeFramebuffer config bus framebuffer
  | .st7789 _ => ST7789.writeFramebuffer bus framebuffer

def writeRow (driver : DisplayDriver) (bus : SpiBus) (write : RowWrite) :
    Except Fault (Status × SpiBus) :=
  match driver with
  | .ili9341 _ => ILI9341.writeRow bus write
  | .st7735 _ => ST7735.writeRow bus write
  | .st7789 config => ST7789.writeRow config bus write

def getWidth : DisplayDriver → UInt16
  | .ili9341 _ => ILI9341.getWidth
  | .st7735 config => ST7735.getWidth config
  | .st7789 config => ST7789.getWidth config

def getHeight : DisplayDriver → UInt16
  | .ili9341 _ => ILI9341.getHeight
  | .st7735 config => ST7735.getHeight config
  | .st7789 config => ST7789.getHeight config

end DisplayDriver

end PigweedExperimental
