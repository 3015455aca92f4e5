import PigweedExperimental.Framebuffer.Fill
import PigweedExperimental.Terminal.DemoDecoder
import PigweedExperimental.Terminal.FontSheets
import PigweedExperimental.Terminal.LogView
import PigweedExperimental.Terminal.PigweedSprite

namespace PigweedExperimental.Terminal

open Draw
open DemoDecoder (kBlack kWhite)

/-! # `DrawFrame`

A frame of the terminal display: a header of fixed text and graphics, and the log
below it. Where a part begins depends on what the parts above it return.
-/

/-- The tables that the drawing reads: the rows of two fonts' glyphs and the pixels
of the farm. The fonts' other properties are those that the source gives them. -/
structure Artwork where
  font6x8Data : Array UInt8
  font6x8BoxCharsData : Array UInt8
  font6x8_covered : 8 * (127 + 1 - 32) ≤ font6x8Data.size
  boxChars_covered : 8 * (0x259A + 1 - 0x2580) ≤ font6x8BoxCharsData.size
  pigweedFarmData : Int → UInt16

namespace Artwork

def font6x8 (artwork : Artwork) : FontSet where
  data := artwork.font6x8Data
  width := 6
  height := 8
  startingCharacter := 32
  endingCharacter := 127
  covered := by
    have := artwork.font6x8_covered
    have height : (8 : UInt8).toNat = 8 := rfl
    omega

def font6x8BoxChars (artwork : Artwork) : FontSet where
  data := artwork.font6x8BoxCharsData
  width := 6
  height := 8
  startingCharacter := 0x2580
  endingCharacter := 0x259A
  covered := by
    have := artwork.boxChars_covered
    have height : (8 : UInt8).toNat = 8 := rfl
    omega

end Artwork

def colorPink : UInt16 := 0xfbb5

def colorPeach : UInt16 := 0xfe75

/-- `L"..."` -/
def wide (text : String) : List Int := text.toList.map fun ch => (ch.toNat : Int)

structure Button where
  label : List Int
  tl : Vector2 Int
  size : Size Int

def kButtonWidth : Int := 108

def gButton : Button where
  label := wide "Click to add logs"
  tl := ⟨320 - kButtonWidth, 0⟩
  size := ⟨kButtonWidth, 12⟩

section Header

variable (artwork : Artwork) (framebuffer : FramebufferWriter)

def drawButton (button : Button) (bgColor : UInt16) : FramebufferWriter :=
  let kMargin := 2
  let framebuffer := setPixels
    (drawRectWH button.tl.x button.tl.y button.size.width button.size.height bgColor true)
    framebuffer
  let tl : Vector2 Int := ⟨button.tl.x + kMargin, button.tl.y + kMargin⟩
  (drawString button.label tl kBlack bgColor artwork.font6x8 framebuffer).2

def drawFPS (tl : Vector2 Int) (fpsMsg : List Int) : FramebufferWriter :=
  if fpsMsg = [] then
    framebuffer
  else
    (drawString fpsMsg tl colorPeach kBlack artwork.font6x8 framebuffer).2

def pigweedBanner : List (List Int) := [
  wide "▒█████▄   █▓  ▄███▒  ▒█    ▒█ ░▓████▒ ░▓████▒ ▒▓████▄",
  wide " ▒█░  █░ ░█▒ ██▒ ▀█▒ ▒█░ █ ▒█  ▒█   ▀  ▒█   ▀  ▒█  ▀█▌",
  wide " ▒█▄▄▄█░ ░█▒ █▓░ ▄▄░ ▒█░ █ ▒█  ▒███    ▒███    ░█   █▌",
  wide " ▒█▀     ░█░ ▓█   █▓ ░█░ █ ▒█  ▒█   ▄  ▒█   ▄  ░█  ▄█▌",
  wide " ▒█      ░█░ ░▓███▀   ▒█▓▀▓█░ ░▓████▒ ░▓████▒ ▒▓████▀"]

/-- One row of the banner, and the place of the next one. -/
def bannerStep (drawn : Vector2 Int × FramebufferWriter) (textRow : List Int) :
    Vector2 Int × FramebufferWriter :=
  let (stringDims, framebuffer) :=
    drawString textRow drawn.1 colorPink kBlack artwork.font6x8BoxChars drawn.2
  (⟨drawn.1.x, drawn.1.y + stringDims.height⟩, framebuffer)

def drawPigweedBanner (tl : Vector2 Int) : Int × FramebufferWriter :=
  let drawn := pigweedBanner.foldl (bannerStep artwork) (tl, framebuffer)
  (drawn.1.y - artwork.font6x8BoxChars.height.toNat, drawn.2)

def drawFontSheets (tl : Vector2 Int) : Int × FramebufferWriter :=
  let kFontSheetVerticalPadding := 4
  let kFontSheetNumColumns := 48
  let font := artwork.font6x8
  let initialX := tl.x
  let colored := drawColorFontSheet tl kFontSheetNumColumns kBlack font framebuffer
  let tl : Vector2 Int :=
    ⟨initialX, colored.1.y - font.height.toNat + kFontSheetVerticalPadding⟩
  let tested := drawTestFontSheet tl kFontSheetNumColumns kWhite kBlack font colored.2
  let tl : Vector2 Int := ⟨initialX, tested.1.y + kFontSheetVerticalPadding⟩
  let labelled := drawString (wide "Box Characters:") tl kWhite kBlack font tested.2
  let tl : Vector2 Int :=
    ⟨tl.x + (labelled.1.width + font.width.toNat), tl.y - font.height.toNat⟩
  let boxed := drawTestFontSheet tl 32 kWhite kBlack artwork.font6x8BoxChars labelled.2
  (boxed.1.y, boxed.2)

/-- The header, and the height that it returns. -/
def drawHeader (sun : SunMotion) (fpsMsg : List Int) : Int × FramebufferWriter :=
  let framebuffer := drawButton artwork framebuffer gButton colorBlue
  let framebuffer := setPixels (drawPigweedSprite artwork.pigweedFarmData sun) framebuffer
  let banner := drawPigweedBanner artwork framebuffer ⟨0, pigweedSpriteBottom⟩
  let kFontSheetMargin := 4
  let framebuffer := drawFPS artwork banner.2 ⟨1, 2⟩ fpsMsg
  drawFontSheets artwork framebuffer ⟨0, banner.1 + kFontSheetMargin⟩

def drawFrame (signed : Bool) (buffer : TextBuffer) (sun : SunMotion) (fpsMsg : List Int) :
    FramebufferWriter :=
  let kHeaderMargin := 4
  let header := drawHeader artwork framebuffer sun fpsMsg
  (drawLogTextBuffer signed buffer (header.1 + kHeaderMargin) artwork.font6x8
    header.2).framebuffer

end Header

end PigweedExperimental.Terminal
