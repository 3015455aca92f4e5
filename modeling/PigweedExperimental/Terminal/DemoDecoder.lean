import PigweedExperimental.Terminal.AnsiDecoder
import PigweedExperimental.Terminal.TextBuffer

namespace PigweedExperimental.Terminal

/-! # `DemoDecoder` and `LogCallback`

The decoder of the terminal application draws what it emits into the text
buffer of the log, in the colours that were set last.
-/

/-- `ColorRGBA::ToRgb565`. -/
def Color.toRgb565 (color : Color) : UInt16 :=
  ((color.r &&& 0xF8).toUInt16 <<< 8) ||| ((color.g &&& 0xFC).toUInt16 <<< 3) |||
    ((color.b &&& 0xF8).toUInt16 >>> 3)

structure DemoDecoder where
  decoder : AnsiDecoder
  fgColor : UInt16
  bgColor : UInt16
  logTextBuffer : TextBuffer
  deriving DecidableEq

namespace DemoDecoder

def kBlack : UInt16 := 0

def kWhite : UInt16 := 0xffff

def fresh : DemoDecoder where
  decoder := .fresh
  fgColor := kWhite
  bgColor := kBlack
  logTextBuffer := .fresh

/-- The three overrides. -/
def handle (demo : DemoDecoder) : Output → Option DemoDecoder
  | .setFgColor color => some { demo with fgColor := color.toRgb565 }
  | .setBgColor color => some { demo with bgColor := color.toRgb565 }
  | .emitChar c => do
      let logTextBuffer ← demo.logTextBuffer.drawCharacter ⟨c, demo.fgColor, demo.bgColor⟩
      return { demo with logTextBuffer }

def processChar (limits : Limits) (demo : DemoDecoder) (c : UInt8) : Option DemoDecoder := do
  let (decoder, outputs) ← demo.decoder.processChar limits c
  outputs.foldlM handle { demo with decoder }

/-- `LogCallback`, up to its copy of the message to the serial line. -/
def logCallback (limits : Limits) (demo : DemoDecoder) (log : List UInt8) :
    Option DemoDecoder := do
  let demo ← log.foldlM (processChar limits) demo
  demo.processChar limits kNewline

/-- One call of `LogCallback` after another. -/
def logAll (limits : Limits) (demo : DemoDecoder) (logs : List (List UInt8)) :
    Option DemoDecoder :=
  logs.foldlM (logCallback limits) demo

end DemoDecoder

end PigweedExperimental.Terminal
