import PigweedExperimental.Terminal.Frame

namespace PigweedExperimental.Terminal

open Draw
open DemoDecoder (kBlack kWhite)

/-! # The parts of a frame

Each part of a frame has a place of its own, whatever the log, the message about the
frame rate and the sun look like. Only that message may be drawn over other parts.
-/

/-- What a frame shows: the message fits its buffer, and the sun is where some
number of frames has taken it. -/
structure Scene where
  artwork : Artwork
  signed : Bool
  logTextBuffer : TextBuffer
  sun : SunMotion
  fpsMsg : List Int
  sunReached : ∃ frames, SunMotion.after frames = some sun
  fpsFits : fpsMsg.length ≤ 40

def Scene.draw (scene : Scene) (framebuffer : FramebufferWriter) : FramebufferWriter :=
  drawFrame scene.artwork framebuffer scene.signed scene.logTextBuffer scene.sun scene.fpsMsg

/-- The parts, in the order in which they are drawn. -/
inductive FramePart where
  | button
  | sprite
  | banner
  | fps
  | colorSheet
  | testSheet
  | boxLabel
  | boxSheet
  | logView
  deriving DecidableEq

namespace FramePart

def all : List FramePart :=
  [button, sprite, banner, fps, colorSheet, testSheet, boxLabel, boxSheet, logView]

theorem mem_all (part : FramePart) : part ∈ all := by
  cases part <;> decide

/-- A part by itself, at its place. -/
def draw (scene : Scene) (part : FramePart) (framebuffer : FramebufferWriter) :
    FramebufferWriter :=
  match part with
  | button => drawButton scene.artwork framebuffer gButton colorBlue
  | sprite => setPixels (drawPigweedSprite scene.artwork.pigweedFarmData scene.sun) framebuffer
  | banner => (drawPigweedBanner scene.artwork framebuffer ⟨0, 76⟩).2
  | fps => drawFPS scene.artwork framebuffer ⟨1, 2⟩ scene.fpsMsg
  | colorSheet => (drawColorFontSheet ⟨0, 112⟩ 48 kBlack scene.artwork.font6x8 framebuffer).2
  | testSheet =>
      (drawTestFontSheet ⟨0, 132⟩ 48 kWhite kBlack scene.artwork.font6x8 framebuffer).2
  | boxLabel =>
      (drawString (wide "Box Characters:") ⟨0, 160⟩ kWhite kBlack scene.artwork.font6x8
        framebuffer).2
  | boxSheet =>
      (drawTestFontSheet ⟨96, 152⟩ 32 kWhite kBlack scene.artwork.font6x8BoxChars
        framebuffer).2
  | logView =>
      (drawLogTextBuffer scene.signed scene.logTextBuffer 172 scene.artwork.font6x8
        framebuffer).framebuffer

def drawParts (scene : Scene) (parts : List FramePart) (framebuffer : FramebufferWriter) :
    FramebufferWriter :=
  parts.foldl (fun framebuffer part => part.draw scene framebuffer) framebuffer

theorem drawParts_nil (scene : Scene) (framebuffer : FramebufferWriter) :
    drawParts scene [] framebuffer = framebuffer := rfl

theorem drawParts_cons (scene : Scene) (part : FramePart) (parts : List FramePart)
    (framebuffer : FramebufferWriter) :
    drawParts scene (part :: parts) framebuffer =
      drawParts scene parts (part.draw scene framebuffer) := rfl

end FramePart

section Places

variable (artwork : Artwork) (framebuffer : FramebufferWriter)

/-- The banner ends five rows below its top. -/
theorem drawPigweedBanner_bottom (tl : Vector2 Int) :
    (drawPigweedBanner artwork framebuffer tl).1 = tl.y + 32 := by
  have step (drawn : Vector2 Int × FramebufferWriter) (textRow : List Int) :
      (bannerStep artwork drawn textRow).1 = ⟨drawn.1.x, drawn.1.y + 8⟩ := by
    rw [bannerStep]
    dsimp only
    rw [drawString_size]
    rfl
  rw [drawPigweedBanner, pigweedBanner]
  dsimp only [List.foldl_cons, List.foldl_nil]
  rw [step, step, step, step, step]
  dsimp only
  have height : (artwork.font6x8BoxChars.height.toNat : Int) = 8 := rfl
  omega

/-- The end of a sheet of one of the two fonts, by its numbers of columns and rows. -/
theorem sheetExtents_eq {font : FontSet} {count rows columns inFirst : Nat}
    (tl : Vector2 Int) (width : font.width = 6) (height : font.height = 8)
    (isRows : sheetRows columns count = rows) (isInFirst : min count columns = inFirst) :
    sheetExtents tl columns font count =
      ⟨tl.x + 6 * inFirst, tl.y + 8 * (rows + 1 : Nat)⟩ := by
  rw [sheetExtents, isRows, isInFirst, width, height]
  rfl

theorem sheetExtents_font6x8 (tl : Vector2 Int) :
    sheetExtents tl 48 artwork.font6x8 96 = ⟨tl.x + 288, tl.y + 24⟩ :=
  sheetExtents_eq tl rfl rfl (by decide : sheetRows 48 96 = 2) rfl

theorem sheetExtents_boxChars (tl : Vector2 Int) :
    sheetExtents tl 32 artwork.font6x8BoxChars 27 = ⟨tl.x + 162, tl.y + 16⟩ :=
  sheetExtents_eq tl rfl rfl (by decide : sheetRows 32 27 = 1) rfl

theorem fontCount_font6x8 : fontCount artwork.font6x8 = 96 := rfl

theorem fontCount_boxChars : fontCount artwork.font6x8BoxChars = 27 := rfl

theorem boxLabel_width : artwork.font6x8.stringWidth (wide "Box Characters:") = 90 := rfl

theorem drawColorFontSheet_extents (tl : Vector2 Int) :
    (drawColorFontSheet tl 48 kBlack artwork.font6x8 framebuffer).1 =
      ⟨tl.x + 288, tl.y + 24⟩ := by
  have drawn := @drawFontSheet_eq tl 48 kBlack sheetColor artwork.font6x8 framebuffer (by decide)
  rw [Nat.cast_ofNat, fontCount_font6x8, sheetExtents_font6x8] at drawn
  rw [drawColorFontSheet, drawn]

theorem drawTestFontSheet_extents (tl : Vector2 Int) :
    (drawTestFontSheet tl 48 kWhite kBlack artwork.font6x8 framebuffer).1 =
      ⟨tl.x + 288, tl.y + 24⟩ := by
  have drawn := @drawFontSheet_eq tl 48 kWhite (fun _ => kBlack) artwork.font6x8 framebuffer
    (by decide)
  rw [Nat.cast_ofNat, fontCount_font6x8, sheetExtents_font6x8] at drawn
  rw [drawTestFontSheet, drawn]

theorem drawTestFontSheet_box_extents (tl : Vector2 Int) :
    (drawTestFontSheet tl 32 kWhite kBlack artwork.font6x8BoxChars framebuffer).1 =
      ⟨tl.x + 162, tl.y + 16⟩ := by
  have drawn := @drawFontSheet_eq tl 32 kWhite (fun _ => kBlack) artwork.font6x8BoxChars
    framebuffer (by decide)
  rw [Nat.cast_ofNat, fontCount_boxChars, sheetExtents_boxChars] at drawn
  rw [drawTestFontSheet, drawn]

theorem boxLabel_size (tl : Vector2 Int) :
    (drawString (wide "Box Characters:") tl kWhite kBlack artwork.font6x8 framebuffer).1 =
      ⟨90, 8⟩ := by
  rw [drawString_size, boxLabel_width]
  rfl

/-- Where the sheets stand, and where they end. -/
theorem drawFontSheets_eq (scene : Scene) :
    drawFontSheets scene.artwork framebuffer ⟨0, 112⟩ =
      (168, FramePart.drawParts scene [.colorSheet, .testSheet, .boxLabel, .boxSheet]
        framebuffer) := by
  have height : (scene.artwork.font6x8.height.toNat : Int) = 8 := rfl
  have width : (scene.artwork.font6x8.width.toNat : Int) = 6 := rfl
  have testTop : (112 + 24 - 8 + 4 : Int) = 132 := rfl
  have labelTop : (132 + 24 + 4 : Int) = 160 := rfl
  have boxLeft : (0 + (90 + 6) : Int) = 96 := rfl
  have boxTop : (160 - 8 : Int) = 152 := rfl
  have bottom : (152 + 16 : Int) = 168 := rfl
  rw [drawFontSheets]
  dsimp only
  rw [drawColorFontSheet_extents, height, width]
  dsimp only
  rw [testTop, drawTestFontSheet_extents]
  dsimp only
  rw [labelTop, boxLabel_size]
  dsimp only
  rw [boxLeft, boxTop, drawTestFontSheet_box_extents]
  dsimp only
  rw [bottom]
  -- `simp` would compare the drawn pictures by evaluating them.
  rw [FramePart.drawParts_cons, FramePart.drawParts_cons, FramePart.drawParts_cons,
    FramePart.drawParts_cons, FramePart.drawParts_nil, FramePart.draw, FramePart.draw,
    FramePart.draw, FramePart.draw]

theorem drawParts_append (scene : Scene) (first second : List FramePart)
    (framebuffer : FramebufferWriter) :
    FramePart.drawParts scene (first ++ second) framebuffer =
      FramePart.drawParts scene second (FramePart.drawParts scene first framebuffer) := by
  rw [FramePart.drawParts, List.foldl_append]
  rfl

theorem drawHeader_eq (scene : Scene) :
    drawHeader scene.artwork framebuffer scene.sun scene.fpsMsg =
      (168, FramePart.drawParts scene
        [.button, .sprite, .banner, .fps, .colorSheet, .testSheet, .boxLabel, .boxSheet]
        framebuffer) := by
  have top : (pigweedSpriteBottom + 32 + 4 : Int) = 112 := rfl
  have spriteBottom : pigweedSpriteBottom = 76 := rfl
  have parts : [FramePart.button, .sprite, .banner, .fps, .colorSheet, .testSheet, .boxLabel,
      .boxSheet] = [.button, .sprite, .banner, .fps] ++
        [.colorSheet, .testSheet, .boxLabel, .boxSheet] := rfl
  rw [drawHeader, drawPigweedBanner_bottom, top, drawFontSheets_eq, parts, drawParts_append]
  rfl

/-- A frame is made of its parts. -/
theorem Scene.draw_eq (scene : Scene) :
    scene.draw framebuffer = FramePart.drawParts scene FramePart.all framebuffer := by
  have top : (168 + 4 : Int) = 172 := rfl
  have parts : FramePart.all =
      [.button, .sprite, .banner, .fps, .colorSheet, .testSheet, .boxLabel, .boxSheet] ++
        [.logView] := rfl
  rw [parts, drawParts_append, FramePart.drawParts_cons, FramePart.drawParts_nil,
    FramePart.draw, Scene.draw, drawFrame, drawHeader_eq, top]

end Places

end PigweedExperimental.Terminal
