import PigweedExperimental.Terminal.FrameParts

namespace PigweedExperimental.Terminal

open Draw
open DemoDecoder (kBlack kWhite)

/-! # The layout of a frame

The place of each part is a rectangle that no other part reaches into, except for
the message about the frame rate. What a frame shows there is the part by itself.
-/

/-- The rows of the banner, each one below the one before it. -/
def bannerCalls (font : FontSet) : (rows : List (List Int)) → (tl : Vector2 Int) → List Call
  | [], _ => []
  | textRow :: rows, tl =>
      stringCalls colorPink kBlack font textRow tl ++
        bannerCalls font rows ⟨tl.x, tl.y + font.height.toNat⟩

theorem bannerStep_foldl (artwork : Artwork) (rows : List (List Int)) (tl : Vector2 Int)
    (framebuffer : FramebufferWriter) :
    (rows.foldl (bannerStep artwork) (tl, framebuffer)).2 =
      drawAll (bannerCalls artwork.font6x8BoxChars rows tl) framebuffer := by
  induction rows generalizing tl framebuffer with
  | nil => rfl
  | cons textRow rows induction =>
      rw [List.foldl_cons, bannerStep]
      dsimp only
      rw [drawString_size, induction, bannerCalls, drawAll_append, drawString_eq_drawAll]

theorem bannerCalls_held {font : FontSet} {extent : Extent} {rows : List (List Int)}
    {tl : Vector2 Int} (left : extent.left ≤ tl.x)
    (right : ∀ textRow ∈ rows, tl.x + font.stringWidth textRow ≤ extent.right)
    (top : extent.top ≤ tl.y)
    (bottom : tl.y + font.height.toNat * rows.length ≤ extent.bottom) :
    extent.Holds (bannerCalls font rows tl) := by
  induction rows generalizing tl with
  | nil => exact Extent.holds_nil
  | cons textRow rows induction =>
      rw [List.forall_mem_cons] at right
      rw [List.length_cons, Nat.cast_succ, Int.mul_add, Int.mul_one] at bottom
      have rest_nonneg : 0 ≤ (font.height.toNat : Int) * rows.length := by positivity
      apply Extent.holds_append.mpr
      constructor
      · apply stringCalls_held left right.1 top
        omega
      · apply @induction ⟨tl.x, tl.y + font.height.toNat⟩ left right.2 <;> dsimp only <;> omega

/-- A cell of the log as a call. -/
def CharacterCall.toCall (font : FontSet) (call : CharacterCall) : Call :=
  .character call.ch call.pos call.fgColor call.bgColor font

theorem drawLogTextBuffer_eq_drawAll (signed : Bool) (buffer : TextBuffer) (top : Int)
    (font : FontSet) (framebuffer : FramebufferWriter) :
    (drawLogTextBuffer signed buffer top font framebuffer).framebuffer =
      drawAll ((logCalls signed buffer font top kNumRows).map (CharacterCall.toCall font))
        framebuffer := by
  rw [(drawLogTextBuffer_draws signed buffer font top framebuffer).framebuffer_eq, drawAll,
    List.foldl_map]
  rfl

theorem rowWidth_range (signed : Bool) (buffer : TextBuffer) (font : FontSet)
    (row column : Nat) :
    0 ≤ rowWidth signed buffer font row column ∧
      rowWidth signed buffer font row column ≤ font.width.toNat * column := by
  induction column with
  | zero => exact ⟨Int.le_refl 0, (Int.mul_zero _).symm.le⟩
  | succ column induction =>
      rw [rowWidth, charWidth, Nat.cast_succ, Int.mul_add, Int.mul_one]
      split <;> omega

/-- The log stays within its columns and rows, even where cells lie over each other. -/
theorem logCalls_held {signed : Bool} {buffer : TextBuffer} {font : FontSet} {top : Int}
    {extent : Extent} (left : extent.left ≤ 0)
    (right : font.width.toNat * (kNumCharsWide : Int) ≤ extent.right) (isTop : extent.top ≤ top)
    (bottom : top + font.height.toNat * (kNumRows : Int) ≤ extent.bottom) :
    extent.Holds
      ((logCalls signed buffer font top kNumRows).map (CharacterCall.toCall font)) := by
  intro call isCall
  rw [List.mem_map] at isCall
  rcases isCall with ⟨cell, isCell, rfl⟩
  rw [logCalls, List.mem_flatMap] at isCell
  rcases isCell with ⟨row, isRow, isCell⟩
  rw [rowCalls, List.mem_map] at isCell
  rcases isCell with ⟨column, isColumn, rfl⟩
  rw [List.mem_range] at isRow isColumn
  have range := rowWidth_range signed buffer font row column
  have columnEnd : (font.width.toNat : Int) * column + font.width.toNat ≤
      font.width.toNat * (kNumCharsWide : Int) := by
    exact_mod_cast Nat.mul_le_mul_left font.width.toNat isColumn
  have rowEnd : (row : Int) * font.height.toNat + font.height.toNat ≤
      font.height.toNat * (kNumRows : Int) := by
    have scaled := Nat.mul_le_mul_left font.height.toNat isRow
    rw [Nat.mul_succ, Nat.mul_comm] at scaled
    exact_mod_cast scaled
  have row_nonneg : 0 ≤ (row : Int) * font.height.toNat := by positivity
  refine ⟨trivial, ?_⟩
  intro x y shape
  have inWidth := shape.2.1
  have inHeight := shape.2.2
  dsimp only [cellCall] at inWidth inHeight
  rw [Extent.Contains]
  omega

namespace FramePart

variable (scene : Scene)

theorem fps_width : scene.artwork.font6x8.stringWidth scene.fpsMsg ≤ 240 := by
  have width := stringWidth_le scene.artwork.font6x8 scene.fpsMsg
  have isWidth : (scene.artwork.font6x8.width.toNat : Int) = 6 := rfl
  have fits := scene.fpsFits
  rw [isWidth] at width
  omega

/-- The place of a part; the message about the frame rate takes as much as it needs. -/
def extent : FramePart → Extent
  | button => ⟨212, 320, 0, 12⟩
  | sprite => ⟨2, 190, 0, 76⟩
  | banner => ⟨0, 324, 76, 116⟩
  | fps => ⟨1, 1 + scene.artwork.font6x8.stringWidth scene.fpsMsg, 2, 10⟩
  | colorSheet => ⟨0, 288, 120, 136⟩
  | testSheet => ⟨0, 288, 140, 156⟩
  | boxLabel => ⟨0, 90, 160, 168⟩
  | boxSheet => ⟨96, 258, 160, 168⟩
  | logView => ⟨0, 312, 172, 244⟩

theorem extent_unfolded (part : FramePart) : (part.extent scene).Unfolded := by
  have narrow := fps_width scene
  cases part <;> simp only [Extent.Unfolded, extent] <;> omega

/-- Only the message about the frame rate is drawn over other parts. -/
theorem extent_unique {part other : FramePart} {x y : Int} (notFps : part ≠ fps)
    (otherNotFps : other ≠ fps) (inside : (part.extent scene).Contains x y)
    (insideOther : (other.extent scene).Contains x y) : part = other := by
  cases part <;> cases other <;>
    first
      | rfl
      | exact absurd rfl notFps
      | exact absurd rfl otherNotFps
      | (exfalso
         simp only [Extent.Contains, extent] at inside insideOther
         omega)

/-- What is drawn after the message is out of its reach. -/
theorem not_fps_of_later {part : FramePart} {x y : Int}
    (later : part ∈ [colorSheet, testSheet, boxLabel, boxSheet, logView])
    (inside : (part.extent scene).Contains x y) : ¬(fps.extent scene).Contains x y := by
  intro insideFps
  simp only [List.mem_cons, List.not_mem_nil, or_false] at later
  rcases later with rfl | rfl | rfl | rfl | rfl <;>
    simp only [Extent.Contains, extent] at inside insideFps <;>
    omega

def spriteCalls (spriteSheet : SpriteSheet) (sun : SunMotion) : List Call :=
  let sunX := sun.sunOffset.x + spritePosX + spriteSheet.width * spriteScale - 32
  let sunY := sun.sunOffset.y + spritePosY
  [.rectWH (spritePosX - 8) (spritePosY - 8) (spriteSheet.width * spriteScale + 8 * 2)
      (spriteSheet.height * spriteScale + 8 * 2) colorDarkBlue true,
    .rectWH (spritePosX - 4) (spritePosY - 4) (spriteSheet.width * spriteScale + 4 * 2)
      (spriteSheet.height * spriteScale + 4 * 2) colorBlue true,
    .circle sunX sunY 20 colorOrange true,
    .circle sunX sunY 18 colorYellow true,
    .sprite (spritePosX + 2) (spritePosY + 2) { spriteSheet with currentIndex := 1 } 4,
    .sprite spritePosX spritePosY { spriteSheet with currentIndex := 0 } 4]

/-- A part as calls of the drawing primitives. -/
def calls : FramePart → List Call
  | button =>
      .rectWH 212 0 108 12 colorBlue true ::
        stringCalls kBlack colorBlue scene.artwork.font6x8 gButton.label ⟨214, 2⟩
  | sprite => spriteCalls (pigweedFarmSpriteSheet scene.artwork.pigweedFarmData) scene.sun
  | banner => bannerCalls scene.artwork.font6x8BoxChars pigweedBanner ⟨0, 76⟩
  | fps => stringCalls colorPeach kBlack scene.artwork.font6x8 scene.fpsMsg ⟨1, 2⟩
  | colorSheet => sheetCalls ⟨0, 112⟩ 48 kBlack sheetColor scene.artwork.font6x8 96
  | testSheet => sheetCalls ⟨0, 132⟩ 48 kWhite (fun _ => kBlack) scene.artwork.font6x8 96
  | boxLabel =>
      stringCalls kWhite kBlack scene.artwork.font6x8 (wide "Box Characters:") ⟨0, 160⟩
  | boxSheet =>
      sheetCalls ⟨96, 152⟩ 32 kWhite (fun _ => kBlack) scene.artwork.font6x8BoxChars 27
  | logView =>
      (logCalls scene.signed scene.logTextBuffer scene.artwork.font6x8 172 kNumRows).map
        (CharacterCall.toCall scene.artwork.font6x8)

theorem sprite_draw_eq (data : Int → UInt16) (sun : SunMotion)
    (framebuffer : FramebufferWriter) :
    setPixels (drawPigweedSprite data sun) framebuffer =
      drawAll (spriteCalls (pigweedFarmSpriteSheet data) sun) framebuffer := by
  simp only [drawPigweedSprite, setPixels, List.foldl_append]
  rfl

theorem draw_eq (part : FramePart) (framebuffer : FramebufferWriter) :
    part.draw scene framebuffer = drawAll (part.calls scene) framebuffer := by
  cases part with
  | button =>
      rw [draw, drawButton, calls, drawAll_cons, drawString_eq_drawAll]
      rfl
  | sprite => rw [draw, calls, sprite_draw_eq]
  | banner =>
      have drawn := bannerStep_foldl scene.artwork pigweedBanner ⟨0, 76⟩ framebuffer
      rw [draw, calls, ← drawn, drawPigweedBanner]
  | fps =>
      rw [draw, calls, drawFPS]
      split
      case isTrue empty =>
        rw [empty]
        rfl
      case isFalse => rw [drawString_eq_drawAll]
  | colorSheet =>
      have drawn := @drawFontSheet_eq ⟨0, 112⟩ 48 kBlack sheetColor scene.artwork.font6x8
        framebuffer (by decide)
      rw [Nat.cast_ofNat, fontCount_font6x8] at drawn
      rw [draw, drawColorFontSheet, drawn, calls]
  | testSheet =>
      have drawn := @drawFontSheet_eq ⟨0, 132⟩ 48 kWhite (fun _ => kBlack)
        scene.artwork.font6x8 framebuffer (by decide)
      rw [Nat.cast_ofNat, fontCount_font6x8] at drawn
      rw [draw, drawTestFontSheet, drawn, calls]
  | boxLabel => rw [draw, calls, drawString_eq_drawAll]
  | boxSheet =>
      have drawn := @drawFontSheet_eq ⟨96, 152⟩ 32 kWhite (fun _ => kBlack)
        scene.artwork.font6x8BoxChars framebuffer (by decide)
      rw [Nat.cast_ofNat, fontCount_boxChars] at drawn
      rw [draw, drawTestFontSheet, drawn, calls]
  | logView => rw [draw, calls, drawLogTextBuffer_eq_drawAll]

theorem sun_range : (-61 ≤ scene.sun.sunOffset.x ∧ scene.sun.sunOffset.x ≤ 11) ∧
    -4 ≤ scene.sun.sunOffset.y ∧ scene.sun.sunOffset.y ≤ 20 := by
  rcases scene.sunReached with ⟨frames, reached⟩
  have isSun := Option.some.inj
    (reached.symm.trans (SunMotion.after_eq (SunMotion.after_fits reached)))
  have range := SunMotion.place_range frames
  rw [isSun]
  exact range

theorem sprite_held : (sprite.extent scene).Holds (sprite.calls scene) := by
  have range := sun_range scene
  intro call isCall
  simp only [calls, spriteCalls, List.mem_cons, List.not_mem_nil, or_false] at isCall
  rcases isCall with rfl | rfl | rfl | rfl | rfl | rfl
  · refine ⟨trivial, fun x y shape => ?_⟩
    exact @drawBorder_inside _ x y 8 colorDarkBlue (by decide) (sets_drawRect.mpr shape)
  · refine ⟨trivial, fun x y shape => ?_⟩
    exact @drawBorder_inside _ x y 4 colorBlue (by decide) (sets_drawRect.mpr shape)
  · refine ⟨trivial, fun x y shape => ?_⟩
    exact @drawSun_inside _ x y _ 20 colorOrange range.1 range.2 (by decide)
      (sets_drawCircle_filled.mpr shape)
  · refine ⟨trivial, fun x y shape => ?_⟩
    exact @drawSun_inside _ x y _ 18 colorYellow range.1 range.2 (by decide)
      (sets_drawCircle_filled.mpr shape)
  · refine ⟨trivial, fun x y shape => ?_⟩
    exact drawSprite_inside (by decide) (by decide) (sets_drawSprite.mpr shape)
  · refine ⟨trivial, fun x y shape => ?_⟩
    exact drawSprite_inside (by decide) (by decide) (sets_drawSprite.mpr shape)

theorem bannerWidth {textRow : List Int} (isRow : textRow ∈ pigweedBanner) :
    scene.artwork.font6x8BoxChars.stringWidth textRow ≤ 324 := by
  have short : ∀ textRow ∈ pigweedBanner, textRow.length ≤ 54 := by decide +kernel
  have width := stringWidth_le scene.artwork.font6x8BoxChars textRow
  have isWidth : (scene.artwork.font6x8BoxChars.width.toNat : Int) = 6 := rfl
  have length := short textRow isRow
  rw [isWidth] at width
  omega

theorem calls_held (part : FramePart) : (part.extent scene).Holds (part.calls scene) := by
  have height : (scene.artwork.font6x8.height.toNat : Int) = 8 := rfl
  have boxHeight : (scene.artwork.font6x8BoxChars.height.toNat : Int) = 8 := rfl
  have width : (scene.artwork.font6x8.width.toNat : Int) = 6 := rfl
  cases part with
  | button =>
      apply Extent.holds_cons.mpr
      refine ⟨⟨trivial, ?_⟩, ?_⟩
      · intro x y shape
        simp only [Call.Shape, Call.RectShape, if_true] at shape
        simp only [Extent.Contains, extent]
        omega
      · have labelWidth : scene.artwork.font6x8.stringWidth gButton.label = 102 := rfl
        apply stringCalls_held <;> dsimp only [extent] <;> omega
  | sprite => exact sprite_held scene
  | banner =>
      apply bannerCalls_held
      · exact Int.le_refl 0
      · intro textRow isRow
        have := bannerWidth scene isRow
        dsimp only [extent]
        omega
      · exact Int.le_refl 76
      · have rows : (pigweedBanner.length : Int) = 5 := rfl
        rw [boxHeight, rows]
        exact Int.le_refl 116
  | fps => apply stringCalls_held <;> dsimp only [extent] <;> omega
  | colorSheet =>
      apply sheetCalls_held (by decide) <;>
        simp only [sheetExtents_font6x8, extent, height] <;> decide
  | testSheet =>
      apply sheetCalls_held (by decide) <;>
        simp only [sheetExtents_font6x8, extent, height] <;> decide
  | boxLabel =>
      have labelWidth := boxLabel_width scene.artwork
      apply stringCalls_held <;> dsimp only [extent] <;> omega
  | boxSheet =>
      apply sheetCalls_held (by decide) <;>
        simp only [sheetExtents_boxChars, extent, boxHeight] <;> decide
  | logView =>
      apply logCalls_held
      · exact Int.le_refl 0
      · rw [width]
        exact Int.le_refl 312
      · exact Int.le_refl 172
      · rw [height]
        exact Int.le_refl 244

theorem drawParts_eq (parts : List FramePart) (framebuffer : FramebufferWriter) :
    drawParts scene parts framebuffer =
      drawAll (parts.flatMap (calls scene)) framebuffer := by
  induction parts generalizing framebuffer with
  | nil => rfl
  | cons part parts induction =>
      rw [drawParts_cons, induction, List.flatMap_cons, drawAll_append, draw_eq]

theorem calls_lossless (parts : List FramePart) :
    ∀ call ∈ parts.flatMap (calls scene), call.Lossless := by
  intro call isCall
  rw [List.mem_flatMap] at isCall
  rcases isCall with ⟨part, _, isCall⟩
  exact (calls_held scene part).lossless call isCall

theorem exists_part {parts : List FramePart} {x y : Int}
    (covers : Covers (parts.flatMap (calls scene)) x y) :
    ∃ part ∈ parts, (part.extent scene).Contains x y := by
  rcases covers with ⟨call, isCall, folded⟩
  rw [List.mem_flatMap] at isCall
  rcases isCall with ⟨part, isPart, isCall⟩
  exact ⟨part, isPart,
    (calls_held scene part).contains (extent_unfolded scene part) ⟨call, isCall, folded⟩⟩

section Shown

variable {scene} {framebuffer : FramebufferWriter} {x y : Nat}

/-- A part of a picture, between those that are drawn before it and after it. -/
theorem shown_between {before after : List FramePart} {part : FramePart}
    (order : all = before ++ part :: after) (x_lt : x < framebuffer.width.toNat)
    (y_lt : y < framebuffer.height.toNat)
    (notBefore : Covers (part.calls scene) x y ∨
      ∀ other ∈ before, ¬(other.extent scene).Contains x y)
    (notAfter : ∀ other ∈ after, ¬(other.extent scene).Contains x y) :
    (scene.draw framebuffer).pixel x y = (part.draw scene framebuffer).pixel x y := by
  have lossless := calls_lossless scene all
  rw [Scene.draw_eq, drawParts_eq]
  rw [order, List.flatMap_append, List.flatMap_cons, ← List.append_assoc] at lossless ⊢
  rw [drawAll_part lossless x_lt y_lt, draw_eq]
  · apply notBefore.imp_right
    intro none covers
    rcases exists_part scene covers with ⟨other, isBefore, inside⟩
    exact none other isBefore inside
  · intro covers
    rcases exists_part scene covers with ⟨other, isAfter, inside⟩
    exact notAfter other isAfter inside

theorem shown_apart {part : FramePart} (notFps : part ≠ fps)
    (inside : (part.extent scene).Contains x y)
    (noMessage : ¬(fps.extent scene).Contains x y) (x_lt : x < framebuffer.width.toNat)
    (y_lt : y < framebuffer.height.toNat) :
    (scene.draw framebuffer).pixel x y = (part.draw scene framebuffer).pixel x y := by
  rcases List.append_of_mem part.mem_all with ⟨before, after, order⟩
  have nodup : all.Nodup := by decide
  rw [order] at nodup
  have others (other : FramePart) (differs : other ≠ part) :
      ¬(other.extent scene).Contains x y := by
    intro insideOther
    by_cases isFps : other = fps
    case pos =>
      rw [isFps] at insideOther
      exact noMessage insideOther
    case neg => exact differs (extent_unique scene isFps notFps insideOther inside)
  have middle := List.nodup_middle.mp nodup
  have notMem := (List.nodup_cons.mp middle).1
  apply shown_between order x_lt y_lt
  · right
    intro other isBefore
    apply others
    rintro rfl
    exact notMem (List.mem_append_left after isBefore)
  · intro other isAfter
    apply others
    rintro rfl
    exact notMem (List.mem_append_right before isAfter)

/-- The message about the frame rate is readable in any case. -/
theorem shown_fps (inside : (fps.extent scene).Contains x y)
    (x_lt : x < framebuffer.width.toNat) (y_lt : y < framebuffer.height.toNat) :
    (scene.draw framebuffer).pixel x y = (fps.draw scene framebuffer).pixel x y := by
  have order : all = [button, sprite, banner] ++
      fps :: [colorSheet, testSheet, boxLabel, boxSheet, logView] := rfl
  apply shown_between order x_lt y_lt
  · left
    have narrow := fps_width scene
    have height : (scene.artwork.font6x8.height.toNat : Int) = 8 := rfl
    simp only [Extent.Contains, extent] at inside
    apply stringCalls_cover
    · exact inside.1
    · rw [height]
      exact inside.2
    · omega
  · intro other isAfter insideOther
    exact not_fps_of_later scene isAfter insideOther inside

theorem bare_outside (outside : ∀ part : FramePart, ¬(part.extent scene).Contains x y)
    (x_lt : x < framebuffer.width.toNat) (y_lt : y < framebuffer.height.toNat) :
    (scene.draw framebuffer).pixel x y = framebuffer.pixel x y := by
  rw [Scene.draw_eq, drawParts_eq]
  apply drawAll_background (calls_lossless scene all) x_lt y_lt
  intro covers
  rcases exists_part scene covers with ⟨part, _, inside⟩
  exact outside part inside

end Shown

end FramePart

/-- Whatever a frame shows, the header ends at the same height, every part of the frame
looks as if it were drawn alone, with the message about the frame rate on top, and
nothing else is drawn. -/
theorem drawFrame_parts (scene : Scene) (framebuffer : FramebufferWriter) :
    (drawHeader scene.artwork framebuffer scene.sun scene.fpsMsg).1 = 168 ∧
    ∀ x y : Nat, x < framebuffer.width.toNat → y < framebuffer.height.toNat →
      (∀ part : FramePart, (part.extent scene).Contains x y →
        (part = .fps ∨ ¬(FramePart.fps.extent scene).Contains x y) →
        (scene.draw framebuffer).pixel x y = (part.draw scene framebuffer).pixel x y) ∧
      ((∀ part : FramePart, ¬(part.extent scene).Contains x y) →
        (scene.draw framebuffer).pixel x y = framebuffer.pixel x y) := by
  refine ⟨congrArg Prod.fst (drawHeader_eq framebuffer scene), ?_⟩
  intro x y x_lt y_lt
  constructor
  · intro part inside onTop
    by_cases isFps : part = .fps
    case pos =>
      rw [isFps] at inside ⊢
      exact FramePart.shown_fps inside x_lt y_lt
    case neg => exact FramePart.shown_apart isFps inside (onTop.resolve_left isFps) x_lt y_lt
  · intro outside
    exact FramePart.bare_outside outside x_lt y_lt

/-- The first frame, with empty glyphs and no log. -/
def firstScene : Scene where
  artwork := {
    font6x8Data := Array.replicate 768 0
    font6x8BoxCharsData := Array.replicate 216 0
    font6x8_covered := by rw [Array.size_replicate]
    boxChars_covered := by rw [Array.size_replicate]
    pigweedFarmData := fun _ => 0 }
  signed := true
  logTextBuffer := .fresh
  sun := .initial
  fpsMsg := []
  sunReached := ⟨0, rfl⟩
  fpsFits := Nat.zero_le 40

/-- The label has its black background, and a row between the header and the log stays
as it was. -/
theorem drawFrame_parts_labelAndMargin :
    (firstScene.draw (uniform ⟨320, 240⟩ 7)).pixel 0 160 = kBlack ∧
      (firstScene.draw (uniform ⟨320, 240⟩ 7)).pixel 0 170 = 7 := by
  have parts := (drawFrame_parts firstScene (uniform ⟨320, 240⟩ 7)).2
  constructor
  · have label := (parts 0 160 (by decide) (by decide)).1 .boxLabel
      (by simp [Extent.Contains, FramePart.extent])
      (.inr (by simp [Extent.Contains, FramePart.extent]))
    have letter : ((FramePart.boxLabel).draw firstScene (uniform ⟨320, 240⟩ 7)).pixel 0 160 =
        firstScene.artwork.font6x8.shade kWhite kBlack 66 0 0 :=
      @drawString_inside kWhite kBlack firstScene.artwork.font6x8 ⟨0, 160⟩ _ 0 160 []
        (wide "ox Characters:") 66 (by decide) (by decide) (by decide) (by decide) (by decide)
        (by decide) (by decide) (by decide) (by decide)
        ⟨⟨by decide, by decide⟩, by decide, by decide⟩
    have noBits : firstScene.artwork.font6x8.data.getD
        (firstScene.artwork.font6x8.rowIndex 66 0) 0 = 0 := by
      change (Array.replicate 768 (0 : UInt8)).getD _ 0 = 0
      rw [Array.getD_eq_getD_getElem?, Array.getElem?_replicate]
      split <;> rfl
    rw [label, letter, FontSet.shade, FontSet.glyph, noBits]
    rfl
  · have bare := (parts 0 170 (by decide) (by decide)).2 (by
      intro part
      cases part <;> simp [Extent.Contains, FramePart.extent])
    rw [bare]
    exact pixel_uniform (by decide) (by decide)

end PigweedExperimental.Terminal
