import PigweedExperimental.Draw.GhostPixels
import PigweedExperimental.Draw.SpriteSheet

namespace PigweedExperimental.Draw

/-! # The pixels of a sprite

What `DrawSprite` leaves on a framebuffer is the sprite with each of its pixels
enlarged to a block, at every scale.
-/

/-- Calls that agree on the color of each place paint that color. -/
theorem setPixels_paints {color : Int → Int → UInt16} {calls : List SetPixel}
    (colored : ∀ call ∈ calls, call.pixelValue = color (call.x % 65536) (call.y % 65536))
    (writer : FramebufferWriter) :
    Paints (Folded (Sets calls)) color writer (setPixels calls writer) := by
  induction calls generalizing writer with
  | nil =>
      apply (Paints.nothing writer color).congr
      intro x y _ _
      apply iff_of_false id
      rintro ⟨a, b, impossible, _⟩
      exact sets_nil.mp impossible
  | cons call calls induction =>
      rw [List.forall_mem_cons] at colored
      have first := paints_setPixel writer call.x call.y colored.1
      apply (first.trans (induction colored.2 _)).congr
      intro x y _ _
      constructor
      · rintro (place | ⟨a, b, isSet, place⟩)
        · exact ⟨call.x, call.y, sets_cons.mpr (.inl ⟨rfl, rfl⟩), place⟩
        · exact ⟨a, b, sets_cons.mpr (.inr isSet), place⟩
      · rintro ⟨a, b, isSet, place⟩
        rcases sets_cons.mp isSet with ⟨rfl, rfl⟩ | isSet
        · exact .inl place
        · exact .inr ⟨a, b, isSet, place⟩

section Blocks

variable {x y integerScale : Int} {spriteSheet : SpriteSheet}

/-- The sprite's color at a place, by the block that the place is in. -/
def spriteColor (x y : Int) (spriteSheet : SpriteSheet) (integerScale a b : Int) : UInt16 :=
  spriteSheet.getColor ((a - x) / integerScale) ((b - y) / integerScale) spriteSheet.currentIndex

theorem pixelValue_drawRect {x1 y1 x2 y2 : Int} {penColor : UInt16} {filled : Bool}
    {call : SetPixel} (isCall : call ∈ drawRect x1 y1 x2 y2 penColor filled) :
    call.pixelValue = penColor := by
  have hLine {left right row : Int} (isCall : call ∈ drawHLine left right row penColor) :
      call.pixelValue = penColor := by
    rw [drawHLine, List.mem_map] at isCall
    rcases isCall with ⟨_, _, rfl⟩
    rfl
  rw [drawRect, List.mem_append, List.mem_append, List.mem_flatMap] at isCall
  rcases isCall with (top | bottom) | ⟨row, _, inRow⟩
  · exact hLine top
  · exact hLine bottom
  · split at inRow
    · exact hLine inRow
    · simp only [List.mem_cons, List.not_mem_nil, or_false] at inRow
      rcases inRow with rfl | rfl <;> rfl

theorem pixelValue_spritePixel {currentX currentY : Int} {call : SetPixel}
    (isCall : call ∈ spritePixel x y spriteSheet integerScale currentX currentY) :
    call.pixelValue = spriteSheet.getColor currentX currentY spriteSheet.currentIndex := by
  rw [spritePixel] at isCall
  dsimp only at isCall
  split at isCall
  · split at isCall
    · rw [List.mem_singleton.mp isCall]
    · split at isCall
      · exact pixelValue_drawRect isCall
      · cases isCall
  · cases isCall

/-- A place is in the block of the pixel that its distance from the corner gives. -/
theorem block_iff {place current start : Int} (scaled : 1 ≤ integerScale) :
    (0 ≤ place - (start + integerScale * current) ∧
        place - (start + integerScale * current) < integerScale) ↔
      (place - start) / integerScale = current := by
  rw [Int.ediv_eq_iff_of_pos (by omega), Int.mul_comm current]
  omega

/-- A place has a block in the sprite exactly if it is in the enlarged sprite. -/
theorem current_range {place start size : Int} (scaled : 1 ≤ integerScale) :
    (0 ≤ (place - start) / integerScale ∧ (place - start) / integerScale < size) ↔
      start ≤ place ∧ place < start + integerScale * size := by
  rw [Int.le_ediv_iff_mul_le (by omega), Int.ediv_lt_iff_lt_mul (by omega),
    Int.mul_comm size]
  omega

theorem pixelValue_drawSprite (scaled : 1 ≤ integerScale) {call : SetPixel}
    (isCall : call ∈ drawSprite x y spriteSheet integerScale) :
    call.pixelValue = spriteColor x y spriteSheet integerScale call.x call.y := by
  rw [drawSprite, List.mem_flatMap] at isCall
  rcases isCall with ⟨currentX, _, inColumn⟩
  rcases List.mem_flatMap.mp inColumn with ⟨currentY, _, inBlock⟩
  have place : Sets (spritePixel x y spriteSheet integerScale currentX currentY) call.x call.y :=
    ⟨call, inBlock, rfl, rfl⟩
  rw [sets_spritePixel, block_iff scaled, block_iff scaled] at place
  rw [spriteColor, place.2.2.1, place.2.2.2]
  exact pixelValue_spritePixel inBlock

/-- Every place takes the color of its block, unless that is transparent. -/
theorem sets_drawSprite_iff (scaled : 1 ≤ integerScale) {a b : Int} :
    Sets (drawSprite x y spriteSheet integerScale) a b ↔
      (x ≤ a ∧ a < x + integerScale * spriteSheet.width) ∧
        (y ≤ b ∧ b < y + integerScale * spriteSheet.height) ∧
        spriteColor x y spriteSheet integerScale a b ≠ spriteSheet.transparentColor := by
  rw [sets_drawSprite, and_iff_right scaled, ← current_range scaled, ← current_range scaled,
    spriteColor]
  simp only [block_iff scaled]
  constructor
  · rintro ⟨_, inWidth, _, inHeight, drawn, rfl, rfl⟩
    exact ⟨inWidth, inHeight, drawn⟩
  · rintro ⟨inWidth, inHeight, drawn⟩
    exact ⟨_, inWidth, _, inHeight, drawn, rfl, rfl⟩

end Blocks

/-- A coordinate of 16 bits with a sign, found again after it was folded. -/
theorem int16_folded {value : Int} (fits : FitsInt16 value) : int16 (value % 65536) = value := by
  have unfolded : int16 (value % 65536) = int16 value :=
    Int.emod_bmod value 65536
  rw [unfolded, int16_eq fits]

/-- Shapes of `int16_t` coordinates are not folded on a framebuffer that small. -/
theorem folded_iff {points : Int → Int → Prop}
    (fits : ∀ a b, points a b → FitsInt16 a ∧ FitsInt16 b) {x y : Nat}
    (x_lt : x < 32767) (y_lt : y < 32767) : Folded points x y ↔ points x y := by
  constructor
  · rintro ⟨a, b, isPoint, isX, isY⟩
    have range := fits a b isPoint
    dsimp only [FitsInt16] at range
    rw [show (x : Int) = a by omega, show (y : Int) = b by omega]
    exact isPoint
  · intro isPoint
    exact ⟨x, y, isPoint, by omega, by omega⟩

/-- A sprite appears with each of its pixels enlarged by the scale, and where it is
transparent, what was there before. The colors are read within the sheet. -/
theorem drawSprite_pixels {x y integerScale : Int} {spriteSheet : SpriteSheet}
    (index_nonneg : 0 ≤ spriteSheet.currentIndex)
    (index_lt : spriteSheet.currentIndex < spriteSheet.count) (scaled : 1 ≤ integerScale)
    (fitsX : FitsInt16 x) (fitsY : FitsInt16 y)
    (fitsRight : FitsInt16 (x + integerScale * spriteSheet.width))
    (fitsBottom : FitsInt16 (y + integerScale * spriteSheet.height)) {writer : FramebufferWriter}
    (narrow : writer.width.toNat ≤ 32767) (low : writer.height.toNat ≤ 32767) :
    (∀ px py : Nat, px < writer.width.toNat → py < writer.height.toNat →
      (setPixels (drawSprite x y spriteSheet integerScale) writer).pixel px py =
        let color := spriteSheet.getColor ((px - x) / integerScale) ((py - y) / integerScale)
          spriteSheet.currentIndex
        if (x ≤ px ∧ px < x + integerScale * spriteSheet.width) ∧
            (y ≤ py ∧ py < y + integerScale * spriteSheet.height) ∧
            color ≠ spriteSheet.transparentColor then
          color
        else
          writer.pixel px py) ∧
    spriteSheet.ReadsInside := by
  refine ⟨?_, SpriteSheet.readsInside_of_index index_nonneg index_lt⟩
  have place {a b : Int} (isSet : Sets (drawSprite x y spriteSheet integerScale) a b) :
      FitsInt16 a ∧ FitsInt16 b := by
    rw [sets_drawSprite_iff scaled] at isSet
    dsimp only [FitsInt16] at *
    omega
  have painted := @setPixels_paints (fun px py =>
    spriteColor x y spriteSheet integerScale (int16 px) (int16 py)) _ (by
      intro call isCall
      have fits := place ⟨call, isCall, rfl, rfl⟩
      rw [int16_folded fits.1, int16_folded fits.2]
      exact pixelValue_drawSprite scaled isCall) writer
  intro px py px_lt py_lt
  have unfolded (value : Nat) (small : value < 32767) : int16 value = value :=
    int16_eq ⟨by omega, by omega⟩
  have isSet_iff : Folded (Sets (drawSprite x y spriteSheet integerScale)) px py ↔
      Sets (drawSprite x y spriteSheet integerScale) px py :=
    folded_iff (fun a b => place) (by omega) (by omega)
  rw [sets_drawSprite_iff scaled] at isSet_iff
  dsimp only
  split
  · rename_i drawn
    rw [painted.inside px py px_lt py_lt (isSet_iff.mpr drawn), unfolded px (by omega),
      unfolded py (by omega)]
    rfl
  · rename_i notDrawn
    exact painted.outside px py px_lt py_lt fun folded => notDrawn (isSet_iff.mp folded)

/-- A sprite of one pixel. -/
def dot : SpriteSheet where
  width := 1
  height := 1
  count := 1
  transparentColor := 0
  data := fun _ => 5
  currentIndex := 0
  indexDirection := 1

theorem drawSprite_pixels_dot :
    (setPixels (drawSprite 0 0 dot 2) (uniform ⟨2, 1⟩ 7)).pixel 1 0 = 5 :=
  (@drawSprite_pixels 0 0 2 dot (by decide) (by decide) (by decide) (by decide) (by decide)
    (by decide) (by decide) (uniform ⟨2, 1⟩ 7) (by decide) (by decide)).1 1 0 (by decide)
    (by decide)

end PigweedExperimental.Draw
