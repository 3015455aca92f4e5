import PigweedExperimental.Draw.Circle
import PigweedExperimental.Draw.DrawCharacter
import PigweedExperimental.Draw.Line

namespace PigweedExperimental.Draw

/-! # Pixels outside of a shape

All clipping is left to `SetPixel`, which gets 16 bits of each coordinate. What
a primitive changes is therefore its shape, folded into the `uint16_t` range.
-/

/-- A call of a drawing primitive. -/
inductive Call where
  | line (x1 y1 x2 y2 : Int) (penColor : UInt16)
  | hLine (x1 x2 y : Int) (penColor : UInt16)
  | rect (x1 y1 x2 y2 : Int) (penColor : UInt16) (filled : Bool)
  | rectWH (x y w h : Int) (penColor : UInt16) (filled : Bool)
  | circle (centerX centerY radius : Int) (penColor : UInt16) (filled : Bool)
  | sprite (x y : Int) (spriteSheet : SpriteSheet) (integerScale : Int)
  | character (ch : Int) (pos : Vector2 Int) (fgColor bgColor : UInt16) (font : FontSet)

namespace Call

/-- What a call does to a framebuffer. -/
def draw (call : Call) (writer : FramebufferWriter) : FramebufferWriter :=
  match call with
  | line x1 y1 x2 y2 penColor => setPixels (drawLine x1 y1 x2 y2 penColor) writer
  | hLine x1 x2 y penColor => setPixels (drawHLine x1 x2 y penColor) writer
  | rect x1 y1 x2 y2 penColor filled =>
      setPixels (drawRect x1 y1 x2 y2 penColor filled) writer
  | rectWH x y w h penColor filled => setPixels (drawRectWH x y w h penColor filled) writer
  | circle centerX centerY radius penColor filled =>
      setPixels (drawCircle centerX centerY radius penColor filled) writer
  | sprite x y spriteSheet integerScale =>
      setPixels (drawSprite x y spriteSheet integerScale) writer
  | character ch pos fgColor bgColor font =>
      (drawCharacter ch pos fgColor bgColor font writer).2

/-- The bounding box of the shape that is asked for. -/
def Box (call : Call) (a b : Int) : Prop :=
  match call with
  | line x1 y1 x2 y2 _ => (min x1 x2 ≤ a ∧ a ≤ max x1 x2) ∧ min y1 y2 ≤ b ∧ b ≤ max y1 y2
  | hLine x1 x2 y _ => (x1 ≤ a ∧ a ≤ x2) ∧ b = y
  | rect x1 y1 x2 y2 _ _ => (min x1 x2 ≤ a ∧ a ≤ max x1 x2) ∧ min y1 y2 ≤ b ∧ b ≤ max y1 y2
  | rectWH x y w h _ _ => (x ≤ a ∧ a < x + w) ∧ y ≤ b ∧ b < y + h
  | circle centerX centerY radius _ _ =>
      (centerX - radius ≤ a ∧ a ≤ centerX + radius) ∧
        centerY - radius ≤ b ∧ b ≤ centerY + radius
  | sprite x y spriteSheet integerScale =>
      (x ≤ a ∧ a < x + integerScale * spriteSheet.width) ∧
        y ≤ b ∧ b < y + integerScale * spriteSheet.height
  | character _ pos _ _ font =>
      (pos.x ≤ a ∧ a < pos.x + font.width.toNat) ∧ pos.y ≤ b ∧ b < pos.y + font.height.toNat

def RectShape (x1 y1 x2 y2 : Int) (filled : Bool) (a b : Int) : Prop :=
  x1 ≤ a ∧ a ≤ x2 ∧ (b = y1 ∨ b = y2) ∨
    (y1 < b ∧ b < y2) ∧ if filled then x1 ≤ a ∧ a ≤ x2 else a = x1 ∨ a = x2

/-- The shape, point by point. -/
def Shape (call : Call) (a b : Int) : Prop :=
  match call with
  | line x1 y1 x2 y2 _ => OnLine ⟨x1, y1, x2, y2⟩ a b
  | hLine x1 x2 y _ => x1 ≤ a ∧ a ≤ x2 ∧ b = y
  | rect x1 y1 x2 y2 _ filled => RectShape x1 y1 x2 y2 filled a b
  | rectWH x y w h _ filled => RectShape x y (x - 1 + w) (y - 1 + h) filled a b
  | circle centerX centerY radius _ filled =>
      1 ≤ radius ∧ if filled then
        InDisc radius (a - centerX) (b - centerY)
      else
        OnCircle radius (a - centerX) (b - centerY)
  | sprite x y spriteSheet integerScale =>
      1 ≤ integerScale ∧ ∃ currentX, (0 ≤ currentX ∧ currentX < spriteSheet.width) ∧
        ∃ currentY, (0 ≤ currentY ∧ currentY < spriteSheet.height) ∧
          spriteSheet.getColor currentX currentY spriteSheet.currentIndex ≠
            spriteSheet.transparentColor ∧
          (0 ≤ a - (x + integerScale * currentX) ∧
            a - (x + integerScale * currentX) < integerScale) ∧
          (0 ≤ b - (y + integerScale * currentY) ∧
            b - (y + integerScale * currentY) < integerScale)
  | character ch pos _ _ font =>
      font.Drawable ch ∧
        (pos.x ≤ a ∧ a < pos.x + font.width.toNat) ∧ pos.y ≤ b ∧ b < pos.y + font.height.toNat

/-- Lines go through `int16_t` variables; nothing else does. -/
def Lossless (call : Call) : Prop :=
  match call with
  | line x1 y1 x2 y2 _ => (Ends.mk x1 y1 x2 y2).Lossless
  | _ => True

end Call

/-- What an operation leaves within a region does not depend on what was there;
outside of it, the pixels stay. -/
structure Overwrites (region : Int → Int → Prop)
    (draw : FramebufferWriter → FramebufferWriter) : Prop where
  framebuffer_eq : ∀ writer, (draw writer).framebuffer = writer.framebuffer
  inside : ∀ writer other : FramebufferWriter, writer.framebuffer = other.framebuffer →
    ∀ x y : Nat, x < writer.width.toNat → y < writer.height.toNat → region x y →
      (draw writer).pixel x y = (draw other).pixel x y
  outside : ∀ (writer : FramebufferWriter) (x y : Nat), x < writer.width.toNat →
    y < writer.height.toNat → ¬region x y → (draw writer).pixel x y = writer.pixel x y

namespace Overwrites

variable {region other : Int → Int → Prop} {draw : FramebufferWriter → FramebufferWriter}

theorem width_eq (overwrites : Overwrites region draw) (writer : FramebufferWriter) :
    (draw writer).width = writer.width :=
  FramebufferWriter.width_congr (overwrites.framebuffer_eq writer)

theorem height_eq (overwrites : Overwrites region draw) (writer : FramebufferWriter) :
    (draw writer).height = writer.height :=
  FramebufferWriter.height_congr (overwrites.framebuffer_eq writer)

theorem of_paints {color : Int → Int → UInt16}
    (paints : ∀ writer, Paints region color writer (draw writer)) : Overwrites region draw where
  framebuffer_eq := fun writer => (paints writer).framebuffer_eq
  inside := by
    intro writer other same x y x_lt y_lt within
    have x_lt' : x < other.width.toNat := by
      rw [← FramebufferWriter.width_congr same]
      exact x_lt
    have y_lt' : y < other.height.toNat := by
      rw [← FramebufferWriter.height_congr same]
      exact y_lt
    rw [(paints writer).inside x y x_lt y_lt within, (paints other).inside x y x_lt' y_lt' within]
  outside := fun writer => (paints writer).outside

theorem nothing : Overwrites (fun _ _ => False) id where
  framebuffer_eq := fun _ => rfl
  inside := fun _ _ _ _ _ _ _ impossible => impossible.elim
  outside := fun _ _ _ _ _ _ => rfl

theorem comp {drawMore : FramebufferWriter → FramebufferWriter} (first : Overwrites region draw)
    (second : Overwrites other drawMore) :
    Overwrites (fun x y => region x y ∨ other x y) (drawMore ∘ draw) where
  framebuffer_eq := fun writer => (second.framebuffer_eq _).trans (first.framebuffer_eq writer)
  inside := by
    intro writer writer' same x y x_lt y_lt within
    have x_lt' : x < (draw writer).width.toNat := by
      rw [first.width_eq]
      exact x_lt
    have y_lt' : y < (draw writer).height.toNat := by
      rw [first.height_eq]
      exact y_lt
    have same' : (draw writer).framebuffer = (draw writer').framebuffer := by
      rw [first.framebuffer_eq, first.framebuffer_eq, same]
    by_cases later : other x y
    · exact second.inside _ _ same' x y x_lt' y_lt' later
    · have x_lt'' : x < (draw writer').width.toNat := by
        rw [← FramebufferWriter.width_congr same']
        exact x_lt'
      have y_lt'' : y < (draw writer').height.toNat := by
        rw [← FramebufferWriter.height_congr same']
        exact y_lt'
      dsimp only [Function.comp_apply]
      rw [second.outside _ x y x_lt' y_lt' later, second.outside _ x y x_lt'' y_lt'' later]
      exact first.inside writer writer' same x y x_lt y_lt (within.resolve_right later)
  outside := by
    intro writer x y x_lt y_lt without
    rw [not_or] at without
    have x_lt' : x < (draw writer).width.toNat := by
      rw [first.width_eq]
      exact x_lt
    have y_lt' : y < (draw writer).height.toNat := by
      rw [first.height_eq]
      exact y_lt
    dsimp only [Function.comp_apply]
    rw [second.outside _ x y x_lt' y_lt' without.2, first.outside writer x y x_lt y_lt without.1]

theorem congr (overwrites : Overwrites region draw)
    (same : ∀ x y : Nat, x < 65536 → y < 65536 → (region x y ↔ other x y)) :
    Overwrites other draw where
  framebuffer_eq := overwrites.framebuffer_eq
  inside := by
    intro writer writer' sameFramebuffer x y x_lt y_lt within
    have width_lt := writer.width.toNat_lt
    have height_lt := writer.height.toNat_lt
    exact overwrites.inside writer writer' sameFramebuffer x y x_lt y_lt
      ((same x y (by omega) (by omega)).mpr within)
  outside := by
    intro writer x y x_lt y_lt without
    have width_lt := writer.width.toNat_lt
    have height_lt := writer.height.toNat_lt
    apply overwrites.outside writer x y x_lt y_lt
    intro within
    exact without ((same x y (by omega) (by omega)).mp within)

end Overwrites

/-- A set of points, folded into the `uint16_t` range. -/
def Folded (points : Int → Int → Prop) (x y : Int) : Prop :=
  ∃ a b, points a b ∧ x = a % 65536 ∧ y = b % 65536

theorem setPixels_overwrites (calls : List SetPixel) :
    Overwrites (Folded (Sets calls)) (setPixels calls) := by
  induction calls with
  | nil =>
      apply Overwrites.nothing.congr
      intro x y _ _
      apply iff_of_false id
      intro folded
      rcases folded with ⟨a, b, impossible, _⟩
      exact sets_nil.mp impossible
  | cons call calls induction =>
      have first := Overwrites.of_paints fun writer =>
        @paints_setPixel writer call.x call.y call.pixelValue (fun _ _ => call.pixelValue) rfl
      apply (first.comp induction).congr
      intro x y _ _
      constructor
      · intro either
        rcases either with place | ⟨a, b, isSet, place⟩
        · exact ⟨call.x, call.y, sets_cons.mpr (.inl ⟨rfl, rfl⟩), place⟩
        · exact ⟨a, b, sets_cons.mpr (.inr isSet), place⟩
      · intro folded
        rcases folded with ⟨a, b, isSet, place⟩
        rcases sets_cons.mp isSet with ⟨rfl, rfl⟩ | isSet
        · exact .inl place
        · exact .inr ⟨a, b, isSet, place⟩

section Characters

variable {ch : Int} {pos : Vector2 Int} {fgColor bgColor : UInt16} {font : FontSet}

theorem drawCharacter_overwrites :
    Overwrites (Folded (Call.character ch pos fgColor bgColor font).Shape)
      (Call.character ch pos fgColor bgColor font).draw := by
  by_cases drawable : font.Drawable ch
  · have paints := Overwrites.of_paints fun writer =>
      drawCharacter_paints pos fgColor bgColor writer drawable
    apply paints.congr
    intro x y x_lt y_lt
    have width_lt := font.width.toNat_lt
    have height_lt := font.height.toNat_lt
    dsimp only [inCell, Folded, Call.Shape]
    constructor
    · intro inCell
      exact ⟨pos.x + (x - pos.x) % 65536, pos.y + (y - pos.y) % 65536,
        ⟨drawable, by omega, by omega⟩, by omega, by omega⟩
    · intro folded
      rcases folded with ⟨a, b, ⟨_, inWidth, inHeight⟩, isX, isY⟩
      omega
  · have unchanged (writer : FramebufferWriter) :
        (Call.character ch pos fgColor bgColor font).draw writer = writer := by
      dsimp only [Call.draw]
      rw [drawCharacter_of_not_drawable pos fgColor bgColor writer drawable]
    rw [show (Call.character ch pos fgColor bgColor font).draw = id from funext unchanged]
    apply Overwrites.nothing.congr
    intro x y _ _
    apply iff_of_false id
    intro folded
    rcases folded with ⟨a, b, shape, _⟩
    exact drawable shape.1

end Characters

namespace Call

/-- What a call overwrites is its shape, folded. -/
theorem draw_overwrites (call : Call) (lossless : call.Lossless) :
    Overwrites (Folded call.Shape) call.draw := by
  have sets (calls : List SetPixel) (same : ∀ a b, Sets calls a b ↔ call.Shape a b) :
      Overwrites (Folded call.Shape) (setPixels calls) := by
    have shape : Sets calls = call.Shape := by
      funext a b
      exact propext (same a b)
    rw [← shape]
    exact setPixels_overwrites calls
  cases call with
  | line => exact sets _ fun a b => sets_drawLine lossless
  | hLine => exact sets _ fun a b => sets_drawHLine
  | rect => exact sets _ fun a b => sets_drawRect
  | rectWH => exact sets _ fun a b => sets_drawRect
  | circle centerX centerY radius penColor filled =>
      apply sets
      intro a b
      cases filled with
      | false => exact sets_drawCircle_outline
      | true => exact sets_drawCircle_filled
  | sprite => exact sets _ fun a b => sets_drawSprite
  | character => exact drawCharacter_overwrites

/-- On any framebuffer of a size, a call changes pixels in its bounding box only. -/
def NoGhostPixels (call : Call) (size : Size UInt16) : Prop :=
  ∀ writer : FramebufferWriter, writer.framebuffer.size = size →
    ∀ x y : Nat, x < size.width.toNat → y < size.height.toNat →
      (call.draw writer).pixel x y ≠ writer.pixel x y → call.Box x y

/-- No point of the shape reappears outside of the bounding box. -/
def Unaliased (call : Call) (size : Size UInt16) : Prop :=
  ∀ a b, call.Shape a b → a % 65536 < size.width.toNat → b % 65536 < size.height.toNat →
    call.Box (a % 65536) (b % 65536)

end Call

/-- A framebuffer of one color. -/
def uniform (size : Size UInt16) (color : UInt16) : FramebufferWriter where
  framebuffer := ⟨1, .rgb565, size, 2 * size.width⟩
  data := Array.replicate (size.width.toNat * size.height.toNat) color
  isRgb565 := rfl
  isValid := rfl
  covered := by rw [Array.size_replicate]

theorem pixel_uniform {size : Size UInt16} {color : UInt16} {x y : Nat}
    (x_lt : x < size.width.toNat) (y_lt : y < size.height.toNat) :
    (uniform size color).pixel x y = color := by
  have inside : (uniform size color).index x y < size.width.toNat * size.height.toNat :=
    FramebufferWriter.index_lt_area x_lt y_lt
  have isData : (uniform size color).data =
      Array.replicate (size.width.toNat * size.height.toNat) color := rfl
  rw [FramebufferWriter.pixel]
  rw [isData, Array.getD_eq_getD_getElem?, Array.getElem?_replicate, if_pos inside]
  rfl

/-- A region that is overwritten changes at each of its points, on a suitable
framebuffer. -/
theorem Overwrites.changes {region : Int → Int → Prop}
    {draw : FramebufferWriter → FramebufferWriter} (overwrites : Overwrites region draw)
    {size : Size UInt16} {x y : Nat} (x_lt : x < size.width.toNat)
    (y_lt : y < size.height.toNat) (within : region x y) :
    ∃ writer, writer.framebuffer.size = size ∧
      (draw writer).pixel x y ≠ writer.pixel x y := by
  have same := overwrites.inside (uniform size 0) (uniform size 1) rfl x y x_lt y_lt within
  by_cases zero : (draw (uniform size 0)).pixel x y = 0
  · refine ⟨uniform size 1, rfl, ?_⟩
    rw [← same, zero, pixel_uniform x_lt y_lt]
    decide
  · refine ⟨uniform size 0, rfl, ?_⟩
    rw [pixel_uniform x_lt y_lt]
    exact zero

/-- Ghost pixels are exactly the points of a shape that reappear. -/
theorem Call.noGhostPixels_iff_unaliased (call : Call) (size : Size UInt16)
    (lossless : call.Lossless) : call.NoGhostPixels size ↔ call.Unaliased size := by
  have overwrites := call.draw_overwrites lossless
  constructor
  · intro noGhost a b shape a_lt b_lt
    have isX : ((a % 65536).toNat : Int) = a % 65536 := by omega
    have isY : ((b % 65536).toNat : Int) = b % 65536 := by omega
    have folded : Folded call.Shape (a % 65536).toNat (b % 65536).toNat :=
      ⟨a, b, shape, isX, isY⟩
    have x_lt : (a % 65536).toNat < size.width.toNat := by omega
    have y_lt : (b % 65536).toNat < size.height.toNat := by omega
    rcases overwrites.changes x_lt y_lt folded with ⟨writer, isSize, changed⟩
    have inBox := noGhost writer isSize _ _ x_lt y_lt changed
    rw [isX, isY] at inBox
    exact inBox
  · intro unaliased writer isSize x y x_lt y_lt changed
    by_cases folded : Folded call.Shape x y
    · rcases folded with ⟨a, b, shape, isX, isY⟩
      rw [isX, isY]
      exact unaliased a b shape (by omega) (by omega)
    · exfalso
      apply changed
      rw [← isSize] at x_lt y_lt
      exact overwrites.outside writer x y x_lt y_lt folded

/-- `DrawHLine` over five columns that begin where `uint16_t` ends. -/
theorem drawHLine_ghost :
    ¬∀ (call : Call) (size : Size UInt16), call.NoGhostPixels size := by
  intro noGhost
  have inBox := noGhost (.hLine 65536 65540 0 0xFFFF) ⟨8, 8⟩ (uniform ⟨8, 8⟩ 0) rfl 0 0
    (by decide) (by decide) (by decide)
  exact absurd inBox.1.1 (by decide)

theorem Call.noGhostPixels_iff_unaliased_diagonal :
    (Call.line 0 0 7 7 0xFFFF).NoGhostPixels ⟨8, 8⟩ ↔
      (Call.line 0 0 7 7 0xFFFF).Unaliased ⟨8, 8⟩ :=
  Call.noGhostPixels_iff_unaliased (.line 0 0 7 7 0xFFFF) ⟨8, 8⟩ (by
    constructor <;> decide)

section Near

/-- Only a block needs an extent to have its corners within its box. -/
def Call.Extended (call : Call) : Prop :=
  match call with
  | .rectWH _ _ w h _ _ => 1 ≤ w ∧ 1 ≤ h
  | _ => True

theorem Call.Shape.inBox {call : Call} {a b : Int} (shape : call.Shape a b)
    (lossless : call.Lossless) (extended : call.Extended) : call.Box a b := by
  cases call with
  | line => exact OnLine.inBox shape lossless
  | hLine => exact ⟨⟨shape.1, shape.2.1⟩, shape.2.2⟩
  | rect x1 y1 x2 y2 penColor filled =>
      dsimp only [Call.Shape, Call.RectShape] at shape
      dsimp only [Call.Box]
      split at shape <;> omega
  | rectWH x y w h penColor filled =>
      dsimp only [Call.Shape, Call.RectShape] at shape
      dsimp only [Call.Extended] at extended
      dsimp only [Call.Box]
      split at shape <;> omega
  | circle centerX centerY radius penColor filled =>
      have inDisc : InDisc radius (a - centerX) (b - centerY) := by
        cases filled with
        | false => exact shape.2.2
        | true => exact shape.2
      have near := inDisc.reach_le (Int.le_trans (by decide) shape.1)
      unfold reach at near
      dsimp only [Call.Box]
      omega
  | sprite x y spriteSheet integerScale =>
      rcases shape with
        ⟨scaled, currentX, inWidth, currentY, inHeight, _, inColumn, inRow⟩
      have scale_nonneg : 0 ≤ integerScale := by omega
      have right : integerScale * (currentX + 1) ≤ integerScale * spriteSheet.width :=
        mul_le_mul_of_nonneg_left inWidth.2 scale_nonneg
      have below : integerScale * (currentY + 1) ≤ integerScale * spriteSheet.height :=
        mul_le_mul_of_nonneg_left inHeight.2 scale_nonneg
      have left : 0 ≤ integerScale * currentX := mul_nonneg scale_nonneg inWidth.1
      have above : 0 ≤ integerScale * currentY := mul_nonneg scale_nonneg inHeight.1
      rw [Int.mul_add, Int.mul_one] at right below
      dsimp only [Call.Box]
      omega
  | character => exact shape.2

/-- A shape does not reappear on the framebuffer if it stays clear of it by less
than the `uint16_t` range. -/
theorem Call.unaliased_of_near {call : Call} {size : Size UInt16} (lossless : call.Lossless)
    (extended : call.Extended)
    (near : ∀ a b, call.Box a b →
      ((size.width.toNat : Int) - 65536 ≤ a ∧ a < 65536) ∧
        (size.height.toNat : Int) - 65536 ≤ b ∧ b < 65536) : call.Unaliased size := by
  intro a b shape a_lt b_lt
  have inBox := shape.inBox lossless extended
  have range := near a b inBox
  have sameX : a % 65536 = a := by omega
  have sameY : b % 65536 = b := by omega
  rw [sameX, sameY]
  exact inBox

end Near

end PigweedExperimental.Draw
