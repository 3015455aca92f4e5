import PigweedExperimental.Framebuffer.FramebufferWriter

namespace PigweedExperimental.Draw

/-! # The drawing primitives

A primitive affects a framebuffer by its calls of `SetPixel` only, so it is the
list of these calls with their arguments as the primitive computes them: `int`s,
of which `SetPixel` gets 16 bits. Arithmetic in `int` is taken not to overflow;
what passes through an `int16_t` is cut down to it.
-/

structure SetPixel where
  x : Int
  y : Int
  pixelValue : UInt16
  deriving DecidableEq, Repr

def setPixels (calls : List SetPixel) (writer : FramebufferWriter) : FramebufferWriter :=
  calls.foldl (fun writer call =>
    writer.setPixel (.ofInt call.x) (.ofInt call.y) call.pixelValue) writer

/-- Some of the calls is for a place. -/
def Sets (calls : List SetPixel) (x y : Int) : Prop := ∃ call ∈ calls, call.x = x ∧ call.y = y

section Sets

variable {x y : Int}

@[simp] theorem sets_nil : Sets [] x y ↔ False := by
  apply iff_of_false _ id
  intro found
  rcases found with ⟨_, impossible, _⟩
  cases impossible

@[simp] theorem sets_cons {call : SetPixel} {calls : List SetPixel} :
    Sets (call :: calls) x y ↔ call.x = x ∧ call.y = y ∨ Sets calls x y := by
  dsimp only [Sets]
  simp only [List.mem_cons, exists_eq_or_imp]

@[simp] theorem sets_append {first second : List SetPixel} :
    Sets (first ++ second) x y ↔ Sets first x y ∨ Sets second x y := by
  induction first with
  | nil => simp
  | cons call first induction => rw [List.cons_append, sets_cons, sets_cons, induction, or_assoc]

@[simp] theorem sets_flatMap {Item : Type} {items : List Item} {body : Item → List SetPixel} :
    Sets (items.flatMap body) x y ↔ ∃ item ∈ items, Sets (body item) x y := by
  induction items with
  | nil => simp
  | cons item items induction =>
      rw [List.flatMap_cons, sets_append, induction]
      simp only [List.mem_cons, exists_eq_or_imp]

end Sets

/-- The `int`s from `first` up to, but without, `last`. -/
def intRange (first last : Int) : List Int :=
  (List.range (last - first).toNat).map fun (offset : Nat) => first + offset

@[simp] theorem mem_intRange {first last value : Int} :
    value ∈ intRange first last ↔ first ≤ value ∧ value < last := by
  rw [intRange]
  rw [List.mem_map]
  constructor
  · intro found
    rcases found with ⟨offset, inRange, rfl⟩
    rw [List.mem_range] at inRange
    omega
  · intro inRange
    refine ⟨(value - first).toNat, ?_, ?_⟩
    · rw [List.mem_range]
      omega
    · omega

/-- An `int` after its conversion to `int16_t`. -/
def int16 (value : Int) : Int := value.bmod 65536

def FitsInt16 (value : Int) : Prop := -32768 ≤ value ∧ value ≤ 32767

instance (value : Int) : Decidable (FitsInt16 value) := inferInstanceAs (Decidable (_ ∧ _))

theorem int16_eq {value : Int} (fits : FitsInt16 value) : int16 value = value :=
  Int.bmod_eq_of_le fits.1 (Int.lt_add_one_of_le fits.2)

section Line

/-- The two ends of a line, and the swaps that `DrawLine` does on them through
its `int16_t temp`. -/
structure Ends where
  x1 : Int
  y1 : Int
  x2 : Int
  y2 : Int
  deriving DecidableEq, Repr

def Ends.steepGradient (ends : Ends) : Bool :=
  (ends.y2 - ends.y1).natAbs > (ends.x2 - ends.x1).natAbs

/-- `if (steep_gradient)`: exchange the axes. -/
def Ends.swapAxes (ends : Ends) : Ends :=
  if ends.steepGradient then
    ⟨ends.y1, int16 ends.x1, ends.y2, int16 ends.x2⟩
  else
    ends

/-- `if (x1 > x2)`: exchange the ends. -/
def Ends.swapEnds (ends : Ends) : Ends :=
  if ends.x1 > ends.x2 then
    ⟨ends.x2, ends.y2, int16 ends.x1, int16 ends.y1⟩
  else
    ends

structure LineState where
  y1 : Int
  errorValue : Int
  deriving DecidableEq, Repr

/-- The end of the loop body, after the pixel is set. -/
def lineStep (dx dy ystep : Int) (state : LineState) : LineState :=
  let errorValue := int16 (state.errorValue - dy)
  if errorValue < 0 then
    { y1 := state.y1 + ystep, errorValue := int16 (errorValue + dx) }
  else
    { state with errorValue }

/-- `for (; x1 <= x2; x1++)` -/
def lineLoop (steepGradient : Bool) (dx dy ystep : Int) (penColor : UInt16) (count : Nat)
    (x1 : Int) (state : LineState) : List SetPixel :=
  match count with
  | 0 => []
  | count + 1 =>
      (if steepGradient then ⟨state.y1, x1, penColor⟩ else ⟨x1, state.y1, penColor⟩) ::
        lineLoop steepGradient dx dy ystep penColor count (x1 + 1) (lineStep dx dy ystep state)

def drawLine (x1 y1 x2 y2 : Int) (penColor : UInt16) : List SetPixel :=
  let given : Ends := ⟨x1, y1, x2, y2⟩
  let ends := given.swapAxes.swapEnds
  let dx := int16 (ends.x2 - ends.x1)
  let dy := int16 (ends.y2 - ends.y1).natAbs
  let errorValue := int16 (dx.tdiv 2)
  let ystep := if ends.y1 < ends.y2 then 1 else -1
  lineLoop given.steepGradient dx dy ystep penColor (ends.x2 + 1 - ends.x1).toNat ends.x1
    { y1 := ends.y1, errorValue }

end Line

section Circle

/-- The variables of the loop that follows a quarter of the circle. -/
structure CircleState where
  x : Int
  y : Int
  errorValue : Int
  deriving DecidableEq, Repr

def CircleState.initial (radius : Int) : CircleState where
  x := -radius
  y := 0
  errorValue := 2 - 2 * radius

/-- The end of the loop body, after the pixels are set. -/
def circleStep (state : CircleState) : CircleState :=
  let radius := state.errorValue
  let stepped :=
    if radius ≤ state.y then
      { state with
        y := state.y + 1
        errorValue := state.errorValue + ((state.y + 1) * 2 + 1) }
    else
      state
  if radius > stepped.x ∨ stepped.errorValue > stepped.y then
    { stepped with
      x := stepped.x + 1
      errorValue := stepped.errorValue + ((stepped.x + 1) * 2 + 1) }
  else
    stepped

/-- The pixels of one iteration, in each of the four quarters. -/
def circlePixels (centerX centerY : Int) (penColor : UInt16) (filled : Bool)
    (state : CircleState) : List SetPixel :=
  let fx := if filled then 0 else state.x
  let fy := if filled then 0 else state.y
  ((intRange state.x (fx + 1)).flatMap fun i => [
    ⟨centerX - i, centerY + state.y, penColor⟩,
    ⟨centerX + i, centerY - state.y, penColor⟩]) ++
  (intRange fy (state.y + 1)).flatMap fun i => [
    ⟨centerX - i, centerY - state.x, penColor⟩,
    ⟨centerX + i, centerY + state.x, penColor⟩]

/-- `while (x < 0)`, for a number of iterations that leads to its end, as
`circleLoop_ends` says. -/
def circleLoop (iterations : Nat) (state : CircleState) : List CircleState × CircleState :=
  match iterations with
  | 0 => ([], state)
  | iterations + 1 =>
      if state.x < 0 then
        let (states, last) := circleLoop iterations (circleStep state)
        (state :: states, last)
      else
        ([], state)

def circleIterations (radius : Int) : Nat := (2 * radius).toNat

def drawCircle (centerX centerY radius : Int) (penColor : UInt16) (filled : Bool) :
    List SetPixel :=
  (circleLoop (circleIterations radius) (.initial radius)).1.flatMap
    (circlePixels centerX centerY penColor filled)

end Circle

section Rectangle

def drawHLine (x1 x2 y : Int) (penColor : UInt16) : List SetPixel :=
  (intRange x1 (x2 + 1)).map fun i => ⟨i, y, penColor⟩

@[simp] theorem sets_drawHLine {x1 x2 y a b : Int} {penColor : UInt16} :
    Sets (drawHLine x1 x2 y penColor) a b ↔ x1 ≤ a ∧ a ≤ x2 ∧ b = y := by
  rw [Sets, drawHLine]
  constructor
  · intro found
    rcases found with ⟨call, isCall, rfl, rfl⟩
    rw [List.mem_map] at isCall
    rcases isCall with ⟨i, inRange, rfl⟩
    rw [mem_intRange] at inRange
    exact ⟨inRange.1, Int.le_of_lt_add_one inRange.2, rfl⟩
  · intro place
    rcases place with ⟨first, last, rfl⟩
    refine ⟨⟨a, b, penColor⟩, ?_, rfl, rfl⟩
    rw [List.mem_map]
    exact ⟨a, mem_intRange.mpr ⟨first, Int.lt_add_one_of_le last⟩, rfl⟩

def drawRect (x1 y1 x2 y2 : Int) (penColor : UInt16) (filled : Bool) : List SetPixel :=
  drawHLine x1 x2 y1 penColor ++ drawHLine x1 x2 y2 penColor ++
    (intRange (y1 + 1) y2).flatMap fun y =>
      if filled then
        drawHLine x1 x2 y penColor
      else
        [⟨x1, y, penColor⟩, ⟨x2, y, penColor⟩]

def drawRectWH (x y w h : Int) (penColor : UInt16) (filled : Bool) : List SetPixel :=
  drawRect x y (x - 1 + w) (y - 1 + h) penColor filled

@[simp] theorem sets_drawRect {x1 y1 x2 y2 a b : Int} {penColor : UInt16} {filled : Bool} :
    Sets (drawRect x1 y1 x2 y2 penColor filled) a b ↔
      x1 ≤ a ∧ a ≤ x2 ∧ (b = y1 ∨ b = y2) ∨
        (y1 < b ∧ b < y2) ∧ if filled then x1 ≤ a ∧ a ≤ x2 else a = x1 ∨ a = x2 := by
  rw [drawRect]
  cases filled with
  | false =>
      simp only [sets_append, sets_drawHLine, sets_flatMap, mem_intRange, Bool.false_eq_true,
        if_false, sets_cons, sets_nil, or_false]
      constructor
      · intro found
        rcases found with (top | bottom) | ⟨y, inRange, sides⟩
        · omega
        · omega
        · omega
      · intro place
        rcases place with horizontal | ⟨inside, sides⟩
        · left
          omega
        · right
          exact ⟨b, by omega, by omega⟩
  | true =>
      simp only [sets_append, sets_drawHLine, sets_flatMap, mem_intRange, if_true]
      constructor
      · intro found
        rcases found with (top | bottom) | ⟨y, inRange, row⟩
        · omega
        · omega
        · omega
      · intro place
        rcases place with horizontal | ⟨inside, row⟩
        · left
          omega
        · right
          exact ⟨b, by omega, by omega⟩

end Rectangle

section Sprite

/-- A sheet of sprites of one size. `data` is the memory its pixels are in; the
sheet itself does not know how far they go. -/
structure SpriteSheet where
  width : Int
  height : Int
  count : Int
  transparentColor : UInt16
  data : Int → UInt16
  currentIndex : Int
  indexDirection : Int

/-- Where `GetColor` reads. -/
def SpriteSheet.colorIndex (spriteSheet : SpriteSheet) (x y spriteIndex : Int) : Int :=
  let startY := spriteIndex * spriteSheet.height + y
  startY * spriteSheet.width + x

def SpriteSheet.getColor (spriteSheet : SpriteSheet) (x y spriteIndex : Int) : UInt16 :=
  spriteSheet.data (spriteSheet.colorIndex x y spriteIndex)

/-- One pixel of the sprite, at its scale. -/
def spritePixel (x y : Int) (spriteSheet : SpriteSheet) (integerScale : Int)
    (currentX currentY : Int) : List SetPixel :=
  let color := spriteSheet.getColor currentX currentY spriteSheet.currentIndex
  if color ≠ spriteSheet.transparentColor then
    if integerScale = 1 then
      [⟨x + currentX, y + currentY, color⟩]
    else if integerScale > 1 then
      let startX := x + integerScale * currentX
      let startY := y + integerScale * currentY
      drawRectWH startX startY integerScale integerScale color true
    else
      []
  else
    []

def drawSprite (x y : Int) (spriteSheet : SpriteSheet) (integerScale : Int) : List SetPixel :=
  (intRange 0 spriteSheet.width).flatMap fun currentX =>
    (intRange 0 spriteSheet.height).flatMap fun currentY =>
      spritePixel x y spriteSheet integerScale currentX currentY

section Blocks

variable {x y a b : Int} {spriteSheet : SpriteSheet} {integerScale : Int}

/-- A pixel that is not transparent covers its block. -/
theorem sets_spritePixel {currentX currentY : Int} :
    Sets (spritePixel x y spriteSheet integerScale currentX currentY) a b ↔
      1 ≤ integerScale ∧
        spriteSheet.getColor currentX currentY spriteSheet.currentIndex ≠
          spriteSheet.transparentColor ∧
        (0 ≤ a - (x + integerScale * currentX) ∧
          a - (x + integerScale * currentX) < integerScale) ∧
        (0 ≤ b - (y + integerScale * currentY) ∧
          b - (y + integerScale * currentY) < integerScale) := by
  rw [spritePixel]
  dsimp only
  split
  · rename_i drawn
    split
    · rename_i unscaled
      rw [sets_cons, unscaled]
      simp only [sets_nil, or_false, Int.one_mul, eq_true drawn, true_and]
      omega
    · split
      · rw [drawRectWH]
        simp only [sets_drawRect, if_true, eq_true drawn, true_and]
        omega
      · rw [sets_nil, false_iff]
        omega
  · rename_i transparent
    simp only [sets_nil, eq_false transparent, false_and, and_false]

/-- A sprite covers the blocks of those of its pixels that are not transparent. -/
theorem sets_drawSprite :
    Sets (drawSprite x y spriteSheet integerScale) a b ↔
      1 ≤ integerScale ∧ ∃ currentX, (0 ≤ currentX ∧ currentX < spriteSheet.width) ∧
        ∃ currentY, (0 ≤ currentY ∧ currentY < spriteSheet.height) ∧
          spriteSheet.getColor currentX currentY spriteSheet.currentIndex ≠
            spriteSheet.transparentColor ∧
          (0 ≤ a - (x + integerScale * currentX) ∧
            a - (x + integerScale * currentX) < integerScale) ∧
          (0 ≤ b - (y + integerScale * currentY) ∧
            b - (y + integerScale * currentY) < integerScale) := by
  rw [drawSprite]
  simp only [sets_flatMap, mem_intRange, sets_spritePixel]
  constructor
  · intro found
    rcases found with ⟨currentX, inWidth, currentY, inHeight, scaled, place⟩
    exact ⟨scaled, currentX, inWidth, currentY, inHeight, place⟩
  · intro found
    rcases found with ⟨scaled, currentX, inWidth, currentY, inHeight, place⟩
    exact ⟨currentX, inWidth, currentY, inHeight, scaled, place⟩

end Blocks

end Sprite

end PigweedExperimental.Draw
