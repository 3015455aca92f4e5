import PigweedExperimental.Draw.TextArea
import PigweedExperimental.Foundation.Execution

namespace PigweedExperimental.Draw.TextArea

/-! # The steps of a text

A call on a `TextArea` is taken apart into the line breaks, glyphs and cursor
movements that it makes, so that the states in between can be spoken of.
-/

inductive Step where
  | setCursor (x y : Int)
  | setFont (newFont : FontSet)
  | lineBreak
  | paint (character : Int)
  | moveRight

def perform (area : TextArea) : Step → TextArea
  | .setCursor x y => area.setCursor x y
  | .setFont newFont => area.setFont newFont
  | .lineBreak => area.insertLineBreak
  | .paint character => { area with
      framebuffer := (Draw.drawCharacter character ⟨area.cursorX, area.cursorY⟩
        area.foregroundColor area.backgroundColor area.currentFont area.framebuffer).2 }
  | .moveRight => area.moveCursorRightOnce

def machine : Machine TextArea Step where
  Enabled := fun _ _ => True
  step := fun area step => some (area.perform step)

/-- The glyph at the cursor would reach beyond the right edge. -/
def Wraps (area : TextArea) : Prop :=
  area.characterWrapEnabled ∧
    area.currentFont.width.toNat + area.cursorX > area.framebuffer.width.toNat

instance (area : TextArea) : Decidable area.Wraps := inferInstanceAs (Decidable (_ ∧ _))

def characterSteps (area : TextArea) (character : Int) : List Step :=
  if character = newline then
    [.lineBreak]
  else if ¬area.currentFont.Has character then
    [.moveRight]
  else if area.Wraps then
    [.lineBreak, .paint character, .moveRight]
  else
    [.paint character, .moveRight]

def textSteps (area : TextArea) : List Int → List Step
  | [] => []
  | character :: rest =>
      area.characterSteps character ++ (area.drawCharacter character).textSteps rest

/-- The calls that draw text or move the cursor. -/
inductive Call where
  | setCursor (x y : Int)
  | setFont (newFont : FontSet)
  | insertLineBreak
  | drawCharacter (character : Int)
  | drawCharacterAt (character x y : Int)
  | drawText (str : List Int)
  | drawTextAt (str : List Int) (x y : Int)

/-- `DrawCharacter(character, x, y)` -/
def drawCharacterAt (area : TextArea) (character x y : Int) : TextArea :=
  (area.setCursor x y).drawCharacter character

/-- `DrawText(str, x, y)` -/
def drawTextAt (area : TextArea) (str : List Int) (x y : Int) : TextArea :=
  (area.setCursor x y).drawText str

def call (area : TextArea) : Call → TextArea
  | .setCursor x y => area.setCursor x y
  | .setFont newFont => area.setFont newFont
  | .insertLineBreak => area.insertLineBreak
  | .drawCharacter character => area.drawCharacter character
  | .drawCharacterAt character x y => area.drawCharacterAt character x y
  | .drawText str => area.drawText str
  | .drawTextAt str x y => area.drawTextAt str x y

def callSteps (area : TextArea) : Call → List Step
  | .setCursor x y => [.setCursor x y]
  | .setFont newFont => [.setFont newFont]
  | .insertLineBreak => [.lineBreak]
  | .drawCharacter character => area.characterSteps character
  | .drawCharacterAt character x y =>
      .setCursor x y :: (area.setCursor x y).characterSteps character
  | .drawText str => area.textSteps (untilNul str)
  | .drawTextAt str x y => .setCursor x y :: (area.setCursor x y).textSteps (untilNul str)

def steps (area : TextArea) : List Call → List Step
  | [] => []
  | call :: rest => area.callSteps call ++ (area.call call).steps rest

section Steps

theorem not_has_iff {font : FontSet} {character : Int} :
    ¬font.Has character ↔
      character < font.startingCharacter ∨ character > font.endingCharacter := by
  rw [FontSet.Has]
  omega

/-- The steps of a character are what `DrawCharacter` does. -/
theorem perform_characterSteps (area : TextArea) (character : Int) :
    (area.characterSteps character).foldl perform area = area.drawCharacter character := by
  rw [characterSteps, drawCharacter]
  by_cases isNewline : character = newline
  · rw [if_pos isNewline, if_pos isNewline]
    rfl
  · rw [if_neg isNewline, if_neg isNewline, if_congr not_has_iff rfl rfl]
    split
    · rfl
    · by_cases wraps : area.Wraps
      · rw [if_pos wraps, if_pos (c := _ ∧ _) wraps]
        rfl
      · rw [if_neg wraps, if_neg (c := _ ∧ _) wraps]
        rfl

theorem perform_textSteps (area : TextArea) (characters : List Int) :
    (area.textSteps characters).foldl perform area = characters.foldl drawCharacter area := by
  induction characters generalizing area with
  | nil => rfl
  | cons character rest induction =>
      rw [textSteps, List.foldl_append, perform_characterSteps, induction]
      rfl

theorem perform_callSteps (area : TextArea) (call : Call) :
    (area.callSteps call).foldl perform area = area.call call := by
  cases call with
  | setCursor => rfl
  | setFont => rfl
  | insertLineBreak => rfl
  | drawCharacter => exact area.perform_characterSteps _
  | drawCharacterAt => exact (area.setCursor _ _).perform_characterSteps _
  | drawText => exact area.perform_textSteps _
  | drawTextAt => exact (area.setCursor _ _).perform_textSteps _

/-- Nothing is lost by looking at calls step by step. -/
theorem perform_steps (area : TextArea) (calls : List Call) :
    (area.steps calls).foldl perform area = calls.foldl call area := by
  induction calls generalizing area with
  | nil => rfl
  | cons next rest induction =>
      rw [steps, List.foldl_append, perform_callSteps, induction]
      rfl

theorem run_steps (area : TextArea) (steps : List Step) :
    machine.Run area steps (steps.foldl perform area) := by
  induction steps generalizing area with
  | nil => exact .nil area
  | cons step rest induction => exact .cons trivial rfl (induction _)

end Steps

end PigweedExperimental.Draw.TextArea
