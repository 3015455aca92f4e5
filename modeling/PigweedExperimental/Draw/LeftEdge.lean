import PigweedExperimental.Draw.TextSteps
import Mathlib.Algebra.Order.Ring.Int

namespace PigweedExperimental.Draw.TextArea

/-! # The left edge of a line

A line break moves the cursor back by the columns of the line, in widths of the
font that is current then. This is the left edge as long as no other width has
been used for the line.
-/

/-- A `TextArea` with the `x` of the latest `SetCursor`. -/
structure Tracked where
  area : TextArea
  left : Int

namespace Tracked

def perform (tracked : Tracked) (step : Step) : Tracked where
  area := tracked.area.perform step
  left :=
    match step with
    | .setCursor x _ => x
    | _ => tracked.left

def machine : Machine Tracked Step where
  Enabled := fun _ _ => True
  step := fun tracked step => some (tracked.perform step)

/-- A constructed `TextArea`. -/
def create (framebuffer : FramebufferWriter) (font : FontSet) (characterWrap : Bool) : Tracked where
  area := (TextArea.create framebuffer font).setCharacterWrap characterWrap
  left := 0

/-- A line break returns the cursor to the left edge. -/
def BreaksReturn (tracked : Tracked) (step : Step) : Prop :=
  step = .lineBreak → (tracked.perform step).area.cursorX = tracked.left

/-- Within a line, a new font has the glyph width of the old one. -/
def KeepsWidth (tracked : Tracked) (step : Step) : Prop :=
  ∀ newFont, step = .setFont newFont →
    tracked.area.columnCount = 0 ∨ newFont.width = tracked.area.currentFont.width

/-- The columns of the line account for the cursor's distance to the left edge. -/
def InStep (tracked : Tracked) : Prop :=
  tracked.area.cursorX =
    tracked.left + tracked.area.columnCount * tracked.area.currentFont.width.toNat

section Lines

variable {tracked next : Tracked} {step : Step}

theorem insertLineBreak_cursor (area : TextArea) :
    area.insertLineBreak.cursorX =
        area.cursorX - area.columnCount * area.currentFont.width.toNat ∧
      area.insertLineBreak.columnCount = 0 := by
  by_cases full : area.cursorY + area.currentFont.height.toNat ≥ area.framebuffer.height.toNat
  · rw [insertLineBreak_of_full full]
    exact ⟨rfl, rfl⟩
  · rw [insertLineBreak_of_room full]
    exact ⟨rfl, rfl⟩

theorem InStep.breaksReturn (inStep : tracked.InStep) : tracked.BreaksReturn step := by
  intro isBreak
  subst isBreak
  rw [InStep] at inStep
  calc tracked.area.insertLineBreak.cursorX
    _ = tracked.area.cursorX -
        tracked.area.columnCount * tracked.area.currentFont.width.toNat :=
          (insertLineBreak_cursor _).1
    _ = tracked.left := by rw [inStep, add_sub_cancel_right]

/-- What one step does to the account: only a new width can upset it. -/
theorem inStep_perform_iff (inStep : tracked.InStep) :
    (tracked.perform step).InStep ↔ tracked.KeepsWidth step := by
  have returned : tracked.area.insertLineBreak.cursorX = tracked.left :=
    @InStep.breaksReturn _ .lineBreak inStep rfl
  rw [InStep] at inStep
  cases step with
  | setCursor x y =>
      apply iff_of_true _ nofun
      change x = x + 0 * _
      rw [zero_mul, add_zero]
  | setFont newFont =>
      have keeps : tracked.KeepsWidth (.setFont newFont) ↔
          tracked.area.columnCount = 0 ∨ newFont.width = tracked.area.currentFont.width := by
        constructor
        · intro all
          exact all newFont rfl
        · intro same _ isFont
          cases isFont
          exact same
      rw [keeps]
      change tracked.area.cursorX =
        tracked.left + tracked.area.columnCount * newFont.width.toNat ↔ _
      rw [inStep, add_right_inj, mul_eq_mul_left_iff, Int.natCast_inj, UInt8.toNat_inj, or_comm,
        @eq_comm _ newFont.width]
  | lineBreak =>
      apply iff_of_true _ nofun
      change tracked.area.insertLineBreak.cursorX = tracked.left +
        tracked.area.insertLineBreak.columnCount * _
      rw [(insertLineBreak_cursor _).2, zero_mul, add_zero]
      exact returned
  | paint character => exact iff_of_true inStep nofun
  | moveRight =>
      apply iff_of_true _ nofun
      change tracked.area.cursorX + tracked.area.currentFont.width.toNat =
        tracked.left + (tracked.area.columnCount + 1) * tracked.area.currentFont.width.toNat
      rw [inStep, add_mul, one_mul, add_assoc]

theorem create_inStep (framebuffer : FramebufferWriter) (font : FontSet) (characterWrap : Bool) :
    (create framebuffer font characterWrap).InStep := by
  change (0 : Int) = 0 + 0 * _
  rw [zero_mul, add_zero]

theorem run_steps (tracked : Tracked) (steps : List Step) :
    machine.Run tracked steps (steps.foldl perform tracked) := by
  induction steps generalizing tracked with
  | nil => exact .nil tracked
  | cons step rest induction => exact .cons trivial rfl (induction _)

/-- A line break would return at any point exactly as long as no width changes
within a line. -/
theorem inStep_throughout_iff (inStep : tracked.InStep) (steps : List Step) :
    machine.Throughout InStep tracked steps ↔ machine.EveryStep KeepsWidth tracked steps := by
  apply (tracked.run_steps steps).throughout_iff_everyStep (fun _ => True)
  case preserved => intros; trivial
  case exactStep =>
    intro state step next _ inStep _ performed
    cases performed
    exact inStep_perform_iff inStep
  case initialAuxiliary => trivial
  case initially => exact inStep

/-- Every line break of every text returns to the left edge, if fonts of another
width are set only where a line begins. -/
theorem lineBreaks_return (framebuffer : FramebufferWriter) (font : FontSet)
    (characterWrap : Bool) (calls : List Call)
    (keepsWidth : machine.EveryStep KeepsWidth (create framebuffer font characterWrap)
      ((create framebuffer font characterWrap).area.steps calls)) :
    machine.EveryStep BreaksReturn (create framebuffer font characterWrap)
      ((create framebuffer font characterWrap).area.steps calls) := by
  apply (run_steps _ _).everyStep_of_everyStep InStep ?preserved ?entails (create_inStep ..)
    keepsWidth
  case preserved =>
    intro state step next inStep keeps _ performed
    cases performed
    exact (inStep_perform_iff inStep).mpr keeps
  case entails =>
    intro state step inStep _ _
    exact inStep.breaksReturn

/-- Fonts of two and three pixels' width, without a pixel set. -/
def narrow : FontSet := ⟨#[0], 2, 1, 65, 65, by decide⟩

def wide : FontSet := ⟨#[0], 3, 1, 65, 65, by decide⟩

def strip : FramebufferWriter where
  framebuffer := ⟨1, .rgb565, ⟨8, 1⟩, 16⟩
  data := Array.replicate 8 0
  isRgb565 := rfl
  isValid := rfl
  covered := by decide

/-- A character that no font has moves the cursor, and a wider font is set. -/
def widened : List Call := [.drawCharacter 97, .setFont wide, .insertLineBreak]

theorem widened_steps :
    (create strip narrow true).area.steps widened =
      [.moveRight, .setFont wide, .lineBreak] := rfl

/-- The wider font is set where the next line begins. -/
theorem lineBreaks_return_betweenLines :
    let calls := [.setCursor 1 0, .drawCharacter 97, .insertLineBreak, .setFont wide,
      .drawCharacter 97, .insertLineBreak]
    machine.EveryStep BreaksReturn (create strip narrow true)
      ((create strip narrow true).area.steps calls) := by
  intro calls
  apply lineBreaks_return
  have steps_eq : (create strip narrow true).area.steps calls =
      [.setCursor 1 0, .moveRight, .lineBreak, .setFont wide, .moveRight, .lineBreak] := rfl
  rw [steps_eq]
  refine .cons nofun rfl (.cons nofun rfl (.cons nofun rfl (.cons ?_ rfl
    (.cons nofun rfl (.cons nofun rfl trivial)))))
  intro _ _
  exact .inl rfl

/-- Two pixels to the right, the line break goes three pixels back. -/
theorem widened_not_returned :
    ¬machine.EveryStep BreaksReturn (create strip narrow true)
      ((create strip narrow true).area.steps widened) := by
  rw [widened_steps]
  intro everyStep
  have atBreak := (((everyStep.2 _ rfl).2 _ rfl).1 rfl)
  revert atBreak
  decide

end Lines

end Tracked

end PigweedExperimental.Draw.TextArea
