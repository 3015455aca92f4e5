import PigweedExperimental.Draw.TextSteps

namespace PigweedExperimental.Draw.TextArea

/-! # Where text is visible

Text that starts within the framebuffer stays within it to the right. At the
bottom it does so only as long as whole lines fit: the last line begins above
the bottom edge and may reach beyond it.
-/

/-- The cell at the cursor lies within the framebuffer. -/
def CellInside (area : TextArea) : Prop :=
  (0 ≤ area.cursorX ∧
    area.cursorX ≤ (area.framebuffer.width.toNat : Int) - area.currentFont.width.toNat) ∧
  0 ≤ area.cursorY ∧
    area.cursorY ≤ (area.framebuffer.height.toNat : Int) - area.currentFont.height.toNat

def PaintsInside (area : TextArea) (step : Step) : Prop :=
  ∀ character, step = .paint character → area.CellInside

theorem paintsInside_lineBreak (area : TextArea) : area.PaintsInside .lineBreak :=
  fun _ isPaint => Step.noConfusion isPaint

theorem paintsInside_moveRight (area : TextArea) : area.PaintsInside .moveRight :=
  fun _ isPaint => Step.noConfusion isPaint

/-- What stays the same while a text is drawn: a framebuffer, a font, and a
start at which a cell fits. -/
structure Page where
  framebuffer : Framebuffer
  font : FontSet
  left : Nat
  top : Nat
  fitsWidth : left + font.width.toNat ≤ framebuffer.size.width.toNat
  fitsHeight : top + font.height.toNat ≤ framebuffer.size.height.toNat

namespace Page

/-- The height from the first line to the bottom edge. -/
def room (page : Page) : Nat := page.framebuffer.size.height.toNat - page.top

/-- The line that begins last above the bottom edge, and is scrolled from then on. -/
def lastLine (page : Page) : Nat := (page.room - 1) / page.font.height.toNat

def lineY (page : Page) (line : Nat) : Nat :=
  page.top + min line page.lastLine * page.font.height.toNat

/-- A line has a column of this number. -/
def Fits (page : Page) (column : Nat) : Prop :=
  page.left + (column + 1) * page.font.width.toNat ≤ page.framebuffer.size.width.toNat

instance (page : Page) (column : Nat) : Decidable (page.Fits column) :=
  inferInstanceAs (Decidable (_ ≤ _))

/-- The lines of those characters of a text that have a glyph, counted by the
newlines and the full lines before them. -/
def paintedLines (page : Page) (line column : Nat) : List Int → List Nat
  | [] => []
  | character :: rest =>
      if character = newline then
        page.paintedLines (line + 1) 0 rest
      else if ¬page.font.Has character then
        page.paintedLines line (column + 1) rest
      else if page.Fits column then
        line :: page.paintedLines line (column + 1) rest
      else
        (line + 1) :: page.paintedLines (line + 1) 1 rest

/-- The cells of a line end above the bottom edge. -/
def Visible (page : Page) (line : Nat) : Prop :=
  page.lineY line + page.font.height.toNat ≤ page.framebuffer.size.height.toNat

/-- Whole lines fill the room, or the line is one of those that fit. -/
theorem visible_iff {page : Page} {line : Nat} :
    page.Visible line ↔
      (page.font.height.toNat = 0 ∨ page.font.height.toNat ∣ page.room) ∨
        line < page.room / page.font.height.toNat := by
  have fitsHeight := page.fitsHeight
  have room_eq : page.framebuffer.size.height.toNat = page.top + page.room := by
    rw [room]
    omega
  rw [Visible, lineY, room_eq, Nat.add_assoc, Nat.add_le_add_iff_left]
  by_cases flat : page.font.height.toNat = 0
  · apply iff_of_true _ (.inl (.inl flat))
    rw [flat, Nat.mul_zero]
    exact Nat.zero_le _
  · have positive : 0 < page.font.height.toNat := Nat.pos_of_ne_zero flat
    have lines : page.room / page.font.height.toNat = page.lastLine +
        if page.font.height.toNat ∣ page.room then 1 else 0 := by
      rw [lastLine]
      have someRoom : page.room = page.room - 1 + 1 := by omega
      conv => left; rw [someRoom]
      rw [Nat.succ_div, ← someRoom]
    rw [← Nat.succ_mul, ← Nat.le_div_iff_mul_le positive, lines]
    split
    · rename_i whole
      apply iff_of_true _ (.inl (.inr whole))
      omega
    · rename_i clipped
      simp only [flat, clipped, or_self, false_or]
      omega

/-- Whether a line break scrolls: the next line would begin at the bottom edge or
below it. -/
theorem full_iff {page : Page} {line : Nat} (positive : 0 < page.font.height.toNat) :
    page.framebuffer.size.height.toNat ≤ page.lineY line + page.font.height.toNat ↔
      page.lastLine ≤ line := by
  have fitsHeight := page.fitsHeight
  have room_eq : page.framebuffer.size.height.toNat = page.top + page.room := by
    rw [room]
    omega
  have next (count : Nat) : page.room ≤ count * page.font.height.toNat ↔
      page.lastLine < count := by
    rw [lastLine, Nat.div_lt_iff_lt_mul positive]
    omega
  rw [lineY, room_eq, Nat.add_assoc, Nat.add_le_add_iff_left, ← Nat.succ_mul, next]
  omega

/-- A line break goes to the next line, or stays in the last one. -/
theorem lineY_succ (page : Page) (line : Nat) :
    page.lineY (line + 1) =
      if page.framebuffer.size.height.toNat ≤ page.lineY line + page.font.height.toNat then
        page.lineY line
      else
        page.lineY line + page.font.height.toNat := by
  by_cases flat : page.font.height.toNat = 0
  · rw [lineY, lineY, flat, Nat.mul_zero, Nat.mul_zero]
    split <;> rfl
  · have positive : 0 < page.font.height.toNat := Nat.pos_of_ne_zero flat
    rw [if_congr (full_iff positive) rfl rfl, lineY, lineY]
    split
    · rename_i full
      rw [Nat.min_eq_right full, Nat.min_eq_right (Nat.le_succ_of_le full)]
    · rename_i room
      rw [Nat.min_eq_left (Nat.le_of_not_le room), Nat.min_eq_left (Nat.lt_of_not_le room),
        Nat.succ_mul, Nat.add_assoc]

end Page

/-- The cursor is in a column of a line of the page. -/
structure At (page : Page) (line column : Nat) (area : TextArea) : Prop where
  framebuffer_eq : area.framebuffer.framebuffer = page.framebuffer
  font_eq : area.currentFont = page.font
  wraps : area.characterWrapEnabled = true
  cursorX_eq : area.cursorX = (page.left + column * page.font.width.toNat : Nat)
  columnCount_eq : area.columnCount = column
  cursorY_eq : area.cursorY = page.lineY line

namespace At

variable {page : Page} {line column : Nat} {area : TextArea}

theorem width_eq (isAt : At page line column area) :
    area.framebuffer.width = page.framebuffer.size.width := by
  rw [FramebufferWriter.width, isAt.framebuffer_eq]

theorem height_eq (isAt : At page line column area) :
    area.framebuffer.height = page.framebuffer.size.height := by
  rw [FramebufferWriter.height, isAt.framebuffer_eq]

theorem lineBreak (isAt : At page line column area) :
    At page (line + 1) 0 area.insertLineBreak := by
  have returned : area.cursorX - area.columnCount * area.currentFont.width.toNat =
      (page.left + 0 * page.font.width.toNat : Nat) := by
    rw [isAt.cursorX_eq, isAt.columnCount_eq, isAt.font_eq, Nat.zero_mul, Nat.cast_add,
      Nat.cast_mul]
    omega
  have next := page.lineY_succ line
  by_cases full : area.cursorY + area.currentFont.height.toNat ≥ area.framebuffer.height.toNat
  · rw [insertLineBreak_of_full full]
    rw [isAt.cursorY_eq, isAt.font_eq, isAt.height_eq] at full
    rw [if_pos (by omega)] at next
    exact {
      framebuffer_eq :=
        (@scrollUp_paints area 1 (by decide)).framebuffer_eq.trans isAt.framebuffer_eq
      font_eq := isAt.font_eq
      wraps := isAt.wraps
      cursorX_eq := returned
      columnCount_eq := rfl
      cursorY_eq := isAt.cursorY_eq.trans (congrArg _ next.symm) }
  · rw [insertLineBreak_of_room full]
    rw [isAt.cursorY_eq, isAt.font_eq, isAt.height_eq] at full
    rw [if_neg (by omega)] at next
    exact {
      framebuffer_eq := isAt.framebuffer_eq
      font_eq := isAt.font_eq
      wraps := isAt.wraps
      cursorX_eq := returned
      columnCount_eq := rfl
      cursorY_eq := by
        dsimp only
        rw [isAt.cursorY_eq, isAt.font_eq, next, Nat.cast_add] }

theorem moveRight (isAt : At page line column area) :
    At page line (column + 1) area.moveCursorRightOnce where
  framebuffer_eq := isAt.framebuffer_eq
  font_eq := isAt.font_eq
  wraps := isAt.wraps
  cursorX_eq := by
    dsimp only [moveCursorRightOnce]
    rw [isAt.cursorX_eq, isAt.font_eq, Nat.succ_mul, ← Nat.add_assoc, ← Nat.cast_add]
  columnCount_eq := by
    dsimp only [moveCursorRightOnce]
    rw [isAt.columnCount_eq, Nat.cast_succ]
  cursorY_eq := isAt.cursorY_eq

theorem paint (isAt : At page line column area) (character : Int) :
    At page line column (area.perform (.paint character)) where
  framebuffer_eq := (drawCharacter_framebuffer ..).trans isAt.framebuffer_eq
  font_eq := isAt.font_eq
  wraps := isAt.wraps
  cursorX_eq := isAt.cursorX_eq
  columnCount_eq := isAt.columnCount_eq
  cursorY_eq := isAt.cursorY_eq

theorem wraps_iff (isAt : At page line column area) : area.Wraps ↔ ¬page.Fits column := by
  rw [Wraps, Page.Fits, isAt.wraps, isAt.font_eq, isAt.cursorX_eq, isAt.width_eq, Nat.succ_mul]
  simp only [true_and]
  omega

/-- Where a column fits, the line decides. -/
theorem cellInside_iff (isAt : At page line column area) (fits : page.Fits column) :
    area.CellInside ↔ page.Visible line := by
  rw [Page.Fits, Nat.succ_mul] at fits
  rw [CellInside, isAt.cursorX_eq, isAt.cursorY_eq, isAt.font_eq, isAt.width_eq, isAt.height_eq,
    Page.Visible]
  omega

end At

section Text

variable {page : Page} {line column : Nat} {area : TextArea}

theorem everyStep_cons_iff {step : Step} {steps : List Step} :
    machine.EveryStep PaintsInside area (step :: steps) ↔
      area.PaintsInside step ∧ machine.EveryStep PaintsInside (area.perform step) steps := by
  constructor
  · intro everyStep
    exact ⟨everyStep.1, everyStep.2 _ rfl⟩
  · intro both
    exact .cons both.1 rfl both.2

/-- A glyph is painted, and the cursor moves on. -/
theorem everyStep_glyph_iff (isAt : At page line column area) (fits : page.Fits column)
    (character : Int) :
    machine.EveryStep PaintsInside area [.paint character, .moveRight] ↔ page.Visible line := by
  rw [everyStep_cons_iff, ← isAt.cellInside_iff fits]
  constructor
  · intro both
    exact both.1 character rfl
  · intro inside
    exact ⟨fun _ _ => inside, .cons (paintsInside_moveRight _) rfl trivial⟩

/-- What one character paints, and where it leaves the cursor. -/
theorem characterSteps_inside_iff (isAt : At page line column area) (character : Int) :
    ∃ nextLine nextColumn painted,
      At page nextLine nextColumn (area.drawCharacter character) ∧
      (∀ rest, page.paintedLines line column (character :: rest) =
        painted ++ page.paintedLines nextLine nextColumn rest) ∧
      (machine.EveryStep PaintsInside area (area.characterSteps character) ↔
        ∀ line ∈ painted, page.Visible line) := by
  rw [← perform_characterSteps]
  simp only [Page.paintedLines, characterSteps, isAt.font_eq]
  by_cases isNewline : character = newline
  · simp only [if_pos isNewline]
    refine ⟨line + 1, 0, [], isAt.lineBreak, fun _ => rfl, ?_⟩
    exact iff_of_true (.cons area.paintsInside_lineBreak rfl trivial) (List.forall_mem_nil _)
  · simp only [if_neg isNewline]
    by_cases has : page.font.Has character
    · simp only [if_neg (not_not_intro has), isAt.wraps_iff]
      by_cases fits : page.Fits column
      · simp only [if_pos fits, if_neg (not_not_intro fits)]
        refine ⟨line, column + 1, [line], (isAt.paint character).moveRight, fun _ => rfl, ?_⟩
        rw [everyStep_glyph_iff isAt fits, List.forall_mem_singleton]
      · simp only [if_neg fits, if_pos fits]
        have fitsFirst : page.Fits 0 := by
          rw [Page.Fits, Nat.zero_add, Nat.one_mul]
          exact page.fitsWidth
        refine ⟨line + 1, 1, [line + 1], (isAt.lineBreak.paint character).moveRight,
          fun _ => rfl, ?_⟩
        rw [everyStep_cons_iff, List.forall_mem_singleton]
        rw [← everyStep_glyph_iff isAt.lineBreak fitsFirst character]
        exact and_iff_right area.paintsInside_lineBreak
    · simp only [if_pos has]
      refine ⟨line, column + 1, [], isAt.moveRight, fun _ => rfl, ?_⟩
      exact iff_of_true (.cons area.paintsInside_moveRight rfl trivial) (List.forall_mem_nil _)

/-- The glyphs of a text are inside where their lines are visible. -/
theorem textSteps_inside_iff (isAt : At page line column area) (characters : List Int) :
    machine.EveryStep PaintsInside area (area.textSteps characters) ↔
      ∀ painted ∈ page.paintedLines line column characters, page.Visible painted := by
  induction characters generalizing line column area with
  | nil => exact iff_of_true trivial (List.forall_mem_nil _)
  | cons character rest induction =>
      rcases characterSteps_inside_iff isAt character with
        ⟨nextLine, nextColumn, painted, isNext, lines, inside⟩
      have run : machine.Run area (area.characterSteps character) (area.drawCharacter character) :=
        area.perform_characterSteps character ▸ run_steps area _
      rw [textSteps, run.everyStep_append, inside, induction isNext, lines,
        List.forall_mem_append]

/-- All glyphs of a text are inside exactly if whole lines fill the height below
its start, or no character is painted in a line beyond the whole ones. -/
theorem drawTextAt_inside_iff (area : TextArea) (str : List Int) (x0 y0 : Nat)
    (wraps : area.characterWrapEnabled)
    (fitsWidth : x0 + area.currentFont.width.toNat ≤ area.framebuffer.width.toNat)
    (fitsHeight : y0 + area.currentFont.height.toNat ≤ area.framebuffer.height.toNat) :
    let page : Page :=
      ⟨area.framebuffer.framebuffer, area.currentFont, x0, y0, fitsWidth, fitsHeight⟩
    machine.EveryStep PaintsInside area (area.callSteps (.drawTextAt str x0 y0)) ↔
      (page.font.height.toNat = 0 ∨ page.font.height.toNat ∣ page.room) ∨
        ∀ line ∈ page.paintedLines 0 0 (untilNul str),
          line < page.room / page.font.height.toNat := by
  intro page
  have isAt : At page 0 0 (area.setCursor x0 y0) := by
    constructor
    case framebuffer_eq => rfl
    case font_eq => rfl
    case wraps => exact wraps
    case cursorX_eq => rw [Nat.zero_mul]; rfl
    case columnCount_eq => rfl
    case cursorY_eq => rw [Page.lineY, Nat.zero_min, Nat.zero_mul]; rfl
  rw [callSteps, everyStep_cons_iff]
  change _ ∧ machine.EveryStep PaintsInside (area.setCursor x0 y0) _ ↔ _
  rw [textSteps_inside_iff isAt]
  simp only [Page.visible_iff, forall_or_left]
  exact and_iff_right nofun

end Text

/-- A font whose glyph is two pixels high, on a framebuffer of one pixel by a height. -/
def tallFont : FontSet := ⟨#[1, 1], 1, 2, 65, 65, by decide⟩

def tallArea (height : UInt16) : TextArea :=
  create {
    framebuffer := ⟨1, .rgb565, ⟨1, height⟩, 2⟩
    data := Array.replicate height.toNat 0
    isRgb565 := rfl
    isValid := rfl
    covered := by
      rw [Array.size_replicate]
      exact Nat.le_of_eq (Nat.one_mul _) } tallFont

/-- Three lines, the last of them scrolled in, where two lines fill the height. -/
theorem drawTextAt_inside_iff_scrolled :
    machine.EveryStep PaintsInside (tallArea 4)
      ((tallArea 4).callSteps (.drawTextAt [65, newline, 65, 65] (0 : Nat) (0 : Nat))) :=
  (drawTextAt_inside_iff (tallArea 4) [65, newline, 65, 65] 0 0 rfl (by decide) (by decide)).mpr
    (.inl (.inr ⟨2, rfl⟩))

/-- The second line begins in the last of three rows of pixels. -/
theorem secondLine_clipped :
    ¬machine.EveryStep PaintsInside (tallArea 3)
      ((tallArea 3).callSteps (.drawTextAt [65, 65] 0 0)) := by
  have steps_eq : (tallArea 3).callSteps (.drawTextAt [65, 65] 0 0) =
      [.setCursor 0 0, .paint 65, .moveRight, .lineBreak, .paint 65, .moveRight] := rfl
  rw [steps_eq]
  intro everyStep
  have clipped := ((((everyStep.2 _ rfl).2 _ rfl).2 _ rfl).2 _ rfl).1 65 rfl
  revert clipped
  rw [CellInside]
  decide

end PigweedExperimental.Draw.TextArea
