import PigweedExperimental.Terminal.Colors
import PigweedExperimental.Terminal.TextWindow

namespace PigweedExperimental.Terminal.DemoDecoder

/-! # Log messages, one after another

The newline that ends a message goes through the decoder like the text does.
Messages of whole control sequences and ordinary characters leave the decoder
where they found it, and each starts on a row of its own.
-/

/-- The text buffer is what a fresh one becomes when the text is drawn. -/
def Draws (drawn : List TextBuffer.Char) (demo : DemoDecoder) : Prop :=
  TextBuffer.fresh.drawAll drawn = some demo.logTextBuffer

/-- The characters of a drawn text, whatever their colours. -/
def characters (drawn : List TextBuffer.Char) : List UInt8 := drawn.map (·.ch)

/-- A scanner that leaves nothing unfinished is back in normal text. -/
theorem normal_of_complete_leftover {mode : ScanMode} (introduced : mode.Introduced)
    (complete : ∀ token ∈ mode.leftover, token.isComplete) : mode = .normal := by
  have nothingHeld : mode.held = [] := by
    by_contra held
    unfold ScanMode.leftover at complete
    rw [if_neg held] at complete
    cases complete _ List.mem_cons_self
  cases mode with
  | normal => rfl
  | escape held =>
      cases introduced.symm.trans nothingHeld
  | csi held =>
      rcases introduced with ⟨parameters, held_eq⟩
      cases held_eq.symm.trans nothingHeld

theorem leftover_of_after {mode : ScanMode} {text : List UInt8} {token : Token}
    (mem : token ∈ (mode.after text).leftover) : token ∈ scanFrom .normal mode text := by
  induction text generalizing mode with
  | nil => exact mem
  | cons c text induction =>
      rw [scanFrom, List.mem_append]
      exact .inr (induction mem)

/-- What one message leaves behind does not hinder the next: the decoder has
handled everything it was given, and the colours are ones that can be set. -/
structure Ready (drawn : List TextBuffer.Char) (demo : DemoDecoder) : Prop where
  collects : Collects .normal demo.decoder
  inColors : ∃ parameters, demo.colors = Colors.after parameters
  draws : Draws drawn demo

theorem fresh_ready : Ready [] fresh where
  collects := fresh_collects
  inColors := ⟨[], rfl⟩
  draws := rfl

/-- A text of whole control sequences and ordinary characters is drawn as the
scanner shows it. -/
theorem Ready.processText {drawn : List TextBuffer.Char} {demo : DemoDecoder}
    {text : List UInt8} (ready : Ready drawn demo) (wellFormed : WellFormed text) :
    ∃ next more, text.foldlM (DemoDecoder.processChar .unlimited) demo = some next ∧
      characters more = visibleText text ∧ Ready (drawn ++ more) next := by
  rcases ready.inColors with ⟨parameters, colors_eq⟩
  have demo_eq : demo = .afterParameters demo.decoder parameters demo.logTextBuffer := by
    rw [afterParameters, ← colors_eq]
    rfl
  rcases ready.collects.processText (complete_noneRejected wellFormed) with
    ⟨last, lastCollects, processed⟩
  rcases lastCollects.inStep with ⟨stale, inStep⟩
  have atNormal : ScanMode.normal.after text = .normal := by
    apply normal_of_complete_leftover inStep.introduced
    intro token mem
    exact wellFormed token (leftover_of_after mem)
  rcases TextBuffer.drawAll_fresh_shows (drawn ++ colored parameters (scan text)) with
    ⟨_, _, buffer, _, drawsMore, _⟩
  have drawsText := drawsMore
  rw [TextBuffer.drawAll_append, ready.draws, Option.bind_some] at drawsText
  refine ⟨.afterParameters last (parameters ++ (scan text).flatMap Token.graphics) buffer, _, ?_,
    map_ch_colored parameters (scan text), ?_⟩
  · rw [demo_eq, processed]
    exact congrArg (Option.map _) drawsText
  · rw [atNormal] at lastCollects
    exact {
      collects := lastCollects
      inColors := ⟨_, rfl⟩
      draws := drawsMore }

theorem Ready.logCallback {drawn : List TextBuffer.Char} {demo : DemoDecoder}
    {log : List UInt8} (ready : Ready drawn demo) (wellFormed : WellFormed log) :
    ∃ next message newline, demo.logCallback .unlimited log = some next ∧
      characters message = visibleText log ∧ characters newline = [kNewline] ∧
      Ready (drawn ++ (message ++ newline)) next := by
  rcases ready.processText wellFormed with ⟨middle, message, processed, shown, middleReady⟩
  have newlineWellFormed : WellFormed [kNewline] := by decide
  rcases middleReady.processText newlineWellFormed with
    ⟨next, newline, ended, shownNewline, nextReady⟩
  refine ⟨next, message, newline, ?_, shown, shownNewline, ?_⟩
  · rw [DemoDecoder.logCallback]
    rw [processed]
    exact (bind_pure _).symm.trans ended
  · rw [← List.append_assoc]
    exact nextReady

/-- After messages, the text ends with a newline if there is any. -/
def EndsLine (drawn : List TextBuffer.Char) : Prop :=
  drawn = [] ∨ ∃ before newline, drawn = before ++ [newline] ∧ newline.ch = kNewline

theorem endsLine_append {newline : List TextBuffer.Char} (drawn : List TextBuffer.Char)
    (isNewline : characters newline = [kNewline]) : EndsLine (drawn ++ newline) := by
  rcases List.map_eq_singleton_iff.mp isNewline with ⟨ch, rfl, ch_eq⟩
  exact .inr ⟨drawn, ch, rfl, ch_eq⟩

theorem ready_logAll {logs : List (List UInt8)} (wellFormed : ∀ log ∈ logs, WellFormed log) :
    ∃ demo drawn, fresh.logAll .unlimited logs = some demo ∧ Ready drawn demo ∧
      EndsLine drawn := by
  induction logs using List.reverseRecOn with
  | nil => exact ⟨fresh, [], rfl, fresh_ready, .inl rfl⟩
  | append_singleton logs log induction =>
      rw [List.forall_mem_append] at wellFormed
      rcases induction wellFormed.1 with ⟨demo, drawn, logged, ready, _⟩
      rcases ready.logCallback (wellFormed.2 log List.mem_cons_self) with
        ⟨next, message, newline, called, _, isNewline, nextReady⟩
      refine ⟨next, _, ?_, nextReady, ?_⟩
      · rw [DemoDecoder.logAll] at logged ⊢
        simp [List.foldlM_append, logged, called]
      · rw [← List.append_assoc]
        exact endsLine_append _ isNewline

/-- The cursor is at the start of a row with nothing on it. -/
def AtNewRow (buffer : TextBuffer) : Prop :=
  buffer.cursor.x = 0 ∧
    ∀ row column, buffer.cursor.y = row.val → buffer.cell row column = .reset

theorem Draws.atNewRow {drawn : List TextBuffer.Char} {demo : DemoDecoder}
    (draws : Draws drawn demo) (endsLine : EndsLine drawn) :
    AtNewRow demo.logTextBuffer := by
  rcases TextBuffer.drawAll_fresh_shows drawn with
    ⟨finished, line, buffer, split, drawnBuffer, shows⟩
  cases draws.symm.trans drawnBuffer
  have lineEmpty : line = [] := by
    have last := congrArg List.getLast? split
    rcases endsLine with rfl | ⟨before, newline, rfl, isNewline⟩
    · rw [TextBuffer.lines_nil] at last
      simpa using last.symm
    · rw [TextBuffer.lines_concat_newline isNewline] at last
      simpa using last.symm
  subst lineEmpty
  refine ⟨shows.cursor_x, fun row column onRow => ?_⟩
  rw [shows.cells, TextBuffer.windowCell_eq_getD]
  have atLine : TextBuffer.firstShown (finished ++ [[]]) + row.val = finished.length := by
    rw [shows.cursor_y] at onRow
    simp only [TextBuffer.firstShown, List.length_append, List.length_singleton]
    omega
  rw [atLine, List.getElem?_concat_length]
  simp

/-- Messages of ordinary characters and whole control sequences do not corrupt
each other: after any number of them the decoder is in its normal state and the
cursor on a new row, where the next one draws its own text and nothing else. -/
theorem messages_independent (logs : List (List UInt8))
    (wellFormed : ∀ log ∈ logs, WellFormed log) :
    ∃ demo, fresh.logAll .unlimited logs = some demo ∧
      demo.decoder.state = .normal ∧ AtNewRow demo.logTextBuffer ∧
      ∀ next, WellFormed next → ∃ after message,
        demo.logCallback .unlimited next = some after ∧
        message.map (·.ch) = visibleText next ++ [kNewline] ∧
        demo.logTextBuffer.drawAll message = some after.logTextBuffer := by
  rcases ready_logAll wellFormed with ⟨demo, drawn, logged, ready, endsLine⟩
  rcases ready.collects.inStep with ⟨stale, inStep⟩
  refine ⟨demo, logged, inStep.state_eq, ready.draws.atNewRow endsLine, ?_⟩
  intro next nextWellFormed
  rcases ready.logCallback nextWellFormed with
    ⟨after, message, newline, called, shown, isNewline, nextReady⟩
  refine ⟨after, message ++ newline, called, ?_, ?_⟩
  · rw [List.map_append]
    exact congrArg₂ (· ++ ·) shown isNewline
  · have drawsMore := nextReady.draws
    unfold Draws at drawsMore
    rw [TextBuffer.drawAll_append, ready.draws, Option.bind_some] at drawsMore
    exact drawsMore

theorem messages_independent_reset :
    ∃ demo, fresh.logAll .unlimited [[kEscapeChar, kCsiChar, kSetGraphics, 0x61]] =
        some demo ∧
      demo.decoder.state = .normal ∧ AtNewRow demo.logTextBuffer ∧
      ∀ next, WellFormed next → ∃ after message,
        demo.logCallback .unlimited next = some after ∧
        message.map (·.ch) = visibleText next ++ [kNewline] ∧
        demo.logTextBuffer.drawAll message = some after.logTextBuffer :=
  messages_independent [[kEscapeChar, kCsiChar, kSetGraphics, 0x61]] (by decide)

/-- `"ab"` and an unfinished sequence: the newline completes the sequence, and
the next message goes on in the third column. -/
theorem unfinished_swallows_newline :
    (fresh.logAll .unlimited [[0x61, 0x62, kEscapeChar, kCsiChar, 0x31]]).map
      (fun demo => demo.logTextBuffer.cursor) = some ⟨2, 0⟩ := by
  decide

end PigweedExperimental.Terminal.DemoDecoder
