import PigweedExperimental.Terminal.ControlSequence

namespace PigweedExperimental.Terminal

/-! # What the decoder emits

The decoder with unbounded vectors, compared with the scanner character by
character. Up to the first rejected escape the two are in step; from there on
the decoder stays in its escape state.
-/

namespace Token

/-- The characters of a control sequence, which stay in `buffered_chars_`
after the sequence has been handled. -/
def retained : Token → List UInt8
  | .char _ => []
  | .control text => text
  | .rejected _ => []
  | .unfinished _ => []

end Token

theorem emitted_handleSetColor (val : Int) :
    emitted (AnsiDecoder.handleSetColor val) = [] := by
  have atColor (colorLoc : Int) (colorIndex : Fin 8) :
      emitted (AnsiDecoder.setColorAt colorLoc colorIndex) = [] := by
    dsimp only [AnsiDecoder.setColorAt]
    split <;> rfl
  have atReset :
      emitted (if val = 0 then
        [.setBgColor AnsiDecoder.kNormalColors[0], .setFgColor AnsiDecoder.kNormalColors[7]]
      else
        []) = [] := by
    split <;> rfl
  rw [AnsiDecoder.handleSetColor]
  split
  · rfl
  · dsimp only
    split
    · rw [emitted_append, atReset, atColor]
      rfl
    · exact atReset

theorem emitted_flatMap_handleSetColor (params : List Int) :
    emitted (params.flatMap AnsiDecoder.handleSetColor) = [] := by
  induction params with
  | nil => rfl
  | cons val params induction =>
      rw [List.flatMap_cons, emitted_append, emitted_handleSetColor, induction]
      rfl

namespace ScanMode

/-- The held characters are ones that lead to the mode. -/
def Introduced : ScanMode → Prop
  | .normal => True
  | .escape held => held = [kEscapeChar]
  | .csi held => ∃ parameters, held = kEscapeChar :: kCsiChar :: parameters

end ScanMode

/-- The decoder is where the scanner is. It still holds the `stale` text of
control sequences it has handled, before the characters the scanner holds. -/
structure InStep (stale : List UInt8) (mode : ScanMode) (decoder : AnsiDecoder) :
    Prop where
  state_eq : decoder.state = mode.decoderState
  buffered_eq : decoder.bufferedChars = stale ++ mode.held
  introduced : mode.Introduced

theorem fresh_inStep : InStep [] .normal .fresh where
  state_eq := rfl
  buffered_eq := rfl
  introduced := trivial

/-- What one character can do to the decoder where the scanner is in a mode,
other than give up an escape. -/
inductive Processes (decoder : AnsiDecoder) :
    ScanMode → UInt8 → AnsiDecoder → List Output → Prop where
  | char {c : UInt8} (isChar : c ≠ kEscapeChar) :
      Processes decoder .normal c decoder [.emitChar c]
  | escape :
      Processes decoder .normal kEscapeChar
        { decoder with
          bufferedChars := decoder.bufferedChars ++ [kEscapeChar]
          state := .escape } []
  | csi {held : List UInt8} :
      Processes decoder (.escape held) kCsiChar
        { decoder with
          bufferedChars := decoder.bufferedChars ++ [kCsiChar]
          state := .csi } []
  | digit {held : List UInt8} {c : UInt8} (digit : isDigit c) :
      Processes decoder (.csi held) c
        { decoder with
          bufferedChars := decoder.bufferedChars ++ [c]
          curVal := decoder.curVal * 10 + (c.toNat - 0x30 : Nat) } []
  | separator {held : List UInt8} :
      Processes decoder (.csi held) kSeparator
        { decoder with
          bufferedChars := decoder.bufferedChars ++ [kSeparator]
          params := decoder.params ++ [decoder.curVal]
          curVal := 0 } []
  | final {held : List UInt8} {c : UInt8} (final : ¬isParameter c) :
      Processes decoder (.csi held) c
        { decoder with
          bufferedChars := decoder.bufferedChars ++ [c]
          params := []
          curVal := 0
          state := .normal }
        (if c = kSetGraphics then
          (decoder.params ++ [decoder.curVal]).flatMap AnsiDecoder.handleSetColor
        else
          [])

section Step

variable {stale : List UInt8} {mode : ScanMode} {decoder next : AnsiDecoder} {c : UInt8}
  {outputs : List Output}

theorem InStep.processes (inStep : InStep stale mode decoder)
    (noneRejected : NoneRejected (ScanMode.step .normal mode c).1) :
    ∃ next outputs, decoder.processChar .unlimited c = some (next, outputs) ∧
      Processes decoder mode c next outputs := by
  have pushed (c : UInt8) := Limits.pushBack_unlimited decoder.bufferedChars c
  have state_eq := inStep.state_eq
  cases mode with
  | normal =>
      by_cases isEscape : c = kEscapeChar
      · subst isEscape
        exact ⟨_, _, AnsiDecoder.processChar_normal_escape state_eq (pushed _), .escape⟩
      · exact ⟨_, _, AnsiDecoder.processChar_normal_char state_eq isEscape, .char isEscape⟩
  | escape held =>
      by_cases isCsi : c = kCsiChar
      · subst isCsi
        exact ⟨_, _, AnsiDecoder.processChar_escape_csi state_eq (pushed _), .csi⟩
      · rw [ScanMode.step_escape_rejected isCsi] at noneRejected
        cases noneRejected _ List.mem_cons_self
  | csi held =>
      have pushedParam := Limits.pushBack_unlimited decoder.params decoder.curVal
      by_cases digit : isDigit c
      · exact ⟨_, _, AnsiDecoder.processChar_csi_digit state_eq digit (pushed c)
          (Limits.int_unlimited _) (Limits.int_unlimited _), .digit digit⟩
      · by_cases isSeparator : c = kSeparator
        · subst isSeparator
          exact ⟨_, _, AnsiDecoder.processChar_csi_separator state_eq (pushed _) pushedParam,
            .separator⟩
        · have final : ¬isParameter c := by simp [isParameter, digit, isSeparator]
          exact ⟨_, _, AnsiDecoder.processChar_csi_final state_eq
            (Bool.eq_false_iff.mpr digit) isSeparator (pushed c) pushedParam, .final final⟩

theorem isParameter_digit (digit : isDigit c) : isParameter c := by
  simp [isParameter, digit]

theorem Processes.emitted (processes : Processes decoder mode c next outputs) :
    emitted outputs = (ScanMode.step .normal mode c).1.flatMap Token.visible := by
  cases processes with
  | char isChar =>
      rw [ScanMode.step_normal_char isChar]
      rfl
  | escape => rfl
  | csi => rfl
  | digit digit =>
      rw [ScanMode.step_csi_parameter (isParameter_digit digit)]
      rfl
  | separator => rfl
  | final final =>
      rw [ScanMode.step_csi_final final]
      split
      · exact emitted_flatMap_handleSetColor _
      · rfl

theorem ScanMode.Introduced.concat {held : List UInt8}
    (introduced : (ScanMode.csi held).Introduced) (c : UInt8) :
    (ScanMode.csi (held ++ [c])).Introduced := by
  rcases introduced with ⟨parameters, rfl⟩
  exact ⟨parameters ++ [c], rfl⟩

theorem Processes.inStep (processes : Processes decoder mode c next outputs)
    (inStep : InStep stale mode decoder) :
    InStep (stale ++ (ScanMode.step .normal mode c).1.flatMap Token.retained)
      (ScanMode.step .normal mode c).2 next := by
  have state_eq := inStep.state_eq
  have buffered_eq := inStep.buffered_eq
  have introduced := inStep.introduced
  cases processes with
  | char isChar =>
      rw [ScanMode.step_normal_char isChar]
      exact {
        state_eq := state_eq
        buffered_eq := by simp [buffered_eq, Token.retained]
        introduced := trivial }
  | escape =>
      exact {
        state_eq := rfl
        buffered_eq := by simp [buffered_eq, ScanMode.step_normal_escape, ScanMode.held]
        introduced := rfl }
  | csi =>
      exact {
        state_eq := rfl
        buffered_eq := by simp [buffered_eq, ScanMode.step_escape_csi, ScanMode.held]
        introduced := ⟨[], congrArg (· ++ [kCsiChar]) introduced⟩ }
  | digit digit =>
      rw [ScanMode.step_csi_parameter (isParameter_digit digit)]
      exact {
        state_eq := state_eq
        buffered_eq := by simp [buffered_eq, ScanMode.held]
        introduced := introduced.concat c }
  | separator =>
      rw [ScanMode.step_csi_parameter rfl]
      exact {
        state_eq := state_eq
        buffered_eq := by simp [buffered_eq, ScanMode.held]
        introduced := introduced.concat kSeparator }
  | final final =>
      rw [ScanMode.step_csi_final final]
      exact {
        state_eq := rfl
        buffered_eq := by simp [buffered_eq, ScanMode.held, Token.retained]
        introduced := trivial }

/-- A character that rejects nothing shows the same in both, and leaves its
control sequence behind. -/
theorem InStep.processChar (inStep : InStep stale mode decoder)
    (noneRejected : NoneRejected (ScanMode.step .normal mode c).1) :
    ∃ next outputs, decoder.processChar .unlimited c = some (next, outputs) ∧
      emitted outputs = (ScanMode.step .normal mode c).1.flatMap Token.visible ∧
      InStep (stale ++ (ScanMode.step .normal mode c).1.flatMap Token.retained)
        (ScanMode.step .normal mode c).2 next := by
  rcases inStep.processes noneRejected with ⟨next, outputs, processed, processes⟩
  exact ⟨next, outputs, processed, processes.emitted, processes.inStep inStep⟩

/-- A rejected escape emits the stale text as well, and leaves the decoder in
its escape state. -/
theorem InStep.processChar_rejected {held : List UInt8}
    (inStep : InStep stale (.escape held) decoder) (isOther : c ≠ kCsiChar) :
    decoder.processChar .unlimited c =
      some ({ decoder with bufferedChars := [] },
        (stale ++ (held ++ [c])).map .emitChar) := by
  have pushed : Limits.unlimited.pushBack decoder.bufferedChars c =
      some (stale ++ (held ++ [c])) := by
    rw [Limits.pushBack_unlimited, inStep.buffered_eq, List.append_assoc]
    rfl
  exact AnsiDecoder.processChar_escape_other inStep.state_eq isOther pushed

end Step

/-- After every character of the text, the decoder has emitted just what the
scanner shows of the text so far. -/
def ShowsVisible (decoder : AnsiDecoder) (mode : ScanMode) (text : List UInt8) : Prop :=
  ∀ shown, shown <+: text →
    (decoder.decode .unlimited shown).map (fun result => emitted result.2) =
      some ((scanFrom .normal mode shown).flatMap Token.visible)

theorem flatMap_visible_leftover (mode : ScanMode) :
    mode.leftover.flatMap Token.visible = [] := by
  rw [ScanMode.leftover]
  split <;> rfl

theorem showsVisible_nil (decoder : AnsiDecoder) (mode : ScanMode) :
    ShowsVisible decoder mode [] := by
  intro shown shownPrefix
  rw [List.prefix_nil.mp shownPrefix]
  exact congrArg some (flatMap_visible_leftover mode).symm

theorem showsVisible_cons {decoder next : AnsiDecoder} {c : UInt8}
    {outputs : List Output} (mode : ScanMode) (text : List UInt8)
    (processed : decoder.processChar .unlimited c = some (next, outputs)) :
    ShowsVisible decoder mode (c :: text) ↔
      emitted outputs = (ScanMode.step .normal mode c).1.flatMap Token.visible ∧
        ShowsVisible next (ScanMode.step .normal mode c).2 text := by
  have decoded (shown : List UInt8) :
      (decoder.decode .unlimited (c :: shown)).map (fun result => emitted result.2) =
        ((next.decode .unlimited shown).map fun result => emitted result.2).map
          (emitted outputs ++ ·) := by
    rw [AnsiDecoder.decode_cons _ processed, Option.map_map, Option.map_map]
    apply congrArg (Option.map · _)
    funext result
    exact emitted_append _ _
  have scanned (shown : List UInt8) :
      (scanFrom .normal mode (c :: shown)).flatMap Token.visible =
        (ScanMode.step .normal mode c).1.flatMap Token.visible ++
          (scanFrom .normal (ScanMode.step .normal mode c).2 shown).flatMap
            Token.visible :=
    List.flatMap_append
  constructor
  · intro shows
    have atOnce := shows [c] (List.prefix_append [c] text)
    rw [decoded, scanned, showsVisible_nil next _ [] List.prefix_rfl] at atOnce
    have first := List.append_cancel_right (Option.some.inj atOnce)
    refine ⟨first, fun shown shownPrefix => ?_⟩
    have later := shows (c :: shown) (List.cons_prefix_cons.mpr ⟨rfl, shownPrefix⟩)
    rw [decoded, scanned, first] at later
    cases result : next.decode .unlimited shown with
    | none =>
        rw [result] at later
        cases later
    | some =>
        rw [result] at later
        exact congrArg some (List.append_cancel_left (Option.some.inj later))
  · intro both
    rcases both with ⟨first, later⟩
    intro shown shownPrefix
    cases shown with
    | nil => exact showsVisible_nil decoder mode [] List.prefix_rfl
    | cons head shown =>
        rcases List.cons_prefix_cons.mp shownPrefix with ⟨rfl, restPrefix⟩
        rw [decoded, scanned, first, later shown restPrefix]
        rfl

/-- Neither character means anything to a decoder that has stayed in its
escape state. -/
def Plain (text : List UInt8) : Prop :=
  ∀ c ∈ text, c ≠ kEscapeChar ∧ c ≠ kCsiChar

/-- The decoder as `Error` leaves it, against a scanner back in normal text. -/
theorem showsVisible_escape_iff {decoder : AnsiDecoder}
    (isEscape : decoder.state = .escape) (isEmpty : decoder.bufferedChars = [])
    (text : List UInt8) : ShowsVisible decoder .normal text ↔ Plain text := by
  have pushed (c : UInt8) :
      Limits.unlimited.pushBack decoder.bufferedChars c = some [c] := by
    rw [Limits.pushBack_unlimited, isEmpty]
    rfl
  induction text with
  | nil => exact iff_of_true (showsVisible_nil _ _) nofun
  | cons c text induction =>
      rw [Plain]
      rw [List.forall_mem_cons]
      by_cases isCsi : c = kCsiChar
      · subst isCsi
        rw [showsVisible_cons _ _ (AnsiDecoder.processChar_escape_csi isEscape (pushed _)),
          ScanMode.step_normal_char (by decide)]
        exact iff_of_false (fun shows => nomatch shows.1) (fun plain => plain.1.2 rfl)
      · have processed :=
          AnsiDecoder.processChar_escape_other isEscape isCsi (pushed c)
        have unchanged : { decoder with bufferedChars := [] } = decoder := by
          rw [← isEmpty]
        rw [unchanged] at processed
        rw [showsVisible_cons _ _ processed]
        by_cases escapes : c = kEscapeChar
        · subst escapes
          rw [ScanMode.step_normal_escape]
          exact iff_of_false (fun shows => nomatch shows.1) (fun plain => plain.1.1 rfl)
        · rw [ScanMode.step_normal_char escapes]
          exact and_congr (iff_of_true rfl ⟨escapes, isCsi⟩) induction

/-- The text's first `ESC` is rejected, and what follows is plain. -/
def RejectedOnce (text : List UInt8) : Prop :=
  ∃ before c after, text = before ++ kEscapeChar :: c :: after ∧
    kEscapeChar ∉ before ∧ c ≠ kCsiChar ∧ Plain after

theorem rejectedOnce_cons {c : UInt8} (isChar : c ≠ kEscapeChar) (text : List UInt8) :
    RejectedOnce (c :: text) ↔ RejectedOnce text := by
  constructor
  · intro rejected
    rcases rejected with ⟨before, other, after, split, free, isOther, plain⟩
    cases before with
    | nil => exact absurd (List.cons.inj split).1 isChar
    | cons head before =>
        exact ⟨before, other, after, (List.cons.inj split).2,
          fun mem => free (List.mem_cons_of_mem head mem), isOther, plain⟩
  · intro rejected
    rcases rejected with ⟨before, other, after, rfl, free, isOther, plain⟩
    refine ⟨c :: before, other, after, rfl, ?_, isOther, plain⟩
    intro mem
    rcases List.mem_cons.mp mem with isEscape | mem
    · exact isChar isEscape.symm
    · exact free mem

theorem rejectedOnce_escape (c : UInt8) (text : List UInt8) :
    RejectedOnce (kEscapeChar :: c :: text) ↔ c ≠ kCsiChar ∧ Plain text := by
  constructor
  · intro rejected
    rcases rejected with ⟨before, other, after, split, free, isOther, plain⟩
    cases before with
    | nil =>
        cases split
        exact ⟨isOther, plain⟩
    | cons head before =>
        rw [← (List.cons.inj split).1] at free
        exact absurd List.mem_cons_self free
  · intro both
    exact ⟨[], c, text, rfl, List.not_mem_nil, both.1, both.2⟩

theorem noneRejected_append (tokens later : List Token) :
    NoneRejected (tokens ++ later) ↔ NoneRejected tokens ∧ NoneRejected later :=
  List.forall_mem_append

theorem noneRejected_leftover (mode : ScanMode) : NoneRejected mode.leftover := by
  rw [ScanMode.leftover]
  split
  · intro token mem
    cases mem
  · intro token mem
    rw [List.mem_singleton.mp mem]
    rfl

theorem complete_noneRejected {tokens : List Token}
    (complete : ∀ token ∈ tokens, token.isComplete) : NoneRejected tokens := by
  intro token mem
  have isComplete := complete token mem
  cases token with
  | char => rfl
  | control => rfl
  | rejected => cases isComplete
  | unfinished => rfl

theorem ScanMode.rejected_of_not_noneRejected {mode : ScanMode} {c : UInt8}
    (rejects : ¬NoneRejected (ScanMode.step .normal mode c).1) :
    ∃ held, mode = .escape held ∧ c ≠ kCsiChar := by
  cases mode with
  | normal =>
      apply absurd _ rejects
      by_cases isEscape : c = kEscapeChar
      · rw [isEscape, step_normal_escape]
        exact nofun
      · rw [step_normal_char isEscape]
        exact List.forall_mem_singleton.mpr rfl
  | escape held =>
      refine ⟨held, rfl, ?_⟩
      intro isCsi
      apply rejects
      rw [isCsi, step_escape_csi]
      exact nofun
  | csi held =>
      apply absurd _ rejects
      by_cases parameter : isParameter c
      · rw [step_csi_parameter parameter]
        exact nofun
      · rw [step_csi_final parameter]
        exact List.forall_mem_singleton.mpr rfl

/-- A character that rejects nothing leaves it open whether the first escape
to be rejected finds stale text. -/
theorem InStep.rejectedOnce_step {stale : List UInt8} {mode : ScanMode}
    {decoder : AnsiDecoder} {c : UInt8} (inStep : InStep stale mode decoder)
    (noneRejected : NoneRejected (ScanMode.step .normal mode c).1) (text : List UInt8) :
    (stale ++ (ScanMode.step .normal mode c).1.flatMap Token.retained = [] ∧
        RejectedOnce ((ScanMode.step .normal mode c).2.held ++ text)) ↔
      (stale = [] ∧ RejectedOnce (mode.held ++ c :: text)) := by
  cases mode with
  | normal =>
      by_cases isEscape : c = kEscapeChar
      · rw [isEscape, ScanMode.step_normal_escape, List.flatMap_nil, List.append_nil]
        rfl
      · rw [ScanMode.step_normal_char isEscape]
        exact and_congr (iff_of_eq (congrArg (· = []) (List.append_nil stale)))
          (rejectedOnce_cons isEscape text).symm
  | escape held =>
      by_cases isCsi : c = kCsiChar
      · rw [isCsi, ScanMode.step_escape_csi, List.flatMap_nil, List.append_nil]
        dsimp only [ScanMode.held]
        rw [List.append_assoc]
        rfl
      · rw [ScanMode.step_escape_rejected isCsi] at noneRejected
        cases noneRejected _ List.mem_cons_self
  | csi held =>
      by_cases parameter : isParameter c
      · rw [ScanMode.step_csi_parameter parameter, List.flatMap_nil, List.append_nil]
        dsimp only [ScanMode.held]
        rw [List.append_assoc]
        rfl
      · rcases inStep.introduced with ⟨parameters, rfl⟩
        rw [ScanMode.step_csi_final parameter]
        apply iff_of_false
        · intro both
          simp [Token.retained] at both
        · intro both
          exact ((rejectedOnce_escape _ _).mp both.2).1 rfl

/-- The general form of the result below, from any point before the first
rejected escape. -/
theorem InStep.showsVisible_iff {stale : List UInt8} {mode : ScanMode}
    {decoder : AnsiDecoder} (inStep : InStep stale mode decoder) (text : List UInt8) :
    ShowsVisible decoder mode text ↔
      NoneRejected (scanFrom .normal mode text) ∨
        (stale = [] ∧ RejectedOnce (mode.held ++ text)) := by
  induction text generalizing stale mode decoder with
  | nil => exact iff_of_true (showsVisible_nil _ _) (.inl (noneRejected_leftover mode))
  | cons c text induction =>
      rw [scanFrom, noneRejected_append]
      by_cases noneRejected : NoneRejected (ScanMode.step .normal mode c).1
      · rcases inStep.processChar noneRejected with
          ⟨next, outputs, processed, shown, nextInStep⟩
        rw [showsVisible_cons _ _ processed, and_iff_right shown,
          induction nextInStep, and_iff_right noneRejected]
        apply or_congr_right
        exact inStep.rejectedOnce_step noneRejected text
      · rcases ScanMode.rejected_of_not_noneRejected noneRejected with
          ⟨held, rfl, isOther⟩
        have held_eq : held = [kEscapeChar] := inStep.introduced
        have afterwards :
            ShowsVisible { decoder with bufferedChars := [] } .normal text ↔
              Plain text := by
          apply showsVisible_escape_iff
          · exact inStep.state_eq
          · rfl
        have once : RejectedOnce (held ++ c :: text) ↔ c ≠ kCsiChar ∧ Plain text := by
          rw [held_eq]
          exact rejectedOnce_escape c text
        rw [showsVisible_cons _ _ (inStep.processChar_rejected isOther),
          ScanMode.step_escape_rejected isOther, emitted_map_emitChar,
          List.flatMap_singleton]
        dsimp only [Token.visible]
        constructor
        · intro both
          exact .inr ⟨List.append_left_eq_self.mp both.1,
            once.mpr ⟨isOther, afterwards.mp both.2⟩⟩
        · intro either
          rcases either with tokens | both
          · cases tokens.1 _ List.mem_cons_self
          · rw [both.1]
            exact ⟨List.nil_append _, afterwards.mpr (once.mp both.2).2⟩

/-- Exactly when the decoder's output is right from the first character of a
text to the last: no escape is rejected, or only one, which no control sequence
precedes and neither an escape nor a `'['` follows. -/
theorem showsVisible_fresh_iff (text : List UInt8) :
    (∀ shown, shown <+: text →
      (AnsiDecoder.fresh.decode .unlimited shown).map (fun result => emitted result.2) =
        some (visibleText shown)) ↔
      NoneRejected (scan text) ∨ RejectedOnce text :=
  (fresh_inStep.showsVisible_iff text).trans
    (or_congr_right (and_iff_right rfl))

/-- `ESC [ m ESC A`: the sequence that was handled comes out again in front of
the rejected escape. -/
theorem resetThenEscape_shows_reset :
    (AnsiDecoder.fresh.decode .unlimited
        [kEscapeChar, kCsiChar, kSetGraphics, kEscapeChar, 0x41]).map
        (fun result => emitted result.2) =
      some [kEscapeChar, kCsiChar, kSetGraphics, kEscapeChar, 0x41] ∧
    visibleText [kEscapeChar, kCsiChar, kSetGraphics, kEscapeChar, 0x41] =
      [kEscapeChar, 0x41] := by
  decide

end PigweedExperimental.Terminal
