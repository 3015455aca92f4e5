import PigweedExperimental.Foundation.Splitting
import PigweedExperimental.Terminal.DemoDecoder
import PigweedExperimental.Terminal.Emission
import Mathlib.Data.Nat.Digits.Defs

namespace PigweedExperimental.Terminal

/-! # The colours of the characters

Every character of a text has the colours set by the parameters of the control
sequences before it. The decoder reads parameters digit by digit, and has none
left over when a sequence ends.
-/

/-- The number that digits stand for; no digits stand for zero. -/
def decimal (digits : List UInt8) : Nat :=
  Nat.ofDigits 10 (digits.reverse.map fun digit => digit.toNat - 0x30)

/-- The parameters of a control sequence, from the characters between its
introducer and its final one. -/
def parameters (body : List UInt8) : List Nat :=
  (body.splitOnP (· = kSeparator)).map decimal

theorem decimal_concat (digits : List UInt8) (digit : UInt8) :
    decimal (digits ++ [digit]) = decimal digits * 10 + (digit.toNat - 0x30) := by
  rw [decimal, List.reverse_concat, List.map_cons, Nat.ofDigits_cons, ← decimal]
  rw [Nat.add_comm, Nat.mul_comm]

theorem parameters_concat_separator (body : List UInt8) :
    parameters (body ++ [kSeparator]) = parameters body ++ [0] := by
  rw [parameters, splitOnP_concat_separator (by simp), List.map_append, ← parameters]
  rfl

/-- A digit goes to the last parameter. -/
theorem parameters_concat_digit {body : List UInt8} {c : UInt8} (digit : isDigit c)
    {finished : List Nat} {last : Nat} (split : parameters body = finished ++ [last]) :
    parameters (body ++ [c]) = finished ++ [last * 10 + (c.toNat - 0x30)] := by
  have isOther : ¬decide (c = kSeparator) := by
    intro isSeparator
    rw [of_decide_eq_true isSeparator] at digit
    cases digit
  rcases List.map_eq_append_iff.mp split with ⟨pieces, lastPiece, splits, rfl, single⟩
  rcases List.map_eq_singleton_iff.mp single with ⟨piece, rfl, rfl⟩
  rw [parameters, splitOnP_concat_other splits isOther, List.map_append, List.map_singleton,
    decimal_concat]

/-- The parameters a token sets colours with: those of a control sequence that
ends with `'m'`. -/
def Token.graphics : Token → List Nat
  | .char _ => []
  | .control text =>
      if text.getLast? = some kSetGraphics then
        parameters (text.drop 2).dropLast
      else
        []
  | .rejected _ => []
  | .unfinished _ => []

structure Colors where
  foreground : UInt16
  background : UInt16
  deriving DecidableEq, Repr

namespace Colors

/-- White on black. -/
def initial : Colors where
  foreground := DemoDecoder.kWhite
  background := DemoDecoder.kBlack

open AnsiDecoder in
/-- The meaning of one parameter. -/
def set (colors : Colors) (parameter : Nat) : Colors :=
  if parameter = 0 then
    { foreground := (kNormalColors.get 7).toRgb565
      background := (kNormalColors.get 0).toRgb565 }
  else if _ : 30 ≤ parameter ∧ parameter ≤ 37 then
    { colors with foreground := (kNormalColors.get ⟨parameter % 10, by omega⟩).toRgb565 }
  else if _ : 40 ≤ parameter ∧ parameter ≤ 47 then
    { colors with background := (kNormalColors.get ⟨parameter % 10, by omega⟩).toRgb565 }
  else if _ : 90 ≤ parameter ∧ parameter ≤ 97 then
    { colors with foreground := (kBrightColors.get ⟨parameter % 10, by omega⟩).toRgb565 }
  else if _ : 100 ≤ parameter ∧ parameter ≤ 107 then
    { colors with background := (kBrightColors.get ⟨parameter % 10, by omega⟩).toRgb565 }
  else
    colors

/-- The colours after parameters, in order. -/
def after (parameters : List Nat) : Colors := parameters.foldl set initial

def char (colors : Colors) (c : UInt8) : TextBuffer.Char where
  ch := c
  foregroundColor := colors.foreground
  backgroundColor := colors.background

end Colors

/-- The characters that tokens show, each in the colours after all the
parameters before it. -/
def colored (earlier : List Nat) : List Token → List TextBuffer.Char
  | [] => []
  | token :: tokens =>
      token.visible.map (Colors.after earlier).char ++
        colored (earlier ++ token.graphics) tokens

theorem colored_append (earlier : List Nat) (tokens later : List Token) :
    colored earlier (tokens ++ later) =
      colored earlier tokens ++ colored (earlier ++ tokens.flatMap Token.graphics) later := by
  induction tokens generalizing earlier with
  | nil =>
      rw [List.flatMap_nil, List.append_nil]
      rfl
  | cons token tokens induction =>
      rw [List.cons_append, colored, colored, induction, List.flatMap_cons,
        List.append_assoc, List.append_assoc]

theorem map_ch_colored (earlier : List Nat) (tokens : List Token) :
    (colored earlier tokens).map (·.ch) = tokens.flatMap Token.visible := by
  induction tokens generalizing earlier with
  | nil => rfl
  | cons token tokens induction =>
      have shown : (token.visible.map (Colors.after earlier).char).map (·.ch) = token.visible := by
        rw [List.map_map]
        exact List.map_id _
      rw [colored, List.map_append, shown, induction]
      rfl

theorem colored_leftover (earlier : List Nat) (mode : ScanMode) :
    colored earlier mode.leftover = [] := by
  rw [ScanMode.leftover]
  split <;> rfl

theorem graphics_leftover (mode : ScanMode) : mode.leftover.flatMap Token.graphics = [] := by
  rw [ScanMode.leftover]
  split <;> rfl

namespace DemoDecoder

def withColors (demo : DemoDecoder) (colors : Colors) : DemoDecoder where
  decoder := demo.decoder
  fgColor := colors.foreground
  bgColor := colors.background
  logTextBuffer := demo.logTextBuffer

def colors (demo : DemoDecoder) : Colors where
  foreground := demo.fgColor
  background := demo.bgColor

theorem handleSetColor_natCast (parameter : Nat) :
    AnsiDecoder.handleSetColor parameter =
      if parameter = 0 then
        [.setBgColor (AnsiDecoder.kNormalColors.get 0),
          .setFgColor (AnsiDecoder.kNormalColors.get 7)]
      else if inTable : parameter % 10 < 8 then
        AnsiDecoder.setColorAt (parameter / 10 : Nat) ⟨parameter % 10, inTable⟩
      else
        [] := by
  by_cases isZero : parameter = 0
  · subst isZero
    rfl
  · have notNegative : ¬(parameter : Int) < 0 := by omega
    have notZero : (parameter : Int) ≠ 0 := by omega
    have remainder : ((parameter : Int) % 10).toNat = parameter % 10 := by omega
    rw [AnsiDecoder.handleSetColor, if_neg notNegative, if_neg isZero]
    simp only [if_neg notZero, remainder, List.nil_append]
    rfl

/-- The quotient and the remainder tell the ranges apart. -/
theorem foldlM_handleSetColor (demo : DemoDecoder) (parameter : Nat) :
    (AnsiDecoder.handleSetColor parameter).foldlM handle demo =
      some (demo.withColors (demo.colors.set parameter)) := by
  have handled := handleSetColor_natCast parameter
  rw [Colors.set]
  split
  · rename_i isZero
    rw [handled, if_pos isZero]
    rfl
  · rename_i notZero
    rw [if_neg notZero] at handled
    split
    · rw [handled, dif_pos (by omega), show parameter / 10 = 3 by omega]
      rfl
    · split
      · rw [handled, dif_pos (by omega), show parameter / 10 = 4 by omega]
        rfl
      · split
        · rw [handled, dif_pos (by omega), show parameter / 10 = 9 by omega]
          rfl
        · split
          · rw [handled, dif_pos (by omega), show parameter / 10 = 10 by omega]
            rfl
          · rw [handled]
            unfold AnsiDecoder.setColorAt
            split
            · split
              · omega
              · omega
              · omega
              · omega
              · rfl
            · rfl

theorem foldlM_flatMap_handleSetColor (demo : DemoDecoder) (parameters : List Nat) :
    ((parameters.map Nat.cast).flatMap AnsiDecoder.handleSetColor).foldlM handle demo =
      some (demo.withColors (parameters.foldl Colors.set demo.colors)) := by
  induction parameters generalizing demo with
  | nil => rfl
  | cons parameter parameters induction =>
      rw [List.map_cons, List.flatMap_cons, List.foldlM_append, foldlM_handleSetColor]
      exact induction _

end DemoDecoder

/-- The decoder has collected the parameters of the control sequence it is in,
the last one in `cur_val_`, and outside of one it has none. -/
structure Collects (mode : ScanMode) (decoder : AnsiDecoder) : Prop where
  inStep : ∃ stale, InStep stale mode decoder
  collected : decoder.params ++ [decoder.curVal] =
    (parameters (mode.held.drop 2)).map Nat.cast

theorem fresh_collects : Collects .normal .fresh where
  inStep := ⟨[], fresh_inStep⟩
  collected := rfl

section Step

variable {mode : ScanMode} {decoder next : AnsiDecoder} {c : UInt8} {outputs : List Output}

theorem Processes.collects (processes : Processes decoder mode c next outputs)
    (collects : Collects mode decoder) :
    Collects (ScanMode.step .normal mode c).2 next := by
  have collected := collects.collected
  rcases collects.inStep with ⟨stale, inStep⟩
  refine ⟨⟨_, processes.inStep inStep⟩, ?_⟩
  cases processes with
  | char isChar =>
      rw [ScanMode.step_normal_char isChar]
      exact collected
  | escape => exact collected
  | @csi held =>
      have held_eq : held = [kEscapeChar] := inStep.introduced
      subst held_eq
      exact collected
  | @digit held _ digit =>
      rcases inStep.introduced with ⟨body, rfl⟩
      rcases List.map_eq_append_iff.mp collected.symm with
        ⟨finished, lastOnly, split, params_eq, single⟩
      rcases List.map_eq_singleton_iff.mp single with ⟨last, rfl, last_eq⟩
      change parameters body = _ at split
      rw [ScanMode.step_csi_parameter (isParameter_digit digit)]
      change decoder.params ++ [_] = (parameters (body ++ [c])).map Nat.cast
      rw [parameters_concat_digit digit split, List.map_append, params_eq, ← last_eq]
      simp
  | @separator held =>
      rcases inStep.introduced with ⟨body, rfl⟩
      rw [ScanMode.step_csi_parameter rfl]
      change (decoder.params ++ [decoder.curVal]) ++ [0] =
        (parameters (body ++ [kSeparator])).map Nat.cast
      rw [collected, parameters_concat_separator, List.map_append]
      rfl
  | final final =>
      rw [ScanMode.step_csi_final final]
      rfl

theorem graphics_control {body : List UInt8} {c : UInt8} :
    (Token.control (kEscapeChar :: kCsiChar :: body ++ [c])).graphics =
      if c = kSetGraphics then parameters body else [] := by
  rw [Token.graphics, List.getLast?_concat]
  simp only [Option.some.injEq, List.cons_append, List.drop_succ_cons, List.drop_zero,
    List.dropLast_concat]

namespace DemoDecoder

/-- The application after parameters have set its colours. -/
def afterParameters (decoder : AnsiDecoder) (parameters : List Nat) (logTextBuffer : TextBuffer) :
    DemoDecoder where
  decoder
  fgColor := (Colors.after parameters).foreground
  bgColor := (Colors.after parameters).background
  logTextBuffer

end DemoDecoder

theorem Processes.handled (processes : Processes decoder mode c next outputs)
    (collects : Collects mode decoder) (earlier : List Nat) (buffer : TextBuffer) :
    outputs.foldlM DemoDecoder.handle (.afterParameters next earlier buffer) =
      (buffer.drawAll (colored earlier (ScanMode.step .normal mode c).1)).map
        (.afterParameters next
          (earlier ++ (ScanMode.step .normal mode c).1.flatMap Token.graphics)) := by
  have collected := collects.collected
  rcases collects.inStep with ⟨stale, inStep⟩
  have nothing : [].foldlM DemoDecoder.handle (.afterParameters next earlier buffer) =
      (buffer.drawAll (colored earlier [])).map
        (.afterParameters next (earlier ++ [].flatMap Token.graphics)) := by
    rw [List.flatMap_nil, List.append_nil]
    rfl
  cases processes with
  | char isChar =>
      rw [ScanMode.step_normal_char isChar]
      have drawn : buffer.drawAll (colored earlier [.char c]) =
          buffer.drawCharacter ((Colors.after earlier).char c) :=
        TextBuffer.drawAll_singleton buffer _
      rw [drawn, List.flatMap_singleton, Token.graphics, List.append_nil, List.foldlM_cons]
      apply (bind_pure _).trans
      exact Option.map_eq_bind.symm
  | escape => exact nothing
  | csi => exact nothing
  | digit digit =>
      rw [ScanMode.step_csi_parameter (isParameter_digit digit)]
      exact nothing
  | separator => exact nothing
  | @final held _ final =>
      rcases inStep.introduced with ⟨body, rfl⟩
      rw [ScanMode.step_csi_final final, List.flatMap_singleton]
      change _ = some (DemoDecoder.afterParameters _
        (earlier ++ (Token.control (kEscapeChar :: kCsiChar :: body ++ [c])).graphics) buffer)
      rw [graphics_control]
      split
      · rw [collected, DemoDecoder.foldlM_flatMap_handleSetColor]
        unfold DemoDecoder.afterParameters Colors.after
        rw [List.foldl_append]
        rfl
      · rw [List.append_nil]
        rfl

theorem Collects.processChar (collects : Collects mode decoder)
    (noneRejected : NoneRejected (ScanMode.step .normal mode c).1) :
    ∃ next, Collects (ScanMode.step .normal mode c).2 next ∧ ∀ earlier buffer,
      DemoDecoder.processChar .unlimited (.afterParameters decoder earlier buffer) c =
        (buffer.drawAll (colored earlier (ScanMode.step .normal mode c).1)).map
          (.afterParameters next
            (earlier ++ (ScanMode.step .normal mode c).1.flatMap Token.graphics)) := by
  rcases collects.inStep with ⟨stale, inStep⟩
  rcases inStep.processes noneRejected with ⟨next, outputs, processed, processes⟩
  refine ⟨next, processes.collects collects, ?_⟩
  intro earlier buffer
  rw [← processes.handled collects, DemoDecoder.processChar, DemoDecoder.afterParameters,
    processed]
  rfl

end Step

/-- Where the scanner stands after a text. -/
def ScanMode.after (mode : ScanMode) (text : List UInt8) : ScanMode :=
  text.foldl (fun mode c => (step .normal mode c).2) mode

/-- From wherever the decoder and the scanner stand. -/
theorem Collects.processText {mode : ScanMode} {decoder : AnsiDecoder} {text : List UInt8}
    (collects : Collects mode decoder)
    (noneRejected : NoneRejected (scanFrom .normal mode text)) :
    ∃ last, Collects (mode.after text) last ∧ ∀ earlier buffer,
      text.foldlM (DemoDecoder.processChar .unlimited)
          (.afterParameters decoder earlier buffer) =
        (buffer.drawAll (colored earlier (scanFrom .normal mode text))).map
          (.afterParameters last
            (earlier ++ (scanFrom .normal mode text).flatMap Token.graphics)) := by
  induction text generalizing mode decoder with
  | nil =>
      refine ⟨decoder, collects, ?_⟩
      intro earlier buffer
      rw [scanFrom, colored_leftover, graphics_leftover, List.append_nil]
      rfl
  | cons c text induction =>
      rw [scanFrom, noneRejected_append] at noneRejected
      rcases collects.processChar noneRejected.1 with ⟨next, nextCollects, processed⟩
      rcases induction nextCollects noneRejected.2 with ⟨last, lastCollects, rest⟩
      refine ⟨last, lastCollects, ?_⟩
      intro earlier buffer
      rw [List.foldlM_cons, processed, scanFrom, colored_append, TextBuffer.drawAll_append,
        List.flatMap_append, ← List.append_assoc]
      cases buffer.drawAll (colored earlier (ScanMode.step .normal mode c).1) with
      | none => rfl
      | some drawn => exact rest _ drawn

namespace DemoDecoder

/-- Whatever buffer the application draws into, it draws the characters of a
text in exactly the colours that the control sequences before them have set. -/
theorem processText_colored (text : List UInt8) (noneRejected : NoneRejected (scan text)) :
    ∃ decoder, ∀ buffer,
      text.foldlM (processChar .unlimited) { fresh with logTextBuffer := buffer } =
        (buffer.drawAll (colored [] (scan text))).map
          (.afterParameters decoder ((scan text).flatMap Token.graphics)) := by
  rcases fresh_collects.processText noneRejected with ⟨decoder, _, drawn⟩
  exact ⟨decoder, drawn []⟩

/-- `ESC [ ; 3 1 m a ESC [ 4 2 K b`: only the first sequence sets a colour. -/
theorem processText_colored_red :
    ∃ decoder, ∀ buffer,
      [kEscapeChar, kCsiChar, kSeparator, 0x33, 0x31, kSetGraphics, 0x61, kEscapeChar,
          kCsiChar, 0x34, 0x32, 0x4b, 0x62].foldlM (processChar .unlimited)
          { fresh with logTextBuffer := buffer } =
        (buffer.drawAll [⟨0x61, 0xa800, 0⟩, ⟨0x62, 0xa800, 0⟩]).map
          (.afterParameters decoder [0, 31]) :=
  processText_colored
    [kEscapeChar, kCsiChar, kSeparator, 0x33, 0x31, kSetGraphics, 0x61, kEscapeChar,
      kCsiChar, 0x34, 0x32, 0x4b, 0x62] (complete_noneRejected (by decide))

end DemoDecoder

end PigweedExperimental.Terminal
