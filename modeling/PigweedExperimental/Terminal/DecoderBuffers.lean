import PigweedExperimental.Terminal.ControlSequence
import Mathlib.Algebra.Order.Ring.Int

namespace PigweedExperimental.Terminal

/-! # The decoder's fixed buffers

The characters of control sequences stay in `buffered_chars_` until an escape
is rejected, whose own two characters join them first. Whether they fit is a
question about the text alone, and nothing else can overflow before they do.
-/

namespace Token

/-- How many characters of a token are held back. -/
def heldLength : Token → Nat
  | .char _ => 0
  | .control text => text.length
  | .rejected text => text.length
  | .unfinished text => text.length

/-- How many characters are held back after a token. -/
def heldAfter (held : Nat) : Token → Nat
  | .char _ => held
  | .control text => held + text.length
  | .rejected _ => 0
  | .unfinished text => held + text.length

end Token

/-- With `held` characters held back already, none of the tokens makes them
more than the capacity. -/
def Fits (capacity : Nat) : Nat → List Token → Prop
  | _, [] => True
  | held, token :: tokens =>
      held + token.heldLength ≤ capacity ∧
        Fits capacity (token.heldAfter held) tokens

def heldAfterAll (held : Nat) (tokens : List Token) : Nat :=
  tokens.foldl Token.heldAfter held

theorem fits_append (capacity held : Nat) (tokens later : List Token) :
    Fits capacity held (tokens ++ later) ↔
      Fits capacity held tokens ∧
        Fits capacity (heldAfterAll held tokens) later := by
  induction tokens generalizing held with
  | nil => exact iff_of_eq (true_and _).symm
  | cons token tokens induction =>
      rw [List.cons_append, Fits, Fits, induction, and_assoc]
      rfl

theorem heldAfterAll_le_of_fits {capacity held : Nat} {tokens : List Token}
    (bound : held ≤ capacity) (fits : Fits capacity held tokens) :
    heldAfterAll held tokens ≤ capacity := by
  induction tokens generalizing held with
  | nil => exact bound
  | cons token tokens induction =>
      apply induction _ fits.2
      cases token with
      | char => exact bound
      | control => exact fits.1
      | rejected => exact Nat.zero_le capacity
      | unfinished => exact fits.1

/-- Characters that are not classified yet are held back as well. -/
theorem held_le_of_fits {capacity held : Nat} {resume mode : ScanMode}
    {text : List UInt8} (bound : held ≤ capacity)
    (fits : Fits capacity held (scanFrom resume mode text)) :
    held + mode.held.length ≤ capacity := by
  induction text generalizing mode with
  | nil =>
      rw [scanFrom, ScanMode.leftover] at fits
      split at fits
      · rename_i empty
        simpa [empty] using bound
      · exact fits.1
  | cons c text induction =>
      by_cases isNormal : mode = .normal
      · rw [isNormal]
        exact bound
      · rw [scanFrom] at fits
        rcases @ScanMode.step_held resume mode isNormal c with
          ⟨next, stepped, held_eq⟩ | stepped | stepped <;>
          rw [stepped] at fits
        · have later := induction fits
          rw [held_eq, List.length_append] at later
          exact Nat.le_of_succ_le later
        · have whole := fits.1
          simp only [Token.heldLength, List.length_append] at whole
          exact Nat.le_of_succ_le whole
        · have whole := fits.1
          simp only [Token.heldLength, List.length_append] at whole
          exact Nat.le_of_succ_le whole

namespace ScanMode

/-- More than the parameters and digits read so far: the introducing `'['`
is neither. -/
def numberBound : ScanMode → Nat
  | .normal => 1
  | .escape _ => 1
  | .csi held => held.length

end ScanMode

/-- The decoder is where the scanner is, and its numbers are as large as the
characters read for them allow. -/
structure Follows (held : Nat) (mode : ScanMode) (decoder : AnsiDecoder) : Prop where
  state_eq : decoder.state = mode.decoderState
  buffered_length : decoder.bufferedChars.length = held + mode.held.length
  numbers : ∃ digits, decoder.params.length + digits < mode.numberBound ∧
    0 ≤ decoder.curVal ∧ decoder.curVal < 10 ^ digits

theorem fresh_follows : Follows 0 .normal .fresh where
  state_eq := rfl
  buffered_length := rfl
  numbers := ⟨0, by decide⟩

/-- Where the decoder as coded goes on after a rejected escape: `Error` leaves
it in the escape state. -/
def stuck : ScanMode := .escape []

section Step

variable {held : Nat} {mode : ScanMode} {decoder : AnsiDecoder} {c : UInt8}

theorem pushBack_device {vector : List α} {value : α} (room : vector.length < 10) :
    Limits.device.pushBack vector value = some (vector ++ [value]) := by
  simp [Limits.pushBack, Limits.device, room]

theorem pushBack_device_full {vector : List α} {value : α} (full : 10 ≤ vector.length) :
    Limits.device.pushBack vector value = none := by
  simp [Limits.pushBack, Limits.device, full]

/-- What the scanner makes of a character fits beside what is held back. -/
def StepFits (held : Nat) (mode : ScanMode) (c : UInt8) : Prop :=
  let stepped := ScanMode.step stuck mode c
  Fits 10 held stepped.1 ∧
    heldAfterAll held stepped.1 + stepped.2.held.length ≤ 10

theorem StepFits.room (fits : StepFits held mode c)
    (pushes : mode = .normal → c = kEscapeChar) : held + mode.held.length < 10 := by
  rw [StepFits] at fits
  by_cases isNormal : mode = .normal
  · subst isNormal
    rw [pushes rfl] at fits
    exact fits.2
  · rcases @ScanMode.step_held stuck mode isNormal c with
      ⟨next, stepped, held_eq⟩ | stepped | stepped <;>
      rw [stepped] at fits
    · have whole := fits.2
      rw [held_eq, List.length_append] at whole
      exact whole
    · have whole := fits.1.1
      simp only [Token.heldLength, List.length_append] at whole
      exact whole
    · have whole := fits.1.1
      simp only [Token.heldLength, List.length_append] at whole
      exact whole

theorem Follows.pushBack (follows : Follows held mode decoder)
    (room : held + mode.held.length < 10) :
    Limits.device.pushBack decoder.bufferedChars c =
      some (decoder.bufferedChars ++ [c]) :=
  pushBack_device (follows.buffered_length.symm ▸ room)

/-- A digit read within the buffer keeps the value far below the largest `int`. -/
theorem int_device_digit {curVal : Int} {digits : Nat} (few : digits ≤ 8)
    (bounded : curVal < 10 ^ digits) (digit : isDigit c) :
    Limits.device.int (curVal * 10) = some (curVal * 10) ∧
      Limits.device.int (curVal * 10 + (c.toNat - 0x30 : Nat)) =
        some (curVal * 10 + (c.toNat - 0x30 : Nat)) ∧
      curVal * 10 + (c.toNat - 0x30 : Nat) < 10 ^ (digits + 1) := by
  have power : (10 : Int) ^ digits ≤ 10 ^ 8 :=
    pow_le_pow_right₀ (by decide) few
  have small : c.toNat - 0x30 ≤ 9 := by
    have upper : c ≤ 0x39 := by
      simp only [isDigit, decide_eq_true_eq] at digit
      exact digit.2
    have := UInt8.le_iff_toNat_le.mp upper
    simp at this
    omega
  have fits : ∀ value : Int, value ≤ 0x7FFFFFFF →
      Limits.device.int value = some value := by
    intro value bound
    apply if_pos
    intro intMax isMax
    cases isMax
    exact bound
  rw [pow_succ]
  exact ⟨fits _ (by omega), fits _ (by omega), by omega⟩

/-- The decoder takes the character and still follows the scanner. -/
def ProcessFollows (held : Nat) (mode : ScanMode) (decoder : AnsiDecoder) (c : UInt8) : Prop :=
  ∃ next outputs, decoder.processChar .device c = some (next, outputs) ∧
    Follows (heldAfterAll held (ScanMode.step stuck mode c).1)
      (ScanMode.step stuck mode c).2 next

theorem Follows.processChar_normal (follows : Follows held .normal decoder)
    (fits : StepFits held .normal c) : ProcessFollows held .normal decoder c := by
  rw [ProcessFollows]
  by_cases isEscape : c = kEscapeChar
  · subst isEscape
    refine ⟨_, _, AnsiDecoder.processChar_normal_escape follows.state_eq
      (follows.pushBack (fits.room fun _ => rfl)), ?_⟩
    rw [ScanMode.step_normal_escape]
    exact {
      state_eq := rfl
      buffered_length := by
        rw [List.length_append, follows.buffered_length]
        rfl
      numbers := follows.numbers }
  · refine ⟨_, _, AnsiDecoder.processChar_normal_char follows.state_eq isEscape, ?_⟩
    rw [ScanMode.step_normal_char isEscape]
    exact follows

theorem Follows.processChar_escape {unclassified : List UInt8}
    (follows : Follows held (.escape unclassified) decoder)
    (fits : StepFits held (.escape unclassified) c) :
    ProcessFollows held (.escape unclassified) decoder c := by
  have pushed := follows.pushBack (c := c) (fits.room fun isNormal => by cases isNormal)
  rcases follows.numbers with ⟨digits, numbers, value⟩
  rw [ProcessFollows]
  by_cases isCsi : c = kCsiChar
  · subst isCsi
    refine ⟨_, _, AnsiDecoder.processChar_escape_csi follows.state_eq pushed, ?_⟩
    rw [ScanMode.step_escape_csi]
    exact {
      state_eq := rfl
      buffered_length := by
        simp only [List.length_append, follows.buffered_length, ScanMode.held]
        rfl
      numbers := ⟨digits, by
        simp only [ScanMode.numberBound, List.length_append] at numbers ⊢
        exact Nat.lt_of_lt_of_le numbers (Nat.le_add_left 1 _), value⟩ }
  · refine ⟨_, _, AnsiDecoder.processChar_escape_other follows.state_eq isCsi pushed, ?_⟩
    rw [ScanMode.step_escape_rejected isCsi]
    exact {
      state_eq := follows.state_eq
      buffered_length := rfl
      numbers := ⟨digits, numbers, value⟩ }

/-- While the held characters fit, so do the parameters and their values. -/
theorem Follows.processChar_csi {unclassified : List UInt8}
    (follows : Follows held (.csi unclassified) decoder)
    (fits : StepFits held (.csi unclassified) c) :
    ProcessFollows held (.csi unclassified) decoder c := by
  have room := fits.room fun isNormal => by cases isNormal
  have pushed := follows.pushBack (c := c) room
  have pushedLength : (decoder.bufferedChars ++ [c]).length =
      held + (unclassified ++ [c]).length := by
    simp only [List.length_append, follows.buffered_length, ScanMode.held]
    rfl
  rcases follows.numbers with ⟨digits, numbers, nonnegative, bounded⟩
  simp only [ScanMode.numberBound, ScanMode.held] at numbers room
  have pushedParam : Limits.device.pushBack decoder.params decoder.curVal =
      some (decoder.params ++ [decoder.curVal]) := pushBack_device (by omega)
  rw [ProcessFollows]
  by_cases digit : isDigit c
  · rcases int_device_digit (show digits ≤ 8 by omega) bounded digit with
      ⟨scaled, added, value_lt⟩
    refine ⟨_, _, AnsiDecoder.processChar_csi_digit follows.state_eq digit pushed
      scaled added, ?_⟩
    rw [ScanMode.step_csi_parameter (by simp [isParameter, digit])]
    exact {
      state_eq := follows.state_eq
      buffered_length := pushedLength
      numbers := ⟨digits + 1, by
        simp only [ScanMode.numberBound, List.length_append, List.length_singleton]
        omega, by simp only; omega, value_lt⟩ }
  · by_cases isSeparator : c = kSeparator
    · subst isSeparator
      refine ⟨_, _, AnsiDecoder.processChar_csi_separator follows.state_eq pushed
        pushedParam, ?_⟩
      rw [ScanMode.step_csi_parameter rfl]
      exact {
        state_eq := follows.state_eq
        buffered_length := pushedLength
        numbers := ⟨0, by
          simp only [ScanMode.numberBound, List.length_append, List.length_singleton]
          omega, Int.le_refl 0, Int.one_pos⟩ }
    · refine ⟨_, _, AnsiDecoder.processChar_csi_final follows.state_eq
        (Bool.eq_false_iff.mpr digit) isSeparator pushed pushedParam, ?_⟩
      rw [ScanMode.step_csi_final (by simp [isParameter, digit, isSeparator])]
      exact {
        state_eq := rfl
        buffered_length := pushedLength
        numbers := ⟨0, Nat.zero_lt_one, Int.le_refl 0, Int.one_pos⟩ }

theorem Follows.processChar (follows : Follows held mode decoder)
    (fits : StepFits held mode c) : ProcessFollows held mode decoder c := by
  cases mode with
  | normal => exact follows.processChar_normal fits
  | escape unclassified => exact follows.processChar_escape fits
  | csi unclassified => exact follows.processChar_csi fits

/-- A character that no longer fits is the end of the run: it is one that the
decoder pushes. -/
theorem Follows.processChar_overflow (follows : Follows held mode decoder)
    (room : held + mode.held.length ≤ 10) (overflows : ¬StepFits held mode c) :
    decoder.processChar .device c = none := by
  have pushes : mode = .normal → c = kEscapeChar := by
    intro isNormal
    subst isNormal
    by_contra isChar
    apply overflows
    rw [StepFits]
    rw [ScanMode.step_normal_char isChar]
    exact ⟨⟨room, trivial⟩, room⟩
  have full : 10 ≤ held + mode.held.length := by
    apply Nat.le_of_not_lt
    intro notFull
    apply overflows
    rw [StepFits]
    by_cases isNormal : mode = .normal
    · subst isNormal
      rw [pushes rfl]
      exact ⟨trivial, notFull⟩
    · rcases @ScanMode.step_held stuck mode isNormal c with
        ⟨next, stepped, held_eq⟩ | stepped | stepped <;>
        rw [stepped]
      · refine ⟨trivial, ?_⟩
        rw [held_eq, List.length_append]
        exact notFull
      · refine ⟨⟨?_, trivial⟩, Nat.zero_le 10⟩
        rw [Token.heldLength, List.length_append]
        exact notFull
      · have whole : held + (mode.held ++ [c]).length ≤ 10 := by
          rw [List.length_append]
          exact notFull
        exact ⟨⟨whole, trivial⟩, whole⟩
  apply AnsiDecoder.processChar_full
  · intro isNormal
    apply pushes
    rw [follows.state_eq] at isNormal
    cases mode with
    | normal => rfl
    | escape => cases isNormal
    | csi => cases isNormal
  · exact pushBack_device_full (follows.buffered_length.symm ▸ full)

end Step

theorem Follows.decode_isSome_iff {held : Nat} {mode : ScanMode}
    {decoder : AnsiDecoder} (follows : Follows held mode decoder)
    (room : held + mode.held.length ≤ 10) (text : List UInt8) :
    (decoder.decode .device text).isSome ↔
      Fits 10 held (scanFrom stuck mode text) := by
  induction text generalizing held mode decoder with
  | nil =>
      refine iff_of_true rfl ?_
      rw [scanFrom, ScanMode.leftover]
      split
      · trivial
      · exact ⟨room, trivial⟩
  | cons c text induction =>
      rw [scanFrom, fits_append]
      by_cases fits : StepFits held mode c
      · rcases follows.processChar fits with ⟨next, outputs, processed, nextFollows⟩
        rw [AnsiDecoder.decode_cons _ processed, Option.isSome_map,
          induction nextFollows fits.2]
        exact (and_iff_right fits.1).symm
      · have stops : decoder.decode .device (c :: text) = none := by
          rw [AnsiDecoder.decode, follows.processChar_overflow room fits]
          rfl
        rw [stops]
        refine iff_of_false Bool.false_ne_true ?_
        intro whole
        rcases whole with ⟨stepped, later⟩
        have bound : held ≤ 10 := Nat.le_of_add_right_le room
        exact fits ⟨stepped,
          held_le_of_fits (heldAfterAll_le_of_fits bound stepped) later⟩

/-- Exactly when the decoder's fixed buffers survive a text: from one rejected
escape to the next, the control sequences between them and the second escape
with the character after it have at most ten characters in all. -/
theorem decode_device_isSome_iff (text : List UInt8) :
    (AnsiDecoder.fresh.decode .device text).isSome ↔
      Fits 10 0 (scanFrom stuck .normal text) :=
  fresh_follows.decode_isSome_iff (Nat.zero_le 10) text

/-- `ESC [ m` four times over: every sequence is well formed and short. -/
theorem fourResets_overflow :
    AnsiDecoder.fresh.decode .device
      ((List.replicate 4 [kEscapeChar, kCsiChar, kSetGraphics]).flatten) = none := by
  decide

end PigweedExperimental.Terminal
