import PigweedExperimental.Foundation.Numeral

namespace PigweedExperimental

/-! # Source text

Text in the manner of C: a backslash directly before the newline joins a line to the
next one (as in C++20, not with a blank between them), a comment goes to the end of its
line, and what is left are words and single characters.
-/

/-- The lines after `current`, which is the beginning of one. -/
def logicalLines (current : List Char) : List Char → List (List Char)
  | [] => [current]
  | '\\' :: '\n' :: rest => logicalLines current rest
  | '\n' :: rest => current :: logicalLines [] rest
  | char :: rest => logicalLines (current ++ [char]) rest

/-- Lines as they are written, each with its newline. -/
def unlines (lines : List (List Char)) : List Char := lines.flatMap (· ++ ['\n'])

theorem unlines_append (lines others : List (List Char)) :
    unlines (lines ++ others) = unlines lines ++ unlines others :=
  List.flatMap_append

/-- The line ends where it is written to end. -/
def IsLine (line : List Char) : Prop := '\n' ∉ line ∧ line.getLast? ≠ some '\\'

instance (line : List Char) : Decidable (IsLine line) :=
  inferInstanceAs (Decidable (_ ∧ _))

def isWordChar (char : Char) : Bool := char.isAlphanum || char == '_'

/-- A word that has come to its end. -/
def ended (word : List Char) : List (List Char) := if word = [] then [] else [word]

/-- The tokens of a line after the beginning of a word. -/
def tokensOf (word : List Char) : List Char → List (List Char)
  | [] => ended word
  | '/' :: '/' :: _ => ended word
  | char :: rest =>
      if isWordChar char then tokensOf (word ++ [char]) rest
      else if char = ' ' then ended word ++ tokensOf [] rest
      else ended word ++ [char] :: tokensOf [] rest

/-- A line that is a directive has no tokens of its own. -/
def lineTokens (line : List Char) : List (List Char) :=
  if line.head? = some '#' then [] else tokensOf [] line

def tokens (text : List Char) : List (List Char) := (logicalLines [] text).flatMap lineTokens

/-- What comes after some tokens. -/
def expect [DecidableEq Token] : (expected tokens : List Token) → Option (List Token)
  | [], tokens => some tokens
  | expected :: others, token :: tokens =>
      if expected = token then expect others tokens else none
  | _ :: _, [] => none

section Lines

variable {line rest : List Char} {char : Char}

theorem isLine_append {beginning : List Char} (noNewline : '\n' ∉ beginning)
    (isLine : IsLine line) (notEmpty : line ≠ []) : IsLine (beginning ++ line) := by
  constructor
  · simp [noNewline, isLine.1]
  · rw [List.getLast?_append, List.getLast?_eq_some_getLast notEmpty, Option.some_or,
      ← List.getLast?_eq_some_getLast notEmpty]
    exact isLine.2

theorem logicalLines_char (noNewline : char ≠ '\n')
    (notJoined : char = '\\' → rest.head? ≠ some '\n') (current : List Char) :
    logicalLines current (char :: rest) = logicalLines (current ++ [char]) rest := by
  rw [logicalLines.eq_def]
  split
  · rename_i isEmpty
    cases isEmpty
  · rename_i joined
    cases joined
    exact absurd rfl (notJoined rfl)
  · rename_i _ newline
    exact absurd (List.cons.inj newline).1 noNewline
  · rename_i same
    cases same
    rfl

theorem logicalLines_line (isLine : IsLine line) (current : List Char) :
    logicalLines current (line ++ '\n' :: rest) = (current ++ line) :: logicalLines [] rest := by
  induction line generalizing current with
  | nil => simp [logicalLines]
  | cons char line induction =>
      rw [IsLine, List.mem_cons, not_or] at isLine
      rcases isLine with ⟨⟨noNewline, noneLater⟩, notLast⟩
      have later : line = [] ∨ IsLine line := by
        cases line with
        | nil => exact .inl rfl
        | cons next line => exact .inr ⟨noneLater, notLast⟩
      have notJoined : char = '\\' → (line ++ '\n' :: rest).head? ≠ some '\n' := by
        rintro rfl
        cases line with
        | nil => exact absurd rfl notLast
        | cons next line =>
            intro isNewline
            exact noneLater (Option.some.inj isNewline ▸ List.mem_cons_self)
      rw [List.cons_append, logicalLines_char (Ne.symm noNewline) notJoined]
      rcases later with rfl | later
      · simp [logicalLines]
      · rw [induction later, List.append_assoc, List.singleton_append]

/-- What is written line by line is read line by line. -/
theorem logicalLines_unlines {lines : List (List Char)} (areLines : ∀ line ∈ lines, IsLine line) :
    logicalLines [] (unlines lines) = lines ++ [[]] := by
  induction lines with
  | nil => rfl
  | cons line lines induction =>
      rw [List.forall_mem_cons] at areLines
      rw [unlines, List.flatMap_cons, List.append_assoc, List.singleton_append,
        logicalLines_line areLines.1, List.nil_append, List.cons_append]
      exact congrArg (line :: ·) (induction areLines.2)

theorem tokens_unlines {lines : List (List Char)} (areLines : ∀ line ∈ lines, IsLine line) :
    tokens (unlines lines) = lines.flatMap lineTokens := by
  rw [tokens, logicalLines_unlines areLines, List.flatMap_append]
  exact List.append_nil _

end Lines

section Words

variable {word letters rest : List Char}

theorem tokensOf_letters (areLetters : ∀ char ∈ letters, isWordChar char) (word : List Char) :
    tokensOf word (letters ++ rest) = tokensOf (word ++ letters) rest := by
  induction letters generalizing word with
  | nil => simp
  | cons char letters induction =>
      rw [List.forall_mem_cons] at areLetters
      have noComment : ∀ others, char :: (letters ++ rest) ≠ '/' :: '/' :: others := by
        intro others isComment
        have isLetter := areLetters.1
        rw [(List.cons.inj isComment).1] at isLetter
        cases isLetter
      rw [List.cons_append, tokensOf.eq_def]
      split
      · rename_i isEmpty
        cases isEmpty
      · rename_i isComment
        exact absurd isComment (noComment _)
      · rename_i same
        cases same
        rw [if_pos areLetters.1, induction areLetters.2, List.append_assoc, List.singleton_append]

theorem newline_notMem (areLetters : ∀ char ∈ word, isWordChar char) : '\n' ∉ word := by
  intro isIn
  cases areLetters _ isIn

/-- Text within a line up to a place where no word goes on and no comment begins. -/
def IsSegment (text : List Char) : Prop :=
  '\n' ∉ text ∧ '/' ∉ text ∧ text.getLast?.map isWordChar = some false

instance (text : List Char) : Decidable (IsSegment text) :=
  inferInstanceAs (Decidable (_ ∧ _))

theorem tokensOf_other {char : Char} (noSlash : char ≠ '/') (word : List Char) :
    tokensOf word (char :: rest) =
      if isWordChar char then tokensOf (word ++ [char]) rest
      else if char = ' ' then ended word ++ tokensOf [] rest
      else ended word ++ [char] :: tokensOf [] rest := by
  rw [tokensOf.eq_def]
  split
  · rename_i isEmpty
    cases isEmpty
  · rename_i isComment
    exact absurd (List.cons.inj isComment).1 noSlash
  · rename_i same
    cases same
    rfl

/-- A word ends at what is no letter. -/
theorem tokensOf_ended {char : Char} (notEmpty : word ≠ []) (noSlash : char ≠ '/')
    (ends : isWordChar char = false) :
    tokensOf word (char :: rest) = word :: tokensOf [] (char :: rest) := by
  rw [tokensOf_other noSlash, tokensOf_other noSlash, ends, if_neg Bool.false_ne_true,
    if_neg Bool.false_ne_true]
  split <;> simp [ended, notEmpty]

theorem tokensOf_segment {segment : List Char} (isSegment : IsSegment segment)
    (word : List Char) :
    tokensOf word (segment ++ rest) = tokensOf word segment ++ tokensOf [] rest := by
  induction segment generalizing word with
  | nil => cases isSegment.2.2
  | cons char segment induction =>
      rcases isSegment with ⟨noNewline, noSlash, ends⟩
      rw [List.mem_cons, not_or] at noNewline noSlash
      rw [List.cons_append, tokensOf_other (Ne.symm noSlash.1), tokensOf_other (Ne.symm noSlash.1)]
      cases segment with
      | nil =>
          have isEnd : isWordChar char = false := Option.some.inj ends
          rw [isEnd, if_neg Bool.false_ne_true, if_neg Bool.false_ne_true, List.nil_append]
          split <;> simp [tokensOf, ended]
      | cons next segment =>
          have later := induction ⟨noNewline.2, noSlash.2, ends⟩
          split
          · exact later _
          · split
            · rw [later, List.append_assoc]
            · rw [later, List.append_assoc, List.cons_append]

theorem expect_append [DecidableEq Token] (expected tokens : List Token) :
    expect expected (expected ++ tokens) = some tokens := by
  induction expected with
  | nil => cases tokens <;> rfl
  | cons token expected induction => rw [List.cons_append, expect, if_pos rfl, induction]

end Words

section Digits

/-- A number is read from its digits. -/
theorem readNumeral_toDigits {base : Nat} {terminator : Char} (base_gt : 1 < base)
    (base_le : base ≤ 16) (notEnd : digitValue base terminator = none) (number : Nat) :
    readNumeral base terminator (Nat.toDigits base number ++ [terminator]) = some number := by
  have unpadded : padded base 0 number = Nat.toDigits base number := by
    rw [padded, List.leftpad, Nat.zero_sub]
    rfl
  rw [← unpadded]
  exact readNumeral_padded base_gt base_le notEnd 0 number []

/-- The digits of a number are letters of a word. -/
theorem isWordChar_of_mem_toDigits {base : Nat} (base_gt : 1 < base) (base_le : base ≤ 16)
    (number : Nat) : ∀ char ∈ Nat.toDigits base number, isWordChar char := by
  have isDigit : ∀ digit < 16, isWordChar digit.digitChar := by decide
  induction number using Nat.strongRecOn with
  | ind number induction =>
      by_cases single : number < base
      · rw [Nat.toDigits_of_lt_base single]
        simpa using isDigit number (by omega)
      · rw [Nat.not_lt] at single
        have last : number % base < base := Nat.mod_lt _ (by omega)
        rw [Nat.toDigits_of_base_le base_gt single, List.forall_mem_append]
        refine ⟨induction (number / base) (Nat.div_lt_self (by omega) base_gt), ?_⟩
        simpa using isDigit (number % base) (by omega)

end Digits

end PigweedExperimental
