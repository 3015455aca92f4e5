import PigweedExperimental.Terminal.AnsiDecoder

namespace PigweedExperimental.Terminal

/-! # Control sequences

A left-to-right scanner over text with control sequences: `ESC '['`, then
digits and `';'`, up to and including the first other character. It states
what the decoder is for and is compared with the decoder elsewhere.
-/

def isParameter (c : UInt8) : Bool := isDigit c || c = kSeparator

/-- What the scanner recognises, with the characters it covers. -/
inductive Token where
  | char (c : UInt8)
  | control (text : List UInt8)
  | rejected (text : List UInt8)
  | unfinished (text : List UInt8)
  deriving DecidableEq, Repr

namespace Token

def text : Token → List UInt8
  | .char c => [c]
  | .control text => text
  | .rejected text => text
  | .unfinished text => text

/-- A control sequence is not shown; an escape that starts none is. -/
def visible : Token → List UInt8
  | .char c => [c]
  | .control _ => []
  | .rejected text => text
  | .unfinished _ => []

def isRejected : Token → Bool
  | .rejected _ => true
  | _ => false

/-- The token stands for itself: it is neither rejected nor cut off. -/
def isComplete : Token → Bool
  | .char _ => true
  | .control _ => true
  | .rejected _ => false
  | .unfinished _ => false

end Token

/-- Where the scanner stands, with the characters it has not classified yet. -/
inductive ScanMode where
  | normal
  | escape (held : List UInt8)
  | csi (held : List UInt8)
  deriving DecidableEq, Repr

namespace ScanMode

def held : ScanMode → List UInt8
  | .normal => []
  | .escape held => held
  | .csi held => held

/-- The decoder's state for the same characters. -/
def decoderState : ScanMode → DecoderState
  | .normal => .normal
  | .escape _ => .escape
  | .csi _ => .csi

/-- What is left over when the text ends here. -/
def leftover (mode : ScanMode) : List Token :=
  if mode.held = [] then [] else [.unfinished mode.held]

/-- One character of the scanner, which goes on in `resume` after an escape
that starts no control sequence. -/
def step (resume : ScanMode) : ScanMode → UInt8 → List Token × ScanMode
  | .normal, c =>
      if c = kEscapeChar then ([], .escape [c]) else ([.char c], .normal)
  | .escape held, c =>
      if c = kCsiChar then
        ([], .csi (held ++ [c]))
      else
        ([.rejected (held ++ [c])], resume)
  | .csi held, c =>
      if isParameter c then
        ([], .csi (held ++ [c]))
      else
        ([.control (held ++ [c])], .normal)

section Step

variable {resume : ScanMode} {held : List UInt8} {c : UInt8}

theorem step_normal_char (isChar : c ≠ kEscapeChar) :
    step resume .normal c = ([.char c], .normal) :=
  if_neg isChar

theorem step_normal_escape : step resume .normal kEscapeChar = ([], .escape [kEscapeChar]) :=
  rfl

theorem step_escape_csi :
    step resume (.escape held) kCsiChar = ([], .csi (held ++ [kCsiChar])) := rfl

theorem step_escape_rejected (isOther : c ≠ kCsiChar) :
    step resume (.escape held) c = ([.rejected (held ++ [c])], resume) :=
  if_neg isOther

theorem step_csi_parameter (parameter : isParameter c) :
    step resume (.csi held) c = ([], .csi (held ++ [c])) :=
  if_pos parameter

theorem step_csi_final (final : ¬isParameter c) :
    step resume (.csi held) c = ([.control (held ++ [c])], .normal) :=
  if_neg final

end Step

/-- Away from normal text a character joins the held ones, which either stay
held or become one token. -/
theorem step_held {resume mode : ScanMode} (notNormal : mode ≠ .normal) (c : UInt8) :
    (∃ next, step resume mode c = ([], next) ∧ next.held = mode.held ++ [c]) ∨
      step resume mode c = ([.rejected (mode.held ++ [c])], resume) ∨
      step resume mode c = ([.control (mode.held ++ [c])], .normal) := by
  cases mode with
  | normal => exact absurd rfl notNormal
  | escape held =>
      by_cases isCsi : c = kCsiChar
      · subst isCsi
        exact .inl ⟨_, step_escape_csi, rfl⟩
      · exact .inr (.inl (step_escape_rejected isCsi))
  | csi held =>
      by_cases parameter : isParameter c
      · exact .inl ⟨_, step_csi_parameter parameter, rfl⟩
      · exact .inr (.inr (step_csi_final parameter))

end ScanMode

def scanFrom (resume : ScanMode) : ScanMode → List UInt8 → List Token
  | mode, [] => mode.leftover
  | mode, c :: text =>
      let stepped := ScanMode.step resume mode c
      stepped.1 ++ scanFrom resume stepped.2 text

/-- The scanner proper: after a rejected escape the text is normal again. -/
def scan (text : List UInt8) : List Token := scanFrom .normal .normal text

/-- The text with exactly its control sequences removed. -/
def visibleText (text : List UInt8) : List UInt8 := (scan text).flatMap Token.visible

/-- The text consists of ordinary characters and whole control sequences. -/
def WellFormed (text : List UInt8) : Prop := ∀ token ∈ scan text, token.isComplete

instance (text : List UInt8) : Decidable (WellFormed text) :=
  inferInstanceAs (Decidable (∀ token ∈ scan text, token.isComplete))

/-- Every `ESC` met in normal text that is not cut off starts a control
sequence. -/
def NoneRejected (tokens : List Token) : Prop :=
  ∀ token ∈ tokens, token.isRejected = false

/-- The scanner neither drops nor invents a character. -/
theorem scanFrom_text (resume mode : ScanMode) (resumesEmpty : resume.held = [])
    (text : List UInt8) :
    (scanFrom resume mode text).flatMap Token.text = mode.held ++ text := by
  induction text generalizing mode with
  | nil =>
      rw [scanFrom, ScanMode.leftover]
      split
      · rename_i empty
        simp [empty]
      · simp [Token.text]
  | cons c text induction =>
      simp only [scanFrom, List.flatMap_append, induction]
      by_cases isNormal : mode = .normal
      · subst isNormal
        by_cases isEscape : c = kEscapeChar
        · subst isEscape
          rfl
        · rw [ScanMode.step_normal_char isEscape]
          rfl
      · rcases ScanMode.step_held isNormal c with
          ⟨next, stepped, held_eq⟩ | stepped | stepped <;>
          rw [stepped]
        · rw [held_eq, List.append_assoc]
          rfl
        · rw [resumesEmpty, List.flatMap_singleton, List.nil_append]
          exact List.append_assoc mode.held [c] text
        · rw [List.flatMap_singleton]
          exact List.append_assoc mode.held [c] text

/-- The tokens are the text, cut into pieces. -/
theorem scan_text (text : List UInt8) : (scan text).flatMap Token.text = text :=
  scanFrom_text .normal .normal rfl text

end PigweedExperimental.Terminal
