import Mathlib.Data.List.Basic

namespace PigweedExperimental.Terminal

/-! # `AnsiDecoder`

The decoder is a state machine over characters. What it does to the outside,
calls of its three virtual methods, is collected in order as its output.
-/

/-- A colour as the decoder's tables give it. -/
structure Color where
  r : UInt8
  g : UInt8
  b : UInt8
  deriving DecidableEq, Repr

/-- A call of one of the virtual methods. -/
inductive Output where
  | setFgColor (color : Color)
  | setBgColor (color : Color)
  | emitChar (c : UInt8)
  deriving DecidableEq, Repr

/-- The characters given to `EmitChar`, in order. -/
def emitted (outputs : List Output) : List UInt8 :=
  outputs.filterMap fun
    | .emitChar c => some c
    | .setFgColor _ => none
    | .setBgColor _ => none

@[simp] theorem emitted_append (left right : List Output) :
    emitted (left ++ right) = emitted left ++ emitted right :=
  List.filterMap_append

@[simp] theorem emitted_map_emitChar (text : List UInt8) :
    emitted (text.map .emitChar) = text := by
  induction text with
  | nil => rfl
  | cons c text induction => exact congrArg (c :: ·) induction

/-- The bounds under which the decoder runs: the capacity of its vectors and
the largest value of an `int`, where there are any. -/
structure Limits where
  capacity : Option Nat
  intMax : Option Int

namespace Limits

/-- `pw::Vector<_, 10>` and a 32-bit `int`. -/
def device : Limits where
  capacity := some 10
  intMax := some 0x7FFFFFFF

def unlimited : Limits where
  capacity := none
  intMax := none

/-- `push_back`, which fails on a full vector. -/
def pushBack (limits : Limits) (vector : List α) (value : α) : Option (List α) :=
  if ∀ capacity ∈ limits.capacity, vector.length < capacity then
    some (vector ++ [value])
  else
    none

/-- A result of `int` arithmetic; the values met here are never negative. -/
def int (limits : Limits) (value : Int) : Option Int :=
  if ∀ intMax ∈ limits.intMax, value ≤ intMax then some value else none

@[simp] theorem pushBack_unlimited (vector : List α) (value : α) :
    unlimited.pushBack vector value = some (vector ++ [value]) := by
  simp [pushBack, unlimited]

@[simp] theorem int_unlimited (value : Int) : unlimited.int value = some value := by
  simp [int, unlimited]

end Limits

def kEscapeChar : UInt8 := 0x1b

/-- `'['` -/
def kCsiChar : UInt8 := 0x5b

/-- `';'` -/
def kSeparator : UInt8 := 0x3b

/-- `'m'` -/
def kSetGraphics : UInt8 := 0x6d

/-- `std::isdigit` -/
def isDigit (c : UInt8) : Bool := 0x30 ≤ c ∧ c ≤ 0x39

inductive DecoderState where
  | normal
  | escape
  | csi
  deriving DecidableEq, Repr

structure AnsiDecoder where
  state : DecoderState
  curVal : Int
  params : List Int
  bufferedChars : List UInt8
  deriving DecidableEq, Repr

namespace AnsiDecoder

/-- The constructor. -/
def fresh : AnsiDecoder where
  state := .normal
  curVal := 0
  params := []
  bufferedChars := []

def kNormalColors : Vector Color 8 := #v[
  ⟨0, 0, 0⟩, ⟨170, 0, 0⟩, ⟨0, 170, 0⟩, ⟨170, 85, 0⟩,
  ⟨0, 0, 170⟩, ⟨170, 0, 170⟩, ⟨0, 170, 170⟩, ⟨170, 170, 170⟩]

def kBrightColors : Vector Color 8 := #v[
  ⟨85, 85, 85⟩, ⟨255, 85, 85⟩, ⟨85, 255, 85⟩, ⟨255, 255, 85⟩,
  ⟨85, 85, 255⟩, ⟨255, 85, 255⟩, ⟨85, 255, 255⟩, ⟨255, 255, 255⟩]

/-- The `switch` on `color_loc`, for an index into the colour tables. -/
def setColorAt (colorLoc : Int) (colorIndex : Fin 8) : List Output :=
  match colorLoc with
  | 3 => [.setFgColor kNormalColors[colorIndex]]
  | 4 => [.setBgColor kNormalColors[colorIndex]]
  | 9 => [.setFgColor kBrightColors[colorIndex]]
  | 10 => [.setBgColor kBrightColors[colorIndex]]
  | _ => []

def handleSetColor (val : Int) : List Output :=
  if val < 0 then
    []
  else
    let reset : List Output :=
      if val = 0 then
        [.setBgColor kNormalColors[0], .setFgColor kNormalColors[7]]
      else
        []
    let colorIndex := (val % 10).toNat
    let colorLoc := val / 10
    if inTable : colorIndex < 8 then
      reset ++ setColorAt colorLoc ⟨colorIndex, inTable⟩
    else
      reset

def pushParam (limits : Limits) (decoder : AnsiDecoder) : Option AnsiDecoder := do
  let params ← limits.pushBack decoder.params decoder.curVal
  return { decoder with params, curVal := 0 }

def handleCsiCommand (decoder : AnsiDecoder) (c : UInt8) :
    AnsiDecoder × List Output :=
  ({ decoder with params := [] },
    if c = kSetGraphics then decoder.params.flatMap handleSetColor else [])

/-- `Error` gives up the held characters; it does not touch the state. -/
def error (decoder : AnsiDecoder) : AnsiDecoder × List Output :=
  ({ decoder with bufferedChars := [] }, decoder.bufferedChars.map .emitChar)

/-- `none` where the vectors or the `int` overflow. -/
def processChar (limits : Limits) (decoder : AnsiDecoder) (c : UInt8) :
    Option (AnsiDecoder × List Output) :=
  match decoder.state with
  | .normal =>
      if c = kEscapeChar then do
        let bufferedChars ← limits.pushBack decoder.bufferedChars c
        return ({ decoder with bufferedChars, state := .escape }, [])
      else
        return (decoder, [.emitChar c])
  | .escape => do
      let bufferedChars ← limits.pushBack decoder.bufferedChars c
      if c = kCsiChar then
        return ({ decoder with bufferedChars, state := .csi }, [])
      else
        return { decoder with bufferedChars }.error
  | .csi => do
      let bufferedChars ← limits.pushBack decoder.bufferedChars c
      let decoder := { decoder with bufferedChars }
      if isDigit c then
        let scaled ← limits.int (decoder.curVal * 10)
        let curVal ← limits.int (scaled + (c.toNat - 0x30 : Nat))
        return ({ decoder with curVal }, [])
      else if c = kSeparator then
        let decoder ← decoder.pushParam limits
        return (decoder, [])
      else
        let decoder ← decoder.pushParam limits
        let handled := decoder.handleCsiCommand c
        return ({ handled.1 with state := .normal }, handled.2)

section ProcessChar

variable {limits : Limits} {decoder : AnsiDecoder} {c : UInt8}
  {bufferedChars : List UInt8}

theorem processChar_normal_char (isNormal : decoder.state = .normal)
    (isChar : c ≠ kEscapeChar) :
    decoder.processChar limits c = some (decoder, [.emitChar c]) := by
  simp [processChar, isNormal, isChar]

theorem processChar_normal_escape (isNormal : decoder.state = .normal)
    (pushed : limits.pushBack decoder.bufferedChars kEscapeChar = some bufferedChars) :
    decoder.processChar limits kEscapeChar =
      some ({ decoder with bufferedChars, state := .escape }, []) := by
  simp [processChar, isNormal, pushed]

theorem processChar_escape_csi (isEscape : decoder.state = .escape)
    (pushed : limits.pushBack decoder.bufferedChars kCsiChar = some bufferedChars) :
    decoder.processChar limits kCsiChar =
      some ({ decoder with bufferedChars, state := .csi }, []) := by
  simp [processChar, isEscape, pushed]

/-- The held characters are emitted and the state stays `kEscape`. -/
theorem processChar_escape_other (isEscape : decoder.state = .escape)
    (isOther : c ≠ kCsiChar)
    (pushed : limits.pushBack decoder.bufferedChars c = some bufferedChars) :
    decoder.processChar limits c =
      some ({ decoder with bufferedChars := [] }, bufferedChars.map .emitChar) := by
  simp [processChar, isEscape, isOther, pushed, error]

theorem processChar_csi_digit {scaled curVal : Int} (isCsi : decoder.state = .csi)
    (digit : isDigit c)
    (pushed : limits.pushBack decoder.bufferedChars c = some bufferedChars)
    (multiplied : limits.int (decoder.curVal * 10) = some scaled)
    (added : limits.int (scaled + (c.toNat - 0x30 : Nat)) = some curVal) :
    decoder.processChar limits c =
      some ({ decoder with bufferedChars, curVal }, []) := by
  simp [processChar, isCsi, digit, pushed, multiplied, added]

theorem processChar_csi_separator {params : List Int} (isCsi : decoder.state = .csi)
    (pushed : limits.pushBack decoder.bufferedChars kSeparator = some bufferedChars)
    (pushedParam : limits.pushBack decoder.params decoder.curVal = some params) :
    decoder.processChar limits kSeparator =
      some ({ decoder with bufferedChars, params, curVal := 0 }, []) := by
  have notDigit : isDigit kSeparator = false := rfl
  simp [processChar, isCsi, notDigit, pushed, pushParam, pushedParam]

theorem processChar_csi_final {params : List Int} (isCsi : decoder.state = .csi)
    (notDigit : isDigit c = false) (notSeparator : c ≠ kSeparator)
    (pushed : limits.pushBack decoder.bufferedChars c = some bufferedChars)
    (pushedParam : limits.pushBack decoder.params decoder.curVal = some params) :
    decoder.processChar limits c =
      some ({ decoder with bufferedChars, params := [], curVal := 0, state := .normal },
        if c = kSetGraphics then params.flatMap handleSetColor else []) := by
  simp [processChar, isCsi, notDigit, notSeparator, pushed, pushParam, pushedParam,
    handleCsiCommand]

/-- Every character but an ordinary one in normal text is pushed. -/
theorem processChar_full (pushes : decoder.state = .normal → c = kEscapeChar)
    (full : limits.pushBack decoder.bufferedChars c = none) :
    decoder.processChar limits c = none := by
  rw [processChar]
  split
  · rename_i isNormal
    rw [if_pos (pushes isNormal), full]
    rfl
  · rw [full]
    rfl
  · rw [full]
    rfl

end ProcessChar

/-- Feed a text to the decoder, one character after another. -/
def decode (limits : Limits) : AnsiDecoder → List UInt8 →
    Option (AnsiDecoder × List Output)
  | decoder, [] => some (decoder, [])
  | decoder, c :: text => do
      let (decoder, outputs) ← decoder.processChar limits c
      let (decoder, later) ← decoder.decode limits text
      return (decoder, outputs ++ later)

theorem decode_cons {limits : Limits} {decoder next : AnsiDecoder} {c : UInt8}
    {outputs : List Output} (text : List UInt8)
    (processed : decoder.processChar limits c = some (next, outputs)) :
    decoder.decode limits (c :: text) =
      (next.decode limits text).map fun result =>
        (result.1, outputs ++ result.2) := by
  simp only [decode, processed, Option.bind_eq_bind, Option.bind_some]
  cases next.decode limits text <;> rfl

end AnsiDecoder

end PigweedExperimental.Terminal
