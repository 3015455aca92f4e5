import PigweedExperimental.Foundation.Loop
import PigweedExperimental.Framebuffer.Framebuffer
import PigweedExperimental.Status

namespace PigweedExperimental

/-! # `Display::UpdateNearestNeighbor`

The software resize samples the framebuffer row by row and writes each row to
the driver in pieces. It can stop in three ways besides running to its end: a
failed assertion, arithmetic that has no result, and a row write that fails.
-/

inductive Fault where
  | assertion
  | divisionByZero
  | overflow
  deriving DecidableEq, Repr

/-- A call of the driver's `WriteRow`. -/
structure RowWrite where
  rowPixels : List UInt16
  rowIdx : UInt16
  colIdx : UInt16
  deriving DecidableEq, Repr

namespace NearestNeighbor

/-- How the function is left before its end: never with success. -/
inductive Exit where
  | fault (fault : Fault)
  | returned (failure : { status : Status // status ≠ .ok }) (writes : List RowWrite)
  deriving DecidableEq

def intMax : Int := 2 ^ 31 - 1

/-- A value computed in `int`. -/
def int (value : Int) : Except Exit Int :=
  if -intMax - 1 ≤ value ∧ value ≤ intMax then .ok value else .error (.fault .overflow)

/-- Division of `int`s. -/
def intDiv (dividend divisor : Int) : Except Exit Int :=
  if divisor = 0 then .error (.fault .divisionByZero) else .ok (dividend.tdiv divisor)

/-- `PW_ASSERT` -/
def pwAssert (condition : Prop) [Decidable condition] : Except Exit Unit :=
  if condition then .ok () else .error (.fault .assertion)

def kResizeBufferNumPixels : Nat := 80

/-- What the function reads besides its own variables: sizes, pixels, and the
driver's answers. A call asks for each place at most once. -/
structure Input where
  size : Size UInt16
  framebuffer : Framebuffer
  fbdata : Nat → UInt16
  writeRow : (rowIdx colIdx : UInt16) → Status

/-- The resize buffer up to `next_buff_idx`, `dst_col_write_idx`, and the row
writes so far. -/
structure Progress where
  resizeBuffer : List UInt16
  dstColWriteIdx : Nat
  writes : List RowWrite
  deriving DecidableEq

/-- `PW_TRY(display_driver_.WriteRow(...))` over the pixels in the buffer. -/
def flush (input : Input) (dstRowIdx : Nat) (progress : Progress) :
    Except Exit (List RowWrite) :=
  let write : RowWrite := {
    rowPixels := progress.resizeBuffer
    rowIdx := .ofNat dstRowIdx
    colIdx := .ofNat progress.dstColWriteIdx }
  let writes := progress.writes ++ [write]
  let status := input.writeRow write.rowIdx write.colIdx
  if isOk : status = .ok then .ok writes else .error (.returned ⟨status, isOk⟩ writes)

/-- `if (next_buff_idx == kResizeBufferNumPixels)` -/
def flushIfFull (input : Input) (dstRowIdx : Nat) (progress : Progress) :
    Except Exit Progress :=
  if progress.resizeBuffer.length = kResizeBufferNumPixels then
    (flush input dstRowIdx progress).map fun writes => {
      resizeBuffer := []
      dstColWriteIdx := progress.dstColWriteIdx + kResizeBufferNumPixels
      writes }
  else
    .ok progress

/-- `if (next_buff_idx)` after the last column -/
def flushRest (input : Input) (dstRowIdx : Nat) (progress : Progress) :
    Except Exit (List RowWrite) :=
  if progress.resizeBuffer ≠ [] then
    flush input dstRowIdx progress
  else
    .ok progress.writes

/-- The source row of a display row, and the source column of a display
column: both are computed and checked alike. -/
def sourceIdx (dstIdx : Nat) (srcCount dstCount : UInt16) : Except Exit Int := do
  let lastIdx : Int := srcCount.toNat - 1
  let product ← int (dstIdx * lastIdx)
  let srcIdx ← intDiv product (dstCount.toNat - 1)
  pwAssert (srcIdx ≥ 0)
  pwAssert (srcIdx < srcCount.toNat)
  return srcIdx

def columnBody (input : Input) (dstRowIdx : Nat) (srcRowIdx : Int) (dstColIdx : Nat)
    (progress : Progress) : Except Exit Progress := do
  let numSrcRowPixels := input.framebuffer.rowBytes.toNat / 2
  let srcColIdx ← sourceIdx dstColIdx input.framebuffer.size.width input.size.width
  let rowStart ← int (srcRowIdx * numSrcRowPixels)
  let srcPixelIdx ← int (rowStart + srcColIdx)
  flushIfFull input dstRowIdx { progress with
    resizeBuffer := progress.resizeBuffer ++ [input.fbdata srcPixelIdx.toNat] }

def rowBody (input : Input) (dstRowIdx : Nat) (writes : List RowWrite) :
    Except Exit (List RowWrite) := do
  let srcRowIdx ← sourceIdx dstRowIdx input.framebuffer.size.height input.size.height
  let progress ← forUp input.size.width.toNat (columnBody input dstRowIdx srcRowIdx)
    { resizeBuffer := [], dstColWriteIdx := 0, writes }
  flushRest input dstRowIdx progress

/-- The function over its whole length, with the row writes it made. -/
def run (input : Input) : Except Exit (List RowWrite) := do
  pwAssert input.framebuffer.isValid
  if input.framebuffer.size.width = 0 ∨ input.framebuffer.size.height = 0 then
    throw (.returned ⟨.internal, Status.internal_ne_ok⟩ [])
  forUp input.size.height.toNat (rowBody input) []

/-- The status it returns, unless a fault stops it, and the row writes. -/
def updateNearestNeighbor (input : Input) : Except Fault (Status × List RowWrite) :=
  match run input with
  | .ok writes => .ok (.ok, writes)
  | .error (.returned failure writes) => .ok (failure.val, writes)
  | .error (.fault fault) => .error fault

end NearestNeighbor

end PigweedExperimental
