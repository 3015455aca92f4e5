import PigweedExperimental.Display.Resizable
import Mathlib.Data.List.Range

namespace PigweedExperimental.NearestNeighbor

/-! # What the resize writes

Two sizes fix a list of row writes, which enumerates the display pixel by pixel.
The resize hands this list to the driver until the driver refuses one.
-/

section Display

/-- A pixel as it appears on the display. -/
structure DisplayPixel where
  row : Nat
  column : Nat
  value : UInt16
  deriving DecidableEq, Repr

def source (input : Input) (row column : Nat) : UInt16 :=
  input.fbdata (row * (input.framebuffer.rowBytes.toNat / 2) + column)

/-- What the display shows at a place: the nearest pixel of the framebuffer
towards its first row and column. -/
def shown (input : Input) (row column : Nat) : UInt16 :=
  source input
    (row * (input.framebuffer.size.height.toNat - 1) / (input.size.height.toNat - 1))
    (column * (input.framebuffer.size.width.toNat - 1) / (input.size.width.toNat - 1))

def displayPixel (input : Input) (row column : Nat) : DisplayPixel :=
  { row, column, value := shown input row column }

/-- Some neighbouring pixels of a display row. -/
def rowPart (input : Input) (row start count : Nat) : List DisplayPixel :=
  (List.range' start count).map (displayPixel input row)

/-- The display in row-major order, down to a row. -/
def displayPixels (input : Input) (rows : Nat) : List DisplayPixel :=
  (List.range rows).flatMap fun row => rowPart input row 0 input.size.width.toNat

theorem rowPart_append (input : Input) (row start count more : Nat) :
    rowPart input row start (count + more) =
      rowPart input row start count ++ rowPart input row (start + count) more := by
  dsimp only [rowPart]
  rw [← List.map_append, List.range'_append_1]

theorem displayPixels_succ (input : Input) (rows : Nat) :
    displayPixels input (rows + 1) =
      displayPixels input rows ++ rowPart input rows 0 input.size.width.toNat := by
  dsimp only [displayPixels]
  rw [List.range_succ, List.flatMap_append, List.flatMap_singleton]

def inRow (row : Nat) (pixel : DisplayPixel) : Bool := pixel.row = row

theorem countP_displayPixels {input : Input} {rows row : Nat} (later : rows ≤ row) :
    (displayPixels input rows).countP (inRow row) = 0 := by
  rw [List.countP_eq_zero]
  intro pixel displayed
  rw [displayPixels, List.mem_flatMap] at displayed
  rcases displayed with ⟨earlier, inRange, displayed⟩
  rw [rowPart, List.mem_map] at displayed
  rcases displayed with ⟨column, _, rfl⟩
  rw [List.mem_range] at inRange
  rw [inRow, decide_eq_true_eq]
  exact Nat.ne_of_lt (Nat.lt_of_lt_of_le inRange later)

/-- The pixels before one pixel of a row fill the columns up to it. -/
theorem rowPart_split {input : Input} {row start count : Nat} {pixel : DisplayPixel}
    {before after : List DisplayPixel}
    (split : rowPart input row start count = before ++ pixel :: after) :
    before.countP (inRow row) = before.length ∧ pixel.row = row ∧
      pixel.column = start + before.length := by
  induction before generalizing start count with
  | nil =>
      cases count with
      | zero => cases split
      | succ count =>
          rw [rowPart, List.range'_succ, List.map_cons] at split
          cases split
          exact ⟨rfl, rfl, rfl⟩
  | cons first before induction =>
      cases count with
      | zero => cases split
      | succ count =>
          rw [rowPart, List.range'_succ, List.map_cons] at split
          rcases List.cons.inj split with ⟨isFirst, rest⟩
          rcases induction rest with ⟨counted, sameRow, column⟩
          refine ⟨?_, sameRow, ?_⟩
          · rw [List.countP_cons, counted, ← isFirst]
            exact congrArg (before.length + ·) (if_pos (decide_eq_true rfl))
          · rw [column, List.length_cons]
            omega

/-- In row-major order, the column of a pixel counts the earlier pixels of its
row. -/
theorem displayPixels_split {input : Input} {rows : Nat} {pixel : DisplayPixel}
    {before after : List DisplayPixel}
    (split : displayPixels input rows = before ++ pixel :: after) :
    pixel.column = before.countP (inRow pixel.row) := by
  induction rows generalizing after with
  | zero => cases before <;> cases split
  | succ rows induction =>
      rw [displayPixels_succ, List.append_eq_append_iff] at split
      rcases split with ⟨part, isBefore, isRow⟩ | ⟨part, isRows, isAfter⟩
      · rcases rowPart_split isRow with ⟨counted, sameRow, column⟩
        rw [isBefore, List.countP_append, sameRow, countP_displayPixels (Nat.le_refl rows),
          counted, column]
      · cases part with
        | nil =>
            rw [List.append_nil] at isRows
            rw [List.nil_append] at isAfter
            have isRow : rowPart input rows 0 input.size.width.toNat =
                [] ++ pixel :: after := isAfter.symm
            rcases rowPart_split isRow with ⟨_, sameRow, column⟩
            rw [← isRows, sameRow, countP_displayPixels (Nat.le_refl rows), column]
            rfl
        | cons first part =>
            rw [List.cons_append] at isAfter
            cases isAfter
            exact induction isRows

end Display

section Writes

/-- The display pixels that a row write covers. -/
def covered (write : RowWrite) : List DisplayPixel :=
  write.rowPixels.mapIdx fun offset value => {
    row := write.rowIdx.toNat
    column := write.colIdx.toNat + offset
    value }

/-- Row writes that make up the whole display, each of them no longer than the
resize buffer and at the column where the earlier ones have left its row. -/
structure RowMajor (input : Input) (writes : List RowWrite) : Prop where
  pixels : writes.flatMap covered = displayPixels input input.size.height.toNat
  sizes : ∀ write ∈ writes, 1 ≤ write.rowPixels.length ∧
    write.rowPixels.length ≤ kResizeBufferNumPixels
  columns : ∀ before write after, writes = before ++ write :: after →
    write.colIdx.toNat = (before.flatMap covered).countP (inRow write.rowIdx.toNat)

/-- The columns follow from the pixels, since no write is empty. -/
theorem RowMajor.of_pixels {input : Input} {writes : List RowWrite}
    (pixels : writes.flatMap covered = displayPixels input input.size.height.toNat)
    (sizes : ∀ write ∈ writes, 1 ≤ write.rowPixels.length ∧
      write.rowPixels.length ≤ kResizeBufferNumPixels) : RowMajor input writes where
  pixels := pixels
  sizes := sizes
  columns := by
    intro before write after parts
    have some := (sizes write (by simp [parts])).1
    cases values : write.rowPixels with
    | nil =>
        rw [values] at some
        cases some
    | cons value values' =>
        have first : covered write = {
            row := write.rowIdx.toNat
            column := write.colIdx.toNat
            value } :: (covered write).tail := by
          rw [covered, values, List.mapIdx_cons]
          rfl
        rw [parts, List.flatMap_append, List.flatMap_cons, first, List.cons_append] at pixels
        exact displayPixels_split pixels.symm

/-- The driver's answer to a row write. -/
def answer (input : Input) (write : RowWrite) : Status :=
  input.writeRow write.rowIdx write.colIdx

/-- Row writes handed to the driver one after the other. -/
def deliver (input : Input) (pieces writes : List RowWrite) : Except Exit (List RowWrite) :=
  match pieces with
  | [] => .ok writes
  | write :: rest =>
      if isOk : answer input write = .ok then
        deliver input rest (writes ++ [write])
      else
        .error (.returned ⟨answer input write, isOk⟩ (writes ++ [write]))

theorem deliver_append (input : Input) (first second writes : List RowWrite) :
    deliver input (first ++ second) writes =
      (deliver input first writes).bind (deliver input second) := by
  induction first generalizing writes with
  | nil => rfl
  | cons write first induction =>
      rw [List.cons_append]
      dsimp only [deliver]
      split
      · exact induction _
      · rfl

/-- Delivery ends with the list, or with the first write that is refused. -/
theorem deliver_cases (input : Input) (pieces writes : List RowWrite) :
    (deliver input pieces writes = .ok (writes ++ pieces) ∧
      ∀ write ∈ pieces, answer input write = .ok) ∨
    ∃ before failed after isFailure, pieces = before ++ failed :: after ∧
      (∀ write ∈ before, answer input write = .ok) ∧
      deliver input pieces writes =
        .error (.returned ⟨answer input failed, isFailure⟩ (writes ++ (before ++ [failed]))) := by
  induction pieces generalizing writes with
  | nil =>
      left
      rw [List.append_nil]
      exact ⟨rfl, nofun⟩
  | cons write pieces induction =>
      rw [deliver]
      split
      · rename_i accepted
        rcases induction (writes ++ [write]) with
          ⟨all, allAccepted⟩ | ⟨before, failed, after, isFailure, parts, someAccepted, stopped⟩
        · left
          rw [all, List.append_assoc]
          exact ⟨rfl, List.forall_mem_cons.mpr ⟨accepted, allAccepted⟩⟩
        · right
          refine ⟨write :: before, failed, after, isFailure, ?_, ?_, ?_⟩
          · rw [parts, List.cons_append]
          · exact List.forall_mem_cons.mpr ⟨accepted, someAccepted⟩
          · rw [stopped, List.append_assoc]
            rfl
      · rename_i refused
        right
        exact ⟨[], write, pieces, refused, rfl, nofun, rfl⟩

end Writes

section Rows

variable {input : Input} {row : Nat}

def values (input : Input) (row start count : Nat) : List UInt16 :=
  (List.range' start count).map (shown input row)

def piece (input : Input) (row start count : Nat) : RowWrite where
  rowPixels := values input row start count
  rowIdx := .ofNat row
  colIdx := .ofNat start

/-- The row writes that leave nothing in the buffer for the next one. -/
def fullPieces (input : Input) (row count : Nat) : List RowWrite :=
  (List.range count).map fun index =>
    piece input row (kResizeBufferNumPixels * index) kResizeBufferNumPixels

/-- The pieces of a row: the full ones, and what is left over. -/
def rowWrites (input : Input) (row : Nat) : List RowWrite :=
  let width := input.size.width.toNat
  let fullCount := width / kResizeBufferNumPixels
  let rest := piece input row (kResizeBufferNumPixels * fullCount)
    (width % kResizeBufferNumPixels)
  fullPieces input row fullCount ++
    if width % kResizeBufferNumPixels = 0 then [] else [rest]

def allWrites (input : Input) (rows : Nat) : List RowWrite :=
  (List.range rows).flatMap (rowWrites input)

/-- What the arithmetic of the resize needs. -/
structure Computable (input : Input) : Prop where
  someWidth : 1 ≤ input.framebuffer.size.width.toNat
  someHeight : 1 ≤ input.framebuffer.size.height.toNat
  severalColumns : 2 ≤ input.size.width.toNat
  severalRows : 2 ≤ input.size.height.toNat
  rowsFit : (input.size.height.toNat * input.framebuffer.size.height.toNat : Int) ≤ intMax
  columnsFit : (input.size.width.toNat * input.framebuffer.size.width.toNat : Int) ≤ intMax

theorem sourceIdx_eq {dstIdx : Nat} {srcCount dstCount : UInt16}
    (nonempty : 1 ≤ srcCount.toNat) (several : 2 ≤ dstCount.toNat)
    (inRange : dstIdx < dstCount.toNat)
    (fits : (dstCount.toNat * srcCount.toNat : Int) ≤ intMax) :
    sourceIdx dstIdx srcCount dstCount =
      .ok (dstIdx * (srcCount.toNat - 1) / (dstCount.toNat - 1) : Nat) := by
  have someSource : srcCount ≠ 0 := by
    intro zero
    rw [zero] at nonempty
    cases nonempty
  rw [sourceIdx_eq_ok someSource inRange]
  have product : (dstIdx * ((srcCount.toNat : Int) - 1)) =
      (dstIdx * (srcCount.toNat - 1) : Nat) := by
    rw [Nat.cast_mul, Nat.cast_sub nonempty, Nat.cast_one]
  have divisor : (dstCount.toNat : Int) - 1 = (dstCount.toNat - 1 : Nat) := by omega
  refine ⟨⟨?_, ?_⟩, ?_⟩
  · intro one
    rw [one] at several
    exact absurd several (by decide)
  · calc (dstIdx : Int) * ((srcCount.toNat : Int) - 1)
      _ ≤ dstCount.toNat * srcCount.toNat :=
          mul_le_mul (by omega) (by omega) (by omega) (by omega)
      _ ≤ intMax := fits
  · rw [product, divisor, Int.tdiv_eq_ediv_of_nonneg (Int.natCast_nonneg _)]
    rfl

theorem sampled_eq (computable : Computable input) (column : Nat) :
    sampled input
        (row * (input.framebuffer.size.height.toNat - 1) / (input.size.height.toNat - 1) : Nat)
        column = shown input row column := by
  have someWidth := computable.someWidth
  have severalColumns := computable.severalColumns
  have product : (column * ((input.framebuffer.size.width.toNat : Int) - 1)) =
      (column * (input.framebuffer.size.width.toNat - 1) : Nat) := by
    rw [Nat.cast_mul, Nat.cast_sub someWidth, Nat.cast_one]
  have divisor : (input.size.width.toNat : Int) - 1 = (input.size.width.toNat - 1 : Nat) := by
    omega
  unfold sampled shown source
  dsimp only
  rw [product, divisor, Int.tdiv_eq_ediv_of_nonneg (Int.natCast_nonneg _)]
  congr 1

/-- A column only adds its pixel to the buffer. -/
theorem columnBody_eq (computable : Computable input) {column : Nat} {progress : Progress}
    (inRows : row < input.size.height.toNat) (inColumns : column < input.size.width.toNat) :
    columnBody input row
        (row * (input.framebuffer.size.height.toNat - 1) / (input.size.height.toNat - 1) : Nat)
        column progress =
      flushIfFull input row { progress with
        resizeBuffer := progress.resizeBuffer ++ [shown input row column] } := by
  have sourceRow := sourceIdx_eq computable.someHeight computable.severalRows inRows
    computable.rowsFit
  have sourceColumn := sourceIdx_eq computable.someWidth computable.severalColumns inColumns
    computable.columnsFit
  have someWidth : input.framebuffer.size.width ≠ 0 := by
    intro zero
    have some := computable.someWidth
    rw [zero] at some
    cases some
  have someHeight : input.framebuffer.size.height ≠ 0 := by
    intro zero
    have some := computable.someHeight
    rw [zero] at some
    cases some
  rcases (sourceIdx_eq_ok someHeight inRows).mp sourceRow with ⟨scalableRow, isRow⟩
  rcases (sourceIdx_eq_ok someWidth inColumns).mp sourceColumn with ⟨scalableColumn, isColumn⟩
  have rowRange := sourceIdx_range someHeight inRows scalableRow isRow
  have columnRange := sourceIdx_range someWidth inColumns scalableColumn isColumn
  have height := input.framebuffer.size.height.toNat_lt
  have width := input.framebuffer.size.width.toNat_lt
  have bytes := input.framebuffer.rowBytes.toNat_lt
  have limit : -intMax - 1 ≤ 0 := by decide
  have fits := @pixelIdx_fits _ (input.framebuffer.rowBytes.toNat / 2 : Nat) _
    ⟨rowRange.1, by omega⟩ (by omega) ⟨columnRange.1, by omega⟩
  have rowStart := int_eq_ok.mpr ⟨rfl, Int.le_trans limit fits.1.1, fits.1.2⟩
  have pixelIdx := int_eq_ok.mpr ⟨rfl, Int.le_trans limit fits.2.1, fits.2.2⟩
  rw [← sampled_eq computable column]
  rw [columnBody, sampled]
  simp only [bind, Except.bind]
  rw [sourceColumn]
  dsimp only
  rw [rowStart]
  dsimp only
  rw [pixelIdx, isColumn]

/-- The variables of a row after some columns. -/
def progressAt (input : Input) (row count : Nat) (delivered : List RowWrite) : Progress where
  resizeBuffer := values input row (kResizeBufferNumPixels * (count / kResizeBufferNumPixels))
    (count % kResizeBufferNumPixels)
  dstColWriteIdx := kResizeBufferNumPixels * (count / kResizeBufferNumPixels)
  writes := delivered

/-- The piece that a column completes, if any. -/
def completed (input : Input) (row count : Nat) : List RowWrite :=
  if (count + 1) % kResizeBufferNumPixels = 0 then
    [piece input row (kResizeBufferNumPixels * (count / kResizeBufferNumPixels))
      kResizeBufferNumPixels]
  else
    []

theorem fullPieces_succ (input : Input) (row count : Nat) :
    fullPieces input row ((count + 1) / kResizeBufferNumPixels) =
      fullPieces input row (count / kResizeBufferNumPixels) ++ completed input row count := by
  rw [completed]
  split
  · rename_i full
    have next : (count + 1) / kResizeBufferNumPixels = count / kResizeBufferNumPixels + 1 := by
      dsimp only [kResizeBufferNumPixels] at *
      omega
    rw [next, fullPieces, List.range_succ, List.map_append]
    rfl
  · rename_i notFull
    have same : (count + 1) / kResizeBufferNumPixels = count / kResizeBufferNumPixels := by
      dsimp only [kResizeBufferNumPixels] at *
      omega
    rw [same, List.append_nil]

theorem flushIfFull_eq (input : Input) (row count : Nat) (delivered : List RowWrite) :
    flushIfFull input row { progressAt input row count delivered with
        resizeBuffer := (progressAt input row count delivered).resizeBuffer ++
          [shown input row count] } =
      (deliver input (completed input row count) delivered).map
        (progressAt input row (count + 1)) := by
  have extended : (progressAt input row count delivered).resizeBuffer ++
      [shown input row count] =
        values input row (kResizeBufferNumPixels * (count / kResizeBufferNumPixels))
          (count % kResizeBufferNumPixels + 1) := by
    dsimp only [progressAt, values]
    rw [List.range'_1_concat, List.map_append, Nat.div_add_mod]
    rfl
  have length (start count : Nat) : (values input row start count).length = count := by
    rw [values, List.length_map, List.length_range']
  rw [extended]
  rw [flushIfFull, completed]
  rw [length]
  by_cases full : (count + 1) % kResizeBufferNumPixels = 0
  · have ends : count % kResizeBufferNumPixels + 1 = kResizeBufferNumPixels := by
      dsimp only [kResizeBufferNumPixels] at *
      omega
    have next : (count + 1) / kResizeBufferNumPixels = count / kResizeBufferNumPixels + 1 := by
      dsimp only [kResizeBufferNumPixels] at *
      omega
    rw [if_pos full, if_pos ends, ends]
    unfold flush deliver answer piece
    dsimp only [progressAt]
    split
    · change Except.ok _ = Except.ok (progressAt input row (count + 1) _)
      rw [progressAt]
      rw [next, full]
      rfl
    · rfl
  · have notEnds : ¬count % kResizeBufferNumPixels + 1 = kResizeBufferNumPixels := by
      dsimp only [kResizeBufferNumPixels] at *
      omega
    have same : (count + 1) / kResizeBufferNumPixels = count / kResizeBufferNumPixels := by
      dsimp only [kResizeBufferNumPixels] at *
      omega
    have next : (count + 1) % kResizeBufferNumPixels = count % kResizeBufferNumPixels + 1 := by
      dsimp only [kResizeBufferNumPixels] at *
      omega
    rw [if_neg full, if_neg notEnds]
    unfold deliver progressAt
    rw [same, next]
    rfl

/-- The first columns of a row, with the full pieces they deliver and the rest
that stays in the buffer. -/
theorem columns_eq (computable : Computable input) (writes : List RowWrite)
    (inRows : row < input.size.height.toNat) {count : Nat}
    (inColumns : count ≤ input.size.width.toNat) :
    forUp count (columnBody input row
        (row * (input.framebuffer.size.height.toNat - 1) / (input.size.height.toNat - 1) : Nat))
        { resizeBuffer := [], dstColWriteIdx := 0, writes } =
      (deliver input (fullPieces input row (count / kResizeBufferNumPixels)) writes).map
        (progressAt input row count) := by
  induction count with
  | zero => rfl
  | succ count induction =>
      rw [forUp, induction (Nat.le_of_succ_le inColumns), fullPieces_succ, deliver_append]
      cases deliver input (fullPieces input row (count / kResizeBufferNumPixels)) writes with
      | error exit => rfl
      | ok delivered =>
          change columnBody input row _ count (progressAt input row count delivered) =
            (deliver input (completed input row count) delivered).map _
          rw [columnBody_eq computable inRows inColumns, flushIfFull_eq]

theorem rowBody_eq (computable : Computable input) (writes : List RowWrite)
    (inRows : row < input.size.height.toNat) :
    rowBody input row writes = deliver input (rowWrites input row) writes := by
  rw [rowBody]
  simp only [bind, Except.bind]
  rw [sourceIdx_eq computable.someHeight computable.severalRows inRows computable.rowsFit]
  dsimp only
  rw [columns_eq computable writes inRows (Nat.le_refl _)]
  rw [rowWrites, deliver_append]
  cases deliver input _ writes with
  | error exit => rfl
  | ok delivered =>
      change flushRest input row _ = deliver input _ delivered
      rw [flushRest, progressAt]
      by_cases none : input.size.width.toNat % kResizeBufferNumPixels = 0
      · rw [if_pos none, none]
        rfl
      · rw [if_neg none, if_pos]
        · rfl
        · intro empty
          apply none
          have lengths := congrArg List.length empty
          rw [values, List.length_map, List.length_range'] at lengths
          exact lengths

/-- The pixels of a write land where the piece lies. -/
theorem covered_piece {start count : Nat} (inRows : row < input.size.height.toNat)
    (inColumns : start < input.size.width.toNat) :
    covered (piece input row start count) = rowPart input row start count := by
  have row_lt := input.size.height.toNat_lt
  have start_lt := input.size.width.toNat_lt
  have rowIdx_eq : (UInt16.ofNat row).toNat = row :=
    UInt16.toNat_ofNat_of_lt (Nat.lt_trans inRows row_lt)
  have colIdx_eq : (UInt16.ofNat start).toNat = start :=
    UInt16.toNat_ofNat_of_lt (Nat.lt_trans inColumns start_lt)
  rw [covered, piece, values, rowPart]
  dsimp only
  rw [rowIdx_eq, colIdx_eq]
  apply List.ext_getElem
  · simp
  · intro index _ _
    simp [displayPixel]

theorem covered_fullPieces {count : Nat} (inRows : row < input.size.height.toNat)
    (inColumns : kResizeBufferNumPixels * count ≤ input.size.width.toNat) :
    (fullPieces input row count).flatMap covered =
      rowPart input row 0 (kResizeBufferNumPixels * count) := by
  induction count with
  | zero => rfl
  | succ count induction =>
      have inside : kResizeBufferNumPixels * count < input.size.width.toNat := by
        dsimp only [kResizeBufferNumPixels] at *
        omega
      rw [fullPieces] at *
      rw [List.range_succ, List.map_append, List.flatMap_append, induction (Nat.le_of_lt inside),
        List.map_singleton, List.flatMap_singleton, covered_piece inRows inside, Nat.mul_succ,
        rowPart_append, Nat.zero_add]

theorem covered_rowWrites (inRows : row < input.size.height.toNat) :
    (rowWrites input row).flatMap covered =
      rowPart input row 0 input.size.width.toNat := by
  have parts := Nat.div_add_mod input.size.width.toNat kResizeBufferNumPixels
  rw [rowWrites, List.flatMap_append, covered_fullPieces inRows (by omega)]
  split
  · rename_i none
    rw [none, Nat.add_zero] at parts
    rw [List.flatMap_nil, List.append_nil, parts]
  · rename_i some
    rw [List.flatMap_singleton, covered_piece inRows (by omega)]
    conv => right; rw [← parts, rowPart_append, Nat.zero_add]

theorem rowWrites_sizes {write : RowWrite} (made : write ∈ rowWrites input row) :
    1 ≤ write.rowPixels.length ∧ write.rowPixels.length ≤ kResizeBufferNumPixels := by
  have count (start count : Nat) : (piece input row start count).rowPixels.length = count := by
    rw [piece, values, List.length_map, List.length_range']
  rw [rowWrites, List.mem_append] at made
  rcases made with isFull | isRest
  · rw [fullPieces, List.mem_map] at isFull
    rcases isFull with ⟨index, _, rfl⟩
    rw [count]
    decide
  · split at isRest
    · cases isRest
    · rename_i some
      rw [List.mem_singleton] at isRest
      rw [isRest, count]
      exact ⟨Nat.pos_of_ne_zero some, Nat.le_of_lt (Nat.mod_lt _ (Nat.succ_pos 79))⟩

theorem allWrites_rowMajor (input : Input) :
    RowMajor input (allWrites input input.size.height.toNat) := by
  apply RowMajor.of_pixels
  · rw [allWrites, displayPixels]
    rw [List.flatMap_assoc]
    apply List.flatMap_congr
    intro row inRange
    exact covered_rowWrites (List.mem_range.mp inRange)
  · intro write made
    rw [allWrites, List.mem_flatMap] at made
    rcases made with ⟨row, _, made⟩
    exact rowWrites_sizes made

theorem rows_eq (computable : Computable input) {count : Nat}
    (inRows : count ≤ input.size.height.toNat) :
    forUp count (rowBody input) [] = deliver input (allWrites input count) [] := by
  induction count with
  | zero => rfl
  | succ count induction =>
      rw [forUp, induction (Nat.le_of_succ_le inRows), allWrites, allWrites,
        List.range_succ, List.flatMap_append, deliver_append, List.flatMap_singleton]
      congr 1
      funext writes
      exact rowBody_eq computable writes inRows

/-- Apart from what the driver answers, the sizes decide the row writes. -/
theorem run_eq (computable : Computable input) (valid : input.framebuffer.isValid) :
    run input = deliver input (allWrites input input.size.height.toNat) [] := by
  have nonempty : ¬(input.framebuffer.size.width = 0 ∨ input.framebuffer.size.height = 0) := by
    intro empty
    have someWidth := computable.someWidth
    have someHeight := computable.someHeight
    rcases empty with zero | zero
    · rw [zero] at someWidth
      cases someWidth
    · rw [zero] at someHeight
      cases someHeight
  rw [run]
  rw [pwAssert_eq_ok.mpr valid, if_neg nonempty]
  exact rows_eq computable (Nat.le_refl _)

/-- The corners of the display are the corners of the framebuffer. -/
structure Corners (input : Input) : Prop where
  topLeft : shown input 0 0 = source input 0 0
  topRight : shown input 0 (input.size.width.toNat - 1) =
    source input 0 (input.framebuffer.size.width.toNat - 1)
  bottomLeft : shown input (input.size.height.toNat - 1) 0 =
    source input (input.framebuffer.size.height.toNat - 1) 0
  bottomRight : shown input (input.size.height.toNat - 1) (input.size.width.toNat - 1) =
    source input (input.framebuffer.size.height.toNat - 1)
      (input.framebuffer.size.width.toNat - 1)

theorem Computable.corners (computable : Computable input) : Corners input := by
  have columns : 0 < input.size.width.toNat - 1 := Nat.sub_pos_of_lt computable.severalColumns
  have rows : 0 < input.size.height.toNat - 1 := Nat.sub_pos_of_lt computable.severalRows
  constructor <;> rw [shown]
  · rw [Nat.zero_mul, Nat.zero_mul, Nat.zero_div, Nat.zero_div]
  · rw [Nat.zero_mul, Nat.zero_div, Nat.mul_div_cancel_left _ columns]
  · rw [Nat.zero_mul, Nat.zero_div, Nat.mul_div_cancel_left _ rows]
  · rw [Nat.mul_div_cancel_left _ rows, Nat.mul_div_cancel_left _ columns]

/-- The row writes run through the whole display in row-major order, or up to
the first that fails. -/
theorem updateNearestNeighbor_rowMajor (valid : input.framebuffer.isValid)
    (computable : Computable input) :
    (∃ status writes, updateNearestNeighbor input = .ok (status, writes) ∧
      ((status = .ok ∧ RowMajor input writes ∧ ∀ write ∈ writes, answer input write = .ok) ∨
        ∃ before failed after, writes = before ++ [failed] ∧
          RowMajor input (before ++ failed :: after) ∧
          (∀ write ∈ before, answer input write = .ok) ∧
          answer input failed = status ∧ status ≠ .ok)) ∧
      Corners input := by
  refine ⟨?_, computable.corners⟩
  have rowMajor := allWrites_rowMajor input
  rw [updateNearestNeighbor]
  rw [run_eq computable valid]
  rcases deliver_cases input (allWrites input input.size.height.toNat) [] with
    ⟨all, accepted⟩ | ⟨before, failed, after, isFailure, parts, accepted, stopped⟩
  · rw [all]
    exact ⟨_, _, rfl, .inl ⟨rfl, rowMajor, accepted⟩⟩
  · rw [stopped]
    rw [parts] at rowMajor
    exact ⟨_, _, rfl, .inr ⟨before, failed, after, rfl, rowMajor, accepted, rfl, isFailure⟩⟩

/-- Two rows of 81 pixels, each of them written in two pieces. -/
theorem updateNearestNeighbor_rowMajor_wide :
    ∃ writes, updateNearestNeighbor {
        size := ⟨81, 2⟩
        framebuffer := ⟨1, .rgb565, ⟨2, 1⟩, 4⟩
        fbdata := fun index => .ofNat index
        writeRow := fun _ _ => .ok } = .ok (.ok, writes) := by
  have computable : Computable {
      size := ⟨81, 2⟩
      framebuffer := ⟨1, .rgb565, ⟨2, 1⟩, 4⟩
      fbdata := fun index => .ofNat index
      writeRow := fun _ _ => .ok } := by
    constructor <;> decide
  rcases updateNearestNeighbor_rowMajor rfl computable with
    ⟨⟨status, writes, result, succeeded | stopped⟩, _⟩
  · rw [succeeded.1] at result
    exact ⟨writes, result⟩
  · rcases stopped with ⟨_, failed, _, _, _, _, refused, isFailure⟩
    exact absurd refused.symm isFailure

end Rows

end PigweedExperimental.NearestNeighbor
