import PigweedExperimental.Draw.Line
import Mathlib.Data.List.Chain
import Mathlib.Tactic.Ring

namespace PigweedExperimental.Draw

/-! # The path of a line

Where its `int16_t` variables lose no bits, `DrawLine` goes from one end to the
other, in steps that are as long as a pixel along the longer extent, and stays as
near to the straight line as the pixels allow.
-/

section Range

variable {first last : Int}

theorem length_intRange : (intRange first last).length = (last - first).toNat := by
  rw [intRange, List.length_map, List.length_range]

theorem isChain_intRange :
    (intRange first last).IsChain fun before after => after = before + 1 := by
  rw [intRange, List.isChain_map]
  apply List.isChain_iff_getElem.mpr
  intro index _
  rw [List.getElem_range, List.getElem_range]
  omega

theorem head?_intRange (nonempty : first < last) : (intRange first last).head? = some first := by
  rw [intRange, List.head?_map, List.head?_range, if_neg (by omega)]
  change some (first + 0) = some first
  rw [Int.add_zero]

theorem getLast?_intRange (nonempty : first < last) :
    (intRange first last).getLast? = some (last - 1) := by
  rw [intRange, List.getLast?_map, List.getLast?_range, if_neg (by omega), Option.map_some]
  congr 1
  omega

end Range

namespace Ends

/-- Where a pixel is along the longer extent of a line. -/
def along (ends : Ends) (call : SetPixel) : Int :=
  if ends.steepGradient then call.y else call.x

/-- Where it is along the shorter one. -/
def across (ends : Ends) (call : SetPixel) : Int :=
  if ends.steepGradient then call.x else call.y

/-- How far a place is from a level line along its second axis, as a multiple of
its extent along the first one. -/
def deviation (ends : Ends) (along across : Int) : Int :=
  (across - ends.y1) * (ends.x2 - ends.x1) - (along - ends.x1) * (ends.y2 - ends.y1)

/-- What is saved in `temp` while the axes are exchanged. -/
def swapAxesValues (ends : Ends) : List Int :=
  if ends.steepGradient then [ends.x1, ends.x2] else []

/-- What is saved in `temp` while the ends are exchanged. -/
def swapEndsValues (ends : Ends) : List Int :=
  if ends.x1 > ends.x2 then [ends.x1, ends.y1] else []

end Ends

/-- What an iteration assigns to `error_value`, before the conversion to `int16_t`.
These lists repeat the computations of `lineStep`, `lineLoop` and `drawLine`, which
keep only the converted values, and have to change with them. -/
def lineStepValues (dx dy : Int) (state : LineState) : List Int :=
  let errorValue := int16 (state.errorValue - dy)
  (state.errorValue - dy) :: if errorValue < 0 then [errorValue + dx] else []

def lineLoopValues (dx dy ystep : Int) (count : Nat) (state : LineState) : List Int :=
  match count with
  | 0 => []
  | count + 1 =>
      lineStepValues dx dy state ++ lineLoopValues dx dy ystep count (lineStep dx dy ystep state)

/-- All that `DrawLine` assigns to its `int16_t` variables, before the conversion. -/
def lineValues (x1 y1 x2 y2 : Int) : List Int :=
  let given : Ends := ⟨x1, y1, x2, y2⟩
  let ends := given.swapAxes.swapEnds
  let dx := int16 (ends.x2 - ends.x1)
  let dy := int16 (ends.y2 - ends.y1).natAbs
  let errorValue := int16 (dx.tdiv 2)
  let ystep := if ends.y1 < ends.y2 then 1 else -1
  given.steepGradient.toInt :: given.swapAxesValues ++ given.swapAxes.swapEndsValues ++
    [ends.x2 - ends.x1, (ends.y2 - ends.y1).natAbs, dx.tdiv 2, ystep] ++
    lineLoopValues dx dy ystep (ends.x2 + 1 - ends.x1).toNat { y1 := ends.y1, errorValue }

section Columns

variable {ends : Ends} {penColor : UInt16} {offset : Int}

theorem Ends.rise_zero (normal : ends.Normal) : ends.rise 0 = 0 := by
  have forward := normal.forward
  rw [rise, Int.zero_mul, Int.zero_add]
  by_cases point : ends.x2 - ends.x1 = 0
  · rw [point, Int.ediv_zero]
  · exact Int.ediv_eq_zero_of_lt (by omega) (by omega)

theorem Ends.rise_end (normal : ends.Normal) :
    ends.rise (ends.x2 - ends.x1) = (ends.y2 - ends.y1).natAbs := by
  have forward := normal.forward
  have level := normal.level
  rw [rise]
  by_cases point : ends.x2 - ends.x1 = 0
  · rw [point, Int.ediv_zero]
    omega
  · rw [Int.add_comm, Int.add_mul_ediv_left _ _ point,
      Int.ediv_eq_zero_of_lt (by omega) (by omega), Int.zero_add]

/-- From one column to the next, the line rises by at most one pixel. -/
theorem Ends.rise_next (normal : ends.Normal) (offset : Int) :
    ends.rise offset ≤ ends.rise (offset + 1) ∧ ends.rise (offset + 1) ≤ ends.rise offset + 1 := by
  have forward := normal.forward
  have level := normal.level
  rw [rise, rise, Int.add_mul, Int.one_mul]
  by_cases point : ends.x2 - ends.x1 = 0
  · rw [point, Int.ediv_zero, Int.ediv_zero]
    omega
  · have positive : 0 < ends.x2 - ends.x1 := by omega
    constructor
    · exact Int.ediv_le_ediv positive (by omega)
    · rw [← Int.add_mul_ediv_left _ 1 point, Int.mul_one]
      exact Int.ediv_le_ediv positive (by omega)

/-- A rise is rounded to the nearest pixel. -/
theorem Ends.rise_near (nonneg : 0 ≤ offset) (inside : offset ≤ ends.x2 - ends.x1) :
    2 * (ends.rise offset * (ends.x2 - ends.x1) -
        offset * (ends.y2 - ends.y1).natAbs).natAbs ≤ ends.x2 - ends.x1 := by
  rw [rise]
  by_cases point : ends.x2 - ends.x1 = 0
  · have start : offset = 0 := by omega
    rw [point, start, Int.mul_zero, Int.zero_mul]
    decide
  · generalize ends.x2 - ends.x1 = dx at *
    generalize offset * (ends.y2 - ends.y1).natAbs = straight
    have parts := Int.emod_add_mul_ediv (straight + (dx - 1) / 2) dx
    have mod_nonneg := Int.emod_nonneg (straight + (dx - 1) / 2) point
    have mod_lt := Int.emod_lt_of_pos (straight + (dx - 1) / 2) (by omega : 0 < dx)
    rw [Int.mul_comm dx] at parts
    generalize (straight + (dx - 1) / 2) / dx * dx = rounded at *
    omega

@[simp] theorem along_linePixel {given : Ends} :
    given.along (linePixel given.steepGradient ends penColor offset) = ends.x1 + offset := by
  rw [Ends.along, linePixel]
  cases given.steepGradient <;> rfl

@[simp] theorem across_linePixel {given : Ends} :
    given.across (linePixel given.steepGradient ends penColor offset) =
      ends.y1 + ends.ystep * ends.rise offset := by
  rw [Ends.across, linePixel]
  cases given.steepGradient <;> rfl

theorem Ends.ystep_mul_natAbs (ends : Ends) :
    ends.ystep * (ends.y2 - ends.y1).natAbs = ends.y2 - ends.y1 := by
  rw [ystep]
  split <;> omega

/-- The pixel of a place on the level line. -/
def placePixel (steepGradient : Bool) (penColor : UInt16) (along across : Int) : SetPixel :=
  if steepGradient then ⟨across, along, penColor⟩ else ⟨along, across, penColor⟩

theorem linePixel_first (normal : ends.Normal) {steepGradient : Bool} :
    linePixel steepGradient ends penColor 0 =
      placePixel steepGradient penColor ends.x1 ends.y1 := by
  rw [linePixel, placePixel, lineStateAt, ends.rise_zero normal, Int.mul_zero, Int.add_zero,
    Int.add_zero]

theorem linePixel_last (normal : ends.Normal) {steepGradient : Bool} :
    linePixel steepGradient ends penColor (ends.x2 - ends.x1) =
      placePixel steepGradient penColor ends.x2 ends.y2 := by
  rw [linePixel, placePixel, lineStateAt, ends.rise_end normal, ends.ystep_mul_natAbs,
    add_sub_cancel, add_sub_cancel]

theorem Ends.deviation_column (ends : Ends) (offset : Int) :
    (ends.deviation (ends.x1 + offset) (ends.y1 + ends.ystep * ends.rise offset)).natAbs =
      (ends.rise offset * (ends.x2 - ends.x1) - offset * (ends.y2 - ends.y1).natAbs).natAbs := by
  have unit : ends.ystep.natAbs = 1 := by
    rw [ystep]
    split <;> rfl
  have slope := ends.ystep_mul_natAbs
  rw [deviation, add_sub_cancel_left, add_sub_cancel_left]
  generalize (ends.y2 - ends.y1).natAbs = dy at *
  rw [← slope]
  have factored : ends.ystep * ends.rise offset * (ends.x2 - ends.x1) -
      offset * (ends.ystep * dy) =
        ends.ystep * (ends.rise offset * (ends.x2 - ends.x1) - offset * dy) := by
    ring
  rw [factored, Int.natAbs_mul, unit, Nat.one_mul]

/-- The error stays below the extent of the line. -/
theorem lineStateAt_range (extended : ends.x1 < ends.x2) (offset : Int) :
    0 ≤ (lineStateAt ends offset).errorValue ∧
      (lineStateAt ends offset).errorValue < ends.x2 - ends.x1 := by
  have positive : 0 < ends.x2 - ends.x1 := by omega
  have mod_nonneg := Int.emod_nonneg
    (offset * (ends.y2 - ends.y1).natAbs + (ends.x2 - ends.x1 - 1) / 2) (Int.ne_of_gt positive)
  have mod_lt := Int.emod_lt_of_pos
    (offset * (ends.y2 - ends.y1).natAbs + (ends.x2 - ends.x1 - 1) / 2) positive
  dsimp only [lineStateAt]
  omega

theorem fitsInt16_lineStepValues {dx dy value : Int} {state : LineState}
    (level : 0 ≤ dy ∧ dy ≤ dx) (short : dx ≤ 32767)
    (error_range : 0 ≤ state.errorValue ∧ state.errorValue ≤ dx)
    (assigned : value ∈ lineStepValues dx dy state) : FitsInt16 value := by
  have reduced : FitsInt16 (state.errorValue - dy) := ⟨by omega, by omega⟩
  dsimp only [lineStepValues] at assigned
  rw [int16_eq reduced, List.mem_cons, List.mem_ite_nil_right] at assigned
  rcases assigned with rfl | ⟨negative, isSum⟩
  · exact reduced
  · rw [List.mem_singleton.mp isSum]
    exact ⟨by omega, by omega⟩

theorem fitsInt16_lineLoopValues (normal : ends.Normal) (extended : ends.x1 < ends.x2)
    {count : Nat} {value : Int}
    (assigned : value ∈ lineLoopValues (ends.x2 - ends.x1) (ends.y2 - ends.y1).natAbs ends.ystep
      count (lineStateAt ends offset)) : FitsInt16 value := by
  have level := normal.level
  induction count generalizing offset with
  | zero => cases assigned
  | succ count induction =>
      rw [lineLoopValues, List.mem_append, lineStep_lineStateAt normal offset extended] at assigned
      rcases assigned with now | later
      · have range := lineStateAt_range extended offset
        exact fitsInt16_lineStepValues ⟨by omega, level⟩ normal.short ⟨range.1, by omega⟩ now
      · exact induction later

/-- The pixels of a line, column by column. -/
def linePixels (given ends : Ends) (penColor : UInt16) : List SetPixel :=
  (intRange 0 (ends.x2 + 1 - ends.x1)).map (linePixel given.steepGradient ends penColor)

variable {given : Ends}

/-- The next pixel is in the next column and at most one row away. -/
theorem isChain_linePixels (normal : ends.Normal) :
    (linePixels given ends penColor).IsChain fun before after =>
      given.along after = given.along before + 1 ∧
        (given.across after - given.across before).natAbs ≤ 1 := by
  apply List.isChain_map_of_isChain _ _ isChain_intRange
  rintro before _ rfl
  have next := Ends.rise_next normal before
  rw [along_linePixel, along_linePixel, across_linePixel, across_linePixel, Ends.ystep]
  refine ⟨by omega, ?_⟩
  split <;> omega

theorem ends_linePixels (normal : ends.Normal) :
    (linePixels given ends penColor).head? =
        some (placePixel given.steepGradient penColor ends.x1 ends.y1) ∧
      (linePixels given ends penColor).getLast? =
        some (placePixel given.steepGradient penColor ends.x2 ends.y2) := by
  have forward := normal.forward
  have nonempty : 0 < ends.x2 + 1 - ends.x1 := by omega
  rw [linePixels, List.head?_map, List.getLast?_map, head?_intRange nonempty,
    getLast?_intRange nonempty, Option.map_some, Option.map_some,
    show ends.x2 + 1 - ends.x1 - 1 = ends.x2 - ends.x1 by omega, linePixel_first normal,
    linePixel_last normal]
  exact ⟨rfl, rfl⟩

theorem near_linePixels {call : SetPixel} (isCall : call ∈ linePixels given ends penColor) :
    2 * (ends.deviation (given.along call) (given.across call)).natAbs ≤ ends.x2 - ends.x1 := by
  rw [linePixels, List.mem_map] at isCall
  rcases isCall with ⟨offset, inRange, rfl⟩
  rw [mem_intRange] at inRange
  rw [along_linePixel, across_linePixel, Ends.deviation_column]
  exact Ends.rise_near inRange.1 (by omega)

end Columns

section Ends

variable {ends : Ends}

theorem steepGradient_reversed (ends : Ends) :
    ends.reversed.steepGradient = ends.steepGradient := by
  dsimp only [Ends.steepGradient, Ends.reversed]
  rw [← Int.natAbs_neg, Int.neg_sub, ← Int.natAbs_neg (ends.x1 - ends.x2), Int.neg_sub]

theorem level_reversed (ends : Ends) : ends.reversed.level = ends.level.reversed := by
  rw [Ends.level, Ends.level, steepGradient_reversed]
  split <;> rfl

theorem placePixel_level (ends : Ends) (penColor : UInt16) :
    placePixel ends.steepGradient penColor ends.level.x1 ends.level.y1 =
        ⟨ends.x1, ends.y1, penColor⟩ ∧
      placePixel ends.steepGradient penColor ends.level.x2 ends.level.y2 =
        ⟨ends.x2, ends.y2, penColor⟩ := by
  rw [Ends.level]
  cases ends.steepGradient <;> exact ⟨rfl, rfl⟩

theorem level_extent (ends : Ends) :
    (ends.level.x2 - ends.level.x1).natAbs =
        max (ends.x2 - ends.x1).natAbs (ends.y2 - ends.y1).natAbs ∧
      (ends.level.y2 - ends.level.y1).natAbs ≤ (ends.level.x2 - ends.level.x1).natAbs := by
  rw [Ends.level, Ends.steepGradient]
  split
  · rename_i steep
    rw [decide_eq_true_eq] at steep
    dsimp only [Ends.transposed]
    omega
  · rename_i notSteep
    rw [decide_eq_true_eq] at notSteep
    omega

theorem forward_extent (ends : Ends) :
    ends.forward.x2 - ends.forward.x1 = (ends.x2 - ends.x1).natAbs := by
  rw [Ends.forward]
  split
  · dsimp only [Ends.reversed]
    omega
  · omega

/-- Which end is given first does not matter. -/
theorem forward_reversed (isLevel : (ends.y2 - ends.y1).natAbs ≤ (ends.x2 - ends.x1).natAbs) :
    ends.reversed.forward = ends.forward := by
  rcases ends with ⟨x1, y1, x2, y2⟩
  dsimp only at isLevel
  change (if x2 > x1 then Ends.mk x1 y1 x2 y2 else ⟨x2, y2, x1, y1⟩) =
    if x1 > x2 then Ends.mk x2 y2 x1 y1 else ⟨x1, y1, x2, y2⟩
  rcases lt_trichotomy x1 x2 with forward | same | backward
  · rw [if_pos forward, if_neg (by omega)]
  · have point : y1 = y2 := by omega
    rw [same, point, if_neg (Int.lt_irrefl x2)]
  · rw [if_neg (by omega), if_pos backward]

theorem deviation_forward (ends : Ends) (along across : Int) :
    (ends.forward.deviation along across).natAbs = (ends.deviation along across).natAbs := by
  rw [Ends.forward]
  split
  · rw [← Int.natAbs_neg]
    congr 1
    dsimp only [Ends.deviation, Ends.reversed]
    ring
  · rfl

/-- Lines with coordinates of 16 bits lose no bits where their extents fit too. -/
theorem lossless_of_fits (fitsX1 : FitsInt16 ends.x1) (fitsY1 : FitsInt16 ends.y1)
    (fitsX2 : FitsInt16 ends.x2) (width : (ends.x2 - ends.x1).natAbs ≤ 32767)
    (height : (ends.y2 - ends.y1).natAbs ≤ 32767) :
    ends.Lossless where
  swappedAxes _ := ⟨fitsX1, fitsX2⟩
  swappedEnds _ := by
    rw [Ends.level]
    split
    · exact ⟨fitsY1, fitsX1⟩
    · exact ⟨fitsX1, fitsY1⟩
  width := width
  height := height

theorem drawLine_linePixels {penColor : UInt16} (lossless : ends.Lossless) :
    drawLine ends.x1 ends.y1 ends.x2 ends.y2 penColor =
      linePixels ends ends.level.forward penColor :=
  drawLine_columns lossless

theorem drawLine_reversed {penColor : UInt16} (lossless : ends.Lossless)
    (losslessBack : ends.reversed.Lossless) :
    drawLine ends.x2 ends.y2 ends.x1 ends.y1 penColor =
      drawLine ends.x1 ends.y1 ends.x2 ends.y2 penColor := by
  have columnsBack := @drawLine_linePixels ends.reversed penColor losslessBack
  rw [level_reversed, forward_reversed (level_extent ends).2, linePixels,
    steepGradient_reversed] at columnsBack
  rw [drawLine_linePixels lossless]
  exact columnsBack

/-- Nothing that is assigned to an `int16_t` of a lossless line loses bits. -/
theorem fitsInt16_lineValues {x1 y1 x2 y2 value : Int}
    (lossless : (Ends.mk x1 y1 x2 y2).Lossless) (assigned : value ∈ lineValues x1 y1 x2 y2) :
    FitsInt16 value := by
  have normal := lossless.normal
  have forward := normal.forward
  have level := normal.level
  have short := normal.short
  unfold lineValues at assigned
  dsimp only at assigned
  rw [lossless.swapEnds_eq, lossless.swapAxes_eq, int16_eq ⟨by omega, by omega⟩,
    int16_eq ⟨by omega, by omega⟩] at assigned
  simp only [List.mem_cons, List.mem_append, List.not_mem_nil, or_false] at assigned
  rcases assigned with (((rfl | axes) | swapped) | rfl | rfl | rfl | rfl) | inLoop
  · cases Ends.steepGradient ⟨x1, y1, x2, y2⟩ <;> decide
  · rw [Ends.swapAxesValues, List.mem_ite_nil_right] at axes
    rcases axes with ⟨steep, isSaved⟩
    have fits := lossless.swappedAxes steep
    rcases List.mem_pair.mp isSaved with rfl | rfl
    · exact fits.1
    · exact fits.2
  · rw [Ends.swapEndsValues, List.mem_ite_nil_right] at swapped
    rcases swapped with ⟨backward, isSaved⟩
    have fits := lossless.swappedEnds backward
    rcases List.mem_pair.mp isSaved with rfl | rfl
    · exact fits.1
    · exact fits.2
  · exact ⟨by omega, by omega⟩
  · exact ⟨by omega, by omega⟩
  · have nonneg := Int.sub_nonneg_of_le forward
    rw [Int.tdiv_eq_ediv_of_nonneg nonneg]
    exact ⟨by omega, by omega⟩
  · split <;> decide
  · generalize (Ends.mk x1 y1 x2 y2).level.forward = ends at *
    change value ∈ lineLoopValues _ _ ends.ystep _ _ at inLoop
    rw [← lineStateAt_zero normal] at inLoop
    by_cases extended : ends.x1 < ends.x2
    · exact fitsInt16_lineLoopValues normal extended inLoop
    · have point : ends.x2 + 1 - ends.x1 = 1 := by omega
      rw [point, lineStateAt_zero normal, show ends.x2 - ends.x1 = 0 by omega] at inLoop
      change value ∈ lineStepValues _ _ _ ++ [] at inLoop
      rw [List.append_nil] at inLoop
      apply fitsInt16_lineStepValues ⟨by omega, by omega⟩ (by decide) _ inLoop
      dsimp only
      decide

end Ends

/-- A line goes from one of its ends to the other, whichever is given first. -/
theorem drawLine_isPath {x1 y1 x2 y2 : Int} {penColor : UInt16} (fitsX1 : FitsInt16 x1)
    (fitsY1 : FitsInt16 y1) (fitsX2 : FitsInt16 x2) (fitsY2 : FitsInt16 y2)
    (width : (x2 - x1).natAbs ≤ 32767) (height : (y2 - y1).natAbs ≤ 32767) :
    let ends : Ends := ⟨x1, y1, x2, y2⟩
    let calls := drawLine x1 y1 x2 y2 penColor
    calls.length = max (x2 - x1).natAbs (y2 - y1).natAbs + 1 ∧
    (calls.IsChain fun before after =>
      ends.along after = ends.along before + 1 ∧
        (ends.across after - ends.across before).natAbs ≤ 1) ∧
    (calls.head? = some ⟨x1, y1, penColor⟩ ∧ calls.getLast? = some ⟨x2, y2, penColor⟩ ∨
      calls.head? = some ⟨x2, y2, penColor⟩ ∧ calls.getLast? = some ⟨x1, y1, penColor⟩) ∧
    (∀ call ∈ calls,
      2 * (ends.level.deviation (ends.along call) (ends.across call)).natAbs ≤
        (ends.level.x2 - ends.level.x1).natAbs) ∧
    (∀ value ∈ lineValues x1 y1 x2 y2, FitsInt16 value) ∧
    drawLine x2 y2 x1 y1 penColor = calls := by
  intro ends calls
  have lossless : ends.Lossless := lossless_of_fits fitsX1 fitsY1 fitsX2 width height
  have losslessBack : ends.reversed.Lossless := lossless_of_fits fitsX2 fitsY2 fitsX1
    (by dsimp only [Ends.reversed, ends]; omega) (by dsimp only [Ends.reversed, ends]; omega)
  have columns : calls = linePixels ends ends.level.forward penColor :=
    drawLine_linePixels lossless
  have extent := (level_extent ends).1
  change _ = max (x2 - x1).natAbs (y2 - y1).natAbs at extent
  have forwardExtent := forward_extent ends.level
  have normal := lossless.normal
  refine ⟨?_, ?_, ?_, ?_, fun value => fitsInt16_lineValues lossless,
    drawLine_reversed lossless losslessBack⟩
  · rw [columns, linePixels, List.length_map, length_intRange]
    omega
  · rw [columns]
    exact isChain_linePixels normal
  · rcases placePixel_level ends penColor with ⟨firstEnd, secondEnd⟩
    rcases @ends_linePixels _ penColor ends normal with ⟨first, last⟩
    rw [columns, first, last, Ends.forward]
    split
    · exact .inr ⟨congrArg some secondEnd, congrArg some firstEnd⟩
    · exact .inl ⟨congrArg some firstEnd, congrArg some secondEnd⟩
  · intro call isCall
    rw [columns] at isCall
    have near := near_linePixels isCall
    rw [deviation_forward] at near
    omega

theorem drawLine_isPath_steep :
    (drawLine 3 9 1 2 0).length = max (1 - 3 : Int).natAbs (2 - 9 : Int).natAbs + 1 :=
  (drawLine_isPath (by decide) (by decide) (by decide) (by decide) (by decide) (by decide)).1

end PigweedExperimental.Draw
