import PigweedExperimental.Draw.Primitives
import Mathlib.Algebra.Order.Ring.Int

namespace PigweedExperimental.Draw

/-! # The points of a line

`DrawLine` does its arithmetic through `int16_t` variables. Where none of them
loses bits, the points it sets have a description without its loop.
-/

namespace Ends

def transposed (ends : Ends) : Ends := ⟨ends.y1, ends.x1, ends.y2, ends.x2⟩

def reversed (ends : Ends) : Ends := ⟨ends.x2, ends.y2, ends.x1, ends.y1⟩

/-- The line with its longer extent along the first axis. -/
def level (ends : Ends) : Ends := if ends.steepGradient then ends.transposed else ends

/-- The line from its lower end along the first axis. -/
def forward (ends : Ends) : Ends := if ends.x1 > ends.x2 then ends.reversed else ends

/-- What goes through an `int16_t` fits it: the values saved in `temp`, and the
two extents. -/
structure Lossless (ends : Ends) : Prop where
  swappedAxes : ends.steepGradient → FitsInt16 ends.x1 ∧ FitsInt16 ends.x2
  swappedEnds : ends.level.x1 > ends.level.x2 →
    FitsInt16 ends.level.x1 ∧ FitsInt16 ends.level.y1
  width : (ends.x2 - ends.x1).natAbs ≤ 32767
  height : (ends.y2 - ends.y1).natAbs ≤ 32767

/-- How far the line has gone along the second axis. -/
def rise (ends : Ends) (offset : Int) : Int :=
  (offset * (ends.y2 - ends.y1).natAbs + (ends.x2 - ends.x1 - 1) / 2) / (ends.x2 - ends.x1)

def ystep (ends : Ends) : Int := if ends.y1 < ends.y2 then 1 else -1

/-- The points of a line that is level and goes forward. -/
def Passes (ends : Ends) (a b : Int) : Prop :=
  (ends.x1 ≤ a ∧ a ≤ ends.x2) ∧ b = ends.y1 + ends.ystep * ends.rise (a - ends.x1)

variable {ends : Ends}

theorem Lossless.swapAxes_eq (lossless : ends.Lossless) : ends.swapAxes = ends.level := by
  rw [swapAxes, level]
  split
  · rename_i steep
    rw [int16_eq (lossless.swappedAxes steep).1, int16_eq (lossless.swappedAxes steep).2]
    rfl
  · rfl

theorem Lossless.swapEnds_eq (lossless : ends.Lossless) :
    ends.swapAxes.swapEnds = ends.level.forward := by
  rw [lossless.swapAxes_eq]
  rw [swapEnds, forward]
  split
  · rename_i backward
    rw [int16_eq (lossless.swappedEnds backward).1, int16_eq (lossless.swappedEnds backward).2]
    rfl
  · rfl

/-- Swapping puts a line into its normal position. -/
structure Normal (ends : Ends) : Prop where
  forward : ends.x1 ≤ ends.x2
  level : (ends.y2 - ends.y1).natAbs ≤ ends.x2 - ends.x1
  short : ends.x2 - ends.x1 ≤ 32767

theorem Lossless.normal (lossless : ends.Lossless) : ends.level.forward.Normal := by
  have width := lossless.width
  have height := lossless.height
  have level : (ends.level.y2 - ends.level.y1).natAbs ≤
      (ends.level.x2 - ends.level.x1).natAbs ∧
      (ends.level.x2 - ends.level.x1).natAbs ≤ 32767 := by
    rw [Ends.level, steepGradient]
    split
    · rename_i steep
      rw [decide_eq_true_eq] at steep
      exact ⟨Nat.le_of_lt steep, height⟩
    · rename_i notSteep
      rw [decide_eq_true_eq, Nat.not_lt] at notSteep
      exact ⟨notSteep, width⟩
  generalize ends.level = levelled at level
  rw [Ends.forward]
  split
  · constructor <;> dsimp only [reversed] <;> omega
  · constructor <;> omega

end Ends

section Loop

variable {ends : Ends} {penColor : UInt16}

/-- The variables of the loop after some columns. -/
def lineStateAt (ends : Ends) (offset : Int) : LineState where
  y1 := ends.y1 + ends.ystep * ends.rise offset
  errorValue := ends.x2 - ends.x1 - 1 -
    (offset * (ends.y2 - ends.y1).natAbs + (ends.x2 - ends.x1 - 1) / 2) % (ends.x2 - ends.x1)

/-- The pixel that the loop sets in a column. -/
def linePixel (steepGradient : Bool) (ends : Ends) (penColor : UInt16) (offset : Int) :
    SetPixel :=
  if steepGradient then
    ⟨(lineStateAt ends offset).y1, ends.x1 + offset, penColor⟩
  else
    ⟨ends.x1 + offset, (lineStateAt ends offset).y1, penColor⟩

theorem lineStep_lineStateAt (normal : ends.Normal) (offset : Int)
    (extended : ends.x1 < ends.x2) :
    lineStep (ends.x2 - ends.x1) (ends.y2 - ends.y1).natAbs ends.ystep
      (lineStateAt ends offset) = lineStateAt ends (offset + 1) := by
  have level := normal.level
  have short := normal.short
  have positive : 0 < ends.x2 - ends.x1 := Int.sub_pos_of_lt extended
  unfold lineStep lineStateAt Ends.rise
  rw [Int.add_mul, Int.one_mul]
  generalize (ends.y2 - ends.y1).natAbs = dy at *
  generalize ends.x2 - ends.x1 = dx at *
  rw [Int.add_right_comm (offset * dy) dy]
  generalize offset * dy + (dx - 1) / 2 = reached
  have mod_nonneg := Int.emod_nonneg reached (Int.ne_of_gt positive)
  have mod_lt := Int.emod_lt_of_pos reached positive
  have parts := Int.emod_add_mul_ediv reached dx
  dsimp only
  rw [int16_eq ⟨by omega, by omega⟩]
  split
  · rename_i full
    have next : reached + dy = (reached % dx + dy - dx) + dx * (reached / dx + 1) := by
      rw [Int.mul_add, Int.mul_one]
      omega
    have quotient : (reached + dy) / dx = reached / dx + 1 := by
      rw [next, Int.add_mul_ediv_left _ _ (Int.ne_of_gt positive),
        Int.ediv_eq_zero_of_lt (by omega) (by omega), Int.zero_add]
    have remainder : (reached + dy) % dx = reached % dx + dy - dx := by
      rw [next, Int.add_mul_emod_self_left, Int.emod_eq_of_lt (by omega) (by omega)]
    rw [int16_eq ⟨by omega, by omega⟩, quotient, remainder, Int.mul_add, Int.mul_one,
      Int.add_assoc]
    congr 1
    omega
  · rename_i notFull
    have next : reached + dy = (reached % dx + dy) + dx * (reached / dx) := by omega
    have quotient : (reached + dy) / dx = reached / dx := by
      rw [next, Int.add_mul_ediv_left _ _ (Int.ne_of_gt positive),
        Int.ediv_eq_zero_of_lt (by omega) (by omega), Int.zero_add]
    have remainder : (reached + dy) % dx = reached % dx + dy := by
      rw [next, Int.add_mul_emod_self_left, Int.emod_eq_of_lt (by omega) (by omega)]
    rw [quotient, remainder]
    congr 1
    omega

theorem lineLoop_eq (normal : ends.Normal) (extended : ends.x1 < ends.x2)
    (steepGradient : Bool) (count : Nat) (offset : Int) :
    lineLoop steepGradient (ends.x2 - ends.x1) (ends.y2 - ends.y1).natAbs ends.ystep penColor
      count (ends.x1 + offset) (lineStateAt ends offset) =
      (intRange offset (offset + count)).map (linePixel steepGradient ends penColor) := by
  induction count generalizing offset with
  | zero =>
      rw [Nat.cast_zero, Int.add_zero]
      rw [intRange]
      rw [Int.sub_self]
      rfl
  | succ count induction =>
      have range : intRange offset (offset + (count + 1 : Nat)) =
          offset :: intRange (offset + 1) (offset + 1 + count) := by
        dsimp only [intRange]
        rw [show (offset + (count + 1 : Nat) - offset).toNat = count + 1 by omega,
          show (offset + 1 + count - (offset + 1)).toNat = count by omega,
          List.range_succ_eq_map, List.map_cons, List.map_map, Nat.cast_zero, Int.add_zero]
        congr 2
        funext index
        rw [Function.comp_apply]
        omega
      rw [lineLoop, lineStep_lineStateAt normal offset extended, Int.add_assoc ends.x1,
        induction (offset + 1), range, List.map_cons]
      rfl

theorem lineLoop_columns (normal : ends.Normal) (steepGradient : Bool) :
    lineLoop steepGradient (ends.x2 - ends.x1) (ends.y2 - ends.y1).natAbs ends.ystep
      penColor (ends.x2 + 1 - ends.x1).toNat ends.x1 (lineStateAt ends 0) =
      (intRange 0 (ends.x2 + 1 - ends.x1)).map (linePixel steepGradient ends penColor) := by
  have forward := normal.forward
  by_cases extended : ends.x1 < ends.x2
  · have all := @lineLoop_eq ends penColor normal extended steepGradient
      (ends.x2 + 1 - ends.x1).toNat 0
    rw [Int.add_zero, Int.zero_add, Int.toNat_of_nonneg (by omega)] at all
    exact all
  · have point : ends.x2 + 1 - ends.x1 = 1 := by omega
    rw [point]
    change [_] = [_]
    unfold linePixel
    dsimp only
    rw [Nat.cast_zero, Int.add_zero, Int.add_zero]

theorem lineStateAt_zero (normal : ends.Normal) :
    lineStateAt ends 0 = {
      y1 := ends.y1
      errorValue := int16 ((ends.x2 - ends.x1).tdiv 2) } := by
  have forward := normal.forward
  have short := normal.short
  rw [lineStateAt, Ends.rise]
  rw [Int.tdiv_eq_ediv_of_nonneg (Int.sub_nonneg_of_le forward),
    int16_eq ⟨by omega, by omega⟩, Int.zero_mul, Int.zero_add]
  have nonneg : 0 ≤ ends.x2 - ends.x1 := Int.sub_nonneg_of_le forward
  generalize ends.x2 - ends.x1 = dx at *
  by_cases point : dx = 0
  · rw [point, Int.ediv_zero, Int.mul_zero, Int.add_zero]
    rfl
  · rw [Int.ediv_eq_zero_of_lt (by omega) (by omega), Int.emod_eq_of_lt (by omega) (by omega),
      Int.mul_zero, Int.add_zero]
    congr 1
    omega

/-- The points of a line, whatever its direction. -/
def OnLine (ends : Ends) (a b : Int) : Prop :=
  if ends.steepGradient then
    ends.level.forward.Passes b a
  else
    ends.level.forward.Passes a b

/-- The points that a line passes, by their offset from its start. -/
theorem passes_iff_offset {along across : Int} :
    ends.Passes along across ↔ ∃ offset, (0 ≤ offset ∧ offset < ends.x2 + 1 - ends.x1) ∧
      ends.x1 + offset = along ∧ (lineStateAt ends offset).y1 = across := by
  rw [Ends.Passes]
  constructor
  · intro passes
    rcases passes with ⟨inRange, isAcross⟩
    exact ⟨along - ends.x1, by omega, by omega, isAcross.symm⟩
  · intro found
    rcases found with ⟨offset, inRange, rfl, rfl⟩
    refine ⟨by omega, ?_⟩
    rw [add_sub_cancel_left]
    rfl

theorem sets_linePixels {steepGradient : Bool} {a b : Int} :
    Sets ((intRange 0 (ends.x2 + 1 - ends.x1)).map (linePixel steepGradient ends penColor)) a b ↔
      if steepGradient then ends.Passes b a else ends.Passes a b := by
  rw [Sets, passes_iff_offset, passes_iff_offset]
  simp only [List.mem_map, mem_intRange, exists_exists_and_eq_and]
  cases steepGradient with
  | false =>
      apply exists_congr
      intro offset
      exact and_congr_right fun _ => Iff.rfl
  | true =>
      apply exists_congr
      intro offset
      exact and_congr_right fun _ => and_comm

end Loop

/-- A line that loses no bits sets one pixel in each of its columns. -/
theorem drawLine_columns {x1 y1 x2 y2 : Int} {penColor : UInt16}
    (lossless : (Ends.mk x1 y1 x2 y2).Lossless) :
    let given : Ends := ⟨x1, y1, x2, y2⟩
    let ends := given.level.forward
    drawLine x1 y1 x2 y2 penColor =
      (intRange 0 (ends.x2 + 1 - ends.x1)).map
        (linePixel given.steepGradient ends penColor) := by
  have normal := lossless.normal
  unfold drawLine
  dsimp only
  rw [lossless.swapEnds_eq]
  generalize Ends.steepGradient ⟨x1, y1, x2, y2⟩ = steepGradient
  generalize (Ends.mk x1 y1 x2 y2).level.forward = ends at *
  have forward := normal.forward
  have level := normal.level
  have short := normal.short
  rw [← lineLoop_columns normal, lineStateAt_zero normal, int16_eq ⟨by omega, by omega⟩,
    int16_eq ⟨by omega, by omega⟩]
  rfl

/-- A line that loses no bits sets its points. -/
theorem sets_drawLine {x1 y1 x2 y2 a b : Int} {penColor : UInt16}
    (lossless : (Ends.mk x1 y1 x2 y2).Lossless) :
    Sets (drawLine x1 y1 x2 y2 penColor) a b ↔ OnLine ⟨x1, y1, x2, y2⟩ a b := by
  rw [drawLine_columns lossless, OnLine]
  exact sets_linePixels

/-- A line does not rise beyond its other end. -/
theorem Ends.Normal.rise_range {ends : Ends} (normal : ends.Normal) {offset : Int}
    (nonneg : 0 ≤ offset) (inside : offset ≤ ends.x2 - ends.x1) :
    0 ≤ ends.rise offset ∧ ends.rise offset ≤ (ends.y2 - ends.y1).natAbs := by
  have forward := normal.forward
  rw [Ends.rise]
  have product : 0 ≤ offset * (ends.y2 - ends.y1).natAbs := mul_nonneg nonneg (by omega)
  have bound : offset * (ends.y2 - ends.y1).natAbs ≤
      (ends.x2 - ends.x1) * (ends.y2 - ends.y1).natAbs :=
    mul_le_mul_of_nonneg_right inside (by omega)
  rw [Int.mul_comm (ends.x2 - ends.x1)] at bound
  by_cases point : ends.x2 - ends.x1 = 0
  · rw [point, Int.ediv_zero]
    omega
  · have positive : 0 < ends.x2 - ends.x1 := by omega
    constructor
    · exact Int.ediv_nonneg (by omega) (by omega)
    · apply Int.le_of_lt_add_one
      apply Int.ediv_lt_of_lt_mul positive
      rw [Int.add_mul, Int.one_mul]
      omega

theorem OnLine.inBox {ends : Ends} {a b : Int} (onLine : OnLine ends a b)
    (lossless : ends.Lossless) :
    (min ends.x1 ends.x2 ≤ a ∧ a ≤ max ends.x1 ends.x2) ∧
      min ends.y1 ends.y2 ≤ b ∧ b ≤ max ends.y1 ends.y2 := by
  have normal := lossless.normal
  have passes {a b : Int} (passes : ends.level.forward.Passes a b) :
      (ends.level.forward.x1 ≤ a ∧ a ≤ ends.level.forward.x2) ∧
        min ends.level.forward.y1 ends.level.forward.y2 ≤ b ∧
        b ≤ max ends.level.forward.y1 ends.level.forward.y2 := by
    rcases passes with ⟨inRange, isRisen⟩
    have rises := normal.rise_range (Int.sub_nonneg_of_le inRange.1)
      (Int.sub_le_sub_right inRange.2 _)
    refine ⟨inRange, ?_⟩
    unfold Ends.ystep at isRisen
    split at isRisen <;> omega
  unfold OnLine at onLine
  split at onLine
  · rename_i steep
    have inside := passes onLine
    unfold Ends.level at inside
    rw [if_pos steep] at inside
    unfold Ends.forward Ends.transposed Ends.reversed at inside
    dsimp only at inside
    split at inside
    · dsimp only at inside
      omega
    · dsimp only at inside
      omega
  · rename_i notSteep
    have inside := passes onLine
    unfold Ends.level at inside
    rw [if_neg notSteep] at inside
    unfold Ends.forward Ends.reversed at inside
    split at inside
    · dsimp only at inside
      omega
    · omega

end PigweedExperimental.Draw
