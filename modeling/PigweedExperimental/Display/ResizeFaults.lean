import PigweedExperimental.Display.Resizable

namespace PigweedExperimental.NearestNeighbor

/-! # Faults of the resize

The checks at the start of `UpdateNearestNeighbor` are on the framebuffer, but
the divisors come from the display and the products from both. An index is
scaled only if all row writes before it have succeeded.
-/

def Exit.IsFault : Exit → Prop
  | .fault _ => True
  | .returned _ _ => False

/-- The driver takes every piece that is written before a column of a row. -/
def WrittenBefore (input : Input) (dstRowIdx dstColIdx : Nat) : Prop :=
  ∀ row start, kResizeBufferNumPixels ∣ start → start < input.size.width.toNat →
    row < dstRowIdx ∨ row = dstRowIdx ∧ start + kResizeBufferNumPixels ≤ dstColIdx →
    Written input row start

/-- Every index up to the first row write that fails can be scaled. -/
structure ScalesThroughout (input : Input) : Prop where
  rows : ∀ dstRowIdx < input.size.height.toNat, WrittenBefore input dstRowIdx 0 →
    Scalable dstRowIdx input.framebuffer.size.height input.size.height
  columns : ∀ dstRowIdx < input.size.height.toNat, ∀ dstColIdx < input.size.width.toNat,
    WrittenBefore input dstRowIdx dstColIdx →
      Scalable dstColIdx input.framebuffer.size.width input.size.width

section Steps

variable {input : Input} {dstRowIdx dstColIdx : Nat} {srcRowIdx : Int}

theorem int_onlyFaults (value : Int) : Avoids (¬Exit.IsFault ·) (int value) := by
  rw [int]
  split
  · exact avoids_ok value
  · exact avoids_error_iff.mpr (not_not.mpr trivial)

theorem intDiv_onlyFaults (dividend divisor : Int) :
    Avoids (¬Exit.IsFault ·) (intDiv dividend divisor) := by
  rw [intDiv]
  split
  · exact avoids_error_iff.mpr (not_not.mpr trivial)
  · exact avoids_ok _

theorem pwAssert_onlyFaults (condition : Prop) [Decidable condition] :
    Avoids (¬Exit.IsFault ·) (pwAssert condition) := by
  rw [pwAssert]
  split
  · exact avoids_ok ()
  · exact avoids_error_iff.mpr (not_not.mpr trivial)

/-- Scaling an index either comes out or faults. -/
theorem sourceIdx_onlyFaults (dstIdx : Nat) (srcCount dstCount : UInt16) :
    Avoids (¬Exit.IsFault ·) (sourceIdx dstIdx srcCount dstCount) := by
  rw [sourceIdx]
  simp only [bind, avoids_bind_iff]
  refine ⟨int_onlyFaults _, fun product _ => ⟨intDiv_onlyFaults _ _, fun srcIdx _ => ?_⟩⟩
  refine ⟨pwAssert_onlyFaults _, fun _ _ => ⟨pwAssert_onlyFaults _, fun _ _ => ?_⟩⟩
  exact avoids_ok srcIdx

theorem sourceIdx_avoids_iff {dstIdx : Nat} {srcCount dstCount : UInt16}
    (nonempty : srcCount ≠ 0) (inRange : dstIdx < dstCount.toNat) :
    Avoids Exit.IsFault (sourceIdx dstIdx srcCount dstCount) ↔
      Scalable dstIdx srcCount dstCount := by
  have comesOut (srcIdx : Int) := @sourceIdx_eq_ok dstIdx srcCount dstCount srcIdx nonempty inRange
  constructor
  · intro avoids
    cases scaled : sourceIdx dstIdx srcCount dstCount with
    | error exit =>
        exfalso
        apply sourceIdx_onlyFaults dstIdx srcCount dstCount exit scaled
        exact avoids exit scaled
    | ok srcIdx => exact ((comesOut srcIdx).mp scaled).1
  · intro scalable
    rw [(comesOut _).mpr ⟨scalable, rfl⟩]
    exact avoids_ok _

/-- A row write may fail, which is no fault. -/
theorem flush_avoids (input : Input) (dstRowIdx : Nat) (progress : Progress) :
    Avoids Exit.IsFault (flush input dstRowIdx progress) := by
  rw [flush]
  dsimp only
  split
  · exact avoids_ok _
  · exact avoids_error_iff.mpr id

theorem flushIfFull_avoids (input : Input) (dstRowIdx : Nat) (progress : Progress) :
    Avoids Exit.IsFault (flushIfFull input dstRowIdx progress) := by
  rw [flushIfFull]
  split
  · intro exit stopped
    cases flushed : flush input dstRowIdx progress with
    | error failure =>
        rw [flushed] at stopped
        cases stopped
        exact flush_avoids input dstRowIdx progress exit flushed
    | ok writes =>
        rw [flushed] at stopped
        cases stopped
  · exact avoids_ok progress

theorem flushRest_avoids (input : Input) (dstRowIdx : Nat) (progress : Progress) :
    Avoids Exit.IsFault (flushRest input dstRowIdx progress) := by
  rw [flushRest]
  split
  · exact flush_avoids input dstRowIdx progress
  · exact avoids_ok _

/-- The index of a pixel is computed without a fault once its column is scaled. -/
theorem columnBody_avoids_iff {progress : Progress}
    (nonempty : input.framebuffer.size.width ≠ 0) (inRange : dstColIdx < input.size.width.toNat)
    (row : 0 ≤ srcRowIdx ∧ srcRowIdx < input.framebuffer.size.height.toNat) :
    Avoids Exit.IsFault (columnBody input dstRowIdx srcRowIdx dstColIdx progress) ↔
      Scalable dstColIdx input.framebuffer.size.width input.size.width := by
  have height := input.framebuffer.size.height.toNat_lt
  have width := input.framebuffer.size.width.toNat_lt
  have bytes := input.framebuffer.rowBytes.toNat_lt
  have limit : -intMax - 1 ≤ 0 := by decide
  simp only [columnBody, bind, avoids_bind_iff]
  rw [sourceIdx_avoids_iff nonempty inRange]
  apply and_iff_left_of_imp
  intro scalable srcColIdx scaled
  have source := ((sourceIdx_eq_ok nonempty inRange).mp scaled).2
  have column := sourceIdx_range nonempty inRange scalable source
  have fits := @pixelIdx_fits srcRowIdx (input.framebuffer.rowBytes.toNat / 2 : Nat) srcColIdx
    (by omega) (by omega) ⟨column.1, by omega⟩
  have rowStart := int_eq_ok.mpr ⟨rfl, Int.le_trans limit fits.1.1, fits.1.2⟩
  have pixelIdx := int_eq_ok.mpr ⟨rfl, Int.le_trans limit fits.2.1, fits.2.2⟩
  rw [rowStart]
  refine ⟨avoids_ok _, ?_⟩
  intro _ same
  cases same
  rw [pixelIdx]
  exact ⟨avoids_ok _, fun _ _ => flushIfFull_avoids input dstRowIdx _⟩

end Steps

section Rows

variable {input : Input} {dstRowIdx : Nat} {srcRowIdx : Int}

/-- The driver takes the full pieces of a row up to a column. -/
def PiecesWritten (input : Input) (dstRowIdx dstColIdx : Nat) : Prop :=
  ∀ start, kResizeBufferNumPixels ∣ start → start + kResizeBufferNumPixels ≤ dstColIdx →
    Written input dstRowIdx start

/-- The driver takes every piece of a row. -/
def RowWritten (input : Input) (dstRowIdx : Nat) : Prop :=
  ∀ start < input.size.width.toNat, kResizeBufferNumPixels ∣ start →
    Written input dstRowIdx start

theorem writtenBefore_iff {dstColIdx : Nat} (inRow : dstColIdx ≤ input.size.width.toNat) :
    WrittenBefore input dstRowIdx dstColIdx ↔
      (∀ row < dstRowIdx, RowWritten input row) ∧ PiecesWritten input dstRowIdx dstColIdx := by
  have somePixels : 0 < kResizeBufferNumPixels := Nat.succ_pos 79
  constructor
  · intro written
    constructor
    · intro row earlier start inWidth isPiece
      exact written row start isPiece inWidth (.inl earlier)
    · intro start isPiece before
      exact written dstRowIdx start isPiece (by omega) (.inr ⟨rfl, before⟩)
  · rintro ⟨rows, pieces⟩ row start isPiece inWidth (earlier | ⟨rfl, before⟩)
    · exact rows row earlier start inWidth isPiece
    · exact pieces start isPiece before

theorem columns_avoid_iff {writes : List RowWrite}
    (nonempty : input.framebuffer.size.width ≠ 0)
    (row : 0 ≤ srcRowIdx ∧ srcRowIdx < input.framebuffer.size.height.toNat) :
    Avoids Exit.IsFault (forUp input.size.width.toNat (columnBody input dstRowIdx srcRowIdx)
        { resizeBuffer := [], dstColWriteIdx := 0, writes }) ↔
      ∀ dstColIdx < input.size.width.toNat, PiecesWritten input dstRowIdx dstColIdx →
        Scalable dstColIdx input.framebuffer.size.width input.size.width := by
  have loop := @forUp_avoids_iff Exit Progress Exit.IsFault Buffered
    (fun dstColIdx => Scalable dstColIdx input.framebuffer.size.width input.size.width)
    (fun dstColIdx => ∀ start, start + kResizeBufferNumPixels = dstColIdx + 1 →
      kResizeBufferNumPixels ∣ start → Written input dstRowIdx start)
    input.size.width.toNat (columnBody input dstRowIdx srcRowIdx)
    { resizeBuffer := [], dstColWriteIdx := 0, writes }
    ⟨rfl, Nat.succ_pos 79, Nat.dvd_zero _⟩
    (by
      intro dstColIdx progress inRange _
      exact columnBody_avoids_iff nonempty inRange row)
    (by
      intro dstColIdx progress inRange buffered
      simp only [columnBody_eq_ok nonempty inRange row, exists_and_left]
      exact and_congr_right fun _ => buffered.flushIfFull_ok_iff)
    (by
      intro dstColIdx progress next inRange buffered done
      exact buffered.kept ((columnBody_eq_ok nonempty inRange row).mp done).2)
  rw [loop]
  apply forall_congr'
  intro dstColIdx
  apply imp_congr_right
  intro _
  apply imp_congr_left
  constructor
  · intro passes start isPiece before
    have somePixels : 0 < kResizeBufferNumPixels := Nat.succ_pos 79
    exact passes (start + kResizeBufferNumPixels - 1) (by omega) start (by omega) isPiece
  · intro pieces earlier isEarlier start ends isPiece
    exact pieces start isPiece (by omega)

theorem rowBody_avoids_iff {writes : List RowWrite}
    (someWidth : input.framebuffer.size.width ≠ 0)
    (someHeight : input.framebuffer.size.height ≠ 0)
    (inRange : dstRowIdx < input.size.height.toNat) :
    Avoids Exit.IsFault (rowBody input dstRowIdx writes) ↔
      Scalable dstRowIdx input.framebuffer.size.height input.size.height ∧
        ∀ dstColIdx < input.size.width.toNat, PiecesWritten input dstRowIdx dstColIdx →
          Scalable dstColIdx input.framebuffer.size.width input.size.width := by
  simp only [rowBody, bind, avoids_bind_iff]
  rw [sourceIdx_avoids_iff someHeight inRange]
  apply and_congr_right
  intro scalable
  have scaled := (sourceIdx_eq_ok someHeight inRange).mpr ⟨scalable, rfl⟩
  have row := sourceIdx_range someHeight inRange scalable rfl
  rw [← @columns_avoid_iff input dstRowIdx _ writes someWidth row]
  constructor
  · intro avoids
    exact (avoids _ scaled).1
  · intro avoids srcRowIdx source
    cases scaled.symm.trans source
    exact ⟨avoids, fun progress _ => flushRest_avoids input dstRowIdx progress⟩

theorem rows_avoid_iff (someWidth : input.framebuffer.size.width ≠ 0)
    (someHeight : input.framebuffer.size.height ≠ 0) :
    Avoids Exit.IsFault (forUp input.size.height.toNat (rowBody input) []) ↔
      ScalesThroughout input := by
  have loop := @forUp_avoids_iff Exit (List RowWrite) Exit.IsFault (fun _ _ => True)
    (fun dstRowIdx =>
      Scalable dstRowIdx input.framebuffer.size.height input.size.height ∧
        ∀ dstColIdx < input.size.width.toNat, PiecesWritten input dstRowIdx dstColIdx →
          Scalable dstColIdx input.framebuffer.size.width input.size.width)
    (RowWritten input) input.size.height.toNat (rowBody input) [] trivial
    (by
      intro dstRowIdx writes inRange _
      exact rowBody_avoids_iff someWidth someHeight inRange)
    (by
      intro dstRowIdx writes inRange _
      rw [rowBody_ok_iff someWidth someHeight inRange]
      constructor
      · rintro ⟨row, columns, written⟩
        exact ⟨⟨row, fun dstColIdx inRow _ => columns dstColIdx inRow⟩, written⟩
      · rintro ⟨⟨row, columns⟩, written⟩
        refine ⟨row, fun dstColIdx inRow => columns dstColIdx inRow ?_, written⟩
        intro start isPiece before
        have somePixels : 0 < kResizeBufferNumPixels := Nat.succ_pos 79
        exact written start (by omega) isPiece)
    (by intros; trivial)
  rw [loop]
  constructor
  · intro allRows
    constructor
    case rows =>
      intro dstRowIdx inRange written
      exact (allRows dstRowIdx inRange ((writtenBefore_iff (Nat.zero_le _)).mp written).1).1
    case columns =>
      intro dstRowIdx inRange dstColIdx inRow written
      rcases (writtenBefore_iff (Nat.le_of_lt inRow)).mp written with ⟨earlier, pieces⟩
      exact (allRows dstRowIdx inRange earlier).2 dstColIdx inRow pieces
  · intro scales dstRowIdx inRange earlier
    constructor
    · apply scales.rows dstRowIdx inRange
      refine (writtenBefore_iff (Nat.zero_le _)).mpr ⟨earlier, ?_⟩
      intro start _ before
      exact absurd (Nat.le_trans (Nat.le_add_left _ _) before) (Nat.not_succ_le_zero 79)
    · intro dstColIdx inRow pieces
      apply scales.columns dstRowIdx inRange dstColIdx inRow
      exact (writtenBefore_iff (Nat.le_of_lt inRow)).mpr ⟨earlier, pieces⟩

theorem updateNearestNeighbor_faults_iff :
    (∃ fault, updateNearestNeighbor input = .error fault) ↔ ¬Avoids Exit.IsFault (run input) := by
  rw [updateNearestNeighbor]
  cases run input with
  | ok writes =>
      apply iff_of_false _ (not_not.mpr (avoids_ok writes))
      rintro ⟨fault, impossible⟩
      cases impossible
  | error exit =>
      rw [avoids_error_iff]
      cases exit with
      | fault fault => exact iff_of_true ⟨fault, rfl⟩ (not_not.mpr trivial)
      | returned failure writes =>
          apply iff_of_false _ (not_not.mpr id)
          rintro ⟨fault, impossible⟩
          cases impossible

/-- The resize divides by zero, overflows or fails an assertion exactly if it
comes to an index that cannot be scaled. -/
theorem updateNearestNeighbor_faultFree_iff (valid : input.framebuffer.isValid)
    (someWidth : input.framebuffer.size.width ≠ 0)
    (someHeight : input.framebuffer.size.height ≠ 0) :
    (∀ fault, updateNearestNeighbor input ≠ .error fault) ↔ ScalesThroughout input := by
  have started : run input = forUp input.size.height.toNat (rowBody input) [] := by
    rw [run, pwAssert_eq_ok.mpr valid]
    simp only [bind, Except.bind]
    rw [if_neg (not_or.mpr ⟨someWidth, someHeight⟩)]
  rw [← rows_avoid_iff someWidth someHeight, ← started, ← not_exists,
    updateNearestNeighbor_faults_iff, not_not]

/-- A display of one pixel shows a framebuffer of two by two. -/
def onePixel : Input where
  size := ⟨1, 1⟩
  framebuffer := ⟨1, .rgb565, ⟨2, 2⟩, 4⟩
  fbdata := fun index => .ofNat index
  writeRow := fun _ _ => .ok

/-- A display of two by two shows the same framebuffer. -/
def fourPixels : Input := { onePixel with size := ⟨2, 2⟩ }

theorem updateNearestNeighbor_faultFree_iff_fourPixels :
    (∀ fault, updateNearestNeighbor fourPixels ≠ .error fault) ↔ ScalesThroughout fourPixels :=
  updateNearestNeighbor_faultFree_iff rfl (by decide) (by decide)

/-- The only row of a display is scaled with a divisor of zero. -/
theorem onePixel_faults :
    ¬(∀ input : Input, input.framebuffer.isValid → input.framebuffer.size.width ≠ 0 →
      input.framebuffer.size.height ≠ 0 → 1 ≤ input.size.width → 1 ≤ input.size.height →
      ∀ fault, updateNearestNeighbor input ≠ .error fault) := by
  intro all
  have result : updateNearestNeighbor onePixel = .error .divisionByZero := rfl
  exact all onePixel rfl (by decide) (by decide) (by decide) (by decide) .divisionByZero result

theorem scalable_all_iff {srcCount dstCount : UInt16} (nonempty : srcCount ≠ 0)
    (some : 0 < dstCount.toNat) :
    (∀ dstIdx < dstCount.toNat, Scalable dstIdx srcCount dstCount) ↔
      dstCount ≠ 1 ∧ ((dstCount.toNat : Int) - 1) * ((srcCount.toNat : Int) - 1) ≤ intMax := by
  have positive : 0 < srcCount.toNat :=
    Nat.pos_of_ne_zero fun zero => nonempty (UInt16.toNat_inj.mp zero)
  constructor
  · intro all
    have last := all (dstCount.toNat - 1) (by omega)
    rw [Scalable, Nat.cast_sub some, Nat.cast_one] at last
    exact last
  · rintro ⟨several, bound⟩ dstIdx inRange
    refine ⟨several, ?_⟩
    calc (dstIdx : Int) * ((srcCount.toNat : Int) - 1)
      _ ≤ ((dstCount.toNat : Int) - 1) * ((srcCount.toNat : Int) - 1) :=
          mul_le_mul_of_nonneg_right (by omega) (by omega)
      _ ≤ intMax := bound

/-- With a driver that takes every row write, only the sizes matter. -/
theorem scalesThroughout_iff_of_written (someWidth : input.framebuffer.size.width ≠ 0)
    (someHeight : input.framebuffer.size.height ≠ 0) (someColumn : 0 < input.size.width.toNat)
    (someRow : 0 < input.size.height.toNat) (written : ∀ row, RowWritten input row) :
    ScalesThroughout input ↔
      (input.size.height ≠ 1 ∧ ((input.size.height.toNat : Int) - 1) *
        ((input.framebuffer.size.height.toNat : Int) - 1) ≤ intMax) ∧
      input.size.width ≠ 1 ∧ ((input.size.width.toNat : Int) - 1) *
        ((input.framebuffer.size.width.toNat : Int) - 1) ≤ intMax := by
  have allWritten (dstRowIdx dstColIdx : Nat) : WrittenBefore input dstRowIdx dstColIdx :=
    fun row start isPiece inWidth _ => written row start inWidth isPiece
  rw [← scalable_all_iff someHeight someRow, ← scalable_all_iff someWidth someColumn]
  constructor
  · intro scales
    constructor
    · intro dstRowIdx inRange
      exact scales.rows dstRowIdx inRange (allWritten dstRowIdx 0)
    · intro dstColIdx inRow
      exact scales.columns 0 someRow dstColIdx inRow (allWritten 0 dstColIdx)
  · rintro ⟨rows, columns⟩
    exact ⟨fun dstRowIdx inRange _ => rows dstRowIdx inRange,
      fun _ _ dstColIdx inRow _ => columns dstColIdx inRow⟩

end Rows

end PigweedExperimental.NearestNeighbor
