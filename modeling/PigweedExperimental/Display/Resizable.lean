import PigweedExperimental.Display.NearestNeighbor
import Mathlib.Algebra.Order.Ring.Int

namespace PigweedExperimental.NearestNeighbor

/-! # When the resize comes out

Every way in which the software resize can stop short is traced back to its
input: the two sizes, and the driver's answers.
-/

section Steps

theorem bind_eq_ok {value : Except Exit α} {next : α → Except Exit β} {result : β} :
    value.bind next = .ok result ↔ ∃ middle, value = .ok middle ∧ next middle = .ok result := by
  cases value with
  | error => exact iff_of_false nofun (fun found => nomatch found.choose_spec.1)
  | ok middle => exact ⟨fun done => ⟨middle, rfl, done⟩, fun ⟨_, rfl, done⟩ => done⟩

theorem exists_map_ok {value : Except Exit α} {f : α → β} :
    (∃ result, value.map f = .ok result) ↔ ∃ result, value = .ok result := by
  cases value with
  | error => exact iff_of_false nofun nofun
  | ok result => exact iff_of_true ⟨_, rfl⟩ ⟨_, rfl⟩

theorem int_eq_ok {value result : Int} :
    int value = .ok result ↔ result = value ∧ -intMax - 1 ≤ value ∧ value ≤ intMax := by
  rw [int]
  split
  · rename_i fits
    simp [fits, eq_comm]
  · rename_i overflows
    exact iff_of_false nofun (fun both => overflows both.2)

theorem intDiv_eq_ok {dividend divisor result : Int} :
    intDiv dividend divisor = .ok result ↔
      divisor ≠ 0 ∧ result = dividend.tdiv divisor := by
  rw [intDiv]
  split
  · rename_i zero
    simp [zero]
  · rename_i nonzero
    simp [nonzero, eq_comm]

theorem pwAssert_eq_ok {condition : Prop} [Decidable condition] :
    pwAssert condition = .ok () ↔ condition := by
  rw [pwAssert]
  split <;> simp [*]

/-- The position a display index is scaled to never leaves the source. -/
theorem scaled_le {dstIdx dstCount : Nat} {lastIdx : Int} (inRange : dstIdx < dstCount)
    (nonnegative : 0 ≤ lastIdx) (several : dstCount ≠ 1) :
    0 ≤ (dstIdx * lastIdx).tdiv (dstCount - 1) ∧
      (dstIdx * lastIdx).tdiv (dstCount - 1) ≤ lastIdx := by
  have positive : (0 : Int) < dstCount - 1 := by omega
  have product : 0 ≤ dstIdx * lastIdx := mul_nonneg (by omega) nonnegative
  rw [Int.tdiv_eq_ediv_of_nonneg product]
  constructor
  · exact Int.ediv_nonneg product (Int.le_of_lt positive)
  · apply Int.ediv_le_of_le_mul positive
    rw [mul_comm]
    exact mul_le_mul_of_nonneg_left (by omega) nonnegative

/-- No index is scaled with a product that overflows, and there is a divisor. -/
def Scalable (dstIdx : Nat) (srcCount dstCount : UInt16) : Prop :=
  dstCount ≠ 1 ∧ dstIdx * ((srcCount.toNat : Int) - 1) ≤ intMax

theorem sourceIdx_range {dstIdx : Nat} {srcCount dstCount : UInt16} {srcIdx : Int}
    (nonempty : srcCount ≠ 0) (inRange : dstIdx < dstCount.toNat)
    (scalable : Scalable dstIdx srcCount dstCount)
    (source : srcIdx =
      (dstIdx * ((srcCount.toNat : Int) - 1)).tdiv (dstCount.toNat - 1)) :
    0 ≤ srcIdx ∧ srcIdx < srcCount.toNat := by
  have several : dstCount.toNat ≠ 1 := fun one => scalable.1 (UInt16.toNat_inj.mp one)
  have positive : 0 < srcCount.toNat :=
    Nat.pos_of_ne_zero fun zero => nonempty (UInt16.toNat_inj.mp zero)
  have range := scaled_le inRange (by omega : 0 ≤ (srcCount.toNat : Int) - 1) several
  omega

theorem sourceIdx_eq_ok {dstIdx : Nat} {srcCount dstCount : UInt16} {srcIdx : Int}
    (nonempty : srcCount ≠ 0) (inRange : dstIdx < dstCount.toNat) :
    sourceIdx dstIdx srcCount dstCount = .ok srcIdx ↔
      Scalable dstIdx srcCount dstCount ∧
        srcIdx = (dstIdx * ((srcCount.toNat : Int) - 1)).tdiv (dstCount.toNat - 1) := by
  have positive : 0 < srcCount.toNat :=
    Nat.pos_of_ne_zero fun zero => nonempty (UInt16.toNat_inj.mp zero)
  have divisor : dstCount ≠ 1 ↔ (dstCount.toNat : Int) - 1 ≠ 0 := by
    rw [ne_eq, ← UInt16.toNat_inj, UInt16.toNat_one]
    omega
  have product : 0 ≤ dstIdx * ((srcCount.toNat : Int) - 1) :=
    mul_nonneg (by omega) (by omega)
  have limit : -intMax - 1 ≤ 0 := by decide
  simp only [sourceIdx, bind, bind_eq_ok, int_eq_ok, intDiv_eq_ok, pure, Except.pure]
  rw [Scalable]
  constructor
  · intro done
    rcases done with ⟨_, ⟨rfl, _, bound⟩, _, ⟨nonzero, rfl⟩, _, _, _, _, result⟩
    cases result
    exact ⟨⟨divisor.mpr nonzero, bound⟩, rfl⟩
  · intro both
    rcases both with ⟨scalable, source⟩
    have range := sourceIdx_range nonempty inRange scalable source
    exact ⟨_, ⟨rfl, by omega, scalable.2⟩, _, ⟨divisor.mp scalable.1, source⟩,
      (), pwAssert_eq_ok.mpr range.1, (), pwAssert_eq_ok.mpr range.2, rfl⟩

theorem flush_eq_ok {input : Input} {dstRowIdx : Nat} {progress : Progress} :
    (∃ writes, flush input dstRowIdx progress = .ok writes) ↔
      input.writeRow (.ofNat dstRowIdx) (.ofNat progress.dstColWriteIdx) = .ok := by
  rw [flush]
  dsimp only
  split
  · rename_i written
    exact iff_of_true ⟨_, rfl⟩ written
  · rename_i failed
    exact iff_of_false nofun failed

end Steps

section Rows

variable {input : Input} {dstRowIdx dstColIdx : Nat} {srcRowIdx : Int}

/-- The pixel a column samples; its index stays within `int`. -/
def sampled (input : Input) (srcRowIdx : Int) (dstColIdx : Nat) : UInt16 :=
  let srcColIdx := (dstColIdx * ((input.framebuffer.size.width.toNat : Int) - 1)).tdiv
    (input.size.width.toNat - 1)
  input.fbdata (srcRowIdx * (input.framebuffer.rowBytes.toNat / 2 : Nat) + srcColIdx).toNat

/-- Rows and strides of 16 bits address pixels well within an `int`. -/
theorem pixelIdx_fits {row stride column : Int} (rowRange : 0 ≤ row ∧ row ≤ 65534)
    (strideRange : 0 ≤ stride ∧ stride ≤ 32767)
    (columnRange : 0 ≤ column ∧ column ≤ 65534) :
    (0 ≤ row * stride ∧ row * stride ≤ intMax) ∧
      (0 ≤ row * stride + column ∧ row * stride + column ≤ intMax) := by
  have lower : 0 ≤ row * stride := mul_nonneg rowRange.1 strideRange.1
  have upper : row * stride ≤ 65534 * 32767 :=
    mul_le_mul rowRange.2 strideRange.2 strideRange.1 (by decide)
  rw [intMax]
  omega

theorem columnBody_eq_ok {progress next : Progress}
    (nonempty : input.framebuffer.size.width ≠ 0)
    (inRange : dstColIdx < input.size.width.toNat)
    (row : 0 ≤ srcRowIdx ∧ srcRowIdx < input.framebuffer.size.height.toNat) :
    columnBody input dstRowIdx srcRowIdx dstColIdx progress = .ok next ↔
      Scalable dstColIdx input.framebuffer.size.width input.size.width ∧
        flushIfFull input dstRowIdx { progress with
          resizeBuffer := progress.resizeBuffer ++ [sampled input srcRowIdx dstColIdx] } =
            .ok next := by
  have scaled (srcColIdx : Int) :=
    @sourceIdx_eq_ok dstColIdx _ _ srcColIdx nonempty inRange
  have height := input.framebuffer.size.height.toNat_lt
  have width := input.framebuffer.size.width.toNat_lt
  have bytes := input.framebuffer.rowBytes.toNat_lt
  have limit : -intMax - 1 ≤ 0 := by decide
  simp only [columnBody, bind, bind_eq_ok, int_eq_ok, scaled]
  constructor
  · intro done
    rcases done with ⟨_, ⟨scalable, rfl⟩, _, ⟨rfl, _⟩, _, ⟨rfl, _⟩, finished⟩
    exact ⟨scalable, finished⟩
  · intro both
    rcases both with ⟨scalable, finished⟩
    have column := sourceIdx_range nonempty inRange scalable rfl
    have fits := @pixelIdx_fits srcRowIdx (input.framebuffer.rowBytes.toNat / 2 : Nat) _
      (by omega) (by omega) ⟨column.1, by omega⟩
    exact ⟨_, ⟨scalable, rfl⟩, _, ⟨rfl, by omega⟩, _, ⟨rfl, by omega⟩, finished⟩

/-- The buffer holds what the last multiple of its size has left over. -/
def Buffered (dstColIdx : Nat) (progress : Progress) : Prop :=
  progress.dstColWriteIdx + progress.resizeBuffer.length = dstColIdx ∧
    progress.resizeBuffer.length < kResizeBufferNumPixels ∧
    kResizeBufferNumPixels ∣ progress.dstColWriteIdx

theorem Buffered.kept {progress next : Progress} {pixel : UInt16}
    (buffered : Buffered dstColIdx progress)
    (flushed : flushIfFull input dstRowIdx { progress with
      resizeBuffer := progress.resizeBuffer ++ [pixel] } = .ok next) :
    Buffered (dstColIdx + 1) next := by
  rcases buffered with ⟨total, short, pieces⟩
  unfold flushIfFull at flushed
  rw [List.length_append, List.length_singleton] at flushed
  split at flushed
  · rename_i full
    cases written : flush input dstRowIdx { progress with
      resizeBuffer := progress.resizeBuffer ++ [pixel] } with
    | error =>
        rw [written] at flushed
        cases flushed
    | ok writes =>
        rw [written] at flushed
        cases flushed
        refine ⟨?_, Nat.succ_pos 79, Nat.dvd_add pieces (Nat.dvd_refl _)⟩
        rw [List.length_nil, ← total, ← full]
        rfl
  · rename_i notFull
    cases flushed
    refine ⟨?_, ?_, pieces⟩
    · rw [List.length_append, ← total]
      rfl
    · rw [List.length_append, List.length_singleton]
      omega

/-- The driver takes the piece of a row that starts at a column. -/
def Written (input : Input) (dstRowIdx : Nat) (start : Nat) : Prop :=
  input.writeRow (.ofNat dstRowIdx) (.ofNat start) = .ok

/-- A column with which the buffer is full writes it. -/
theorem Buffered.flushIfFull_ok_iff {progress : Progress} {pixel : UInt16}
    (buffered : Buffered dstColIdx progress) :
    (∃ next, flushIfFull input dstRowIdx { progress with
        resizeBuffer := progress.resizeBuffer ++ [pixel] } = .ok next) ↔
      ∀ start, start + kResizeBufferNumPixels = dstColIdx + 1 →
        kResizeBufferNumPixels ∣ start → Written input dstRowIdx start := by
  rcases buffered with ⟨total, short, pieces⟩
  rw [flushIfFull]
  rw [List.length_append, List.length_singleton]
  split
  · rename_i full
    have atStart : progress.dstColWriteIdx + kResizeBufferNumPixels = dstColIdx + 1 := by
      omega
    rw [exists_map_ok, flush_eq_ok]
    constructor
    · intro written start ends _
      rw [Nat.add_right_cancel (ends.trans atStart.symm)]
      exact written
    · intro allWritten
      exact allWritten _ atStart pieces
  · rename_i notFull
    refine iff_of_true ⟨_, rfl⟩ ?_
    intro start ends isPiece
    exfalso
    apply notFull
    dsimp only [kResizeBufferNumPixels] at *
    omega

/-- The piece that the last columns leave over is written too. -/
theorem Buffered.flushRest_ok_iff {progress : Progress}
    (buffered : Buffered dstColIdx progress) :
    (∃ next, flushRest input dstRowIdx progress = .ok next) ↔
      ∀ start < dstColIdx, dstColIdx < start + kResizeBufferNumPixels →
        kResizeBufferNumPixels ∣ start → Written input dstRowIdx start := by
  rcases buffered with ⟨total, short, pieces⟩
  rw [flushRest]
  split
  · rename_i rest
    have some := List.length_pos_iff.mpr rest
    rw [flush_eq_ok]
    constructor
    · intro written start inRange last isPiece
      have same : start = progress.dstColWriteIdx := by
        dsimp only [kResizeBufferNumPixels] at *
        omega
      rw [same]
      exact written
    · intro allWritten
      exact allWritten _ (by omega) (by omega) pieces
  · rename_i empty
    rw [Decidable.not_not] at empty
    refine iff_of_true ⟨_, rfl⟩ ?_
    intro start inRange last isPiece
    exfalso
    rw [empty, List.length_nil] at total
    dsimp only [kResizeBufferNumPixels] at *
    omega

theorem columns_ok_iff {writes : List RowWrite}
    (nonempty : input.framebuffer.size.width ≠ 0)
    (row : 0 ≤ srcRowIdx ∧ srcRowIdx < input.framebuffer.size.height.toNat) :
    let columns := forUp input.size.width.toNat (columnBody input dstRowIdx srcRowIdx)
      { resizeBuffer := [], dstColWriteIdx := 0, writes }
    ((∃ last, columns = .ok last) ↔ ∀ dstColIdx < input.size.width.toNat,
      Scalable dstColIdx input.framebuffer.size.width input.size.width ∧
        ∀ start, start + kResizeBufferNumPixels = dstColIdx + 1 →
          kResizeBufferNumPixels ∣ start → Written input dstRowIdx start) ∧
    ∀ last, columns = .ok last → Buffered input.size.width.toNat last := by
  apply forUp_ok_iff Buffered
  case initially => exact ⟨rfl, Nat.succ_pos 79, Nat.dvd_zero _⟩
  case exactBody =>
    intro dstColIdx progress inRange buffered
    simp only [columnBody_eq_ok nonempty inRange row, exists_and_left]
    exact and_congr_right fun _ => buffered.flushIfFull_ok_iff
  case kept =>
    intro dstColIdx progress next inRange buffered done
    exact buffered.kept ((columnBody_eq_ok nonempty inRange row).mp done).2

/-- A display row comes out exactly when its indices can be computed and all of
its row writes succeed. -/
theorem rowBody_ok_iff {writes : List RowWrite}
    (someWidth : input.framebuffer.size.width ≠ 0)
    (someHeight : input.framebuffer.size.height ≠ 0)
    (inRange : dstRowIdx < input.size.height.toNat) :
    (∃ next, rowBody input dstRowIdx writes = .ok next) ↔
      Scalable dstRowIdx input.framebuffer.size.height input.size.height ∧
        (∀ dstColIdx < input.size.width.toNat,
          Scalable dstColIdx input.framebuffer.size.width input.size.width) ∧
        ∀ start < input.size.width.toNat, kResizeBufferNumPixels ∣ start →
          Written input dstRowIdx start := by
  have scaled (srcRowIdx : Int) :=
    @sourceIdx_eq_ok dstRowIdx _ _ srcRowIdx someHeight inRange
  simp only [rowBody, bind, bind_eq_ok, scaled]
  constructor
  · intro done
    rcases done with ⟨next, srcRowIdx, ⟨scalable, source⟩, progress, columns, rest⟩
    have row := sourceIdx_range someHeight inRange scalable source
    rcases columns_ok_iff someWidth row with ⟨allColumns, reached⟩
    have goodColumns := allColumns.mp ⟨progress, columns⟩
    refine ⟨scalable, fun dstColIdx inRow => (goodColumns dstColIdx inRow).1, ?_⟩
    intro start inRow isPiece
    by_cases whole : start + kResizeBufferNumPixels ≤ input.size.width.toNat
    · have positive : 0 < kResizeBufferNumPixels := Nat.succ_pos 79
      exact (goodColumns (start + kResizeBufferNumPixels - 1) (by omega)).2 start
        (by omega) isPiece
    · exact (reached progress columns).flushRest_ok_iff.mp ⟨next, rest⟩ start inRow
        (Nat.lt_of_not_le whole) isPiece
  · intro all
    rcases all with ⟨scalable, goodColumns, allWritten⟩
    have row := sourceIdx_range someHeight inRange scalable rfl
    rcases columns_ok_iff someWidth row with ⟨allColumns, reached⟩
    rcases allColumns.mpr (fun dstColIdx inRow => ⟨goodColumns dstColIdx inRow,
      fun start ends isPiece => allWritten start (by
        rw [kResizeBufferNumPixels] at ends
        omega) isPiece⟩) with ⟨progress, columns⟩
    rcases (reached progress columns).flushRest_ok_iff.mpr
      (fun start inRow _ isPiece => allWritten start inRow isPiece) with ⟨next, rest⟩
    exact ⟨next, _, ⟨scalable, rfl⟩, progress, columns, rest⟩

theorem rows_ok_iff (someWidth : input.framebuffer.size.width ≠ 0)
    (someHeight : input.framebuffer.size.height ≠ 0) :
    (∃ writes, forUp input.size.height.toNat (rowBody input) [] = .ok writes) ↔
      ∀ dstRowIdx < input.size.height.toNat,
        Scalable dstRowIdx input.framebuffer.size.height input.size.height ∧
          (∀ dstColIdx < input.size.width.toNat,
            Scalable dstColIdx input.framebuffer.size.width input.size.width) ∧
          ∀ start < input.size.width.toNat, kResizeBufferNumPixels ∣ start →
            Written input dstRowIdx start := by
  apply (forUp_ok_iff (fun _ _ => True) _ trivial _ _).1
  · intro dstRowIdx writes inRange _
    exact rowBody_ok_iff someWidth someHeight inRange
  · intro _ _ _ _ _ _
    trivial

/-- What the resize needs: a framebuffer with pixels, sizes whose indices can be
computed, and a driver that takes every piece of every row. -/
structure Resizable (input : Input) : Prop where
  someWidth : input.framebuffer.size.width ≠ 0
  someHeight : input.framebuffer.size.height ≠ 0
  rows : ∀ dstRowIdx < input.size.height.toNat,
    Scalable dstRowIdx input.framebuffer.size.height input.size.height
  columns : 0 < input.size.height.toNat → ∀ dstColIdx < input.size.width.toNat,
    Scalable dstColIdx input.framebuffer.size.width input.size.width
  written : ∀ dstRowIdx < input.size.height.toNat, ∀ start < input.size.width.toNat,
    kResizeBufferNumPixels ∣ start → Written input dstRowIdx start

theorem run_ok_iff (valid : input.framebuffer.isValid) :
    (∃ writes, run input = .ok writes) ↔ Resizable input := by
  have asserted : run input =
      if input.framebuffer.size.width = 0 ∨ input.framebuffer.size.height = 0 then
        .error (.returned ⟨.internal, Status.internal_ne_ok⟩ [])
      else
        forUp input.size.height.toNat (rowBody input) [] := by
    rw [run]
    rw [pwAssert_eq_ok.mpr valid]
    simp only [bind, Except.bind]
    split <;> rfl
  rw [asserted]
  split
  · rename_i empty
    apply iff_of_false
    · intro succeeded
      rcases succeeded with ⟨_, succeeded⟩
      cases succeeded
    intro resizable
    rcases empty with noWidth | noHeight
    · exact resizable.someWidth noWidth
    · exact resizable.someHeight noHeight
  · rename_i nonempty
    rw [not_or] at nonempty
    rw [rows_ok_iff nonempty.1 nonempty.2]
    constructor
    · intro allRows
      exact {
        someWidth := nonempty.1
        someHeight := nonempty.2
        rows := fun dstRowIdx inRange => (allRows dstRowIdx inRange).1
        columns := fun someRow => (allRows 0 someRow).2.1
        written := fun dstRowIdx inRange => (allRows dstRowIdx inRange).2.2 }
    · intro resizable dstRowIdx inRange
      exact ⟨resizable.rows dstRowIdx inRange,
        resizable.columns (Nat.zero_lt_of_lt inRange),
        resizable.written dstRowIdx inRange⟩

/-- The function reports success only at its end. -/
theorem updateNearestNeighbor_ok_iff (valid : input.framebuffer.isValid) :
    (∃ writes, updateNearestNeighbor input = .ok (.ok, writes)) ↔ Resizable input := by
  rw [← run_ok_iff valid]
  rw [updateNearestNeighbor]
  cases run input with
  | ok writes => exact iff_of_true ⟨writes, rfl⟩ ⟨writes, rfl⟩
  | error exit =>
      apply iff_of_false _ nofun
      intro succeeded
      rcases succeeded with ⟨writes, succeeded⟩
      cases exit with
      | fault => cases succeeded
      | returned failure => exact failure.property (congrArg Prod.fst (Except.ok.inj succeeded))

end Rows

end PigweedExperimental.NearestNeighbor
