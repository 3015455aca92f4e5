import PigweedExperimental.Display.NearestNeighbor

namespace PigweedExperimental.NearestNeighbor

/-! # Row writes stay on the display

Whatever the sizes and wherever the resize stops, its row writes are pieces of
the display's rows.
-/

/-- A row write within a display of that size. -/
def Within (size : Size UInt16) (write : RowWrite) : Prop :=
  write.rowIdx.toNat < size.height.toNat ∧ 1 ≤ write.rowPixels.length ∧
    write.colIdx.toNat + write.rowPixels.length ≤ size.width.toNat

instance (size : Size UInt16) (write : RowWrite) : Decidable (Within size write) :=
  inferInstanceAs (Decidable (_ ∧ _))

/-- The function is left after a row write outside of the display. -/
def LeftOutside (size : Size UInt16) : Exit → Prop
  | .fault _ => False
  | .returned _ writes => ¬∀ write ∈ writes, Within size write

section Rows

variable {input : Input}

theorem yields_int (value : Int) {size : Size UInt16} :
    Yields (LeftOutside size) (fun _ => True) (int value) := by
  rw [int]
  split
  · exact .ok trivial
  · exact .error id

theorem yields_pwAssert {condition : Prop} [Decidable condition] {size : Size UInt16} :
    Yields (LeftOutside size) (fun _ => True) (pwAssert condition) := by
  rw [pwAssert]
  split
  · exact .ok trivial
  · exact .error id

theorem yields_sourceIdx (dstIdx : Nat) (srcCount dstCount : UInt16) {size : Size UInt16} :
    Yields (LeftOutside size) (fun _ => True) (sourceIdx dstIdx srcCount dstCount) := by
  apply (yields_int _).bind
  intro product _
  have divided : Yields (LeftOutside size) (fun _ => True)
      (intDiv product (dstCount.toNat - 1)) := by
    rw [intDiv]
    split
    · exact .error id
    · exact .ok trivial
  apply divided.bind
  intro srcIdx _
  apply yields_pwAssert.bind
  intro _ _
  apply yields_pwAssert.bind
  intro _ _
  exact .ok trivial

/-- The buffer goes to the display if it holds pixels of one of its rows. -/
theorem yields_flush {row : Nat} {progress : Progress} (inRows : row < input.size.height.toNat)
    (some : 1 ≤ progress.resizeBuffer.length)
    (inColumns : progress.dstColWriteIdx + progress.resizeBuffer.length ≤ input.size.width.toNat)
    (earlier : ∀ write ∈ progress.writes, Within input.size write) :
    Yields (LeftOutside input.size) (fun writes => ∀ write ∈ writes, Within input.size write)
      (flush input row progress) := by
  have height_lt : input.size.height.toNat < 2 ^ 16 := input.size.height.toNat_lt
  have width_lt : input.size.width.toNat < 2 ^ 16 := input.size.width.toNat_lt
  have within : Within input.size
      ⟨progress.resizeBuffer, .ofNat row, .ofNat progress.dstColWriteIdx⟩ := by
    have columnIdx_lt : progress.dstColWriteIdx < 2 ^ 16 := by omega
    have rowIdx_eq := UInt16.toNat_ofNat_of_lt' (Nat.lt_trans inRows height_lt)
    have colIdx_eq := UInt16.toNat_ofNat_of_lt' columnIdx_lt
    refine ⟨?_, some, ?_⟩
    · dsimp only
      rw [rowIdx_eq]
      exact inRows
    · dsimp only
      rw [colIdx_eq]
      exact inColumns
  have all : ∀ write ∈ progress.writes ++
      [⟨progress.resizeBuffer, .ofNat row, .ofNat progress.dstColWriteIdx⟩],
      Within input.size write :=
    List.forall_mem_append.mpr ⟨earlier, List.forall_mem_singleton.mpr within⟩
  rw [flush]
  dsimp only
  split
  · exact .ok all
  · exact .error (not_not.mpr all)

/-- The columns so far are written or in the buffer. -/
structure InColumn (input : Input) (column : Nat) (progress : Progress) : Prop where
  columns : progress.dstColWriteIdx + progress.resizeBuffer.length = column
  within : ∀ write ∈ progress.writes, Within input.size write

theorem yields_flushIfFull {row column : Nat} {progress : Progress}
    (inRows : row < input.size.height.toNat) (inColumns : column ≤ input.size.width.toNat)
    (inColumn : InColumn input column progress) :
    Yields (LeftOutside input.size) (InColumn input column) (flushIfFull input row progress) := by
  have columns := inColumn.columns
  rw [flushIfFull]
  split
  case isTrue full =>
    have some : 1 ≤ progress.resizeBuffer.length := by
      rw [full]
      decide
    have flushed := yields_flush inRows some (by omega) inColumn.within
    rw [full] at columns
    cases result : flush input row progress with
    | error exit =>
        rw [result] at flushed
        exact .error (avoids_error_iff.mp flushed.avoids)
    | ok writes => exact .ok ⟨columns, flushed.holds writes result⟩
  case isFalse notFull => exact .ok inColumn

theorem yields_columnBody {row column : Nat} {srcRowIdx : Int} {progress : Progress}
    (inRows : row < input.size.height.toNat) (inColumns : column < input.size.width.toNat)
    (inColumn : InColumn input column progress) :
    Yields (LeftOutside input.size) (InColumn input (column + 1))
      (columnBody input row srcRowIdx column progress) := by
  have columns := inColumn.columns
  apply (yields_sourceIdx _ _ _).bind
  intro srcColIdx _
  apply (yields_int _).bind
  intro rowStart _
  apply (yields_int _).bind
  intro srcPixelIdx _
  apply yields_flushIfFull inRows inColumns
  refine ⟨?_, inColumn.within⟩
  rw [List.length_append, ← Nat.add_assoc, columns]
  rfl

theorem yields_rowBody {row : Nat} {writes : List RowWrite}
    (inRows : row < input.size.height.toNat)
    (earlier : ∀ write ∈ writes, Within input.size write) :
    Yields (LeftOutside input.size) (fun writes => ∀ write ∈ writes, Within input.size write)
      (rowBody input row writes) := by
  apply (yields_sourceIdx _ _ _).bind
  intro srcRowIdx _
  have columns := @Yields.forUp _ _ (LeftOutside input.size) (InColumn input)
    input.size.width.toNat (columnBody input row srcRowIdx)
    { resizeBuffer := [], dstColWriteIdx := 0, writes } ⟨rfl, earlier⟩
    (fun column progress => yields_columnBody inRows)
  apply columns.bind
  intro progress inColumn
  rw [flushRest]
  split
  case isTrue some =>
    exact yields_flush inRows (List.length_pos_iff.mpr some) (Nat.le_of_eq inColumn.columns)
      inColumn.within
  case isFalse nothing => exact .ok inColumn.within

theorem yields_run (input : Input) :
    Yields (LeftOutside input.size) (fun writes => ∀ write ∈ writes, Within input.size write)
      (run input) := by
  apply yields_pwAssert.bind
  intro _ _
  split
  · exact .error (not_not.mpr nofun)
  · apply Yields.forUp (fun _ writes => ∀ write ∈ writes, Within input.size write)
    · exact nofun
    · intro row writes inRows earlier
      exact yields_rowBody inRows earlier

/-- Every row write of the resize is within the display. -/
theorem updateNearestNeighbor_within {status : Status} {writes : List RowWrite}
    (updated : updateNearestNeighbor input = .ok (status, writes)) :
    ∀ write ∈ writes, Within input.size write := by
  have ran := yields_run input
  rw [updateNearestNeighbor] at updated
  split at updated
  case h_1 all done =>
    cases updated
    exact ran.holds writes done
  case h_2 failure all stopped =>
    cases updated
    exact not_not.mp (ran.avoids _ stopped)
  case h_3 fault stopped => cases updated

end Rows

end PigweedExperimental.NearestNeighbor
