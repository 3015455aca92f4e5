import PigweedExperimental.Display.Resizable
import PigweedExperimental.Framebuffer.FramebufferWriter

namespace PigweedExperimental.NearestNeighbor

/-! # Two strides

The accessors of a framebuffer find a pixel by the framebuffer's width, the
resize by its `row_bytes`.
-/

/-- The 16-bit word at byte offset `y * row_bytes + 2 * x`. -/
def wordIndex (framebuffer : Framebuffer) (x y : Nat) : Nat :=
  (y * framebuffer.rowBytes.toNat + 2 * x) / 2

/-- The memory holds all rows, with their padding. -/
def HoldsRows (writer : FramebufferWriter) : Prop :=
  writer.height.toNat * (writer.framebuffer.rowBytes.toNat / 2) ≤ writer.data.size

/-- A column that samples a place puts the value into the resize buffer. -/
def Samples (input : Input) (x y : UInt16) (value : UInt16) : Prop :=
  ∀ dstRowIdx dstColIdx progress,
    sourceIdx dstColIdx input.framebuffer.size.width input.size.width = .ok x.toNat →
    columnBody input dstRowIdx y.toNat dstColIdx progress =
      flushIfFull input dstRowIdx { progress with
        resizeBuffer := progress.resizeBuffer ++ [value] }

/-- All accesses to a pixel are to the same word of any memory: what is drawn is
what the resize shows. -/
structure StridesAgree (framebuffer : Framebuffer) (x y : UInt16) : Prop where
  read : ∀ writer : FramebufferWriter, writer.framebuffer = framebuffer → HoldsRows writer →
    writer.getPixel x y = .ok (writer.data.getD (wordIndex framebuffer x.toNat y.toNat) 0)
  written : ∀ (writer : FramebufferWriter) (pixelValue : UInt16),
    writer.framebuffer = framebuffer → HoldsRows writer →
    (writer.setPixel x y pixelValue).data =
      writer.data.setIfInBounds (wordIndex framebuffer x.toNat y.toNat) pixelValue
  sampled : ∀ input : Input, input.framebuffer = framebuffer →
    Samples input x y (input.fbdata (wordIndex framebuffer x.toNat y.toNat))
  shown : ∀ (writer : FramebufferWriter) (pixelValue : UInt16) (input : Input),
    writer.framebuffer = framebuffer → HoldsRows writer → input.framebuffer = framebuffer →
    (∀ index, input.fbdata index = (writer.setPixel x y pixelValue).data.getD index 0) →
    Samples input x y pixelValue

section Strides

variable {framebuffer : Framebuffer} {x y : UInt16}

/-- Rows of whole words start at whole words. -/
theorem wordIndex_eq (even : framebuffer.rowBytes.toNat % 2 = 0) (x y : Nat) :
    wordIndex framebuffer x y = y * (framebuffer.rowBytes.toNat / 2) + x := by
  have bytes : framebuffer.rowBytes.toNat = 2 * (framebuffer.rowBytes.toNat / 2) := by omega
  calc wordIndex framebuffer x y
    _ = (2 * (y * (framebuffer.rowBytes.toNat / 2) + x)) / 2 := by
        rw [wordIndex, Nat.mul_add, Nat.mul_left_comm, ← bytes]
    _ = y * (framebuffer.rowBytes.toNat / 2) + x := Nat.mul_div_cancel_left _ Nat.two_pos

/-- The resize goes by `row_bytes`, whatever the padding. -/
theorem samples_word (even : framebuffer.rowBytes.toNat % 2 = 0)
    (x_lt : x < framebuffer.size.width) (y_lt : y < framebuffer.size.height) {input : Input}
    (isInput : input.framebuffer = framebuffer) :
    Samples input x y (input.fbdata (wordIndex framebuffer x.toNat y.toNat)) := by
  subst isInput
  intro dstRowIdx dstColIdx progress column
  have x_lt' := UInt16.lt_iff_toNat_lt.mp x_lt
  have y_lt' := UInt16.lt_iff_toNat_lt.mp y_lt
  have width_lt := input.framebuffer.size.width.toNat_lt
  have height_lt := input.framebuffer.size.height.toNat_lt
  have bytes_lt := input.framebuffer.rowBytes.toNat_lt
  have limit : -intMax - 1 ≤ 0 := by decide
  have fits := @pixelIdx_fits y.toNat (input.framebuffer.rowBytes.toNat / 2 : Nat) x.toNat
    (by omega) (by omega) (by omega)
  have rowStart : int (y.toNat * (input.framebuffer.rowBytes.toNat / 2 : Nat)) =
      .ok (y.toNat * (input.framebuffer.rowBytes.toNat / 2 : Nat) : Int) :=
    int_eq_ok.mpr ⟨rfl, by omega, fits.1.2⟩
  have pixelIdx : int (y.toNat * (input.framebuffer.rowBytes.toNat / 2 : Nat) + x.toNat) =
      .ok (y.toNat * (input.framebuffer.rowBytes.toNat / 2 : Nat) + x.toNat : Int) :=
    int_eq_ok.mpr ⟨rfl, by omega, fits.2.2⟩
  rw [wordIndex_eq even]
  simp only [columnBody, column, rowStart, pixelIdx, bind, Except.bind]
  rfl

/-- The word is in memory, since a row has room for its pixels. -/
theorem wordIndex_lt {writer : FramebufferWriter} (holdsRows : HoldsRows writer)
    (even : writer.framebuffer.rowBytes.toNat % 2 = 0)
    (room : 2 * writer.width.toNat ≤ writer.framebuffer.rowBytes.toNat)
    (x_lt : x < writer.width) (y_lt : y < writer.height) :
    wordIndex writer.framebuffer x.toNat y.toNat < writer.data.size := by
  have x_lt' := UInt16.lt_iff_toNat_lt.mp x_lt
  have y_lt' := UInt16.lt_iff_toNat_lt.mp y_lt
  rw [wordIndex_eq even]
  calc y.toNat * (writer.framebuffer.rowBytes.toNat / 2) + x.toNat
    _ < y.toNat * (writer.framebuffer.rowBytes.toNat / 2) +
        writer.framebuffer.rowBytes.toNat / 2 := by omega
    _ = (y.toNat + 1) * (writer.framebuffer.rowBytes.toNat / 2) := (Nat.succ_mul _ _).symm
    _ ≤ writer.height.toNat * (writer.framebuffer.rowBytes.toNat / 2) :=
        Nat.mul_le_mul_right _ y_lt'
    _ ≤ writer.data.size := holdsRows

/-- The strides agree where both find the same word. -/
theorem stridesAgree_of_index_eq (even : framebuffer.rowBytes.toNat % 2 = 0)
    (room : 2 * framebuffer.size.width.toNat ≤ framebuffer.rowBytes.toNat)
    (x_lt : x < framebuffer.size.width) (y_lt : y < framebuffer.size.height)
    (sameWord : y.toNat * framebuffer.size.width.toNat + x.toNat =
      wordIndex framebuffer x.toNat y.toNat) : StridesAgree framebuffer x y := by
  have written (writer : FramebufferWriter) (pixelValue : UInt16)
      (isFramebuffer : writer.framebuffer = framebuffer) :
      (writer.setPixel x y pixelValue).data =
        writer.data.setIfInBounds (wordIndex framebuffer x.toNat y.toNat) pixelValue := by
    subst isFramebuffer
    rw [FramebufferWriter.setPixel_inside x_lt y_lt, ← sameWord]
    rfl
  constructor
  case read =>
    intro writer isFramebuffer _
    subst isFramebuffer
    rw [FramebufferWriter.getPixel_inside x_lt y_lt, FramebufferWriter.pixel, ← sameWord]
    rfl
  case written =>
    intro writer pixelValue isFramebuffer _
    exact written writer pixelValue isFramebuffer
  case sampled =>
    intro input isInput
    exact samples_word even x_lt y_lt isInput
  case shown =>
    intro writer pixelValue input isFramebuffer holdsRows isInput memory
    have sampled := samples_word even x_lt y_lt isInput
    subst isFramebuffer
    have inside := wordIndex_lt holdsRows even room x_lt y_lt
    rw [memory, written writer pixelValue rfl, Array.getD_eq_getD_getElem?,
      Array.getElem?_setIfInBounds_self_of_lt inside] at sampled
    exact sampled

/-- Memory for all rows, with a mark at one word. -/
def marked (framebuffer : Framebuffer) (isRgb565 : framebuffer.pixelFormat = .rgb565)
    (isValid : framebuffer.isValid)
    (room : 2 * framebuffer.size.width.toNat ≤ framebuffer.rowBytes.toNat) (index : Nat) :
    FramebufferWriter where
  framebuffer := framebuffer
  data := (Array.replicate (framebuffer.size.height.toNat * (framebuffer.rowBytes.toNat / 2))
    0).setIfInBounds index 1
  isRgb565 := isRgb565
  isValid := isValid
  covered := by
    rw [Array.size_setIfInBounds, Array.size_replicate, Nat.mul_comm]
    exact Nat.mul_le_mul_left _ (by omega)

/-- Where a read of any memory comes from the word, the pixel is that word. -/
theorem StridesAgree.index_eq (agree : StridesAgree framebuffer x y)
    (isRgb565 : framebuffer.pixelFormat = .rgb565) (isValid : framebuffer.isValid)
    (room : 2 * framebuffer.size.width.toNat ≤ framebuffer.rowBytes.toNat)
    (x_lt : x < framebuffer.size.width) (y_lt : y < framebuffer.size.height) :
    wordIndex framebuffer x.toNat y.toNat =
      y.toNat * framebuffer.size.width.toNat + x.toNat := by
  let writer := marked framebuffer isRgb565 isValid room
    (y.toNat * framebuffer.size.width.toNat + x.toNat)
  have size_eq : writer.data.size =
      framebuffer.size.height.toNat * (framebuffer.rowBytes.toNat / 2) := by
    dsimp only [writer, marked]
    rw [Array.size_setIfInBounds, Array.size_replicate]
  have inside : writer.index x.toNat y.toNat < writer.data.size :=
    FramebufferWriter.index_lt (UInt16.lt_iff_toNat_lt.mp x_lt) (UInt16.lt_iff_toNat_lt.mp y_lt)
  have isMark : writer.pixel x.toNat y.toNat = 1 := by
    dsimp only [writer, marked, FramebufferWriter.pixel] at inside ⊢
    rw [Array.size_setIfInBounds] at inside
    rw [Array.getD_eq_getD_getElem?]
    exact congrArg (Option.getD · 0) (Array.getElem?_setIfInBounds_self_of_lt inside)
  have read := agree.read writer rfl (Nat.le_of_eq size_eq.symm)
  rw [FramebufferWriter.getPixel_inside x_lt y_lt, isMark] at read
  by_contra another
  -- elsewhere the memory is zero
  have isZero : writer.data.getD (wordIndex framebuffer x.toNat y.toNat) 0 = 0 := by
    dsimp only [writer, marked]
    rw [Array.getD_eq_getD_getElem?, Array.getElem?_setIfInBounds_ne (Ne.symm another),
      Array.getElem?_replicate]
    split <;> rfl
  rw [isZero] at read
  cases read

/-- The strides agree in the first row, and without padding. -/
theorem stridesAgree_iff (isRgb565 : framebuffer.pixelFormat = .rgb565)
    (isValid : framebuffer.isValid) (even : framebuffer.rowBytes.toNat % 2 = 0)
    (room : 2 * framebuffer.size.width.toNat ≤ framebuffer.rowBytes.toNat)
    (x_lt : x < framebuffer.size.width) (y_lt : y < framebuffer.size.height) :
    StridesAgree framebuffer x y ↔
      y = 0 ∨ framebuffer.rowBytes.toNat = 2 * framebuffer.size.width.toNat := by
  constructor
  · intro agree
    have sameWord := agree.index_eq isRgb565 isValid room x_lt y_lt
    rw [wordIndex_eq even] at sameWord
    have sameRow := Nat.add_right_cancel sameWord
    by_cases firstRow : y = 0
    · exact .inl firstRow
    · have later : 0 < y.toNat := Nat.pos_of_ne_zero fun zero =>
        firstRow (UInt16.toNat_inj.mp zero)
      have sameStride := Nat.eq_of_mul_eq_mul_left later sameRow
      right
      omega
  · intro noPadding
    apply stridesAgree_of_index_eq even room x_lt y_lt
    rw [wordIndex_eq even]
    rcases noPadding with firstRow | fits
    · rw [firstRow, UInt16.toNat_zero, Nat.zero_mul, Nat.zero_mul]
    · rw [fits, Nat.mul_div_cancel_left _ Nat.two_pos]

theorem stridesAgree_iff_unpadded :
    StridesAgree ⟨1, .rgb565, ⟨3, 2⟩, 6⟩ 1 1 ↔ (1 : UInt16) = 0 ∨ 6 = 2 * 3 :=
  @stridesAgree_iff ⟨1, .rgb565, ⟨3, 2⟩, 6⟩ 1 1 rfl rfl rfl (by decide) (by decide) (by decide)

/-- One pixel and as much padding in each of two rows. -/
theorem padded_disagree : ¬StridesAgree ⟨1, .rgb565, ⟨1, 2⟩, 4⟩ 0 1 := by
  intro agree
  have sameWord := agree.index_eq rfl rfl (by decide) (by decide) (by decide)
  revert sameWord
  decide

end Strides

end PigweedExperimental.NearestNeighbor
