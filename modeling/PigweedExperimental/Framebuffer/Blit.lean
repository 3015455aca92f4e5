import PigweedExperimental.Draw.Painting

namespace PigweedExperimental

/-! # `FramebufferWriter::Blit`

A source framebuffer is copied to an offset. The offset may be negative: it is passed
in 16 bits without a sign, and the places that it leads to wrap around in `SetPixel`.
-/

namespace FramebufferWriter

/-- The source is another buffer, so that the copying does not change it. -/
def blit (writer reader : FramebufferWriter) (x y : UInt16) : FramebufferWriter :=
  forRange 0 reader.width.toNat (fun currentX _ column =>
    forRange 0 reader.height.toNat (fun currentY _ writer =>
      match reader.getPixel (.ofInt currentX) (.ofInt currentY) with
      | .ok pixelColor =>
          writer.setPixel (.ofInt (x.toNat + currentX)) (.ofInt (y.toNat + currentY)) pixelColor
      | .error _ => writer) column) writer

section Blit

open Draw

variable {writer reader : FramebufferWriter} {x y : UInt16}

/-- What is copied to a place, whatever the offset wraps to. -/
def blitColor (reader : FramebufferWriter) (x y : UInt16) (px py : Int) : UInt16 :=
  reader.pixel ((px - x.toNat) % 65536).toNat ((py - y.toNat) % 65536).toNat

theorem paints_blitPixel {current : FramebufferWriter} {currentX currentY : Int}
    (inWidth : 0 ≤ currentX ∧ currentX < reader.width.toNat)
    (inHeight : 0 ≤ currentY ∧ currentY < reader.height.toNat) :
    Paints (fun px py => px = (x.toNat + currentX) % 65536 ∧ py = (y.toNat + currentY) % 65536)
      (blitColor reader x y) current
      (match reader.getPixel (.ofInt currentX) (.ofInt currentY) with
      | .ok pixelColor =>
          current.setPixel (.ofInt (x.toNat + currentX)) (.ofInt (y.toNat + currentY)) pixelColor
      | .error _ => current) := by
  have width_lt := reader.width.toNat_lt
  have height_lt := reader.height.toNat_lt
  have x_eq : (UInt16.ofInt currentX).toNat = currentX.toNat := by
    have := toNat_ofInt currentX
    omega
  have y_eq : (UInt16.ofInt currentY).toNat = currentY.toNat := by
    have := toNat_ofInt currentY
    omega
  rw [getPixel_inside (UInt16.lt_iff_toNat_lt.mpr (by omega))
    (UInt16.lt_iff_toNat_lt.mpr (by omega)), x_eq, y_eq]
  apply paints_setPixel
  rw [blitColor]
  congr 1
  · omega
  · omega

theorem blit_paints (writer reader : FramebufferWriter) (x y : UInt16) :
    Paints (fun px py => ∃ currentX : Int, (0 ≤ currentX ∧ currentX < reader.width.toNat) ∧
        ∃ currentY : Int, (0 ≤ currentY ∧ currentY < reader.height.toNat) ∧
          px = (x.toNat + currentX) % 65536 ∧ py = (y.toNat + currentY) % 65536)
      (blitColor reader x y) writer (writer.blit reader x y) := by
  apply forRange_paints
  intro currentX inWidth column _
  apply forRange_paints
  intro currentY inHeight current _
  exact paints_blitPixel inWidth inHeight

/-- Where a place wraps around, it is beyond both framebuffers' sizes. -/
theorem wrapped_iff {offset place size : Int} (offset_range : -32768 ≤ offset ∧ offset ≤ 32767)
    (place_range : 0 ≤ place ∧ place < 32767) (size_le : size ≤ 32767) :
    (∃ current : Int, (0 ≤ current ∧ current < size) ∧
        place = (((UInt16.ofInt offset).toNat : Int) + current) % 65536) ↔
      0 ≤ place - offset ∧ place - offset < size := by
  have passed := toNat_ofInt offset
  constructor
  · rintro ⟨current, inSize, wrapped⟩
    omega
  · intro inSize
    exact ⟨place - offset, inSize, by omega⟩

/-- A signed offset is passed so that the source ends up there. -/
theorem blit_paints_offset (writerWidth : writer.width.toNat ≤ 32767)
    (writerHeight : writer.height.toNat ≤ 32767) (readerWidth : reader.width.toNat ≤ 32767)
    (readerHeight : reader.height.toNat ≤ 32767) {ox oy : Int}
    (ox_range : -32768 ≤ ox ∧ ox ≤ 32767) (oy_range : -32768 ≤ oy ∧ oy ≤ 32767) :
    Paints (fun px py => (0 ≤ px - ox ∧ px - ox < reader.width.toNat) ∧
        0 ≤ py - oy ∧ py - oy < reader.height.toNat)
      (blitColor reader (.ofInt ox) (.ofInt oy)) writer
      (writer.blit reader (.ofInt ox) (.ofInt oy)) := by
  apply (blit_paints writer reader (.ofInt ox) (.ofInt oy)).congr
  intro px py px_lt py_lt
  have columns := @wrapped_iff ox px reader.width.toNat ox_range (by omega) (by omega)
  have rows := @wrapped_iff oy py reader.height.toNat oy_range (by omega) (by omega)
  rw [← columns, ← rows]
  constructor
  · rintro ⟨currentX, inWidth, currentY, inHeight, atX, atY⟩
    exact ⟨⟨currentX, inWidth, atX⟩, currentY, inHeight, atY⟩
  · rintro ⟨⟨currentX, inWidth, atX⟩, currentY, inHeight, atY⟩
    exact ⟨currentX, inWidth, currentY, inHeight, atX, atY⟩

/-- Both accessors compute the index of a pixel only within its framebuffer. -/
theorem index_inside (width_le : writer.width.toNat ≤ 32767)
    (height_le : writer.height.toNat ≤ 32767) {x y : UInt16} (x_lt : x < writer.width)
    (y_lt : y < writer.height) :
    writer.index x.toNat y.toNat < writer.width.toNat * writer.height.toNat ∧
      writer.index x.toNat y.toNat < 2 ^ 31 := by
  have inside := @index_lt_area writer _ _ (UInt16.lt_iff_toNat_lt.mp x_lt)
    (UInt16.lt_iff_toNat_lt.mp y_lt)
  refine ⟨inside, ?_⟩
  calc writer.index x.toNat y.toNat
    _ < writer.width.toNat * writer.height.toNat := inside
    _ ≤ 32767 * 32767 := Nat.mul_le_mul width_le height_le
    _ < 2 ^ 31 := by decide

/-- `Blit` copies the part of the source that its offset leaves within the
framebuffer, and accesses no pixel outside of either buffer. -/
theorem blit_copies (writerWidth : writer.width.toNat ≤ 32767)
    (writerHeight : writer.height.toNat ≤ 32767) (readerWidth : reader.width.toNat ≤ 32767)
    (readerHeight : reader.height.toNat ≤ 32767) {ox oy : Int}
    (ox_range : -32768 ≤ ox ∧ ox ≤ 32767) (oy_range : -32768 ≤ oy ∧ oy ≤ 32767) :
    (∀ dx dy : Nat, dx < writer.width.toNat → dy < writer.height.toNat →
      (writer.blit reader (.ofInt ox) (.ofInt oy)).pixel dx dy =
        if (0 ≤ dx - ox ∧ dx - ox < reader.width.toNat) ∧
            0 ≤ dy - oy ∧ dy - oy < reader.height.toNat then
          reader.pixel (dx - ox).toNat (dy - oy).toNat
        else
          writer.pixel dx dy) ∧
    (∀ accessed ∈ [writer, reader], ∀ x y : UInt16, x < accessed.width → y < accessed.height →
      accessed.index x.toNat y.toNat < accessed.width.toNat * accessed.height.toNat ∧
        accessed.index x.toNat y.toNat < 2 ^ 31) := by
  have painted := @blit_paints_offset writer reader writerWidth writerHeight readerWidth
    readerHeight ox oy ox_range oy_range
  have passedX := toNat_ofInt ox
  have passedY := toNat_ofInt oy
  constructor
  · intro dx dy dx_lt dy_lt
    split
    · rename_i inside
      rw [painted.inside dx dy dx_lt dy_lt inside, blitColor]
      congr 1
      · omega
      · omega
    · rename_i outside
      exact painted.outside dx dy dx_lt dy_lt outside
  · intro accessed isAccessed x y x_lt y_lt
    simp only [List.mem_cons, List.not_mem_nil, or_false] at isAccessed
    rcases isAccessed with rfl | rfl
    · exact index_inside writerWidth writerHeight x_lt y_lt
    · exact index_inside readerWidth readerHeight x_lt y_lt

/-- A framebuffer of two pixels, side by side. -/
def twoPixels (before : Address) (left right : UInt16) : FramebufferWriter where
  framebuffer := ⟨before + 1, .rgb565, ⟨2, 1⟩, 4⟩
  data := #[left, right]
  isRgb565 := rfl
  isValid := decide_eq_true (Nat.succ_ne_zero before)
  covered := Nat.le_refl 2

theorem blit_copies_twoPixels :
    ((twoPixels 15 1 2).blit (twoPixels 31 3 4) (.ofInt (-1)) (.ofInt 0)).pixel 0 0 = 4 :=
  (@blit_copies (twoPixels 15 1 2) (twoPixels 31 3 4) (by decide) (by decide) (by decide)
    (by decide) (-1) 0 (by decide) (by decide)).1 0 0 (by decide) (by decide)

end Blit

end FramebufferWriter

end PigweedExperimental
