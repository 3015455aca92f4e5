import PigweedExperimental.Foundation.Loop
import PigweedExperimental.Framebuffer.Framebuffer
import PigweedExperimental.Status

namespace PigweedExperimental

/-! # `FramebufferReader` and `FramebufferWriter`

The writer is the reader with one more operation, so both are one structure:
a framebuffer that its constructor accepts, and the pixels it points to.
-/

structure FramebufferWriter where
  framebuffer : Framebuffer
  data : Array UInt16
  isRgb565 : framebuffer.pixelFormat = .rgb565
  isValid : framebuffer.isValid
  covered : framebuffer.size.width.toNat * framebuffer.size.height.toNat ≤ data.size

namespace FramebufferWriter

def width (writer : FramebufferWriter) : UInt16 := writer.framebuffer.size.width

def height (writer : FramebufferWriter) : UInt16 := writer.framebuffer.size.height

theorem width_congr {writer other : FramebufferWriter}
    (same : writer.framebuffer = other.framebuffer) : writer.width = other.width :=
  congrArg (fun framebuffer => framebuffer.size.width) same

theorem height_congr {writer other : FramebufferWriter}
    (same : writer.framebuffer = other.framebuffer) : writer.height = other.height :=
  congrArg (fun framebuffer => framebuffer.size.height) same

/-- `y * width + x`, the same in both accessors. -/
def index (writer : FramebufferWriter) (x y : Nat) : Nat := y * writer.width.toNat + x

theorem index_lt_area {writer : FramebufferWriter} {x y : Nat}
    (x_lt : x < writer.width.toNat) (y_lt : y < writer.height.toNat) :
    writer.index x y < writer.width.toNat * writer.height.toNat := by
  calc writer.index x y
    _ < y * writer.width.toNat + writer.width.toNat := Nat.add_lt_add_left x_lt _
    _ = writer.width.toNat * (y + 1) := by rw [Nat.mul_succ, Nat.mul_comm]
    _ ≤ writer.width.toNat * writer.height.toNat := Nat.mul_le_mul_left _ y_lt

theorem index_lt {writer : FramebufferWriter} {x y : Nat} (x_lt : x < writer.width.toNat)
    (y_lt : y < writer.height.toNat) : writer.index x y < writer.data.size :=
  Nat.lt_of_lt_of_le (index_lt_area x_lt y_lt) writer.covered

/-- The source computes the index as an `int`, which holds it when a row's two
bytes a pixel fit `row_bytes`. -/
theorem index_lt_intMax {writer : FramebufferWriter} {x y : Nat}
    (rowBytes_eq : writer.framebuffer.rowBytes.toNat = 2 * writer.width.toNat)
    (x_lt : x < writer.width.toNat) (y_lt : y < writer.height.toNat) :
    writer.index x y < 2 ^ 31 := by
  have rowBytes_lt := writer.framebuffer.rowBytes.toNat_lt
  have height_lt := writer.height.toNat_lt
  calc writer.index x y
    _ < writer.width.toNat * writer.height.toNat := index_lt_area x_lt y_lt
    _ ≤ 32767 * 65535 := Nat.mul_le_mul (by omega) (by omega)
    _ < 2 ^ 31 := by decide

def getPixel (writer : FramebufferWriter) (x y : UInt16) : Except Status UInt16 :=
  if inRange : x < writer.width ∧ y < writer.height then
    have inside := index_lt inRange.1 inRange.2
    .ok writer.data[writer.index x.toNat y.toNat]
  else
    .error .outOfRange

def setPixel (writer : FramebufferWriter) (x y : UInt16) (pixelValue : UInt16) :
    FramebufferWriter :=
  if inRange : x < writer.width ∧ y < writer.height then
    { writer with
      data := writer.data.set (writer.index x.toNat y.toNat) pixelValue
        (index_lt inRange.1 inRange.2)
      covered := by
        rw [Array.size_set]
        exact writer.covered }
  else
    writer

/-- The pixel at a place within the framebuffer. -/
def pixel (writer : FramebufferWriter) (x y : Nat) : UInt16 :=
  writer.data.getD (writer.index x y) 0

section Pixels

variable {writer : FramebufferWriter} {x y : Nat}

theorem index_injective {x' y' : Nat} (x_lt : x < writer.width.toNat)
    (x'_lt : x' < writer.width.toNat) :
    writer.index x y = writer.index x' y' ↔ x = x' ∧ y = y' := by
  constructor
  · intro same
    unfold index at same
    have rows : y = y' := by
      have left := Nat.add_mul_div_right x y (Nat.zero_lt_of_lt x_lt)
      have right := Nat.add_mul_div_right x' y' (Nat.zero_lt_of_lt x_lt)
      rw [Nat.div_eq_of_lt x_lt, Nat.add_comm x] at left
      rw [Nat.div_eq_of_lt x'_lt, Nat.add_comm x'] at right
      rw [same] at left
      omega
    subst rows
    exact ⟨Nat.add_left_cancel same, rfl⟩
  · intro both
    rw [both.1, both.2]

theorem getPixel_inside {x y : UInt16} (x_lt : x < writer.width)
    (y_lt : y < writer.height) :
    writer.getPixel x y = .ok (writer.pixel x.toNat y.toNat) := by
  have inRange := index_lt (UInt16.lt_iff_toNat_lt.mp x_lt) (UInt16.lt_iff_toNat_lt.mp y_lt)
  rw [getPixel, pixel]
  rw [dif_pos ⟨x_lt, y_lt⟩, Array.getD_eq_getD_getElem?, Array.getElem?_eq_getElem inRange]
  rfl

@[simp] theorem setPixel_framebuffer (writer : FramebufferWriter) (x y v : UInt16) :
    (writer.setPixel x y v).framebuffer = writer.framebuffer := by
  rw [setPixel]
  split <;> rfl

theorem setPixel_inside {x y v : UInt16} (x_lt : x < writer.width)
    (y_lt : y < writer.height) :
    (writer.setPixel x y v).data =
      writer.data.setIfInBounds (writer.index x.toNat y.toNat) v := by
  have inRange := index_lt (UInt16.lt_iff_toNat_lt.mp x_lt) (UInt16.lt_iff_toNat_lt.mp y_lt)
  rw [setPixel, dif_pos ⟨x_lt, y_lt⟩, Array.setIfInBounds, dif_pos inRange]

theorem pixel_setPixel {x' y' : UInt16} {v : UInt16} (x_lt : x < writer.width.toNat)
    (y_lt : y < writer.height.toNat) :
    (writer.setPixel x' y' v).pixel x y =
      if x = x'.toNat ∧ y = y'.toNat then v else writer.pixel x y := by
  rw [setPixel]
  split
  · rename_i inRange
    have x'_lt := UInt16.lt_iff_toNat_lt.mp inRange.1
    unfold pixel
    dsimp only
    rw [Array.getD_eq_getD_getElem?, Array.getElem?_set, Array.getD_eq_getD_getElem?]
    have atPlace : writer.index x'.toNat y'.toNat = writer.index x y ↔
        x = x'.toNat ∧ y = y'.toNat := by
      rw [index_injective x'_lt x_lt, eq_comm, @eq_comm _ y'.toNat]
    by_cases same : x = x'.toNat ∧ y = y'.toNat
    · rw [if_pos same]
      exact congrArg (Option.getD · 0) (if_pos (atPlace.mpr same))
    · rw [if_neg same]
      exact congrArg (Option.getD · 0) (if_neg fun atIndex => same (atPlace.mp atIndex))
  · rename_i outside
    rw [if_neg]
    intro same
    apply outside
    rw [same.1] at x_lt
    rw [same.2] at y_lt
    exact ⟨UInt16.lt_iff_toNat_lt.mpr x_lt, UInt16.lt_iff_toNat_lt.mpr y_lt⟩

end Pixels

end FramebufferWriter

end PigweedExperimental
