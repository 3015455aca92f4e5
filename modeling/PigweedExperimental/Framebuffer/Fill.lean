import PigweedExperimental.Framebuffer.FramebufferWriter

namespace PigweedExperimental.FramebufferWriter

/-! # `Fill`

The one operation of the writer that goes over the memory and not over places.
-/

/-- `data[i] = pixel_value` for the first `count` pixels. -/
def fillData (data : Array UInt16) (pixelValue : UInt16) (count : Nat) : Array UInt16 :=
  count.fold (fun index _ data => data.setIfInBounds index pixelValue) data

section Data

variable {data : Array UInt16} {pixelValue : UInt16} {count : Nat}

@[simp] theorem size_fillData : (fillData data pixelValue count).size = data.size := by
  apply fold_invariant fun _ (filled : Array UInt16) => filled.size = data.size
  · rfl
  · intro index _ current same
    rw [Array.size_setIfInBounds, same]

theorem getElem?_fillData (covered : count ≤ data.size) (index : Nat) :
    (fillData data pixelValue count)[index]? =
      if index < count then some pixelValue else data[index]? := by
  let invariant (count : Nat) (filled : Array UInt16) : Prop :=
    filled.size = data.size ∧
      filled[index]? = if index < count then some pixelValue else data[index]?
  have filled : invariant count (fillData data pixelValue count) := by
    apply fold_invariant invariant
    · exact ⟨rfl, rfl⟩
    · intro current inRange filled holds
      refine ⟨by rw [Array.size_setIfInBounds, holds.1], ?_⟩
      rw [Array.getElem?_setIfInBounds, holds.1, holds.2]
      split_ifs <;> first | rfl | omega
  exact filled.2

end Data

def fill (writer : FramebufferWriter) (pixelValue : UInt16) : FramebufferWriter :=
  { writer with
    data := fillData writer.data pixelValue (writer.width.toNat * writer.height.toNat)
    covered := by
      rw [size_fillData]
      exact writer.covered }

variable {writer : FramebufferWriter} {pixelValue : UInt16}

/-- Every pixel of the framebuffer gets the color. -/
theorem pixel_fill {x y : Nat} (x_lt : x < writer.width.toNat) (y_lt : y < writer.height.toNat) :
    (writer.fill pixelValue).pixel x y = pixelValue := by
  have inside : (writer.fill pixelValue).index x y <
      writer.width.toNat * writer.height.toNat := index_lt_area x_lt y_lt
  have read := @getElem?_fillData writer.data pixelValue
    (writer.width.toNat * writer.height.toNat) writer.covered
    ((writer.fill pixelValue).index x y)
  rw [if_pos inside] at read
  rw [pixel, Array.getD_eq_getD_getElem?]
  exact congrArg (Option.getD · 0) read

/-- What lies behind the framebuffer's pixels is kept. -/
theorem data_fill {index : Nat} (behind : writer.width.toNat * writer.height.toNat ≤ index) :
    (writer.fill pixelValue).data[index]? = writer.data[index]? := by
  have read := @getElem?_fillData writer.data pixelValue
    (writer.width.toNat * writer.height.toNat) writer.covered index
  rw [if_neg (Nat.not_lt.mpr behind)] at read
  exact read

end PigweedExperimental.FramebufferWriter
