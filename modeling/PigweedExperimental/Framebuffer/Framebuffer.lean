namespace PigweedExperimental

/-! Framebuffer handles. A handle names a pixel buffer by its address and does
not own the memory; what the memory holds is modelled where pixels are read or
written. -/

/-- `pw::math::Size`. -/
structure Size (T : Type u) where
  width : T
  height : T
  deriving DecidableEq, Repr

/-- `pw::math::Vector2`. -/
structure Vector2 (T : Type u) where
  x : T
  y : T
  deriving DecidableEq, Repr

/-- The value of a `void*`. -/
abbrev Address := Nat

abbrev nullptr : Address := 0

inductive PixelFormat where
  | none
  | rgb565
  deriving DecidableEq, Repr

structure Framebuffer where
  pixelData : Address
  pixelFormat : PixelFormat
  size : Size UInt16
  rowBytes : UInt16
  deriving DecidableEq, Repr

namespace Framebuffer

/-- The default constructor: an invalid framebuffer. -/
def invalid : Framebuffer where
  pixelData := nullptr
  pixelFormat := .none
  size := ⟨0, 0⟩
  rowBytes := 0

/-- The constructor over an existing buffer, with its two assertions. -/
def create (data : Address) (pixelFormat : PixelFormat) (size : Size UInt16)
    (rowBytes : UInt16) : Option Framebuffer :=
  if data ≠ nullptr ∧ pixelFormat ≠ .none then
    some ⟨data, pixelFormat, size, rowBytes⟩
  else
    none

def isValid (framebuffer : Framebuffer) : Bool :=
  framebuffer.pixelData ≠ nullptr

/-- What is left of a framebuffer after a move from it: its size, but no pixels. -/
def movedFrom (framebuffer : Framebuffer) : Framebuffer :=
  { framebuffer with pixelData := nullptr, pixelFormat := .none }

theorem create_eq_some {data : Address} {pixelFormat : PixelFormat}
    {size : Size UInt16} {rowBytes : UInt16} {framebuffer : Framebuffer}
    (created : create data pixelFormat size rowBytes = some framebuffer) :
    framebuffer = ⟨data, pixelFormat, size, rowBytes⟩ ∧ framebuffer.isValid := by
  rw [create] at created
  split at created
  · rename_i arguments
    cases created
    exact ⟨rfl, by simpa [isValid] using arguments.1⟩
  · cases created

end Framebuffer

end PigweedExperimental
