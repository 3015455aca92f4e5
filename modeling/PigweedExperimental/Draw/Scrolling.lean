import PigweedExperimental.Draw.TextArea

namespace PigweedExperimental.Draw

/-! # Scrolling a text area

`ScrollUp` copies the pixels in place. It never reads one that it has already
written, so that scrolling in parts is the same as scrolling at once.
-/

namespace TextArea

variable {area : TextArea} {x y : Nat}

theorem scrollUp_framebuffer (area : TextArea) (lines : Nat) :
    (area.scrollUp lines).framebuffer.framebuffer = area.framebuffer.framebuffer :=
  (scrollUp_paints (Int.natCast_nonneg lines)).framebuffer_eq

/-- A pixel is what was so many lines below it, or background. -/
theorem pixel_scrollUp (lines : Nat) (x_lt : x < area.framebuffer.width.toNat)
    (y_lt : y < area.framebuffer.height.toNat) :
    (area.scrollUp lines).framebuffer.pixel x y =
      if y + lines * area.currentFont.height.toNat < area.framebuffer.height.toNat then
        area.framebuffer.pixel x (y + lines * area.currentFont.height.toNat)
      else
        area.backgroundColor := by
  have painted := @scrollUp_paints area lines (Int.natCast_nonneg lines)
  rw [painted.inside x y x_lt y_lt trivial]
  rw [← Nat.cast_mul, ← Nat.cast_add, Int.toNat_natCast, Int.toNat_natCast]
  simp only [Nat.cast_lt]

/-- Scrolling moves every pixel up by whole lines, and scrolling twice moves them
by the lines together. -/
theorem scrollUp_scrolls (area : TextArea) (first second : Nat) :
    (∀ x y : Nat, x < area.framebuffer.width.toNat → y < area.framebuffer.height.toNat →
      (area.scrollUp first).framebuffer.pixel x y =
        if y + first * area.currentFont.height.toNat < area.framebuffer.height.toNat then
          area.framebuffer.pixel x (y + first * area.currentFont.height.toNat)
        else
          area.backgroundColor) ∧
    (let parts := (area.scrollUp first).scrollUp second
    let whole := area.scrollUp (first + second : Nat)
    parts.framebuffer.framebuffer = whole.framebuffer.framebuffer ∧
      (∀ x y : Nat, x < area.framebuffer.width.toNat → y < area.framebuffer.height.toNat →
        parts.framebuffer.pixel x y = whole.framebuffer.pixel x y) ∧
      { parts with framebuffer := whole.framebuffer } = whole) := by
  have kept := area.scrollUp_framebuffer first
  have width_eq := FramebufferWriter.width_congr kept
  have height_eq := FramebufferWriter.height_congr kept
  refine ⟨?_, ?_, ?_, ?_⟩
  · intro x y
    exact pixel_scrollUp first
  · rw [scrollUp_framebuffer, scrollUp_framebuffer, scrollUp_framebuffer]
  · intro x y x_lt y_lt
    have again := @pixel_scrollUp (area.scrollUp first) x y second (width_eq.symm ▸ x_lt)
      (height_eq.symm ▸ y_lt)
    change _ = if y + second * area.currentFont.height.toNat < _ then _
      else area.backgroundColor at again
    rw [height_eq] at again
    rw [pixel_scrollUp (first + second) x_lt y_lt, again, Nat.add_mul]
    by_cases below : y + second * area.currentFont.height.toNat < area.framebuffer.height.toNat
    · rw [if_pos below]
      change (area.scrollUp first).framebuffer.pixel x
        (y + second * area.currentFont.height.toNat) = _
      rw [pixel_scrollUp first x_lt below, Nat.add_right_comm y, Nat.add_assoc y]
    · rw [if_neg below, if_neg (by omega)]
  · dsimp only [scrollUp]

end TextArea

end PigweedExperimental.Draw
