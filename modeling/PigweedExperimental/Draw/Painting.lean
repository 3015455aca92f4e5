import PigweedExperimental.Framebuffer.FramebufferWriter

namespace PigweedExperimental.Draw

/-! # Painting a region

What drawing code leaves on a framebuffer, whatever the order in which it sets
pixels: a region of one coloring, and the old pixels everywhere else. The
coordinates are plain integers; those outside the framebuffer say nothing.
-/

structure Paints (region : Int → Int → Prop) (color : Int → Int → UInt16)
    (before after : FramebufferWriter) : Prop where
  framebuffer_eq : after.framebuffer = before.framebuffer
  inside : ∀ x y : Nat, x < before.width.toNat → y < before.height.toNat →
    region x y → after.pixel x y = color x y
  outside : ∀ x y : Nat, x < before.width.toNat → y < before.height.toNat →
    ¬region x y → after.pixel x y = before.pixel x y

namespace Paints

variable {region other : Int → Int → Prop} {color : Int → Int → UInt16}
  {before middle after : FramebufferWriter}

theorem width_eq (paints : Paints region color before after) :
    after.width = before.width :=
  FramebufferWriter.width_congr paints.framebuffer_eq

theorem height_eq (paints : Paints region color before after) :
    after.height = before.height :=
  FramebufferWriter.height_congr paints.framebuffer_eq

theorem nothing (writer : FramebufferWriter) (color : Int → Int → UInt16) :
    Paints (fun _ _ => False) color writer writer where
  framebuffer_eq := rfl
  inside := fun _ _ _ _ impossible => impossible.elim
  outside := fun _ _ _ _ _ => rfl

/-- Only the part of a region within the framebuffer matters. -/
theorem congr (paints : Paints region color before after)
    (same : ∀ x y : Nat, x < before.width.toNat → y < before.height.toNat →
      (region x y ↔ other x y)) : Paints other color before after where
  framebuffer_eq := paints.framebuffer_eq
  inside := fun x y x_lt y_lt within =>
    paints.inside x y x_lt y_lt ((same x y x_lt y_lt).mpr within)
  outside := fun x y x_lt y_lt without =>
    paints.outside x y x_lt y_lt fun within => without ((same x y x_lt y_lt).mp within)

theorem trans (first : Paints region color before middle)
    (second : Paints other color middle after) :
    Paints (fun x y => region x y ∨ other x y) color before after where
  framebuffer_eq := second.framebuffer_eq.trans first.framebuffer_eq
  inside := by
    intro x y x_lt y_lt within
    have x_lt' : x < middle.width.toNat := first.width_eq.symm ▸ x_lt
    have y_lt' : y < middle.height.toNat := first.height_eq.symm ▸ y_lt
    by_cases later : other x y
    · exact second.inside x y x_lt' y_lt' later
    · rw [second.outside x y x_lt' y_lt' later]
      exact first.inside x y x_lt y_lt (within.resolve_right later)
  outside := by
    intro x y x_lt y_lt without
    have x_lt' : x < middle.width.toNat := first.width_eq.symm ▸ x_lt
    have y_lt' : y < middle.height.toNat := first.height_eq.symm ▸ y_lt
    rw [not_or] at without
    rw [second.outside x y x_lt' y_lt' without.2, first.outside x y x_lt y_lt without.1]

end Paints

/-- The 16 bits of an `int` that `SetPixel` gets. -/
theorem toNat_ofInt (value : Int) : ((UInt16.ofInt value).toNat : Int) = value % 65536 := by
  have range : 0 ≤ value % 65536 ∧ value % 65536 < 65536 := by omega
  rw [UInt16.ofInt]
  rw [UInt16.toNat_ofNat']
  omega

/-- A pixel is set where the coordinates end up as `uint16_t`. -/
theorem paints_setPixel (writer : FramebufferWriter) (x y : Int) {v : UInt16}
    {color : Int → Int → UInt16} (isColor : v = color (x % 65536) (y % 65536)) :
    Paints (fun px py => px = x % 65536 ∧ py = y % 65536) color writer
      (writer.setPixel (.ofInt x) (.ofInt y) v) where
  framebuffer_eq := writer.setPixel_framebuffer _ _ _
  inside := by
    intro px py px_lt py_lt within
    have place : px = (UInt16.ofInt x).toNat ∧ py = (UInt16.ofInt y).toNat := by
      have := toNat_ofInt x
      have := toNat_ofInt y
      omega
    rw [FramebufferWriter.pixel_setPixel px_lt py_lt, if_pos place, isColor, within.1,
      within.2]
  outside := by
    intro px py px_lt py_lt without
    have place : ¬(px = (UInt16.ofInt x).toNat ∧ py = (UInt16.ofInt y).toNat) := by
      have := toNat_ofInt x
      have := toNat_ofInt y
      omega
    rw [FramebufferWriter.pixel_setPixel px_lt py_lt, if_neg place]

/-- A loop paints what its iterations paint. An iteration may rely on what the
earlier ones have painted. -/
theorem forRange_paints {region : Int → Int → Int → Prop} {color : Int → Int → UInt16}
    {first last : Int}
    {body : (index : Int) → first ≤ index ∧ index < last → FramebufferWriter → FramebufferWriter}
    {writer : FramebufferWriter}
    (iteration : ∀ index (inRange : first ≤ index ∧ index < last) current,
      Paints (fun x y => ∃ earlier, (first ≤ earlier ∧ earlier < index) ∧ region earlier x y)
        color writer current →
      Paints (region index) color current (body index inRange current)) :
    Paints (fun x y => ∃ index, (first ≤ index ∧ index < last) ∧ region index x y) color writer
      (forRange first last body writer) := by
  have painted : Paints (fun x y => ∃ index,
      (first ≤ index ∧ index < max first last) ∧ region index x y) color writer
      (forRange first last body writer) := by
    apply forRange_invariant (fun bound current => Paints (fun x y => ∃ index,
      (first ≤ index ∧ index < bound) ∧ region index x y) color writer current)
    · apply (Paints.nothing writer color).congr
      intro x y _ _
      apply iff_of_false id
      intro found
      rcases found with ⟨index, range, _⟩
      omega
    · intro index inRange current soFar
      apply (soFar.trans (iteration index inRange current soFar)).congr
      intro x y _ _
      constructor
      · intro either
        rcases either with ⟨earlier, range, within⟩ | within
        · exact ⟨earlier, by omega, within⟩
        · exact ⟨index, by omega, within⟩
      · intro found
        rcases found with ⟨earlier, range, within⟩
        by_cases isLast : earlier = index
        · rw [isLast] at within
          exact .inr within
        · exact .inl ⟨earlier, by omega, within⟩
  apply painted.congr
  intro x y _ _
  apply exists_congr
  intro index
  apply and_congr_left
  intro _
  omega

end PigweedExperimental.Draw
