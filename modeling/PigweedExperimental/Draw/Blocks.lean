import PigweedExperimental.Draw.SpritePixels

namespace PigweedExperimental.Draw

/-! # Rectangles by width and height

`DrawRectWH` asks for a block by its extents and leaves it to `DrawRect`, which
draws the first and the last line whether or not one comes before the other. A
block without height is therefore two lines high, and the sides of one without
width are two columns.
-/

/-- The block that is asked for, or its border. -/
def InBlock (x y w h : Int) (filled : Bool) (a b : Int) : Prop :=
  ((x ≤ a ∧ a < x + w) ∧ y ≤ b ∧ b < y + h) ∧
    (filled = true ∨ (a = x ∨ a = x + w - 1) ∨ b = y ∨ b = y + h - 1)

instance (x y w h : Int) (filled : Bool) (a b : Int) : Decidable (InBlock x y w h filled a b) :=
  inferInstanceAs (Decidable (_ ∧ _))

/-- What is drawn of an empty block. -/
def Stray (x y w h : Int) (filled : Bool) (a b : Int) : Prop :=
  (h = 0 ∧ (x ≤ a ∧ a < x + w) ∧ (b = y ∨ b = y - 1)) ∨
    (w = 0 ∧ filled = false ∧ (a = x ∨ a = x - 1) ∧ y < b ∧ b < y + h - 1)

/-- An empty block shows on a framebuffer of that size. -/
def EmptyBlockShows (x y w h : Int) (filled : Bool) (size : Size UInt16) : Prop :=
  (0 < size.width.toNat ∧ 0 < size.height.toNat) ∧
    ((h = 0 ∧ (0 < w ∧ x < size.width.toNat ∧ 0 < x + w) ∧
        0 ≤ y ∧ y ≤ size.height.toNat) ∨
      (w = 0 ∧ filled = false ∧ (0 ≤ x ∧ x ≤ size.width.toNat) ∧
        3 ≤ h ∧ y + 1 < size.height.toNat ∧ 1 < y + h))

section Extents

variable {x y w h : Int} {filled : Bool} {penColor : UInt16}

theorem InBlock.extended {a b : Int} (inBlock : InBlock x y w h filled a b) : 0 < w ∧ 0 < h := by
  have range := inBlock.1
  omega

theorem Stray.empty {a b : Int} (stray : Stray x y w h filled a b) : w = 0 ∨ h = 0 := by
  rcases stray with noHeight | noWidth
  · exact .inr noHeight.1
  · exact .inl noWidth.1

theorem sets_drawRectWH (w_nonneg : 0 ≤ w) (h_nonneg : 0 ≤ h) {a b : Int} :
    Sets (drawRectWH x y w h penColor filled) a b ↔
      InBlock x y w h filled a b ∨ Stray x y w h filled a b := by
  rw [drawRectWH, sets_drawRect, InBlock, Stray]
  cases filled with
  | false =>
      simp only [Bool.false_eq_true, if_false, false_or, true_and]
      omega
  | true =>
      simp only [if_true, true_or, and_true, Bool.true_eq_false, false_and, and_false, or_false]
      omega

theorem sets_drawRectWH_fits (fitsX : FitsInt16 x) (fitsY : FitsInt16 y)
    (fitsRight : FitsInt16 (x - 1 + w)) (fitsBottom : FitsInt16 (y - 1 + h)) (a b : Int)
    (isSet : Sets (drawRectWH x y w h penColor filled) a b) : FitsInt16 a ∧ FitsInt16 b := by
  rw [drawRectWH, sets_drawRect] at isSet
  dsimp only [FitsInt16] at *
  split at isSet <;> omega

/-- Each pixel is the pen's where the rectangle sets it, and stays otherwise. -/
theorem drawRectWH_paints (fitsX : FitsInt16 x) (fitsY : FitsInt16 y)
    (fitsRight : FitsInt16 (x - 1 + w)) (fitsBottom : FitsInt16 (y - 1 + h))
    {writer : FramebufferWriter} (narrow : writer.width.toNat ≤ 32767)
    (low : writer.height.toNat ≤ 32767) :
    Paints (Sets (drawRectWH x y w h penColor filled)) (fun _ _ => penColor) writer
      (setPixels (drawRectWH x y w h penColor filled) writer) := by
  have painted := @setPixels_paints (fun _ _ => penColor)
    (drawRectWH x y w h penColor filled) (fun call isCall => pixelValue_drawRect isCall) writer
  apply painted.congr
  intro px py px_lt py_lt
  apply folded_iff (sets_drawRectWH_fits fitsX fitsY fitsRight fitsBottom)
  · omega
  · omega

/-- What shows of an empty block is a stray pixel within the framebuffer. -/
theorem emptyBlockShows_iff (w_nonneg : 0 ≤ w) {size : Size UInt16} :
    EmptyBlockShows x y w h filled size ↔
      ∃ px py : Nat, px < size.width.toNat ∧ py < size.height.toNat ∧
        Stray x y w h filled px py := by
  rw [EmptyBlockShows]
  constructor
  · rintro ⟨some, ⟨noHeight, inColumns, inRows⟩ | ⟨noWidth, border, inColumns, inRows⟩⟩
    · refine ⟨x.toNat, (min y (size.height.toNat - 1)).toNat, by omega, by omega, ?_⟩
      left
      omega
    · refine ⟨(min x (size.width.toNat - 1)).toNat, (y + 1).toNat, by omega, by omega, ?_⟩
      right
      exact ⟨noWidth, border, by omega, by omega, by omega⟩
  · rintro ⟨px, py, px_lt, py_lt, stray⟩
    rcases stray with ⟨noHeight, inColumns, isRow⟩ | ⟨noWidth, border, isColumn, inRows⟩
    · exact ⟨by omega, .inl ⟨noHeight, by omega, by omega⟩⟩
    · exact ⟨by omega, .inr ⟨noWidth, border, by omega, by omega⟩⟩

/-- `DrawRectWH` draws the block, or its border, and nothing else, exactly if no
part of an empty block shows on the framebuffer. -/
theorem drawRectWH_block_iff (w_nonneg : 0 ≤ w) (h_nonneg : 0 ≤ h) (fitsX : FitsInt16 x)
    (fitsY : FitsInt16 y) (fitsRight : FitsInt16 (x - 1 + w)) (fitsBottom : FitsInt16 (y - 1 + h))
    {size : Size UInt16} (narrow : size.width.toNat ≤ 32767) (low : size.height.toNat ≤ 32767) :
    (∀ (penColor : UInt16) (writer : FramebufferWriter), writer.framebuffer.size = size →
      ∀ px py : Nat, px < size.width.toNat → py < size.height.toNat →
        (setPixels (drawRectWH x y w h penColor filled) writer).pixel px py =
          if InBlock x y w h filled px py then penColor else writer.pixel px py) ↔
      ¬EmptyBlockShows x y w h filled size := by
  rw [emptyBlockShows_iff w_nonneg]
  constructor
  · rintro drawsBlock ⟨px, py, px_lt, py_lt, stray⟩
    have painted := @drawRectWH_paints x y w h filled 1 fitsX fitsY fitsRight fitsBottom
      (uniform size 0) narrow low
    have isSet : Sets (drawRectWH x y w h 1 filled) px py :=
      (sets_drawRectWH w_nonneg h_nonneg).mpr (.inr stray)
    have notInBlock : ¬InBlock x y w h filled px py := by
      intro inBlock
      have extended := inBlock.extended
      have empty := stray.empty
      omega
    have kept := drawsBlock 1 (uniform size 0) rfl px py px_lt py_lt
    rw [painted.inside px py px_lt py_lt isSet, if_neg notInBlock,
      pixel_uniform px_lt py_lt] at kept
    exact absurd kept (by decide)
  · rintro noStray penColor writer rfl px py px_lt py_lt
    have painted := @drawRectWH_paints x y w h filled penColor fitsX fitsY fitsRight fitsBottom
      writer narrow low
    have isSet_iff : Sets (drawRectWH x y w h penColor filled) px py ↔
        InBlock x y w h filled px py := by
      rw [sets_drawRectWH w_nonneg h_nonneg, or_iff_left]
      intro stray
      exact noStray ⟨px, py, px_lt, py_lt, stray⟩
    split
    case isTrue inBlock => exact painted.inside px py px_lt py_lt (isSet_iff.mpr inBlock)
    case isFalse outside =>
      exact painted.outside px py px_lt py_lt fun isSet => outside (isSet_iff.mp isSet)

end Extents

/-- The border of a block of three by three in the middle of a framebuffer. -/
theorem drawRectWH_block_iff_border :
    (setPixels (drawRectWH 1 1 3 3 9 false) (uniform ⟨5, 5⟩ 0)).pixel 3 2 = 9 ∧
      (setPixels (drawRectWH 1 1 3 3 9 false) (uniform ⟨5, 5⟩ 0)).pixel 2 2 = 0 := by
  have border := (@drawRectWH_block_iff 1 1 3 3 false (by decide) (by decide) (by decide)
    (by decide) (by decide) (by decide) ⟨5, 5⟩ (by decide) (by decide)).mpr (by
      rintro ⟨_, noHeight | noWidth⟩
      · exact absurd noHeight.1 (by decide)
      · exact absurd noWidth.1 (by decide)) 9 (uniform ⟨5, 5⟩ 0) rfl
  exact ⟨border 3 2 (by decide) (by decide), border 2 2 (by decide) (by decide)⟩

/-- A block of two by nothing takes the row of its corner and the one above. -/
theorem drawRectWH_noHeight :
    ¬∀ (x y w h : Int) (filled : Bool) (penColor : UInt16) (writer : FramebufferWriter),
      0 ≤ w → 0 ≤ h → FitsInt16 x → FitsInt16 y → FitsInt16 (x - 1 + w) →
      FitsInt16 (y - 1 + h) → writer.width.toNat ≤ 32767 → writer.height.toNat ≤ 32767 →
      ∀ px py : Nat, px < writer.width.toNat → py < writer.height.toNat →
        (setPixels (drawRectWH x y w h penColor filled) writer).pixel px py =
          if InBlock x y w h filled px py then penColor else writer.pixel px py := by
  intro drawsBlock
  have kept := drawsBlock 1 1 2 0 true 9 (uniform ⟨4, 4⟩ 0) (by decide) (by decide) (by decide)
    (by decide) (by decide) (by decide) (by decide) (by decide) 1 0 (by decide) (by decide)
  revert kept
  decide

end PigweedExperimental.Draw
