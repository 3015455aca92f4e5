import PigweedExperimental.Draw.DrawString

namespace PigweedExperimental.Draw

/-! # Pictures in layers

A picture is a list of calls, the later ones above the earlier ones. A part of the
picture that no other part reaches looks as if it were drawn alone.
-/

def drawAll (calls : List Call) (writer : FramebufferWriter) : FramebufferWriter :=
  calls.foldl (fun writer call => call.draw writer) writer

@[simp] theorem drawAll_nil (writer : FramebufferWriter) : drawAll [] writer = writer := rfl

@[simp] theorem drawAll_cons (call : Call) (calls : List Call) (writer : FramebufferWriter) :
    drawAll (call :: calls) writer = drawAll calls (call.draw writer) := rfl

theorem drawAll_append (first second : List Call) (writer : FramebufferWriter) :
    drawAll (first ++ second) writer = drawAll second (drawAll first writer) :=
  List.foldl_append

/-- The points that some of the calls overwrites. -/
def Covers (calls : List Call) (x y : Int) : Prop := ∃ call ∈ calls, Folded call.Shape x y

theorem drawAll_overwrites {calls : List Call} (lossless : ∀ call ∈ calls, call.Lossless) :
    Overwrites (Covers calls) (drawAll calls) := by
  induction calls with
  | nil =>
      apply Overwrites.nothing.congr
      intro x y _ _
      apply iff_of_false id
      intro covers
      rcases covers with ⟨_, impossible, _⟩
      cases impossible
  | cons call calls induction =>
      rw [List.forall_mem_cons] at lossless
      apply ((call.draw_overwrites lossless.1).comp (induction lossless.2)).congr
      intro x y _ _
      dsimp only [Covers]
      simp only [List.mem_cons, exists_eq_or_imp]

section Parts

variable {before part after : List Call} {writer : FramebufferWriter} {x y : Nat}

theorem drawAll_framebuffer {calls : List Call} (lossless : ∀ call ∈ calls, call.Lossless)
    (writer : FramebufferWriter) : (drawAll calls writer).framebuffer = writer.framebuffer :=
  (drawAll_overwrites lossless).framebuffer_eq writer

/-- What the others leave out is the same without them. -/
theorem drawAll_part (lossless : ∀ call ∈ before ++ part ++ after, call.Lossless)
    (x_lt : x < writer.width.toNat) (y_lt : y < writer.height.toNat)
    (notBefore : Covers part x y ∨ ¬Covers before x y) (notAfter : ¬Covers after x y) :
    (drawAll (before ++ part ++ after) writer).pixel x y = (drawAll part writer).pixel x y := by
  simp only [List.mem_append, or_imp, forall_and] at lossless
  rcases lossless with ⟨⟨losslessBefore, losslessPart⟩, losslessAfter⟩
  have overwrites := drawAll_overwrites losslessPart
  have sameBefore := drawAll_framebuffer losslessBefore writer
  have x_lt' : x < (drawAll before writer).width.toNat := by
    rw [FramebufferWriter.width_congr sameBefore]
    exact x_lt
  have y_lt' : y < (drawAll before writer).height.toNat := by
    rw [FramebufferWriter.height_congr sameBefore]
    exact y_lt
  rw [drawAll_append, drawAll_append, (drawAll_overwrites losslessAfter).outside]
  · by_cases covered : Covers part x y
    case pos => exact overwrites.inside _ _ sameBefore x y x_lt' y_lt' covered
    case neg =>
      rw [overwrites.outside _ x y x_lt' y_lt' covered,
        overwrites.outside writer x y x_lt y_lt covered]
      exact (drawAll_overwrites losslessBefore).outside writer x y x_lt y_lt
        (notBefore.resolve_left covered)
  · rw [overwrites.width_eq]
    exact x_lt'
  · rw [overwrites.height_eq]
    exact y_lt'
  · exact notAfter

theorem drawAll_background {calls : List Call} (lossless : ∀ call ∈ calls, call.Lossless)
    (x_lt : x < writer.width.toNat) (y_lt : y < writer.height.toNat)
    (bare : ¬Covers calls x y) :
    (drawAll calls writer).pixel x y = writer.pixel x y :=
  (drawAll_overwrites lossless).outside writer x y x_lt y_lt bare

/-- Calls that do not overlap at a point: the one that covers it is seen there. -/
theorem drawAll_call {calls : List Call} {call : Call}
    (lossless : ∀ call ∈ calls, call.Lossless)
    (apart : calls.Pairwise fun first second =>
      ¬(Folded first.Shape x y ∧ Folded second.Shape x y))
    (x_lt : x < writer.width.toNat) (y_lt : y < writer.height.toNat) (isCall : call ∈ calls)
    (covered : Folded call.Shape x y) :
    (drawAll calls writer).pixel x y = (call.draw writer).pixel x y := by
  rcases List.append_of_mem isCall with ⟨before, after, rfl⟩
  rw [List.append_cons] at lossless ⊢
  apply drawAll_part lossless x_lt y_lt
  · exact .inl ⟨call, List.mem_singleton_self call, covered⟩
  · intro coveredAgain
    rcases coveredAgain with ⟨later, isLater, folded⟩
    have afterCall := (List.pairwise_append.mp apart).2.1
    exact (List.pairwise_cons.mp afterCall).1 later isLater ⟨covered, folded⟩

end Parts

section Frames

/-- A rectangle of places, without its right and bottom sides. -/
structure Extent where
  left : Int
  right : Int
  top : Int
  bottom : Int

/-- All its places are ones that `SetPixel` can be given. -/
def Extent.Unfolded (extent : Extent) : Prop :=
  (0 ≤ extent.left ∧ extent.right ≤ 65536) ∧ 0 ≤ extent.top ∧ extent.bottom ≤ 65536

def Extent.Contains (extent : Extent) (x y : Int) : Prop :=
  (extent.left ≤ x ∧ x < extent.right) ∧ extent.top ≤ y ∧ y < extent.bottom

instance (extent : Extent) (x y : Int) : Decidable (extent.Contains x y) :=
  inferInstanceAs (Decidable (_ ∧ _))

/-- Every call stays within the extent. -/
def Extent.Holds (extent : Extent) (calls : List Call) : Prop :=
  ∀ call ∈ calls, call.Lossless ∧ ∀ x y, call.Shape x y → extent.Contains x y

variable {extent : Extent} {calls more : List Call}

theorem Extent.Holds.lossless (holds : extent.Holds calls) : ∀ call ∈ calls, call.Lossless :=
  fun call isCall => (holds call isCall).1

theorem Extent.Holds.contains (holds : extent.Holds calls) (unfolded : extent.Unfolded)
    {x y : Int} (covers : Covers calls x y) : extent.Contains x y := by
  rcases covers with ⟨call, isCall, a, b, shape, rfl, rfl⟩
  have inside := (holds call isCall).2 a b shape
  rw [Unfolded] at unfolded
  rw [Contains] at inside ⊢
  rw [Int.emod_eq_of_lt, Int.emod_eq_of_lt]
  · exact inside
  all_goals omega

theorem Extent.holds_nil : extent.Holds [] := by
  intro call isCall
  cases isCall

theorem Extent.holds_cons {call : Call} :
    extent.Holds (call :: calls) ↔
      (call.Lossless ∧ ∀ x y, call.Shape x y → extent.Contains x y) ∧ extent.Holds calls :=
  List.forall_mem_cons

theorem Extent.holds_append :
    extent.Holds (calls ++ more) ↔ extent.Holds calls ∧ extent.Holds more :=
  List.forall_mem_append

end Frames

theorem folded_character_iff {ch : Int} {pos : Vector2 Int} {fgColor bgColor : UInt16}
    {font : FontSet} {x y : Nat} (x_lt : x < 65536) (y_lt : y < 65536) :
    Folded (Call.character ch pos fgColor bgColor font).Shape x y ↔
      font.Drawable ch ∧ inCell font pos x y := by
  have width_lt := font.width.toNat_lt
  have height_lt := font.height.toNat_lt
  dsimp only [Folded, Call.Shape, inCell]
  constructor
  · intro folded
    rcases folded with ⟨a, b, ⟨drawable, inWidth, inHeight⟩, isX, isY⟩
    exact ⟨drawable, by omega, by omega⟩
  · intro inside
    exact ⟨pos.x + (x - pos.x) % 65536, pos.y + (y - pos.y) % 65536,
      ⟨inside.1, by omega, by omega⟩, by omega, by omega⟩

section Strings

/-- The calls of `DrawString`: what is not drawable gets none. -/
def stringCalls (fgColor bgColor : UInt16) (font : FontSet) :
    (str : List Int) → (pos : Vector2 Int) → List Call
  | [], _ => []
  | ch :: str, pos =>
      if font.Drawable ch then
        .character ch pos fgColor bgColor font ::
          stringCalls fgColor bgColor font str ⟨pos.x + font.width.toNat, pos.y⟩
      else
        stringCalls fgColor bgColor font str pos

variable {fgColor bgColor : UInt16} {font : FontSet}

theorem drawString_eq_drawAll (str : List Int) (pos : Vector2 Int)
    (framebuffer : FramebufferWriter) :
    (drawString str pos fgColor bgColor font framebuffer).2 =
      drawAll (stringCalls fgColor bgColor font str pos) framebuffer := by
  induction str generalizing pos framebuffer with
  | nil => rfl
  | cons ch str induction =>
      rw [stringCalls]
      split
      case isTrue drawable =>
        rw [drawString_cons_of_drawable drawable, induction]
        rfl
      case isFalse skipped => rw [drawString_cons_of_not_drawable skipped, induction]

theorem stringWidth_le (font : FontSet) (str : List Int) :
    font.stringWidth str ≤ font.width.toNat * str.length := by
  rw [FontSet.stringWidth]
  apply Int.mul_le_mul_of_nonneg_left
  · exact_mod_cast List.countP_le_length
  · exact Int.natCast_nonneg _

/-- A string stays within its width and height. -/
theorem stringCalls_held {extent : Extent} {str : List Int} {pos : Vector2 Int}
    (left : extent.left ≤ pos.x) (right : pos.x + font.stringWidth str ≤ extent.right)
    (top : extent.top ≤ pos.y) (bottom : pos.y + font.height.toNat ≤ extent.bottom) :
    extent.Holds (stringCalls fgColor bgColor font str pos) := by
  induction str generalizing pos with
  | nil => exact Extent.holds_nil
  | cons ch str induction =>
      rw [stringCalls]
      split
      case isTrue drawable =>
        have rest_nonneg := font.stringWidth_nonneg str
        rw [FontSet.stringWidth_cons_of_drawable drawable] at right
        apply Extent.holds_cons.mpr
        refine ⟨⟨trivial, ?_⟩, ?_⟩
        · intro x y shape
          rw [Extent.Contains]
          have inWidth := shape.2.1
          have inHeight := shape.2.2
          omega
        · apply induction <;> dsimp only <;> omega
      case isFalse skipped =>
        rw [FontSet.stringWidth_cons_of_not_drawable skipped] at right
        exact induction left right top bottom

/-- A string has no gaps. -/
theorem stringCalls_cover {str : List Int} {pos : Vector2 Int} {x y : Int}
    (inWidth : pos.x ≤ x ∧ x < pos.x + font.stringWidth str)
    (inHeight : pos.y ≤ y ∧ y < pos.y + font.height.toNat)
    (unfolded : (0 ≤ x ∧ x < 65536) ∧ 0 ≤ y ∧ y < 65536) :
    Covers (stringCalls fgColor bgColor font str pos) x y := by
  induction str generalizing pos with
  | nil =>
      rw [font.stringWidth_nil] at inWidth
      omega
  | cons ch str induction =>
      rw [stringCalls]
      split
      case isTrue drawable =>
        rw [FontSet.stringWidth_cons_of_drawable drawable] at inWidth
        by_cases inFirst : x < pos.x + font.width.toNat
        case pos =>
          refine ⟨_, List.mem_cons_self, x, y, ⟨drawable, ⟨inWidth.1, inFirst⟩, inHeight⟩, ?_⟩
          omega
        case neg =>
          have rest := @induction ⟨pos.x + font.width.toNat, pos.y⟩ (by dsimp only; omega) inHeight
          rcases rest with ⟨call, isCall, folded⟩
          exact ⟨call, List.mem_cons_of_mem _ isCall, folded⟩
      case isFalse skipped =>
        rw [FontSet.stringWidth_cons_of_not_drawable skipped] at inWidth
        exact induction inWidth inHeight

end Strings

end PigweedExperimental.Draw
