import Mathlib.Algebra.Order.Group.Abs
import Mathlib.Algebra.Order.Ring.Int
import Mathlib.Data.List.Chain
import Mathlib.Logic.Function.Iterate

namespace PigweedExperimental.LatticePath

/-! # Paths over the points of a grid

A path is a list in which what comes next is related to what comes before. A path
may lead to where a symmetry takes its first point, and its images continue it.
-/

section Rounds

variable {Point : Type} {Related : Point → Point → Prop} {turn : Point → Point}

/-- A path followed by its images under a symmetry. -/
def rounds (turn : Point → Point) (path : List Point) : Nat → List Point
  | 0 => []
  | count + 1 => path ++ (rounds turn path count).map turn

theorem mem_rounds {path : List Point} {count : Nat} {point : Point} :
    point ∈ rounds turn path count ↔
      ∃ times < count, ∃ start ∈ path, turn^[times] start = point := by
  induction count generalizing point with
  | zero => simp [rounds]
  | succ count induction =>
      rw [rounds, List.mem_append, List.mem_map]
      constructor
      · rintro (isStart | ⟨before, isBefore, rfl⟩)
        · exact ⟨0, Nat.succ_pos count, point, isStart, rfl⟩
        · rcases induction.mp isBefore with ⟨times, less, start, isStart, rfl⟩
          refine ⟨times + 1, Nat.succ_lt_succ less, start, isStart, ?_⟩
          rw [Function.iterate_succ_apply']
      · rintro ⟨times, less, start, isStart, rfl⟩
        cases times with
        | zero => exact .inl isStart
        | succ times =>
            rw [Function.iterate_succ_apply']
            right
            exact ⟨_, induction.mpr ⟨times, Nat.lt_of_succ_lt_succ less, start, isStart, rfl⟩, rfl⟩

theorem head?_rounds {first : Point} {path : List Point} (starts : path.head? = some first)
    (count : Nat) :
    (rounds turn path count ++ [turn^[count] first]).head? = some first := by
  cases count with
  | zero => rfl
  | succ count =>
      rw [rounds, List.append_assoc, List.head?_append, starts, Option.some_or]

/-- The images of a path continue it, up to an image of its first point. -/
theorem isChain_rounds {first : Point} {path : List Point} (starts : path.head? = some first)
    (chain : path.IsChain Related) (continues : ∀ last ∈ path.getLast?, Related last (turn first))
    (symmetric : ∀ before after, Related before after → Related (turn before) (turn after))
    (count : Nat) : (rounds turn path count ++ [turn^[count] first]).IsChain Related := by
  induction count with
  | zero => exact List.isChain_singleton _
  | succ count induction =>
      have images : (rounds turn path (count + 1) ++ [turn^[count + 1] first]) =
          path ++ (rounds turn path count ++ [turn^[count] first]).map turn := by
        rw [rounds, List.map_append, List.append_assoc, Function.iterate_succ_apply']
        rfl
      rw [images]
      apply chain.append
      · exact List.isChain_map_of_isChain turn symmetric induction
      · intro last isLast next isNext
        rw [List.head?_map, head?_rounds starts] at isNext
        cases isNext
        exact continues last isLast

end Rounds

/-- Different points that touch along a side or at a corner. -/
def Adjacent (before after : Int × Int) : Prop :=
  before ≠ after ∧ |after.1 - before.1| ≤ 1 ∧ |after.2 - before.2| ≤ 1

/-- A quarter turn around the origin. -/
def quarterTurn (point : Int × Int) : Int × Int := (-point.2, point.1)

theorem quarterTurn_four (point : Int × Int) : quarterTurn^[4] point = point := by
  simp only [Function.iterate_succ_apply, Function.iterate_zero_apply, quarterTurn]
  rw [Int.neg_neg, Int.neg_neg]

theorem Adjacent.quarterTurn {before after : Int × Int} (adjacent : Adjacent before after) :
    Adjacent (quarterTurn before) (quarterTurn after) := by
  rcases adjacent with ⟨different, near, high⟩
  refine ⟨?_, ?_, near⟩
  · intro same
    apply different
    rcases Prod.mk.inj same with ⟨sameHeight, sameWidth⟩
    exact Prod.ext sameWidth (Int.neg_inj.mp sameHeight)
  · change |-after.2 - -before.2| ≤ 1
    rw [abs_le] at high ⊢
    omega

/-- A path from an axis to the next one becomes a closed ring with its quarter turns. -/
theorem isChain_ring {first : Int × Int} {path : List (Int × Int)}
    (starts : path.head? = some first) (chain : path.IsChain Adjacent)
    (continues : ∀ last ∈ path.getLast?, Adjacent last (quarterTurn first)) :
    (rounds quarterTurn path 4 ++ [first]).IsChain Adjacent := by
  have ring := isChain_rounds starts chain continues
    (fun _ _ adjacent => adjacent.quarterTurn) 4
  rw [quarterTurn_four] at ring
  exact ring

section Iteration

variable {State : Type} {step : State → State} {states : List State} {final : State}

/-- States that a step leads through keep what the step keeps. -/
theorem isChain_of_steps {Related : State → State → Prop} {Holds : State → Prop}
    (steps : (states ++ [final]).IsChain fun before after => step before = after)
    (holds : ∀ state ∈ states, Holds state)
    (related : ∀ state, Holds state → Related state (step state)) :
    (states ++ [final]).IsChain Related := by
  induction states with
  | nil => exact List.isChain_singleton _
  | cons state states induction =>
      rw [List.cons_append] at steps ⊢
      rw [List.isChain_cons] at steps ⊢
      refine ⟨?_, induction steps.2 fun later isLater => holds later (.tail _ isLater)⟩
      intro next isNext
      rw [← steps.1 next isNext]
      exact related state (holds state List.mem_cons_self)

end Iteration

end PigweedExperimental.LatticePath
