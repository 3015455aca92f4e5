import PigweedExperimental.Draw.Primitives
import Mathlib.Tactic.Linarith
import Mathlib.Tactic.Ring

namespace PigweedExperimental.Draw

/-! # The points of a circle

The points that `DrawCircle` sets have a description without the loop that finds
them: it is the lattice points whose distance from the circle is the least along
their shorter axis.
-/

/-- How far a point is outside of the circle around the origin, in squares. -/
def excess (radius a b : Int) : Int := a * a + b * b - radius * radius

/-- The greater of the two distances of a point from the axes. -/
def reach (a b : Int) : Int := max a.natAbs b.natAbs

/-- The disc up to its outline. Where both coordinates are alike in size, the
outline passes by the point that is just too far out. -/
def InDisc (radius a b : Int) : Prop :=
  excess radius a b < reach a b ∧
    (a.natAbs = b.natAbs → a ≠ 0 → excess radius a b < reach a b - 1)

def OnCircle (radius a b : Int) : Prop :=
  -reach a b ≤ excess radius a b ∧ InDisc radius a b

section Symmetry

variable {radius a b : Int}

theorem excess_natAbs (radius a b : Int) :
    excess radius a.natAbs b.natAbs = excess radius a b := by
  dsimp only [excess]
  rw [Int.natAbs_mul_self', Int.natAbs_mul_self']

theorem inDisc_natAbs : InDisc radius a.natAbs b.natAbs ↔ InDisc radius a b := by
  rw [InDisc, reach]
  rw [excess_natAbs, Int.natAbs_natCast, Int.natAbs_natCast]
  constructor
  · intro inside
    exact ⟨inside.1, fun alike nonzero => inside.2 alike (by omega)⟩
  · intro inside
    exact ⟨inside.1, fun alike nonzero => inside.2 alike (by omega)⟩

theorem onCircle_natAbs : OnCircle radius a.natAbs b.natAbs ↔ OnCircle radius a b := by
  dsimp only [OnCircle]
  rw [inDisc_natAbs, excess_natAbs]
  dsimp only [reach]
  rw [Int.natAbs_natCast, Int.natAbs_natCast]

theorem excess_comm (radius a b : Int) : excess radius a b = excess radius b a := by
  dsimp only [excess]
  rw [Int.add_comm (a * a)]

theorem reach_comm (a b : Int) : reach a b = reach b a :=
  Int.max_comm _ _

theorem inDisc_comm : InDisc radius a b ↔ InDisc radius b a := by
  dsimp only [InDisc]
  rw [excess_comm, reach_comm]
  constructor <;>
  · intro inside
    exact ⟨inside.1, fun alike nonzero => inside.2 alike.symm (by omega)⟩

theorem onCircle_comm : OnCircle radius a b ↔ OnCircle radius b a := by
  dsimp only [OnCircle]
  rw [inDisc_comm, excess_comm, reach_comm]

/-- Only the sizes of the coordinates matter, in any order. -/
theorem OnCircle.of_sizes {c d : Int} (onCircle : OnCircle radius a b)
    (sizes : a.natAbs = c.natAbs ∧ b.natAbs = d.natAbs ∨
      a.natAbs = d.natAbs ∧ b.natAbs = c.natAbs) : OnCircle radius c d := by
  rw [← onCircle_natAbs] at onCircle ⊢
  rcases sizes with ⟨sameA, sameB⟩ | ⟨sameA, sameB⟩
  · rw [← sameA, ← sameB]
    exact onCircle
  · rw [← sameA, ← sameB, onCircle_comm]
    exact onCircle

end Symmetry

section Shape

variable {radius a b : Int}

theorem reach_of_nonneg (a_nonneg : 0 ≤ a) (b_nonneg : 0 ≤ b) : reach a b = max a b := by
  rw [reach, Int.natAbs_of_nonneg a_nonneg, Int.natAbs_of_nonneg b_nonneg]

theorem inDisc_iff_of_nonneg (a_nonneg : 0 ≤ a) (b_nonneg : 0 ≤ b) :
    InDisc radius a b ↔
      excess radius a b < max a b ∧ (a = b → a ≠ 0 → excess radius a b < max a b - 1) := by
  have alike : a.natAbs = b.natAbs ↔ a = b := by omega
  rw [InDisc, reach_of_nonneg a_nonneg b_nonneg, alike]

theorem onCircle_iff_of_nonneg (a_nonneg : 0 ≤ a) (b_nonneg : 0 ≤ b) :
    OnCircle radius a b ↔ -max a b ≤ excess radius a b ∧
      excess radius a b < max a b ∧ (a = b → a ≠ 0 → excess radius a b < max a b - 1) := by
  rw [OnCircle, reach_of_nonneg a_nonneg b_nonneg, inDisc_iff_of_nonneg a_nonneg b_nonneg]

theorem excess_left (radius a b : Int) :
    excess radius (a - 1) b = excess radius a b - 2 * a + 1 := by
  dsimp only [excess]
  ring

theorem excess_up (radius a b : Int) :
    excess radius a (b + 1) = excess radius a b + 2 * b + 1 := by
  dsimp only [excess]
  ring

/-- The excess falls at least as fast as the distance it is measured along. -/
theorem excess_lower {c : Int} (nonneg : 0 ≤ c) (lower : c < b) :
    excess radius a c + b + c ≤ excess radius a b := by
  have product : 0 ≤ (b - c - 1) * (b + c) := mul_nonneg (by omega) (by omega)
  dsimp only [excess]
  linarith

/-- What is below a point of the disc is in the disc. -/
theorem InDisc.lower {c : Int} (inside : InDisc radius a b) (a_nonneg : 0 ≤ a)
    (nonneg : 0 ≤ c) (below : c ≤ b) : InDisc radius a c := by
  by_cases same : c = b
  · rw [same]
    exact inside
  · have falls := @excess_lower radius a b c nonneg (lt_of_le_of_ne below same)
    rw [inDisc_iff_of_nonneg a_nonneg (by omega)] at inside
    rw [inDisc_iff_of_nonneg a_nonneg nonneg]
    omega

/-- The disc stays within its radius. -/
theorem InDisc.reach_le (inside : InDisc radius a b) (radius_nonneg : 0 ≤ radius) :
    reach a b ≤ radius := by
  have far : reach a b * reach a b ≤ a * a + b * b := by
    have a_square := mul_self_nonneg a
    have b_square := mul_self_nonneg b
    rw [reach]
    rcases Int.le_total a.natAbs b.natAbs with less | less
    · rw [Int.max_eq_right less, Int.natAbs_mul_self']
      omega
    · rw [Int.max_eq_left less, Int.natAbs_mul_self']
      omega
  have less := inside.1
  unfold excess at less
  by_contra beyond
  have product : 0 ≤ (reach a b - radius - 1) * (reach a b + radius) :=
    mul_nonneg (by omega) (by omega)
  linarith

end Shape

section Quarter

variable {radius : Int} {state : CircleState}

/-- The loop is at a point of the circle. -/
structure AtPoint (radius : Int) (state : CircleState) : Prop where
  x_neg : state.x < 0
  y_nonneg : 0 ≤ state.y
  error_eq : state.errorValue = excess radius (-state.x - 1) (state.y + 1)
  onCircle : OnCircle radius (-state.x) state.y

theorem atPoint_initial (positive : 1 ≤ radius) : AtPoint radius (.initial radius) where
  x_neg := by
    change -radius < 0
    omega
  y_nonneg := Int.le_refl 0
  error_eq := by
    dsimp only [CircleState.initial]
    rw [excess]
    ring
  onCircle := by
    dsimp only [CircleState.initial]
    have none : excess radius (- -radius) 0 = 0 := by
      rw [excess]
      ring
    rw [OnCircle, InDisc, reach]
    omega

/-- An iteration goes on to the left, upwards, or both. It goes to the left only
where the disc ends with the point upwards, and upwards only where the points to
the left are within the circle. -/
theorem circleStep_cases (atPoint : AtPoint radius state) :
    let next := circleStep state
    next.errorValue = excess radius (-next.x - 1) (next.y + 1) ∧
      (next.x = state.x ∨ next.x = state.x + 1 ∧ ¬InDisc radius (-state.x) (state.y + 1)) ∧
      (next.y = state.y ∨ next.y = state.y + 1 ∧
        excess radius (-state.x - 1) state.y < -reach (-state.x - 1) state.y) ∧
      (next.x ≠ state.x ∨ next.y ≠ state.y) ∧
      (next.x < 0 → OnCircle radius (-next.x) next.y) := by
  rcases atPoint with ⟨x_neg, y_nonneg, error_eq, onCircle⟩
  rw [onCircle_iff_of_nonneg (by omega) y_nonneg] at onCircle
  have aboveIn := @inDisc_iff_of_nonneg radius (-state.x) (state.y + 1) (by omega) (by omega)
  have leftReach := @reach_of_nonneg (-state.x - 1) state.y (by omega) y_nonneg
  -- every excess that matters, from the one at the corner between both ways
  have up := excess_up radius (-state.x) state.y
  have left := excess_left radius (-state.x) state.y
  have corner := excess_left radius (-state.x) (state.y + 1)
  have cornerUp := excess_up radius (-state.x - 1) (state.y + 1)
  have cornerLeft := excess_left radius (-state.x - 1) (state.y + 1)
  have cornerBoth := excess_left radius (-state.x - 1) (state.y + 1 + 1)
  have isLeft : -(state.x + 1) = -state.x - 1 := by omega
  rw [aboveIn, leftReach]
  clear aboveIn leftReach
  dsimp only [circleStep]
  split
  · split
    · dsimp only at *
      rw [isLeft]
      refine ⟨by omega, .inr ⟨rfl, by omega⟩, .inr ⟨rfl, by omega⟩, .inl (by omega), ?_⟩
      intro more
      rw [onCircle_iff_of_nonneg (by omega) (by omega)]
      omega
    · dsimp only at *
      refine ⟨by omega, .inl rfl, .inr ⟨rfl, by omega⟩, .inr (by omega), ?_⟩
      intro more
      rw [onCircle_iff_of_nonneg (by omega) (by omega)]
      omega
  · split
    · dsimp only
      rw [isLeft]
      refine ⟨by omega, .inr ⟨rfl, by omega⟩, .inl rfl, .inl (by omega), ?_⟩
      intro more
      rw [onCircle_iff_of_nonneg (by omega) (by omega)]
      omega
    · exfalso
      omega

/-- Points beside a point within the circle are within it too. -/
theorem within_left {a b c : Int} (nonneg : 0 ≤ a) (b_nonneg : 0 ≤ b) (left : a ≤ c)
    (within : excess radius c b < -reach c b) : excess radius a b < -reach a b := by
  by_cases same : a = c
  · rw [same]
    exact within
  · have falls := @excess_lower radius b c a nonneg (lt_of_le_of_ne left same)
    rw [excess_comm, excess_comm radius b c] at falls
    dsimp only [reach] at *
    omega

theorem AtPoint.next (atPoint : AtPoint radius state) (more : (circleStep state).x < 0) :
    AtPoint radius (circleStep state) := by
  rcases circleStep_cases atPoint with ⟨error_eq, _, up, _, onCircle⟩
  have y_nonneg := atPoint.y_nonneg
  exact ⟨more, by omega, error_eq, onCircle more⟩

/-- No point of the circle is passed by. -/
theorem AtPoint.passes_none (atPoint : AtPoint radius state) {a b : Int}
    (onCircle : OnCircle radius a b) (positive : 1 ≤ a) (left : a ≤ -state.x)
    (up : state.y ≤ b) (another : ¬(a = -state.x ∧ b = state.y)) :
    a ≤ -(circleStep state).x ∧ (circleStep state).y ≤ b := by
  have y_nonneg := atPoint.y_nonneg
  rcases circleStep_cases atPoint with ⟨_, goesLeft, goesUp, _⟩
  constructor
  · rcases goesLeft with stays | ⟨moves, ends⟩
    · omega
    · by_cases above : a = -state.x
      · exfalso
        apply ends
        rw [← above]
        exact onCircle.2.lower (by omega) (by omega) (by omega)
      · omega
  · rcases goesUp with stays | ⟨moves, within⟩
    · omega
    · by_cases beside : b = state.y
      · have inner := within_left (a := a) (by omega) y_nonneg (by omega) within
        have lower := onCircle.1
        rw [beside] at lower
        omega
      · omega

theorem circleLoop_done (done : ¬state.x < 0) (iterations : Nat) :
    circleLoop iterations state = ([], state) := by
  cases iterations with
  | zero => rfl
  | succ iterations => rw [circleLoop, if_neg done]

/-- From a point of the circle, the loop ends on the vertical axis. On its way it
visits the points of the circle to the left and above, and nothing else. -/
theorem circleLoop_visits (positive : 1 ≤ radius) {iterations : Nat}
    (atPoint : AtPoint radius state) (enough : -state.x + (radius - state.y) ≤ iterations) :
    (circleLoop iterations state).2.x = 0 ∧
      (∀ visited ∈ (circleLoop iterations state).1, AtPoint radius visited) ∧
      ∀ a b, 1 ≤ a → a ≤ -state.x → state.y ≤ b → OnCircle radius a b →
        ∃ visited ∈ (circleLoop iterations state).1, visited.x = -a ∧ visited.y = b := by
  induction iterations generalizing state with
  | zero =>
      have near := atPoint.onCircle.2.reach_le (by omega)
      have x_neg := atPoint.x_neg
      unfold reach at near
      omega
  | succ iterations induction =>
      have x_neg := atPoint.x_neg
      rcases circleStep_cases atPoint with ⟨_, goesLeft, goesUp, moves, _⟩
      have rest : (circleLoop iterations (circleStep state)).2.x = 0 ∧
          (∀ visited ∈ (circleLoop iterations (circleStep state)).1, AtPoint radius visited) ∧
          ∀ a b, 1 ≤ a → a ≤ -(circleStep state).x → (circleStep state).y ≤ b →
            OnCircle radius a b →
            ∃ visited ∈ (circleLoop iterations (circleStep state)).1,
              visited.x = -a ∧ visited.y = b := by
        by_cases more : (circleStep state).x < 0
        · exact induction (atPoint.next more) (by omega)
        · rw [circleLoop_done more]
          refine ⟨by dsimp only; omega, nofun, ?_⟩
          intro a b a_pos left _ _
          omega
      rw [circleLoop, if_pos x_neg]
      rcases rest with ⟨ends, allAtPoints, visitsAll⟩
      refine ⟨ends, List.forall_mem_cons.mpr ⟨atPoint, allAtPoints⟩, ?_⟩
      intro a b a_pos left up onCircle
      by_cases here : a = -state.x ∧ b = state.y
      · exact ⟨state, List.mem_cons_self, by omega, here.2.symm⟩
      · rcases atPoint.passes_none onCircle a_pos left up here with ⟨nextLeft, nextUp⟩
        rcases visitsAll a b a_pos nextLeft nextUp onCircle with ⟨visited, found, place⟩
        exact ⟨visited, List.mem_cons_of_mem _ found, place⟩

/-- The states of a circle's loop. -/
def circleStates (radius : Int) : List CircleState :=
  (circleLoop (circleIterations radius) (.initial radius)).1

theorem enough_iterations (positive : 1 ≤ radius) :
    -(CircleState.initial radius).x + (radius - (CircleState.initial radius).y) ≤
      circleIterations radius := by
  dsimp only [CircleState.initial, circleIterations]
  omega

/-- The loop always runs to its end. -/
theorem circleLoop_ends (radius : Int) :
    ¬(circleLoop (circleIterations radius) (.initial radius)).2.x < 0 := by
  by_cases positive : 1 ≤ radius
  · rw [(circleLoop_visits positive (atPoint_initial positive)
      (enough_iterations positive)).1]
    exact Int.lt_irrefl 0
  · have done : ¬(CircleState.initial radius).x < 0 := by
      change ¬-radius < 0
      omega
    rw [circleLoop_done done]
    exact done

theorem mem_circleStates (positive : 1 ≤ radius) (x y : Int) :
    (∃ state ∈ circleStates radius, state.x = x ∧ state.y = y) ↔
      x < 0 ∧ 0 ≤ y ∧ OnCircle radius (-x) y := by
  rcases circleLoop_visits positive (atPoint_initial positive) (enough_iterations positive) with
    ⟨_, allAtPoints, visitsAll⟩
  constructor
  · intro found
    rcases found with ⟨state, visited, rfl, rfl⟩
    have atPoint := allAtPoints state visited
    exact ⟨atPoint.x_neg, atPoint.y_nonneg, atPoint.onCircle⟩
  · intro isPoint
    rcases isPoint with ⟨x_neg, y_nonneg, onCircle⟩
    have near := onCircle.2.reach_le (by omega)
    have left : -x ≤ -(CircleState.initial radius).x := by
      change -x ≤ - -radius
      unfold reach at near
      omega
    rcases visitsAll (-x) y (by omega) left y_nonneg onCircle with ⟨state, visited, place⟩
    exact ⟨state, visited, by omega, place.2⟩

theorem circleStates_empty (notPositive : ¬1 ≤ radius) : circleStates radius = [] := by
  have done : ¬(CircleState.initial radius).x < 0 := by
    change ¬-radius < 0
    omega
  rw [circleStates, circleLoop_done done]

end Quarter

section Pixels

variable {radius centerX centerY a b : Int} {penColor : UInt16}

theorem sets_circlePixels {filled : Bool} {state : CircleState} :
    Sets (circlePixels centerX centerY penColor filled state) a b ↔
      (∃ i, ((if filled then 0 else state.x) ≥ i ∧ state.x ≤ i) ∧
        ((a = centerX - i ∧ b = centerY + state.y) ∨
          (a = centerX + i ∧ b = centerY - state.y))) ∨
      ∃ i, ((if filled then 0 else state.y) ≤ i ∧ i ≤ state.y) ∧
        ((a = centerX - i ∧ b = centerY - state.x) ∨
          (a = centerX + i ∧ b = centerY + state.x)) := by
  rw [circlePixels]
  simp only [sets_append, sets_flatMap, mem_intRange, sets_cons, sets_nil, or_false]
  apply or_congr
  · apply exists_congr
    intro i
    omega
  · apply exists_congr
    intro i
    omega

theorem sets_drawCircle {filled : Bool} :
    Sets (drawCircle centerX centerY radius penColor filled) a b ↔
      ∃ state ∈ circleStates radius,
        Sets (circlePixels centerX centerY penColor filled state) a b := by
  rw [drawCircle]
  rw [sets_flatMap]
  rfl

theorem not_onCircle_center (positive : 1 ≤ radius) : ¬OnCircle radius 0 0 := by
  have square : 1 * 1 ≤ radius * radius := mul_le_mul positive positive (by decide) (by omega)
  intro onCircle
  have lower : -0 ≤ 0 * 0 + 0 * 0 - radius * radius := onCircle.1
  omega

/-- The outline consists of the points of the circle. -/
theorem sets_drawCircle_outline :
    Sets (drawCircle centerX centerY radius penColor false) a b ↔
      1 ≤ radius ∧ OnCircle radius (a - centerX) (b - centerY) := by
  rw [sets_drawCircle]
  by_cases positive : 1 ≤ radius
  · simp only [sets_circlePixels, Bool.false_eq_true, if_false, positive, true_and]
    constructor
    · intro found
      rcases found with ⟨state, visited, place⟩
      rcases (mem_circleStates positive state.x state.y).mp ⟨state, visited, rfl, rfl⟩ with
        ⟨x_neg, y_nonneg, onCircle⟩
      apply onCircle.of_sizes
      rcases place with ⟨i, range, place⟩ | ⟨i, range, place⟩
      · omega
      · omega
    · intro onCircle
      have somewhere : a - centerX ≠ 0 ∨ b - centerY ≠ 0 := by
        by_contra center
        rw [not_or, not_not, not_not] at center
        rw [center.1, center.2] at onCircle
        exact not_onCircle_center positive onCircle
      by_cases horizontal : (0 < a - centerX ∧ 0 ≤ b - centerY) ∨
          (a - centerX < 0 ∧ b - centerY ≤ 0)
      · rcases (mem_circleStates positive (-(a - centerX).natAbs) (b - centerY).natAbs).mpr
          ⟨by omega, by omega, onCircle.of_sizes (by omega)⟩ with ⟨state, visited, isX, isY⟩
        refine ⟨state, visited, .inl ⟨state.x, ⟨Int.le_refl _, Int.le_refl _⟩, ?_⟩⟩
        omega
      · rcases (mem_circleStates positive (-(b - centerY).natAbs) (a - centerX).natAbs).mpr
          ⟨by omega, by omega, onCircle.of_sizes (by omega)⟩ with ⟨state, visited, isX, isY⟩
        refine ⟨state, visited, .inr ⟨state.y, ⟨Int.le_refl _, Int.le_refl _⟩, ?_⟩⟩
        omega
  · rw [circleStates_empty positive]
    exact iff_of_false (fun found => by simp at found) (fun both => positive both.1)

/-- Every point of the disc lies beside a point of the circle. -/
theorem InDisc.beside (inside : InDisc radius a b) (a_nonneg : 0 ≤ a) (b_nonneg : 0 ≤ b)
    (positive : 1 ≤ radius) : ∃ c, a ≤ c ∧ OnCircle radius c b := by
  have room : radius - a ≤ (radius - a).toNat := Int.self_le_toNat _
  generalize (radius - a).toNat = steps at room
  induction steps generalizing a with
  | zero =>
      refine ⟨a, Int.le_refl a, ?_, inside⟩
      have bounded := inside.reach_le (by omega)
      have square := mul_self_nonneg b
      dsimp only [reach] at *
      rw [show a = radius by omega]
      rw [excess]
      omega
  | succ steps induction =>
      by_cases lower : -reach a b ≤ excess radius a b
      · exact ⟨a, Int.le_refl a, lower, inside⟩
      · have right := excess_left radius (a + 1) b
        rw [Int.add_sub_cancel] at right
        have further : InDisc radius (a + 1) b := by
          dsimp only [InDisc, reach] at *
          omega
        rcases induction further (by omega) (by omega) with ⟨c, beyond, onCircle⟩
        exact ⟨c, by omega, onCircle⟩

/-- A filled circle is the disc. -/
theorem sets_drawCircle_filled :
    Sets (drawCircle centerX centerY radius penColor true) a b ↔
      1 ≤ radius ∧ InDisc radius (a - centerX) (b - centerY) := by
  rw [sets_drawCircle]
  by_cases positive : 1 ≤ radius
  · simp only [sets_circlePixels, if_true, positive, true_and]
    rw [← inDisc_natAbs]
    constructor
    · intro found
      rcases found with ⟨state, visited, place⟩
      rcases (mem_circleStates positive state.x state.y).mp ⟨state, visited, rfl, rfl⟩ with
        ⟨x_neg, y_nonneg, onCircle⟩
      rcases place with ⟨i, range, place⟩ | ⟨i, range, place⟩
      · have height : ((b - centerY).natAbs : Int) = state.y := by omega
        rw [height, inDisc_comm]
        exact (inDisc_comm.mp onCircle.2).lower y_nonneg (by omega) (by omega)
      · have height : ((b - centerY).natAbs : Int) = -state.x := by omega
        rw [height, inDisc_comm]
        exact onCircle.2.lower (by omega) (by omega) (by omega)
    · intro inside
      rcases inside.beside (by omega) (by omega) positive with ⟨c, beyond, onCircle⟩
      by_cases onAxis : c = 0
      · rw [onAxis] at onCircle
        have somewhere : b - centerY ≠ 0 := by
          intro center
          rw [center] at onCircle
          exact not_onCircle_center positive onCircle
        rcases (mem_circleStates positive (-(b - centerY).natAbs) 0).mpr
          ⟨by omega, by omega, onCircle.of_sizes (by omega)⟩ with ⟨state, visited, isX, isY⟩
        refine ⟨state, visited, .inr ⟨0, by omega, ?_⟩⟩
        omega
      by_cases horizontal : (0 ≤ a - centerX ∧ 0 ≤ b - centerY) ∨
          (a - centerX ≤ 0 ∧ b - centerY ≤ 0)
      · rcases (mem_circleStates positive (-c) (b - centerY).natAbs).mpr
          ⟨by omega, by omega, onCircle.of_sizes (by omega)⟩ with ⟨state, visited, isX, isY⟩
        refine ⟨state, visited, .inl ⟨-(a - centerX).natAbs, by omega, ?_⟩⟩
        omega
      · rcases (mem_circleStates positive (-(b - centerY).natAbs) c).mpr
          ⟨by omega, by omega, onCircle.of_sizes (by omega)⟩ with ⟨state, visited, isX, isY⟩
        refine ⟨state, visited, .inr ⟨(a - centerX).natAbs, by omega, ?_⟩⟩
        omega
  · rw [circleStates_empty positive]
    exact iff_of_false (fun found => by simp at found) (fun both => positive both.1)

/-- What a circle sets, relative to its center. -/
def CircleSets (centerX centerY radius : Int) (penColor : UInt16) (filled : Bool) (a b : Int) :
    Prop :=
  Sets (drawCircle centerX centerY radius penColor filled) (centerX + a) (centerY + b)

theorem circleSets_outline (positive : 1 ≤ radius) :
    CircleSets centerX centerY radius penColor false a b ↔ OnCircle radius a b := by
  rw [CircleSets, sets_drawCircle_outline, add_sub_cancel_left, add_sub_cancel_left]
  exact and_iff_right positive

theorem circleSets_filled (positive : 1 ≤ radius) :
    CircleSets centerX centerY radius penColor true a b ↔ InDisc radius a b := by
  rw [CircleSets, sets_drawCircle_filled, add_sub_cancel_left, add_sub_cancel_left]
  exact and_iff_right positive

end Pixels

end PigweedExperimental.Draw
