import PigweedExperimental.Draw.Circle
import PigweedExperimental.Foundation.LatticePath
import PigweedExperimental.Foundation.MachineInt

namespace PigweedExperimental.Draw

/-! # The outline of a circle as a ring

Without filling, an iteration sets one point of the first quarter of the circle and
its images in the other quarters. The points of the iterations are a path to the
next axis, so that the four quarters close to a ring.
-/

open LatticePath

/-- A point of the first quarter, relative to the center. -/
def CircleState.offset (state : CircleState) : Int × Int := (-state.x, state.y)

/-- The points of the iterations, in order. -/
def circleArc (radius : Int) : List (Int × Int) := (circleStates radius).map CircleState.offset

/-- A point and its images, in the order in which an iteration sets them. -/
def quarterPixels (centerX centerY : Int) (penColor : UInt16) (offset : Int × Int) :
    List SetPixel := [
  ⟨centerX + offset.1, centerY + offset.2, penColor⟩,
  ⟨centerX - offset.1, centerY - offset.2, penColor⟩,
  ⟨centerX - offset.2, centerY + offset.1, penColor⟩,
  ⟨centerX + offset.2, centerY - offset.1, penColor⟩]

/-- The four quarters, one after another. -/
def circleRing (radius : Int) : List (Int × Int) := rounds quarterTurn (circleArc radius) 4

/-- What a coordinate that goes on by one computes as `int`s. -/
def advanceValues (coordinate errorValue : Int) : List Int :=
  let next := coordinate + 1
  [next, next * 2, next * 2 + 1, errorValue + (next * 2 + 1)]

/-- What the end of an iteration computes as `int`s. The list repeats the branches of
`circleStep` and has to change with it: a step keeps only its last values, and the
values in between have to fit as well. -/
def circleStepValues (state : CircleState) : List Int :=
  let radius := state.errorValue
  let upwards := radius ≤ state.y
  let y := if upwards then state.y + 1 else state.y
  let errorValue := if upwards then state.errorValue + (y * 2 + 1) else state.errorValue
  (if upwards then advanceValues state.y state.errorValue else []) ++
    if radius > state.x ∨ errorValue > y then advanceValues state.x errorValue else []

/-- What the loop computes as `int`s, its start included. -/
def circleValues (radius : Int) : List Int :=
  [-radius, 2 * radius, 2 - 2 * radius] ++ (circleStates radius).flatMap circleStepValues

section Arc

variable {radius centerX centerY : Int} {penColor : UInt16} {state : CircleState}

theorem intRange_single (value : Int) : intRange value (value + 1) = [value] := by
  rw [intRange, add_sub_cancel_left]
  change [value + 0] = [value]
  rw [Int.add_zero]

theorem circlePixels_outline :
    circlePixels centerX centerY penColor false state =
      quarterPixels centerX centerY penColor state.offset := by
  simp only [circlePixels, Bool.false_eq_true, if_false, intRange_single, List.flatMap_singleton]
  dsimp only [quarterPixels, CircleState.offset]
  rw [Int.sub_neg, Int.sub_eq_add_neg, ← Int.sub_eq_add_neg, Int.sub_neg]
  rfl

theorem drawCircle_outline :
    drawCircle centerX centerY radius penColor false =
      (circleArc radius).flatMap (quarterPixels centerX centerY penColor) := by
  rw [circleArc, List.flatMap_map]
  apply List.flatMap_congr
  intro state _
  exact circlePixels_outline

/-- The loop goes from a state to the next one. -/
theorem circleLoop_steps (iterations : Nat) (state : CircleState) :
    ((circleLoop iterations state).1 ++ [(circleLoop iterations state).2]).head? = some state ∧
      ((circleLoop iterations state).1 ++ [(circleLoop iterations state).2]).IsChain
        (fun before after => circleStep before = after) := by
  induction iterations generalizing state with
  | zero => exact ⟨rfl, List.isChain_singleton _⟩
  | succ iterations induction =>
      rw [circleLoop]
      split
      · rcases induction (circleStep state) with ⟨starts, chain⟩
        refine ⟨rfl, chain.cons ?_⟩
        intro next isNext
        rw [starts] at isNext
        exact Option.some.inj isNext
      · exact ⟨rfl, List.isChain_singleton _⟩

theorem allAtPoints (positive : 1 ≤ radius) (visited : state ∈ circleStates radius) :
    AtPoint radius state :=
  (circleLoop_visits positive (atPoint_initial positive) (enough_iterations positive)).2.1
    state visited

theorem AtPoint.adjacent (atPoint : AtPoint radius state) :
    Adjacent state.offset (circleStep state).offset := by
  rcases circleStep_cases atPoint with ⟨_, goesLeft, goesUp, moves, _⟩
  refine ⟨?_, ?_, ?_⟩
  · intro same
    rcases Prod.mk.inj same with ⟨sameX, sameY⟩
    omega
  · apply abs_le.mpr
    dsimp only [CircleState.offset]
    omega
  · apply abs_le.mpr
    dsimp only [CircleState.offset]
    omega

/-- The last point before the vertical axis touches the highest one on it. -/
theorem OnCircle.adjacent_top {b : Int} (onCircle : OnCircle radius 1 b) (positive : 1 ≤ radius)
    (nonneg : 0 ≤ b) : Adjacent (1, b) (0, radius) := by
  have near := onCircle.2.reach_le (by omega)
  have lower := onCircle.1
  have top := excess_up radius 1 (radius - 1)
  have atTop : excess radius 1 radius = 1 := by
    rw [excess]
    ring
  rw [Int.sub_add_cancel, atTop] at top
  have high : radius - 1 ≤ b := by
    by_contra below
    have falls := @excess_lower radius 1 (radius - 1) b nonneg (by omega)
    dsimp only [reach] at *
    omega
  dsimp only [reach] at near
  refine ⟨?_, ?_, ?_⟩
  · intro same
    exact absurd (Prod.mk.inj same).1 one_ne_zero
  · apply abs_le.mpr
    dsimp only
    omega
  · apply abs_le.mpr
    dsimp only
    omega

theorem head?_circleArc (positive : 1 ≤ radius) : (circleArc radius).head? = some (radius, 0) := by
  rcases circleLoop_steps (circleIterations radius) (.initial radius) with ⟨starts, _⟩
  rw [List.head?_append, ← circleStates] at starts
  rw [circleArc, List.head?_map]
  cases states : circleStates radius with
  | nil =>
      rcases (mem_circleStates positive (-radius) 0).mpr ⟨by omega, Int.le_refl 0,
        (atPoint_initial positive).onCircle⟩ with ⟨state, visited, _⟩
      rw [states] at visited
      cases visited
  | cons first states' =>
      rw [states] at starts
      cases starts
      change some (- -radius, 0) = some (radius, 0)
      rw [Int.neg_neg]

/-- The points of the iterations lead up to the top. -/
theorem circleArc_path (positive : 1 ≤ radius) :
    (circleArc radius).IsChain Adjacent ∧
      ∀ last ∈ (circleArc radius).getLast?, Adjacent last (0, radius) := by
  rcases circleLoop_steps (circleIterations radius) (.initial radius) with ⟨_, steps⟩
  have ends := (circleLoop_visits positive (atPoint_initial positive)
    (enough_iterations positive)).1
  rw [← circleStates] at steps
  constructor
  · have chain : (circleStates radius ++ [_]).IsChain
        (fun (before after : CircleState) => Adjacent before.offset after.offset) :=
      isChain_of_steps steps (fun _ => allAtPoints positive) fun _ => AtPoint.adjacent
    rw [circleArc, List.isChain_map]
    exact chain.left_of_append
  · intro last isLast
    rw [circleArc, List.getLast?_map] at isLast
    rcases Option.map_eq_some_iff.mp isLast with ⟨state, isState, rfl⟩
    have visited := List.mem_of_getLast? isState
    have atPoint := allAtPoints positive visited
    -- the step from the last state ends the loop
    have step : circleStep state = _ := (List.isChain_append.mp steps).2.2 state isState _ rfl
    rcases circleStep_cases atPoint with ⟨_, goesLeft, _⟩
    have x_neg := atPoint.x_neg
    rw [step, ends] at goesLeft
    have beside : -state.x = 1 := by omega
    have onCircle := atPoint.onCircle
    rw [beside] at onCircle
    rw [CircleState.offset, beside]
    exact onCircle.adjacent_top positive atPoint.y_nonneg

theorem mem_circleArc (positive : 1 ≤ radius) {a b : Int} :
    (a, b) ∈ circleArc radius ↔ 0 < a ∧ 0 ≤ b ∧ OnCircle radius a b := by
  have states := mem_circleStates positive (-a) b
  rw [Int.neg_neg] at states
  rw [circleArc, List.mem_map]
  constructor
  · rintro ⟨state, visited, place⟩
    rcases Prod.mk.inj place with ⟨rfl, rfl⟩
    rcases states.mp ⟨state, visited, (Int.neg_neg _).symm, rfl⟩ with ⟨x_neg, rest⟩
    exact ⟨by omega, rest⟩
  · rintro ⟨a_pos, rest⟩
    rcases states.mpr ⟨by omega, rest⟩ with ⟨state, visited, isX, isY⟩
    refine ⟨state, visited, Prod.ext ?_ isY⟩
    change -state.x = a
    omega

theorem OnCircle.turned {offset : Int × Int} (onCircle : OnCircle radius offset.1 offset.2)
    (times : Nat) :
    OnCircle radius (quarterTurn^[times] offset).1 (quarterTurn^[times] offset).2 := by
  induction times with
  | zero => exact onCircle
  | succ times induction =>
      rw [Function.iterate_succ_apply']
      apply induction.of_sizes
      dsimp only [quarterTurn]
      omega

/-- The outline consists of the points of the ring. -/
theorem mem_circleRing (positive : 1 ≤ radius) {a b : Int} :
    (a, b) ∈ circleRing radius ↔ OnCircle radius a b := by
  rw [circleRing, mem_rounds]
  constructor
  · rintro ⟨times, _, ⟨c, d⟩, isStart, turned⟩
    have onCircle := ((mem_circleArc positive).mp isStart).2.2
    have here := @OnCircle.turned _ (c, d) onCircle times
    rw [turned] at here
    exact here
  · intro onCircle
    have quarters : 0 < a ∧ 0 ≤ b ∨ a ≤ 0 ∧ 0 < b ∨ a < 0 ∧ b ≤ 0 ∨ 0 ≤ a ∧ b < 0 := by
      by_contra center
      have atCenter : a = 0 ∧ b = 0 := by omega
      rw [atCenter.1, atCenter.2] at onCircle
      exact not_onCircle_center positive onCircle
    rcases quarters with first | second | third | fourth
    · exact ⟨0, by omega, (a, b), (mem_circleArc positive).mpr ⟨first.1, first.2, onCircle⟩, rfl⟩
    · refine ⟨1, by omega, (b, -a), (mem_circleArc positive).mpr
        ⟨second.2, by omega, onCircle.of_sizes (by omega)⟩, ?_⟩
      simp [quarterTurn]
    · refine ⟨2, by omega, (-a, -b), (mem_circleArc positive).mpr
        ⟨by omega, by omega, onCircle.of_sizes (by omega)⟩, ?_⟩
      simp [quarterTurn]
    · refine ⟨3, by omega, (-b, a), (mem_circleArc positive).mpr
        ⟨by omega, by omega, onCircle.of_sizes (by omega)⟩, ?_⟩
      simp [quarterTurn]

/-- The points are as near to the circle as their distance from an axis. -/
theorem OnCircle.abs_excess_le {a b : Int} (onCircle : OnCircle radius a b)
    (positive : 1 ≤ radius) : |excess radius a b| ≤ radius := by
  have near := onCircle.2.reach_le (by omega)
  have lower := onCircle.1
  have upper := onCircle.2.1
  rw [abs_le]
  omega

theorem AtPoint.bounds (atPoint : AtPoint radius state) (positive : 1 ≤ radius) :
    -state.x ≤ radius ∧ state.y ≤ radius ∧
      -(3 * radius) ≤ state.errorValue ∧ state.errorValue ≤ 3 * radius + 2 := by
  have near := atPoint.onCircle.2.reach_le (by omega)
  have close := abs_le.mp (atPoint.onCircle.abs_excess_le positive)
  have left := excess_left radius (-state.x) (state.y + 1)
  have up := excess_up radius (-state.x) state.y
  have error_eq := atPoint.error_eq
  have x_neg := atPoint.x_neg
  have y_nonneg := atPoint.y_nonneg
  dsimp only [reach] at near
  omega

theorem fitsInt_advanceValues {coordinate errorValue value : Int}
    (near : -2 ^ 28 ≤ coordinate ∧ coordinate ≤ 2 ^ 28)
    (small : -2 ^ 30 ≤ errorValue ∧ errorValue ≤ 2 ^ 30)
    (computed : value ∈ advanceValues coordinate errorValue) : FitsInt value := by
  dsimp only [advanceValues] at computed
  simp only [List.mem_cons, List.not_mem_nil, or_false] at computed
  rw [FitsInt]
  omega

/-- No computation of the loop leaves the range of `int`. -/
theorem fitsInt_circleValues (positive : 1 ≤ radius) (bounded : radius ≤ 2 ^ 28) {value : Int}
    (computed : value ∈ circleValues radius) : FitsInt value := by
  rw [circleValues, List.mem_append, List.mem_flatMap] at computed
  rw [FitsInt]
  rcases computed with start | ⟨state, visited, computed⟩
  · simp only [List.mem_cons, List.not_mem_nil, or_false] at start
    omega
  · have atPoint := allAtPoints positive visited
    have bounds := atPoint.bounds positive
    have x_neg := atPoint.x_neg
    have y_nonneg := atPoint.y_nonneg
    dsimp only [circleStepValues] at computed
    rw [List.mem_append] at computed
    rcases computed with upwards | leftwards
    · rw [List.mem_ite_nil_right] at upwards
      exact fitsInt_advanceValues (by omega) (by omega) upwards.2
    · rw [List.mem_ite_nil_right] at leftwards
      apply fitsInt_advanceValues _ _ leftwards.2
      · omega
      · split <;> omega

/-- The outline of a circle, relative to its center, is as accurate as its radius
allows and closes to a ring without gaps. -/
theorem drawCircle_outline_isRing (positive : 1 ≤ radius) (bounded : radius ≤ 2 ^ 28) :
    -- the loop ends, in the range of `int`
    (¬(circleLoop (circleIterations radius) (.initial radius)).2.x < 0 ∧
      ∀ value ∈ circleValues radius, FitsInt value) ∧
    (∀ a b, CircleSets centerX centerY radius penColor false a b →
      |a * a + b * b - radius * radius| ≤ radius) ∧
    (∀ a b, CircleSets centerX centerY radius penColor false a b →
      CircleSets centerX centerY radius penColor false (-b) a) ∧
    (CircleSets centerX centerY radius penColor false radius 0 ∧
      CircleSets centerX centerY radius penColor false 0 radius) ∧
    -- one point of the first quarter for each iteration
    (drawCircle centerX centerY radius penColor false =
        (circleArc radius).flatMap (quarterPixels centerX centerY penColor) ∧
      ∀ offset ∈ circleArc radius, 0 < offset.1 ∧ 0 ≤ offset.2) ∧
    ((circleArc radius).head? = some (radius, 0) ∧ (circleArc radius).IsChain Adjacent ∧
      ∀ last ∈ (circleArc radius).getLast?, Adjacent last (quarterTurn (radius, 0))) ∧
    (∀ a b, CircleSets centerX centerY radius penColor false a b ↔ (a, b) ∈ circleRing radius) ∧
    (circleRing radius ++ [(radius, 0)]).IsChain Adjacent := by
  rcases circleArc_path positive with ⟨chain, continues⟩
  have top : quarterTurn (radius, 0) = (0, radius) := rfl
  have right : OnCircle radius radius 0 := by
    have atStart := (atPoint_initial positive).onCircle
    change OnCircle radius (- -radius) 0 at atStart
    rw [Int.neg_neg] at atStart
    exact atStart
  simp only [circleSets_outline positive, mem_circleRing positive, implies_true, true_and]
  refine ⟨⟨circleLoop_ends radius, fun value => fitsInt_circleValues positive bounded⟩,
    fun a b onCircle => onCircle.abs_excess_le positive, ?_, ⟨right, onCircle_comm.mp right⟩,
    ⟨drawCircle_outline, ?_⟩, ⟨head?_circleArc positive, chain, ?_⟩, ?_⟩
  · intro a b onCircle
    exact @OnCircle.turned _ (a, b) onCircle 1
  · rintro ⟨a, b⟩ isPoint
    rw [mem_circleArc positive] at isPoint
    exact ⟨isPoint.1, isPoint.2.1⟩
  · rw [top]
    exact continues
  · apply isChain_ring (head?_circleArc positive) chain
    rw [top]
    exact continues

theorem drawCircle_outline_isRing_three :
    (circleRing 3 ++ [(3, 0)]).IsChain Adjacent :=
  (@drawCircle_outline_isRing 3 0 0 0 (by decide) (by decide)).2.2.2.2.2.2.2

end Arc

end PigweedExperimental.Draw
