import PigweedExperimental.AsyncBench.Bivariant
import PigweedExperimental.Foundation.Execution
import Mathlib.Logic.Function.Basic
import Mathlib.Data.Option.Basic

namespace PigweedExperimental.AsyncBench

/-! # Programs over `bivariant` objects

Any number of objects are constructed, assigned to each other and destroyed, and
a plain sum type keeps up with them.
-/

/-- The argument of a constructor or an assignment from a payload: a value that is
no part of an object, or the payload of another object. -/
inductive Source (A B : Type) where
  | temporary (value : A ⊕ B)
  | payload (name : Nat)

inductive Command (A B : Type) where
  | construct (name : Nat) (source : Source A B)
  | inPlace (name : Nat) (value : A ⊕ B)
  | copyConstruct (name other : Nat)
  | moveConstruct (name other : Nat)
  | assignValue (name : Nat) (source : Source A B)
  | moveAssignValue (name : Nat) (source : Source A B)
  | assign (name other : Nat)
  | moveAssign (name other : Nat)
  | destroy (name : Nat)

/-- The objects by their names, and the events of the objects that are no more. -/
structure World (A B : Type) where
  objects : Nat → Option (Bivariant A B)
  destroyed : List (List (LifetimeEvent Tag))

namespace World

variable {A B : Type}

def empty : World A B where
  objects := fun _ => none
  destroyed := []

def place (world : World A B) (name : Nat) (object : Bivariant A B) : World A B :=
  { world with objects := Function.update world.objects name (some object) }

def read (world : World A B) : Source A B → Option (A ⊕ B)
  | .temporary value => some value
  | .payload name => (world.objects name).bind Bivariant.payload

/-- The payload of another object can be an argument, but not the object's own. -/
def AvailableTo (world : World A B) (target : Nat) : Source A B → Prop
  | .temporary _ => True
  | .payload name => (world.objects name).isSome = true ∧ name ≠ target

def Enabled (world : World A B) : Command A B → Prop
  | .construct name source => world.objects name = none ∧ world.AvailableTo name source
  | .inPlace name _ => world.objects name = none
  | .copyConstruct name other | .moveConstruct name other =>
      world.objects name = none ∧ (world.objects other).isSome = true
  | .assignValue name source | .moveAssignValue name source =>
      (world.objects name).isSome = true ∧ world.AvailableTo name source
  | .assign name other =>
      (world.objects name).isSome = true ∧ (world.objects other).isSome = true
  | .moveAssign name other =>
      (world.objects name).isSome = true ∧ (world.objects other).isSome = true ∧ other ≠ name
  | .destroy name => (world.objects name).isSome = true

variable [Movable A] [Movable B]

/-- The argument is moved from. -/
def take (world : World A B) : Source A B → Option ((A ⊕ B) × World A B)
  | .temporary value => some (value, world)
  | .payload name => do
      let object ← world.objects name
      let (value, left) ← object.moveOut
      return (value, world.place name left)

def step (world : World A B) : Command A B → Option (World A B)
  | .construct name source => do
      let (value, world) ← world.take source
      return world.place name (value.elim .ofA .ofB)
  | .inPlace name value =>
      some (world.place name (value.elim .inPlaceA .inPlaceB))
  | .copyConstruct name other => do
      let object ← (← world.objects other).copyConstruct
      return world.place name object
  | .moveConstruct name other => do
      let (object, left) ← (← world.objects other).moveConstruct
      return (world.place other left).place name object
  | .assignValue name source => do
      let object ← world.objects name
      let value ← world.read source
      return world.place name (value.elim object.assignA object.assignB)
  | .moveAssignValue name source => do
      let object ← world.objects name
      let (value, world) ← world.take source
      return world.place name (value.elim object.moveAssignA object.moveAssignB)
  | .assign name other => do
      let object ← world.objects name
      let next ← object.assign (← world.objects other) (name = other)
      return world.place name next
  | .moveAssign name other => do
      let object ← world.objects name
      let (next, left) ← object.moveAssign (← world.objects other)
      return (world.place other left).place name next
  | .destroy name => do
      let object ← world.objects name
      return {
        objects := Function.update world.objects name none
        destroyed := object.destruct.events :: world.destroyed }

def machine (A B : Type) [Movable A] [Movable B] : Machine (World A B) (Command A B) where
  Enabled := Enabled
  step := step

end World

/-! ## The sum type -/

/-- Plain variables of the sum type. -/
abbrev Sums (A B : Type) := Nat → Option (A ⊕ B)

namespace Sums

variable {A B : Type}

def read (sums : Sums A B) : Source A B → Option (A ⊕ B)
  | .temporary value => some value
  | .payload name => sums name

variable [Movable A] [Movable B]

def moveFrom (sums : Sums A B) (name : Nat) : Sums A B :=
  Function.update sums name ((sums name).map movedSum)

def take (sums : Sums A B) : Source A B → Sums A B
  | .temporary _ => sums
  | .payload name => sums.moveFrom name

def step (sums : Sums A B) : Command A B → Sums A B
  | .construct name source => Function.update (sums.take source) name (sums.read source)
  | .inPlace name value => Function.update sums name (some value)
  | .copyConstruct name other => Function.update sums name (sums other)
  | .moveConstruct name other => Function.update (sums.moveFrom other) name (sums other)
  | .assignValue name source => Function.update sums name (sums.read source)
  | .moveAssignValue name source => Function.update (sums.take source) name (sums.read source)
  | .assign name other => Function.update sums name (sums other)
  | .moveAssign name other => Function.update (sums.moveFrom other) name (sums other)
  | .destroy name => Function.update sums name none

end Sums

namespace World

variable {A B : Type} {world next : World A B} {sums : Sums A B}

/-- Every object holds the value of its variable, and every object that is no more
has destroyed what it held. -/
structure Represents (world : World A B) (sums : Sums A B) : Prop where
  holds : ∀ name, Option.Rel Bivariant.Holds (world.objects name) (sums name)
  destroyed : ∀ events ∈ world.destroyed, Lifetimes events

theorem represents_empty : (empty : World A B).Represents fun _ => none where
  holds := fun _ => .none
  destroyed := by simp [empty]

theorem Represents.object {name : Nat} (represents : world.Represents sums)
    (present : (world.objects name).isSome = true) :
    ∃ object value, world.objects name = some object ∧ sums name = some value ∧
      object.Holds value := by
  have holds := represents.holds name
  cases found : world.objects name with
  | none =>
      rw [found] at present
      cases present
  | some object =>
      cases kept : sums name with
      | none =>
          rw [found, kept] at holds
          cases holds
      | some value =>
          rw [found, kept] at holds
          cases holds with
          | some holds => exact ⟨object, value, rfl, rfl, holds⟩

theorem Represents.place {object : Bivariant A B} {value : A ⊕ B}
    (represents : world.Represents sums) (name : Nat) (holds : object.Holds value) :
    (world.place name object).Represents (Function.update sums name (some value)) where
  holds := by
    intro other
    by_cases same : other = name
    · simpa [World.place, same] using Option.Rel.some holds
    · simpa [World.place, same] using represents.holds other
  destroyed := represents.destroyed

theorem Represents.read {source : Source A B} {target : Nat}
    (represents : world.Represents sums) (available : world.AvailableTo target source) :
    ∃ value, world.read source = some value ∧ sums.read source = some value := by
  cases source with
  | temporary value => exact ⟨value, rfl, rfl⟩
  | payload name =>
      rcases represents.object available.1 with ⟨object, value, found, kept, holds⟩
      refine ⟨value, ?_, kept⟩
      rw [World.read, found, Option.bind_some, holds.payload]

theorem holds_ofSum (value : A ⊕ B) :
    (value.elim Bivariant.ofA Bivariant.ofB).Holds value := by
  cases value <;> exact Bivariant.initialised_holds _

theorem holds_inPlaceSum (value : A ⊕ B) :
    (value.elim Bivariant.inPlaceA Bivariant.inPlaceB).Holds value := by
  cases value <;> exact Bivariant.initialised_holds _

theorem holds_assignSum {object : Bivariant A B} {before : A ⊕ B} (holds : object.Holds before)
    (value : A ⊕ B) : (value.elim object.assignA object.assignB).Holds value := by
  cases value <;> exact holds.assignPayload _

theorem holds_moveAssignSum {object : Bivariant A B} {before : A ⊕ B}
    (holds : object.Holds before) (value : A ⊕ B) :
    (value.elim object.moveAssignA object.moveAssignB).Holds value := by
  cases value <;> exact holds.assignPayload _

variable [Movable A] [Movable B]

theorem Represents.moveFrom {name : Nat} (represents : world.Represents sums)
    (present : (world.objects name).isSome = true) :
    ∃ object left value, world.objects name = some object ∧
      object.moveOut = some (value, left) ∧ sums name = some value ∧
      (world.place name left).Represents (sums.moveFrom name) := by
  rcases represents.object present with ⟨object, value, found, kept, holds⟩
  rcases holds.moveOut with ⟨left, moved, leftHolds⟩
  refine ⟨object, left, value, found, moved, kept, ?_⟩
  rw [Sums.moveFrom, kept]
  exact represents.place name leftHolds

theorem Represents.take {source : Source A B} {target : Nat}
    (represents : world.Represents sums) (available : world.AvailableTo target source) :
    ∃ value next, world.take source = some (value, next) ∧ sums.read source = some value ∧
      next.objects target = world.objects target ∧ next.Represents (sums.take source) := by
  cases source with
  | temporary value => exact ⟨value, world, rfl, rfl, rfl, represents⟩
  | payload name =>
      rcases represents.moveFrom available.1 with
        ⟨object, left, value, found, moved, kept, nextRepresents⟩
      refine ⟨value, world.place name left, ?_, kept, ?_, nextRepresents⟩
      · simp [World.take, found, moved]
      · simp [World.place, available.2.symm]

theorem Represents.destroy {object : Bivariant A B} {value : A ⊕ B}
    (represents : world.Represents sums) (name : Nat) (holds : object.Holds value) :
    World.Represents {
      objects := Function.update world.objects name none
      destroyed := object.destruct.events :: world.destroyed } (sums.step (.destroy name)) := by
  constructor
  case holds =>
    intro other
    by_cases same : other = name
    · simp [Sums.step, same]
    · simpa [Sums.step, same] using represents.holds other
  case destroyed =>
    intro events isDestroyed
    rcases List.mem_cons.mp isDestroyed with rfl | isEarlier
    · exact holds.destruct
    · exact represents.destroyed events isEarlier

/-- Every command does to the objects what it does to the variables. -/
theorem Represents.step {command : Command A B} (represents : world.Represents sums)
    (enabled : world.Enabled command) :
    ∃ next, world.step command = some next ∧ next.Represents (sums.step command) := by
  cases command with
  | construct name source =>
      rcases represents.take enabled.2 with ⟨value, next, taken, read, _, nextRepresents⟩
      refine ⟨next.place name (value.elim .ofA .ofB), by simp [World.step, taken], ?_⟩
      rw [Sums.step, read]
      exact nextRepresents.place name (holds_ofSum value)
  | inPlace name value =>
      exact ⟨_, rfl, represents.place name (holds_inPlaceSum value)⟩
  | copyConstruct name other =>
      rcases represents.object enabled.2 with ⟨object, value, found, kept, holds⟩
      rcases holds.copyConstruct with ⟨copy, copied, copyHolds⟩
      refine ⟨world.place name copy, by simp [World.step, found, copied], ?_⟩
      rw [Sums.step, kept]
      exact represents.place name copyHolds
  | moveConstruct name other =>
      rcases represents.object enabled.2 with ⟨object, value, found, kept, holds⟩
      rcases holds.moveConstruct with ⟨moved, left, constructed, movedHolds, leftHolds⟩
      refine ⟨(world.place other left).place name moved,
        by simp [World.step, found, constructed], ?_⟩
      rw [Sums.step, Sums.moveFrom, kept]
      exact (represents.place other leftHolds).place name movedHolds
  | assignValue name source =>
      rcases represents.object enabled.1 with ⟨object, before, found, _, holds⟩
      rcases represents.read enabled.2 with ⟨value, worldRead, sumsRead⟩
      refine ⟨world.place name (value.elim object.assignA object.assignB),
        by simp [World.step, found, worldRead], ?_⟩
      rw [Sums.step, sumsRead]
      exact represents.place name (holds_assignSum holds value)
  | moveAssignValue name source =>
      rcases represents.object enabled.1 with ⟨object, before, found, _, holds⟩
      rcases represents.take enabled.2 with ⟨value, next, taken, read, _, nextRepresents⟩
      refine ⟨next.place name (value.elim object.moveAssignA object.moveAssignB),
        by simp [World.step, found, taken], ?_⟩
      rw [Sums.step, read]
      exact nextRepresents.place name (holds_moveAssignSum holds value)
  | assign name other =>
      rcases represents.object enabled.1 with ⟨object, before, found, kept, holds⟩
      rcases represents.object enabled.2 with ⟨source, value, otherFound, otherKept, otherHolds⟩
      by_cases same : name = other
      · refine ⟨world.place name object, by
          simp [World.step, found, ← same, Bivariant.assign], ?_⟩
        rw [Sums.step, ← same, kept]
        exact represents.place name holds
      · rcases holds.assign otherHolds with ⟨next, assigned, nextHolds⟩
        refine ⟨world.place name next, by
          simp [World.step, found, otherFound, same, assigned], ?_⟩
        rw [Sums.step, otherKept]
        exact represents.place name nextHolds
  | moveAssign name other =>
      rcases represents.object enabled.1 with ⟨object, before, found, kept, holds⟩
      rcases represents.object enabled.2.1 with
        ⟨source, value, otherFound, otherKept, otherHolds⟩
      rcases holds.moveAssign otherHolds with ⟨next, left, assigned, nextHolds, leftHolds⟩
      refine ⟨(world.place other left).place name next, by
        simp [World.step, found, otherFound, assigned], ?_⟩
      rw [Sums.step, Sums.moveFrom, otherKept]
      exact (represents.place other leftHolds).place name nextHolds
  | destroy name =>
      rcases represents.object enabled with ⟨object, value, found, _, holds⟩
      exact ⟨_, by simp [World.step, found], represents.destroy name holds⟩

end World

/-- What the member functions tell about an object. -/
def Bivariant.observe {A B : Type} (object : Bivariant A B) : Bool × Option A × Option B :=
  (object.isA, object.valueA, object.valueB)

/-- What a value of the sum type is. -/
def observeSum {A B : Type} (value : A ⊕ B) : Bool × Option A × Option B :=
  (value.isLeft, value.getLeft?, value.getRight?)

theorem Bivariant.Holds.observe {A B : Type} {object : Bivariant A B} {value : A ⊕ B}
    (holds : object.Holds value) : object.observe = observeSum value := by
  rw [Bivariant.observe, holds.isA, holds.valueA, holds.valueB]
  rfl

/-- After every program the member that the tag names is alive in each object, and
was constructed where nothing was alive; the objects that are no more have
destroyed everything they constructed, once; the objects tell the same as
variables of the sum type; and no command that the language allows goes wrong. -/
theorem programs_correct {A B : Type} [Movable A] [Movable B] {commands : List (Command A B)}
    {world : World A B} (run : (World.machine A B).Run .empty commands world) :
    (∀ name object, world.objects name = some object →
      object.storage.map tagOf = some object.tag ∧ Alive object.tag object.events) ∧
    (∀ events ∈ world.destroyed, Lifetimes events) ∧
    (∀ name, (world.objects name).map Bivariant.observe =
      (commands.foldl Sums.step (fun _ => none) name).map observeSum) ∧
    ∀ command, world.Enabled command → ∃ next, world.step command = some next := by
  have represents : world.Represents (commands.foldl Sums.step fun _ => none) := by
    apply run.refines World.Represents Sums.step _ World.represents_empty
    intro state sums command represents enabled
    exact represents.step enabled
  refine ⟨?_, represents.destroyed, ?_, ?_⟩
  · intro name object found
    rcases represents.object (by rw [found]; rfl) with ⟨same, value, isSame, _, holds⟩
    cases found.symm.trans isSame
    refine ⟨?_, ?_⟩
    · rw [holds.storage, holds.tag]
      rfl
    · rw [holds.tag]
      exact holds.alive
  · intro name
    have holds := represents.holds name
    generalize world.objects name = object at holds
    generalize commands.foldl Sums.step (fun _ => none) name = value at holds
    cases holds with
    | none => rfl
    | some holds => exact congrArg some holds.observe
  · intro command enabled
    rcases represents.step enabled with ⟨next, stepped, _⟩
    exact ⟨next, stepped⟩

section Example

instance : Movable Nat := ⟨fun _ => 0⟩

/-- One object changes its alternative and is moved into another one. -/
def changeAndMove : List (Command Nat Nat) :=
  [.construct 0 (.temporary (.inl 5)), .assignValue 0 (.temporary (.inr 6)),
    .moveConstruct 1 0, .destroy 0]

theorem programs_correct_changeAndMove :
    ∃ world : World Nat Nat, (World.machine Nat Nat).Run .empty changeAndMove world ∧
      (∀ events ∈ world.destroyed, Lifetimes events) ∧
      (world.objects 1).map Bivariant.observe = some (false, none, some 6) := by
  have run : (World.machine Nat Nat).Run .empty changeAndMove _ :=
    .cons ⟨rfl, trivial⟩ rfl (.cons ⟨rfl, trivial⟩ rfl (.cons ⟨rfl, rfl⟩ rfl
      (.cons rfl rfl (.nil _))))
  have correct := programs_correct run
  exact ⟨_, run, correct.2.1, correct.2.2.1 1⟩

end Example

end PigweedExperimental.AsyncBench
