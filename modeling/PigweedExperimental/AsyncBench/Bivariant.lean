import PigweedExperimental.Foundation.Lifetime

namespace PigweedExperimental.AsyncBench

/-! # `bivariant`

A union of two members with a tag. The members keep their lifetimes apart from
the tag: every operation constructs, assigns and destroys by hand, and the
storage records what happens to it. Operations that the source has once for each
alternative are written once here, over the value together with its alternative.
-/

/-- A type whose values can be moved from, and what is left behind then. -/
class Movable (T : Type) where
  movedFrom : T → T

inductive Tag where
  | tagA
  | tagB
  deriving DecidableEq, Repr

def Tag.other : Tag → Tag
  | .tagA => .tagB
  | .tagB => .tagA

/-- The alternative of a value. -/
def tagOf {A B : Type} : A ⊕ B → Tag
  | .inl _ => .tagA
  | .inr _ => .tagB

/-- What is left of a value after a move from it. -/
def movedSum {A B : Type} [Movable A] [Movable B] : A ⊕ B → A ⊕ B :=
  Sum.map Movable.movedFrom Movable.movedFrom

/-- The live member of the union, if any, the tag, and what happened so far. -/
structure Bivariant (A B : Type) where
  storage : Option (A ⊕ B)
  tag : Tag
  events : List (LifetimeEvent Tag)

namespace Bivariant

variable {A B : Type}

def isA (object : Bivariant A B) : Bool :=
  object.tag = .tagA

def isB (object : Bivariant A B) : Bool :=
  object.tag = .tagB

/-- Reading a member that is not alive is undefined. -/
def valueA (object : Bivariant A B) : Option A :=
  object.storage.bind Sum.getLeft?

def valueB (object : Bivariant A B) : Option B :=
  object.storage.bind Sum.getRight?

/-- The member that the tag names. -/
def payload (object : Bivariant A B) : Option (A ⊕ B) :=
  if object.tag = .tagA then
    object.valueA.map .inl
  else
    object.valueB.map .inr

/-- A write through a reference to the live member. -/
def write (object : Bivariant A B) (value : A ⊕ B) : Bivariant A B :=
  { object with storage := some value }

/-- `MakeA` and `MakeB`: the tag, and a placement new of the member. -/
def make (object : Bivariant A B) (value : A ⊕ B) : Bivariant A B where
  storage := some value
  tag := tagOf value
  events := object.events ++ [.construct (tagOf value)]

/-- The destructor call of a member. -/
def destroyMember (object : Bivariant A B) (tag : Tag) : Bivariant A B :=
  { object with
    storage := none
    events := object.events ++ [.destroy tag] }

/-- An object whose union holds `unused_` only. -/
def unused (tag : Tag) : Bivariant A B where
  storage := none
  tag
  events := []

/-- A constructor that initialises one member. -/
def initialised (value : A ⊕ B) : Bivariant A B where
  storage := some value
  tag := tagOf value
  events := [.construct (tagOf value)]

/-- The constructors from an `A&&` and a `B&&`. -/
def ofA (value : A) : Bivariant A B :=
  initialised (.inl value)

def ofB (value : B) : Bivariant A B :=
  initialised (.inr value)

/-- The constructors in place, by the value that their arguments make. -/
def inPlaceA (value : A) : Bivariant A B :=
  initialised (.inl value)

def inPlaceB (value : B) : Bivariant A B :=
  initialised (.inr value)

def copyConstruct (other : Bivariant A B) : Option (Bivariant A B) :=
  other.payload.map (unused other.tag).make

/-- An assignment from a payload: the member is assigned to if it is alive, and
takes the place of the other member if not. -/
def assignPayload (object : Bivariant A B) (value : A ⊕ B) : Bivariant A B :=
  if object.tag = tagOf value then
    { object with
      storage := some value
      events := object.events ++ [.assign (tagOf value)] }
  else
    (object.destroyMember (tagOf value).other).make value

/-- The assignments from a `const A&` and a `const B&`, and from an `A&&` and a
`B&&`. -/
def assignA (object : Bivariant A B) (other : A) : Bivariant A B :=
  object.assignPayload (.inl other)

def assignB (object : Bivariant A B) (other : B) : Bivariant A B :=
  object.assignPayload (.inr other)

def moveAssignA (object : Bivariant A B) (other : A) : Bivariant A B :=
  object.assignPayload (.inl other)

def moveAssignB (object : Bivariant A B) (other : B) : Bivariant A B :=
  object.assignPayload (.inr other)

/-- The copy assignment; `same` says that the object is the other one itself. -/
def assign (object other : Bivariant A B) (same : Bool) : Option (Bivariant A B) :=
  if same then
    some object
  else
    other.payload.map object.assignPayload

def destruct (object : Bivariant A B) : Bivariant A B :=
  if object.tag = .tagA then
    object.destroyMember .tagA
  else
    object.destroyMember .tagB

variable [Movable A] [Movable B]

/-- The member that the tag names is moved from: its value, and the object
afterwards. -/
def moveOut (object : Bivariant A B) : Option ((A ⊕ B) × Bivariant A B) :=
  object.payload.map fun value => (value, object.write (movedSum value))

/-- The new object, and the other one afterwards. -/
def moveConstruct (other : Bivariant A B) : Option (Bivariant A B × Bivariant A B) :=
  other.moveOut.map fun (value, left) => ((unused other.tag).make value, left)

/-- The move assignment has no check for the object itself. -/
def moveAssign (object other : Bivariant A B) : Option (Bivariant A B × Bivariant A B) :=
  other.moveOut.map fun (value, left) => (object.assignPayload value, left)

end Bivariant

/-! ## What an object holds -/

namespace Bivariant

variable {A B : Type} {object other : Bivariant A B} {value otherValue : A ⊕ B}

/-- The object stands for the value: it is alive in the storage, as what the tag
says, and everything that was alive before is destroyed. -/
structure Holds (object : Bivariant A B) (value : A ⊕ B) : Prop where
  storage : object.storage = some value
  tag : object.tag = tagOf value
  alive : Alive (tagOf value) object.events

theorem Holds.isA (holds : object.Holds value) : object.isA = value.isLeft := by
  rw [Bivariant.isA, holds.tag]
  cases value <;> rfl

theorem Holds.isB (holds : object.Holds value) : object.isB = value.isRight := by
  rw [Bivariant.isB, holds.tag]
  cases value <;> rfl

theorem Holds.valueA (holds : object.Holds value) : object.valueA = value.getLeft? := by
  rw [Bivariant.valueA, holds.storage, Option.bind_some]

theorem Holds.valueB (holds : object.Holds value) : object.valueB = value.getRight? := by
  rw [Bivariant.valueB, holds.storage, Option.bind_some]

/-- The tag names a member that is alive. -/
theorem Holds.payload (holds : object.Holds value) : object.payload = some value := by
  rw [Bivariant.payload, holds.tag, holds.valueA, holds.valueB]
  cases value <;> rfl

theorem initialised_holds (value : A ⊕ B) : (initialised value).Holds value :=
  ⟨rfl, rfl, .fresh _⟩

theorem make_unused_holds (tag : Tag) (value : A ⊕ B) : ((unused tag).make value).Holds value :=
  ⟨rfl, rfl, .fresh _⟩

theorem Holds.write (holds : object.Holds value) (same : tagOf otherValue = tagOf value) :
    (object.write otherValue).Holds otherValue where
  storage := rfl
  tag := holds.tag.trans same.symm
  alive := by
    rw [same]
    exact holds.alive

theorem tagOf_movedSum [Movable A] [Movable B] (value : A ⊕ B) :
    tagOf (movedSum value) = tagOf value := by
  cases value <;> rfl

theorem Holds.copyConstruct (holds : other.Holds value) :
    ∃ object, other.copyConstruct = some object ∧ object.Holds value := by
  refine ⟨(unused other.tag).make value, ?_, make_unused_holds _ value⟩
  rw [Bivariant.copyConstruct, holds.payload, Option.map_some]

theorem other_eq_of_ne {tag : Tag} (different : tag ≠ tagOf value) :
    (tagOf value).other = tag := by
  cases tag <;> cases value <;> first | rfl | exact absurd rfl different

theorem Holds.assignPayload (holds : object.Holds value) (otherValue : A ⊕ B) :
    (object.assignPayload otherValue).Holds otherValue := by
  rw [Bivariant.assignPayload]
  by_cases same : object.tag = tagOf otherValue
  · have alive := holds.alive
    rw [← holds.tag, same] at alive
    rw [if_pos same]
    exact ⟨rfl, same, alive.assign⟩
  · have alive := holds.alive
    rw [← holds.tag, ← other_eq_of_ne same] at alive
    rw [if_neg same]
    exact ⟨rfl, rfl, alive.destroy.construct _⟩

theorem Holds.assign (holds : object.Holds value) (otherHolds : other.Holds otherValue) :
    ∃ next, object.assign other false = some next ∧ next.Holds otherValue := by
  refine ⟨_, ?_, holds.assignPayload otherValue⟩
  simp [Bivariant.assign, otherHolds.payload]

/-- The destructor ends the last lifetime in the storage. -/
theorem Holds.destruct (holds : object.Holds value) : Lifetimes object.destruct.events := by
  rw [Bivariant.destruct, holds.tag]
  cases value with
  | inl _ => exact holds.alive.destroy
  | inr _ => exact holds.alive.destroy

variable [Movable A] [Movable B]

theorem Holds.moveOut (holds : object.Holds value) :
    ∃ left, object.moveOut = some (value, left) ∧ left.Holds (movedSum value) := by
  refine ⟨object.write (movedSum value), ?_, holds.write (tagOf_movedSum value)⟩
  rw [Bivariant.moveOut, holds.payload, Option.map_some]

theorem Holds.moveConstruct (holds : other.Holds value) :
    ∃ object left, other.moveConstruct = some (object, left) ∧ object.Holds value ∧
      left.Holds (movedSum value) := by
  rcases holds.moveOut with ⟨left, moved, leftHolds⟩
  refine ⟨_, left, ?_, make_unused_holds other.tag value, leftHolds⟩
  rw [Bivariant.moveConstruct, moved, Option.map_some]

theorem Holds.moveAssign (holds : object.Holds value) (otherHolds : other.Holds otherValue) :
    ∃ next left, object.moveAssign other = some (next, left) ∧ next.Holds otherValue ∧
      left.Holds (movedSum otherValue) := by
  rcases otherHolds.moveOut with ⟨left, moved, leftHolds⟩
  refine ⟨_, left, ?_, holds.assignPayload otherValue, leftHolds⟩
  rw [Bivariant.moveAssign, moved, Option.map_some]

end Bivariant

end PigweedExperimental.AsyncBench
