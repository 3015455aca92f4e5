import Mathlib.Logic.Function.Basic

namespace PigweedExperimental

/-! # Updates one after another

What a list of updates leaves in a memory. A program that applies them to a concrete
store, piece by piece, does the same to what the store holds.
-/

section Memory

variable {Place : Type u} {Value : Type v} [DecidableEq Place] {memory : Place → Value}
  {updates : List (Place × Value)} {place : Place} {value : Value}

def updateAll (memory : Place → Value) (updates : List (Place × Value)) : Place → Value :=
  updates.foldl (fun memory update => Function.update memory update.1 update.2) memory

@[simp] theorem updateAll_nil : updateAll memory [] = memory := rfl

@[simp] theorem updateAll_cons (update : Place × Value) :
    updateAll memory (update :: updates) =
      updateAll (Function.update memory update.1 update.2) updates := rfl

theorem updateAll_append (more : List (Place × Value)) :
    updateAll memory (updates ++ more) = updateAll (updateAll memory updates) more :=
  List.foldl_append

theorem updateAll_elsewhere (elsewhere : ∀ update ∈ updates, place ≠ update.1) :
    updateAll memory updates place = memory place := by
  induction updates generalizing memory with
  | nil => rfl
  | cons update updates induction =>
      rw [List.forall_mem_cons] at elsewhere
      rw [updateAll_cons, induction elsewhere.2, Function.update_of_ne elsewhere.1]

/-- A place for which all updates agree has their value in the end. -/
theorem updateAll_of_mem (isSet : ∃ update ∈ updates, place = update.1)
    (agree : ∀ update ∈ updates, place = update.1 → update.2 = value) :
    updateAll memory updates place = value := by
  induction updates generalizing memory with
  | nil =>
      rcases isSet with ⟨_, isUpdate, _⟩
      cases isUpdate
  | cons update updates induction =>
      rw [List.forall_mem_cons] at agree
      rw [updateAll_cons]
      by_cases again : ∃ later ∈ updates, place = later.1
      case pos => exact induction again agree.2
      case neg =>
        have isFirst : place = update.1 := by
          rcases isSet with ⟨other, isUpdate, same⟩
          rcases List.mem_cons.mp isUpdate with rfl | later
          · exact same
          · exact absurd ⟨other, later, same⟩ again
        rw [updateAll_elsewhere fun later isLater same => again ⟨later, isLater, same⟩, isFirst,
          Function.update_self]
        exact agree.1 isFirst

end Memory

section Stores

variable {Store : Type w} {Place : Type u} {Value : Type v} [DecidableEq Place]
  (holds : Store → (Place → Value) → Prop)

/-- A step on stores that never fails and makes some updates. -/
def Makes (updates : List (Place × Value)) (step : Store → Option Store) : Prop :=
  ∀ store memory, holds store memory →
    ∃ next, step store = some next ∧ holds next (updateAll memory updates)

variable {holds}

theorem Makes.nothing : Makes holds [] some := by
  intro store memory isHeld
  exact ⟨store, rfl, isHeld⟩

theorem Makes.bind {first second : List (Place × Value)} {step next : Store → Option Store}
    (makes : Makes holds first step) (makesNext : Makes holds second next) :
    Makes holds (first ++ second) fun store => (step store).bind next := by
  intro store memory isHeld
  rcases makes store memory isHeld with ⟨middle, stepped, middleHeld⟩
  rcases makesNext middle _ middleHeld with ⟨last, ended, lastHeld⟩
  refine ⟨last, ?_, ?_⟩
  · dsimp only
    rw [stepped, Option.bind_some, ended]
  · rw [updateAll_append]
    exact lastHeld

/-- A loop whose body makes updates. -/
theorem Makes.foldlM {body : Store → Item → Option Store}
    {updates : Item → List (Place × Value)} {items : List Item}
    (makes : ∀ item ∈ items, Makes holds (updates item) (body · item)) :
    Makes holds (items.flatMap updates) (items.foldlM body) := by
  induction items with
  | nil => exact Makes.nothing
  | cons item items induction =>
      rw [List.forall_mem_cons] at makes
      rw [List.flatMap_cons]
      exact makes.1.bind (induction makes.2)

end Stores

end PigweedExperimental
