import Mathlib.Data.List.Nodup
import Mathlib.Data.List.Range
import Mathlib.Data.List.TakeDrop

namespace PigweedExperimental

/-! # Outgoing buffers

Items are appended to a buffer and offered to a receiver, which takes as many
of the first ones as it likes; what becomes of the rest is up to the owner of
the buffer. This file names nothing of a particular program. An item carries
its number among all that were ever appended, so that an item sent twice differs
from two equal items.
-/

structure Outbox (Item : Type u) where
  appended : List Item
  buffer : List (Item × Nat)
  accepted : List (Item × Nat)
  deriving DecidableEq, Repr

namespace Outbox

def empty : Outbox Item where
  appended := []
  buffer := []
  accepted := []

def append (outbox : Outbox Item) (items : List Item) : Outbox Item where
  appended := outbox.appended ++ items
  buffer := outbox.buffer ++ items.zipIdx outbox.appended.length
  accepted := outbox.accepted

/-- The receiver takes up to `count` items. The buffer keeps them. -/
def offer (outbox : Outbox Item) (count : Nat) : Outbox Item :=
  { outbox with accepted := outbox.accepted ++ outbox.buffer.take count }

def clear (outbox : Outbox Item) : Outbox Item :=
  { outbox with buffer := [] }

/-- All items ever appended, in order. -/
def stream (outbox : Outbox Item) : List (Item × Nat) :=
  outbox.appended.zipIdx

/-- The receiver has every item, once and in order. -/
def Delivered (outbox : Outbox Item) : Prop :=
  outbox.accepted = outbox.stream

/-- What the receiver does not have is still in the buffer, and only that. -/
def Conserved (outbox : Outbox Item) : Prop :=
  outbox.accepted ++ outbox.buffer = outbox.stream

/-- The item is neither with the receiver nor in the buffer. -/
def Lost (outbox : Outbox Item) (item : Item × Nat) : Prop :=
  item ∈ outbox.stream ∧ item ∉ outbox.accepted ∧ item ∉ outbox.buffer

variable {outbox : Outbox Item} {item : Item × Nat}

theorem append_stream (outbox : Outbox Item) (items : List Item) :
    (outbox.append items).stream =
      outbox.stream ++ items.zipIdx outbox.appended.length := by
  rw [stream, append, stream]
  dsimp only
  rw [List.zipIdx_append, Nat.zero_add]

theorem stream_nodup (outbox : Outbox Item) : outbox.stream.Nodup := by
  apply List.Nodup.of_map Prod.snd
  rw [stream, List.zipIdx_map_snd]
  exact List.nodup_range'

/-- Items are numbered on from those that were appended before. -/
theorem not_mem_stream_of_new {items : List Item}
    (isNew : item ∈ items.zipIdx outbox.appended.length) : item ∉ outbox.stream := by
  intro isOld
  have later := List.le_snd_of_mem_zipIdx isNew
  have earlier := List.snd_lt_of_mem_zipIdx isOld
  omega

theorem append_held (held : ∀ item ∈ outbox.buffer, item ∈ outbox.stream)
    (items : List Item) :
    ∀ item ∈ (outbox.append items).buffer, item ∈ (outbox.append items).stream := by
  intro item isHeld
  rw [append_stream]
  rcases List.mem_append.mp isHeld with old | isNew
  · exact List.mem_append_left _ (held item old)
  · exact List.mem_append_right _ isNew

section Conserved

theorem empty_conserved : (empty : Outbox Item).Conserved := rfl

theorem Conserved.append (conserved : outbox.Conserved) (items : List Item) :
    (outbox.append items).Conserved := by
  rw [Conserved, append_stream, ← conserved]
  exact (List.append_assoc _ _ _).symm

theorem Conserved.delivered_iff (conserved : outbox.Conserved) :
    outbox.Delivered ↔ outbox.buffer = [] := by
  rw [Delivered, ← conserved, List.self_eq_append_right]

/-- A receiver that takes everything allows for clearing the buffer. -/
theorem Conserved.offer_clear (conserved : outbox.Conserved) {count : Nat}
    (takesAll : outbox.buffer.length ≤ count) : (outbox.offer count).clear.Conserved := by
  calc (outbox.accepted ++ outbox.buffer.take count) ++ []
    _ = outbox.accepted ++ outbox.buffer := by
        rw [List.append_nil, List.take_of_length_le takesAll]
    _ = outbox.stream := conserved

/-- What a receiver does not take is gone when the buffer is cleared. -/
theorem Conserved.offer_clear_lost (conserved : outbox.Conserved) {count : Nat}
    (takesPart : count < outbox.buffer.length) :
    ∃ item, (outbox.offer count).clear.Lost item := by
  have parts : (outbox.accepted ++ outbox.buffer.take count) ++ outbox.buffer.drop count =
      outbox.stream := by
    rw [List.append_assoc, List.take_append_drop]
    exact conserved
  have nodup := outbox.stream_nodup
  rw [← parts] at nodup
  have rest : outbox.buffer[count] ∈ outbox.buffer.drop count := by
    rw [List.drop_eq_getElem_cons takesPart]
    exact List.mem_cons_self
  refine ⟨outbox.buffer[count], ?_, ?_, List.not_mem_nil⟩
  · change outbox.buffer[count] ∈ outbox.stream
    rw [← parts]
    exact List.mem_append_right _ rest
  · intro taken
    exact (List.disjoint_of_nodup_append nodup) taken rest

end Conserved

section Lost

theorem Lost.append (lost : outbox.Lost item) (items : List Item) :
    (outbox.append items).Lost item := by
  refine ⟨?_, lost.2.1, ?_⟩
  · rw [append_stream]
    exact List.mem_append_left _ lost.1
  · intro held
    rcases List.mem_append.mp held with old | isNew
    · exact lost.2.2 old
    · exact not_mem_stream_of_new isNew lost.1

theorem Lost.offer (lost : outbox.Lost item) (count : Nat) :
    (outbox.offer count).Lost item := by
  refine ⟨lost.1, ?_, lost.2.2⟩
  intro taken
  rcases List.mem_append.mp taken with before | now
  · exact lost.2.1 before
  · exact lost.2.2 (List.mem_of_mem_take now)

theorem Lost.clear (lost : outbox.Lost item) : outbox.clear.Lost item :=
  ⟨lost.1, lost.2.1, List.not_mem_nil⟩

theorem Lost.not_delivered (lost : outbox.Lost item) : ¬outbox.Delivered := by
  intro delivered
  apply lost.2.1
  rw [delivered]
  exact lost.1

end Lost

/-- The outbox is emptied in some steps, in which the receiver takes everything
exactly if `taken` holds. -/
structure Empties (taken : Prop) (before after : Outbox Item) : Prop where
  cleared : after.buffer = []
  conserved : taken → before.Conserved → after.Conserved
  lost : ¬taken → before.Conserved → ∃ item, after.Lost item
  stillLost : ∀ item, before.Lost item → after.Lost item

namespace Empties

variable {taken later : Prop} {before middle after : Outbox Item}

theorem of_cleared (cleared : outbox.buffer = []) : Empties True outbox outbox where
  cleared := cleared
  conserved := fun _ conserved => conserved
  lost := fun notTaken => absurd trivial notTaken
  stillLost := fun _ lost => lost

theorem offer_clear (outbox : Outbox Item) (count : Nat) :
    Empties (outbox.buffer.length ≤ count) outbox (outbox.offer count).clear where
  cleared := rfl
  conserved := fun takesAll conserved => conserved.offer_clear takesAll
  lost := fun takesPart conserved => conserved.offer_clear_lost (Nat.lt_of_not_le takesPart)
  stillLost := fun _ lost => (lost.offer count).clear

theorem congr (empties : Empties taken before after) (same : taken ↔ later) :
    Empties later before after :=
  propext same ▸ empties

theorem after_append {items : List Item} (empties : Empties taken (before.append items) after) :
    Empties taken before after where
  cleared := empties.cleared
  conserved := fun isTaken conserved => empties.conserved isTaken (conserved.append items)
  lost := fun notTaken conserved => empties.lost notTaken (conserved.append items)
  stillLost := fun item lost => empties.stillLost item (lost.append items)

theorem trans (first : Empties taken before middle) (second : Empties later middle after) :
    Empties (taken ∧ later) before after where
  cleared := second.cleared
  conserved := fun both conserved =>
    second.conserved both.2 (first.conserved both.1 conserved)
  lost := by
    intro notBoth conserved
    by_cases isTaken : taken
    · have notLater : ¬later := fun isLater => notBoth ⟨isTaken, isLater⟩
      exact second.lost notLater (first.conserved isTaken conserved)
    · rcases first.lost isTaken conserved with ⟨item, lost⟩
      exact ⟨item, second.stillLost item lost⟩
  stillLost := fun item lost => second.stillLost item (first.stillLost item lost)

/-- Whether everything is delivered is up to the receiver alone. -/
theorem delivered_iff (empties : Empties taken before after) (conserved : before.Conserved) :
    after.Delivered ↔ taken := by
  by_cases isTaken : taken
  · have afterConserved := empties.conserved isTaken conserved
    exact iff_of_true (afterConserved.delivered_iff.mpr empties.cleared) isTaken
  · rcases empties.lost isTaken conserved with ⟨item, lost⟩
    exact iff_of_false lost.not_delivered isTaken

end Empties

section Uncleared

/-- Items that the receiver has and the buffer still holds are sent again with
the next offer that is taken at all. -/
theorem delivered_append_offer_iff (delivered : outbox.Delivered)
    (held : ∀ item ∈ outbox.buffer, item ∈ outbox.stream) (items : List Item) (count : Nat) :
    ((outbox.append items).offer count).Delivered ↔
      if outbox.buffer = [] then items.length ≤ count else count = 0 ∧ items = [] := by
  have taken : ((outbox.append items).offer count).Delivered ↔
      (outbox.buffer ++ items.zipIdx outbox.appended.length).take count =
        items.zipIdx outbox.appended.length := by
    have streams : ((outbox.append items).offer count).stream =
        outbox.accepted ++ items.zipIdx outbox.appended.length := by
      rw [delivered]
      exact outbox.append_stream items
    rw [Delivered, streams]
    exact List.append_right_inj _
  rw [taken]
  split
  · rename_i cleared
    rw [cleared, List.nil_append, List.take_eq_self_iff, List.length_zipIdx]
  · rename_i uncleared
    constructor
    · intro same
      rcases Nat.eq_zero_or_pos count with none | some
      · rw [none, List.take_zero, eq_comm, List.zipIdx_eq_nil_iff] at same
        exact ⟨none, same⟩
      · -- The first item in the buffer is none of the new ones.
        rcases List.exists_cons_of_ne_nil uncleared with ⟨first, rest, buffer⟩
        have isOld : first ∈ outbox.stream := held first (by rw [buffer]; exact List.mem_cons_self)
        have isNew : first ∈ items.zipIdx outbox.appended.length := by
          rw [← same, buffer, List.cons_append, ← Nat.succ_pred_eq_of_pos some, List.take_succ_cons]
          exact List.mem_cons_self
        exact absurd isOld (not_mem_stream_of_new isNew)
    · rintro ⟨rfl, rfl⟩
      rfl

end Uncleared

end Outbox

end PigweedExperimental
