import PigweedExperimental.FramebufferPool.Exclusivity
import Mathlib.Data.List.Basic

namespace PigweedExperimental

/-! # Concurrent `GetFramebuffer` calls

Several callers execute the statements of `GetFramebuffer` on one pool, one
statement at a time and in any order. An event names the caller that moves.
-/

/-- How far a caller has come, and what it has read so far. -/
inductive Caller where
  | waiting
  | acquired
  | fetched (idx : Nat)
  | wrapped (idx : Nat)
  | returned (idx : Nat) (framebuffer : Option Framebuffer)
  deriving DecidableEq

namespace Caller

def admitted : Caller → Bool
  | .waiting => false
  | _ => true

def index : Caller → Option Nat
  | .waiting => none
  | .acquired => none
  | .fetched idx => some idx
  | .wrapped idx => some idx
  | .returned idx _ => some idx

def hasIndex (caller : Caller) : Bool := caller.index.isSome

end Caller

structure ConcurrentGet where
  pool : FramebufferPool
  callers : List Caller

namespace ConcurrentGet

def start (pool : FramebufferPool) (callers : Nat) : ConcurrentGet where
  pool := pool
  callers := List.replicate callers .waiting

/-- The caller at the given position executes its next statement. -/
def step (state : ConcurrentGet) (position : Nat) : Option ConcurrentGet :=
  match state.callers[position]? with
  | some .waiting => some {
      pool := state.pool.acquire
      callers := state.callers.set position .acquired }
  | some .acquired => some {
      pool := state.pool.fetchIncrement.2
      callers := state.callers.set position
        (.fetched state.pool.fetchIncrement.1) }
  | some (.fetched idx) => some {
      pool := state.pool.resetAtEnd
      callers := state.callers.set position (.wrapped idx) }
  | some (.wrapped idx) => some {
      pool := state.pool
      callers := state.callers.set position
        (.returned idx (state.pool.framebufferAt idx)) }
  | some (.returned _ _) => none
  | none => none

/-- A caller is held up only by the semaphore. -/
def machine : Machine ConcurrentGet Nat where
  Enabled state position :=
    state.callers[position]? = some .waiting →
      0 < state.pool.framebufferSemaphore
  step := step

instance (state : ConcurrentGet) (position : Nat) :
    Decidable (machine.Enabled state position) :=
  inferInstanceAs (Decidable (_ → _))

/-- Every caller reads inside the array of buffers, and no two callers obtain
the same buffer. -/
structure Safe (state : ConcurrentGet) : Prop where
  reads_inRange : ∀ idx framebuffer, Caller.returned idx framebuffer ∈ state.callers →
    idx < state.pool.bufferAddresses.length
  buffers_distinct : ∀ (left right idx idx' : Nat) (framebuffer other : Framebuffer),
    state.callers[left]? = some (.returned idx (some framebuffer)) →
    state.callers[right]? = some (.returned idx' (some other)) →
    framebuffer.pixelData = other.pixelData → left = right

/-- The index that the caller at a position has fetched. -/
def indexAt (state : ConcurrentGet) (position : Nat) : Option Nat :=
  state.callers[position]?.bind Caller.index

def fetches (state : ConcurrentGet) : Nat := state.callers.countP Caller.hasIndex

def admissions (state : ConcurrentGet) : Nat := state.callers.countP Caller.admitted

/-- What holds while `initial` serves its callers and no index is fetched past
the end of the array. -/
structure Serving (initial : FramebufferPool) (size : Nat)
    (state : ConcurrentGet) : Prop where
  addresses_eq : state.pool.bufferAddresses = initial.bufferAddresses
  length_eq : state.callers.length = size
  count_eq : state.pool.framebufferSemaphore + state.admissions =
    initial.framebufferSemaphore
  next_eq : state.pool.nextFbIdx = initial.nextFbIdx + state.fetches ∨
    state.pool.nextFbIdx = 0 ∧
      initial.nextFbIdx + state.fetches = initial.bufferAddresses.length
  index_lt : ∀ position idx, state.indexAt position = some idx →
    idx < initial.nextFbIdx + state.fetches
  index_injective : ∀ left right idx, state.indexAt left = some idx →
    state.indexAt right = some idx → left = right
  framebuffer_at : ∀ (position idx : Nat) (framebuffer : Framebuffer),
    state.callers[position]? = some (.returned idx (some framebuffer)) →
    initial.bufferAddresses[idx]? = some framebuffer.pixelData

theorem start_serving (pool : FramebufferPool) (callers : Nat) :
    (start pool callers).Serving pool callers where
  addresses_eq := rfl
  length_eq := List.length_replicate
  count_eq := by simp [admissions, start, Caller.admitted]
  next_eq := by
    left
    simp [fetches, start, Caller.hasIndex, Caller.index]
  index_lt := by
    intro position idx fetched
    simp [indexAt, start, List.getElem?_replicate, Option.bind_eq_some_iff,
      Caller.index] at fetched
  index_injective := by
    intro left right idx fetched
    simp [indexAt, start, List.getElem?_replicate, Option.bind_eq_some_iff,
      Caller.index] at fetched
  framebuffer_at := by
    intro position idx framebuffer returned
    simp [start, List.getElem?_replicate] at returned

section Step

variable {initial : FramebufferPool} {size position : Nat}
  {state next : ConcurrentGet} {before after : Caller} {pool : FramebufferPool}

theorem getElem?_moved (current : state.callers[position]? = some before)
    (other : Nat) :
    (state.callers.set position after)[other]? =
      if position = other then some after else state.callers[other]? := by
  rw [List.getElem?_set]
  split
  · rw [if_pos (List.getElem?_eq_some_iff.mp current).1]
  · rfl

theorem indexAt_moved (current : state.callers[position]? = some before)
    (other : Nat) :
    indexAt ⟨pool, state.callers.set position after⟩ other =
      if position = other then after.index else state.indexAt other := by
  rw [indexAt]
  rw [getElem?_moved current]
  split <;> rfl

theorem countP_moved (p : Caller → Bool) (after : Caller)
    (current : state.callers[position]? = some before) :
    (state.callers.set position after).countP p + (p before).toNat =
      state.callers.countP p + (p after).toNat := by
  rcases List.getElem?_eq_some_iff.mp current with ⟨bound, rfl⟩
  have present : (p state.callers[position]).toNat ≤ state.callers.countP p := by
    cases found : p state.callers[position] with
    | false => exact Nat.zero_le _
    | true => exact List.countP_pos_iff.mpr ⟨_, List.getElem_mem bound, found⟩
  rw [List.countP_set bound]
  generalize state.callers.countP p = total at present ⊢
  cases isBefore : p state.callers[position] <;> cases isAfter : p after <;>
    simp [isBefore] at present ⊢ <;>
    omega

/-- A statement that fetches no index keeps the bookkeeping, provided that the
semaphore pays for a caller it admits. -/
theorem Serving.moved (serving : state.Serving initial size)
    (current : state.callers[position]? = some before)
    (sameIndex : after.index = before.index)
    (sameAddresses : pool.bufferAddresses = state.pool.bufferAddresses)
    (balance : pool.framebufferSemaphore + after.admitted.toNat =
      state.pool.framebufferSemaphore + before.admitted.toNat)
    (next_eq : pool.nextFbIdx = initial.nextFbIdx + state.fetches ∨
      pool.nextFbIdx = 0 ∧
        initial.nextFbIdx + state.fetches = initial.bufferAddresses.length)
    (framebuffer_at : ∀ idx framebuffer,
      after = .returned idx (some framebuffer) →
      initial.bufferAddresses[idx]? = some framebuffer.pixelData) :
    Serving initial size ⟨pool, state.callers.set position after⟩ := by
  have sameFetches : fetches ⟨pool, state.callers.set position after⟩ =
      state.fetches := by
    have counted : _ + before.hasIndex.toNat = _ + after.hasIndex.toNat :=
      countP_moved Caller.hasIndex after current
    rw [Caller.hasIndex, Caller.hasIndex, sameIndex] at counted
    exact Nat.add_right_cancel counted
  have admissions_eq : admissions ⟨pool, state.callers.set position after⟩ +
      before.admitted.toNat = state.admissions + after.admitted.toNat :=
    countP_moved Caller.admitted after current
  have sameIndexAt : ∀ other,
      indexAt ⟨pool, state.callers.set position after⟩ other =
        state.indexAt other := by
    intro other
    rw [indexAt_moved current]
    split
    · rename_i same
      rw [indexAt, ← same, current, sameIndex]
      rfl
    · rfl
  exact {
    addresses_eq := sameAddresses.trans serving.addresses_eq
    length_eq := (List.length_set).trans serving.length_eq
    count_eq := by
      have count_eq := serving.count_eq
      change pool.framebufferSemaphore + _ = _
      omega
    next_eq := by rwa [sameFetches]
    index_lt := by
      intro other idx fetched
      rw [sameFetches]
      exact serving.index_lt other idx (sameIndexAt other ▸ fetched)
    index_injective := by
      intro left right idx leftIndex rightIndex
      rw [sameIndexAt] at leftIndex rightIndex
      exact serving.index_injective left right idx leftIndex rightIndex
    framebuffer_at := by
      intro other idx framebuffer returned
      rw [getElem?_moved current] at returned
      split at returned
      · exact framebuffer_at idx framebuffer (Option.some.inj returned)
      · exact serving.framebuffer_at other idx framebuffer returned }

theorem fetches_le_admissions (state : ConcurrentGet) :
    state.fetches ≤ state.admissions := by
  apply List.countP_mono_left
  intro caller _ fetched
  cases caller <;> first | rfl | cases fetched

theorem fetches_fetched (current : state.callers[position]? = some .acquired) (idx : Nat) :
    fetches ⟨pool, state.callers.set position (.fetched idx)⟩ = state.fetches + 1 :=
  countP_moved Caller.hasIndex (.fetched idx) current

theorem admissions_fetched (current : state.callers[position]? = some .acquired) (idx : Nat) :
    admissions ⟨pool, state.callers.set position (.fetched idx)⟩ = state.admissions := by
  have counted := countP_moved Caller.admitted (.fetched idx) current
  exact Nat.add_right_cancel counted

/-- A caller that got through and has no index yet. -/
theorem fetches_lt_admissions (current : state.callers[position]? = some .acquired) :
    state.fetches < state.admissions := by
  have bound := fetches_le_admissions ⟨state.pool, state.callers.set position (.fetched 0)⟩
  rw [fetches_fetched current, admissions_fetched current] at bound
  exact bound

/-- With room for every caller that can get through, the counter counts the fetches
as long as there is a caller to fetch. -/
theorem Serving.counter_eq (serving : state.Serving initial size)
    (room : initial.nextFbIdx + min size initial.framebufferSemaphore ≤
      initial.bufferAddresses.length)
    (waiting : state.fetches < state.admissions) :
    state.pool.nextFbIdx = initial.nextFbIdx + state.fetches ∧
      initial.nextFbIdx + state.fetches < initial.bufferAddresses.length := by
  have sizeBound : state.admissions ≤ size := serving.length_eq ▸ List.countP_le_length
  have count_eq := serving.count_eq
  rcases serving.next_eq with inFront | ⟨-, atEnd⟩
  · exact ⟨inFront, by omega⟩
  · omega

/-- The fetched index is in range and nobody has fetched it before. -/
theorem Serving.fetchIncrement (serving : state.Serving initial size)
    (room : initial.nextFbIdx + min size initial.framebufferSemaphore ≤
      initial.bufferAddresses.length)
    (current : state.callers[position]? = some .acquired) :
    Serving initial size ⟨state.pool.fetchIncrement.2,
      state.callers.set position (.fetched state.pool.fetchIncrement.1)⟩ := by
  let next : ConcurrentGet := ⟨state.pool.fetchIncrement.2,
    state.callers.set position (.fetched state.pool.fetchIncrement.1)⟩
  change next.Serving initial size
  have moreFetches : next.fetches = state.fetches + 1 := fetches_fetched current _
  have sameAdmissions : next.admissions = state.admissions := admissions_fetched current _
  rcases serving.counter_eq room (fetches_lt_admissions current) with ⟨counter_eq, inRange⟩
  have ownIndex : next.indexAt position = some state.pool.nextFbIdx := by
    rw [indexAt_moved current, if_pos rfl]
    rfl
  have sameIndexAt : ∀ other, position ≠ other →
      next.indexAt other = state.indexAt other := by
    intro other different
    rw [indexAt_moved current, if_neg different]
  -- the indices of the others are below the counter
  have older : ∀ other idx, position ≠ other → next.indexAt other = some idx →
      idx < state.pool.nextFbIdx := by
    intro other idx different fetched
    rw [counter_eq]
    exact serving.index_lt other idx (sameIndexAt other different ▸ fetched)
  exact {
    addresses_eq := serving.addresses_eq
    length_eq := (List.length_set).trans serving.length_eq
    count_eq := by
      rw [sameAdmissions]
      exact serving.count_eq
    next_eq := by
      left
      change state.pool.nextFbIdx + 1 = _
      omega
    index_lt := by
      intro other idx fetched
      rw [moreFetches]
      by_cases own : position = other
      · rw [← own, ownIndex] at fetched
        cases fetched
        omega
      · have isOlder := older other idx own fetched
        omega
    index_injective := by
      intro left right idx leftIndex rightIndex
      by_cases ownLeft : position = left <;> by_cases ownRight : position = right
      · exact ownLeft.symm.trans ownRight
      · rw [← ownLeft, ownIndex] at leftIndex
        cases leftIndex
        exact absurd (older right _ ownRight rightIndex) (Nat.lt_irrefl _)
      · rw [← ownRight, ownIndex] at rightIndex
        cases rightIndex
        exact absurd (older left _ ownLeft leftIndex) (Nat.lt_irrefl _)
      · rw [sameIndexAt left ownLeft] at leftIndex
        rw [sameIndexAt right ownRight] at rightIndex
        exact serving.index_injective left right idx leftIndex rightIndex
    framebuffer_at := by
      intro other idx framebuffer returned
      have unmoved := (getElem?_moved current other).symm.trans returned
      split at unmoved
      · cases unmoved
      · exact serving.framebuffer_at other idx framebuffer unmoved }

theorem Serving.step (serving : state.Serving initial size)
    (room : initial.nextFbIdx + min size initial.framebufferSemaphore ≤
      initial.bufferAddresses.length)
    (enabled : machine.Enabled state position)
    (stepped : state.step position = some next) : next.Serving initial size := by
  unfold ConcurrentGet.step at stepped
  split at stepped
  · rename_i current
    have available : 0 < state.pool.framebufferSemaphore := enabled current
    cases stepped
    refine serving.moved current rfl rfl ?_ serving.next_eq
      (fun _ _ returned => Caller.noConfusion returned)
    change state.pool.framebufferSemaphore - 1 + 1 = state.pool.framebufferSemaphore + 0
    omega
  · rename_i current
    cases stepped
    exact serving.fetchIncrement room current
  · rename_i idx current
    cases stepped
    have next_eq := serving.next_eq
    have addresses_eq := serving.addresses_eq
    rw [FramebufferPool.resetAtEnd]
    split
    · rename_i atEnd
      refine serving.moved current rfl rfl rfl (.inr ⟨rfl, ?_⟩)
        (fun _ _ returned => Caller.noConfusion returned)
      rw [addresses_eq] at atEnd
      omega
    · exact serving.moved current rfl rfl rfl next_eq
        (fun _ _ returned => Caller.noConfusion returned)
  · rename_i idx current
    cases stepped
    refine serving.moved current rfl rfl rfl serving.next_eq ?_
    intro returnedIdx framebuffer returned
    injection returned with sameIdx read
    rw [← sameIdx, ← serving.addresses_eq]
    exact (FramebufferPool.framebufferAt_eq_some read).1
  · cases stepped
  · cases stepped

theorem Serving.safe (serving : state.Serving initial size)
    (room : initial.nextFbIdx + min size initial.framebufferSemaphore ≤
      initial.bufferAddresses.length)
    (nodup : initial.bufferAddresses.Nodup) : state.Safe := by
  have indexBound : ∀ position idx, state.indexAt position = some idx →
      idx < initial.bufferAddresses.length := by
    intro position idx fetched
    have index_lt := serving.index_lt position idx fetched
    have fetchesBound := state.fetches_le_admissions
    have sizeBound : state.admissions ≤ size :=
      serving.length_eq ▸ List.countP_le_length
    have count_eq := serving.count_eq
    omega
  constructor
  · intro idx framebuffer returned
    rcases List.mem_iff_getElem?.mp returned with ⟨position, current⟩
    rw [serving.addresses_eq]
    exact indexBound position idx (by rw [indexAt, current]; rfl)
  · intro left right idx idx' framebuffer other leftReturned rightReturned same
    have leftIndex : state.indexAt left = some idx := by
      rw [indexAt, leftReturned]
      rfl
    have rightIndex : state.indexAt right = some idx' := by
      rw [indexAt, rightReturned]
      rfl
    have leftAddress := serving.framebuffer_at left idx framebuffer leftReturned
    have rightAddress := serving.framebuffer_at right idx' other rightReturned
    rw [← same, ← leftAddress] at rightAddress
    have sameIndex : idx' = idx :=
      (List.getElem?_inj (indexBound right idx' rightIndex) nodup).mp rightAddress
    rw [sameIndex] at rightIndex
    exact serving.index_injective left right idx leftIndex rightIndex

end Step

/-! ## The interleaving that runs past the end -/

def poolAfter (pool : FramebufferPool) (fetched : Nat) : FramebufferPool :=
  { pool with
    framebufferSemaphore := pool.framebufferSemaphore - fetched
    nextFbIdx := pool.nextFbIdx + fetched }

def fetchers (pool : FramebufferPool) (fetched : Nat) : List Caller :=
  (List.range fetched).map fun earlier => .fetched (pool.nextFbIdx + earlier)

theorem fetchers_succ (pool : FramebufferPool) (fetched : Nat) :
    fetchers pool (fetched + 1) =
      fetchers pool fetched ++ [.fetched (poolAfter pool fetched).nextFbIdx] := by
  rw [fetchers, List.range_succ, List.map_append]
  rfl

theorem poolAfter_succ (pool : FramebufferPool) (fetched : Nat) :
    (poolAfter pool fetched).acquire.fetchIncrement.2 =
      poolAfter pool (fetched + 1) := by
  simp [poolAfter, FramebufferPool.acquire, FramebufferPool.fetchIncrement,
    Nat.sub_sub, Nat.add_assoc]

/-- A waiting caller that gets through takes its index at once. -/
theorem run_acquire_fetch (pool : FramebufferPool) (front rest : List Caller)
    (available : 0 < pool.framebufferSemaphore) :
    machine.Run ⟨pool, front ++ .waiting :: rest⟩ [front.length, front.length]
      ⟨pool.acquire.fetchIncrement.2,
        front ++ .fetched pool.nextFbIdx :: rest⟩ := by
  have acquired : step ⟨pool, front ++ .waiting :: rest⟩ front.length =
      some ⟨pool.acquire, front ++ .acquired :: rest⟩ := by
    simp [step]
  have fetched : step ⟨pool.acquire, front ++ .acquired :: rest⟩ front.length =
      some ⟨pool.acquire.fetchIncrement.2,
        front ++ .fetched pool.nextFbIdx :: rest⟩ := by
    simp [step, FramebufferPool.fetchIncrement, FramebufferPool.acquire]
  refine .cons (fun _ => available) acquired (.single ?_ fetched)
  intro current
  simp at current

/-- The first callers take an index each before any of them tests for the
end of the array. -/
theorem fetchers_run (pool : FramebufferPool) :
    ∀ fetched waiting, fetched ≤ pool.framebufferSemaphore →
      ∃ events, machine.Run (start pool (fetched + waiting)) events
        ⟨poolAfter pool fetched,
          fetchers pool fetched ++ List.replicate waiting .waiting⟩
  | 0, waiting, _ => ⟨[], by
      have run : machine.Run (start pool waiting) [] (start pool waiting) := .nil _
      simpa [start, fetchers, poolAfter] using run⟩
  | fetched + 1, waiting, bound => by
      rcases fetchers_run pool fetched (waiting + 1) (by omega) with ⟨events, run⟩
      have last := run_acquire_fetch (poolAfter pool fetched) (fetchers pool fetched)
        (List.replicate waiting .waiting) (by simp only [poolAfter]; omega)
      rw [List.replicate_succ] at run
      rw [poolAfter_succ] at last
      rw [fetchers_succ, List.append_assoc, Nat.add_assoc, Nat.add_comm 1]
      exact ⟨_, run.append last⟩

/-- If more callers get through than there are indices left, the last of them
can be made to read past the end of the array. -/
theorem unsafe_run (pool : FramebufferPool) (callers : Nat)
    (inRange : pool.nextFbIdx < pool.bufferAddresses.length)
    (crowded : pool.bufferAddresses.length <
      pool.nextFbIdx + min callers pool.framebufferSemaphore) :
    ∃ events final, machine.Run (start pool callers) events final ∧ ¬final.Safe := by
  rcases Nat.exists_eq_add_of_le inRange.le with ⟨left, size_eq⟩
  rcases Nat.exists_eq_add_of_le (show left + 1 ≤ callers by omega) with
    ⟨waiting, rfl⟩
  rcases fetchers_run pool (left + 1) waiting (by omega) with ⟨events, run⟩
  let rest := List.replicate waiting Caller.waiting
  rw [fetchers_succ, List.append_assoc] at run
  have pastEnd : (poolAfter pool left).nextFbIdx = pool.bufferAddresses.length :=
    size_eq.symm
  have kept : (poolAfter pool (left + 1)).resetAtEnd = poolAfter pool (left + 1) := by
    rw [FramebufferPool.resetAtEnd, if_neg]
    simp only [poolAfter]
    omega
  have unreadable : (poolAfter pool (left + 1)).framebufferAt
      pool.bufferAddresses.length = none := by
    simp [FramebufferPool.framebufferAt, poolAfter]
  rw [pastEnd] at run
  have tested : step ⟨poolAfter pool (left + 1), fetchers pool left ++
        .fetched pool.bufferAddresses.length :: rest⟩ (fetchers pool left).length =
      some ⟨poolAfter pool (left + 1), fetchers pool left ++
        .wrapped pool.bufferAddresses.length :: rest⟩ := by
    simp [step, kept]
  have read : step ⟨poolAfter pool (left + 1), fetchers pool left ++
        .wrapped pool.bufferAddresses.length :: rest⟩ (fetchers pool left).length =
      some ⟨poolAfter pool (left + 1), fetchers pool left ++
        .returned pool.bufferAddresses.length none :: rest⟩ := by
    simp [step, unreadable]
  refine ⟨_, _, run.append (.cons ?_ tested (.single ?_ read)), ?_⟩
  · intro current
    simp at current
  · intro current
    simp at current
  · intro safe
    have inside := safe.reads_inRange pool.bufferAddresses.length none (by simp)
    exact Nat.lt_irrefl _ inside

/-- Exactly when concurrent `GetFramebuffer` calls are safe in every
interleaving: the callers that get through find enough indices before the end
of the array. A new pool always leaves enough. -/
theorem safe_iff (pool : FramebufferPool) (callers : Nat)
    (inRange : pool.nextFbIdx < pool.bufferAddresses.length)
    (nodup : pool.bufferAddresses.Nodup) :
    (∀ events final, machine.Run (start pool callers) events final → final.Safe) ↔
      pool.nextFbIdx + min callers pool.framebufferSemaphore ≤
        pool.bufferAddresses.length := by
  constructor
  · intro safe
    apply Nat.le_of_not_lt
    intro crowded
    rcases unsafe_run pool callers inRange crowded with ⟨events, final, run, notSafe⟩
    exact notSafe (safe events final run)
  · intro room events final run
    have serving : final.Serving pool callers :=
      run.invariant (Serving pool callers)
        (fun state position next serving enabled stepped =>
          serving.step room enabled stepped)
        (start_serving pool callers)
    exact serving.safe room nodup

/-- Two of three callers get through a new pool in lockstep. -/
theorem safe_newPool_threeCallers :
    ∃ final, machine.Run (start (.create PoolUse.twoBuffers) 3) [0, 1, 0, 1, 0, 1, 0, 1] final ∧
      final.Safe := by
  have run := Machine.Run.of_execute
    (Option.some_get (by decide : (machine.execute
      (start (.create PoolUse.twoBuffers) 3) [0, 1, 0, 1, 0, 1, 0, 1]).isSome)).symm
  exact ⟨_, run, (safe_iff (.create PoolUse.twoBuffers) 3 (by decide) (by decide)).mpr
    (by decide) _ _ run⟩

/-- A pool of two buffers after one undisturbed call and its release. -/
def usedPool : Option FramebufferPool := do
  let (framebuffer, pool) ← (FramebufferPool.create PoolUse.twoBuffers).getFramebuffer
  return (pool.releaseFramebuffer framebuffer).2

/-- On that pool two callers interleave so that the second one reads past the
end: it fetches its index before the first one tests for the end. -/
theorem usedPool_read_past_end :
    ∃ pool final, usedPool = some pool ∧
      machine.Run (start pool 2) [0, 0, 1, 1, 1, 1] final ∧ ¬final.Safe := by
  refine ⟨_, _, (Option.some_get (by decide)).symm,
    .of_execute (Option.some_get (by decide)).symm, ?_⟩
  intro safe
  have inside := safe.reads_inRange 2 none (by decide)
  exact absurd inside (by decide)

end ConcurrentGet

end PigweedExperimental
