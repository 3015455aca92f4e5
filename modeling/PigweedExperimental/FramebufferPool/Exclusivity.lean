import PigweedExperimental.Foundation.Execution
import PigweedExperimental.FramebufferPool.FramebufferPool
import Mathlib.Data.List.Nodup
import Mathlib.Data.Nat.ModEq

namespace PigweedExperimental

/-! # Who holds which buffer

A pool together with the framebuffers its users hold. Each completed
`GetFramebuffer` call is numbered, and the number serves as a ticket by which
the framebuffer is later given back, in any order.
-/

structure PoolUse where
  pool : FramebufferPool
  calls : Nat
  outstanding : List (Nat × Framebuffer)

namespace PoolUse

inductive Call where
  | getFramebuffer
  | releaseFramebuffer (ticket : Nat)
  deriving DecidableEq

def tickets (use : PoolUse) : List Nat := use.outstanding.map Prod.fst

def start (config : FramebufferPool.Config) : PoolUse where
  pool := .create config
  calls := 0
  outstanding := []

def step (use : PoolUse) : Call → Option PoolUse
  | .getFramebuffer => do
      let (framebuffer, pool) ← use.pool.getFramebuffer
      return {
        pool
        calls := use.calls + 1
        outstanding := use.outstanding ++ [(use.calls, framebuffer)] }
  | .releaseFramebuffer ticket => do
      let held ← use.outstanding.find? fun held => held.1 = ticket
      return {
        pool := (use.pool.releaseFramebuffer held.2).2
        calls := use.calls
        outstanding := use.outstanding.filter fun held => held.1 != ticket }

/-- `GetFramebuffer` proceeds when the semaphore lets it through, and only a
framebuffer that is outstanding can be given back. -/
def machine : Machine PoolUse Call where
  Enabled use
    | .getFramebuffer => 0 < use.pool.framebufferSemaphore
    | .releaseFramebuffer ticket => ticket ∈ use.tickets
  step := step

instance (use : PoolUse) : (call : Call) → Decidable (machine.Enabled use call)
  | .getFramebuffer =>
      inferInstanceAs (Decidable (0 < use.pool.framebufferSemaphore))
  | .releaseFramebuffer ticket => inferInstanceAs (Decidable (ticket ∈ use.tickets))

/-- No two framebuffers in use share their pixel buffer. -/
def Exclusive (use : PoolUse) : Prop :=
  (use.outstanding.map fun held => held.2.pixelData).Nodup

instance (use : PoolUse) : Decidable use.Exclusive :=
  inferInstanceAs (Decidable (List.Nodup _))

/-- When a framebuffer is asked for, the one handed out a full round of the
pool earlier has been given back. -/
def RoundReturned (use : PoolUse) : Call → Prop
  | .getFramebuffer => ∀ ticket ∈ use.tickets,
      ticket + use.pool.bufferAddresses.length ≠ use.calls
  | .releaseFramebuffer _ => True

/-- Framebuffers are given back in the order in which they were obtained. -/
def InOrder (use : PoolUse) : Call → Prop
  | .getFramebuffer => True
  | .releaseFramebuffer ticket => ∀ other ∈ use.tickets, ticket ≤ other

/-- What the pool's index and semaphore say about the outstanding tickets. -/
structure Consistent (addresses : List Address) (use : PoolUse) : Prop where
  addresses_eq : use.pool.bufferAddresses = addresses
  next_eq : use.pool.nextFbIdx = use.calls % addresses.length
  count_eq : use.pool.framebufferSemaphore + use.outstanding.length =
    addresses.length
  address_of_mem : ∀ held ∈ use.outstanding,
    addresses[held.1 % addresses.length]? = some held.2.pixelData
  issued : ∀ ticket ∈ use.tickets, ticket < use.calls
  tickets_nodup : use.tickets.Nodup

theorem start_consistent (config : FramebufferPool.Config) :
    (start config).Consistent config.fbAddr where
  addresses_eq := rfl
  next_eq := by simp [start, FramebufferPool.create]
  count_eq := rfl
  address_of_mem := by simp [start]
  issued := by simp [start, tickets]
  tickets_nodup := by simp [start, tickets]

/-- All that a `GetFramebuffer` step does. -/
theorem step_getFramebuffer {use next : PoolUse}
    (stepped : use.step .getFramebuffer = some next) :
    ∃ framebuffer,
      use.pool.bufferAddresses[use.pool.nextFbIdx]? = some framebuffer.pixelData ∧
      next = {
        pool := { use.pool with
          framebufferSemaphore := use.pool.framebufferSemaphore - 1
          nextFbIdx := use.pool.following use.pool.nextFbIdx }
        calls := use.calls + 1
        outstanding := use.outstanding ++ [(use.calls, framebuffer)] } := by
  simp only [step, Option.bind_eq_bind, Option.bind_eq_some_iff, Option.pure_def,
    Option.some.injEq] at stepped
  rcases stepped with ⟨⟨framebuffer, pool⟩, got, rfl⟩
  rcases FramebufferPool.getFramebuffer_eq_some got with ⟨rfl, address, -⟩
  exact ⟨framebuffer, address, rfl⟩

/-- All that a `ReleaseFramebuffer` step does. -/
theorem step_releaseFramebuffer {use next : PoolUse} {ticket : Nat}
    (stepped : use.step (.releaseFramebuffer ticket) = some next) :
    ticket ∈ use.tickets ∧
      next = { use with
        pool := { use.pool with
          framebufferSemaphore := use.pool.framebufferSemaphore + 1 }
        outstanding := use.outstanding.filter fun held => held.1 != ticket } := by
  simp only [step, Option.bind_eq_bind, Option.bind_eq_some_iff, Option.pure_def,
    Option.some.injEq] at stepped
  rcases stepped with ⟨held, found, rfl⟩
  have heldTicket : held.1 = ticket := by simpa using List.find?_some found
  exact ⟨List.mem_map.mpr ⟨held, List.mem_of_find?_eq_some found, heldTicket⟩, rfl⟩

theorem tickets_filter (use : PoolUse) (ticket : Nat) :
    (use.outstanding.filter fun held => held.1 != ticket).map Prod.fst =
      use.tickets.filter (· != ticket) := by
  rw [tickets, List.filter_map]
  rfl

/-- A ticket that occurs once makes room for one release. -/
theorem length_filter_ticket {use : PoolUse} {ticket : Nat}
    (nodup : use.tickets.Nodup) (member : ticket ∈ use.tickets) :
    (use.outstanding.filter fun held => held.1 != ticket).length + 1 =
      use.outstanding.length := by
  have lengths := congrArg List.length (tickets_filter use ticket)
  rw [List.length_map, ← nodup.erase_eq_filter, List.length_erase_of_mem member,
    tickets, List.length_map] at lengths
  have positive : 0 < use.outstanding.length := by
    simpa [tickets] using List.length_pos_of_mem member
  omega

theorem following_mod {pool : FramebufferPool} (calls : Nat)
    (positive : 0 < pool.bufferAddresses.length) :
    pool.following (calls % pool.bufferAddresses.length) =
      (calls + 1) % pool.bufferAddresses.length := by
  have bound := Nat.mod_lt calls positive
  have parts := Nat.div_add_mod calls pool.bufferAddresses.length
  rw [FramebufferPool.following]
  split
  · rename_i atEnd
    have wraps : calls + 1 = pool.bufferAddresses.length *
        (calls / pool.bufferAddresses.length + 1) := by
      rw [Nat.mul_add]
      omega
    rw [wraps, Nat.mul_mod_right]
  · rename_i notAtEnd
    conv_rhs => rw [← parts, Nat.add_assoc, Nat.mul_add_mod]
    exact (Nat.mod_eq_of_lt (by omega)).symm

theorem Consistent.step {addresses : List Address} {use next : PoolUse} {call : Call}
    (consistent : use.Consistent addresses) (positive : 0 < addresses.length)
    (enabled : machine.Enabled use call) (stepped : use.step call = some next) :
    next.Consistent addresses := by
  cases call with
  | getFramebuffer =>
      rcases step_getFramebuffer stepped with ⟨framebuffer, address, rfl⟩
      have count := consistent.count_eq
      have available : 0 < use.pool.framebufferSemaphore := enabled
      rw [consistent.addresses_eq, consistent.next_eq] at address
      exact {
        addresses_eq := consistent.addresses_eq
        next_eq := by
          have length := congrArg List.length consistent.addresses_eq
          rw [← length] at positive ⊢
          rw [← following_mod use.calls positive, length, ← consistent.next_eq]
        count_eq := by simp; omega
        address_of_mem := by
          intro held member
          rcases List.mem_append.mp member with member | member
          · exact consistent.address_of_mem held member
          · cases List.mem_singleton.mp member
            exact address
        issued := by
          intro ticket member
          simp only [tickets, List.map_append, List.mem_append] at member
          rcases member with member | member
          · exact Nat.lt_succ_of_lt (consistent.issued ticket member)
          · have last : ticket = use.calls := by simpa using member
            change ticket < use.calls + 1
            omega
        tickets_nodup := by
          simp only [tickets, List.map_append, List.map_cons, List.map_nil]
          refine List.nodup_append.mpr ⟨consistent.tickets_nodup, by simp, ?_⟩
          intro ticket member other last
          have earlier := consistent.issued ticket member
          simp at last
          omega }
  | releaseFramebuffer ticket =>
      rcases step_releaseFramebuffer stepped with ⟨member, rfl⟩
      have count := consistent.count_eq
      have removed := length_filter_ticket consistent.tickets_nodup member
      exact {
        addresses_eq := consistent.addresses_eq
        next_eq := consistent.next_eq
        count_eq := by simp only; omega
        address_of_mem := fun held stays =>
          consistent.address_of_mem held (List.mem_of_mem_filter stays)
        issued := by
          intro other stays
          rw [tickets, tickets_filter] at stays
          exact consistent.issued other (List.mem_of_mem_filter stays)
        tickets_nodup := by
          rw [tickets, tickets_filter]
          exact consistent.tickets_nodup.filter _ }

/-- No outstanding ticket is more than a round of the pool old. -/
def WithinRound (use : PoolUse) : Prop :=
  ∀ ticket ∈ use.tickets,
    use.calls ≤ ticket + use.pool.bufferAddresses.length

/-- Within a round, two calls are served from the same place only when they
are a full round apart. -/
theorem same_place_iff {ticket calls size : Nat} (earlier : ticket < calls)
    (within : calls ≤ ticket + size) :
    ticket % size = calls % size ↔ ticket + size = calls := by
  constructor
  · intro same
    have divides : size ∣ calls - ticket :=
      (Nat.modEq_iff_dvd' (Nat.le_of_lt earlier)).mp same
    have atLeast := Nat.le_of_dvd (by omega) divides
    omega
  · intro round
    rw [← round]
    exact (Nat.add_mod_right ticket size).symm

section ExactStep

variable {addresses : List Address} {use next : PoolUse} {call : Call}

/-- A framebuffer about to be handed out lies over the buffer of an
outstanding one only if that one was handed out a round earlier. -/
theorem Consistent.same_address_iff (consistent : use.Consistent addresses)
    (within : use.WithinRound) (nodup : addresses.Nodup)
    {framebuffer : Framebuffer}
    (address : addresses[use.calls % addresses.length]? = some framebuffer.pixelData)
    {held : Nat × Framebuffer} (member : held ∈ use.outstanding) :
    held.2.pixelData = framebuffer.pixelData ↔
      held.1 + addresses.length = use.calls := by
  have heldTicket : held.1 ∈ use.tickets := List.mem_map_of_mem member
  have bound : held.1 % addresses.length < addresses.length := by
    refine Nat.mod_lt _ (List.length_pos_of_ne_nil ?_)
    intro isEmpty
    rw [isEmpty] at address
    cases address
  rw [← same_place_iff (consistent.issued _ heldTicket)
    (by simpa [consistent.addresses_eq] using within _ heldTicket)]
  have heldAddress := consistent.address_of_mem held member
  constructor
  · intro same
    exact (List.getElem?_inj bound nodup).mp (heldAddress.trans (by rw [same]; exact address.symm))
  · intro samePlace
    rw [samePlace, address] at heldAddress
    exact (Option.some.inj heldAddress).symm

theorem Consistent.exclusive_getFramebuffer_iff
    (consistent : use.Consistent addresses) (within : use.WithinRound)
    (nodup : addresses.Nodup)
    (stepped : use.step .getFramebuffer = some next) :
    next.Exclusive ↔ use.Exclusive ∧ use.RoundReturned .getFramebuffer := by
  rcases step_getFramebuffer stepped with ⟨framebuffer, address, rfl⟩
  rw [consistent.addresses_eq, consistent.next_eq] at address
  have same := fun held (member : held ∈ use.outstanding) =>
    consistent.same_address_iff within nodup address member
  simp only [Exclusive, RoundReturned, tickets, List.map_append, List.map_cons,
    List.map_nil, List.nodup_append, List.nodup_singleton, List.mem_singleton,
    List.forall_mem_map, forall_eq, true_and, consistent.addresses_eq]
  exact and_congr_right fun _ => forall₂_congr fun held member =>
    not_congr (same held member)

theorem exclusive_of_releaseFramebuffer (exclusive : use.Exclusive)
    {ticket : Nat} (stepped : use.step (.releaseFramebuffer ticket) = some next) :
    next.Exclusive := by
  rcases step_releaseFramebuffer stepped with ⟨-, rfl⟩
  exact exclusive.sublist (List.filter_sublist.map _)

theorem WithinRound.step (consistent : use.Consistent addresses)
    (within : use.WithinRound) (positive : 0 < addresses.length)
    (returned : use.RoundReturned call) (stepped : use.step call = some next) :
    next.WithinRound := by
  cases call with
  | getFramebuffer =>
      rcases step_getFramebuffer stepped with ⟨framebuffer, -, rfl⟩
      intro ticket member
      simp only [tickets, List.map_append, List.mem_append] at member
      rcases member with member | member
      · have bound := within ticket member
        have older := returned ticket member
        change use.calls + 1 ≤ ticket + use.pool.bufferAddresses.length
        omega
      · have last : ticket = use.calls := by simpa using member
        change use.calls + 1 ≤ ticket + use.pool.bufferAddresses.length
        rw [consistent.addresses_eq]
        omega
  | releaseFramebuffer released =>
      rcases step_releaseFramebuffer stepped with ⟨-, rfl⟩
      intro ticket member
      rw [tickets, tickets_filter] at member
      exact within ticket (List.mem_of_mem_filter member)

end ExactStep

/-- Exactly when no two framebuffers in use ever share a buffer, whatever the
order in which they are given back. -/
theorem exclusive_throughout_iff (config : FramebufferPool.Config)
    (nonempty : 0 < config.fbAddr.length) (nodup : config.fbAddr.Nodup)
    {calls : List Call} {final : PoolUse}
    (run : machine.Run (start config) calls final) :
    machine.Throughout Exclusive (start config) calls ↔
      machine.EveryStep RoundReturned (start config) calls := by
  refine run.throughout_iff_everyStep
    (fun use => use.Consistent config.fbAddr ∧ use.WithinRound)
    ?preserved ?exactStep ?initialAuxiliary ?initially
  case preserved =>
    intro use call next both _ returned enabled stepped
    rcases both with ⟨consistent, within⟩
    exact ⟨consistent.step nonempty enabled stepped,
      within.step consistent nonempty returned stepped⟩
  case exactStep =>
    intro use call next both exclusive enabled stepped
    rcases both with ⟨consistent, within⟩
    cases call with
    | getFramebuffer =>
        rw [consistent.exclusive_getFramebuffer_iff within nodup stepped]
        exact and_iff_right exclusive
    | releaseFramebuffer =>
        exact iff_of_true (exclusive_of_releaseFramebuffer exclusive stepped) trivial
  case initialAuxiliary =>
    exact ⟨start_consistent config, by simp [WithinRound, start, tickets]⟩
  case initially => simp [Exclusive, start]

def twoBuffers : FramebufferPool.Config where
  fbAddr := [0x20000000, 0x20040000]
  dimensions := ⟨320, 240⟩
  rowBytes := 640
  pixelFormat := .rgb565

theorem exclusive_throughout_iff_twoBuffers :
    let calls := [.getFramebuffer, .getFramebuffer, .releaseFramebuffer 0,
      .getFramebuffer]
    machine.Throughout Exclusive (start twoBuffers) calls ↔
      machine.EveryStep RoundReturned (start twoBuffers) calls :=
  exclusive_throughout_iff twoBuffers (by decide) (by decide)
    (.of_execute (Option.some_get (by decide)).symm)

/-- The second framebuffer comes back first, and the next call hands out the
buffer that is still in use instead. -/
theorem twoBuffers_shared_after_early_release :
    ∃ final, machine.Run (start twoBuffers)
        [.getFramebuffer, .getFramebuffer, .releaseFramebuffer 1,
          .getFramebuffer] final ∧
      ¬final.Exclusive :=
  ⟨_, .of_execute (Option.some_get (by decide)).symm, by decide⟩

/-! ## Giving framebuffers back in order -/

/-- The outstanding tickets are the most recent ones, without a gap. -/
def Contiguous (use : PoolUse) : Prop :=
  ∃ oldest ≤ use.calls, use.tickets = List.range' oldest (use.calls - oldest)

theorem Contiguous.step {use next : PoolUse} {call : Call}
    (contiguous : use.Contiguous) (inOrder : use.InOrder call)
    (stepped : use.step call = some next) : next.Contiguous := by
  rcases contiguous with ⟨oldest, bound, tickets_eq⟩
  cases call with
  | getFramebuffer =>
      rcases step_getFramebuffer stepped with ⟨framebuffer, -, rfl⟩
      refine ⟨oldest, Nat.le_succ_of_le bound, ?_⟩
      have last : oldest + (use.calls - oldest) = use.calls := by omega
      change (use.outstanding ++ [(use.calls, framebuffer)]).map Prod.fst =
        List.range' oldest (use.calls + 1 - oldest)
      rw [Nat.succ_sub bound, List.range'_1_concat, last, ← tickets_eq]
      simp [tickets]
  | releaseFramebuffer ticket =>
      rcases step_releaseFramebuffer stepped with ⟨member, rfl⟩
      have nonempty : oldest < use.calls := by
        rw [tickets_eq, List.mem_range'_1] at member
        omega
      have some_left : ∃ rest, use.calls - oldest = rest + 1 :=
        ⟨use.calls - oldest - 1, by omega⟩
      rcases some_left with ⟨rest, rest_eq⟩
      have isOldest : ticket = oldest := by
        have least := inOrder oldest (by rw [tickets_eq, List.mem_range'_1]; omega)
        rw [tickets_eq, List.mem_range'_1] at member
        omega
      refine ⟨oldest + 1, nonempty, ?_⟩
      rw [tickets, tickets_filter, tickets_eq, rest_eq, List.range'_succ, isOldest]
      have others : ∀ other ∈ List.range' (oldest + 1) rest, other != oldest := by
        intro other later
        rw [List.mem_range'_1] at later
        simp only [bne_iff_ne, ne_eq]
        omega
      rw [List.filter_cons_of_neg (by simp), List.filter_eq_self.mpr others]
      congr 1
      simp only
      omega

/-- Giving framebuffers back in the order of acquisition always returns them
within a round. -/
theorem roundReturned_of_inOrder (config : FramebufferPool.Config)
    (nonempty : 0 < config.fbAddr.length) {calls : List Call} {final : PoolUse}
    (run : machine.Run (start config) calls final)
    (inOrder : machine.EveryStep InOrder (start config) calls) :
    machine.EveryStep RoundReturned (start config) calls := by
  refine run.everyStep_of_everyStep
    (fun use => use.Consistent config.fbAddr ∧ use.Contiguous)
    ?preserved ?entails ⟨start_consistent config, 0, by simp [start, tickets]⟩ inOrder
  case preserved =>
    intro use call next both ordered enabled stepped
    exact ⟨both.1.step nonempty enabled stepped, both.2.step ordered stepped⟩
  case entails =>
    intro use call both _ enabled
    rcases both with ⟨consistent, oldest, bound, tickets_eq⟩
    cases call with
    | releaseFramebuffer => trivial
    | getFramebuffer =>
        intro ticket member
        have available : 0 < use.pool.framebufferSemaphore := enabled
        have count := consistent.count_eq
        have length : use.outstanding.length = use.calls - oldest := by
          simpa [tickets] using congrArg List.length tickets_eq
        rw [tickets_eq, List.mem_range'_1] at member
        rw [consistent.addresses_eq]
        omega

end PoolUse

end PigweedExperimental
