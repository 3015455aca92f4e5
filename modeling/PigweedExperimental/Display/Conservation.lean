import PigweedExperimental.Display.Display
import PigweedExperimental.Foundation.Execution

namespace PigweedExperimental

/-! # The display's framebuffers are conserved

A display in use, with the framebuffers its application holds and those a
driver is writing. Every framebuffer the pool has handed out is one of these
until its write completes.
-/

structure DisplayUse where
  display : Display
  held : List Framebuffer
  inFlight : List Framebuffer

namespace DisplayUse

inductive Event where
  | getFramebuffer
  | releaseFramebuffer (framebuffer : Framebuffer) (surroundings : Surroundings)
  | completed (framebuffer : Framebuffer)

/-- An application releases framebuffers it holds, or invalid ones; a driver
completes each write it was given, once. -/
def Enabled (use : DisplayUse) : Event → Prop
  | .getFramebuffer => 0 < use.display.framebufferPool.framebufferSemaphore
  | .releaseFramebuffer framebuffer _ => framebuffer.isValid → framebuffer ∈ use.held
  | .completed framebuffer => framebuffer ∈ use.inFlight

/-- Where the framebuffer is after its release. -/
def afterRelease (use : DisplayUse) (framebuffer : Framebuffer) : Release → DisplayUse
  | .rejected => use
  | .writing => { use with
      held := use.held.erase framebuffer
      inFlight := use.inFlight ++ [framebuffer] }
  | .resized _ framebufferPool => { use with
      display := { use.display with framebufferPool }
      held := use.held.erase framebuffer }

/-- The driver completes its writes with success. -/
def step (use : DisplayUse) : Event → Option DisplayUse
  | .getFramebuffer => do
      let (framebuffer, display) ← use.display.getFramebuffer
      return { use with display, held := use.held ++ [framebuffer] }
  | .releaseFramebuffer framebuffer surroundings =>
      (use.display.releaseFramebuffer surroundings framebuffer).toOption.map
        (use.afterRelease framebuffer)
  | .completed framebuffer =>
      (Display.writeCallback use.display.framebufferPool framebuffer .ok).toOption.map
        fun framebufferPool => { use with
          display := { use.display with framebufferPool }
          inFlight := use.inFlight.erase framebuffer }

def machine : Machine DisplayUse Event where
  Enabled := Enabled
  step := step

instance (use : DisplayUse) : (event : Event) → Decidable (machine.Enabled use event)
  | .getFramebuffer => inferInstanceAs (Decidable (0 < _))
  | .releaseFramebuffer framebuffer _ =>
      inferInstanceAs (Decidable (framebuffer.isValid → framebuffer ∈ use.held))
  | .completed framebuffer => inferInstanceAs (Decidable (framebuffer ∈ use.inFlight))

def start (config : FramebufferPool.Config) (size : Size UInt16)
    (displayResize supportsResize : Bool) : DisplayUse where
  display := {
    size
    framebufferPool := .create config
    displayResize
    supportsResize }
  held := []
  inFlight := []

/-- The pool's count makes up for the framebuffers that are out, and its next
index is one of its buffers. -/
structure Conserved (config : FramebufferPool.Config) (use : DisplayUse) : Prop where
  addresses_eq : use.display.framebufferPool.bufferAddresses = config.fbAddr
  format_eq : use.display.framebufferPool.pixelFormat = config.pixelFormat
  count_eq : use.display.framebufferPool.framebufferSemaphore + use.held.length +
    use.inFlight.length = config.fbAddr.length
  next_lt : use.display.framebufferPool.nextFbIdx < config.fbAddr.length

theorem start_conserved (config : FramebufferPool.Config)
    (nonempty : 0 < config.fbAddr.length) (size : Size UInt16)
    (displayResize supportsResize : Bool) :
    (start config size displayResize supportsResize).Conserved config where
  addresses_eq := rfl
  format_eq := rfl
  count_eq := rfl
  next_lt := nonempty

/-- Where a valid framebuffer goes that is released or has been written: to the
driver, or back to the pool with its count. A resize in software gives it back
before the release returns, and asserts that every row was written. -/
structure GivesBack (use : DisplayUse) : Prop where
  sent : ∀ framebuffer surroundings, framebuffer.isValid →
    use.display.resizesInSoftware framebuffer = false →
      use.step (.releaseFramebuffer framebuffer surroundings) = some { use with
        held := use.held.erase framebuffer
        inFlight := use.inFlight ++ [framebuffer] }
  resized : ∀ framebuffer surroundings, framebuffer.isValid →
    use.display.resizesInSoftware framebuffer → ∀ next,
      use.step (.releaseFramebuffer framebuffer surroundings) = some next ↔
        (∃ writes, NearestNeighbor.updateNearestNeighbor
          (use.display.resizeInput surroundings framebuffer) = .ok (.ok, writes)) ∧
        next = { use with
          display.framebufferPool.framebufferSemaphore :=
            use.display.framebufferPool.framebufferSemaphore + 1
          held := use.held.erase framebuffer }
  completed : ∀ framebuffer ∈ use.inFlight,
    use.step (.completed framebuffer) = some { use with
      display.framebufferPool.framebufferSemaphore :=
        use.display.framebufferPool.framebufferSemaphore + 1
      inFlight := use.inFlight.erase framebuffer }

theorem step_sent {use : DisplayUse} {framebuffer : Framebuffer}
    (surroundings : Surroundings) (valid : framebuffer.isValid)
    (byDriver : use.display.resizesInSoftware framebuffer = false) :
    use.step (.releaseFramebuffer framebuffer surroundings) =
      some (use.afterRelease framebuffer .writing) := by
  rw [step, Display.releaseFramebuffer_writing valid byDriver]
  rfl

theorem step_resized {use : DisplayUse} {framebuffer : Framebuffer}
    (surroundings : Surroundings) (valid : framebuffer.isValid)
    (bySoftware : use.display.resizesInSoftware framebuffer) (next : DisplayUse) :
    use.step (.releaseFramebuffer framebuffer surroundings) = some next ↔
      (∃ writes, NearestNeighbor.updateNearestNeighbor
        (use.display.resizeInput surroundings framebuffer) = .ok (.ok, writes)) ∧
      next = use.afterRelease framebuffer (.resized .ok
        (use.display.framebufferPool.releaseFramebuffer framebuffer).2) := by
  rw [step, Display.releaseFramebuffer_resized valid bySoftware]
  cases resize : NearestNeighbor.updateNearestNeighbor
      (use.display.resizeInput surroundings framebuffer) with
  | error fault =>
      constructor
      · intro stepped
        cases stepped
      · rintro ⟨⟨writes, written⟩, _⟩
        cases written
  | ok result =>
      rcases result with ⟨status, writes⟩
      by_cases isOk : status = .ok
      · subst isOk
        simp [Display.writeCallback, bind, Except.bind, pure, Except.pure, Except.toOption,
          eq_comm]
      · -- the callback asserts that the resize was successful
        simp [Display.writeCallback, bind, Except.bind, Except.toOption, isOk]

theorem givesBack (use : DisplayUse) : use.GivesBack where
  sent _ surroundings valid byDriver := step_sent surroundings valid byDriver
  resized _ surroundings valid bySoftware := step_resized surroundings valid bySoftware
  completed _ _ := rfl

section Step

variable {config : FramebufferPool.Config} {use next : DisplayUse}

theorem Conserved.getFramebuffer (conserved : use.Conserved config)
    (available : 0 < use.display.framebufferPool.framebufferSemaphore)
    (stepped : use.step .getFramebuffer = some next) : next.Conserved config := by
  simp only [step, Display.getFramebuffer, Option.bind_eq_bind, Option.bind_eq_some_iff,
    Option.pure_def, Option.some.injEq] at stepped
  rcases stepped with ⟨_, ⟨⟨framebuffer, pool⟩, got, rfl⟩, rfl⟩
  rcases FramebufferPool.getFramebuffer_eq_some got with ⟨rfl, _, _⟩
  have count := conserved.count_eq
  have inRange := FramebufferPool.following_lt
    (conserved.addresses_eq.symm ▸ conserved.next_lt)
  exact {
    addresses_eq := conserved.addresses_eq
    format_eq := conserved.format_eq
    count_eq := by
      simp only [List.length_append, List.length_singleton]
      omega
    next_lt := by
      rw [conserved.addresses_eq] at inRange
      exact inRange }

/-- A release keeps the framebuffer on record until the pool has it back. -/
theorem Conserved.releaseFramebuffer (conserved : use.Conserved config)
    {framebuffer : Framebuffer} {surroundings : Surroundings}
    (held : framebuffer.isValid → framebuffer ∈ use.held)
    (stepped : use.step (.releaseFramebuffer framebuffer surroundings) = some next) :
    next.Conserved config := by
  cases released : use.display.releaseFramebuffer surroundings framebuffer with
  | error =>
      rw [step, released] at stepped
      cases stepped
  | ok release =>
      rw [step, released] at stepped
      cases stepped
      have count := conserved.count_eq
      rcases Display.releaseFramebuffer_eq_ok released with
        ⟨_, rfl⟩ | ⟨valid, rfl⟩ | ⟨valid, rfl⟩
      · exact conserved
      · have fewer := List.length_erase_of_mem (held valid)
        have some := List.length_pos_of_mem (held valid)
        exact { conserved with
          count_eq := by
            simp only [afterRelease, List.length_append, List.length_singleton]
            omega }
      · have fewer := List.length_erase_of_mem (held valid)
        have some := List.length_pos_of_mem (held valid)
        exact { conserved with
          count_eq := by
            simp only [afterRelease, FramebufferPool.releaseFramebuffer]
            omega }

theorem Conserved.completed (conserved : use.Conserved config)
    {framebuffer : Framebuffer} (inFlight : framebuffer ∈ use.inFlight)
    (stepped : use.step (.completed framebuffer) = some next) : next.Conserved config := by
  cases stepped
  have count := conserved.count_eq
  have fewer := List.length_erase_of_mem inFlight
  have some := List.length_pos_of_mem inFlight
  exact {
    addresses_eq := conserved.addresses_eq
    format_eq := conserved.format_eq
    count_eq := by
      simp only [FramebufferPool.releaseFramebuffer]
      omega
    next_lt := conserved.next_lt }

theorem Conserved.step (conserved : use.Conserved config) {event : Event}
    (enabled : use.Enabled event) (stepped : use.step event = some next) :
    next.Conserved config := by
  cases event with
  | getFramebuffer => exact conserved.getFramebuffer enabled stepped
  | releaseFramebuffer => exact conserved.releaseFramebuffer enabled stepped
  | completed => exact conserved.completed enabled stepped

/-- With real buffers in the pool, no assertion keeps a caller from its
framebuffer. -/
theorem Conserved.getFramebuffer_isSome (conserved : use.Conserved config)
    (addresses : ∀ address ∈ config.fbAddr, address ≠ nullptr)
    (format : config.pixelFormat ≠ .none) : use.display.getFramebuffer.isSome := by
  have got : use.display.framebufferPool.getFramebuffer.isSome := by
    apply FramebufferPool.getFramebuffer_isSome
    · rw [conserved.addresses_eq]
      exact conserved.next_lt
    · rw [conserved.addresses_eq]
      exact addresses
    · rw [conserved.format_eq]
      exact format
  rcases Option.isSome_iff_exists.mp got with ⟨result, result_eq⟩
  simp [Display.getFramebuffer, result_eq]

end Step

/-- In every state the display can reach, whatever its driver delays: each
framebuffer is counted once, the pool's index is in range, what the pool hands
out is valid (and over real buffers it does hand something out), an invalid
framebuffer is turned away without effect, and a valid one goes to the driver
and back to the pool. -/
theorem conserved_of_run (config : FramebufferPool.Config)
    (nonempty : 0 < config.fbAddr.length) (size : Size UInt16)
    (displayResize supportsResize : Bool) {events : List Event} {last : DisplayUse}
    (run : machine.Run (start config size displayResize supportsResize) events last) :
    last.display.framebufferPool.framebufferSemaphore + last.held.length +
        last.inFlight.length = config.fbAddr.length ∧
      last.display.framebufferPool.nextFbIdx < config.fbAddr.length ∧
      (∀ framebuffer display, last.display.getFramebuffer = some (framebuffer, display) →
        framebuffer.isValid) ∧
      ((∀ address ∈ config.fbAddr, address ≠ nullptr) → config.pixelFormat ≠ .none →
        last.display.getFramebuffer.isSome) ∧
      (∀ framebuffer surroundings, framebuffer.isValid = false →
        (last.display.releaseFramebuffer surroundings framebuffer).map Release.returned =
            .ok .invalidArgument ∧
          last.step (.releaseFramebuffer framebuffer surroundings) = some last) ∧
      last.GivesBack := by
  have conserved : last.Conserved config :=
    run.invariant (Conserved config) (fun _ _ _ holds enabled stepped =>
      holds.step enabled stepped)
      (start_conserved config nonempty size displayResize supportsResize)
  refine ⟨conserved.count_eq, conserved.next_lt, ?_, conserved.getFramebuffer_isSome, ?_,
    last.givesBack⟩
  · intro framebuffer display got
    simp only [Display.getFramebuffer, Option.bind_eq_bind, Option.bind_eq_some_iff,
      Option.pure_def, Option.some.injEq, Prod.mk.injEq] at got
    rcases got with ⟨⟨_, pool⟩, fromPool, rfl, _⟩
    exact (FramebufferPool.getFramebuffer_eq_some fromPool).2.2
  · intro framebuffer surroundings invalid
    have rejected : last.display.releaseFramebuffer surroundings framebuffer =
        .ok .rejected :=
      Display.releaseFramebuffer_invalid invalid
    rw [step, rejected]
    exact ⟨rfl, rfl⟩

def oneBuffer : FramebufferPool.Config where
  fbAddr := [0x20000000]
  dimensions := ⟨320, 240⟩
  rowBytes := 640
  pixelFormat := .rgb565

/-- A framebuffer of the pool above. -/
def oneFramebuffer : Framebuffer where
  pixelData := 0x20000000
  pixelFormat := .rgb565
  size := ⟨320, 240⟩
  rowBytes := 640

/-- A framebuffer is fetched and released, and its write completes. -/
theorem conserved_of_run_oneBuffer :
    ∃ last, machine.Run (start oneBuffer ⟨320, 240⟩ false false)
        [.getFramebuffer, .releaseFramebuffer oneFramebuffer ⟨fun _ => 0, fun _ _ => .ok⟩,
          .completed oneFramebuffer]
        last ∧
      last.held = [] ∧ last.inFlight = [] ∧
      last.display.framebufferPool.framebufferSemaphore + last.held.length +
        last.inFlight.length = 1 :=
  have run := Machine.Run.of_execute (Option.some_get (by decide)).symm
  ⟨_, run, by decide, by decide,
    (conserved_of_run oneBuffer (by decide) ⟨320, 240⟩ false false run).1⟩

end DisplayUse

end PigweedExperimental
