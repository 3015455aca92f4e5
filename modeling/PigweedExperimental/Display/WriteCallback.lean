import PigweedExperimental.Display.Display
import PigweedExperimental.Display.Resizable

namespace PigweedExperimental.Display

/-! # When a released framebuffer comes back

All ways of sending a framebuffer end in the same callback, which asserts
success before it gives the framebuffer back to the pool.
-/

/-- The driver's one call of the write callback, during the call of
`WriteFramebuffer` or later. -/
structure Completion where
  status : Status
  duringCall : Bool
  deriving DecidableEq

/-- How a release has ended, the driver's completion included: whether the
callback was told of a failure before the call returned is recorded as well. -/
structure Settled where
  returned : Status
  pool : FramebufferPool
  knownFailure : Bool
  deriving DecidableEq

/-- `ReleaseFramebuffer` up to the last call of the callback. -/
def settle (display : Display) (surroundings : Surroundings) (framebuffer : Framebuffer)
    (completion : Completion) : Except Fault Settled := do
  let release ← display.releaseFramebuffer surroundings framebuffer
  match release with
  | .rejected =>
      return {
        returned := release.returned
        pool := display.framebufferPool
        knownFailure := false }
  | .writing => do
      let pool ← writeCallback display.framebufferPool framebuffer completion.status
      return {
        returned := release.returned
        pool
        knownFailure := completion.duringCall ∧ completion.status ≠ .ok }
  | .resized result pool =>
      return {
        returned := release.returned
        pool
        knownFailure := result ≠ .ok }

/-- The framebuffer is handed back once, no assertion fails, and a failure known
before the call returns is reported. -/
def Handled (display : Display) (surroundings : Surroundings) (framebuffer : Framebuffer)
    (completion : Completion) : Prop :=
  ∃ settled, display.settle surroundings framebuffer completion = .ok settled ∧
    settled.pool = (display.framebufferPool.releaseFramebuffer framebuffer).2 ∧
    (settled.knownFailure → settled.returned ≠ .ok)

section Handled

variable {display : Display} {surroundings : Surroundings} {framebuffer : Framebuffer}

/-- The driver's completion decides about a framebuffer it was given. -/
theorem handled_iff_of_writing {completion : Completion}
    (writing : display.releaseFramebuffer surroundings framebuffer = .ok .writing) :
    display.Handled surroundings framebuffer completion ↔ completion.status = .ok := by
  unfold Handled settle writeCallback
  rw [writing]
  simp only [bind, Except.bind]
  by_cases isOk : completion.status = .ok
  · rw [if_pos isOk]
    apply iff_of_true _ isOk
    refine ⟨_, rfl, rfl, ?_⟩
    simp [isOk]
  · rw [if_neg isOk]
    exact iff_of_false (fun handled => nomatch handled.choose_spec.1) isOk

/-- The result of the resize decides about one that is resized here. -/
theorem handled_iff_of_resized {completion : Completion} (valid : framebuffer.isValid)
    (bySoftware : display.resizesInSoftware framebuffer) :
    display.Handled surroundings framebuffer completion ↔
      ∃ writes, NearestNeighbor.updateNearestNeighbor
        (display.resizeInput surroundings framebuffer) = .ok (.ok, writes) := by
  unfold Handled settle
  rw [releaseFramebuffer_resized valid bySoftware]
  cases NearestNeighbor.updateNearestNeighbor
      (display.resizeInput surroundings framebuffer) with
  | error => exact iff_of_false (fun handled => nomatch handled.choose_spec.1) nofun
  | ok result =>
      rcases result with ⟨status, writes⟩
      by_cases isOk : status = .ok
      · subst isOk
        apply iff_of_true _ ⟨writes, rfl⟩
        exact ⟨_, rfl, rfl, nofun⟩
      · apply iff_of_false
        · intro handled
          rcases handled with ⟨settled, released, _⟩
          simp only [bind, Except.bind, writeCallback, if_neg isOk] at released
          cases released
        · intro succeeded
          rcases succeeded with ⟨_, succeeded⟩
          cases succeeded
          exact isOk rfl

end Handled

/-- Exactly when a release is handled: the driver reports success, or where
the display resizes itself, the resize can and does come out. -/
theorem handled_iff (display : Display) (surroundings : Surroundings)
    (framebuffer : Framebuffer) (completion : Completion) (valid : framebuffer.isValid) :
    display.Handled surroundings framebuffer completion ↔
      if display.resizesInSoftware framebuffer then
        NearestNeighbor.Resizable (display.resizeInput surroundings framebuffer)
      else
        completion.status = .ok := by
  split
  · rename_i bySoftware
    rw [handled_iff_of_resized valid bySoftware]
    exact NearestNeighbor.updateNearestNeighbor_ok_iff valid
  · rename_i byDriver
    rw [Bool.not_eq_true] at byDriver
    exact handled_iff_of_writing (releaseFramebuffer_writing valid byDriver)

/-- A display of two by two pixels over one framebuffer of that size. -/
def smallDisplay : Display where
  size := ⟨2, 2⟩
  framebufferPool := {
    framebufferSemaphore := 0
    bufferAddresses := [0x20000000]
    bufferDimensions := ⟨2, 2⟩
    rowBytes := 4
    pixelFormat := .rgb565
    nextFbIdx := 0 }
  displayResize := false
  supportsResize := false

def smallFramebuffer : Framebuffer where
  pixelData := 0x20000000
  pixelFormat := .rgb565
  size := ⟨2, 2⟩
  rowBytes := 4

theorem handled_iff_smallDisplay :
    smallDisplay.Handled ⟨fun _ => 0, fun _ _ => .ok⟩ smallFramebuffer ⟨.ok, true⟩ ↔
      if smallDisplay.resizesInSoftware smallFramebuffer then
        NearestNeighbor.Resizable
          (smallDisplay.resizeInput ⟨fun _ => 0, fun _ _ => .ok⟩ smallFramebuffer)
      else
        Status.ok = .ok :=
  handled_iff smallDisplay ⟨fun _ => 0, fun _ _ => .ok⟩ smallFramebuffer ⟨.ok, true⟩
    (by decide)

/-- A driver that reports an error while it is called, as for a command that
was not sent: the callback's assertion fails. -/
theorem failedWrite_asserts :
    smallDisplay.settle ⟨fun _ => 0, fun _ _ => .ok⟩ smallFramebuffer ⟨.unavailable, true⟩ =
      .error .assertion := by
  decide

end PigweedExperimental.Display
