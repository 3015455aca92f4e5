import PigweedExperimental.Display.NearestNeighbor
import PigweedExperimental.FramebufferPool.FramebufferPool

namespace PigweedExperimental

/-! # `Display`

A display hands out the framebuffers of its pool and sends them to its driver.
A framebuffer goes back to the pool in the write callback, which the driver
calls when it likes, or which the software resize calls itself.
-/

/-- A display, with what the build and the driver say about resizing. -/
structure Display where
  size : Size UInt16
  framebufferPool : FramebufferPool
  displayResize : Bool
  supportsResize : Bool
  deriving DecidableEq

/-- What a release meets outside the display: the pixels of the framebuffer and
the driver's answers to row writes. -/
structure Surroundings where
  fbdata : Nat → UInt16
  writeRow : (rowIdx colIdx : UInt16) → Status

/-- How far a release has come when `ReleaseFramebuffer` returns. -/
inductive Release where
  | rejected
  | writing
  | resized (result : Status) (pool : FramebufferPool)
  deriving DecidableEq

namespace Release

/-- The status `ReleaseFramebuffer` returns. -/
def returned : Release → Status
  | .rejected => .invalidArgument
  | .writing => .ok
  | .resized result _ => result

end Release

namespace Display

def getFramebuffer (display : Display) : Option (Framebuffer × Display) := do
  let (framebuffer, framebufferPool) ← display.framebufferPool.getFramebuffer
  return (framebuffer, { display with framebufferPool })

/-- `write_cb`, with its `PW_ASSERT_OK`. -/
def writeCallback (pool : FramebufferPool) (framebuffer : Framebuffer)
    (status : Status) : Except Fault FramebufferPool :=
  if status = .ok then
    .ok (pool.releaseFramebuffer framebuffer).2
  else
    .error .assertion

/-- The framebuffer is resized here and not by the driver. -/
def resizesInSoftware (display : Display) (framebuffer : Framebuffer) : Bool :=
  framebuffer.size ≠ display.size ∧ display.displayResize ∧ ¬display.supportsResize

def resizeInput (display : Display) (surroundings : Surroundings)
    (framebuffer : Framebuffer) : NearestNeighbor.Input where
  size := display.size
  framebuffer := framebuffer
  fbdata := surroundings.fbdata
  writeRow := surroundings.writeRow

def releaseFramebuffer (display : Display) (surroundings : Surroundings)
    (framebuffer : Framebuffer) : Except Fault Release :=
  if ¬framebuffer.isValid then
    .ok .rejected
  else if framebuffer.size ≠ display.size ∧ display.displayResize then
    if display.supportsResize then
      .ok .writing
    else do
      let (result, _) ← NearestNeighbor.updateNearestNeighbor
        (display.resizeInput surroundings framebuffer)
      let pool ← writeCallback display.framebufferPool framebuffer result
      return .resized result pool
  else
    .ok .writing

section Release

variable {display : Display} {surroundings : Surroundings} {framebuffer : Framebuffer}

theorem releaseFramebuffer_invalid (invalid : framebuffer.isValid = false) :
    display.releaseFramebuffer surroundings framebuffer = .ok .rejected := by
  rw [releaseFramebuffer]
  rw [if_pos (by simp [invalid])]

theorem releaseFramebuffer_writing (valid : framebuffer.isValid)
    (byDriver : display.resizesInSoftware framebuffer = false) :
    display.releaseFramebuffer surroundings framebuffer = .ok .writing := by
  rw [releaseFramebuffer]
  rw [if_neg (by simp [valid])]
  rw [resizesInSoftware] at byDriver
  split
  · rename_i resizes
    rw [if_pos]
    simpa [resizes.1, resizes.2] using byDriver
  · rfl

theorem releaseFramebuffer_resized (valid : framebuffer.isValid)
    (bySoftware : display.resizesInSoftware framebuffer) :
    display.releaseFramebuffer surroundings framebuffer = do
      let (result, _) ← NearestNeighbor.updateNearestNeighbor
        (display.resizeInput surroundings framebuffer)
      let pool ← writeCallback display.framebufferPool framebuffer result
      return .resized result pool := by
  have conditions : framebuffer.size ≠ display.size ∧ display.displayResize ∧
      ¬display.supportsResize := by
    simpa [resizesInSoftware] using bySoftware
  rw [releaseFramebuffer]
  rw [if_neg (by simp [valid]), if_pos ⟨conditions.1, conditions.2.1⟩,
    if_neg conditions.2.2]

theorem writeCallback_eq_ok {pool next : FramebufferPool} {status : Status}
    (called : writeCallback pool framebuffer status = .ok next) :
    status = .ok ∧ next = (pool.releaseFramebuffer framebuffer).2 := by
  rw [writeCallback] at called
  split at called
  · rename_i isOk
    exact ⟨isOk, (Except.ok.inj called).symm⟩
  · cases called

/-- All the ways in which a call returns. -/
theorem releaseFramebuffer_eq_ok {release : Release}
    (released : display.releaseFramebuffer surroundings framebuffer = .ok release) :
    (framebuffer.isValid = false ∧ release = .rejected) ∨
      (framebuffer.isValid ∧ release = .writing) ∨
      (framebuffer.isValid ∧ release = .resized .ok
        (display.framebufferPool.releaseFramebuffer framebuffer).2) := by
  cases valid : framebuffer.isValid with
  | false =>
      rw [releaseFramebuffer_invalid valid] at released
      exact .inl ⟨rfl, (Except.ok.inj released).symm⟩
  | true =>
      right
      cases bySoftware : display.resizesInSoftware framebuffer with
      | false =>
          rw [releaseFramebuffer_writing valid bySoftware] at released
          exact .inl ⟨rfl, (Except.ok.inj released).symm⟩
      | true =>
          rw [releaseFramebuffer_resized valid bySoftware] at released
          cases resized : NearestNeighbor.updateNearestNeighbor
              (display.resizeInput surroundings framebuffer) with
          | error =>
              rw [resized] at released
              cases released
          | ok result =>
              rw [resized] at released
              cases called : writeCallback display.framebufferPool framebuffer result.1 with
              | error =>
                  simp only [bind, Except.bind, called] at released
                  cases released
              | ok pool =>
                  simp only [bind, Except.bind, called] at released
                  rcases writeCallback_eq_ok called with ⟨isOk, rfl⟩
                  rw [isOk] at released
                  exact .inr ⟨rfl, (Except.ok.inj released).symm⟩

end Release

end Display

end PigweedExperimental
