import PigweedExperimental.Framebuffer.Framebuffer
import PigweedExperimental.Status

namespace PigweedExperimental

/-! # `FramebufferPool`

`GetFramebuffer` is given statement by statement, because other threads may
run between two of its statements; the whole call is their composition.
-/

structure FramebufferPool where
  framebufferSemaphore : Nat
  bufferAddresses : List Address
  bufferDimensions : Size UInt16
  rowBytes : UInt16
  pixelFormat : PixelFormat
  nextFbIdx : Nat
  deriving DecidableEq, Repr

namespace FramebufferPool

/-- Constructor parameters, `FramebufferPool::Config`. -/
structure Config where
  fbAddr : List Address
  dimensions : Size UInt16
  rowBytes : UInt16
  pixelFormat : PixelFormat

/-- The constructor: every buffer is free and the first one is next. -/
def create (config : Config) : FramebufferPool where
  framebufferSemaphore := config.fbAddr.length
  bufferAddresses := config.fbAddr
  bufferDimensions := config.dimensions
  rowBytes := config.rowBytes
  pixelFormat := config.pixelFormat
  nextFbIdx := 0

/-- `framebuffer_semaphore_.acquire()` of a caller that gets through. -/
def acquire (pool : FramebufferPool) : FramebufferPool :=
  { pool with framebufferSemaphore := pool.framebufferSemaphore - 1 }

/-- `size_t idx = next_fb_idx_++` -/
def fetchIncrement (pool : FramebufferPool) : Nat × FramebufferPool :=
  (pool.nextFbIdx, { pool with nextFbIdx := pool.nextFbIdx + 1 })

/-- `if (next_fb_idx_ == buffer_addresses_.size()) next_fb_idx_ = 0` -/
def resetAtEnd (pool : FramebufferPool) : FramebufferPool :=
  if pool.nextFbIdx = pool.bufferAddresses.length then
    { pool with nextFbIdx := 0 }
  else
    pool

/-- The framebuffer over `buffer_addresses_[idx]`; `none` past the end. -/
def framebufferAt (pool : FramebufferPool) (idx : Nat) : Option Framebuffer := do
  let address ← pool.bufferAddresses[idx]?
  Framebuffer.create address pool.pixelFormat pool.bufferDimensions pool.rowBytes

/-- A call of `GetFramebuffer` that no other call interrupts, made while the
semaphore lets it through. -/
def getFramebuffer (pool : FramebufferPool) :
    Option (Framebuffer × FramebufferPool) := do
  let fetched := pool.acquire.fetchIncrement
  let pool := fetched.2.resetAtEnd
  let framebuffer ← pool.framebufferAt fetched.1
  return (framebuffer, pool)

/-- `ReleaseFramebuffer` does not look at the framebuffer it is given. -/
def releaseFramebuffer (pool : FramebufferPool) (_ : Framebuffer) :
    Status × FramebufferPool :=
  (.ok, { pool with framebufferSemaphore := pool.framebufferSemaphore + 1 })

/-- The index after `idx` in the order in which the pool hands out buffers. -/
def following (pool : FramebufferPool) (idx : Nat) : Nat :=
  if idx + 1 = pool.bufferAddresses.length then 0 else idx + 1

theorem resetAtEnd_fetchIncrement (pool : FramebufferPool) :
    pool.acquire.fetchIncrement.2.resetAtEnd =
      { pool with
        framebufferSemaphore := pool.framebufferSemaphore - 1
        nextFbIdx := pool.following pool.nextFbIdx } := by
  rw [resetAtEnd, following]
  by_cases atEnd : pool.nextFbIdx + 1 = pool.bufferAddresses.length <;>
    simp [fetchIncrement, acquire, atEnd]

theorem framebufferAt_eq_some {pool : FramebufferPool} {idx : Nat}
    {framebuffer : Framebuffer} (read : pool.framebufferAt idx = some framebuffer) :
    pool.bufferAddresses[idx]? = some framebuffer.pixelData ∧
      framebuffer.isValid := by
  rcases Option.bind_eq_some_iff.mp read with ⟨address, addressAt, created⟩
  have ⟨fields, valid⟩ := Framebuffer.create_eq_some created
  exact ⟨by rw [addressAt, fields], valid⟩

/-- All that a completed `GetFramebuffer` call does. -/
theorem getFramebuffer_eq_some {pool next : FramebufferPool}
    {framebuffer : Framebuffer}
    (got : pool.getFramebuffer = some (framebuffer, next)) :
    next = { pool with
        framebufferSemaphore := pool.framebufferSemaphore - 1
        nextFbIdx := pool.following pool.nextFbIdx } ∧
      pool.bufferAddresses[pool.nextFbIdx]? = some framebuffer.pixelData ∧
      framebuffer.isValid := by
  simp only [getFramebuffer, resetAtEnd_fetchIncrement, Option.bind_eq_bind,
    Option.bind_eq_some_iff, Option.pure_def, Option.some.injEq,
    Prod.mk.injEq] at got
  rcases got with ⟨_, read, rfl, rfl⟩
  exact ⟨rfl, framebufferAt_eq_some read⟩

/-- Over real buffers, an index in range is all a call needs. -/
theorem getFramebuffer_isSome {pool : FramebufferPool}
    (inRange : pool.nextFbIdx < pool.bufferAddresses.length)
    (addresses : ∀ address ∈ pool.bufferAddresses, address ≠ nullptr)
    (format : pool.pixelFormat ≠ .none) : pool.getFramebuffer.isSome := by
  have notNull := addresses _ (List.getElem_mem inRange)
  unfold getFramebuffer
  dsimp only
  rw [resetAtEnd_fetchIncrement]
  simp [framebufferAt, fetchIncrement, acquire, Framebuffer.create, inRange, notNull, format]

theorem following_lt {pool : FramebufferPool} {idx : Nat}
    (inRange : idx < pool.bufferAddresses.length) :
    pool.following idx < pool.bufferAddresses.length := by
  rw [following]
  split <;> omega

end FramebufferPool

end PigweedExperimental
