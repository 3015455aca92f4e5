import PigweedExperimental.Framebuffer.Framebuffer
import PigweedExperimental.Status

namespace PigweedExperimental.MipiDsi

/-! # `FramebufferDevice`

The device that writes framebuffers with NXP's display controller. Calls into
the controller give arbitrary results, which the operations take as arguments;
a failed assertion and a call through a null controller are `none`.
-/

/-- The SDK's `status_t`, by the codes the conversion below names. -/
inductive McuxStatus where
  | success
  | fail
  | readOnly
  | outOfRange
  | invalidArgument
  | timeout
  | noTransferInProgress
  | busy
  | noData
  | other (code : Int)
  deriving DecidableEq, Repr

def McuxStatus.toPigweedStatus : McuxStatus → Status
  | .success => .ok
  | .fail => .internal
  | .readOnly => .permissionDenied
  | .outOfRange => .outOfRange
  | .invalidArgument => .invalidArgument
  | .timeout => .deadlineExceeded
  | .noTransferInProgress => .failedPrecondition
  | .busy => .failedPrecondition
  | .noData => .unavailable
  | .other _ => .internal

@[simp] theorem McuxStatus.toPigweedStatus_eq_ok (status : McuxStatus) :
    status.toPigweedStatus = .ok ↔ status = .success := by
  cases status <;> simp [toPigweedStatus]

/-- `video_mempool_t`: a collection of buffers, in an order of its own. -/
abbrev VideoMempool := List Address

namespace VideoMempool

/-- `VIDEO_MEMPOOL_Put` -/
def put (pool : VideoMempool) (buffer : Address) : VideoMempool := buffer :: pool

/-- What `VIDEO_MEMPOOL_Get` may return: some buffer, or null when there is none. -/
def MayGet (pool : VideoMempool) : Option Address → Prop
  | some buffer => buffer ∈ pool
  | none => pool = []

instance (pool : VideoMempool) : (got : Option Address) → Decidable (pool.MayGet got)
  | some buffer => inferInstanceAs (Decidable (buffer ∈ pool))
  | none => inferInstanceAs (Decidable (pool = []))

/-- The pool after `VIDEO_MEMPOOL_Get` has returned. -/
def afterGet (pool : VideoMempool) : Option Address → VideoMempool
  | some buffer => pool.erase buffer
  | none => pool

theorem foldl_put (pool : VideoMempool) (buffers : List Address) :
    (buffers.foldl put pool).Perm (buffers ++ pool) := by
  induction buffers generalizing pool with
  | nil => exact .refl pool
  | cons buffer buffers induction =>
      exact (induction (pool.put buffer)).trans List.perm_middle

end VideoMempool

/-- The device with the file's two static variables, the callback and the
buffer of the write in progress. -/
structure FramebufferDevice (Callback : Type u) where
  videoMempool : VideoMempool
  dc : Address
  enabled : Bool
  framebufferSemaphore : Nat
  writeCallback : Option Callback
  currentWriteBuffer : Address
  deriving DecidableEq

/-- A callback that is called, with its arguments. -/
structure Invocation (Callback : Type u) where
  callback : Callback
  buffer : Address
  status : Status
  deriving DecidableEq

/-- A call of the controller's layer operations, with its answer. -/
inductive LayerCall where
  | enableLayer (answer : McuxStatus)
  | disableLayer (answer : McuxStatus)
  deriving DecidableEq, Repr

/-- What the controller answers while a device is initialised. -/
structure InitCalls where
  init : McuxStatus
  getLayerDefaultConfig : McuxStatus
  setLayerConfig : McuxStatus
  deriving DecidableEq

/-- All three calls succeed. -/
def InitCalls.Succeed (calls : InitCalls) : Prop :=
  calls.init = .success ∧ calls.getLayerDefaultConfig = .success ∧
    calls.setLayerConfig = .success

instance (calls : InitCalls) : Decidable calls.Succeed :=
  inferInstanceAs (Decidable (_ ∧ _))

namespace FramebufferDevice

variable {Callback : Type u}

def fresh : FramebufferDevice Callback where
  videoMempool := []
  dc := nullptr
  enabled := false
  framebufferSemaphore := 0
  writeCallback := none
  currentWriteBuffer := nullptr

def initDisplayController (device : FramebufferDevice Callback) (dc : Address)
    (calls : InitCalls) : Option (FramebufferDevice Callback × Status) :=
  if device.dc ≠ nullptr then
    none
  else
    let device := { device with dc }
    if dc = nullptr then
      none
    else if calls.init ≠ .success then
      some (device, calls.init.toPigweedStatus)
    else if calls.getLayerDefaultConfig ≠ .success then
      some (device, calls.getLayerDefaultConfig.toPigweedStatus)
    else if calls.setLayerConfig ≠ .success then
      some (device, calls.setLayerConfig.toPigweedStatus)
    else
      some (device, .ok)

def initVideoMemPool (device : FramebufferDevice Callback) (buffers : List Address) :
    FramebufferDevice Callback × Status :=
  if device.enabled then
    (device, .failedPrecondition)
  else
    ({ device with videoMempool := buffers.foldl VideoMempool.put device.videoMempool }, .ok)

def init (device : FramebufferDevice Callback) (dc : Address) (buffers : List Address)
    (calls : InitCalls) : Option (FramebufferDevice Callback × Status) := do
  let (device, status) ← device.initDisplayController dc calls
  if status ≠ .ok then
    return (device, status)
  let (device, status) := device.initVideoMemPool buffers
  if status ≠ .ok then
    return (device, status)
  return ({ device with framebufferSemaphore := device.framebufferSemaphore + 1 }, .ok)

def close (device : FramebufferDevice Callback) (deinit : McuxStatus) :
    FramebufferDevice Callback × Status :=
  if device.dc = nullptr then
    (device, .failedPrecondition)
  else
    ({ device with dc := nullptr }, deinit.toPigweedStatus)

/-- `Enable`, given whether the controller reserves its framebuffer, with the calls
it makes. -/
def enable (device : FramebufferDevice Callback) (reservesFrameBuffer : Bool)
    (enableLayer : McuxStatus) : FramebufferDevice Callback × Status × List LayerCall :=
  if device.enabled then
    (device, .ok, [])
  else if reservesFrameBuffer then
    (device, .ok, [])
  else if enableLayer ≠ .success then
    ({ device with enabled := true }, enableLayer.toPigweedStatus, [.enableLayer enableLayer])
  else
    (device, .ok, [.enableLayer enableLayer])

def disable (device : FramebufferDevice Callback) (disableLayer : McuxStatus) :
    FramebufferDevice Callback × Status × List LayerCall :=
  if !device.enabled then
    (device, .ok, [])
  else
    ({ device with enabled := false }, disableLayer.toPigweedStatus,
      [.disableLayer disableLayer])

/-- A call that the semaphore lets through, and what the pool gave it. -/
def getFramebuffer (device : FramebufferDevice Callback) (got : Option Address) :
    FramebufferDevice Callback × Address :=
  ({ device with
      framebufferSemaphore := device.framebufferSemaphore - 1
      videoMempool := device.videoMempool.afterGet got },
    got.getD nullptr)

/-- The callback is emptied when it is called. The whole function is one step, with
the callback at its end: no `GetFramebuffer` that waits for the semaphore goes on in
the middle of it. -/
def writeComplete (device : FramebufferDevice Callback) (buffer : Address)
    (status : Status) : Option (FramebufferDevice Callback × Invocation Callback) :=
  if buffer ≠ device.currentWriteBuffer then
    none
  else do
    let callback ← device.writeCallback
    return ({ device with
        framebufferSemaphore := device.framebufferSemaphore + 1
        currentWriteBuffer := nullptr
        writeCallback := none },
      { callback, buffer, status })

def writeFramebuffer (device : FramebufferDevice Callback) (frameBuffer : Address)
    (writeCallback : Callback) (setFrameBuffer : McuxStatus) :
    Option (FramebufferDevice Callback × Option (Invocation Callback)) :=
  if device.writeCallback.isSome then
    none
  else
    let device := { device with
      writeCallback := some writeCallback
      currentWriteBuffer := frameBuffer }
    if device.dc = nullptr then
      none
    else if setFrameBuffer.toPigweedStatus ≠ .ok then do
      let (device, invocation) ←
        device.writeComplete device.currentWriteBuffer setFrameBuffer.toPigweedStatus
      return (device, some invocation)
    else
      return (device, none)

def bufferSwitchOff (device : FramebufferDevice Callback) (buffer : Address) :
    Option (FramebufferDevice Callback × Invocation Callback) :=
  { device with videoMempool := device.videoMempool.put buffer }.writeComplete buffer .ok

theorem initDisplayController_eq_some {device next : FramebufferDevice Callback}
    {dc : Address} {calls : InitCalls} {status : Status}
    (initialised : device.initDisplayController dc calls = some (next, status)) :
    next = { device with dc } ∧ (status = .ok ↔ calls.Succeed) := by
  rw [initDisplayController] at initialised
  rw [InitCalls.Succeed]
  repeat' split at initialised
  all_goals cases initialised
  all_goals simp_all

/-- A device that is not enabled takes the buffers exactly when the
controller comes up, and otherwise keeps everything but the controller. -/
theorem init_eq_some {device next : FramebufferDevice Callback} {dc : Address}
    {buffers : List Address} {calls : InitCalls} {status : Status}
    (notEnabled : device.enabled = false)
    (initialised : device.init dc buffers calls = some (next, status)) :
    (status = .ok ↔ calls.Succeed) ∧
      next = if calls.Succeed then
        { device with
          dc
          videoMempool := buffers.foldl VideoMempool.put device.videoMempool
          framebufferSemaphore := device.framebufferSemaphore + 1 }
      else
        { device with dc } := by
  simp only [init, Option.bind_eq_bind, Option.bind_eq_some_iff] at initialised
  rcases initialised with ⟨⟨middle, controllerStatus⟩, controller, rest⟩
  rcases initDisplayController_eq_some controller with ⟨rfl, ok_iff⟩
  by_cases succeed : calls.Succeed
  · rw [if_neg (by simpa using ok_iff.mpr succeed)] at rest
    simp [initVideoMemPool, notEnabled] at rest
    simp [succeed, ← rest.1, ← rest.2, notEnabled]
  · have failed : controllerStatus ≠ .ok := fun ok => succeed (ok_iff.mp ok)
    rw [if_pos failed] at rest
    cases rest
    simp [succeed, failed]

theorem writeComplete_eq_some {device next : FramebufferDevice Callback}
    {buffer : Address} {status : Status} {invocation : Invocation Callback}
    (completed : device.writeComplete buffer status = some (next, invocation)) :
    buffer = device.currentWriteBuffer ∧
      device.writeCallback = some invocation.callback ∧
      invocation.buffer = buffer ∧ invocation.status = status ∧
      next = { device with
        framebufferSemaphore := device.framebufferSemaphore + 1
        currentWriteBuffer := nullptr
        writeCallback := none } := by
  rw [writeComplete] at completed
  split at completed
  · cases completed
  · rename_i isCurrent
    simp only [Option.bind_eq_bind, Option.bind_eq_some_iff, Option.pure_def,
      Option.some.injEq, Prod.mk.injEq] at completed
    rcases completed with ⟨callback, isCallback, rfl, rfl⟩
    exact ⟨Decidable.not_not.mp isCurrent, isCallback, rfl, rfl, rfl⟩

/-- An accepted write stays pending; a rejected one completes at once. The
pool is the same after both. -/
theorem writeFramebuffer_eq_some {device next : FramebufferDevice Callback}
    {frameBuffer : Address} {callback : Callback} {setFrameBuffer : McuxStatus}
    {invocation : Option (Invocation Callback)}
    (written : device.writeFramebuffer frameBuffer callback setFrameBuffer =
      some (next, invocation)) :
    device.writeCallback = none ∧ device.dc ≠ nullptr ∧
      next = if setFrameBuffer = .success then
        { device with
          writeCallback := some callback
          currentWriteBuffer := frameBuffer }
      else
        { device with
          framebufferSemaphore := device.framebufferSemaphore + 1
          currentWriteBuffer := nullptr } := by
  rw [writeFramebuffer] at written
  split at written
  · cases written
  · rename_i noCallback
    have idle : device.writeCallback = none := by simpa using noCallback
    dsimp only at written
    split at written
    · cases written
    · rename_i hasController
      split at written
      · rename_i rejected
        simp only [Option.bind_eq_bind, Option.bind_eq_some_iff, Option.pure_def,
          Option.some.injEq, Prod.mk.injEq] at written
        rcases written with ⟨⟨after, called⟩, completed, rfl, _⟩
        rcases writeComplete_eq_some completed with ⟨_, _, _, _, rfl⟩
        refine ⟨idle, hasController, ?_⟩
        rw [if_neg (by simpa using rejected), idle]
      · rename_i accepted
        cases written
        refine ⟨idle, hasController, ?_⟩
        rw [if_pos (by simpa using accepted)]

end FramebufferDevice

end PigweedExperimental.MipiDsi
