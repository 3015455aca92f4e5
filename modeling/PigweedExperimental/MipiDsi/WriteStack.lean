import PigweedExperimental.Foundation.Execution
import PigweedExperimental.FramebufferPool.FramebufferPool
import PigweedExperimental.MipiDsi.FramebufferDevice

namespace PigweedExperimental.MipiDsi

/-! # From the display driver to the controller

`DisplayDriverMipiDsi` writes through `MCUXpressoDevice`, and that one through
`FramebufferDevice`. Each layer keeps the callback of the layer above in a slot
of its own. Every callback is the last thing its caller does, so a call made
from within a callback is as good as one made after it. A completion, be it in the
interrupt or in the write that failed, is over before a `GetFramebuffer` that waits
for it goes on.
-/

/-- The callbacks that `MCUXpressoDevice` gives to its `FramebufferDevice`: the one
in `Init`, which does nothing, and the one in `WriteFramebuffer`. -/
inductive BufferCallback where
  | initWritten
  | framebufferWritten
  deriving DecidableEq, Repr

/-- A framebuffer callback that is called, with its arguments. -/
structure FramebufferInvocation (Callback : Type) where
  callback : Callback
  framebuffer : Framebuffer
  status : Status
  deriving DecidableEq

/-- The device with the static variables `s_write_callback` and
`s_write_framebuffer` of its file. -/
structure MCUXpressoDevice (Callback : Type) where
  framebufferPool : FramebufferPool
  fbdev : FramebufferDevice BufferCallback
  sWriteCallback : Option Callback
  sWriteFramebuffer : Framebuffer
  deriving DecidableEq

/-- What the SDK answers during `Init`. -/
structure DeviceInitCalls where
  prepareDisplayController : McuxStatus
  init : InitCalls
  got : Option Address
  setFrameBuffer : McuxStatus
  reservesFrameBuffer : Bool
  enableLayer : McuxStatus
  deriving DecidableEq

namespace MCUXpressoDevice

variable {Callback : Type}

def fresh (framebufferPool : FramebufferPool) : MCUXpressoDevice Callback where
  framebufferPool
  fbdev := .fresh
  sWriteCallback := none
  sWriteFramebuffer := .invalid

/-- A callback of `FramebufferDevice`. It empties the slot whose callback it
calls, and moves the framebuffer to it. -/
def complete (device : MCUXpressoDevice Callback)
    (invocation : Invocation BufferCallback) :
    Option (MCUXpressoDevice Callback × Option (FramebufferInvocation Callback)) :=
  match invocation.callback with
  | .initWritten => some (device, none)
  | .framebufferWritten => do
      let callback ← device.sWriteCallback
      return ({ device with
          sWriteCallback := none
          sWriteFramebuffer := device.sWriteFramebuffer.movedFrom },
        some {
          callback
          framebuffer := device.sWriteFramebuffer
          status := invocation.status })

/-- `fbdev_.WriteFramebuffer`, with the callback if it is called already. -/
def writeBuffer (device : MCUXpressoDevice Callback) (buffer : Address)
    (callback : BufferCallback) (setFrameBuffer : McuxStatus) :
    Option (MCUXpressoDevice Callback × Option (FramebufferInvocation Callback)) := do
  let (fbdev, invocation) ← device.fbdev.writeFramebuffer buffer callback setFrameBuffer
  let device := { device with fbdev }
  match invocation with
  | none => return (device, none)
  | some invocation => device.complete invocation

def init (device : MCUXpressoDevice Callback) (dc : Address) (calls : DeviceInitCalls) :
    Option (MCUXpressoDevice Callback × Status) := do
  let buffers := device.framebufferPool.bufferAddresses
  if buffers = [] then
    return (device, .invalidArgument)
  if calls.prepareDisplayController.toPigweedStatus ≠ .ok then
    return (device, calls.prepareDisplayController.toPigweedStatus)
  let (fbdev, status) ← device.fbdev.init dc buffers calls.init
  let device := { device with fbdev }
  if status ≠ .ok then
    return (device, status)
  let (fbdev, buffer) := device.fbdev.getFramebuffer calls.got
  let device := { device with fbdev }
  if buffer = nullptr then
    return (device, .internal)
  let (device, _) ← device.writeBuffer buffer .initWritten calls.setFrameBuffer
  let (fbdev, status, _) := device.fbdev.enable calls.reservesFrameBuffer calls.enableLayer
  return ({ device with fbdev }, status)

/-- A call that the semaphore lets through. It fails where the pool is empty, as
the constructor does not take a null buffer. -/
def getFramebuffer (device : MCUXpressoDevice Callback) (got : Option Address) :
    Option (MCUXpressoDevice Callback × Framebuffer) := do
  let pool := device.framebufferPool
  let (fbdev, buffer) := device.fbdev.getFramebuffer got
  let framebuffer ← Framebuffer.create buffer pool.pixelFormat pool.bufferDimensions pool.rowBytes
  return ({ device with fbdev }, framebuffer)

def writeFramebuffer (device : MCUXpressoDevice Callback) (framebuffer : Framebuffer)
    (writeCallback : Callback) (setFrameBuffer : McuxStatus) :
    Option (MCUXpressoDevice Callback × Option (FramebufferInvocation Callback)) :=
  if ¬framebuffer.isValid then
    none
  else if device.sWriteCallback.isSome then
    none
  else
    let device := { device with
      sWriteCallback := some writeCallback
      sWriteFramebuffer := framebuffer }
    device.writeBuffer device.sWriteFramebuffer.pixelData .framebufferWritten setFrameBuffer

/-- The controller has switched off a buffer. -/
def bufferSwitchOff (device : MCUXpressoDevice Callback) (buffer : Address) :
    Option (MCUXpressoDevice Callback × Option (FramebufferInvocation Callback)) := do
  let (fbdev, invocation) ← device.fbdev.bufferSwitchOff buffer
  { device with fbdev }.complete invocation

end MCUXpressoDevice

/-- The driver with the global variable `s_write_callback` of its file. Its one
callback for the device captures nothing. -/
structure DisplayDriverMipiDsi (Callback : Type) where
  device : MCUXpressoDevice Unit
  sWriteCallback : Option Callback
  deriving DecidableEq

namespace DisplayDriverMipiDsi

variable {Callback : Type}

/-- The callback given to the device, where the device has called it. An empty
callback cannot be called. -/
def complete (driver : DisplayDriverMipiDsi Callback)
    (invocation : Option (FramebufferInvocation Unit)) :
    Option (DisplayDriverMipiDsi Callback × Option (FramebufferInvocation Callback)) :=
  match invocation with
  | none => some (driver, none)
  | some invocation => do
      let callback ← driver.sWriteCallback
      return ({ driver with sWriteCallback := none },
        some { callback, framebuffer := invocation.framebuffer, status := invocation.status })

def writeFramebuffer (driver : DisplayDriverMipiDsi Callback) (framebuffer : Framebuffer)
    (writeCallback : Callback) (setFrameBuffer : McuxStatus) :
    Option (DisplayDriverMipiDsi Callback × Option (FramebufferInvocation Callback)) := do
  let driver := { driver with sWriteCallback := some writeCallback }
  let (device, invocation) ← driver.device.writeFramebuffer framebuffer () setFrameBuffer
  { driver with device }.complete invocation

def bufferSwitchOff (driver : DisplayDriverMipiDsi Callback) (buffer : Address) :
    Option (DisplayDriverMipiDsi Callback × Option (FramebufferInvocation Callback)) := do
  let (device, invocation) ← driver.device.bufferSwitchOff buffer
  { driver with device }.complete invocation

end DisplayDriverMipiDsi

end PigweedExperimental.MipiDsi
