import PigweedExperimental.MipiDsi.WriteStack

namespace PigweedExperimental.MipiDsi

/-! # One callback for each write

The slots of the three layers hold one callback each. They are never in use
twice, because the semaphore of the lowest layer admits one framebuffer at a
time.
-/

section Layers

variable {Callback : Type} {answer : McuxStatus} {buffer : Address}

theorem FramebufferDevice.writeFramebuffer_idle {device : FramebufferDevice Callback}
    {callback : Callback} (idle : device.writeCallback = none)
    (hasController : device.dc ≠ nullptr) :
    device.writeFramebuffer buffer callback answer =
      some (if answer = .success then
        ({ device with writeCallback := some callback, currentWriteBuffer := buffer }, none)
      else
        ({ device with
            framebufferSemaphore := device.framebufferSemaphore + 1
            currentWriteBuffer := nullptr },
          some { callback, buffer, status := answer.toPigweedStatus })) := by
  rw [writeFramebuffer]
  rw [if_neg (by rw [idle]; exact Bool.false_ne_true)]
  dsimp only
  rw [if_neg hasController]
  by_cases accepted : answer = .success
  · rw [if_pos accepted, if_neg]
    · rfl
    · rw [accepted]
      intro impossible
      exact impossible rfl
  · have failed : answer.toPigweedStatus ≠ .ok :=
      fun ok => accepted ((McuxStatus.toPigweedStatus_eq_ok answer).mp ok)
    rw [if_neg accepted, if_pos failed]
    rw [writeComplete]
    rw [if_neg (fun different => different rfl)]
    dsimp only [bind, Option.bind]
    rw [idle]
    rfl

theorem FramebufferDevice.bufferSwitchOff_busy {device : FramebufferDevice Callback}
    {callback : Callback} (busy : device.writeCallback = some callback)
    (isCurrent : device.currentWriteBuffer = buffer) :
    device.bufferSwitchOff buffer = some ({ device with
        videoMempool := device.videoMempool.put buffer
        framebufferSemaphore := device.framebufferSemaphore + 1
        currentWriteBuffer := nullptr
        writeCallback := none },
      { callback, buffer, status := .ok }) := by
  rw [bufferSwitchOff, writeComplete]
  dsimp only
  rw [if_neg (fun different => different isCurrent.symm), busy]
  rfl

/-- A write through an idle stack stays pending, or calls its callback at once. -/
theorem DisplayDriverMipiDsi.writeFramebuffer_idle {driver : DisplayDriverMipiDsi Callback}
    {framebuffer : Framebuffer} {callback : Callback} (valid : framebuffer.isValid)
    (idle : driver.device.fbdev.writeCallback = none)
    (empty : driver.device.sWriteCallback = none)
    (hasController : driver.device.fbdev.dc ≠ nullptr) :
    driver.writeFramebuffer framebuffer callback answer =
      some (if answer = .success then
        ({ driver with
            sWriteCallback := some callback
            device := { driver.device with
              sWriteCallback := some ()
              sWriteFramebuffer := framebuffer
              fbdev := { driver.device.fbdev with
                writeCallback := some .framebufferWritten
                currentWriteBuffer := framebuffer.pixelData } } }, none)
      else
        ({ driver with
            sWriteCallback := none
            device := { driver.device with
              sWriteCallback := none
              sWriteFramebuffer := framebuffer.movedFrom
              fbdev := { driver.device.fbdev with
                framebufferSemaphore := driver.device.fbdev.framebufferSemaphore + 1
                currentWriteBuffer := nullptr } } },
          some { callback, framebuffer, status := answer.toPigweedStatus })) := by
  rw [writeFramebuffer, MCUXpressoDevice.writeFramebuffer, MCUXpressoDevice.writeBuffer]
  dsimp only
  rw [if_neg (fun invalid => invalid valid), if_neg (by rw [empty]; exact Bool.false_ne_true),
    FramebufferDevice.writeFramebuffer_idle idle hasController]
  by_cases accepted : answer = .success
  · rw [if_pos accepted, if_pos accepted]
    rfl
  · rw [if_neg accepted, if_neg accepted]
    rfl

/-- The end of the write that `Init` made reaches no slot. -/
theorem DisplayDriverMipiDsi.bufferSwitchOff_init {driver : DisplayDriverMipiDsi Callback}
    (busy : driver.device.fbdev.writeCallback = some .initWritten)
    (isCurrent : driver.device.fbdev.currentWriteBuffer = buffer) :
    driver.bufferSwitchOff buffer = some ({ driver with
        device := { driver.device with
          fbdev := { driver.device.fbdev with
            videoMempool := driver.device.fbdev.videoMempool.put buffer
            framebufferSemaphore := driver.device.fbdev.framebufferSemaphore + 1
            currentWriteBuffer := nullptr
            writeCallback := none } } }, none) := by
  rw [bufferSwitchOff, MCUXpressoDevice.bufferSwitchOff]
  rw [FramebufferDevice.bufferSwitchOff_busy busy isCurrent]
  rfl

/-- The end of any other write empties all slots. -/
theorem DisplayDriverMipiDsi.bufferSwitchOff_written {driver : DisplayDriverMipiDsi Callback}
    {callback : Callback}
    (busy : driver.device.fbdev.writeCallback = some .framebufferWritten)
    (isCurrent : driver.device.fbdev.currentWriteBuffer = buffer)
    (deviceFull : driver.device.sWriteCallback = some ())
    (driverFull : driver.sWriteCallback = some callback) :
    driver.bufferSwitchOff buffer = some ({ driver with
        sWriteCallback := none
        device := { driver.device with
          sWriteCallback := none
          sWriteFramebuffer := driver.device.sWriteFramebuffer.movedFrom
          fbdev := { driver.device.fbdev with
            videoMempool := driver.device.fbdev.videoMempool.put buffer
            framebufferSemaphore := driver.device.fbdev.framebufferSemaphore + 1
            currentWriteBuffer := nullptr
            writeCallback := none } } },
      some { callback, framebuffer := driver.device.sWriteFramebuffer, status := .ok }) := by
  rw [bufferSwitchOff, MCUXpressoDevice.bufferSwitchOff]
  rw [FramebufferDevice.bufferSwitchOff_busy busy isCurrent]
  dsimp only [bind, Option.bind, MCUXpressoDevice.complete]
  rw [deviceFull]
  dsimp only [pure, complete, bind, Option.bind]
  rw [driverFull]

end Layers

/-- The stack in use: the framebuffers obtained and not yet written, the buffers
that the controller has accepted and not yet switched off, the calls that the
writes should lead to, and those they have led to. -/
structure StackUse (Callback : Type) where
  driver : DisplayDriverMipiDsi Callback
  held : List Framebuffer
  inFlight : List Address
  writes : List (FramebufferInvocation Callback)
  invocations : List (FramebufferInvocation Callback)
  deriving DecidableEq

inductive StackEvent (Callback : Type) where
  | getFramebuffer (got : Option Address)
  | writeFramebuffer (framebuffer : Framebuffer) (writeCallback : Callback)
      (setFrameBuffer : McuxStatus)
  | bufferSwitchOff (buffer : Address)
  deriving DecidableEq

namespace StackUse

variable {Callback : Type}

/-- The application waits for the semaphore and writes what it has obtained. -/
def Enabled (use : StackUse Callback) : StackEvent Callback → Prop
  | .getFramebuffer got =>
      0 < use.driver.device.fbdev.framebufferSemaphore ∧
        use.driver.device.fbdev.videoMempool.MayGet got
  | .writeFramebuffer framebuffer _ _ => framebuffer ∈ use.held
  | .bufferSwitchOff buffer => buffer ∈ use.inFlight

instance (use : StackUse Callback) :
    (event : StackEvent Callback) → Decidable (use.Enabled event)
  | .getFramebuffer _ => inferInstanceAs (Decidable (_ ∧ _))
  | .writeFramebuffer _ _ _ => inferInstanceAs (Decidable (_ ∈ _))
  | .bufferSwitchOff _ => inferInstanceAs (Decidable (_ ∈ _))

def step (use : StackUse Callback) : StackEvent Callback → Option (StackUse Callback)
  | .getFramebuffer got => do
      let (device, framebuffer) ← use.driver.device.getFramebuffer got
      return { use with
        driver := { use.driver with device }
        held := framebuffer :: use.held }
  | .writeFramebuffer framebuffer writeCallback setFrameBuffer => do
      let (driver, invocation) ←
        use.driver.writeFramebuffer framebuffer writeCallback setFrameBuffer
      let write := {
        callback := writeCallback
        framebuffer
        status := setFrameBuffer.toPigweedStatus }
      return {
        driver
        held := use.held.erase framebuffer
        inFlight :=
          if setFrameBuffer = .success then
            framebuffer.pixelData :: use.inFlight
          else
            use.inFlight
        writes := use.writes ++ [write]
        invocations := use.invocations ++ invocation.toList }
  | .bufferSwitchOff buffer => do
      let (driver, invocation) ← use.driver.bufferSwitchOff buffer
      return { use with
        driver
        inFlight := use.inFlight.erase buffer
        invocations := use.invocations ++ invocation.toList }

def machine (Callback : Type) : Machine (StackUse Callback) (StackEvent Callback) where
  Enabled := Enabled
  step := step

instance (use : StackUse Callback) (event : StackEvent Callback) :
    Decidable ((machine Callback).Enabled use event) :=
  inferInstanceAs (Decidable (use.Enabled event))

/-- A stack whose device comes out of `Init`, where the controller may have
accepted the first buffer. -/
def afterInit (device : MCUXpressoDevice Unit) (calls : DeviceInitCalls) : StackUse Callback where
  driver := { device, sWriteCallback := none }
  held := []
  inFlight := if calls.setFrameBuffer = .success then calls.got.toList else []
  writes := []
  invocations := []

/-- The slots between two writes. -/
structure Idle (use : StackUse Callback) : Prop where
  fbdevEmpty : use.driver.device.fbdev.writeCallback = none
  deviceEmpty : use.driver.device.sWriteCallback = none
  settled : use.writes = use.invocations

/-- The slots while the controller has a buffer: the first one, or that of the
last write. -/
def Busy (use : StackUse Callback) (buffer : Address) : Prop :=
  use.driver.device.fbdev.currentWriteBuffer = buffer ∧
    (use.driver.device.fbdev.writeCallback = some .initWritten ∧
      use.driver.device.sWriteCallback = none ∧ use.writes = use.invocations ∨
    use.driver.device.fbdev.writeCallback = some .framebufferWritten ∧
      use.driver.device.sWriteCallback = some () ∧
      use.driver.device.sWriteFramebuffer.pixelData = buffer ∧
      ∃ callback, use.driver.sWriteCallback = some callback ∧
        use.writes = use.invocations ++ [{
          callback
          framebuffer := use.driver.device.sWriteFramebuffer
          status := .ok }])

/-- The one permit of the semaphore is free, with the application, or with the
controller, and the slots are in use only in the last case. -/
structure Coherent (use : StackUse Callback) : Prop where
  hasController : use.driver.device.fbdev.dc ≠ nullptr
  credits : use.driver.device.fbdev.framebufferSemaphore + use.held.length +
    use.inFlight.length = 1
  heldValid : ∀ framebuffer ∈ use.held, framebuffer.isValid
  idle : use.inFlight = [] → use.Idle
  busy : ∀ buffer ∈ use.inFlight, use.Busy buffer

variable {use next : StackUse Callback}

/-- With nothing in flight, the permit is free or with the application. -/
theorem Coherent.ofIdle (hasController : use.driver.device.fbdev.dc ≠ nullptr)
    (credits : use.driver.device.fbdev.framebufferSemaphore + use.held.length = 1)
    (heldValid : ∀ framebuffer ∈ use.held, framebuffer.isValid) (empty : use.inFlight = [])
    (idle : use.Idle) : use.Coherent where
  hasController := hasController
  credits := by
    rw [empty]
    exact credits
  heldValid := heldValid
  idle _ := idle
  busy := by
    intro buffer isBuffer
    rw [empty] at isBuffer
    cases isBuffer

/-- With a buffer in flight, the controller has the permit. -/
theorem Coherent.ofBusy {buffer : Address} (hasController : use.driver.device.fbdev.dc ≠ nullptr)
    (credits : use.driver.device.fbdev.framebufferSemaphore + use.held.length = 0)
    (inFlight : use.inFlight = [buffer]) (busy : use.Busy buffer) : use.Coherent where
  hasController := hasController
  credits := by
    rw [inFlight, credits]
    rfl
  heldValid := by
    rw [List.length_eq_zero_iff.mp (Nat.eq_zero_of_add_eq_zero_left credits)]
    exact fun _ impossible => nomatch impossible
  idle := by
    intro empty
    rw [inFlight] at empty
    cases empty
  busy := by
    intro other isOther
    rw [inFlight, List.mem_singleton] at isOther
    rw [isOther]
    exact busy

theorem Coherent.getFramebuffer {got : Option Address} (coherent : use.Coherent)
    (enabled : use.Enabled (.getFramebuffer got))
    (stepped : use.step (.getFramebuffer got) = some next) : next.Coherent := by
  unfold step at stepped
  rcases Option.bind_eq_some_iff.mp stepped with ⟨⟨device, framebuffer⟩, obtained, isNext⟩
  rcases Option.bind_eq_some_iff.mp obtained with ⟨_, created, isDevice⟩
  cases isDevice
  cases isNext
  have valid := (Framebuffer.create_eq_some created).2
  have available := enabled.1
  have credits := coherent.credits
  constructor
  case hasController => exact coherent.hasController
  case credits =>
    change use.driver.device.fbdev.framebufferSemaphore - 1 + (use.held.length + 1) +
      use.inFlight.length = 1
    omega
  case heldValid => exact List.forall_mem_cons.mpr ⟨valid, coherent.heldValid⟩
  case idle =>
    intro empty
    have idle := coherent.idle empty
    exact ⟨idle.fbdevEmpty, idle.deviceEmpty, idle.settled⟩
  case busy => exact coherent.busy

theorem Coherent.writeFramebuffer {framebuffer : Framebuffer} {callback : Callback}
    {answer : McuxStatus} (coherent : use.Coherent) (isHeld : framebuffer ∈ use.held) :
    ∃ next, use.step (.writeFramebuffer framebuffer callback answer) = some next ∧
      next.Coherent := by
  have credits := coherent.credits
  have some := List.length_pos_of_mem isHeld
  have empty : use.inFlight = [] := List.length_eq_zero_iff.mp (by omega)
  have idle := coherent.idle empty
  have erased := List.length_erase_of_mem isHeld
  dsimp only [step]
  rw [DisplayDriverMipiDsi.writeFramebuffer_idle (coherent.heldValid framebuffer isHeld)
    idle.fbdevEmpty idle.deviceEmpty coherent.hasController]
  refine ⟨_, rfl, ?_⟩
  by_cases accepted : answer = .success
  · rw [if_pos accepted, if_pos accepted]
    refine @ofBusy _ _ framebuffer.pixelData coherent.hasController ?credits ?inFlight ?busy
    case credits =>
      change use.driver.device.fbdev.framebufferSemaphore +
        (use.held.erase framebuffer).length = 0
      omega
    case inFlight =>
      dsimp only
      rw [empty]
    case busy =>
      refine ⟨rfl, .inr ⟨rfl, rfl, rfl, callback, rfl, ?_⟩⟩
      dsimp only
      rw [accepted, idle.settled, Option.toList_none, List.append_nil]
      rfl
  · rw [if_neg accepted, if_neg accepted]
    refine ofIdle coherent.hasController ?credits ?heldValid empty ?idle
    case credits =>
      change use.driver.device.fbdev.framebufferSemaphore + 1 +
        (use.held.erase framebuffer).length = 1
      omega
    case heldValid =>
      intro other isOther
      exact coherent.heldValid other (List.mem_of_mem_erase isOther)
    case idle =>
      refine ⟨idle.fbdevEmpty, rfl, ?_⟩
      dsimp only
      rw [idle.settled]
      rfl

theorem Coherent.bufferSwitchOff {buffer : Address} (coherent : use.Coherent)
    (isBuffer : buffer ∈ use.inFlight) :
    ∃ next, use.step (.bufferSwitchOff buffer) = some next ∧ next.Coherent := by
  have credits := coherent.credits
  have erased := List.length_erase_of_mem isBuffer
  have some := List.length_pos_of_mem isBuffer
  have noMore : use.inFlight.erase buffer = [] := List.length_eq_zero_iff.mp (by omega)
  have nextCredits : use.driver.device.fbdev.framebufferSemaphore + 1 + use.held.length = 1 := by
    omega
  dsimp only [step]
  rcases coherent.busy buffer isBuffer with ⟨isCurrent, first | later⟩
  · rcases first with ⟨fbdevFull, deviceEmpty, settled⟩
    rw [DisplayDriverMipiDsi.bufferSwitchOff_init fbdevFull isCurrent]
    refine ⟨_, rfl, ofIdle coherent.hasController nextCredits coherent.heldValid noMore
      ⟨rfl, deviceEmpty, ?_⟩⟩
    dsimp only
    rw [settled]
    exact (List.append_nil _).symm
  · rcases later with ⟨fbdevFull, deviceFull, _, callback, driverFull, pending⟩
    rw [DisplayDriverMipiDsi.bufferSwitchOff_written fbdevFull isCurrent deviceFull driverFull]
    exact ⟨_, rfl, ofIdle coherent.hasController nextCredits coherent.heldValid noMore
      ⟨rfl, rfl, pending⟩⟩

/-- The only step that can fail is to obtain a framebuffer, where there is none. -/
theorem Coherent.step {event : StackEvent Callback} (coherent : use.Coherent)
    (enabled : use.Enabled event) (obtainable : ∀ got, event ≠ .getFramebuffer got) :
    ∃ next, use.step event = some next ∧ next.Coherent := by
  cases event with
  | getFramebuffer got => exact absurd rfl (obtainable got)
  | writeFramebuffer framebuffer callback answer => exact coherent.writeFramebuffer enabled
  | bufferSwitchOff buffer => exact coherent.bufferSwitchOff enabled

theorem Coherent.preserved {event : StackEvent Callback} (coherent : use.Coherent)
    (enabled : use.Enabled event) (stepped : use.step event = some next) : next.Coherent := by
  by_cases obtains : ∃ got, event = .getFramebuffer got
  · rcases obtains with ⟨got, rfl⟩
    exact coherent.getFramebuffer enabled stepped
  · rcases coherent.step enabled (fun got isGet => obtains ⟨got, isGet⟩) with
      ⟨after, steppedTo, afterCoherent⟩
    cases stepped.symm.trans steppedTo
    exact afterCoherent

end StackUse

theorem FramebufferDevice.init_hasController {device next : FramebufferDevice BufferCallback}
    {dc : Address} {buffers : List Address} {calls : InitCalls} {status : Status}
    (initialised : device.init dc buffers calls = some (next, status)) : dc ≠ nullptr := by
  intro null
  rcases Option.bind_eq_some_iff.mp initialised with ⟨_, controller, _⟩
  unfold initDisplayController at controller
  dsimp only at controller
  rw [if_pos null] at controller
  split at controller <;> cases controller

theorem FramebufferDevice.enable_keeps (device : FramebufferDevice BufferCallback)
    (reservesFrameBuffer : Bool) (enableLayer : McuxStatus) :
    ∃ enabled, (device.enable reservesFrameBuffer enableLayer).1 = { device with enabled } := by
  rw [enable]
  repeat' split
  · exact ⟨device.enabled, rfl⟩
  · exact ⟨device.enabled, rfl⟩
  · exact ⟨true, rfl⟩
  · exact ⟨device.enabled, rfl⟩

/-- What the write in `Init` leaves behind. -/
theorem writeBuffer_initWritten {device next : MCUXpressoDevice Unit} {buffer : Address}
    {answer : McuxStatus} {invocation : Option (FramebufferInvocation Unit)}
    (idle : device.fbdev.writeCallback = none) (hasController : device.fbdev.dc ≠ nullptr)
    (written : device.writeBuffer buffer .initWritten answer = some (next, invocation)) :
    next = { device with fbdev :=
      if answer = .success then
        { device.fbdev with
          writeCallback := some .initWritten
          currentWriteBuffer := buffer }
      else
        { device.fbdev with
          framebufferSemaphore := device.fbdev.framebufferSemaphore + 1
          currentWriteBuffer := nullptr } } := by
  unfold MCUXpressoDevice.writeBuffer at written
  rw [FramebufferDevice.writeFramebuffer_idle idle hasController] at written
  by_cases accepted : answer = .success
  · rw [if_pos accepted] at *
    cases written
    rfl
  · rw [if_neg accepted] at *
    cases written
    rfl

/-- The controller comes up empty-handed, or with the first buffer. -/
theorem afterInit_coherent {Callback : Type} {pool : FramebufferPool} {dc : Address}
    {calls : DeviceInitCalls} {device : MCUXpressoDevice Unit}
    (initialised : (MCUXpressoDevice.fresh pool).init dc calls = some (device, .ok)) :
    (StackUse.afterInit device calls : StackUse Callback).Coherent := by
  unfold MCUXpressoDevice.init at initialised
  dsimp only at initialised
  split at initialised
  · cases initialised
  split at initialised
  · rename_i failed
    exact absurd (congrArg Prod.snd (Option.some.inj initialised)) failed
  rcases Option.bind_eq_some_iff.mp initialised with ⟨⟨fbdev, status⟩, initialisedFbdev, rest⟩
  rcases FramebufferDevice.init_eq_some rfl initialisedFbdev with ⟨ok_iff, isFbdev⟩
  dsimp only at rest
  split at rest
  · rename_i failed
    exact absurd (congrArg Prod.snd (Option.some.inj rest)) failed
  rename_i ok
  rw [if_pos (ok_iff.mp (Decidable.not_not.mp ok))] at isFbdev
  split at rest
  · cases rest
  rename_i someBuffer
  rcases Option.bind_eq_some_iff.mp rest with ⟨⟨written, invocation⟩, writes, isLast⟩
  have hasController := FramebufferDevice.init_hasController initialisedFbdev
  have isWritten := writeBuffer_initWritten (by rw [isFbdev]; rfl)
    (by rw [isFbdev]; exact hasController) writes
  rcases written.fbdev.enable_keeps calls.reservesFrameBuffer calls.enableLayer with
    ⟨enabled, enables⟩
  have isDevice : device = { written with fbdev := { written.fbdev with enabled } } := by
    rw [← enables]
    exact (congrArg Prod.fst (Option.some.inj isLast)).symm
  cases got : calls.got with
  | none =>
      rw [got] at someBuffer
      exact absurd rfl someBuffer
  | some buffer =>
      rw [StackUse.afterInit]
      by_cases accepted : calls.setFrameBuffer = .success
      · rw [if_pos accepted] at isWritten
        rw [if_pos accepted, got, isDevice, isWritten, isFbdev]
        refine @StackUse.Coherent.ofBusy _ _ buffer hasController rfl rfl
          ⟨?_, .inl ⟨rfl, rfl, rfl⟩⟩
        rw [got]
        rfl
      · rw [if_neg accepted] at isWritten
        rw [if_neg accepted, isDevice, isWritten, isFbdev]
        exact .ofIdle hasController rfl (fun _ impossible => nomatch impossible) rfl
          ⟨rfl, rfl, rfl⟩

/-- After a successful `Init`, the writes of an application call their callbacks
in order, each of them once and with the framebuffer and the status of its
write; only the last write may still be with the controller. No assertion fails
on the way. -/
theorem writes_callBack {Callback : Type} {pool : FramebufferPool} {dc : Address}
    {calls : DeviceInitCalls} {device : MCUXpressoDevice Unit}
    {events : List (StackEvent Callback)} {use : StackUse Callback}
    (initialised : (MCUXpressoDevice.fresh pool).init dc calls = some (device, .ok))
    (run : (StackUse.machine Callback).Run (.afterInit device calls) events use) :
    (∃ pending, use.writes = use.invocations ++ pending ∧
      (pending = [] ∨ ∃ write, pending = [write] ∧
        use.inFlight = [write.framebuffer.pixelData])) ∧
      ∀ event, use.Enabled event → (∀ got, event ≠ .getFramebuffer got) →
        ∃ next, use.step event = some next := by
  have coherent : use.Coherent := by
    apply run.invariant StackUse.Coherent _ (afterInit_coherent initialised)
    intro state event next coherent enabled stepped
    exact coherent.preserved enabled stepped
  constructor
  · cases inFlight : use.inFlight with
    | nil =>
        refine ⟨[], ?_, .inl rfl⟩
        rw [List.append_nil]
        exact (coherent.idle inFlight).settled
    | cons buffer others =>
        have credits := coherent.credits
        rw [inFlight, List.length_cons] at credits
        have noOthers : others = [] := List.length_eq_zero_iff.mp (by omega)
        have isBuffer : buffer ∈ use.inFlight := by
          rw [inFlight]
          exact List.mem_cons_self
        rcases (coherent.busy buffer isBuffer).2 with ⟨_, _, settled⟩ | later
        · refine ⟨[], ?_, .inl rfl⟩
          rw [List.append_nil]
          exact settled
        · rcases later with ⟨_, _, isData, callback, _, pending⟩
          refine ⟨_, pending, .inr ⟨_, rfl, ?_⟩⟩
          rw [noOthers]
          exact congrArg (fun address => [address]) isData.symm
  · intro event enabled obtainable
    rcases coherent.step enabled obtainable with ⟨next, stepped, _⟩
    exact ⟨next, stepped⟩

section Example

def twoBuffers : FramebufferPool :=
  .create { fbAddr := [16, 32], dimensions := ⟨2, 2⟩, rowBytes := 4, pixelFormat := .rgb565 }

def allSucceed : DeviceInitCalls where
  prepareDisplayController := .success
  init := ⟨.success, .success, .success⟩
  got := some 16
  setFrameBuffer := .success
  reservesFrameBuffer := false
  enableLayer := .success

/-- A write that the controller turns down, and one that it still has. -/
theorem writes_callBack_twice :
    ∃ device, ∃ use : StackUse Nat,
      (MCUXpressoDevice.fresh twoBuffers).init 1 allSucceed = some (device, .ok) ∧
      (StackUse.machine Nat).Run (.afterInit device allSucceed) [
        .bufferSwitchOff 16, .getFramebuffer (some 32),
        .writeFramebuffer ⟨32, .rgb565, ⟨2, 2⟩, 4⟩ 7 .timeout,
        .getFramebuffer (some 16), .writeFramebuffer ⟨16, .rgb565, ⟨2, 2⟩, 4⟩ 8 .success] use ∧
      ∃ pending, use.writes = use.invocations ++ pending := by
  let device : MCUXpressoDevice Unit :=
    (((MCUXpressoDevice.fresh twoBuffers).init 1 allSucceed).get rfl).1
  have initialised : (MCUXpressoDevice.fresh twoBuffers).init 1 allSucceed =
      some (device, .ok) := rfl
  have run := @Machine.Run.of_execute _ _ (StackUse.machine Nat)
    (.afterInit device allSucceed) _ [
      .bufferSwitchOff 16, .getFramebuffer (some 32),
      .writeFramebuffer ⟨32, .rgb565, ⟨2, 2⟩, 4⟩ 7 .timeout,
      .getFramebuffer (some 16), .writeFramebuffer ⟨16, .rgb565, ⟨2, 2⟩, 4⟩ 8 .success] _ rfl
  rcases (writes_callBack initialised run).1 with ⟨pending, parts, _⟩
  exact ⟨device, _, initialised, run, pending, parts⟩

end Example

end PigweedExperimental.MipiDsi
