import PigweedExperimental.Display.Handles
import PigweedExperimental.PixelPusher.DoubledFrames

namespace PigweedExperimental.PixelPusher

open Framebuffer (handles Move)

/-! # A display over the pixel pusher

A program with its handles, the display, the ST7789 driver and the pusher in pixel-double
mode. The driver hands each framebuffer on to the pusher, whose interrupt handler calls the
write callback of the display.
-/

/-- The pusher has no callback but `write_cb`. -/
structure PushedDisplay where
  display : Display
  locals : List Framebuffer
  session : Session Unit

namespace PushedDisplay

inductive Event where
  | move (move : Move)
  | getFramebuffer (target : Nat)
  | releaseFramebuffer (source : Nat) (surroundings : Surroundings)
  | transferDone
  | interrupt

def Event.OfHardware : Event → Prop
  | .transferDone | .interrupt => True
  | _ => False

/-- A release waits until the pusher can take the framebuffer, if it gets that far. -/
def CanRelease (pushed : PushedDisplay) (framebuffer : Framebuffer) : Prop :=
  framebuffer.isValid ∧ pushed.display.resizesInSoftware framebuffer = false →
    pushed.session.Enabled (.writeFramebuffer framebuffer ())

instance (pushed : PushedDisplay) (framebuffer : Framebuffer) :
    Decidable (pushed.CanRelease framebuffer) :=
  inferInstanceAs (Decidable (_ ∧ _ → _))

def Enabled (pushed : PushedDisplay) : Event → Prop
  | .move move => move.Possible pushed.locals
  | .getFramebuffer target =>
      target < pushed.locals.length ∧
        0 < pushed.display.framebufferPool.framebufferSemaphore
  | .releaseFramebuffer source _ =>
      ∃ inRange : source < pushed.locals.length, pushed.CanRelease pushed.locals[source]
  | .transferDone => pushed.session.Enabled .transferDone
  | .interrupt => pushed.session.Enabled .interrupt

/-- `DisplayDriverST7789::WriteFramebuffer` with a pixel pusher. -/
def writeFramebuffer (session : Session Unit) (framebuffer : Framebuffer) :
    Option (Session Unit) :=
  if framebuffer.pixelFormat = .rgb565 then
    session.step (.writeFramebuffer framebuffer ())
  else
    none

/-- What becomes of a framebuffer that has been moved into `ReleaseFramebuffer`. -/
def afterRelease (pushed : PushedDisplay) (framebuffer : Framebuffer) :
    Release → Option PushedDisplay
  | .rejected => some pushed
  | .writing => do
      let session ← writeFramebuffer pushed.session framebuffer
      return { pushed with session }
  | .resized _ framebufferPool => some { pushed with
      display := { pushed.display with framebufferPool } }

/-- The callback that the interrupt handler calls. -/
def called (pushed : PushedDisplay) : Option (Completion Unit) → Option PushedDisplay
  | none => some pushed
  | some completion =>
      (Display.writeCallback pushed.display.framebufferPool completion.framebuffer
        completion.status).toOption.map fun framebufferPool => { pushed with
          display := { pushed.display with framebufferPool } }

def step (pushed : PushedDisplay) : Event → Option PushedDisplay
  | .move move => do
      let locals ← move.apply pushed.locals
      return { pushed with locals }
  | .getFramebuffer target => do
      let (framebuffer, display) ← pushed.display.getFramebuffer
      return { pushed with display, locals := pushed.locals.set target framebuffer }
  | .releaseFramebuffer source surroundings => do
      let framebuffer ← pushed.locals[source]?
      let release ← (pushed.display.releaseFramebuffer surroundings framebuffer).toOption
      afterRelease { pushed with locals := pushed.locals.set source framebuffer.movedFrom }
        framebuffer release
  | .transferDone => do
      let session ← pushed.session.step .transferDone
      return { pushed with session }
  | .interrupt => do
      let session ← pushed.session.step .interrupt
      called { pushed with session } pushed.session.pusher.irqHandler.2.2

def machine : Machine PushedDisplay Event where
  Enabled := Enabled
  step := step

instance (pushed : PushedDisplay) : (event : Event) → Decidable (machine.Enabled pushed event)
  | .move move => inferInstanceAs (Decidable (move.Possible pushed.locals))
  | .getFramebuffer _ => inferInstanceAs (Decidable (_ ∧ _))
  | .releaseFramebuffer _ _ => inferInstanceAs (Decidable (∃ _ : _ < _, _))
  | .transferDone => inferInstanceAs (Decidable (pushed.session.Enabled .transferDone))
  | .interrupt => inferInstanceAs (Decidable (pushed.session.Enabled .interrupt))

/-- After the pusher's `Init` and `SetPixelDouble(true)`. -/
def start (config : FramebufferPool.Config) (size : Size UInt16)
    (displayResize supportsResize : Bool) (ownChannel : Nat) : PushedDisplay where
  display := (DisplayUse.start config size displayResize supportsResize).display
  locals := []
  session := .start (.inDoubleMode ownChannel)

/-- What is gone after the event. -/
def abandoned (pushed : PushedDisplay) : Event → List Framebuffer
  | .move move => move.abandoned pushed.locals
  | .getFramebuffer target => handles pushed.locals[target]?.toList
  | .releaseFramebuffer _ _ => []
  | .transferDone => []
  | .interrupt => []

/-- The framebuffer that the pusher has, as long as it has a callback for it. -/
def beingWritten (pushed : PushedDisplay) : List Framebuffer :=
  pushed.session.pusher.drawCallback.toList.map fun _ => pushed.session.pusher.framebuffer

/-- The program, for which the pusher is the driver. -/
def program (pushed : PushedDisplay) : HandleUse where
  display := pushed.display
  locals := pushed.locals
  inFlight := pushed.beingWritten

section Pool

variable {config : FramebufferPool.Config}

/-- Real buffers of pixels that can be doubled. -/
structure Suits (config : FramebufferPool.Config) : Prop where
  nonempty : 0 < config.fbAddr.length
  addresses : ∀ address ∈ config.fbAddr, address ≠ nullptr
  format : config.pixelFormat = .rgb565
  width : 1 ≤ config.dimensions.width.toNat ∧ config.dimensions.width.toNat ≤ 32767
  height : 1 ≤ config.dimensions.height.toNat ∧ config.dimensions.height.toNat ≤ 32767

/-- A pool in use: only its count and its index change. -/
structure Serves (config : FramebufferPool.Config) (pool : FramebufferPool) : Prop where
  pool_eq : pool = { FramebufferPool.create config with
    framebufferSemaphore := pool.framebufferSemaphore
    nextFbIdx := pool.nextFbIdx }
  next_lt : pool.nextFbIdx < config.fbAddr.length

/-- What the pool hands out. -/
def FromPool (config : FramebufferPool.Config) (framebuffer : Framebuffer) : Prop :=
  framebuffer.size = config.dimensions ∧ framebuffer.pixelFormat = config.pixelFormat

theorem FromPool.doublable {framebuffer : Framebuffer} (fromPool : FromPool config framebuffer)
    (suits : Suits config) : Doublable framebuffer := by
  rw [Doublable, fromPool.1]
  exact ⟨suits.width, suits.height⟩

theorem serves_create (nonempty : 0 < config.fbAddr.length) :
    Serves config (.create config) :=
  ⟨rfl, nonempty⟩

/-- What the pool takes back is not looked at. -/
theorem Serves.releaseFramebuffer {pool : FramebufferPool} (serves : Serves config pool)
    (framebuffer : Framebuffer) : Serves config (pool.releaseFramebuffer framebuffer).2 := by
  refine ⟨?_, serves.next_lt⟩
  rw [FramebufferPool.releaseFramebuffer, serves.pool_eq]

theorem Serves.of_getFramebuffer {pool next : FramebufferPool} {framebuffer : Framebuffer}
    (serves : Serves config pool) (got : pool.getFramebuffer = some (framebuffer, next)) :
    Serves config next ∧ FromPool config framebuffer := by
  have isNext := (FramebufferPool.getFramebuffer_eq_some got).1
  have addresses : pool.bufferAddresses = config.fbAddr := by rw [serves.pool_eq]; rfl
  simp only [FramebufferPool.getFramebuffer, FramebufferPool.resetAtEnd_fetchIncrement,
    Option.bind_eq_bind, Option.bind_eq_some_iff, Option.pure_def, Option.some.injEq,
    Prod.mk.injEq] at got
  rcases got with ⟨_, read, rfl, _⟩
  rcases Option.bind_eq_some_iff.mp read with ⟨address, _, created⟩
  have fields := (Framebuffer.create_eq_some created).1
  refine ⟨⟨?_, ?_⟩, ?_⟩
  · rw [isNext, serves.pool_eq]
  · rw [isNext, ← addresses]
    exact FramebufferPool.following_lt (addresses ▸ serves.next_lt)
  · rw [fields, serves.pool_eq]
    exact ⟨rfl, rfl⟩

theorem Serves.exists_getFramebuffer {pool : FramebufferPool} (serves : Serves config pool)
    (suits : Suits config) : pool.getFramebuffer.isSome := by
  have addresses : pool.bufferAddresses = config.fbAddr := by rw [serves.pool_eq]; rfl
  have format : pool.pixelFormat = .rgb565 := by
    rw [serves.pool_eq]
    exact suits.format
  apply FramebufferPool.getFramebuffer_isSome
  · rw [addresses]
    exact serves.next_lt
  · rw [addresses]
    exact suits.addresses
  · rw [format]
    exact PixelFormat.noConfusion

end Pool

section Session

variable {session : Session Unit} {frame : Frame Unit} {earlier : List (Frame Unit)}
  {scanline : Nat}

/-- An interrupt within a frame calls nobody. -/
theorem completion_of_writing (writing : session.Writing frame earlier scanline)
    {after : Frame Unit} {next : Session Unit} {later : Nat}
    (stepped : session.step .interrupt = some next)
    (nextWriting : next.Writing after earlier later) :
    session.pusher.irqHandler.2.2 = none := by
  cases stepped.symm.trans session.step_interrupt
  have completions := nextWriting.completed
  rw [← writing.completed] at completions
  have noCall := List.append_left_eq_self.mp completions
  exact Option.toList_eq_nil_iff.mp noCall

/-- The last one hands back the framebuffer. -/
theorem completion_of_settled (writing : session.Writing frame earlier scanline)
    {next : Session Unit} (stepped : session.step .interrupt = some next)
    (sameFrames : next.frames = session.frames) (settled : next.Settled) :
    session.pusher.irqHandler.2.2 = some frame.completion := by
  have completions := settled.completed
  rw [sameFrames, writing.isFrames, List.map_cons, ← writing.completed] at completions
  cases stepped.symm.trans session.step_interrupt
  have called : session.pusher.irqHandler.2.2.toList = [frame.completion] :=
    List.append_cancel_right completions
  exact Option.toList_eq_singleton_iff.mp called

end Session

variable {config : FramebufferPool.Config} {pushed next : PushedDisplay}

theorem beingWritten_of_writing {frame : Frame Unit} {earlier : List (Frame Unit)}
    {scanline : Nat} (writing : pushed.session.Writing frame earlier scanline) :
    pushed.beingWritten = [frame.framebuffer] := by
  rw [beingWritten, writing.callback, writing.framebuffer]
  rfl

theorem beingWritten_of_settled (settled : pushed.session.Settled) :
    pushed.beingWritten = [] := by
  rw [beingWritten, settled.empty]
  rfl

/-- The pusher writes one framebuffer at a time, all of them from the pool. -/
structure Sound (config : FramebufferPool.Config) (pushed : PushedDisplay) : Prop where
  serves : Serves config pushed.display.framebufferPool
  byDriver : ∀ framebuffer, pushed.display.resizesInSoftware framebuffer = false
  fromPool : ∀ framebuffer ∈ handles pushed.locals, FromPool config framebuffer
  orderly : pushed.session.Orderly
  doubling : pushed.session.Doubling

/-- A step that no assertion stops, and what it is for the program. -/
def Progresses (config : FramebufferPool.Config) (pushed : PushedDisplay) (event : Event) :
    Prop :=
  ∃ next deeds, pushed.step event = some next ∧ next.Sound config ∧
    HandleUse.machine.Run pushed.program deeds next.program ∧
    next.program.accountedFor + (pushed.abandoned event).length = pushed.program.accountedFor

theorem interrupt_session (stepped : pushed.step .interrupt = some next) :
    pushed.session.step .interrupt = some next.session ∧ next.locals = pushed.locals := by
  simp only [step, Option.bind_eq_bind, Option.bind_eq_some_iff] at stepped
  rcases stepped with ⟨session, steppedSession, call⟩
  cases completion : pushed.session.pusher.irqHandler.2.2 with
  | none =>
      rw [completion] at call
      cases call
      exact ⟨steppedSession, rfl⟩
  | some completion =>
      rw [completion, called, Option.map_eq_some_iff] at call
      rcases call with ⟨_, _, rfl⟩
      exact ⟨steppedSession, rfl⟩

section Progress

variable (sound : pushed.Sound config)

include sound

/-- An event that is one for the program as well. -/
theorem Sound.progresses {event : Event} (deed : HandleUse.Event)
    (allowed : HandleUse.Enabled pushed.program deed)
    (performed : HandleUse.step pushed.program deed = some next.program)
    (stepped : pushed.step event = some next)
    (same : pushed.program.abandoned deed = pushed.abandoned event)
    (serves : Serves config next.display.framebufferPool)
    (byDriver : ∀ framebuffer, next.display.resizesInSoftware framebuffer = false)
    (orderly : next.session.Orderly) (doubling : next.session.Doubling) :
    pushed.Progresses config event := by
  have single : HandleUse.machine.Run pushed.program [deed] next.program :=
    .single allowed performed
  have accounted := HandleUse.accountedFor_step allowed performed
  rw [same] at accounted
  refine ⟨next, [deed], stepped, ⟨serves, byDriver, ?_, orderly, doubling⟩, single, accounted⟩
  apply HandleUse.handles_step allowed performed sound.fromPool
  intro framebuffer display got
  simp only [Display.getFramebuffer, Option.bind_eq_bind, Option.bind_eq_some_iff,
    Option.pure_def, Option.some.injEq, Prod.mk.injEq] at got
  rcases got with ⟨⟨_, pool⟩, fromPool, rfl, _⟩
  exact (sound.serves.of_getFramebuffer fromPool).2

theorem Sound.move {move : Move} (possible : move.Possible pushed.locals) :
    pushed.Progresses config (.move move) := by
  rcases Framebuffer.Move.exists_apply possible with ⟨after, applied⟩
  have stepped : pushed.step (.move move) = some { pushed with locals := after } := by
    simp [step, applied]
  have performed : HandleUse.step pushed.program (.move move) =
      some (program { pushed with locals := after }) := by
    simp [HandleUse.step, program, applied, beingWritten]
  exact sound.progresses (.move move) possible performed stepped rfl sound.serves
    sound.byDriver sound.orderly sound.doubling

theorem Sound.getFramebuffer (suits : Suits config) {target : Nat}
    (enabled : pushed.Enabled (.getFramebuffer target)) :
    pushed.Progresses config (.getFramebuffer target) := by
  have served := sound.serves.exists_getFramebuffer suits
  rcases Option.isSome_iff_exists.mp served with ⟨⟨framebuffer, pool⟩, got⟩
  have gotten : pushed.display.getFramebuffer =
      some (framebuffer, { pushed.display with framebufferPool := pool }) := by
    rw [Display.getFramebuffer, got]
    rfl
  have stepped : pushed.step (.getFramebuffer target) = some { pushed with
      display := { pushed.display with framebufferPool := pool }
      locals := pushed.locals.set target framebuffer } := by
    simp [step, gotten]
  have performed : HandleUse.step pushed.program (.getFramebuffer target) =
      some (program { pushed with
        display := { pushed.display with framebufferPool := pool }
        locals := pushed.locals.set target framebuffer }) := by
    simp [HandleUse.step, program, gotten, beingWritten]
  exact sound.progresses (.getFramebuffer target) enabled performed stepped rfl
    (sound.serves.of_getFramebuffer got).1 sound.byDriver sound.orderly sound.doubling

/-- The pusher takes a framebuffer when it is not busy any more. -/
theorem Sound.writeFramebuffer (suits : Suits config) {framebuffer : Framebuffer}
    (fromPool : FromPool config framebuffer)
    (enabled : pushed.session.Enabled (.writeFramebuffer framebuffer ())) :
    pushed.beingWritten = [] ∧ ∃ session frame scanline,
      writeFramebuffer pushed.session framebuffer = some session ∧ session.Doubling ∧
        session.Writing frame pushed.session.frames scanline ∧
        frame.framebuffer = framebuffer := by
  have format : framebuffer.pixelFormat = .rgb565 := fromPool.2.trans suits.format
  have writes : PixelPusher.Event.WritesDoublable
      (.writeFramebuffer framebuffer () : PixelPusher.Event Unit) := fromPool.doublable suits
  rcases sound.orderly with settled | ⟨_, _, _, writing⟩
  case inr => exact absurd (enabled.1.symm.trans writing.dmaIsBusy) Bool.false_ne_true
  rcases @Session.Settled.writeFramebuffer _ _ framebuffer () settled sound.doubling.doubled
    sound.doubling.irq0 with ⟨session, stepped, writing⟩
  refine ⟨beingWritten_of_settled settled, session, _, 0, ?_, ?_, writing, rfl⟩
  · rw [PushedDisplay.writeFramebuffer, if_pos format]
    exact stepped
  · exact sound.doubling.step sound.orderly writes enabled stepped

theorem Sound.releaseFramebuffer (suits : Suits config) {source : Nat}
    {surroundings : Surroundings}
    (enabled : pushed.Enabled (.releaseFramebuffer source surroundings)) :
    pushed.Progresses config (.releaseFramebuffer source surroundings) := by
  rcases enabled with ⟨inRange, canRelease⟩
  have found := List.getElem?_eq_getElem inRange
  generalize pushed.locals[source] = framebuffer at canRelease found
  cases valid : framebuffer.isValid with
  | false =>
      have rejected : pushed.display.releaseFramebuffer surroundings framebuffer = .ok .rejected :=
        Display.releaseFramebuffer_invalid valid
      have stepped : pushed.step (.releaseFramebuffer source surroundings) = some { pushed with
          locals := pushed.locals.set source framebuffer.movedFrom } := by
        simp [step, found, rejected, Except.toOption, afterRelease]
      have performed : HandleUse.step pushed.program (.releaseFramebuffer source surroundings) =
          some (program { pushed with
            locals := pushed.locals.set source framebuffer.movedFrom }) := by
        simp [HandleUse.step, program, found, rejected, Except.toOption, HandleUse.afterRelease,
          beingWritten]
      exact sound.progresses (.releaseFramebuffer source surroundings) inRange performed stepped
        rfl sound.serves sound.byDriver sound.orderly sound.doubling
  | true =>
      have writing : pushed.display.releaseFramebuffer surroundings framebuffer = .ok .writing :=
        Display.releaseFramebuffer_writing valid (sound.byDriver framebuffer)
      have isHandle : framebuffer ∈ handles pushed.locals :=
        List.mem_filter.mpr ⟨List.mem_of_getElem? found, valid⟩
      rcases sound.writeFramebuffer suits (sound.fromPool framebuffer isHandle)
        (canRelease ⟨valid, sound.byDriver framebuffer⟩) with
        ⟨idle, session, frame, scanline, written, doubling, isWriting, rfl⟩
      have stepped : pushed.step (.releaseFramebuffer source surroundings) = some { pushed with
          locals := pushed.locals.set source frame.framebuffer.movedFrom
          session } := by
        simp [step, found, writing, Except.toOption, afterRelease, written]
      have performed : HandleUse.step pushed.program (.releaseFramebuffer source surroundings) =
          some (program { pushed with
            locals := pushed.locals.set source frame.framebuffer.movedFrom
            session }) := by
        have afterwards := @beingWritten_of_writing { pushed with
          locals := pushed.locals.set source frame.framebuffer.movedFrom
          session } _ _ _ isWriting
        simp [HandleUse.step, program, found, writing, Except.toOption, HandleUse.afterRelease,
          idle, afterwards]
      exact sound.progresses (.releaseFramebuffer source surroundings) inRange performed stepped
        rfl sound.serves sound.byDriver (.inr ⟨_, _, _, isWriting⟩) doubling

/-- An event of the hardware that the program does not notice. -/
theorem Sound.unnoticed {event : Event} {session : Session Unit}
    (stepped : pushed.step event = some { pushed with session })
    (nothing : pushed.abandoned event = [])
    (same : beingWritten { pushed with session } = pushed.beingWritten)
    (orderly : session.Orderly) (doubling : session.Doubling) :
    pushed.Progresses config event := by
  have unchanged : program { pushed with session } = pushed.program := by
    rw [program, same]
    rfl
  refine ⟨_, [], stepped, { sound with orderly := orderly, doubling := doubling }, ?_, ?_⟩
  · rw [unchanged]
    exact .nil _
  · rw [unchanged, nothing]
    rfl

theorem Sound.transferDone (enabled : pushed.Enabled .transferDone) :
    pushed.Progresses config .transferDone := by
  have stepped : pushed.session.step .transferDone = some { pushed.session with
      pusher := pushed.session.pusher.updateChannel pushed.session.pusher.ownChannel
        DmaChannel.finish } := rfl
  have doubling := @Session.Doubling.step _ _ _ .transferDone sound.doubling sound.orderly
    trivial enabled stepped
  have orderly := @Session.Orderly.preserved _ _ _ .transferDone sound.orderly trivial enabled
    stepped
  exact @unnoticed _ _ sound .transferDone _ rfl rfl rfl orderly doubling

/-- The handler goes on with the frame, or hands its framebuffer back to the pool. -/
theorem Sound.interrupt (enabled : pushed.Enabled .interrupt) :
    pushed.Progresses config .interrupt := by
  rcases sound.orderly with settled | ⟨frame, earlier, scanline, writing⟩
  case inl => exact absurd (enabled.symm.trans settled.betweenFrames.2) Bool.false_ne_true.symm
  have before := beingWritten_of_writing writing
  rcases Nat.lt_or_eq_of_le writing.inFrame with notLast | last
  · rcases writing.interrupt_next enabled notLast with ⟨session, stepped, nextWriting⟩
    have noCall := completion_of_writing writing stepped nextWriting
    have doubling := @Session.Doubling.step _ _ _ .interrupt sound.doubling sound.orderly
      trivial enabled stepped
    have afterwards := @beingWritten_of_writing { pushed with session } _ _ _ nextWriting
    apply @Sound.unnoticed _ _ sound .interrupt session
    · simp [step, stepped, noCall, called]
    · rfl
    · exact afterwards.trans before.symm
    · exact .inr ⟨_, _, _, nextWriting⟩
    · exact doubling
  · rcases writing.interrupt_last enabled last with ⟨session, stepped, sameFrames, settled⟩
    have handedBack := completion_of_settled writing stepped sameFrames settled
    have doubling := @Session.Doubling.step _ _ _ .interrupt sound.doubling sound.orderly
      trivial enabled stepped
    let pool := (pushed.display.framebufferPool.releaseFramebuffer frame.framebuffer).2
    let after : PushedDisplay := { pushed with
      display := { pushed.display with framebufferPool := pool }
      session }
    have afterwards : after.beingWritten = [] := beingWritten_of_settled settled
    have performed : HandleUse.step pushed.program (.completed frame.framebuffer) =
        some after.program := by
      simp [HandleUse.step, program, before, afterwards, Display.writeCallback,
        Except.toOption, after, pool]
    have steppedAll : pushed.step .interrupt = some after := by
      simp [step, stepped, handedBack, called, Frame.completion, Display.writeCallback,
        Except.toOption, after, pool]
    have isWritten : frame.framebuffer ∈ pushed.beingWritten := by
      rw [before]
      exact List.mem_singleton_self _
    exact sound.progresses (.completed frame.framebuffer) isWritten performed steppedAll rfl
      (sound.serves.releaseFramebuffer frame.framebuffer) sound.byDriver (.inl settled) doubling

/-- No assertion of the display, the driver or the pusher fails. -/
theorem Sound.step (suits : Suits config) {event : Event} (enabled : pushed.Enabled event) :
    pushed.Progresses config event := by
  cases event with
  | move move => exact sound.move enabled
  | getFramebuffer target => exact sound.getFramebuffer suits enabled
  | releaseFramebuffer source surroundings => exact sound.releaseFramebuffer suits enabled
  | transferDone => exact sound.transferDone enabled
  | interrupt => exact sound.interrupt enabled

/-- What the session does by itself happens to the whole. -/
theorem Sound.follows {events : List (PixelPusher.Event Unit)}
    {session : Session Unit} (run : (Session.machine Unit).Run pushed.session events session)
    (hardware : ∀ event ∈ events, event.OfHardware) :
    ∃ later last, machine.Run pushed later last ∧ (∀ event ∈ later, event.OfHardware) ∧
      last.session = session ∧ last.locals = pushed.locals ∧
      last.program.accountedFor = pushed.program.accountedFor := by
  generalize isFirst : pushed.session = first at run
  induction run generalizing pushed with
  | nil => exact ⟨[], pushed, .nil pushed, by simp, isFirst, rfl, rfl⟩
  | @cons first middle session event events enabled stepped _ induction =>
      rw [List.forall_mem_cons] at hardware
      have single : ∃ own next, own.OfHardware ∧ pushed.Enabled own ∧
          pushed.step own = some next ∧ next.session = middle ∧ next.locals = pushed.locals ∧
          next.Sound config ∧ next.program.accountedFor = pushed.program.accountedFor := by
        subst isFirst
        cases event with
        | setPixelDouble _ => exact hardware.1.elim
        | writeFramebuffer _ _ => exact hardware.1.elim
        | transferDone =>
            rcases sound.transferDone enabled with ⟨next, _, steppedAll, nextSound, _, accounted⟩
            refine ⟨.transferDone, next, trivial, enabled, steppedAll, ?_, ?_, nextSound, accounted⟩
            · cases stepped
              cases steppedAll
              rfl
            · cases steppedAll
              rfl
        | interrupt =>
            rcases sound.interrupt enabled with ⟨next, _, steppedAll, nextSound, _, accounted⟩
            rcases interrupt_session steppedAll with ⟨steppedSession, sameLocals⟩
            exact ⟨.interrupt, next, trivial, enabled, steppedAll,
              Option.some.inj (steppedSession.symm.trans stepped), sameLocals, nextSound,
              accounted⟩
      rcases single with
        ⟨own, next, ofHardware, ownEnabled, steppedAll, isMiddle, sameLocals, nextSound, accounted⟩
      rcases induction nextSound hardware.2 isMiddle with
        ⟨later, last, runLater, allHardware, isLast, locals, accountedLater⟩
      refine ⟨own :: later, last, .cons ownEnabled steppedAll runLater, ?_, isLast,
        locals.trans sameLocals, accountedLater.trans accounted⟩
      exact List.forall_mem_cons.mpr ⟨ofHardware, allHardware⟩

/-- The hardware alone finishes what the pusher has. -/
theorem Sound.finishes :
    ∃ later last, machine.Run pushed later last ∧ (∀ event ∈ later, event.OfHardware) ∧
      last.beingWritten = [] ∧ last.locals = pushed.locals ∧
      last.program.accountedFor = pushed.program.accountedFor := by
  rcases sound.orderly with settled | ⟨frame, earlier, scanline, writing⟩
  · exact ⟨[], pushed, .nil pushed, by simp, beingWritten_of_settled settled, rfl, rfl⟩
  · rcases writing.completes with ⟨events, session, run, hardware, settled, _⟩
    rcases sound.follows run hardware with
      ⟨later, last, runAll, allHardware, isLast, sameLocals, accounted⟩
    rw [← isLast] at settled
    exact ⟨later, last, runAll, allHardware, beingWritten_of_settled settled, sameLocals,
      accounted⟩

theorem Sound.beingWritten_iff :
    pushed.beingWritten = [] ↔ pushed.session.pusher.dmaIsBusy = false := by
  rcases sound.orderly with settled | ⟨frame, earlier, scanline, writing⟩
  · rw [beingWritten_of_settled settled, settled.dmaIsBusy sound.doubling]
    exact iff_of_true rfl rfl
  · rw [beingWritten_of_writing writing, writing.dmaIsBusy]
    exact iff_of_false nofun nofun

end Progress

section Runs

variable (config : FramebufferPool.Config) (size : Size UInt16)
  (displayResize supportsResize : Bool) (ownChannel : Nat)

theorem start_sound (suits : Suits config) (byDriver : displayResize → supportsResize) :
    (start config size displayResize supportsResize ownChannel).Sound config where
  serves := serves_create suits.nonempty
  byDriver := by
    intro framebuffer
    rw [Display.resizesInSoftware, decide_eq_false_iff_not]
    intro bySoftware
    exact bySoftware.2.2 (byDriver bySoftware.2.1)
  fromPool := nofun
  orderly := .inl (Session.settled_start ownChannel)
  doubling := Session.doubling_start ownChannel

/-- A display whose framebuffers the pusher doubles, on hardware that may finish transfers
and interrupt at any time. No assertion fails, whatever the program does with its handles.
It is a program whose driver completes each write once, and the pusher is busy exactly
while it has a framebuffer. The hardware by itself brings that one back to the pool, which
then has all but those the program holds, unless the program has lost one. -/
theorem framebuffers_return (suits : Suits config) (byDriver : displayResize → supportsResize)
    {events : List Event} {last : PushedDisplay}
    (run : machine.Run (start config size displayResize supportsResize ownChannel) events last) :
    (∀ event, last.Enabled event → ∃ next, last.step event = some next) ∧
      (∃ deeds, HandleUse.machine.Run
        (HandleUse.start config size displayResize supportsResize) deeds last.program) ∧
      (last.beingWritten = [] ↔ last.session.pusher.dmaIsBusy = false) ∧
      ∃ later idle, machine.Run last later idle ∧ (∀ event ∈ later, event.OfHardware) ∧
        idle.beingWritten = [] ∧ idle.locals = last.locals ∧
        (machine.EveryStep (fun pushed event => pushed.abandoned event = [])
            (start config size displayResize supportsResize ownChannel) events →
          idle.display.framebufferPool.framebufferSemaphore + (handles last.locals).length =
            config.fbAddr.length) := by
  have initially := start_sound config size displayResize supportsResize ownChannel suits byDriver
  have preserved : ∀ pushed event next, Sound config pushed → machine.Enabled pushed event →
      machine.step pushed event = some next → Sound config next := by
    intro pushed event next sound enabled stepped
    rcases sound.step suits enabled with ⟨after, _, steppedTo, afterSound, _⟩
    cases stepped.symm.trans steppedTo
    exact afterSound
  have sound := run.invariant (Sound config) preserved initially
  refine ⟨?_, ?_, sound.beingWritten_iff, ?_⟩
  · intro event enabled
    rcases sound.step suits enabled with ⟨next, _, stepped, _⟩
    exact ⟨next, stepped⟩
  · have simulated : ∀ pushed use event next, (program pushed = use ∧ Sound config pushed) →
        machine.Enabled pushed event → machine.step pushed event = some next →
        ∃ deeds after, HandleUse.machine.Run use deeds after ∧
          (program next = after ∧ Sound config next) := by
      rintro pushed _ event next ⟨rfl, sound⟩ enabled stepped
      rcases sound.step suits enabled with ⟨after, deeds, steppedTo, afterSound, matched, _⟩
      cases stepped.symm.trans steppedTo
      exact ⟨deeds, _, matched, rfl, afterSound⟩
    rcases run.simulates (fun pushed use => program pushed = use ∧ Sound config pushed) simulated
      ⟨rfl, initially⟩ with ⟨deeds, _, matched, rfl, _⟩
    exact ⟨deeds, matched⟩
  · rcases sound.finishes with ⟨later, idle, runLater, hardware, nothing, sameLocals, accounted⟩
    refine ⟨later, idle, runLater, hardware, nothing, sameLocals, ?_⟩
    intro careful
    have keepsAll : ∀ pushed event next,
        (Sound config pushed ∧ pushed.program.accountedFor = config.fbAddr.length) →
        pushed.abandoned event = [] → machine.Enabled pushed event →
        machine.step pushed event = some next →
        Sound config next ∧ next.program.accountedFor = config.fbAddr.length := by
      rintro pushed event next ⟨sound, all⟩ nothing enabled stepped
      rcases sound.step suits enabled with ⟨after, _, steppedTo, afterSound, _, kept⟩
      cases stepped.symm.trans steppedTo
      rw [nothing] at kept
      exact ⟨afterSound, kept.trans all⟩
    have throughout := run.throughout_of_everyStep _ keepsAll (fun _ => And.right)
      ⟨initially, rfl⟩ careful
    have all := run.finally_of_throughout throughout
    rw [← accounted, HandleUse.accountedFor, program, nothing, sameLocals] at all
    exact all

end Runs

section Example

/-- One pixel, which is shown as two by two. -/
def onePixel : FramebufferPool.Config where
  fbAddr := [0x20000000]
  dimensions := ⟨1, 1⟩
  rowBytes := 2
  pixelFormat := .rgb565

theorem onePixel_suits : Suits onePixel := by
  constructor <;> decide

/-- The only framebuffer is on its way to the panel. -/
def oneRelease : List Event :=
  [.move .declare, .getFramebuffer 0, .releaseFramebuffer 0 ⟨fun _ => 0, fun _ _ => .ok⟩,
    .transferDone]

theorem framebuffers_return_oneRelease :
    ∃ last later idle,
      machine.Run (start onePixel ⟨2, 2⟩ true true 3) oneRelease last ∧
        last.display.framebufferPool.framebufferSemaphore = 0 ∧
        machine.Run last later idle ∧ (∀ event ∈ later, event.OfHardware) ∧
        idle.display.framebufferPool.framebufferSemaphore = 1 := by
  have reached : ∃ last, machine.Run (start onePixel ⟨2, 2⟩ true true 3) oneRelease last ∧
      last.display.framebufferPool.framebufferSemaphore = 0 ∧ handles last.locals = [] :=
    ⟨_, .of_execute rfl, rfl, rfl⟩
  rcases reached with ⟨last, run, empty, noHandles⟩
  have returned := framebuffers_return onePixel ⟨2, 2⟩ true true 3 onePixel_suits (fun _ => rfl) run
  rcases returned.2.2.2 with ⟨later, idle, runLater, hardware, _, _, all⟩
  refine ⟨last, later, idle, run, empty, runLater, hardware, ?_⟩
  have careful : machine.EveryStep (fun pushed event => pushed.abandoned event = [])
      (start onePixel ⟨2, 2⟩ true true 3) oneRelease :=
    .cons rfl rfl (.cons rfl rfl (.cons rfl rfl (.cons rfl rfl trivial)))
  have total := all careful
  rw [noHandles] at total
  exact total

end Example

end PushedDisplay

end PigweedExperimental.PixelPusher
