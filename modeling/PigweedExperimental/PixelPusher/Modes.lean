import PigweedExperimental.PixelPusher.Scanlines

namespace PigweedExperimental.PixelPusher

/-! # Switching the mode between frames

Only a frame that is written with doubled pixels has its callback called: the
interrupt that calls it is enabled together with the doubling, and only then.
-/

/-- The unit of a transfer and the program that takes its data, for a mode. -/
def unitOf (pixelDouble : Bool) : DmaSize × PioProgram :=
  if pixelDouble then (.size32, .pixelDouble) else (.size16, .raw)

/-- Every write takes the callback, and leaves the interrupts alone. -/
theorem Pusher.writeFramebuffer_keeps {Callback : Type} {pusher next : Pusher Callback}
    {framebuffer : Framebuffer} {callback : Callback} {transfer : Transfer}
    (written : pusher.writeFramebuffer framebuffer callback = some (next, transfer)) :
    next.ownChannel = pusher.ownChannel ∧ next.drawCallback = some callback ∧
      (next.channels pusher.ownChannel).irq0Enabled =
        (pusher.channels pusher.ownChannel).irq0Enabled := by
  cases empty : pusher.drawCallback with
  | some _ =>
      cases latched : pusher.writeMode <;>
        cases doubled : pusher.pixelDoubleEnabled <;>
        simp [writeFramebuffer, setupWriteFramebuffer, updateChannel, latched, empty,
          doubled] at written
  | none =>
      cases latched : pusher.writeMode <;>
        cases doubled : pusher.pixelDoubleEnabled <;>
        simp [writeFramebuffer, setupWriteFramebuffer, updateChannel, startTransfer, latched,
          empty, doubled] at written <;>
        rcases written with ⟨rfl, -⟩ <;>
        simp

namespace Session

variable {Callback : Type} {session next : Session Callback}

/-- Whenever no transfer is under way every frame has called its callback, which
also lets the next write pass its assertion, and every transfer was started with
the unit and the program of the mode it was started in. -/
structure Accounted (session : Session Callback) : Prop where
  called : session.BetweenFrames →
    session.pusher.drawCallback = none ∧
      session.completions = session.frames.map Frame.completion
  callable : ∀ event, session.Enabled event →
    (∃ framebuffer callback, event = .writeFramebuffer framebuffer callback) →
    ∃ next, session.step event = some next
  units : ∀ frame ∈ session.frames, ∀ transfer ∈ frame.transfers,
    (transfer.dataSize, transfer.program) = unitOf transfer.pixelDouble

theorem Settled.passesAssertion (settled : session.Settled) (framebuffer : Framebuffer)
    (callback : Callback) :
    ∃ next, session.step (.writeFramebuffer framebuffer callback) = some next := by
  have empty := settled.empty
  cases latched : session.pusher.writeMode with
  | true =>
      cases doubled : session.pusher.pixelDoubleEnabled <;>
        simp [step, Pusher.writeFramebuffer, latched, empty, doubled]
  | false =>
      cases doubled : session.pusher.pixelDoubleEnabled <;>
        simp [step, Pusher.writeFramebuffer, Pusher.setupWriteFramebuffer, Pusher.updateChannel,
          latched, empty, doubled]

theorem Orderly.accounted (orderly : session.Orderly) : session.Accounted where
  called := by
    intro betweenFrames
    rcases orderly with settled | ⟨_, _, _, writing⟩
    · exact ⟨settled.empty, settled.completed⟩
    · exact absurd betweenFrames writing.not_betweenFrames
  callable := by
    intro event enabled isWrite
    rcases isWrite with ⟨framebuffer, callback, rfl⟩
    rcases orderly with settled | ⟨_, _, _, writing⟩
    · exact settled.passesAssertion framebuffer callback
    · exact absurd (enabled.1.symm.trans writing.dmaIsBusy) Bool.false_ne_true
  units := by
    intro frame isFrame transfer isTransfer
    rcases orderly.startedUpTo frame isFrame with ⟨scanline, _, started⟩
    rw [started] at isTransfer
    rcases List.mem_map.mp isTransfer with ⟨_, _, rfl⟩
    rfl

theorem settled_afterInit (ownChannel : Nat) :
    (start (.afterInit ownChannel) : Session Callback).Settled where
  setUp := by
    intro latched
    cases latched
  idle := rfl
  dmaIdle := rfl
  quiet := rfl
  empty := rfl
  past := by
    change (lastScanline .invalid : Int) < 240
    decide
  written := by simp [start]
  completed := rfl

/-- A write without the interrupt loses its callback when its transfer is done. -/
theorem not_accounted_of_irq0Disabled {framebuffer : Framebuffer} {callback : Callback}
    (disabled : session.channel.irq0Enabled = false)
    (written : session.step (.writeFramebuffer framebuffer callback) = some next) :
    ∃ after, next.step .transferDone = some after ∧ ¬after.Accounted := by
  rcases Option.bind_eq_some_iff.mp written with ⟨⟨pusher, transfer⟩, writes, isNext⟩
  cases isNext
  rcases Pusher.writeFramebuffer_keeps writes with ⟨ownChannel, hasCallback, irq0⟩
  refine ⟨_, rfl, ?_⟩
  intro accounted
  have stillDisabled : (pusher.channels pusher.ownChannel).irq0Enabled = false := by
    rw [ownChannel, irq0]
    exact disabled
  rcases accounted.called (by
    simp [BetweenFrames, channel, DmaChannel.finish, DmaChannel.irq0Status, stillDisabled]) with
    ⟨empty, _⟩
  cases hasCallback.symm.trans empty

end Session

/-- After `Init`, as long as frames are written only with doubled pixels and with
the interrupt of the channel enabled, no callback is lost or called twice, no
write fails its assertion, and every transfer is in the unit of its mode. -/
theorem modes_accounted {Callback : Type} {ownChannel : Nat} {events : List (Event Callback)}
    {session : Session Callback}
    (run : (Session.machine Callback).Run (.start (.afterInit ownChannel)) events session)
    (everyStep : (Session.machine Callback).EveryStep Session.DoublesWithInterrupt
      (.start (.afterInit ownChannel)) events) :
    (Session.machine Callback).Throughout Session.Accounted
      (.start (.afterInit ownChannel)) events := by
  apply run.throughout_of_everyStep Session.Orderly _ _ (.inl (Session.settled_afterInit _))
    everyStep
  · intro state event next orderly doubles enabled stepped
    exact orderly.preserved doubles enabled stepped
  · intro state orderly
    exact orderly.accounted

section Example

/-- A frame that is written as it is after `Init`: nothing calls its callback, and
the next write fails. -/
theorem modes_unaccounted_singlePixels :
    ¬∀ {events : List (Event Nat)} {session : Session Nat},
      (Session.machine Nat).Run (.start (.afterInit 0)) events session →
      (Session.machine Nat).Throughout Session.Accounted (.start (.afterInit 0)) events := by
  intro always
  have run := @Machine.Run.of_execute _ _ (Session.machine Nat)
    (.start (.afterInit 0)) _ [.writeFramebuffer ⟨16, .rgb565, ⟨2, 1⟩, 4⟩ 7, .transferDone] _ rfl
  have accounted := run.finally_of_throughout (always run)
  rcases accounted.callable (.writeFramebuffer ⟨32, .rgb565, ⟨2, 1⟩, 4⟩ 8) ⟨rfl, rfl⟩
    ⟨_, _, rfl⟩ with ⟨next, written⟩
  cases written

/-- Doubling is switched off and on again between two frames. -/
def switched : List (Event Nat) :=
  [.setPixelDouble true, .writeFramebuffer ⟨16, .rgb565, ⟨2, 1⟩, 4⟩ 7, .transferDone, .interrupt,
    .transferDone, .interrupt, .setPixelDouble false, .setPixelDouble true,
    .writeFramebuffer ⟨32, .rgb565, ⟨2, 1⟩, 4⟩ 8]

theorem modes_accounted_switched :
    (Session.machine Nat).Throughout Session.Accounted (.start (.afterInit 0)) switched := by
  have run := @Machine.Run.of_execute _ _ (Session.machine Nat)
    (.start (.afterInit 0)) _ switched _ rfl
  apply modes_accounted run
  apply Machine.EveryStep.cons trivial rfl
  apply Machine.EveryStep.cons ⟨rfl, rfl⟩ rfl
  repeat apply Machine.EveryStep.cons trivial rfl
  apply Machine.EveryStep.cons ⟨rfl, rfl⟩ rfl
  trivial

end Example

end PigweedExperimental.PixelPusher
