import Mathlib.Data.Nat.Find
import PigweedExperimental.Display.Display
import PigweedExperimental.DisplayDriver.DisplayDriver

namespace PigweedExperimental.DisplayDriver

/-! # Framebuffers of other sizes than the panel

Without resizing a display hands every framebuffer to its driver, which takes
the number of pixels to send from three different places.
-/

/-- The number of pixels of a framebuffer. -/
def numPixels (framebuffer : Framebuffer) : Nat :=
  framebuffer.size.width.toNat * framebuffer.size.height.toNat

/-- All that the writes read lies inside the framebuffer. -/
def ReadsInside (writes : List SpiWrite) (framebuffer : Framebuffer) : Prop :=
  ∀ write ∈ writes, ∀ index, write.span.Reads index → index < numPixels framebuffer

/-- `Display::ReleaseFramebuffer` on a display with the given driver, as far as
the write callback, which does not run when the display rejects the framebuffer
or resizes it itself. -/
def deliver (driver : DisplayDriver) (display : Display) (surroundings : Surroundings)
    (bus : SpiBus) (framebuffer : Framebuffer) : Except Fault (Option Delivery) := do
  let release ← display.releaseFramebuffer surroundings framebuffer
  match release with
  | .writing => (driver.writeFramebuffer bus framebuffer).map some
  | .rejected | .resized .. => return none

/-- The driver stays inside the framebuffer, or says that it cannot send it and
still stays inside. -/
def Copes (driver : DisplayDriver) (display : Display) (surroundings : Surroundings)
    (bus : SpiBus) (framebuffer : Framebuffer) : Prop :=
  ∃ delivery, driver.deliver display surroundings bus framebuffer = .ok (some delivery) ∧
    (ReadsInside (delivery.bus.since bus) framebuffer ∨
      delivery.status ≠ .ok ∧ ReadsInside (delivery.bus.since bus) framebuffer)

/-- The framebuffer has as many pixels as are sent before a write fails. The
outcomes are those of the writes to come, the first of which is the command
where there is one. -/
def Suffices (driver : DisplayDriver) (bus : SpiBus) (framebuffer : Framebuffer) : Prop :=
  match driver with
  | .ili9341 _ =>
      ILI9341.kDisplayNumPixels ≤ numPixels framebuffer ∨
        ∃ send, ILI9341.kNumPixelsInSend * (send + 1) ≤ numPixels framebuffer ∧
          bus.outcome (bus.writes.length + send) ≠ .ok
  | .st7735 config =>
      bus.nextOutcome ≠ .ok ∨
        config.screenWidth.toNat * config.screenHeight.toNat ≤
          min (numPixels framebuffer) (2 ^ 31 - 1)
  | .st7789 _ => bus.nextOutcome ≠ .ok ∨ numPixels framebuffer ≤ 2 ^ 31 - 1

section SendFrame

variable {framebuffer : Framebuffer} {bus : SpiBus}

theorem readsInside_append {first second : List SpiWrite} :
    ReadsInside (first ++ second) framebuffer ↔
      ReadsInside first framebuffer ∧ ReadsInside second framebuffer :=
  List.forall_mem_append

/-- A command reads nothing of the framebuffer. -/
theorem readsInside_bytes (mode : Mode) (bytes : List UInt8) (status : Status) :
    ReadsInside [⟨mode, .bytes bytes, status⟩] framebuffer := by
  intro write isWrite index reads
  rw [List.mem_singleton.mp isWrite] at reads
  exact reads.elim

theorem readsInside_framebuffer (mode : Mode) (first count : Nat) (status : Status) :
    ReadsInside [⟨mode, .framebuffer first count, status⟩] framebuffer ↔
      (0 < count → first + count ≤ numPixels framebuffer) := by
  constructor
  · intro inside positive
    have last := inside _ (List.mem_singleton_self _) (first + count - 1) ⟨by omega, by omega⟩
    omega
  · intro fits write isWrite index reads
    rw [List.mem_singleton.mp isWrite] at reads
    have bounds : first ≤ index ∧ index < first + count := reads
    have inside := fits (by omega)
    omega

/-- A failed command is all that is sent. -/
theorem sendFrame_failed (memoryWrite : UInt8) (width height : UInt16)
    (failed : bus.nextOutcome ≠ .ok) :
    ∃ delivery, sendFrame memoryWrite width height bus framebuffer = .ok delivery ∧
      delivery.bus.since bus = [⟨.command, .bytes [memoryWrite], bus.nextOutcome⟩] := by
  have command := bus.writeCommand_noData memoryWrite
  have commandFailed : (bus.writeCommand ⟨memoryWrite, []⟩).1 ≠ .ok := by
    rw [command.1]
    exact failed
  refine ⟨⟨framebuffer, (bus.writeCommand ⟨memoryWrite, []⟩).1,
    (bus.writeCommand ⟨memoryWrite, []⟩).2⟩, ?_, bus.since_of_writes command.2⟩
  rw [sendFrame, if_pos commandFailed]
  rfl

/-- After the command the pixels are sent in one write, unless their number is
no `int`. -/
theorem sendFrame_commanded (memoryWrite : UInt8) (width height : UInt16)
    (commanded : bus.nextOutcome = .ok) {delivery : Delivery} :
    sendFrame memoryWrite width height bus framebuffer = .ok delivery ↔
      width.toNat * height.toNat ≤ 2 ^ 31 - 1 ∧
        delivery = ⟨framebuffer,
          ((bus.writeCommand ⟨memoryWrite, []⟩).2.write
            (.framebuffer 0 (width.toNat * height.toNat))).1,
          ((bus.writeCommand ⟨memoryWrite, []⟩).2.write
            (.framebuffer 0 (width.toNat * height.toNat))).2⟩ := by
  have command := bus.writeCommand_noData memoryWrite
  have commandSent : ¬(bus.writeCommand ⟨memoryWrite, []⟩).1 ≠ .ok := by
    rw [command.1, commanded]
    exact not_not.mpr rfl
  rw [sendFrame, if_neg commandSent, ← Nat.cast_mul, int_natCast]
  split
  · rename_i fits
    simp only [bind, Except.bind, pure, Except.pure, Int.toNat_natCast, Except.ok.injEq, fits,
      true_and]
    exact eq_comm
  · rename_i overflows
    exact iff_of_false nofun fun both => overflows both.1

/-- What a frame in one write reads. -/
theorem sendFrame_inside_iff (memoryWrite : UInt8) (width height : UInt16) :
    (∃ delivery, sendFrame memoryWrite width height bus framebuffer = .ok delivery ∧
        ReadsInside (delivery.bus.since bus) framebuffer) ↔
      bus.nextOutcome ≠ .ok ∨
        width.toNat * height.toNat ≤ min (numPixels framebuffer) (2 ^ 31 - 1) := by
  rcases Decidable.em (bus.nextOutcome = .ok) with commanded | failed
  · have writes (span : Span) := bus.since_of_writes (bus.write_after_noData memoryWrite span)
    have reads := @readsInside_framebuffer framebuffer
      (bus.writeCommand ⟨memoryWrite, []⟩).2.mode 0 (width.toNat * height.toNat)
      (bus.writeCommand ⟨memoryWrite, []⟩).2.nextOutcome
    constructor
    · rintro ⟨delivery, sent, inside⟩
      rcases (sendFrame_commanded memoryWrite width height commanded).mp sent with ⟨fits, rfl⟩
      rw [writes, readsInside_append, reads] at inside
      omega
    · intro enough
      have bounds : width.toNat * height.toNat ≤ min (numPixels framebuffer) (2 ^ 31 - 1) :=
        enough.resolve_left (not_not.mpr commanded)
      refine ⟨_, (sendFrame_commanded memoryWrite width height commanded).mpr
        ⟨by omega, rfl⟩, ?_⟩
      rw [writes, readsInside_append, reads]
      exact ⟨readsInside_bytes _ _ _, fun _ => by omega⟩
  · rcases sendFrame_failed memoryWrite width height failed with
      ⟨delivery, sent, writes⟩
    refine iff_of_true ⟨delivery, sent, ?_⟩ (.inl failed)
    rw [writes]
    exact readsInside_bytes _ _ _

end SendFrame

namespace ILI9341

/-- A write of the pixel loop. -/
def rowsWrite (bus : SpiBus) (send : Nat) : SpiWrite where
  mode := bus.mode
  span := .framebuffer (kDisplayWidth * (kNumRowsPerSend * send)) kNumPixelsInSend
  status := bus.outcome (bus.writes.length + send)

/-- The bus after some rounds of the pixel loop. -/
def afterSends (bus : SpiBus) (sends : Nat) : SpiBus :=
  { bus with writes := bus.writes ++ (List.range sends).map (rowsWrite bus) }

section PixelLoop

variable {bus : SpiBus}

theorem afterSends_nextOutcome (bus : SpiBus) (sends : Nat) :
    (afterSends bus sends).nextOutcome = bus.outcome (bus.writes.length + sends) := by
  rw [SpiBus.nextOutcome, afterSends]
  dsimp only
  rw [List.length_append, List.length_map, List.length_range]

theorem afterSends_write (bus : SpiBus) (sends : Nat) :
    (afterSends bus sends).write
        (.framebuffer (kDisplayWidth * (kNumRowsPerSend * sends)) kNumPixelsInSend) =
      (bus.outcome (bus.writes.length + sends), afterSends bus (sends + 1)) := by
  have outcome := afterSends_nextOutcome bus sends
  rw [SpiBus.write, outcome]
  rw [afterSends, afterSends, List.range_succ, List.map_append, ← List.append_assoc]
  rfl

/-- The loop runs on while the writes succeed. -/
theorem forUp_sendRows_ok {count : Nat}
    (sent : ∀ send < count, bus.outcome (bus.writes.length + send) = .ok) :
    forUp count sendRows bus = .ok (afterSends bus count) := by
  induction count with
  | zero =>
      rw [forUp, afterSends, List.range_zero, List.map_nil, List.append_nil]
  | succ count induction =>
      rw [forUp, induction fun send earlier => sent send (Nat.lt_succ_of_lt earlier)]
      simp only [Except.bind, sendRows]
      rw [afterSends_write, if_pos (sent count (Nat.lt_succ_self count))]

/-- It ends with the first write that fails. -/
theorem forUp_sendRows_error {count send : Nat} (inRange : send < count)
    (sent : ∀ earlier < send, bus.outcome (bus.writes.length + earlier) = .ok)
    (fails : bus.outcome (bus.writes.length + send) ≠ .ok) :
    forUp count sendRows bus =
      .error (bus.outcome (bus.writes.length + send), afterSends bus (send + 1)) := by
  induction count with
  | zero => cases inRange
  | succ count induction =>
      rw [forUp]
      rcases Nat.lt_succ_iff_lt_or_eq.mp inRange with earlier | rfl
      · rw [induction earlier]
        rfl
      · rw [forUp_sendRows_ok sent]
        simp only [Except.bind, sendRows]
        rw [afterSends_write, if_neg fails]

/-- How many writes the pixel loop makes. -/
theorem sendPixels_writes (bus : SpiBus) :
    ∃ sends, 0 < sends ∧ sends ≤ kNumSends ∧ (sendPixels bus).2 = afterSends bus sends ∧
      (∀ send, send + 1 < sends → bus.outcome (bus.writes.length + send) = .ok) ∧
      (sends < kNumSends → bus.outcome (bus.writes.length + (sends - 1)) ≠ .ok) := by
  rcases Decidable.em (∃ send < kNumSends, bus.outcome (bus.writes.length + send) ≠ .ok) with
    someFails | noneFails
  · let first := Nat.find someFails
    have firstFails := Nat.find_spec someFails
    have sent (earlier : Nat) (isEarlier : earlier < first) :
        bus.outcome (bus.writes.length + earlier) = .ok := by
      have notFailing := Nat.find_min someFails isEarlier
      have inRange : earlier < kNumSends := Nat.lt_trans isEarlier firstFails.1
      exact not_not.mp fun fails => notFailing ⟨inRange, fails⟩
    refine ⟨first + 1, Nat.succ_pos _, firstFails.1, ?_, ?_, ?_⟩
    · exact congrArg (fun result => (loopStatus result).2)
        (forUp_sendRows_error firstFails.1 sent firstFails.2)
    · intro send isEarlier
      exact sent send (Nat.lt_of_succ_lt_succ isEarlier)
    · intro _
      exact firstFails.2
  · have sent (send : Nat) (inRange : send < kNumSends) :
        bus.outcome (bus.writes.length + send) = .ok :=
      not_not.mp fun fails => noneFails ⟨send, inRange, fails⟩
    refine ⟨kNumSends, by decide, Nat.le_refl _, ?_, ?_, ?_⟩
    · exact congrArg (fun result => (loopStatus result).2) (forUp_sendRows_ok sent)
    · intro send isEarlier
      exact sent send (Nat.lt_of_succ_lt isEarlier)
    · intro less
      exact absurd less (Nat.lt_irrefl _)

/-- The writes so far read one stretch of pixels from the first on. -/
theorem afterSends_inside (bus : SpiBus) (framebuffer : Framebuffer) {sends : Nat}
    (positive : 0 < sends) :
    ReadsInside ((afterSends bus sends).since bus) framebuffer ↔
      kNumPixelsInSend * sends ≤ numPixels framebuffer := by
  have since : (afterSends bus sends).since bus = (List.range sends).map (rowsWrite bus) :=
    bus.since_of_writes rfl
  have first (send : Nat) :
      kDisplayWidth * (kNumRowsPerSend * send) = kNumPixelsInSend * send :=
    (Nat.mul_assoc _ _ _).symm
  have somePixels : 0 < kNumPixelsInSend := by decide
  have rest : kNumPixelsInSend * (sends - 1) + kNumPixelsInSend = kNumPixelsInSend * sends := by
    rw [← Nat.mul_succ, Nat.succ_eq_add_one, Nat.sub_add_cancel positive]
  rw [since]
  constructor
  · intro inside
    have reads : (rowsWrite bus (sends - 1)).span.Reads
        (kNumPixelsInSend * (sends - 1) + (kNumPixelsInSend - 1)) :=
      ⟨by rw [first]; omega, by rw [first]; omega⟩
    have last := inside (rowsWrite bus (sends - 1))
      (List.mem_map_of_mem (List.mem_range.mpr (by omega))) _ reads
    omega
  · intro fits write isWrite index reads
    rcases List.mem_map.mp isWrite with ⟨send, inRange, rfl⟩
    have bounds : kDisplayWidth * (kNumRowsPerSend * send) ≤ index ∧
        index < kDisplayWidth * (kNumRowsPerSend * send) + kNumPixelsInSend := reads
    rw [first] at bounds
    calc index
      _ < kNumPixelsInSend * (send + 1) := bounds.2
      _ ≤ kNumPixelsInSend * sends := Nat.mul_le_mul_left _ (List.mem_range.mp inRange)
      _ ≤ numPixels framebuffer := fits

theorem sendPixels_inside_iff (bus : SpiBus) (framebuffer : Framebuffer) :
    ReadsInside ((sendPixels bus).2.since bus) framebuffer ↔
      kDisplayNumPixels ≤ numPixels framebuffer ∨
        ∃ send, kNumPixelsInSend * (send + 1) ≤ numPixels framebuffer ∧
          bus.outcome (bus.writes.length + send) ≠ .ok := by
  rcases sendPixels_writes bus with ⟨sends, positive, inRange, after, sent, fails⟩
  have whole : kNumPixelsInSend * kNumSends = kDisplayNumPixels := rfl
  rw [after, afterSends_inside bus framebuffer positive]
  constructor
  · intro fits
    rcases Nat.lt_or_eq_of_le inRange with stopped | all
    · exact .inr ⟨sends - 1, by rwa [Nat.sub_add_cancel positive], fails stopped⟩
    · left
      rwa [all, whole] at fits
  · intro enough
    rcases enough with whole' | ⟨send, fits, failing⟩
    · exact Nat.le_trans (Nat.mul_le_mul_left _ inRange) (whole.trans_le whole')
    · -- No write after a failing one is made.
      have notAfter : sends ≤ send + 1 := by
        by_contra after
        exact failing (sent send (Nat.lt_of_not_le after))
      exact Nat.le_trans (Nat.mul_le_mul_left _ notAfter) fits

end PixelLoop

theorem writeFramebuffer_eq_ok {bus : SpiBus} {framebuffer : Framebuffer}
    {delivery : Delivery} :
    writeFramebuffer bus framebuffer = .ok delivery ↔
      framebuffer.isValid ∧ framebuffer.pixelFormat = .rgb565 ∧
        ⟨framebuffer, (sendPixels bus).1, (sendPixels bus).2⟩ = delivery := by
  rw [writeFramebuffer, pwAssert_bind_eq_ok, pwAssert_bind_eq_ok]
  exact and_congr_right' (and_congr_right' (iff_of_eq (Except.ok.injEq _ _)))

end ILI9341

theorem ST7735.writeFramebuffer_eq_ok {bus : SpiBus} {framebuffer : Framebuffer}
    {config : ST7735.Config} {delivery : Delivery} :
    ST7735.writeFramebuffer config bus framebuffer = .ok delivery ↔
      framebuffer.isValid ∧ framebuffer.pixelFormat = .rgb565 ∧
        sendFrame ST7735.ramwr config.screenWidth config.screenHeight bus framebuffer =
          .ok delivery := by
  rw [ST7735.writeFramebuffer, pwAssert_bind_eq_ok, pwAssert_bind_eq_ok]

theorem ST7789.writeFramebuffer_eq_ok {bus : SpiBus} {framebuffer : Framebuffer}
    {delivery : Delivery} :
    ST7789.writeFramebuffer bus framebuffer = .ok delivery ↔
      framebuffer.pixelFormat = .rgb565 ∧
        sendFrame ST7789.ramwr framebuffer.size.width framebuffer.size.height bus
          framebuffer = .ok delivery := by
  rw [ST7789.writeFramebuffer, pwAssert_bind_eq_ok]

section Copes

variable {driver : DisplayDriver} {display : Display} {surroundings : Surroundings}
  {bus : SpiBus} {framebuffer : Framebuffer}

/-- Without resizing the driver gets the framebuffer. -/
theorem deliver_notResizing (compiledOut : display.displayResize = false)
    (valid : framebuffer.isValid) :
    driver.deliver display surroundings bus framebuffer =
      (driver.writeFramebuffer bus framebuffer).map some := by
  have byDriver : display.resizesInSoftware framebuffer = false := by
    simp [Display.resizesInSoftware, compiledOut]
  rw [deliver, Display.releaseFramebuffer_writing valid byDriver]
  rfl

/-- A failure that is reported does not excuse a read outside. -/
theorem copes_iff_inside (compiledOut : display.displayResize = false)
    (valid : framebuffer.isValid) :
    driver.Copes display surroundings bus framebuffer ↔
      ∃ delivery, driver.writeFramebuffer bus framebuffer = .ok delivery ∧
        ReadsInside (delivery.bus.since bus) framebuffer := by
  rw [Copes, deliver_notResizing compiledOut valid]
  apply exists_congr
  intro delivery
  apply and_congr
  · cases driver.writeFramebuffer bus framebuffer with
    | error => exact iff_of_false nofun nofun
    | ok => simp [Except.map]
  · exact or_iff_left_of_imp And.right

/-- A driver copes with a framebuffer exactly when it has as many pixels as the
driver sends, or a write fails before they are used up. -/
theorem copes_iff (compiledOut : display.displayResize = false)
    (valid : framebuffer.isValid) (format : framebuffer.pixelFormat = .rgb565) :
    driver.Copes display surroundings bus framebuffer ↔ driver.Suffices bus framebuffer := by
  rw [copes_iff_inside compiledOut valid]
  cases driver with
  | ili9341 config =>
      simp only [writeFramebuffer, ILI9341.writeFramebuffer_eq_ok, valid, format, true_and,
        exists_eq_left']
      exact ILI9341.sendPixels_inside_iff bus framebuffer
  | st7735 config =>
      simp only [writeFramebuffer, ST7735.writeFramebuffer_eq_ok, valid, format, true_and]
      exact sendFrame_inside_iff _ _ _
  | st7789 config =>
      simp only [writeFramebuffer, ST7789.writeFramebuffer_eq_ok, format, true_and]
      apply (sendFrame_inside_iff _ _ _).trans
      rw [← numPixels, le_min_iff, and_iff_right (Nat.le_refl _)]
      rfl

end Copes

/-- A display as large as the panel of the ILI9341, over one smaller
framebuffer. -/
def panelDisplay : Display where
  size := ⟨320, 240⟩
  framebufferPool := {
    framebufferSemaphore := 0
    bufferAddresses := [0x20000000]
    bufferDimensions := ⟨8, 8⟩
    rowBytes := 16
    pixelFormat := .rgb565
    nextFbIdx := 0 }
  displayResize := false
  supportsResize := false

def tileFramebuffer : Framebuffer where
  pixelData := 0x20000000
  pixelFormat := .rgb565
  size := ⟨8, 8⟩
  rowBytes := 16

theorem copes_iff_tile :
    (DisplayDriver.ili9341 ⟨.spi, false, 0⟩).Copes panelDisplay
        ⟨fun _ => 0, fun _ _ => .ok⟩ (.idle .data) tileFramebuffer ↔
      (DisplayDriver.ili9341 ⟨.spi, false, 0⟩).Suffices (.idle .data) tileFramebuffer :=
  copes_iff rfl (by decide) rfl

/-- The ILI9341 sends 320x240 pixels of an 8x8 framebuffer. -/
theorem tile_readOutside :
    ¬(∀ (driver : DisplayDriver) (display : Display) (surroundings : Surroundings)
      (bus : SpiBus) (framebuffer : Framebuffer), display.displayResize = false →
      framebuffer.isValid → framebuffer.pixelFormat = .rgb565 →
      driver.Copes display surroundings bus framebuffer) := by
  intro all
  have copes := all (.ili9341 ⟨.spi, false, 0⟩) panelDisplay ⟨fun _ => 0, fun _ _ => .ok⟩
    (.idle .data) tileFramebuffer rfl (by decide) rfl
  rcases (copes_iff_inside rfl (by decide)).mp copes with ⟨delivery, sent, inside⟩
  rcases ILI9341.writeFramebuffer_eq_ok.mp sent with ⟨_, _, rfl⟩
  rcases (ILI9341.sendPixels_inside_iff _ _).mp inside with enough | ⟨_, _, fails⟩
  · exact absurd enough (by decide)
  · exact fails rfl

end PigweedExperimental.DisplayDriver
