import PigweedExperimental.DisplayDriver.PanelMemory
import PigweedExperimental.Foundation.Updates

namespace PigweedExperimental.DisplayDriver

/-! # Pictures on the panel

On a connection that fails no write, a frame fills the window of `Init` with the
pixels of the framebuffer, and a row write sets the pixels that it covers.
-/

/-- The connection fails no write and is ready for data. -/
structure Works (bus : SpiBus) : Prop where
  succeeds : bus.Succeeds
  mode : bus.mode = .data

/-- A call leaves a working connection, and these writes on it. -/
structure Sends (bus after : SpiBus) (sent : List SpiWrite) : Prop where
  works : Works after
  writes : after.writes = bus.writes ++ sent

section Frames

variable {bus : SpiBus} {framebuffer : Framebuffer} {fbdata : Nat → UInt16} {panel : Panel}

/-- A framebuffer of as many columns and rows as the window of frames. -/
structure FrameFits (driver : DisplayDriver) (framebuffer : Framebuffer) : Prop where
  valid : framebuffer.isValid
  format : framebuffer.pixelFormat = .rgb565
  width : framebuffer.size.width.toNat = driver.frameWindow.rectangle.width
  height : framebuffer.size.height.toNat = driver.frameWindow.rectangle.height
  nonempty : 1 ≤ numPixels framebuffer
  fits : numPixels framebuffer ≤ 2 ^ 31 - 1

theorem FrameFits.area {driver : DisplayDriver} (fits : driver.FrameFits framebuffer) :
    numPixels framebuffer = driver.frameWindow.rectangle.area := by
  rw [numPixels, fits.width, fits.height]
  rfl

/-- Pieces of one size, one behind the other. -/
theorem range_pieces (size count : Nat) :
    (List.range count).flatMap (fun piece => List.range' (size * piece) size) =
      List.range (size * count) := by
  induction count with
  | zero => rfl
  | succ count induction =>
      rw [List.range_succ, List.flatMap_append, induction, List.flatMap_singleton,
        Nat.mul_succ, List.range_eq_range', List.range_eq_range']
      have joined := @List.range'_append_1 0 (size * count) size
      rw [Nat.zero_add] at joined
      exact joined

theorem ILI9341.receive_rowsWrites (data : bus.mode = .data) (count : Nat) :
    panel.receiveAll fbdata ((List.range count).map (rowsWrite bus)) =
      panel.take ((List.range (kNumPixelsInSend * count)).map fbdata) := by
  rw [← range_pieces, List.map_flatMap]
  induction count with
  | zero =>
      rw [List.range_zero, List.map_nil, List.flatMap_nil, Panel.take]
      split <;> rfl
  | succ count induction =>
      have first : kDisplayWidth * (kNumRowsPerSend * count) = kNumPixelsInSend * count :=
        (Nat.mul_assoc _ _ _).symm
      have last (before : Panel) : before.receive fbdata (rowsWrite bus count) =
          before.take ((List.range' (kNumPixelsInSend * count) kNumPixelsInSend).map fbdata) := by
        rw [rowsWrite, data, first]
        rfl
      rw [List.range_succ, List.map_append, Panel.receiveAll_append, induction,
        List.flatMap_append, List.flatMap_singleton, ← Panel.take_append]
      exact last _

/-- The frames of the ILI9341 come without a command. -/
theorem ILI9341.sendPixels_sends (works : Works bus) :
    ∃ sent, (sendPixels bus).1 = .ok ∧ Sends bus (sendPixels bus).2 sent ∧
      ∀ (panel : Panel) (fbdata : Nat → UInt16), panel.receiveAll fbdata sent =
        panel.take ((List.range kDisplayNumPixels).map fbdata) := by
  have all : sendPixels bus = (.ok, afterSends bus kNumSends) :=
    congrArg loopStatus (forUp_sendRows_ok fun _ _ => works.succeeds _)
  rw [all]
  refine ⟨_, rfl, ⟨⟨works.succeeds, works.mode⟩, rfl⟩, ?_⟩
  intro panel fbdata
  exact receive_rowsWrites works.mode kNumSends

/-- The other drivers send the memory write command before a frame. -/
theorem sendFrame_sends (works : Works bus) (width height : UInt16)
    (fits : width.toNat * height.toNat ≤ 2 ^ 31 - 1) :
    ∃ delivery sent, sendFrame memoryWrite width height bus framebuffer = .ok delivery ∧
      delivery.status = .ok ∧ Sends bus delivery.bus sent ∧
      ∀ (panel : Panel) (fbdata : Nat → UInt16), panel.receiveAll fbdata sent =
        (panel.receive fbdata ⟨.command, .bytes [memoryWrite], .ok⟩).take
          ((List.range (width.toNat * height.toNat)).map fbdata) := by
  let commanded := bus.writeCommand ⟨memoryWrite, []⟩
  have command : commanded.1 = .ok ∧ commanded.2.mode = .data ∧
      commanded.2.writes = bus.writes ++ [⟨.command, .bytes [memoryWrite], .ok⟩] :=
    works.succeeds.writeCommand ⟨memoryWrite, []⟩
  have succeeds : commanded.2.Succeeds := works.succeeds.of_outcome (bus.writeCommand_outcome _)
  have pixels := succeeds.write (.framebuffer 0 (width.toNat * height.toNat))
  have sent : sendFrame memoryWrite width height bus framebuffer = .ok ⟨framebuffer, _, _⟩ :=
    (sendFrame_commanded memoryWrite width height works.succeeds.nextOutcome).mpr ⟨fits, rfl⟩
  refine ⟨_, [⟨.command, .bytes [memoryWrite], .ok⟩,
    ⟨.data, .framebuffer 0 (width.toNat * height.toNat), .ok⟩], sent, pixels.1,
    ⟨⟨succeeds, command.2.1⟩, ?_⟩, ?_⟩
  · change (commanded.2.write (.framebuffer 0 (width.toNat * height.toNat))).2.writes = _
    rw [pixels.2, command.2.2, command.2.1, List.append_assoc]
    rfl
  · intro panel fbdata
    rw [List.range_eq_range']
    rfl

/-- A frame's pixels stand in its window row by row. -/
def ShowsFrame (driver : DisplayDriver) (panel : Panel) (fbdata : Nat → UInt16) : Prop :=
  ∀ row < driver.frameWindow.rectangle.height, ∀ column < driver.frameWindow.rectangle.width,
    panel.memory (driver.frameWindow.columns.1 + column, driver.frameWindow.pages.1 + row) =
      fbdata (row * driver.frameWindow.rectangle.width + column)

theorem takeFrame_shows {driver : DisplayDriver} {count : Nat}
    (awaits : panel.Awaits driver.frameWindow)
    (whole : count = driver.frameWindow.rectangle.area) :
    (panel.take ((List.range count).map fbdata)).Awaits driver.frameWindow ∧
      driver.ShowsFrame (panel.take ((List.range count).map fbdata)) fbdata := by
  have length : ((List.range count).map fbdata).length = driver.frameWindow.rectangle.area := by
    rw [List.length_map, List.length_range, whole]
  have frame := awaits.takeFrame length
  refine ⟨frame.1, ?_⟩
  intro row row_lt column column_lt
  apply frame.2 row row_lt column column_lt
  rw [List.getElem?_map, List.getElem?_range]
  · rfl
  · rw [whole, Rectangle.area, Nat.mul_comm driver.frameWindow.rectangle.width]
    exact rowMajor_lt row_lt column_lt

/-- The memory write command only needs the window. -/
theorem takeFrame_ready {driver : DisplayDriver} {count : Nat}
    (window : panel.controller.window = driver.frameWindow)
    (whole : count = driver.frameWindow.rectangle.area) :
    let after := (panel.receive fbdata ⟨.command, .bytes [memoryWrite], .ok⟩).take
      ((List.range count).map fbdata)
    after.controller.window = driver.frameWindow ∧ driver.ShowsFrame after fbdata := by
  have awaits := panel.awaits_memoryWrite fbdata .ok
  rw [window] at awaits
  have shown := @takeFrame_shows fbdata _ driver count awaits whole
  exact ⟨shown.1.window, shown.2⟩

theorem ST7735.numPixels_eq {config : ST7735.Config}
    (fits : (DisplayDriver.st7735 config).FrameFits framebuffer) :
    config.screenWidth.toNat * config.screenHeight.toNat = numPixels framebuffer := by
  have width : framebuffer.size.width.toNat =
      (config.screenWidth + 1 - 1).toNat + 1 - 1 := fits.width
  have height : framebuffer.size.height.toNat =
      (config.screenHeight + 2 - 1).toNat + 1 - 2 := fits.height
  have nonempty := fits.nonempty
  have heightRange := config.screenHeight.toNat_lt
  rw [UInt16.add_sub_cancel, Nat.add_sub_cancel] at width
  rw [show config.screenHeight + 2 - 1 = config.screenHeight + 1 by grind,
    UInt16.toNat_add, UInt16.toNat_one] at height
  rw [numPixels] at nonempty ⊢
  have positive := Nat.pos_of_mul_pos_left nonempty
  rw [width, show config.screenHeight.toNat = framebuffer.size.height.toNat by omega]

theorem ILI9341.numPixels_eq (config : ILI9341.Config) :
    kDisplayNumPixels = (DisplayDriver.ili9341 config).frameWindow.rectangle.area := by
  rw [frameWindow, Config.kMaxColumn, Config.kMaxRow]
  cases config.swapRowCol <;> decide

/-- A framebuffer that fits is shown, and the panel is ready for the next one. -/
theorem writeFramebuffer_shows {driver : DisplayDriver} (works : Works bus)
    (fits : driver.FrameFits framebuffer) :
    ∃ delivery sent, driver.writeFramebuffer bus framebuffer = .ok delivery ∧
      delivery.status = .ok ∧ Sends bus delivery.bus sent ∧
      ∀ (panel : Panel) (fbdata : Nat → UInt16), driver.Ready panel →
        driver.Ready (panel.receiveAll fbdata sent) ∧
          driver.ShowsFrame (panel.receiveAll fbdata sent) fbdata := by
  cases driver with
  | ili9341 config =>
      rcases ILI9341.sendPixels_sends works with ⟨sent, status, sends, taken⟩
      refine ⟨_, sent, ILI9341.writeFramebuffer_eq_ok.mpr ⟨fits.valid, fits.format, rfl⟩,
        status, sends, ?_⟩
      intro panel fbdata ready
      rw [taken]
      exact takeFrame_shows ready (ILI9341.numPixels_eq config)
  | st7735 config =>
      have count := ST7735.numPixels_eq fits
      rcases @sendFrame_sends bus framebuffer works config.screenWidth config.screenHeight
        (count.trans_le fits.fits) with ⟨delivery, sent, written, status, sends, taken⟩
      refine ⟨delivery, sent, ST7735.writeFramebuffer_eq_ok.mpr
        ⟨fits.valid, fits.format, written⟩, status, sends, ?_⟩
      intro panel fbdata ready
      rw [taken, count]
      exact takeFrame_ready ready fits.area
  | st7789 config =>
      rcases @sendFrame_sends bus framebuffer works framebuffer.size.width
        framebuffer.size.height fits.fits with ⟨delivery, sent, written, status, sends, taken⟩
      refine ⟨delivery, sent, ST7789.writeFramebuffer_eq_ok.mpr ⟨fits.format, written⟩, status,
        sends, ?_⟩
      intro panel fbdata ready
      rw [taken]
      exact takeFrame_ready ready fits.area

end Frames

section Rows

open NearestNeighbor

variable {bus : SpiBus} {write : RowWrite} {fbdata : Nat → UInt16}

/-- Pixels set one after another. -/
def paint (memory : Nat × Nat → UInt16) (pixels : List DisplayPixel) : Nat × Nat → UInt16 :=
  pixels.foldl (fun memory pixel =>
    Function.update memory (pixel.column, pixel.row) pixel.value) memory

theorem paint_append (memory : Nat × Nat → UInt16) (first second : List DisplayPixel) :
    paint memory (first ++ second) = paint (paint memory first) second :=
  List.foldl_append

theorem paint_eq_updateAll (memory : Nat × Nat → UInt16) (pixels : List DisplayPixel) :
    paint memory pixels =
      updateAll memory (pixels.map fun pixel => ((pixel.column, pixel.row), pixel.value)) := by
  rw [paint, updateAll, List.foldl_map]

/-- Words that stay within the first row of a rectangle. -/
theorem fill_row {rectangle : Rectangle} {memory : Nat × Nat → UInt16} {words : List UInt16}
    {cursor : Nat} (inRow : cursor + words.length ≤ rectangle.width) :
    rectangle.fill memory cursor words =
      paint memory (words.mapIdx fun offset value => {
        row := rectangle.top
        column := rectangle.left + (cursor + offset)
        value }) := by
  induction words generalizing memory cursor with
  | nil => rfl
  | cons word words induction =>
      rw [List.length_cons] at inRow
      have place : rectangle.place cursor = (rectangle.left + cursor, rectangle.top) := by
        rw [Rectangle.place, Nat.mod_eq_of_lt (by omega), Nat.div_eq_of_lt (by omega),
          Nat.zero_mod, Nat.add_zero]
      rw [Rectangle.fill, place, List.mapIdx_cons, induction (by omega)]
      simp only [paint, List.foldl_cons, Nat.add_zero, Nat.add_assoc, Nat.add_comm 1]

/-- A row write on a working connection, with the last column of its window. -/
theorem writeAddressedRow_sends {commands : AddressCommands} {lastColumn : Int}
    {colIdx : UInt16} (works : Works bus)
    (computed : maxColIdx lastColumn write = .ok colIdx) :
    ∃ after, writeAddressedRow commands lastColumn bus write = .ok (.ok, after) ∧
      Sends bus after ((rowCommands commands colIdx write).flatMap Command.writes ++
        [⟨.data, .row write.rowPixels, .ok⟩]) := by
  rcases writeAddressedRow_returns commands bus computed with ⟨result, written⟩
  rcases writeAddressedRow_writes works.succeeds written with
    ⟨sameColIdx, sameComputed, outcome, writes⟩
  cases computed.symm.trans sameComputed
  let addressed := bus.writeCommands [
    ⟨commands.columnAddress, addressBytes write.colIdx colIdx⟩,
    ⟨commands.pageAddress, addressBytes write.rowIdx write.rowIdx⟩]
  have addressedSucceeds : addressed.Succeeds :=
    works.succeeds.of_outcome (SpiBus.writeCommands_outcome _ bus)
  let commanded := addressed.writeCommand ⟨commands.memoryWrite, []⟩
  have command : commanded.1 = .ok ∧ commanded.2.mode = .data ∧ _ :=
    addressedSucceeds.writeCommand ⟨commands.memoryWrite, []⟩
  have commandedSucceeds : commanded.2.Succeeds :=
    addressedSucceeds.of_outcome (addressed.writeCommand_outcome _)
  have pixels := commandedSucceeds.write (.row write.rowPixels)
  have isResult : commanded.2.write (.row write.rowPixels) = result := by
    rw [writeAddressedRow, computed] at written
    have sent : ¬commanded.1 ≠ .ok := not_not.mpr command.1
    simp only [bind, Except.bind, pure, Except.pure] at written
    rw [if_neg sent] at written
    exact Except.ok.inj written
  have mode : result.2.mode = .data := by
    rw [← isResult]
    exact command.2.1
  rw [isResult] at pixels
  refine ⟨result.2, ?_, ⟨works.succeeds.of_outcome outcome, mode⟩, writes⟩
  rw [written, ← pixels.1]

/-- A row write sets the pixels that it covers, if its window reaches over them. -/
theorem rowCommands_paint {colIdx : UInt16}
    (inWindow : write.colIdx.toNat + write.rowPixels.length ≤ colIdx.toNat + 1) (panel : Panel)
    (fbdata : Nat → UInt16) :
    (panel.receiveAll fbdata
      ((rowCommands ⟨columnAddressSet, pageAddressSet, memoryWrite⟩ colIdx write).flatMap
        Command.writes ++ [⟨.data, .row write.rowPixels, .ok⟩])).memory =
      paint panel.memory (covered write) := by
  have awaits := panel.commands_await fbdata [
    ⟨columnAddressSet, addressBytes write.colIdx colIdx⟩,
    ⟨pageAddressSet, addressBytes write.rowIdx write.rowIdx⟩]
  rw [Controller.foldl_execute_addresses] at awaits
  rcases awaits with ⟨awaits, cursor, memory⟩
  have taken := congrArg Panel.memory (awaits.take write.rowPixels)
  dsimp only at taken
  rw [cursor, memory, fill_row] at taken
  · simp only [Nat.zero_add] at taken
    rw [Panel.receiveAll_append]
    exact taken
  · change 0 + write.rowPixels.length ≤ colIdx.toNat + 1 - write.colIdx.toNat
    omega

/-- A row write within the panel succeeds and sets the pixels that it covers. -/
theorem writeRow_shows {driver : DisplayDriver}
    (addressed : ∀ config, driver ≠ .st7735 config) (works : Works bus)
    (within : Within ⟨driver.getWidth, driver.getHeight⟩ write) :
    ∃ after sent, driver.writeRow bus write = .ok (.ok, after) ∧ Sends bus after sent ∧
      ∀ (panel : Panel) (fbdata : Nat → UInt16),
        (panel.receiveAll fbdata sent).memory = paint panel.memory (covered write) := by
  rcases maxColIdx_within within.2.1 within.2.2 with ⟨colIdx, computed, colIdx_eq⟩
  rcases @writeAddressedRow_sends bus write ⟨columnAddressSet, pageAddressSet, memoryWrite⟩ _ _
    works computed with ⟨after, written, sends⟩
  rw [writeRow_eq addressed]
  refine ⟨after, _, written, sends, rowCommands_paint ?_⟩
  omega

/-- Row writes one after another, as long as they succeed. -/
def writeRows (driver : DisplayDriver) (bus : SpiBus) : List RowWrite → Option SpiBus
  | [] => some bus
  | write :: writes =>
      match driver.writeRow bus write with
      | .ok (.ok, after) => driver.writeRows after writes
      | _ => none

theorem writeRows_shows {driver : DisplayDriver}
    (addressed : ∀ config, driver ≠ .st7735 config) {writes : List RowWrite}
    (within : ∀ write ∈ writes, Within ⟨driver.getWidth, driver.getHeight⟩ write)
    (works : Works bus) :
    ∃ after sent, driver.writeRows bus writes = some after ∧ Sends bus after sent ∧
      ∀ (panel : Panel) (fbdata : Nat → UInt16),
        (panel.receiveAll fbdata sent).memory = paint panel.memory (writes.flatMap covered) := by
  induction writes generalizing bus with
  | nil => exact ⟨bus, [], rfl, ⟨works, (List.append_nil _).symm⟩, fun _ _ => rfl⟩
  | cons write writes induction =>
      rw [List.forall_mem_cons] at within
      rcases writeRow_shows addressed works within.1 with ⟨middle, first, written, sends, shown⟩
      rcases induction within.2 sends.works with ⟨after, rest, allWritten, allSent, allShown⟩
      refine ⟨after, first ++ rest, ?_, ⟨allSent.works, ?_⟩, ?_⟩
      · rw [writeRows, written]
        exact allWritten
      · rw [allSent.writes, sends.writes, List.append_assoc]
      · intro panel fbdata
        rw [Panel.receiveAll_append, allShown, shown, List.flatMap_cons, paint_append]

theorem mem_displayPixels {input : Input} {rows : Nat} {pixel : DisplayPixel} :
    pixel ∈ displayPixels input rows ↔
      ∃ row < rows, ∃ column < input.size.width.toNat,
        displayPixel input row column = pixel := by
  simp [displayPixels, rowPart]

/-- The picture of a resize. -/
theorem paint_displayPixels (input : Input) (memory : Nat × Nat → UInt16) {row column : Nat}
    (row_lt : row < input.size.height.toNat) (column_lt : column < input.size.width.toNat) :
    paint memory (displayPixels input input.size.height.toNat) (column, row) =
      shown input row column := by
  rw [paint_eq_updateAll]
  apply updateAll_of_mem
  · have isPixel := mem_displayPixels.mpr ⟨row, row_lt, column, column_lt, rfl⟩
    exact ⟨((column, row), shown input row column), List.mem_map.mpr ⟨_, isPixel, rfl⟩, rfl⟩
  · intro update isUpdate same
    rcases List.mem_map.mp isUpdate with ⟨pixel, isPixel, rfl⟩
    rcases mem_displayPixels.mp isPixel with ⟨otherRow, _, otherColumn, _, rfl⟩
    cases same
    rfl

end Rows

end PigweedExperimental.DisplayDriver
