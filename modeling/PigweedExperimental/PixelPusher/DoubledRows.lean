import PigweedExperimental.PixelPusher.DoubledFrames
import PigweedExperimental.PixelPusher.PixelDoubleProgram

namespace PigweedExperimental.PixelPusher

/-! # The rows of a doubled frame

The transfers of a doubled frame overlap by a row, so that every row is read twice,
and the program sends every pixel twice. A transfer counts units of two pixels,
which leaves out the last pixel of the first and of the last row if the width is odd.
-/

/-- The pixels that a transfer reads, by their places in the buffer. -/
def Transfer.pixelsRead (transfer : Transfer) : List Int :=
  (List.range (transfer.count * transfer.dataSize.pixels).toNat).map fun (pixel : Nat) =>
    transfer.offset + pixel

/-- The pixels of a transfer of words, in pairs, from a buffer with some content. -/
def Transfer.wordsRead (transfer : Transfer) (content : Int → UInt16) : List (UInt16 × UInt16) :=
  (List.range transfer.count.toNat).map fun (word : Nat) =>
    (content (transfer.offset + (2 * word : Nat)), content (transfer.offset + (2 * word + 1 : Nat)))

/-- The places of the first pixels of a row. -/
def rowPixels (framebuffer : Framebuffer) (pixels row : Nat) : List Int :=
  (List.range pixels).map fun (column : Nat) =>
    (framebuffer.size.width.toNat * row : Nat) + (column : Int)

def completeRow (framebuffer : Framebuffer) (row : Nat) : List Int :=
  rowPixels framebuffer framebuffer.size.width.toNat row

/-- Every row twice. -/
def doubledRows (framebuffer : Framebuffer) : List Int :=
  (List.range framebuffer.size.height.toNat).flatMap fun row =>
    completeRow framebuffer row ++ completeRow framebuffer row

/-- The panel receives the framebuffer scaled by two. -/
structure Frame.Scaled (frame : Frame Callback) : Prop where
  pixels : frame.transfers.flatMap Transfer.pixelsRead = doubledRows frame.framebuffer
  panel : ∀ (content : Int → UInt16) (machine : StateMachine), machine.pc = 0 →
    machine.txFifo = (frame.transfers.flatMap fun transfer => transfer.wordsRead content).map
      (fun word => pixelWord word.1 word.2) →
    ∃ steps, (StateMachine.step^[steps] machine).step = StateMachine.step^[steps] machine ∧
      (StateMachine.step^[steps] machine).sent =
        machine.sent ++ (doubledRows frame.framebuffer).flatMap fun place =>
          pixelBits (content place) ++ pixelBits (content place)

section Rows

variable {framebuffer : Framebuffer}

/-- Two runs of every row, from transfers that each end one row and start the next. -/
theorem flatMap_overlapping (row : Nat → List Item) (count : Nat) :
    row 0 ++ (List.range count).flatMap (fun before => row before ++ row (before + 1)) ++
        row count =
      (List.range (count + 1)).flatMap fun index => row index ++ row index := by
  induction count with
  | zero => simp
  | succ count induction =>
      rw [List.range_succ (n := count + 1), List.flatMap_append, ← induction, List.range_succ,
        List.flatMap_append]
      simp

theorem length_rowPixels (framebuffer : Framebuffer) (pixels row : Nat) :
    (rowPixels framebuffer pixels row).length = pixels := by
  rw [rowPixels, List.length_map, List.length_range]

/-- The whole words of a row, which miss its last pixel if the width is odd. -/
def wordsRow (framebuffer : Framebuffer) (row : Nat) : List Int :=
  rowPixels framebuffer (framebuffer.size.width.toNat / 2 * 2) row

theorem wordsRow_of_even (even : 2 ∣ framebuffer.size.width.toNat) (row : Nat) :
    wordsRow framebuffer row = completeRow framebuffer row := by
  rw [wordsRow, completeRow, Nat.div_mul_cancel even]

theorem doubleWidth_toNat (doublable : Doublable framebuffer) :
    (framebuffer.size.width * 2).toNat = framebuffer.size.width.toNat * 2 := by
  have widthSmall := doublable.1.2
  rw [UInt16.toNat_mul]
  change _ * 2 % 65536 = _
  omega

theorem pixelsRead_first (framebuffer : Framebuffer) :
    (scanlineTransfer framebuffer 0).pixelsRead = wordsRow framebuffer 0 := by
  rw [wordsRow, rowPixels, Transfer.pixelsRead]
  dsimp only [scanlineTransfer, DmaSize.pixels]
  rw [if_pos rfl, if_pos rfl, Nat.mul_zero,
    show ((framebuffer.size.width.toNat : Int) * 2 / 4 * 2).toNat =
      framebuffer.size.width.toNat / 2 * 2 by omega]
  rfl

/-- The place at which the transfer of a scanline starts. -/
theorem offset_eq (doublable : Doublable framebuffer) (row : Nat) :
    (scanlineTransfer framebuffer (row + 1)).offset =
      (framebuffer.size.width.toNat * row : Nat) := by
  dsimp only [scanlineTransfer]
  rw [if_neg (Nat.succ_ne_zero row), doubleWidth_toNat doublable,
    Nat.mul_div_cancel _ (by decide), Nat.cast_mul]
  push_cast
  ring

theorem pixelsRead_last (doublable : Doublable framebuffer) {row : Nat}
    (isLast : row + 1 = framebuffer.size.height.toNat) :
    (scanlineTransfer framebuffer (row + 1)).pixelsRead = wordsRow framebuffer row := by
  rw [wordsRow, rowPixels, Transfer.pixelsRead, offset_eq doublable]
  dsimp only [scanlineTransfer, DmaSize.pixels]
  rw [if_neg (Nat.succ_ne_zero row), lastScanline_eq_height doublable.2.2, if_pos isLast,
    doubleWidth_toNat doublable]
  congr 2
  omega

theorem pixelsRead_between (doublable : Doublable framebuffer) {row : Nat}
    (notLast : row + 1 < framebuffer.size.height.toNat) :
    (scanlineTransfer framebuffer (row + 1)).pixelsRead =
      completeRow framebuffer row ++ completeRow framebuffer (row + 1) := by
  rw [completeRow, completeRow, rowPixels, rowPixels, Transfer.pixelsRead, offset_eq doublable]
  dsimp only [scanlineTransfer, DmaSize.pixels]
  rw [if_neg (Nat.succ_ne_zero row), lastScanline_eq_height doublable.2.2,
    if_neg (Nat.ne_of_lt notLast), doubleWidth_toNat doublable,
    Nat.mul_div_cancel _ (by decide)]
  have twoRows : ((framebuffer.size.width.toNat : Int) * 2).toNat =
      framebuffer.size.width.toNat + framebuffer.size.width.toNat := by omega
  rw [twoRows, List.range_add, List.map_append, List.map_map]
  congr 1
  apply List.map_congr_left
  intro column _
  dsimp only [Function.comp_apply]
  push_cast
  ring

/-- Between the first and the last scanline, every transfer reads two rows. -/
theorem pixelsRead_frame (doublable : Doublable framebuffer) {rows : Nat}
    (isHeight : framebuffer.size.height.toNat = rows + 1) :
    (transfersUpTo framebuffer (lastScanline framebuffer)).flatMap Transfer.pixelsRead =
      wordsRow framebuffer 0 ++
        (List.range rows).flatMap (fun row =>
          completeRow framebuffer row ++ completeRow framebuffer (row + 1)) ++
        wordsRow framebuffer rows := by
  rw [lastScanline_eq_height doublable.2.2, isHeight, transfersUpTo, List.flatMap_map,
    List.range_succ, List.flatMap_append, List.flatMap_singleton,
    pixelsRead_last doublable isHeight.symm, List.range_succ_eq_map, List.flatMap_cons,
    pixelsRead_first, List.flatMap_map]
  congr 2
  apply List.flatMap_congr
  intro row inRows
  rw [List.mem_range] at inRows
  exact pixelsRead_between doublable (by omega)

/-- The rows are complete exactly if the width is even. -/
theorem pixelsRead_doubledRows_iff (doublable : Doublable framebuffer) :
    (transfersUpTo framebuffer (lastScanline framebuffer)).flatMap Transfer.pixelsRead =
      doubledRows framebuffer ↔ 2 ∣ framebuffer.size.width.toNat := by
  rcases doublable with ⟨width, someRow, heightSmall⟩
  rcases Nat.exists_eq_add_of_le' someRow with ⟨rows, isHeight⟩
  have doubled : doubledRows framebuffer = completeRow framebuffer 0 ++
      (List.range rows).flatMap (fun row =>
        completeRow framebuffer row ++ completeRow framebuffer (row + 1)) ++
      completeRow framebuffer rows := by
    rw [doubledRows, isHeight, flatMap_overlapping]
  rw [pixelsRead_frame ⟨width, someRow, heightSmall⟩ isHeight, doubled]
  constructor
  · intro same
    have lengths := congrArg List.length same
    simp only [List.length_append, wordsRow, completeRow, length_rowPixels] at lengths
    omega
  · intro even
    rw [wordsRow_of_even even, wordsRow_of_even even]

/-- What is sent for the words of a transfer is what is sent for its pixels. -/
theorem wordsRead_flatMap {transfer : Transfer} (unit : transfer.dataSize = .size32)
    (content : Int → UInt16) (bits : UInt16 → List Bool) :
    (transfer.wordsRead content).flatMap (fun word => bits word.1 ++ bits word.2) =
      transfer.pixelsRead.flatMap fun place => bits (content place) := by
  rw [Transfer.wordsRead, Transfer.pixelsRead, unit, List.flatMap_map, List.flatMap_map]
  dsimp only [DmaSize.pixels]
  have pairs : (transfer.count * 2).toNat = 2 * transfer.count.toNat := by omega
  rw [pairs]
  generalize transfer.count.toNat = words
  induction words with
  | zero => rfl
  | succ words induction =>
      rw [Nat.mul_succ, List.range_succ, List.range_succ, List.range_succ]
      simp only [List.flatMap_append, List.flatMap_singleton, List.append_assoc]
      rw [induction]

/-- A frame of even width is received scaled by two. -/
theorem Frame.Written.scaled {frame : Frame Callback} (written : frame.Written)
    (pixels : frame.transfers.flatMap Transfer.pixelsRead = doubledRows frame.framebuffer) :
    frame.Scaled where
  pixels := pixels
  panel := by
    intro content machine atStart queued
    rcases StateMachine.doubles_words atStart queued with ⟨steps, waits, sent⟩
    refine ⟨steps, waits, ?_⟩
    rw [sent, ← pixels, List.flatMap_assoc, List.flatMap_assoc]
    congr 1
    apply List.flatMap_congr
    intro transfer isTransfer
    rw [written, transfersUpTo, List.mem_map] at isTransfer
    rcases isTransfer with ⟨scanline, _, rfl⟩
    exact wordsRead_flatMap rfl content fun pixel => pixelBits pixel ++ pixelBits pixel

end Rows

/-- In pixel-double mode, a frame that is complete was read row by row, every row
twice and the panel received it scaled by two, exactly if its width is even. -/
theorem doubledFrames_scaled_iff {Callback : Type} {ownChannel : Nat}
    {events : List (Event Callback)} {session : Session Callback}
    (run : (Session.machine Callback).Run (.start (.inDoubleMode ownChannel)) events session)
    (writes : ∀ event ∈ events, event.WritesDoublable)
    (notBusy : session.pusher.dmaIsBusy = false) {frame : Frame Callback}
    (isFrame : frame ∈ session.frames) :
    frame.Scaled ↔ 2 ∣ frame.framebuffer.size.width.toNat := by
  rcases Session.orderly_doubling run writes with ⟨settled | ⟨_, _, _, writing⟩, doubling⟩
  case inr => exact absurd (notBusy.symm.trans writing.dmaIsBusy) Bool.false_ne_true
  have written := settled.written frame isFrame
  have evenIff := pixelsRead_doubledRows_iff (doubling.doublable frame isFrame)
  rw [← written] at evenIff
  constructor
  · intro scaled
    exact evenIff.mp scaled.pixels
  · intro even
    exact written.scaled (evenIff.mpr even)

section Example

/-- One frame from its write to its last interrupt. -/
def oneFrame (framebuffer : Framebuffer) : List (Event Nat) :=
  [.writeFramebuffer framebuffer 7, .transferDone, .interrupt, .transferDone, .interrupt]

theorem oneFrame_writesDoublable {framebuffer : Framebuffer} (doublable : Doublable framebuffer) :
    ∀ event ∈ oneFrame framebuffer, event.WritesDoublable := by
  simp [oneFrame, Event.WritesDoublable, doublable]

def evenRow : Framebuffer := ⟨16, .rgb565, ⟨2, 1⟩, 4⟩

def oddRow : Framebuffer := ⟨16, .rgb565, ⟨3, 1⟩, 6⟩

theorem doubledFrames_scaled_iff_evenRow :
    ∃ session : Session Nat,
      (Session.machine Nat).Run (.start (.inDoubleMode 3)) (oneFrame evenRow) session ∧
      ∃ frame ∈ session.frames, frame.framebuffer = evenRow ∧
        (frame.Scaled ↔ 2 ∣ frame.framebuffer.size.width.toNat) := by
  have run := @Machine.Run.of_execute _ _ (Session.machine Nat)
    (.start (.inDoubleMode 3)) _ (oneFrame evenRow) _ rfl
  exact ⟨_, run, _, List.mem_cons_self, rfl, doubledFrames_scaled_iff run
    (oneFrame_writesDoublable (by decide)) rfl List.mem_cons_self⟩

/-- The third pixel of the only row is read in neither of its transfers. -/
theorem oddRow_notScaled :
    ¬(∀ (ownChannel : Nat) (events : List (Event Nat)) (session : Session Nat),
      (Session.machine Nat).Run (.start (.inDoubleMode ownChannel)) events session →
      (∀ event ∈ events, event.WritesDoublable) → session.pusher.dmaIsBusy = false →
      ∀ frame ∈ session.frames, frame.Scaled) := by
  intro all
  have run := @Machine.Run.of_execute _ _ (Session.machine Nat)
    (.start (.inDoubleMode 3)) _ (oneFrame oddRow) _ rfl
  have scaled := all 3 (oneFrame oddRow) _ run (oneFrame_writesDoublable (by decide)) rfl _
    List.mem_cons_self
  have pixels : ([0, 1] ++ [0, 1] : List Int) = [0, 1, 2] ++ [0, 1, 2] := scaled.pixels
  revert pixels
  decide

end Example

end PigweedExperimental.PixelPusher
