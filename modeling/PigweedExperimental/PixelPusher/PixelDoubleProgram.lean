import PigweedExperimental.PixelPusher.PixelPusher
import Mathlib.Algebra.Order.Ring.Int
import Mathlib.Logic.Function.Iterate

namespace PigweedExperimental.PixelPusher

/-! # The program that doubles pixels

`st7789_pixel_double` runs on a state machine of the PIO. It takes words of two
pixels from the queue that the DMA channel fills, and sends each of their pixels
twice, bit by bit: a bit is on the pin while the clock of the panel rises.
-/

inductive Register where
  | x
  | y
  | osr
  deriving DecidableEq, Repr

inductive OutDestination where
  | pins
  | y
  | null
  deriving DecidableEq, Repr

/-- The instructions of the program. What they set the clock to is left out. -/
inductive Instruction where
  | pullBlock
  | mov (destination source : Register)
  | out (destination : OutDestination) (bitCount : Nat)
  | jmpNotOsre (target : Nat)
  deriving DecidableEq, Repr

def st7789PixelDoubleProgram : Array Instruction := #[
  .pullBlock,
  .mov .x .osr,
  .out .y 16,
  .out .pins 1,
  .jmpNotOsre 3,
  .mov .osr .x,
  .out .null 16,
  .out .pins 1,
  .jmpNotOsre 7,
  .mov .osr .y,
  .out .null 16,
  .out .pins 1,
  .jmpNotOsre 11,
  .mov .osr .y,
  .out .null 16,
  .out .pins 1,
  .jmpNotOsre 15]

def st7789PixelDoubleWrapTarget : Nat := 0

def st7789PixelDoubleWrap : Nat := 16

/-- A state machine with the words that are still to come and the bits that it has
sent. A cleared threshold stands for all 32 bits. -/
structure StateMachine where
  pc : Nat
  x : BitVec 32
  y : BitVec 32
  osr : BitVec 32
  shiftCount : Nat
  txFifo : List (BitVec 32)
  sent : List Bool
  deriving DecidableEq

namespace StateMachine

def register (machine : StateMachine) : Register → BitVec 32
  | .x => machine.x
  | .y => machine.y
  | .osr => machine.osr

/-- Where the program goes on if it does not jump. -/
def nextPc (pc : Nat) : Nat :=
  if pc = st7789PixelDoubleWrap then st7789PixelDoubleWrapTarget else pc + 1

def next (machine : StateMachine) : StateMachine := { machine with pc := nextPc machine.pc }

/-- The register shifts to the left, so bits leave it from its upper end. -/
def shiftOut (machine : StateMachine) (bitCount : Nat) : StateMachine :=
  { machine with
    osr := machine.osr <<< bitCount
    shiftCount := min 32 (machine.shiftCount + bitCount) }

def execute (machine : StateMachine) : Instruction → StateMachine
  | .pullBlock =>
      match machine.txFifo with
      | [] => machine
      | word :: txFifo => { machine with osr := word, shiftCount := 0, txFifo }.next
  | .mov destination source =>
      let value := machine.register source
      match destination with
      | .x => { machine with x := value }.next
      | .y => { machine with y := value }.next
      | .osr => { machine with osr := value, shiftCount := 0 }.next
  | .out destination bitCount =>
      let shifted := machine.shiftOut bitCount
      match destination with
      | .pins =>
          { shifted with
            sent := machine.sent ++ (List.range bitCount).map machine.osr.getMsbD }.next
      | .y => { shifted with y := machine.osr >>> (32 - bitCount) }.next
      | .null => shifted.next
  | .jmpNotOsre target =>
      if machine.shiftCount < 32 then { machine with pc := target } else machine.next

def step (machine : StateMachine) : StateMachine :=
  match st7789PixelDoubleProgram[machine.pc]? with
  | some instruction => machine.execute instruction
  | none => machine

end StateMachine

/-- The bits of a pixel, in the order in which the panel takes them. -/
def pixelBits (pixel : UInt16) : List Bool := (List.range 16).map pixel.toBitVec.getMsbD

/-- Two pixels that are next to each other in memory, read as one word. -/
def pixelWord (first second : UInt16) : BitVec 32 := second.toBitVec ++ first.toBitVec

namespace StateMachine

variable {machine : StateMachine}

theorem step_eq {instruction : Instruction}
    (fetched : st7789PixelDoubleProgram[machine.pc]? = some instruction) :
    machine.step = machine.execute instruction := by
  rw [step, fetched]

/-- One round of a loop that sends what is left of the register. -/
theorem step_out {start : Nat} (out : st7789PixelDoubleProgram[start]? = some (.out .pins 1))
    (notWrap : start ≠ st7789PixelDoubleWrap) (atStart : machine.pc = start) :
    machine.step =
      { machine with
        pc := start + 1
        osr := machine.osr <<< 1
        shiftCount := min 32 (machine.shiftCount + 1)
        sent := machine.sent ++ [machine.osr.getMsbD 0] } := by
  rw [step_eq (atStart.symm ▸ out), execute]
  dsimp only [shiftOut, next]
  rw [atStart, nextPc, if_neg notWrap]
  rfl

theorem upperBits_succ (osr : BitVec 32) (count : Nat) :
    (List.range (count + 1)).map osr.getMsbD =
      osr.getMsbD 0 :: (List.range count).map (osr <<< 1).getMsbD := by
  rw [List.range_succ_eq_map, List.map_cons, List.map_map]
  congr 2
  funext i
  rw [BitVec.getMsbD_shiftLeft]
  rfl

/-- A loop sends what is left of the register, and goes on behind itself. -/
theorem sends_rest {start count : Nat}
    (out : st7789PixelDoubleProgram[start]? = some (.out .pins 1))
    (jmp : st7789PixelDoubleProgram[start + 1]? = some (.jmpNotOsre start))
    (notWrap : start ≠ st7789PixelDoubleWrap) (atStart : machine.pc = start)
    (left : machine.shiftCount + (count + 1) = 32) :
    step^[2 * (count + 1)] machine =
      { machine with
        pc := start + 1
        osr := machine.osr <<< (count + 1)
        shiftCount := 32
        sent := machine.sent ++ (List.range (count + 1)).map machine.osr.getMsbD }.next := by
  induction count generalizing machine with
  | zero =>
      rw [Function.iterate_succ_apply, Function.iterate_one, step_out out notWrap atStart,
        step_eq jmp, execute, if_neg (by dsimp only; omega)]
      rw [left]
      rfl
  | succ count induction =>
      have again : machine.step.step =
          { machine with
            pc := start
            osr := machine.osr <<< 1
            shiftCount := machine.shiftCount + 1
            sent := machine.sent ++ [machine.osr.getMsbD 0] } := by
        rw [step_out out notWrap atStart, step_eq jmp, execute, if_pos (by dsimp only; omega)]
        rw [Nat.min_eq_right (by omega)]
      rw [Nat.mul_succ 2 (count + 1), Function.iterate_add_apply, Function.iterate_succ_apply,
        Function.iterate_one, again, induction rfl (by dsimp only; omega)]
      dsimp only
      rw [← BitVec.shiftLeft_add, Nat.add_comm 1 (count + 1),
        upperBits_succ machine.osr (count + 1), List.append_assoc, List.singleton_append]

/-- The lower half of a value. -/
def lowerBits (value : BitVec 32) : List Bool := (List.range 16).map (value <<< 16).getMsbD

/-- What a part of the program does: it sends bits, and changes no saved value. -/
structure Sends (before after : StateMachine) (pc : Nat) (bits : List Bool) : Prop where
  pc_eq : after.pc = pc
  x_eq : after.x = before.x
  y_eq : after.y = before.y
  txFifo_eq : after.txFifo = before.txFifo
  sent_eq : after.sent = before.sent ++ bits

/-- A saved value is taken up again, and its lower half sent. -/
theorem sends_saved {start : Nat} {source : Register}
    (mov : st7789PixelDoubleProgram[start]? = some (.mov .osr source))
    (drop : st7789PixelDoubleProgram[start + 1]? = some (.out .null 16))
    (out : st7789PixelDoubleProgram[start + 2]? = some (.out .pins 1))
    (jmp : st7789PixelDoubleProgram[start + 3]? = some (.jmpNotOsre (start + 2)))
    (early : start + 2 < st7789PixelDoubleWrap) (atStart : machine.pc = start) :
    Sends machine (step^[34] machine) (nextPc (start + 3))
      (lowerBits (machine.register source)) := by
  have moved : machine.step =
      { machine with pc := start + 1, osr := machine.register source, shiftCount := 0 } := by
    rw [step_eq (atStart.symm ▸ mov), execute]
    dsimp only [next]
    rw [atStart, nextPc, if_neg (by omega)]
  have taken : step^[2] machine =
      { machine with
        pc := start + 2
        osr := machine.register source <<< 16
        shiftCount := 16 } := by
    change machine.step.step = _
    rw [moved, step_eq drop, execute]
    dsimp only [next, shiftOut]
    rw [nextPc, if_neg (by omega)]
    rfl
  rw [show 34 = 2 * (15 + 1) + 2 from rfl, Function.iterate_add_apply, taken,
    sends_rest out jmp (by omega) rfl rfl]
  exact ⟨rfl, rfl, rfl, rfl, rfl⟩

/-- A word is saved in its two halves, and its lower half sent. -/
theorem sends_word {word : BitVec 32} {later : List (BitVec 32)} (atStart : machine.pc = 0)
    (queued : machine.txFifo = word :: later) :
    Sends { machine with x := word, y := word >>> 16, txFifo := later } (step^[35] machine) 5
      (lowerBits word) := by
  have pulled : machine.step =
      { machine with pc := 1, osr := word, shiftCount := 0, txFifo := later } := by
    rw [step_eq (show _ = some Instruction.pullBlock by rw [atStart]; rfl), execute, queued]
    dsimp only [next]
    rw [atStart]
    rfl
  have saved : step^[3] machine =
      { machine with
        pc := 3
        x := word
        y := word >>> 16
        osr := word <<< 16
        shiftCount := 16
        txFifo := later } := by
    change machine.step.step.step = _
    rw [pulled]
    rfl
  rw [show 35 = 2 * (15 + 1) + 3 from rfl, Function.iterate_add_apply, saved,
    @sends_rest _ 3 15 rfl rfl (by decide) rfl rfl]
  exact ⟨rfl, rfl, rfl, rfl, rfl⟩

theorem lowerBits_pixelWord (first second : UInt16) :
    lowerBits (pixelWord first second) = pixelBits first := by
  rw [lowerBits, pixelBits]
  apply List.map_congr_left
  intro i inPixel
  rw [BitVec.getMsbD_shiftLeft, pixelWord, BitVec.getMsbD_append, if_pos (by omega),
    Nat.add_sub_cancel]

theorem lowerBits_upperHalf (first second : UInt16) :
    lowerBits (pixelWord first second >>> 16) = pixelBits second := by
  rw [lowerBits, pixelBits]
  apply List.map_congr_left
  intro i inPixel
  rw [List.mem_range] at inPixel
  rw [BitVec.getMsbD_shiftLeft, BitVec.getMsbD_ushiftRight, pixelWord, BitVec.getMsbD_append,
    Nat.add_sub_cancel, if_neg (by omega), decide_eq_true (by omega), decide_eq_false (by omega)]
  rfl

/-- Each pixel of a word is sent twice. -/
theorem doubles_word {first second : UInt16} {later : List (BitVec 32)} (atStart : machine.pc = 0)
    (queued : machine.txFifo = pixelWord first second :: later) :
    (step^[137] machine).pc = 0 ∧ (step^[137] machine).txFifo = later ∧
      (step^[137] machine).sent = machine.sent ++ (pixelBits first ++ pixelBits first ++
        (pixelBits second ++ pixelBits second)) := by
  have firstOnce := sends_word atStart queued
  have firstAgain := @sends_saved _ 5 .x rfl rfl rfl rfl (by decide) firstOnce.pc_eq
  have secondOnce := @sends_saved _ 9 .y rfl rfl rfl rfl (by decide) firstAgain.pc_eq
  have secondAgain := @sends_saved _ 13 .y rfl rfl rfl rfl (by decide) secondOnce.pc_eq
  rw [show 137 = 34 + (34 + (34 + 35)) from rfl, Function.iterate_add_apply,
    Function.iterate_add_apply, Function.iterate_add_apply]
  refine ⟨secondAgain.pc_eq, ?_, ?_⟩
  · rw [secondAgain.txFifo_eq, secondOnce.txFifo_eq, firstAgain.txFifo_eq, firstOnce.txFifo_eq]
  · rw [secondAgain.sent_eq, secondOnce.sent_eq, firstAgain.sent_eq, firstOnce.sent_eq]
    dsimp only [register]
    rw [secondOnce.y_eq, firstAgain.y_eq, firstOnce.y_eq, firstOnce.x_eq]
    dsimp only
    rw [lowerBits_pixelWord, lowerBits_upperHalf]
    simp only [List.append_assoc]

/-- Without a word, the program waits. -/
theorem waits (atStart : machine.pc = 0) (empty : machine.txFifo = []) :
    machine.step = machine := by
  rw [step_eq (show _ = some Instruction.pullBlock by rw [atStart]; rfl), execute, empty]

/-- Every pixel that is queued is sent twice, and then the program waits. -/
theorem doubles_words {words : List (UInt16 × UInt16)} (atStart : machine.pc = 0)
    (queued : machine.txFifo = words.map fun word => pixelWord word.1 word.2) :
    ∃ steps, (step^[steps] machine).step = step^[steps] machine ∧
      (step^[steps] machine).sent = machine.sent ++ words.flatMap fun word =>
        pixelBits word.1 ++ pixelBits word.1 ++ (pixelBits word.2 ++ pixelBits word.2) := by
  induction words generalizing machine with
  | nil => exact ⟨0, waits atStart queued, (List.append_nil _).symm⟩
  | cons word words induction =>
      rcases doubles_word atStart queued with ⟨atEnd, rest, sent⟩
      rcases induction atEnd rest with ⟨steps, waiting, sentAll⟩
      refine ⟨steps + 137, ?_, ?_⟩
      · rw [Function.iterate_add_apply]
        exact waiting
      · rw [Function.iterate_add_apply, sentAll, sent, List.append_assoc, List.flatMap_cons]

end StateMachine

end PigweedExperimental.PixelPusher
