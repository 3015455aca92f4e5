import PigweedExperimental.Foundation.PartialRun
import PigweedExperimental.Terminal.DecoderBuffers
import PigweedExperimental.Terminal.LogMessages

namespace PigweedExperimental.Terminal

/-! # The log on the device

With its fixed buffers the decoder does what it would do without limits, for as long
as it does anything. Whether it gets through a log is a question about the control
sequences in it: `buffered_chars_` keeps them all.
-/

namespace Limits

variable (limits : Limits)

@[simp] theorem pushBack_refines (vector : List α) (value : α) :
    Refines (limits.pushBack vector value) (unlimited.pushBack vector value) := by
  rw [pushBack_unlimited, pushBack]
  split <;> simp

@[simp] theorem int_refines (value : Int) :
    Refines (limits.int value) (unlimited.int value) := by
  rw [int_unlimited, int]
  split <;> simp

end Limits

section Refinement

variable (limits : Limits)

theorem AnsiDecoder.pushParam_refines (decoder : AnsiDecoder) :
    Refines (decoder.pushParam limits) (decoder.pushParam .unlimited) := by
  rw [pushParam, pushParam]
  exact (limits.pushBack_refines _ _).bind fun _ => Refines.refl _

theorem AnsiDecoder.processChar_refines (decoder : AnsiDecoder) (c : UInt8) :
    Refines (decoder.processChar limits c) (decoder.processChar .unlimited c) := by
  rw [processChar, processChar]
  have pushed := limits.pushBack_refines decoder.bufferedChars c
  cases decoder.state with
  | normal =>
      dsimp only
      split
      · exact pushed.bind fun _ => Refines.refl _
      · exact Refines.refl _
  | escape => exact pushed.bind fun _ => Refines.refl _
  | csi =>
      apply pushed.bind
      intro bufferedChars
      dsimp only
      split
      · apply (limits.int_refines _).bind
        intro scaled
        exact (limits.int_refines _).bind fun _ => Refines.refl _
      · split
        · exact (pushParam_refines limits _).bind fun _ => Refines.refl _
        · exact (pushParam_refines limits _).bind fun _ => Refines.refl _

namespace DemoDecoder

theorem processChar_refines (demo : DemoDecoder) (c : UInt8) :
    Refines (demo.processChar limits c) (demo.processChar .unlimited c) :=
  (demo.decoder.processChar_refines limits c).bind fun _ => Refines.refl _

theorem handle_decoder {demo next : DemoDecoder} {output : Output}
    (handled : demo.handle output = some next) : next.decoder = demo.decoder := by
  cases output with
  | setFgColor color =>
      cases handled
      rfl
  | setBgColor color =>
      cases handled
      rfl
  | emitChar c =>
      rcases Option.bind_eq_some_iff.mp handled with ⟨logTextBuffer, _, isNext⟩
      cases isNext
      rfl

theorem foldlM_handle_decoder {demo next : DemoDecoder} {outputs : List Output}
    (handled : outputs.foldlM handle demo = some next) : next.decoder = demo.decoder := by
  induction outputs generalizing demo with
  | nil =>
      cases handled
      rfl
  | cons output outputs induction =>
      rw [List.foldlM_cons] at handled
      rcases Option.bind_eq_some_iff.mp handled with ⟨middle, first, rest⟩
      rw [induction rest, handle_decoder first]

/-- The application gets through a text exactly when its decoder does. -/
theorem foldlM_processChar_isSome_iff {demo last : DemoDecoder} {text : List UInt8}
    (processed : text.foldlM (processChar .unlimited) demo = some last) :
    (text.foldlM (processChar limits) demo).isSome ↔
      (demo.decoder.decode limits text).isSome := by
  induction text generalizing demo with
  | nil => simp [AnsiDecoder.decode]
  | cons c text induction =>
      rw [List.foldlM_cons] at processed ⊢
      rcases Option.bind_eq_some_iff.mp processed with ⟨middle, first, rest⟩
      have demoRefines := demo.processChar_refines limits c
      have decoderRefines := demo.decoder.processChar_refines limits c
      cases decoded : demo.decoder.processChar limits c with
      | none => simp [processChar, AnsiDecoder.decode, decoded]
      | some result =>
          have unlimited := decoderRefines result decoded
          have handled : result.2.foldlM handle { demo with decoder := result.1 } =
              some middle := by
            rw [processChar, unlimited] at first
            exact first
          have sameStep : demo.processChar limits c = some middle := by
            rw [processChar, decoded]
            exact handled
          have sameDecoder : middle.decoder = result.1 := foldlM_handle_decoder handled
          rw [AnsiDecoder.decode_cons text decoded, Option.isSome_map, ← sameDecoder,
            ← induction rest, sameStep]
          rfl

end DemoDecoder

end Refinement

/-- Where no escape is rejected, it does not matter where the scanner would go on. -/
theorem scanFrom_eq_of_noneRejected {resume mode : ScanMode} {text : List UInt8}
    (noneRejected : NoneRejected (scanFrom .normal mode text)) :
    scanFrom resume mode text = scanFrom .normal mode text := by
  induction text generalizing mode with
  | nil => rfl
  | cons c text induction =>
      rw [scanFrom, noneRejected_append] at noneRejected
      have sameStep : ScanMode.step resume mode c = ScanMode.step .normal mode c := by
        cases mode with
        | normal => rfl
        | csi held => rfl
        | escape held =>
            by_cases isCsi : c = kCsiChar
            · rw [isCsi]
              rfl
            · rw [ScanMode.step_escape_rejected isCsi] at noneRejected
              cases noneRejected.1 _ List.mem_cons_self
      rw [scanFrom, scanFrom, sameStep, induction noneRejected.2]

/-- How many characters of tokens are held back at some time. -/
def controlLength (tokens : List Token) : Nat := (tokens.map Token.heldLength).sum

theorem fits_iff_of_noneRejected {capacity held : Nat} {tokens : List Token}
    (bound : held ≤ capacity) (noneRejected : NoneRejected tokens) :
    Fits capacity held tokens ↔ held + controlLength tokens ≤ capacity := by
  induction tokens generalizing held with
  | nil => exact iff_of_true trivial bound
  | cons token tokens induction =>
      rcases List.forall_mem_cons.mp noneRejected with ⟨notRejected, rest⟩
      have after : token.heldAfter held = held + token.heldLength := by
        cases token with
        | rejected => cases notRejected
        | char => rfl
        | control => rfl
        | unfinished => rfl
      rw [Fits, after, controlLength, List.map_cons, List.sum_cons, ← Nat.add_assoc]
      by_cases room : held + token.heldLength ≤ capacity
      · rw [induction room rest, and_iff_right room]
        rfl
      · apply iff_of_false
        · intro both
          exact room both.1
        · omega

/-- The characters that the decoder gets for messages. -/
def logText (logs : List (List UInt8)) : List UInt8 :=
  logs.flatMap fun log => log ++ [kNewline]

namespace DemoDecoder

theorem logAll_eq_foldlM (limits : Limits) (demo : DemoDecoder) (logs : List (List UInt8)) :
    demo.logAll limits logs = (logText logs).foldlM (processChar limits) demo := by
  induction logs generalizing demo with
  | nil => rfl
  | cons log logs induction =>
      rw [logText, List.flatMap_cons, List.foldlM_append]
      have called : demo.logCallback limits log =
          (log ++ [kNewline]).foldlM (processChar limits) demo := by
        rw [logCallback, List.foldlM_append]
        simp
      rw [logAll, List.foldlM_cons, called]
      congr 1
      funext next
      exact induction next

/-- What the device makes of messages: it stops when their control sequences have more
than ten characters in all, and otherwise draws what the text shows. -/
theorem logAll_device {logs : List (List UInt8)}
    (noneRejected : NoneRejected (scan (logText logs))) :
    ((fresh.logAll .device logs).isSome ↔ controlLength (scan (logText logs)) ≤ 10) ∧
      ∀ demo ∈ fresh.logAll .device logs,
        Draws (colored [] (scan (logText logs))) demo := by
  rcases fresh_collects.processText noneRejected with ⟨decoder, _, processed⟩
  rcases TextBuffer.drawAll_fresh_shows (colored [] (scan (logText logs))) with
    ⟨_, _, buffer, _, drawn, _⟩
  have start : fresh = .afterParameters .fresh [] .fresh := rfl
  have unlimited := processed [] .fresh
  rw [← start, show scanFrom .normal .normal (logText logs) = scan (logText logs) from rfl, drawn,
    Option.map_some] at unlimited
  rw [logAll_eq_foldlM]
  constructor
  · rw [foldlM_processChar_isSome_iff .device unlimited]
    apply (fresh_follows.decode_isSome_iff (Nat.zero_le 10) (logText logs)).trans
    rw [scanFrom_eq_of_noneRejected noneRejected]
    apply (fits_iff_of_noneRejected (Nat.zero_le 10) noneRejected).trans
    rw [Nat.zero_add]
  · intro demo isDemo
    have refines := Refines.foldlM (processChar_refines .device) fresh (logText logs)
    cases (refines demo isDemo).symm.trans unlimited
    exact drawn

end DemoDecoder

end PigweedExperimental.Terminal
