import PigweedExperimental.Foundation.Execution
import PigweedExperimental.MipiDsi.FramebufferDevice

namespace PigweedExperimental.MipiDsi

/-! # The device's flag and the controller's layer

`enabled_` is what `Enable`, `Disable` and `InitVideoMemPool` know about the
layer. It is compared with the calls that reach the controller.
-/

/-- A layer is on from a successful `enableLayer` to the next `disableLayer`. -/
def LayerCall.layerAfter (on : Bool) : LayerCall → Bool
  | .enableLayer answer => on || answer = .success
  | .disableLayer _ => false

inductive LayerOperation where
  | enable (answer : McuxStatus)
  | disable (answer : McuxStatus)
  deriving DecidableEq, Repr

/-- A device and the calls it has made, in their order. -/
structure LayerUse (Callback : Type u) where
  device : FramebufferDevice Callback
  calls : List LayerCall
  deriving DecidableEq

namespace LayerUse

variable {Callback : Type u}

def layerOn (use : LayerUse Callback) : Bool := use.calls.foldl LayerCall.layerAfter false

def step (use : LayerUse Callback) : LayerOperation → LayerUse Callback
  | .enable answer =>
      let (device, _, calls) := use.device.enable false answer
      { device, calls := use.calls ++ calls }
  | .disable answer =>
      let (device, _, calls) := use.device.disable answer
      { device, calls := use.calls ++ calls }

/-- Both operations may be called at any time. No framebuffer is reserved. -/
def machine : Machine (LayerUse Callback) LayerOperation where
  Enabled := fun _ _ => True
  step := fun use operation => some (use.step operation)

/-- The flag is the state of the layer, and the three functions that read it
do what that state asks for. -/
structure Mirrors (use : LayerUse Callback) : Prop where
  enabled_iff : use.device.enabled = true ↔ use.layerOn = true
  disables : use.layerOn = true → ∀ answer,
    (use.device.disable answer).2.2 = [.disableLayer answer]
  enablesOnce : use.layerOn = true → ∀ answer, (use.device.enable false answer).2.2 = []
  refuses : use.layerOn = true → ∀ buffers,
    use.device.initVideoMemPool buffers = (use.device, .failedPrecondition)

theorem mirrors_iff {use : LayerUse Callback} :
    use.Mirrors ↔ use.device.enabled = use.layerOn := by
  constructor
  · intro mirrors
    exact Bool.eq_iff_iff.mpr mirrors.enabled_iff
  · intro same
    refine ⟨Bool.eq_iff_iff.mp same, ?_, ?_, ?_⟩
    · intro on answer
      rw [FramebufferDevice.disable, same, on]
      rfl
    · intro on answer
      rw [FramebufferDevice.enable, same, on]
      rfl
    · intro on buffers
      rw [FramebufferDevice.initVideoMemPool, same, on]
      rfl

section Step

variable {use : LayerUse Callback} (notEnabled : use.device.enabled = false)

include notEnabled

/-- The `Enable` that fails sets the flag. -/
theorem step_enable (answer : McuxStatus) :
    use.step (.enable answer) = {
      device := { use.device with enabled := decide (answer ≠ .success) }
      calls := use.calls ++ [.enableLayer answer] } := by
  rw [step, FramebufferDevice.enable, if_neg (by rw [notEnabled]; decide), if_neg (by decide)]
  by_cases failed : answer ≠ .success
  · rw [if_pos failed, decide_eq_true failed]
  · rw [if_neg failed, decide_eq_false failed, ← notEnabled]

theorem layerOn_enable (answer : McuxStatus) :
    (use.step (.enable answer)).layerOn = (use.layerOn || decide (answer = .success)) := by
  rw [step_enable notEnabled, layerOn, List.foldl_append]
  rfl

theorem step_disable (answer : McuxStatus) : use.step (.disable answer) = use := by
  rw [step, FramebufferDevice.disable, if_pos (by rw [notEnabled]; rfl)]
  change { device := use.device, calls := use.calls ++ [] } = use
  rw [List.append_nil]

/-- No `Enable` leaves a flag that mirrors the layer, whatever its outcome. -/
theorem mirrors_step_iff (mirrors : use.Mirrors) (operation : LayerOperation) :
    (use.step operation).Mirrors ↔ ∀ answer, operation ≠ .enable answer := by
  cases operation with
  | enable answer =>
      have off : use.layerOn = false := by rw [← mirrors_iff.mp mirrors, notEnabled]
      rw [mirrors_iff, layerOn_enable notEnabled, step_enable notEnabled, off]
      apply iff_of_false
      · by_cases succeeded : answer = .success <;> simp [succeeded]
      · intro never
        exact never answer rfl
  | disable answer =>
      rw [step_disable notEnabled]
      exact iff_of_true mirrors nofun

end Step

theorem init_notEnabled {device : FramebufferDevice Callback} {dc : Address}
    {buffers : List Address} {calls : InitCalls} {status : Status}
    (initialised : FramebufferDevice.fresh.init dc buffers calls = some (device, status)) :
    device.enabled = false := by
  rw [(FramebufferDevice.init_eq_some rfl initialised).2]
  split <;> rfl

/-- After `Init` the flag mirrors the layer throughout a run exactly if `Enable`
is never called in it. -/
theorem mirrors_throughout_iff {device : FramebufferDevice Callback} {dc : Address}
    {buffers : List Address} {calls : InitCalls}
    (initialised : FramebufferDevice.fresh.init dc buffers calls = some (device, .ok))
    {operations : List LayerOperation} {last : LayerUse Callback}
    (run : machine.Run ⟨device, []⟩ operations last) :
    machine.Throughout Mirrors ⟨device, []⟩ operations ↔
      ∀ operation ∈ operations, ∀ answer, operation ≠ .enable answer := by
  have notEnabled := init_notEnabled initialised
  rw [← @Machine.Run.everyStep_iff_forall _ _ machine _ _ _
    (fun operation => ∀ answer, operation ≠ LayerOperation.enable answer) run]
  apply run.throughout_iff_everyStep fun use => use.device.enabled = false
  case preserved =>
    intro use operation next off _ noEnable _ step
    cases step
    cases operation with
    | enable answer => exact absurd rfl (noEnable answer)
    | disable answer =>
        rw [step_disable off]
        exact off
  case exactStep =>
    intro use operation next off mirrors _ step
    cases step
    exact mirrors_step_iff off mirrors operation
  case initialAuxiliary => exact notEnabled
  case initially => exact mirrors_iff.mpr notEnabled

/-- A device without buffers, with its controller up. -/
def initialised : FramebufferDevice Unit :=
  { FramebufferDevice.fresh with dc := 1, framebufferSemaphore := 1 }

/-- An `Enable` between two `Disable`s is one too many. -/
theorem mirrors_throughout_iff_enabledBetween :
    ¬machine.Throughout Mirrors ⟨initialised, []⟩
      [.disable .fail, .enable .success, .disable .success] := by
  intro mirrors
  have neverEnabled := (@mirrors_throughout_iff Unit initialised 1 []
    ⟨.success, .success, .success⟩ rfl _ _
    (.cons trivial rfl (.cons trivial rfl (.single trivial rfl)))).mp mirrors
  exact neverEnabled (.enable .success) (by decide) .success rfl

/-- Enabled with success, the device is not disabled again. -/
theorem enable_notDisabled :
    ¬∀ (device : FramebufferDevice Unit) (dc : Address) (buffers : List Address)
      (calls : InitCalls),
      FramebufferDevice.fresh.init dc buffers calls = some (device, .ok) →
      ∀ (operations : List LayerOperation) (last : LayerUse Unit),
        machine.Run ⟨device, []⟩ operations last →
        machine.Throughout Mirrors ⟨device, []⟩ operations := by
  intro always
  have throughout := always initialised 1 [] ⟨.success, .success, .success⟩ rfl
    [.enable .success] _ (.single trivial rfl)
  have disables := (throughout.2 _ rfl).initially.disables rfl .success
  revert disables
  decide

end LayerUse

end PigweedExperimental.MipiDsi
