import PigweedExperimental.MipiDsi.FramebufferDevice

namespace PigweedExperimental.MipiDsi.FramebufferDevice

/-! # An `Init` that fails

`Init` notes the controller before the calls that may fail, and returns early
from each of them. The controller stays noted, so the assertion at the start of
`InitDisplayController` stops the next attempt.
-/

variable {Callback : Type u} {device next : FramebufferDevice Callback} {dc : Address}
  {buffers : List Address} {calls : InitCalls} {status : Status}

/-- What a failed attempt is to leave as it was. -/
def Restored (device next : FramebufferDevice Callback) : Prop :=
  next.dc = device.dc ∧ next.videoMempool = device.videoMempool ∧
    next.framebufferSemaphore = device.framebufferSemaphore

/-- A controller is noted only where none was, and only one that is there. -/
theorem initDisplayController_dc
    (initialised : device.initDisplayController dc calls = some (next, status)) :
    device.dc = nullptr ∧ dc ≠ nullptr := by
  rw [initDisplayController] at initialised
  split at initialised
  case isTrue noted => cases initialised
  case isFalse free =>
    dsimp only at initialised
    split at initialised
    case isTrue absent => cases initialised
    case isFalse present => exact ⟨Decidable.not_not.mp free, present⟩

theorem initVideoMemPool_failed (failed : (device.initVideoMemPool buffers).2 ≠ .ok) :
    (device.initVideoMemPool buffers).1 = device := by
  rw [initVideoMemPool] at failed ⊢
  split
  case isTrue enabled => rfl
  case isFalse notEnabled =>
    rw [if_neg notEnabled] at failed
    exact absurd rfl failed

/-- Wherever `Init` fails, in the controller or for the pool, only the controller
has changed. -/
theorem init_failed (initialised : device.init dc buffers calls = some (next, status))
    (failed : status ≠ .ok) :
    next = { device with dc } ∧ device.dc = nullptr ∧ dc ≠ nullptr := by
  simp only [init, Option.bind_eq_bind, Option.bind_eq_some_iff] at initialised
  rcases initialised with ⟨⟨middle, controllerStatus⟩, controller, rest⟩
  rcases initDisplayController_eq_some controller with ⟨rfl, _⟩
  have noted := initDisplayController_dc controller
  split at rest
  case isTrue controllerFailed =>
    cases rest
    exact ⟨rfl, noted⟩
  case isFalse controllerUp =>
    split at rest
    case isTrue poolFailed =>
      cases rest
      exact ⟨initVideoMemPool_failed poolFailed, noted⟩
    case isFalse filled =>
      cases rest
      exact absurd rfl failed

theorem init_eq_none (noted : device.dc ≠ nullptr) : device.init dc buffers calls = none := by
  rw [init, initDisplayController, if_pos noted]
  rfl

/-- The way back is `Close`, on a controller that did not come up. -/
theorem close_restores (initialised : device.init dc buffers calls = some (next, status))
    (failed : status ≠ .ok) (deinit : McuxStatus) : (next.close deinit).1 = device := by
  rcases init_failed initialised failed with ⟨rfl, free, present⟩
  rw [close, if_neg present, ← free]

/-- No failed `Init` restores the device: pool and semaphore are as before, the
controller is not, and every further `Init` trips over it. -/
theorem init_failed_not_restored
    (initialised : device.init dc buffers calls = some (next, status)) (failed : status ≠ .ok) :
    (¬device.Restored next ∧ ∀ (laterDc : Address) (laterBuffers : List Address)
      (laterCalls : InitCalls), next.init laterDc laterBuffers laterCalls = none) ∧
    next = { device with dc } := by
  rcases init_failed initialised failed with ⟨rfl, free, present⟩
  refine ⟨⟨?_, ?_⟩, rfl⟩
  · intro restored
    exact present (restored.1.trans free)
  · intro laterDc laterBuffers laterCalls
    exact init_eq_none present

/-- The controller fails, then works. -/
theorem init_failed_not_restored_retry :
    (@fresh Unit).init 1 [100] ⟨.fail, .success, .success⟩ =
        some ({ fresh with dc := 1 }, .internal) ∧
      ({ fresh with dc := 1 } : FramebufferDevice Unit).init 1 [100]
        ⟨.success, .success, .success⟩ = none := by
  have failed : (@fresh Unit).init 1 [100] ⟨.fail, .success, .success⟩ =
    some ({ fresh with dc := 1 }, .internal) := rfl
  exact ⟨failed, (init_failed_not_restored failed (by decide)).1.2 1 [100] _⟩

theorem init_keepsController :
    ¬∀ (device next : FramebufferDevice Unit) (dc : Address) (buffers : List Address)
      (calls : InitCalls) (status : Status),
      device.init dc buffers calls = some (next, status) → status ≠ .ok →
      device.Restored next := by
  intro restores
  have restored := restores fresh { fresh with dc := 1 } 1 [100] ⟨.fail, .success, .success⟩
    .internal rfl (by decide)
  exact absurd restored.1 (by decide)

end PigweedExperimental.MipiDsi.FramebufferDevice
