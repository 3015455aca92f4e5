import PigweedExperimental.Foundation.Execution
import PigweedExperimental.MipiDsi.FramebufferDevice
import Mathlib.Data.List.Nodup

namespace PigweedExperimental.MipiDsi

/-! # Where the device's buffers are

A device in use, together with the buffers its callers have checked out and
those the controller has accepted and not yet switched off. Every configured
buffer is in one place as long as no write is rejected and the pool is filled
only once.
-/

structure DeviceUse where
  device : FramebufferDevice Unit
  filled : Bool
  checkedOut : List Address
  inFlight : List Address
  deriving DecidableEq

namespace DeviceUse

/-- A call of the device, with what the SDK answers. -/
inductive Event where
  | init (dc : Address) (calls : InitCalls)
  | getFramebuffer (got : Option Address)
  | writeFramebuffer (buffer : Address) (setFrameBuffer : McuxStatus)
  | bufferSwitchOff (buffer : Address)
  | close (deinit : McuxStatus)
  deriving DecidableEq

def start : DeviceUse where
  device := .fresh
  filled := false
  checkedOut := []
  inFlight := []

/-- Callers write what they have checked out, the controller switches off what
it has accepted, and the device is closed and initialised with nothing checked
out. -/
def Enabled (use : DeviceUse) : Event → Prop
  | .init _ _ => use.checkedOut = []
  | .getFramebuffer got =>
      0 < use.device.framebufferSemaphore ∧ use.device.videoMempool.MayGet got
  | .writeFramebuffer buffer _ => buffer ∈ use.checkedOut
  | .bufferSwitchOff buffer => buffer ∈ use.inFlight
  | .close _ => use.checkedOut = []

instance (use : DeviceUse) : (event : Event) → Decidable (use.Enabled event)
  | .init _ _ => inferInstanceAs (Decidable (_ = _))
  | .getFramebuffer _ => inferInstanceAs (Decidable (_ ∧ _))
  | .writeFramebuffer _ _ => inferInstanceAs (Decidable (_ ∈ _))
  | .bufferSwitchOff _ => inferInstanceAs (Decidable (_ ∈ _))
  | .close _ => inferInstanceAs (Decidable (_ = _))

def step (buffers : List Address) (use : DeviceUse) : Event → Option DeviceUse
  | .init dc calls => do
      let (device, status) ← use.device.init dc buffers calls
      return { use with device, filled := use.filled || status = .ok }
  | .getFramebuffer got =>
      let (device, _) := use.device.getFramebuffer got
      some { use with device, checkedOut := got.toList ++ use.checkedOut }
  | .writeFramebuffer buffer setFrameBuffer => do
      let (device, _) ← use.device.writeFramebuffer buffer () setFrameBuffer
      let inFlight :=
        if setFrameBuffer = .success then buffer :: use.inFlight else use.inFlight
      return { use with device, checkedOut := use.checkedOut.erase buffer, inFlight }
  | .bufferSwitchOff buffer => do
      let (device, _) ← use.device.bufferSwitchOff buffer
      return { use with device, inFlight := use.inFlight.erase buffer }
  | .close deinit =>
      let (device, _) := use.device.close deinit
      some { use with device }

def machine (buffers : List Address) : Machine DeviceUse Event where
  Enabled := Enabled
  step := step buffers

instance (buffers : List Address) (use : DeviceUse) (event : Event) :
    Decidable ((machine buffers).Enabled use event) :=
  inferInstanceAs (Decidable (use.Enabled event))

/-- All the places a buffer can be in. -/
def places (use : DeviceUse) : List Address :=
  use.device.videoMempool ++ use.checkedOut ++ use.inFlight

/-- Once the pool has been filled, each buffer is in one place, once; and the
semaphore lets no caller through to an empty pool. -/
def Accounted (buffers : List Address) (use : DeviceUse) : Prop :=
  (use.filled → ∀ buffer ∈ buffers, use.places.count buffer = 1) ∧
    (0 < use.device.framebufferSemaphore → use.device.videoMempool ≠ [])

/-- The pool is filled. -/
def Event.fills : Event → Bool
  | .init _ calls => calls.Succeed
  | .getFramebuffer _ => false
  | .writeFramebuffer _ _ => false
  | .bufferSwitchOff _ => false
  | .close _ => false

/-- The buffer of a write the controller rejects. -/
def Event.rejected : Event → List Address
  | .init _ _ => []
  | .getFramebuffer _ => []
  | .writeFramebuffer buffer setFrameBuffer =>
      if setFrameBuffer = .success then [] else [buffer]
  | .bufferSwitchOff _ => []
  | .close _ => []

/-- The controller accepts every buffer it is given, and comes up to fill the
pool only when it has not been filled before. -/
def Accepted (use : DeviceUse) (event : Event) : Prop :=
  (use.filled → event.fills = false) ∧ event.rejected = []

/-- What a run keeps as long as every event is accepted. -/
structure Coherent (buffers : List Address) (use : DeviceUse) : Prop where
  notEnabled : use.device.enabled = false
  known : ∀ buffer ∈ use.places, buffer ∈ buffers
  empty : use.filled = false → use.places = []
  credits : use.device.framebufferSemaphore + use.checkedOut.length +
    use.inFlight.length = if use.filled then 1 else 0

theorem start_coherent (buffers : List Address) : start.Coherent buffers where
  notEnabled := rfl
  known := nofun
  empty := fun _ => rfl
  credits := rfl

section Step

variable {buffers : List Address} {use next : DeviceUse}

/-- All that a step does to the state around the controller. -/
structure Effect (buffers : List Address) (use : DeviceUse) (event : Event)
    (next : DeviceUse) : Prop where
  notEnabled : next.device.enabled = false
  filled_eq : next.filled = (use.filled || event.fills)
  places : (event.rejected ++ next.places).Perm
    ((if event.fills then buffers else []) ++ use.places)
  credits : next.device.framebufferSemaphore + next.checkedOut.length +
      next.inFlight.length =
    use.device.framebufferSemaphore + use.checkedOut.length + use.inFlight.length +
      if event.fills then 1 else 0

theorem effect_init {dc : Address} {calls : InitCalls}
    (notEnabled : use.device.enabled = false)
    (stepped : use.step buffers (.init dc calls) = some next) :
    Effect buffers use (.init dc calls) next := by
  simp only [step, Option.bind_eq_bind, Option.bind_eq_some_iff, Option.pure_def,
    Option.some.injEq] at stepped
  rcases stepped with ⟨⟨device, status⟩, initialised, rfl⟩
  rcases FramebufferDevice.init_eq_some notEnabled initialised with ⟨ok_iff, rfl⟩
  by_cases succeed : calls.Succeed
  · exact {
      notEnabled := by simpa [succeed] using notEnabled
      filled_eq := by simp [Event.fills, ok_iff]
      places := by
        simp only [Event.rejected, Event.fills, succeed, decide_true, if_true,
          DeviceUse.places, List.nil_append, List.append_assoc]
        rw [← List.append_assoc buffers]
        exact (VideoMempool.foldl_put _ _).append_right _
      credits := by
        simp only [Event.fills, succeed, decide_true, if_true]
        omega }
  · exact {
      notEnabled := by simpa [succeed] using notEnabled
      filled_eq := by simp [Event.fills, ok_iff]
      places := by simp [Event.rejected, Event.fills, succeed, DeviceUse.places]
      credits := by simp [Event.fills, succeed] }

theorem effect_getFramebuffer {got : Option Address}
    (notEnabled : use.device.enabled = false) (enabled : use.Enabled (.getFramebuffer got))
    (nonempty : use.device.videoMempool ≠ [])
    (stepped : use.step buffers (.getFramebuffer got) = some next) :
    Effect buffers use (.getFramebuffer got) next := by
  cases stepped
  cases got with
  | none => exact absurd enabled.2 nonempty
  | some buffer =>
      have available := enabled.1
      exact {
        notEnabled := notEnabled
        filled_eq := (Bool.or_false _).symm
        places := by
          have moved : (use.device.videoMempool.erase buffer ++
              buffer :: use.checkedOut).Perm
              (use.device.videoMempool ++ use.checkedOut) :=
            List.perm_middle.trans
              ((List.perm_cons_erase enabled.2).symm.append_right use.checkedOut)
          exact moved.append_right use.inFlight
        credits := by
          simp [Event.fills]
          omega }

theorem effect_writeFramebuffer {buffer : Address} {setFrameBuffer : McuxStatus}
    (notEnabled : use.device.enabled = false)
    (enabled : use.Enabled (.writeFramebuffer buffer setFrameBuffer))
    (stepped : use.step buffers (.writeFramebuffer buffer setFrameBuffer) = some next) :
    Effect buffers use (.writeFramebuffer buffer setFrameBuffer) next := by
  simp only [step, Option.bind_eq_bind, Option.bind_eq_some_iff, Option.pure_def,
    Option.some.injEq] at stepped
  rcases stepped with ⟨⟨device, invocation⟩, written, rfl⟩
  rcases FramebufferDevice.writeFramebuffer_eq_some written with ⟨_, _, rfl⟩
  have taken : (buffer :: (use.device.videoMempool ++ use.checkedOut.erase buffer ++
      use.inFlight)).Perm use.places := by
    apply @List.Perm.append_right _ (buffer :: _) _ use.inFlight
    apply List.perm_middle.symm.trans
    exact (List.perm_cons_erase enabled).symm.append_left _
  have fewer := List.length_erase_of_mem enabled
  have some := List.length_pos_of_mem enabled
  by_cases accepted : setFrameBuffer = .success
  · exact {
      notEnabled := by simpa [accepted] using notEnabled
      filled_eq := (Bool.or_false _).symm
      places := by
        simp only [Event.rejected, Event.fills, accepted, if_true, List.nil_append]
        exact List.perm_middle.trans taken
      credits := by
        simp [Event.fills, accepted]
        omega }
  · exact {
      notEnabled := by simpa [accepted] using notEnabled
      filled_eq := (Bool.or_false _).symm
      places := by
        simp only [Event.rejected, Event.fills, accepted, if_false]
        exact taken
      credits := by
        simp [Event.fills, accepted]
        omega }

theorem effect_bufferSwitchOff {buffer : Address}
    (notEnabled : use.device.enabled = false)
    (enabled : use.Enabled (.bufferSwitchOff buffer))
    (stepped : use.step buffers (.bufferSwitchOff buffer) = some next) :
    Effect buffers use (.bufferSwitchOff buffer) next := by
  simp only [step, Option.bind_eq_bind, Option.bind_eq_some_iff, Option.pure_def,
    Option.some.injEq] at stepped
  rcases stepped with ⟨⟨device, invocation⟩, switched, rfl⟩
  rcases FramebufferDevice.writeComplete_eq_some switched with ⟨_, _, _, _, rfl⟩
  have fewer := List.length_erase_of_mem enabled
  have some := List.length_pos_of_mem enabled
  exact {
    notEnabled := notEnabled
    filled_eq := (Bool.or_false _).symm
    places := by
      apply List.perm_middle.symm.trans
      exact (List.perm_cons_erase enabled).symm.append_left _
    credits := by
      simp [Event.fills]
      omega }

theorem effect_close {deinit : McuxStatus} (notEnabled : use.device.enabled = false)
    (stepped : use.step buffers (.close deinit) = some next) :
    Effect buffers use (.close deinit) next := by
  have kept : (use.device.close deinit).1 = { use.device with dc := nullptr } := by
    rw [FramebufferDevice.close]
    split
    · rename_i closed
      rw [← closed]
    · rfl
  have next_eq : next = { use with device := { use.device with dc := nullptr } } := by
    rw [← kept]
    exact (Option.some.inj stepped).symm
  subst next_eq
  exact {
    notEnabled := notEnabled
    filled_eq := (Bool.or_false _).symm
    places := .refl _
    credits := rfl }

theorem Coherent.effect (coherent : use.Coherent buffers)
    (accounted : use.Accounted buffers) {event : Event} (enabled : use.Enabled event)
    (stepped : use.step buffers event = some next) : Effect buffers use event next := by
  have notEnabled := coherent.notEnabled
  cases event with
  | init => exact effect_init notEnabled stepped
  | getFramebuffer =>
      exact effect_getFramebuffer notEnabled enabled (accounted.2 enabled.1) stepped
  | writeFramebuffer => exact effect_writeFramebuffer notEnabled enabled stepped
  | bufferSwitchOff => exact effect_bufferSwitchOff notEnabled enabled stepped
  | close => exact effect_close notEnabled stepped

theorem Effect.count {event : Event} (effect : Effect buffers use event next)
    (buffer : Address) :
    event.rejected.count buffer + next.places.count buffer =
      (if event.fills then buffers.count buffer else 0) + use.places.count buffer := by
  have counts := effect.places.count_eq buffer
  rw [List.count_append, List.count_append] at counts
  split at counts <;> rename_i fills
  · rw [if_pos fills]
    exact counts
  · rw [if_neg fills]
    exact counts

theorem Coherent.step (coherent : use.Coherent buffers) {event : Event}
    (accepted : use.Accepted event) (effect : Effect buffers use event next) :
    next.Coherent buffers where
  notEnabled := effect.notEnabled
  known := by
    intro buffer member
    have moved := effect.places.mem_iff.mp (List.mem_append_right _ member)
    rcases List.mem_append.mp moved with filled | held
    · split at filled
      · exact filled
      · cases filled
    · exact coherent.known buffer held
  empty := by
    intro notFilled
    rw [effect.filled_eq, Bool.or_eq_false_iff] at notFilled
    have places := effect.places
    rw [accepted.2, notFilled.2, coherent.empty notFilled.1] at places
    exact places.eq_nil
  credits := by
    rw [effect.credits, coherent.credits, effect.filled_eq]
    cases filled : use.filled with
    | false => simp
    | true => simp [accepted.1 filled]

/-- With one credit about, a free semaphore means that nothing is out. -/
theorem Coherent.accounted_of_count (coherent : use.Coherent buffers)
    (nonempty : buffers ≠ [])
    (counts : use.filled → ∀ buffer ∈ buffers, use.places.count buffer = 1) :
    use.Accounted buffers := by
  refine ⟨counts, ?_⟩
  intro available noneFree
  have credits := coherent.credits
  cases filled : use.filled with
  | false =>
      rw [filled] at credits
      simp at credits
      omega
  | true =>
      rw [filled] at credits
      simp at credits
      have noneOut : use.checkedOut = [] := List.eq_nil_of_length_eq_zero (by omega)
      have noneInFlight : use.inFlight = [] := List.eq_nil_of_length_eq_zero (by omega)
      rcases List.exists_mem_of_ne_nil buffers nonempty with ⟨buffer, member⟩
      have count := counts filled buffer member
      rw [places, noneFree, noneOut, noneInFlight] at count
      cases count

theorem filled_of_mem_places (coherent : use.Coherent buffers) {buffer : Address}
    (placed : buffer ∈ use.places) : use.filled := by
  by_contra notFilled
  rw [Bool.not_eq_true] at notFilled
  rw [coherent.empty notFilled] at placed
  cases placed

/-- A pool that is filled again holds every buffer twice. -/
theorem Effect.fills_eq_false {event : Event} (effect : Effect buffers use event next)
    (nonempty : buffers ≠ []) (accounted : use.Accounted buffers)
    (nextAccounted : next.Accounted buffers) (filled : use.filled) :
    event.fills = false := by
  rcases List.exists_mem_of_ne_nil buffers nonempty with ⟨buffer, member⟩
  have nextFilled : next.filled := by rw [effect.filled_eq, filled, Bool.true_or]
  have positive := List.count_pos_iff.mpr member
  have counts := effect.count buffer
  rw [nextAccounted.1 nextFilled buffer member, accounted.1 filled buffer member] at counts
  cases event with
  | init =>
      by_contra fills
      rw [Bool.not_eq_false] at fills
      rw [fills, Event.rejected, List.count_nil] at counts
      simp at counts
      omega
  | _ => rfl

/-- A buffer whose write is rejected is in no place any more. -/
theorem Effect.rejected_eq_nil {event : Event} (effect : Effect buffers use event next)
    (coherent : use.Coherent buffers) (accounted : use.Accounted buffers)
    (nextAccounted : next.Accounted buffers) (enabled : use.Enabled event) :
    event.rejected = [] := by
  cases event with
  | writeFramebuffer buffer setFrameBuffer =>
      have placed : buffer ∈ use.places :=
        List.mem_append_left _ (List.mem_append_right _ enabled)
      have filled := filled_of_mem_places coherent placed
      have member := coherent.known buffer placed
      have nextFilled : next.filled := by rw [effect.filled_eq, filled, Bool.true_or]
      have counts := effect.count buffer
      rw [nextAccounted.1 nextFilled buffer member, accounted.1 filled buffer member]
        at counts
      apply if_pos
      by_contra rejects
      rw [Event.rejected, if_neg rejects, List.count_singleton_self] at counts
      cases counts
  | _ => rfl

/-- Whether every buffer is still accounted for after a step is decided by
what the controller answers, and by whether the pool was filled before. -/
theorem Coherent.accounted_iff (coherent : use.Coherent buffers)
    (nonempty : buffers ≠ []) (distinct : buffers.Nodup)
    (accounted : use.Accounted buffers) {event : Event} (enabled : use.Enabled event)
    (effect : Effect buffers use event next) :
    next.Accounted buffers ↔ use.Accepted event := by
  constructor
  · intro nextAccounted
    exact ⟨effect.fills_eq_false nonempty accounted nextAccounted,
      effect.rejected_eq_nil coherent accounted nextAccounted enabled⟩
  · intro accepted
    apply (coherent.step accepted effect).accounted_of_count nonempty
    intro nextFilled buffer member
    have counts := effect.count buffer
    rw [accepted.2, List.count_nil, Nat.zero_add] at counts
    rw [counts]
    cases filled : use.filled with
    | false =>
        rw [effect.filled_eq, filled, Bool.false_or] at nextFilled
        rw [nextFilled, if_pos rfl, List.count_eq_one_of_mem distinct member,
          coherent.empty filled]
        rfl
    | true =>
        rw [accepted.1 filled, accounted.1 filled buffer member]
        rfl

end Step

/-- Exactly when a run keeps every buffer accounted for: the controller accepts
every buffer it is given, and comes up only once to fill the pool. -/
theorem accounted_throughout_iff {buffers : List Address} (nonempty : buffers ≠ [])
    (distinct : buffers.Nodup) {events : List Event} {last : DeviceUse}
    (run : (machine buffers).Run start events last) :
    (machine buffers).Throughout (Accounted buffers) start events ↔
      (machine buffers).EveryStep Accepted start events := by
  apply run.throughout_iff_everyStep (Coherent buffers)
  case preserved =>
    intro use event next coherent accounted accepted enabled stepped
    exact coherent.step accepted (coherent.effect accounted enabled stepped)
  case exactStep =>
    intro use event next coherent accounted enabled stepped
    exact coherent.accounted_iff nonempty distinct accounted enabled
      (coherent.effect accounted enabled stepped)
  case initialAuxiliary => exact start_coherent buffers
  case initially => exact ⟨nofun, nofun⟩

theorem accounted_throughout_iff_oneWrite :
    let events := [.init 1 ⟨.success, .success, .success⟩, .getFramebuffer (some 100),
      .writeFramebuffer 100 .success, .bufferSwitchOff 100]
    (machine [100]).Throughout (Accounted [100]) start events ↔
      (machine [100]).EveryStep Accepted start events :=
  accounted_throughout_iff (by decide) (by decide)
    (.of_execute (Option.some_get (by decide)).symm)

/-- A rejected write completes, and its buffer is gone: the next caller the
semaphore lets through gets null. The other way to go wrong is to close the
device and initialise it again, which puts every buffer into the pool twice. -/
theorem oneBuffer_lost_or_doubled :
    (∃ last, (machine [100]).Run start [.init 1 ⟨.success, .success, .success⟩,
        .getFramebuffer (some 100), .writeFramebuffer 100 .fail] last ∧
      last.places = [] ∧ last.device.framebufferSemaphore = 1) ∧
    (∃ last, (machine [100]).Run start [.init 1 ⟨.success, .success, .success⟩,
        .close .success, .init 1 ⟨.success, .success, .success⟩] last ∧
      last.device.videoMempool = [100, 100]) :=
  ⟨⟨_, .of_execute (Option.some_get (by decide)).symm, by decide, by decide⟩,
    ⟨_, .of_execute (Option.some_get (by decide)).symm, by decide⟩⟩

end DeviceUse

end PigweedExperimental.MipiDsi
