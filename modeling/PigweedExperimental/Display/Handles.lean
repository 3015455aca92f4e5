import Mathlib.Data.List.Perm.Basic
import PigweedExperimental.Display.Conservation

namespace PigweedExperimental

/-! # Programs that move handles

A program keeps its framebuffers in variables. It cannot copy them, only move them from
one to another, and a handle that is overwritten or destroyed gives nothing back. What it
passes to the display is what it was handed out.
-/

section Replacement

variable {Value : Type u} {values : List Value} {index : Nat} {old new : Value}

theorem perm_set (found : values[index]? = some old) :
    (old :: values.set index new).Perm (new :: values) := by
  rcases List.getElem?_eq_some_iff.mp found with ⟨inRange, rfl⟩
  have replaced := (List.set_perm_cons_eraseIdx inRange new).cons values[index]
  have restored := (List.getElem_cons_eraseIdx_perm inRange).cons new
  exact (replaced.trans (List.Perm.swap ..)).trans restored

/-- Among the values that count, a replacement exchanges the old one for the new one. -/
theorem count_filter_set [BEq Value] [LawfulBEq Value] (counts : Value → Bool)
    (found : values[index]? = some old) (value : Value) :
    ([old].filter counts).count value + ((values.set index new).filter counts).count value =
      ([new].filter counts).count value + (values.filter counts).count value := by
  rw [← List.count_append, ← List.count_append, ← List.filter_append, ← List.filter_append]
  exact ((perm_set found).filter counts).count_eq value

end Replacement

namespace Framebuffer

/-- The framebuffers of the variables that have one. -/
def handles (locals : List Framebuffer) : List Framebuffer :=
  locals.filter isValid

/-- What a program can do with its variables alone. Scopes end in the opposite order of
the declarations. -/
inductive Move where
  | declare
  | construct (source : Nat)
  | assign (target source : Nat)
  | destroy
  deriving DecidableEq

namespace Move

/-- The variables a move names exist. -/
def Possible (locals : List Framebuffer) : Move → Prop
  | .declare => True
  | .construct source => source < locals.length
  | .assign target source => target < locals.length ∧ source < locals.length
  | .destroy => locals ≠ []

instance (locals : List Framebuffer) : (move : Move) → Decidable (move.Possible locals)
  | .declare => inferInstanceAs (Decidable True)
  | .construct _ => inferInstanceAs (Decidable (_ < _))
  | .assign _ _ => inferInstanceAs (Decidable (_ ∧ _))
  | .destroy => inferInstanceAs (Decidable (_ ≠ []))

/-- The constructors and `operator=`, whose two sides may be the same variable. -/
def apply (locals : List Framebuffer) : Move → Option (List Framebuffer)
  | .declare => some (locals ++ [.invalid])
  | .construct source => do
      let other ← locals[source]?
      return locals.set source other.movedFrom ++ [other]
  | .assign target source => do
      let rhs ← locals[source]?
      let locals := locals.set target rhs
      let rhs ← locals[source]?
      return locals.set source rhs.movedFrom
  | .destroy => some locals.dropLast

/-- The handle that is gone after the move, for which nobody has the framebuffer. -/
def abandoned (locals : List Framebuffer) : Move → List Framebuffer
  | .declare => []
  | .construct _ => []
  | .assign target _ => handles locals[target]?.toList
  | .destroy => handles locals.getLast?.toList

end Move

section Handles

variable {locals : List Framebuffer}

theorem handles_append (more : List Framebuffer) :
    handles (locals ++ more) = handles locals ++ handles more :=
  List.filter_append locals more

theorem handles_valid {framebuffer : Framebuffer} (valid : framebuffer.isValid) :
    handles [framebuffer] = [framebuffer] :=
  List.filter_cons_of_pos valid

theorem handles_invalid {framebuffer : Framebuffer} (invalid : framebuffer.isValid = false) :
    handles [framebuffer] = [] := by
  simp [handles, invalid]

theorem isValid_movedFrom (framebuffer : Framebuffer) :
    framebuffer.movedFrom.isValid = false := rfl

theorem count_handles_set {old : Framebuffer} {index : Nat}
    (found : locals[index]? = some old) (new value : Framebuffer) :
    (handles [old]).count value + (handles (locals.set index new)).count value =
      (handles [new]).count value + (handles locals).count value :=
  count_filter_set isValid found value

/-- A variable that is moved from has given up its handle. -/
theorem handles_set_movedFrom {framebuffer : Framebuffer} {source : Nat}
    (found : locals[source]? = some framebuffer) :
    (handles locals).Perm
      (handles (locals.set source framebuffer.movedFrom) ++ handles [framebuffer]) := by
  rw [List.perm_iff_count]
  intro value
  have replaced := count_handles_set found framebuffer.movedFrom value
  rw [handles_invalid framebuffer.isValid_movedFrom, List.count_nil] at replaced
  rw [List.count_append]
  omega

/-- An assignment loses what its target had, also if that is what it moves. -/
theorem handles_assign {target source : Nat} {old : Framebuffer} {after : List Framebuffer}
    (found : locals[target]? = some old)
    (assigned : (Move.assign target source).apply locals = some after) :
    (handles locals).Perm (handles after ++ handles [old]) := by
  simp only [Move.apply, Option.bind_eq_bind, Option.bind_eq_some_iff, Option.pure_def,
    Option.some.injEq] at assigned
  rcases assigned with ⟨rhs, isSource, again, stillSource, rfl⟩
  have unchanged : again = rhs := by
    by_cases same : target = source
    · subst same
      rw [List.getElem?_set_self (List.getElem?_eq_some_iff.mp isSource).choose] at stillSource
      exact (Option.some.inj stillSource).symm
    · rw [List.getElem?_set_ne same] at stillSource
      exact Option.some.inj (stillSource.symm.trans isSource)
  rw [unchanged] at stillSource ⊢
  rw [List.perm_iff_count]
  intro value
  have copied := count_handles_set found rhs value
  have cleared := (handles_set_movedFrom stillSource).count_eq value
  rw [List.count_append] at cleared ⊢
  omega

theorem Move.exists_apply {move : Move} (possible : move.Possible locals) :
    ∃ after, move.apply locals = some after := by
  cases move with
  | declare => exact ⟨_, rfl⟩
  | construct source => simp [apply, List.getElem?_eq_getElem possible]
  | assign target source =>
      have inRange : source < locals.length := possible.2
      have stillThere : source < (locals.set target locals[source]).length := by
        rw [List.length_set]
        exact inRange
      simp [apply, List.getElem?_eq_getElem inRange, List.getElem?_eq_getElem stillThere]
  | destroy => exact ⟨_, rfl⟩

/-- Every handle is where it was, or in another variable, or abandoned. -/
theorem handles_apply {move : Move} {after : List Framebuffer}
    (possible : move.Possible locals) (moved : move.apply locals = some after) :
    (handles locals).Perm (handles after ++ move.abandoned locals) := by
  cases move with
  | declare =>
      cases moved
      simp [handles, Move.abandoned, isValid, invalid]
  | construct source =>
      simp only [Move.apply, Option.bind_eq_bind, Option.bind_eq_some_iff, Option.pure_def,
        Option.some.injEq] at moved
      rcases moved with ⟨other, found, rfl⟩
      rw [Move.abandoned, List.append_nil, handles_append]
      exact handles_set_movedFrom found
  | assign target source =>
      have found := List.getElem?_eq_getElem possible.1
      rw [Move.abandoned, found]
      exact handles_assign found moved
  | destroy =>
      cases moved
      rw [Move.abandoned, List.getLast?_eq_some_getLast possible, Option.toList_some,
        ← handles_append, List.dropLast_append_getLast possible]

end Handles

end Framebuffer

namespace Display

theorem getFramebuffer_eq_some {display next : Display} {framebuffer : Framebuffer}
    (got : display.getFramebuffer = some (framebuffer, next)) :
    framebuffer.isValid ∧
      next.framebufferPool.framebufferSemaphore =
        display.framebufferPool.framebufferSemaphore - 1 := by
  simp only [Display.getFramebuffer, Option.bind_eq_bind, Option.bind_eq_some_iff,
    Option.pure_def, Option.some.injEq, Prod.mk.injEq] at got
  rcases got with ⟨⟨_, pool⟩, fromPool, rfl, rfl⟩
  rcases FramebufferPool.getFramebuffer_eq_some fromPool with ⟨rfl, _, valid⟩
  exact ⟨valid, rfl⟩

end Display

open Framebuffer (handles Move)

/-- A program at work: its variables in the order of their declaration, and the
framebuffers that a driver is writing. -/
structure HandleUse where
  display : Display
  locals : List Framebuffer
  inFlight : List Framebuffer

namespace HandleUse

/-- A variable that is initialized with a call is declared and then assigned to. -/
inductive Event where
  | move (move : Move)
  | getFramebuffer (target : Nat)
  | releaseFramebuffer (source : Nat) (surroundings : Surroundings)
  | completed (framebuffer : Framebuffer)

/-- A driver completes each write it was given, once. -/
def Enabled (use : HandleUse) : Event → Prop
  | .move move => move.Possible use.locals
  | .getFramebuffer target =>
      target < use.locals.length ∧ 0 < use.display.framebufferPool.framebufferSemaphore
  | .releaseFramebuffer source _ => source < use.locals.length
  | .completed framebuffer => framebuffer ∈ use.inFlight

/-- Where the framebuffer is after its release. -/
def afterRelease (use : HandleUse) (framebuffer : Framebuffer) : Release → HandleUse
  | .rejected => use
  | .writing => { use with inFlight := use.inFlight ++ [framebuffer] }
  | .resized _ framebufferPool => { use with
      display := { use.display with framebufferPool } }

/-- A release moves the handle into the parameter, whatever becomes of it. -/
def step (use : HandleUse) : Event → Option HandleUse
  | .move move => do
      let locals ← move.apply use.locals
      return { use with locals }
  | .getFramebuffer target => do
      let (framebuffer, display) ← use.display.getFramebuffer
      return { use with display, locals := use.locals.set target framebuffer }
  | .releaseFramebuffer source surroundings => do
      let framebuffer ← use.locals[source]?
      let release ← (use.display.releaseFramebuffer surroundings framebuffer).toOption
      return afterRelease
        { use with locals := use.locals.set source framebuffer.movedFrom } framebuffer release
  | .completed framebuffer =>
      (Display.writeCallback use.display.framebufferPool framebuffer .ok).toOption.map
        fun framebufferPool => { use with
          display := { use.display with framebufferPool }
          inFlight := use.inFlight.erase framebuffer }

def machine : Machine HandleUse Event where
  Enabled := Enabled
  step := step

instance (use : HandleUse) : (event : Event) → Decidable (machine.Enabled use event)
  | .move move => inferInstanceAs (Decidable (move.Possible use.locals))
  | .getFramebuffer _ => inferInstanceAs (Decidable (_ ∧ _))
  | .releaseFramebuffer _ _ => inferInstanceAs (Decidable (_ < _))
  | .completed framebuffer => inferInstanceAs (Decidable (framebuffer ∈ use.inFlight))

/-- A program that has no variable yet. -/
def start (config : FramebufferPool.Config) (size : Size UInt16)
    (displayResize supportsResize : Bool) : HandleUse where
  display := (DisplayUse.start config size displayResize supportsResize).display
  locals := []
  inFlight := []

/-- What is gone after the event. -/
def abandoned (use : HandleUse) : Event → List Framebuffer
  | .move move => move.abandoned use.locals
  | .getFramebuffer target => handles use.locals[target]?.toList
  | .releaseFramebuffer _ _ => []
  | .completed _ => []

/-- What is gone after some events, each in the state that it finds. -/
def abandonedIn (use : HandleUse) : List Event → List Framebuffer
  | [] => []
  | event :: events =>
      use.abandoned event ++
        match use.step event with
        | some next => next.abandonedIn events
        | none => []

theorem abandonedIn_cons {use next : HandleUse} {event : Event}
    (stepped : use.step event = some next) (events : List Event) :
    use.abandonedIn (event :: events) = use.abandoned event ++ next.abandonedIn events := by
  rw [abandonedIn, stepped]

/-- What each step does to the framebuffers that are out. -/
inductive Effect (use next : HandleUse) : Event → Prop
  | moved (move : Move) :
      next.display = use.display → next.inFlight = use.inFlight →
      (handles use.locals).Perm (handles next.locals ++ use.abandoned (.move move)) →
      Effect use next (.move move)
  | got (target : Nat) (framebuffer : Framebuffer) :
      use.display.getFramebuffer = some (framebuffer, next.display) →
      next.inFlight = use.inFlight →
      (framebuffer :: handles use.locals).Perm
        (handles next.locals ++ use.abandoned (.getFramebuffer target)) →
      Effect use next (.getFramebuffer target)
  | released (source : Nat) (surroundings : Surroundings) (framebuffer : Framebuffer)
      (release : Release) :
      use.display.releaseFramebuffer surroundings framebuffer = .ok release →
      (handles use.locals).Perm (handles next.locals ++ handles [framebuffer]) →
      next = afterRelease { use with locals := next.locals } framebuffer release →
      Effect use next (.releaseFramebuffer source surroundings)
  | completed (framebuffer : Framebuffer) :
      next = { use with
        display := { use.display with
          framebufferPool := (use.display.framebufferPool.releaseFramebuffer framebuffer).2 }
        inFlight := use.inFlight.erase framebuffer } →
      Effect use next (.completed framebuffer)

section Step

variable {use next : HandleUse} {event : Event}

theorem effect_of_step (enabled : use.Enabled event) (stepped : use.step event = some next) :
    Effect use next event := by
  cases event with
  | move move =>
      simp only [step, Option.bind_eq_bind, Option.bind_eq_some_iff, Option.pure_def,
        Option.some.injEq] at stepped
      rcases stepped with ⟨after, moved, rfl⟩
      exact .moved move rfl rfl (Framebuffer.handles_apply enabled moved)
  | getFramebuffer target =>
      simp only [step, Option.bind_eq_bind, Option.bind_eq_some_iff, Option.pure_def,
        Option.some.injEq] at stepped
      rcases stepped with ⟨⟨framebuffer, display⟩, got, rfl⟩
      have found := List.getElem?_eq_getElem enabled.1
      have valid := (Display.getFramebuffer_eq_some got).1
      refine Effect.got target framebuffer got rfl ?_
      change (framebuffer :: handles use.locals).Perm
        (handles (use.locals.set target framebuffer) ++ handles use.locals[target]?.toList)
      rw [found, List.perm_iff_count]
      intro value
      have replaced := Framebuffer.count_handles_set found framebuffer value
      rw [Framebuffer.handles_valid valid] at replaced
      rw [Option.toList_some, List.count_append, ← List.singleton_append, List.count_append]
      omega
  | releaseFramebuffer source surroundings =>
      simp only [step, Option.bind_eq_bind, Option.bind_eq_some_iff, Option.pure_def,
        Option.some.injEq] at stepped
      rcases stepped with ⟨framebuffer, found, release, released, rfl⟩
      apply Effect.released source surroundings framebuffer release
      · cases answer : use.display.releaseFramebuffer surroundings framebuffer with
        | error =>
            rw [answer] at released
            cases released
        | ok =>
            rw [answer] at released
            cases released
            rfl
      · cases release <;> exact Framebuffer.handles_set_movedFrom found
      · cases release <;> rfl
  | completed framebuffer =>
      cases stepped
      exact .completed framebuffer rfl

/-- No step makes a handle of its own. -/
theorem handles_step (enabled : use.Enabled event) (stepped : use.step event = some next)
    {property : Framebuffer → Prop}
    (ofHandles : ∀ framebuffer ∈ handles use.locals, property framebuffer)
    (ofDisplay : ∀ framebuffer display,
      use.display.getFramebuffer = some (framebuffer, display) → property framebuffer) :
    ∀ framebuffer ∈ handles next.locals, property framebuffer := by
  intro framebuffer isHandle
  cases effect_of_step enabled stepped with
  | moved move display inFlight handles =>
      exact ofHandles framebuffer (handles.symm.subset (List.mem_append_left _ isHandle))
  | got target taken got inFlight handles =>
      have isOld := handles.symm.subset (List.mem_append_left _ isHandle)
      rcases List.mem_cons.mp isOld with rfl | isOld
      · exact ofDisplay framebuffer next.display got
      · exact ofHandles framebuffer isOld
  | released source surroundings released release _ handles isNext =>
      exact ofHandles framebuffer (handles.symm.subset (List.mem_append_left _ isHandle))
  | completed written isNext =>
      rw [isNext] at isHandle
      exact ofHandles framebuffer isHandle

/-- How many buffers are free, held or being written. -/
def accountedFor (use : HandleUse) : Nat :=
  use.display.framebufferPool.framebufferSemaphore + (handles use.locals).length +
    use.inFlight.length

theorem accountedFor_step (enabled : use.Enabled event)
    (stepped : use.step event = some next) :
    next.accountedFor + (use.abandoned event).length = use.accountedFor := by
  cases effect_of_step enabled stepped with
  | moved move display inFlight handles =>
      have lengths := handles.length_eq
      rw [List.length_append] at lengths
      rw [accountedFor, accountedFor, display, inFlight]
      omega
  | got target framebuffer got inFlight handles =>
      have lengths := handles.length_eq
      have pool := (Display.getFramebuffer_eq_some got).2
      have available := enabled.2
      rw [List.length_append, List.length_cons] at lengths
      rw [accountedFor, accountedFor, inFlight, pool]
      omega
  | released source surroundings framebuffer release released handles isNext =>
      have lengths := handles.length_eq
      rw [List.length_append] at lengths
      rw [isNext, abandoned, List.length_nil]
      rcases Display.releaseFramebuffer_eq_ok released with
        ⟨invalid, rfl⟩ | ⟨valid, rfl⟩ | ⟨valid, rfl⟩
      · rw [Framebuffer.handles_invalid invalid, List.length_nil] at lengths
        simp only [afterRelease, accountedFor]
        omega
      · rw [Framebuffer.handles_valid valid, List.length_singleton] at lengths
        simp only [afterRelease, accountedFor, List.length_append, List.length_singleton]
        omega
      · rw [Framebuffer.handles_valid valid, List.length_singleton] at lengths
        simp only [afterRelease, accountedFor, FramebufferPool.releaseFramebuffer]
        omega
  | completed framebuffer isNext =>
      have fewer := List.length_erase_of_mem enabled
      have some := List.length_pos_of_mem enabled
      rw [isNext]
      simp only [accountedFor, FramebufferPool.releaseFramebuffer, abandoned, List.length_nil]
      omega

/-- A use of the display that also holds what the program has abandoned. -/
structure Matches (abandoned : List Framebuffer) (use : HandleUse) (displayUse : DisplayUse) :
    Prop where
  display_eq : displayUse.display = use.display
  inFlight_eq : displayUse.inFlight = use.inFlight
  held_eq : displayUse.held.Perm (handles use.locals ++ abandoned)

variable {abandoned : List Framebuffer} {displayUse : DisplayUse}

theorem Matches.perm {others : List Framebuffer} (isMatched : use.Matches abandoned displayUse)
    (same : abandoned.Perm others) : use.Matches others displayUse where
  display_eq := isMatched.display_eq
  inFlight_eq := isMatched.inFlight_eq
  held_eq := isMatched.held_eq.trans (same.append_left _)

theorem Matches.step (isMatched : use.Matches abandoned displayUse)
    (enabled : use.Enabled event) (stepped : use.step event = some next) :
    ∃ deeds after, DisplayUse.machine.Run displayUse deeds after ∧
      next.Matches (use.abandoned event ++ abandoned) after := by
  rcases isMatched with ⟨display_eq, inFlight_eq, held⟩
  cases effect_of_step enabled stepped with
  | moved move display inFlight handles =>
      refine ⟨[], displayUse, .nil displayUse, ?_, ?_, ?_⟩
      · rw [display, display_eq]
      · rw [inFlight, inFlight_eq]
      · rw [← List.append_assoc]
        exact held.trans (handles.append_right abandoned)
  | got target framebuffer got inFlight handles =>
      have available : DisplayUse.machine.Enabled displayUse .getFramebuffer := by
        change 0 < displayUse.display.framebufferPool.framebufferSemaphore
        rw [display_eq]
        exact enabled.2
      have deed : DisplayUse.machine.step displayUse .getFramebuffer = some { displayUse with
          display := next.display, held := displayUse.held ++ [framebuffer] } := by
        change displayUse.step .getFramebuffer = _
        rw [DisplayUse.step, display_eq, got]
        rfl
      refine ⟨_, _, .single available deed, rfl, inFlight_eq.trans inFlight.symm, ?_⟩
      have perms := (held.cons framebuffer).trans (handles.append_right abandoned)
      rw [← List.append_assoc]
      exact (List.perm_append_singleton ..).trans perms
  | released source surroundings framebuffer release released handles isNext =>
      rw [← display_eq] at released
      cases valid : framebuffer.isValid with
      | false =>
          rw [Display.releaseFramebuffer_invalid valid] at released
          cases released
          rw [Framebuffer.handles_invalid valid, List.append_nil] at handles
          refine ⟨[], displayUse, .nil displayUse, ?_, ?_, ?_⟩
          · rw [isNext]
            exact display_eq
          · rw [isNext]
            exact inFlight_eq
          · exact held.trans (handles.append_right abandoned)
      | true =>
          rw [Framebuffer.handles_valid valid] at handles
          have isHeld : displayUse.held.Perm
              (framebuffer :: (Framebuffer.handles next.locals ++ abandoned)) := by
            apply (held.trans (handles.append_right abandoned)).trans
            rw [List.append_assoc]
            exact List.perm_middle
          have erased := isHeld.erase framebuffer
          rw [List.erase_cons_head] at erased
          have possible : DisplayUse.machine.Enabled displayUse
              (.releaseFramebuffer framebuffer surroundings) :=
            fun _ => isHeld.mem_iff.mpr List.mem_cons_self
          have deed : DisplayUse.machine.step displayUse
              (.releaseFramebuffer framebuffer surroundings) =
                some (displayUse.afterRelease framebuffer release) := by
            change displayUse.step (.releaseFramebuffer framebuffer surroundings) = _
            rw [DisplayUse.step, released]
            rfl
          refine ⟨_, _, .single possible deed, ?_⟩
          rcases Display.releaseFramebuffer_eq_ok released with
            ⟨invalid, rfl⟩ | ⟨_, rfl⟩ | ⟨_, rfl⟩
          · cases valid.symm.trans invalid
          · refine ⟨?_, ?_, erased⟩
            · rw [isNext]
              exact display_eq
            · rw [isNext]
              exact congrArg (· ++ [framebuffer]) inFlight_eq
          · refine ⟨?_, ?_, erased⟩
            · rw [isNext]
              simp only [DisplayUse.afterRelease, afterRelease, display_eq]
            · rw [isNext]
              exact inFlight_eq
  | completed framebuffer isNext =>
      have inFlight : DisplayUse.machine.Enabled displayUse (.completed framebuffer) := by
        change framebuffer ∈ displayUse.inFlight
        rw [inFlight_eq]
        exact enabled
      refine ⟨_, _, .single inFlight rfl, ?_, ?_, ?_⟩
      · rw [isNext]
        simp only [display_eq]
      · rw [isNext]
        simp only [inFlight_eq]
      · rw [isNext]
        exact held

/-- Every run of a program is matched, and what it abandons is what its events do. -/
theorem Matches.run {events : List Event} {last : HandleUse}
    (isMatched : use.Matches abandoned displayUse) (run : machine.Run use events last) :
    ∃ deeds after, DisplayUse.machine.Run displayUse deeds after ∧
      last.Matches (use.abandonedIn events ++ abandoned) after := by
  induction run generalizing abandoned displayUse with
  | nil => exact ⟨[], displayUse, .nil displayUse, isMatched⟩
  | @cons use middle last event events enabled stepped _ induction =>
      rcases isMatched.step enabled stepped with ⟨deeds, during, matched, middleMatched⟩
      rcases induction middleMatched with ⟨later, after, rest, lastMatched⟩
      refine ⟨deeds ++ later, after, matched.append rest, lastMatched.perm ?_⟩
      rw [abandonedIn_cons stepped, ← List.append_assoc]
      exact List.perm_append_comm.append_right abandoned

end Step

section Runs

variable (config : FramebufferPool.Config) (size : Size UInt16)
  (displayResize supportsResize : Bool)

/-- Whatever a program does with its handles, it keeps to what the display expects of an
application: it only releases what it was given, and nothing twice, and what it was given
and not released is in its variables or was abandoned by one of its events. So over real
buffers the pool never fails to find the next one. -/
theorem keepsProtocol_of_run (nonempty : 0 < config.fbAddr.length) {events : List Event}
    {last : HandleUse}
    (run : machine.Run (start config size displayResize supportsResize) events last) :
    (∃ deeds held,
      DisplayUse.machine.Run (DisplayUse.start config size displayResize supportsResize) deeds
          ⟨last.display, held, last.inFlight⟩ ∧
        held.Perm (handles last.locals ++
          (start config size displayResize supportsResize).abandonedIn events)) ∧
      ((∀ address ∈ config.fbAddr, address ≠ nullptr) → config.pixelFormat ≠ .none →
        last.display.getFramebuffer.isSome) := by
  have initially : (start config size displayResize supportsResize).Matches []
      (DisplayUse.start config size displayResize supportsResize) := ⟨rfl, rfl, .refl _⟩
  rcases initially.run run with
    ⟨deeds, ⟨display, held, inFlight⟩, matched, display_eq, inFlight_eq, held_eq⟩
  cases display_eq
  cases inFlight_eq
  rw [List.append_nil] at held_eq
  refine ⟨⟨deeds, held, matched, held_eq⟩, ?_⟩
  have conserved := matched.invariant (DisplayUse.Conserved config)
    (fun _ _ _ holds enabled stepped => holds.step enabled stepped)
    (DisplayUse.start_conserved config nonempty size displayResize supportsResize)
  exact conserved.getFramebuffer_isSome

/-- In number, no buffer is missing exactly as long as no event overwrites or destroys a
valid handle, and there are never more of them than the pool has. -/
theorem accountedFor_throughout_iff {events : List Event} {last : HandleUse}
    (run : machine.Run (start config size displayResize supportsResize) events last) :
    (machine.Throughout (fun use => use.accountedFor = config.fbAddr.length)
        (start config size displayResize supportsResize) events ↔
      machine.EveryStep (fun use event => use.abandoned event = [])
        (start config size displayResize supportsResize) events) ∧
      last.accountedFor ≤ config.fbAddr.length := by
  constructor
  · apply run.throughout_iff_everyStep (fun _ => True)
    · intros
      trivial
    · intro use event next _ all enabled stepped
      have total := accountedFor_step enabled stepped
      rw [← List.length_eq_zero_iff]
      omega
    · trivial
    · rfl
  · apply run.invariant (fun use => use.accountedFor ≤ config.fbAddr.length)
    · intro use event next atMost enabled stepped
      have total := accountedFor_step enabled stepped
      omega
    · exact Nat.le_refl _

end Runs

/-- A variable that gets the only framebuffer and is then moved into itself. -/
def movedIntoItself : List Event := [.move .declare, .getFramebuffer 0, .move (.assign 0 0)]

/-- The variable is empty, and so is the pool. -/
def afterSelfMove : HandleUse where
  display := {
    size := ⟨320, 240⟩
    framebufferPool := { FramebufferPool.create DisplayUse.oneBuffer with
      framebufferSemaphore := 0 }
    displayResize := false
    supportsResize := false }
  locals := [DisplayUse.oneFramebuffer.movedFrom]
  inFlight := []

theorem movedIntoItself_run : machine.Run (start DisplayUse.oneBuffer ⟨320, 240⟩ false false)
    movedIntoItself afterSelfMove :=
  .of_execute rfl

theorem keepsProtocol_of_run_movedIntoItself :
    ∃ deeds held, DisplayUse.machine.Run
        (DisplayUse.start DisplayUse.oneBuffer ⟨320, 240⟩ false false) deeds
        ⟨afterSelfMove.display, held, []⟩ ∧
      held.Perm [DisplayUse.oneFramebuffer] ∧
      afterSelfMove.display.getFramebuffer.isSome :=
  have kept := keepsProtocol_of_run DisplayUse.oneBuffer ⟨320, 240⟩ false false (by decide)
    movedIntoItself_run
  have ⟨deeds, held, run, isHeld⟩ := kept.1
  ⟨deeds, held, run, isHeld, kept.2 (by decide) (by decide)⟩

theorem accountedFor_throughout_iff_movedIntoItself :
    ¬machine.Throughout (fun use => use.accountedFor = 1)
      (start DisplayUse.oneBuffer ⟨320, 240⟩ false false) movedIntoItself := by
  intro throughout
  have careful := (accountedFor_throughout_iff DisplayUse.oneBuffer ⟨320, 240⟩ false false
    movedIntoItself_run).1.mp throughout
  have last := ((careful.2 _ rfl).2 _ rfl).1
  cases last

end HandleUse

end PigweedExperimental
