import RsMatterStack.StackStep

set_option autoImplicit false

/-! When an operational phase gives the radio back to BLE. -/

namespace RsMatterStack.Stack

open Transition (Reachable Everywhere everywhere_append Machine)

variable {Creds : Type}

def openedStep (opened : Bool) : StackEvent Creds → Bool
  | .operStarted _ => false
  | .window .openBasic => true
  | _ => opened

/-- A window for all transports was opened since the operational phase started. -/
def opened (log : List (StackEvent Creds)) : Bool := log.foldl openedStep false

def heldStep (held : Bool) : StackEvent Creds → Bool
  | .operStarted allTransports => allTransports.isSome
  | .window .close | .runStarted _ | .runEnded _ => false
  | _ => held

/-- A window for all transports was open as an operational phase of the current run
started, and is open since. -/
def held (log : List (StackEvent Creds)) : Bool := log.foldl heldStep false

/-- No BLE phase starts for such a window, and an operational phase only returns `Ok`
because another one was opened in it. -/
def StaysOperational (before : List (StackEvent Creds)) : StackEvent Creds → Prop
  | .bleStarted => held before = false
  | .operEnded cause => cause = .window ∧ opened before = true
  | _ => True

/-- No task of an operational phase returns `Ok`. -/
def NoTaskEnds (log : List (StackEvent Creds)) : Prop := ∀ task, .operEnded (.task task) ∉ log

/-- If a window for all transports is open, it was opened in this phase. -/
def Fresh (opened : Bool) (window : Window) : Prop :=
  window.state.isOpenOnAllTransports = true → opened = true

/-- What `wait_next_comm_window` has found out about the phase. -/
def Waited (opened : Bool) (window : Window) : NextWindow → Prop
  | .leaving (.test _ state) => state.state.isOpenOnAllTransports = false → Fresh opened window
  | .leaving (.returned _) => Fresh opened window
  | .leaving _ => True
  | .appearing (.test _ state) =>
      Fresh opened window ∧ (state.state.isOpenOnAllTransports = true → opened = true)
  | .appearing (.returned _) => opened = true
  | .appearing _ => Fresh opened window

section

variable {since : Bool} {window changed : Window} {waiting after : NextWindow}

theorem Waited.step (waited : Waited since window waiting)
    (moved : waiting.step window = some after) : Waited since window after := by
  cases NextWindow.step_cases moved with
  | left => exact waited
  | leaving inner =>
      cases Wait.step_cases inner with
      | subscribe | rejected | woken => trivial
      | read =>
          intro shut all
          rw [shut] at all
          cases all
      | accepted accepts =>
          exact waited (by simpa [NextWindow.notOnAllTransports] using accepts)
  | appearing inner =>
      cases Wait.step_cases inner with
      | subscribe | woken => exact waited
      | read => exact ⟨waited, waited⟩
      | accepted all => exact waited.2 all
      | rejected => exact waited.1

/-- A change of the window leaves none open that was not opened in the phase. -/
theorem Fresh.apply {event : WindowEvent} (applied : window.apply event = some changed) :
    Fresh (openedStep since (.window event : StackEvent Creds)) changed := by
  intro all
  by_cases basic : event = .openBasic
  · rw [basic, openedStep]
  · have other := Window.apply_other basic applied
    rw [all] at other
    cases other

theorem Waited.apply {event : WindowEvent} (applied : window.apply event = some changed)
    (waited : Waited since window waiting) :
    Waited (openedStep since (.window event : StackEvent Creds)) changed waiting := by
  have fresh : Fresh (openedStep since (.window event : StackEvent Creds)) changed :=
    Fresh.apply applied
  have stays (before : since = true) :
      openedStep since (.window event : StackEvent Creds) = true := by
    cases event <;> simp [openedStep, before]
  cases waiting with
  | leaving wait =>
      cases wait with
      | subscribe | read | awaiting => trivial
      | test => exact fun _ => fresh
      | returned => exact fresh
  | appearing wait =>
      cases wait with
      | subscribe | read | awaiting => exact fresh
      | test => exact ⟨fresh, fun all => stays (waited.2 all)⟩
      | returned => exact stays waited

end

variable {config : Config} {stack next : Stack Creds} {action : StackAction Creds}
  {log events : List (StackEvent Creds)} {window : Window} {base capacity : Nat}

/-- A window held open is still open, a window opened in the phase is not held, and the
waits of an operational phase know of any window opened in it. -/
structure Radio (log : List (StackEvent Creds)) (stack : Stack Creds) : Prop where
  stillOpen : held log = true → stack.window.state.isOpenOnAllTransports = true
  unheld : opened log = true → held log = false
  waits : ∀ waiting, stack.run = .oper waiting → Waited (opened log) stack.window waiting

theorem opened_append : opened (log ++ events) = events.foldl openedStep (opened log) := by
  simp only [opened, List.foldl_append]

theorem held_append : held (log ++ events) = events.foldl heldStep (held log) := by
  simp only [held, List.foldl_append]

/-- The window stays as it is, and no phase is entered. -/
theorem Radio.keep (now : Radio log stack) (window : next.window = stack.window)
    (unopened : ∀ since, events.foldl openedStep since = since)
    (hold : events.foldl heldStep (held log) = held log ∨
      events.foldl heldStep (held log) = false)
    (run : ∀ waiting, next.run = .oper waiting →
      Waited (opened log) stack.window waiting) :
    Radio (log ++ events) next := by
  constructor
  · rw [held_append, window]
    intro still
    rcases hold with same | gone
    · exact now.stillOpen (same.symm.trans still)
    · rw [gone] at still
      cases still
  · rw [opened_append, held_append, unopened]
    intro since
    rcases hold with same | gone
    · exact same.trans (now.unheld since)
    · exact gone
  · rw [opened_append, unopened, window]
    exact run

theorem Radio.change (now : Radio log stack) {event : WindowEvent} {window : Window}
    (applied : stack.window.apply event = some window) :
    Radio (log ++ [.window event]) { stack with window := window } := by
  have released : held (log ++ [.window event]) = false := by
    rw [held_append]
    by_cases openBefore : held log = true
    · have opened := CommWindowState.isOpen_of_allTransports (now.stillOpen openBefore)
      rw [Window.apply_of_open opened applied]
      rfl
    · have unheld : held log = false := Bool.not_eq_true _ ▸ openBefore
      cases event <;> simp [heldStep, unheld]
  constructor
  · intro still
    rw [released] at still
    cases still
  · intro _
    exact released
  · intro waiting located
    rw [opened_append]
    exact (now.waits waiting located).apply applied

/-- An operational phase starts. -/
theorem Radio.enter (located : next.run = .operSetup) {allTransports : Option Nat}
    (same : allTransports = next.window.allTransports) :
    Radio (log ++ [.operStarted allTransports]) next := by
  constructor
  · intro still
    have someOpen : next.window.allTransports.isSome = true := by
      simpa [held_append, heldStep, same] using still
    exact Window.allTransports_isSome.mp someOpen
  · intro since
    simp [opened_append, openedStep] at since
  · intro waiting other
    rw [located] at other
    cases other

theorem Step.radio (moved : Step config stack action events next) (now : Radio log stack) :
    Radio (log ++ events) next := by
  cases moved with
  | window event applied => exact now.change applied
  | operStarted => exact .enter rfl rfl
  | operDirect _ other => exact .enter rfl (by simp [Window.allTransports, other])
  | readLeaving located =>
      exact now.keep rfl (fun _ => rfl) (Or.inl rfl) (by
        intro waiting same
        cases same
        exact (now.waits _ located).step rfl)
  | operPolled located _ inner =>
      exact now.keep rfl (fun _ => rfl) (Or.inl rfl) (by
        intro waiting same
        cases same
        exact (now.waits _ located).step inner)
  | operSkipped | connected =>
      exact now.keep rfl (fun _ => rfl) (Or.inl rfl) (by
        intro waiting same
        cases same
        trivial)
  | hydrated | starting | loaded | startupOk | handled | recorded | reserved =>
      exact now.keep rfl (fun _ => rfl) (Or.inl rfl) now.waits
  | reset outcome =>
      cases outcome <;> exact now.keep rfl (fun _ => rfl) (Or.inl rfl) now.waits
  | runStarted | coexStarted =>
      exact now.keep rfl (fun _ => rfl) (Or.inr rfl) (by simp)
  | bleStarted | btpStarted | gattPolled | operDeferred | looped =>
      exact now.keep rfl (fun _ => rfl) (Or.inl rfl) (by simp)
  | runFailed | btpPanicked | operMissing | connectFailed | startupFailed | stopped =>
      exact now.keep rfl (by simp [List.foldl_append, foldl_cancelled, openedStep])
        (Or.inr (by simp [List.foldl_append, heldStep])) (by simp)
  | gattDone | windowAppeared | taskDone =>
      exact now.keep rfl (by simp [List.foldl_append, foldl_cancelled, openedStep])
        (Or.inl (by simp [List.foldl_append, foldl_cancelled, heldStep])) (by simp)

theorem reachable_radio
    (reached : Reachable (machine config) (fresh window base capacity) log stack) :
    Radio log stack :=
  reached.invariant (fun log stack => Radio log stack)
    ⟨by simp [held], by simp [held], by simp [fresh]⟩
    (fun _ _ _ _ _ _ now _ moved => (step_cases moved).radio now)

/-- Between its phases, a run holds no window. -/
def Between (log : List (StackEvent Creds)) (stack : Stack Creds) : Prop :=
  stack.run = .head ∨ stack.run = .operTeardown → held log = false

theorem opened_cancelled {im : Option Im} : opened (log ++ cancelled im) = opened log := by
  rw [opened_append, foldl_cancelled]
  simp only [openedStep, ite_self]

/-- An operational phase that ends after a window was opened in it holds none. -/
theorem Radio.between (now : Radio log stack) (since : opened log = true) {im : Option Im}
    {cause : OperEnd} : Between (log ++ (cancelled im ++ [.operEnded cause])) next := by
  intro _
  simpa [held_append, List.foldl_append, foldl_cancelled, heldStep] using now.unheld since

theorem Step.between (moved : Step config stack action events next) (now : Radio log stack)
    (between : Between log stack)
    (ends : NoTaskEnds events) :
    Everywhere (fun before => StaysOperational (log ++ before)) events ∧
      Between (log ++ events) next := by
  cases moved with
  | bleStarted located =>
      have unheld := between (Or.inl located)
      exact ⟨by simp [StaysOperational, unheld], by simp [Between]⟩
  | windowAppeared located =>
      have since : opened log = true := now.waits _ located
      refine ⟨?_, now.between since⟩
      simp [everywhere_append, StaysOperational, opened_cancelled, since]
  | taskDone task => exact absurd (by simp) (ends task)
  | window event =>
      refine ⟨by simp [StaysOperational], ?_⟩
      intro located
      have unheld := between located
      cases event <;> simp [held_append, heldStep, unheld]
  | looped located =>
      exact ⟨by simp, fun _ => by simpa using between (Or.inr located)⟩
  | runStarted => exact ⟨by simp [StaysOperational], by simp [Between, held_append, heldStep]⟩
  | hydrated | starting | loaded | startupOk | handled | recorded | reserved =>
      refine ⟨by simp [StaysOperational], ?_⟩
      intro located
      simpa [held_append, heldStep] using between located
  | reset outcome idle =>
      refine ⟨by simp [StaysOperational], ?_⟩
      cases outcome <;> simp [Between, Stack.reset, idle]
  | _ => exact ⟨by simp [everywhere_append, StaysOperational], by simp [Between]⟩

/-- The radio goes back to BLE only because of a window opened in the operational phase,
exactly if no task of an operational phase returns `Ok`. -/
theorem stays_operational_iff
    (reached : Reachable (machine config) (fresh window base capacity) log stack) :
    Everywhere StaysOperational log ↔ NoTaskEnds log := by
  constructor
  · intro all task member
    obtain ⟨before, after, rfl⟩ := List.append_of_mem member
    have stays : StaysOperational before (.operEnded (.task task)) := all before _ after rfl
    cases stays.1
  · have together : NoTaskEnds log → Everywhere StaysOperational log ∧ Between log stack := by
      apply reached.invariant (fun log stack => NoTaskEnds log →
        Everywhere StaysOperational log ∧ Between log stack)
      · intro _
        exact ⟨by simp, by simp [Between, fresh]⟩
      · intro log events stack next action reached now _ moved ends
        obtain ⟨stays, between⟩ :=
          now (fun task member => ends task (List.mem_append_left _ member))
        have last := (step_cases moved).between (reachable_radio reached) between
          (fun task member => ends task (List.mem_append_right _ member))
        exact ⟨everywhere_append.mpr ⟨stays, last.1⟩, last.2⟩
    exact fun ends => (together ends).1

/-- The second BLE phase of a run is there for a window opened in the operational phase. -/
theorem stays_operational_two_phases :
    Everywhere StaysOperational ((machine smallConfig).logOf smallStack twoPhases) := by
  have executed : ((machine smallConfig).exec smallStack twoPhases).isSome = true := rfl
  obtain ⟨last, reached⟩ := Machine.logOf_reachable executed
  apply (stays_operational_iff reached).mpr
  show NoTaskEnds [.window _, .runStarted _, .bleStarted, .lent _, .btpStarted,
    .window _, .bleEnded _, .operStarted _, .deferred _, .lent _, .readLeaving _, .window _,
    .operEnded .window, .bleStarted, .lent _, .btpStarted]
  simp [NoTaskEnds]

/-- The user task returns while the window of the commissioning is open, and BLE is
back for the same window. -/
theorem user_task_bounces_radio :
    ∃ log stack, Reachable (machine smallConfig) smallStack log stack ∧
      ¬ Everywhere StaysOperational log ∧ stack.window.opening = 1 ∧ stack.run = .gattSetup := by
  have executed : (machine smallConfig).exec smallStack
      (commissioning ++ [.finish .user true, .driverDone, .head]) =
      some (_, [.window .openBasic, .runStarted false, .bleStarted, .lent _, .btpStarted,
        .startupIm, .startupOk, .served, .handled _, .recorded _, .bleEnded (some 1),
        .operStarted (some 1), .deferred _, .lookedUp _ _, .recorded _, .lent _,
        .operEnded (.task .user), .bleStarted]) := rfl
  refine ⟨_, _, Machine.exec_reachable executed, ?_, rfl, rfl⟩
  simp [StaysOperational, held, heldStep, opened, openedStep]

end RsMatterStack.Stack
