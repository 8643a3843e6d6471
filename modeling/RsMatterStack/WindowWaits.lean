import RsMatterStack.CommWindow
import RsMatterStack.Transition

set_option autoImplicit false

/-! `wait_comm_window` and `wait_next_comm_window` beside a window that can change between
any two of their steps. -/

namespace RsMatterStack

open Transition (Machine Reachable Everywhere)

/-- A future that waits for the window: its steps, `none` while it is suspended and at its
end, and which of them read the window. -/
structure Waiter (Control : Type) where
  start : Control
  step : Window → Control → Option Control
  reads : Control → Bool

/-- A future and the window it runs beside. -/
structure Beside (Control : Type) where
  window : Window
  control : Control

inductive WaitAction
  | window (event : WindowEvent)
  | poll
deriving DecidableEq, Repr

inductive WaitEvent
  | window (event : WindowEvent)
  | read (state : Window)
deriving DecidableEq, Repr

namespace Waiter

variable {Control : Type}

def call (waiter : Waiter Control) (entry : Window) : Beside Control := ⟨entry, waiter.start⟩

def act (waiter : Waiter Control) (beside : Beside Control) :
    WaitAction → Option (Beside Control × List WaitEvent)
  | .window event => (beside.window.apply event).map fun next =>
      ({ beside with window := next }, [.window event])
  | .poll => (waiter.step beside.window beside.control).map fun next =>
      ({ beside with control := next },
        if waiter.reads beside.control then [.read beside.window] else [])

def machine (waiter : Waiter Control) : Machine (Beside Control) WaitAction WaitEvent :=
  ⟨waiter.act⟩

end Waiter

namespace Wait

def isRead : Wait → Bool
  | read _ => true
  | _ => false

/-- `wait_comm_window`. -/
def waiter (accept : CommWindowState → Bool) : Waiter Wait :=
  ⟨.subscribe, step accept, isRead⟩

end Wait

namespace NextWindow

def isRead : NextWindow → Bool
  | leaving wait | appearing wait => wait.isRead

/-- `wait_next_comm_window`. -/
def waiter : Waiter NextWindow := ⟨start, step, isRead⟩

end NextWindow

namespace Waiter

def windowStep (window : Window) : WaitEvent → Window
  | .window event => (window.apply event).getD window
  | .read _ => window

/-- The window after the changes of a log. -/
def windowAt (entry : Window) (log : List WaitEvent) : Window := log.foldl windowStep entry

def latestReadStep (last : Option Window) : WaitEvent → Option Window
  | .window _ => last
  | .read state => some state

/-- The state that the last read of a log has found. -/
def latestRead (log : List WaitEvent) : Option Window := log.foldl latestReadStep none

/-- A read finds the window as it is at that moment. -/
def ReadsCurrent (entry : Window) (before : List WaitEvent) : WaitEvent → Prop
  | .read state => state = windowAt entry before
  | .window _ => True

variable {Control : Type} {waiter : Waiter Control} {entry : Window}
  {beside next : Beside Control} {action : WaitAction} {log events : List WaitEvent}

theorem windowAt_append :
    windowAt entry (log ++ events) = events.foldl windowStep (windowAt entry log) := by
  simp only [windowAt, List.foldl_append]

theorem latestRead_append :
    latestRead (log ++ events) = events.foldl latestReadStep (latestRead log) := by
  simp only [latestRead, List.foldl_append]

/-- A change of the window, a read, or another step of the future. -/
inductive Step (waiter : Waiter Control) (beside : Beside Control) :
    List WaitEvent → Beside Control → Prop
  | window (event : WindowEvent) {window : Window}
      (applied : beside.window.apply event = some window) :
      Step waiter beside [.window event] { beside with window := window }
  | read {control : Control} (reads : waiter.reads beside.control = true)
      (moved : waiter.step beside.window beside.control = some control) :
      Step waiter beside [.read beside.window] { beside with control := control }
  | other {control : Control} (reads : waiter.reads beside.control = false)
      (moved : waiter.step beside.window beside.control = some control) :
      Step waiter beside [] { beside with control := control }

theorem step_cases (moved : waiter.machine.step beside action = some (next, events)) :
    Step waiter beside events next := by
  cases action with
  | window event =>
      obtain ⟨window, applied, same⟩ := Option.map_eq_some_iff.mp moved
      cases same
      exact .window event applied
  | poll =>
      obtain ⟨control, inner, same⟩ := Option.map_eq_some_iff.mp moved
      cases same
      cases reads : waiter.reads beside.control with
      | true => exact .read reads inner
      | false => exact .other reads inner

theorem Step.window_eq (moved : Step waiter beside events next) :
    next.window = events.foldl windowStep beside.window := by
  cases moved with
  | window event applied => simp [windowStep, applied]
  | read | other => rfl

/-- The log tells the window. -/
theorem reachable_window (reached : Reachable waiter.machine (waiter.call entry) log beside) :
    beside.window = windowAt entry log :=
  reached.tracked (fun beside => beside.window) windowStep
    (fun _ _ _ _ moved => (step_cases moved).window_eq)

theorem reachable_reads (reached : Reachable waiter.machine (waiter.call entry) log beside) :
    Everywhere (ReadsCurrent entry) log := by
  refine reached.everywhere ?_
  intro log events beside next action reached _ moved
  have current := reachable_window reached
  cases step_cases moved with
  | read => simpa [ReadsCurrent] using current
  | window | other => simp [ReadsCurrent]

end Waiter

namespace Wait

open Waiter (latestRead latestReadStep latestRead_append ReadsCurrent)

variable {accept : CommWindowState → Bool} {entry window : Window} {wait after : Wait}
  {beside next : Beside Wait} {log events : List WaitEvent}

/-- The state that the current round of the loop goes by, also once it has returned. -/
def known : Wait → Option Window
  | test _ state | awaiting _ state | returned state => some state
  | subscribe | read _ => none

/-- The read gives the loop its state, every other step keeps it or starts a new round. -/
theorem known_step (moved : wait.step accept window = some after) :
    after.known = if wait.isRead then some window else after.known.bind (fun _ => wait.known) := by
  cases step_cases moved <;> rfl

/-- The loop goes by what it has read last, and knows whether that is the current state. -/
structure Follows (accept : CommWindowState → Bool) (log : List WaitEvent)
    (beside : Beside Wait) : Prop where
  valid : beside.control.Valid accept beside.window
  known : ∀ state, beside.control.known = some state → latestRead log = some state

theorem Follows.step (now : Follows accept log beside)
    (moved : Waiter.Step (waiter accept) beside events next) :
    Follows accept (log ++ events) next := by
  cases moved with
  | window event applied =>
      constructor
      · exact now.valid.apply applied
      · intro state held
        rw [latestRead_append]
        exact now.known state held
  | read reads inner =>
      constructor
      · exact now.valid.step inner
      · intro state held
        have same := known_step inner
        have located : beside.control.isRead = true := reads
        rw [located, if_pos rfl] at same
        rw [latestRead_append]
        exact same.symm.trans held
  | @other control reads inner =>
      constructor
      · exact now.valid.step inner
      · intro state held
        have located : beside.control.isRead = false := reads
        have same : control.known = control.known.bind (fun _ => beside.control.known) := by
          simpa [located] using known_step inner
        have before : control.known = some state := held
        rw [before] at same
        rw [latestRead_append]
        exact now.known state same.symm

theorem reachable_follows
    (reached : Reachable (waiter accept).machine ((waiter accept).call entry) log beside) :
    Follows accept log beside :=
  reached.invariant (Follows accept) ⟨trivial, by simp [Waiter.call, waiter, known]⟩
    (fun _ _ _ _ _ _ now _ moved => now.step (Waiter.step_cases moved))

/-- However the window changes between any two steps of the loop: suspended without an
undelivered change, it has read the current state last and does not accept it; it returns
the state of its last read, which it accepts. Every read finds the state of that moment. -/
theorem wait_loses_no_change
    (reached : Reachable (waiter accept).machine ((waiter accept).call entry) log beside) :
    (beside.control.Quiescent beside.window →
      latestRead log = some beside.window ∧ accept beside.window.state = false) ∧
    (∀ state, beside.control = .returned state →
      latestRead log = some state ∧ accept state.state = true) ∧
    Everywhere (ReadsCurrent entry) log := by
  have now := reachable_follows reached
  refine ⟨?_, ?_, Waiter.reachable_reads reached⟩
  · intro quiet
    obtain ⟨changed, located, rejected⟩ := now.valid.quiescent quiet
    exact ⟨now.known _ (by rw [located]; rfl), rejected⟩
  · intro state located
    have valid := now.valid
    rw [located] at valid
    exact ⟨now.known state (by rw [located]; rfl), valid.2⟩

/-- A window is opened between the read and the await, and closed again before the wake-up. -/
theorem wait_loses_no_change_merged :
    ∃ log beside, Reachable (waiter (·.isOpen)).machine
        ((waiter (·.isOpen)).call ⟨.closed, 0, 0⟩) log beside ∧
      log = [.read ⟨.closed, 0, 0⟩, .window .openBasic, .window .close, .read ⟨.closed, 2, 1⟩] ∧
      latestRead log = some beside.window := by
  have executed : (waiter (·.isOpen)).machine.exec ((waiter (·.isOpen)).call ⟨.closed, 0, 0⟩)
      [.poll, .poll, .window .openBasic, .poll, .window .close, .poll, .poll, .poll, .poll] =
      some (⟨⟨.closed, 2, 1⟩, .awaiting 2 ⟨.closed, 2, 1⟩⟩, [.read ⟨.closed, 0, 0⟩,
        .window .openBasic, .window .close, .read ⟨.closed, 2, 1⟩]) := rfl
  have reached := Machine.exec_reachable executed
  exact ⟨_, _, reached, rfl, ((wait_loses_no_change reached).1 rfl).1⟩

end Wait

end RsMatterStack
