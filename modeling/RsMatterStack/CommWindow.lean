import Mathlib.Logic.Relation
import Mathlib.Tactic.Common

set_option autoImplicit false

/-! The commissioning window and the loop of `wait_comm_window`. -/

namespace RsMatterStack

/-- What the stack observes of the window: whether one is open, and its opener. A
window re-opened by an administrator over CASE has one (`opener: Some`). -/
inductive CommWindowState
  | closed
  | opened (opener : Option Nat)
deriving DecidableEq, Repr

namespace CommWindowState

def isOpen : CommWindowState → Bool
  | closed => false
  | opened _ => true

/-- The device opened the window for itself. -/
def isOpenOnAllTransports : CommWindowState → Bool
  | opened none => true
  | _ => false

@[simp] theorem isOpen_of_allTransports {state : CommWindowState}
    (all : state.isOpenOnAllTransports = true) : state.isOpen = true := by
  cases state with
  | closed => cases all
  | opened opener => rfl

end CommWindowState

/-- The window with its history: `version` counts its changes, and is what a future
from `wait_comm_window_changed` compares with; `opening` counts the windows opened
so far, and names the current one. -/
structure Window where
  state : CommWindowState
  version : Nat
  opening : Nat
deriving DecidableEq, Repr

inductive WindowEvent
  /-- The device opens a window for all transports. -/
  | openBasic
  /-- An administrator opens one over CASE. -/
  | openOverCase (opener : Nat)
  | close
deriving DecidableEq, Repr

namespace Window

def opened (window : Window) (opener : Option Nat) : Window :=
  ⟨.opened opener, window.version + 1, window.opening + 1⟩

/-- A second window is refused while one is open. -/
def apply (window : Window) : WindowEvent → Option Window
  | .openBasic => if window.state.isOpen then none else some (window.opened none)
  | .openOverCase opener =>
      if window.state.isOpen then none else some (window.opened (some opener))
  | .close =>
      if window.state.isOpen then some ⟨.closed, window.version + 1, window.opening⟩ else none

theorem apply_version {window next : Window} {event : WindowEvent}
    (changed : window.apply event = some next) : next.version = window.version + 1 := by
  cases event <;> simp only [apply] at changed <;> split at changed
  all_goals first
    | contradiction
    | (cases Option.some.inj changed
       rfl)

/-- An open window can only be closed. -/
theorem apply_of_open {window next : Window} {event : WindowEvent}
    (opened : window.state.isOpen = true) (changed : window.apply event = some next) :
    event = .close := by
  cases event with
  | close => rfl
  | _ => simp [apply, opened] at changed

/-- Only the device itself opens a window for all transports. -/
theorem apply_other {window next : Window} {event : WindowEvent} (other : event ≠ .openBasic)
    (changed : window.apply event = some next) : next.state.isOpenOnAllTransports = false := by
  cases event with
  | openBasic => exact absurd rfl other
  | openOverCase opener =>
      obtain ⟨_, same⟩ := Option.ite_none_left_eq_some.mp changed
      cases Option.some.inj same
      rfl
  | close =>
      obtain ⟨_, same⟩ := Option.ite_none_right_eq_some.mp changed
      cases Option.some.inj same
      rfl

/-- The open all-transports window, if there is one. -/
def allTransports (window : Window) : Option Nat :=
  if window.state.isOpenOnAllTransports then some window.opening else none

@[simp] theorem allTransports_isSome {window : Window} :
    window.allTransports.isSome = true ↔ window.state.isOpenOnAllTransports = true := by
  simp [allTransports]

end Window

/-- Where `wait_comm_window` stands in its loop: `changed` is the version at which
its future was obtained, `state` the window it has read; `accept` below is `until`. -/
inductive Wait
  | subscribe
  | read (changed : Nat)
  | test (changed : Nat) (state : Window)
  | awaiting (changed : Nat) (state : Window)
  | returned (state : Window)
deriving DecidableEq, Repr

namespace Wait

/-- One step of the loop; `none` while it is suspended, and once it has returned. -/
def step (accept : CommWindowState → Bool) (window : Window) : Wait → Option Wait
  -- Subscribe before reading the state
  | subscribe => some (read window.version)
  | read changed => some (test changed window)
  | test changed state => if accept state.state then some (returned state)
      else some (awaiting changed state)
  | awaiting changed _ => if changed = window.version then none else some subscribe
  | returned _ => none

/-- Each kind of step of the loop. -/
inductive Step (accept : CommWindowState → Bool) (window : Window) : Wait → Wait → Prop
  | subscribe : Step accept window .subscribe (.read window.version)
  | read {changed : Nat} : Step accept window (.read changed) (.test changed window)
  | accepted {changed : Nat} {state : Window} (accepts : accept state.state = true) :
      Step accept window (.test changed state) (.returned state)
  | rejected {changed : Nat} {state : Window} (rejects : accept state.state = false) :
      Step accept window (.test changed state) (.awaiting changed state)
  | woken {changed : Nat} {state : Window} (stale : changed ≠ window.version) :
      Step accept window (.awaiting changed state) .subscribe

theorem step_cases {accept : CommWindowState → Bool} {window : Window} {wait next : Wait}
    (moved : wait.step accept window = some next) : Step accept window wait next := by
  cases wait with
  | subscribe =>
      cases Option.some.inj moved
      exact .subscribe
  | read changed =>
      cases Option.some.inj moved
      exact .read
  | test changed state =>
      simp only [step] at moved
      split at moved
      · rename_i accepts
        cases Option.some.inj moved
        exact .accepted accepts
      · rename_i rejects
        cases Option.some.inj moved
        exact .rejected (Bool.not_eq_true _ ▸ rejects)
  | awaiting changed state =>
      obtain ⟨stale, same⟩ := Option.ite_none_left_eq_some.mp moved
      cases Option.some.inj same
      exact .woken stale
  | returned state => cases moved

/-- Suspended, with no change that it has not been told of. -/
def Quiescent (window : Window) : Wait → Prop
  | awaiting changed _ => changed = window.version
  | _ => False

instance (window : Window) : (wait : Wait) → Decidable (wait.Quiescent window)
  | awaiting changed _ => inferInstanceAs (Decidable (changed = window.version))
  | subscribe | read _ | test _ _ | returned _ => inferInstanceAs (Decidable False)

/-- The state the loop has read in its current round. -/
def lastRead : Wait → Option Window
  | test _ state | awaiting _ state => some state
  | _ => none

/-- Only the read step gives the loop a state to judge. -/
theorem lastRead_step {accept : CommWindowState → Bool} {window state : Window}
    {wait next : Wait} (moved : wait.step accept window = some next)
    (held : next.lastRead = some state) :
    wait.lastRead = some state ∨ ∃ changed, wait = read changed ∧ state = window := by
  cases step_cases moved with
  | @read changed => exact Or.inr ⟨changed, rfl, (Option.some.inj held).symm⟩
  | rejected => exact Or.inl held
  | subscribe | accepted | woken => cases held

/-- A state read earlier is the current one unless the window has changed since. -/
def Seen (window state : Window) : Prop :=
  state.version ≤ window.version ∧ (state.version = window.version → state = window)

theorem Seen.refl (window : Window) : Seen window window := ⟨Nat.le_refl _, fun _ => rfl⟩

theorem Seen.apply {window next state : Window} {event : WindowEvent}
    (seen : Seen window state) (changed : window.apply event = some next) : Seen next state := by
  have version := Window.apply_version changed
  have earlier := seen.1
  exact ⟨by omega, fun same => by omega⟩

/-- The loop invariant: the future is at least as old as the state read after it. -/
def Valid (accept : CommWindowState → Bool) (window : Window) : Wait → Prop
  | subscribe => True
  | read changed => changed ≤ window.version
  | test changed state => changed ≤ state.version ∧ Seen window state
  | awaiting changed state =>
      changed ≤ state.version ∧ Seen window state ∧ accept state.state = false
  | returned state => Seen window state ∧ accept state.state = true

variable {accept : CommWindowState → Bool} {window next : Window} {wait : Wait}

theorem Valid.step {after : Wait} (valid : wait.Valid accept window)
    (moved : wait.step accept window = some after) : after.Valid accept window := by
  cases step_cases moved with
  | subscribe => exact Nat.le_refl _
  | read => exact ⟨valid, Seen.refl window⟩
  | accepted accepts => exact ⟨valid.2, accepts⟩
  | rejected rejects => exact ⟨valid.1, valid.2, rejects⟩
  | woken => trivial

theorem Valid.apply {event : WindowEvent} (valid : wait.Valid accept window)
    (changed : window.apply event = some next) : wait.Valid accept next := by
  cases wait with
  | subscribe => trivial
  | read version =>
      have later := Window.apply_version changed
      have earlier : version ≤ window.version := valid
      change version ≤ next.version
      omega
  | test version state => exact ⟨valid.1, valid.2.apply changed⟩
  | awaiting version state => exact ⟨valid.1, valid.2.1.apply changed, valid.2.2⟩
  | returned state => exact ⟨valid.1.apply changed, valid.2⟩

/-- A quiescent loop has read the current window, and does not accept it. -/
theorem Valid.quiescent (valid : wait.Valid accept window) (quiet : wait.Quiescent window) :
    ∃ changed, wait = .awaiting changed window ∧ accept window.state = false := by
  cases wait with
  | awaiting changed state =>
      have current : changed = window.version := quiet
      obtain ⟨older, seen, rejected⟩ := valid
      have same : state = window := seen.2 (Nat.le_antisymm seen.1 (by omega))
      subst same
      exact ⟨changed, rfl, rejected⟩
  | _ => cases quiet

/-- Polled without any change, the loop stays with a state that it does not accept. -/
theorem settles (version : Nat) (rejected : accept window.state = false) :
    Relation.ReflTransGen (fun now next => Wait.step accept window now = some next)
      (.read version) (.awaiting window.version window) := by
  have tested (changed : Nat) :
      Relation.ReflTransGen (fun now next => Wait.step accept window now = some next)
        (.read changed) (.awaiting changed window) :=
    .tail (.single rfl) (by simp [Wait.step, rejected])
  by_cases current : version = window.version
  · rw [current]
    exact tested window.version
  · have woken : Wait.step accept window (.awaiting version window) = some .subscribe := by
      simp [Wait.step, current]
    have again : Wait.step accept window .subscribe = some (.read window.version) := rfl
    exact (((tested version).tail woken).tail again).trans (tested window.version)

end Wait

/-- The two waits of `wait_next_comm_window`: the current window for all transports
goes away, and the next one appears. -/
inductive NextWindow
  | leaving (wait : Wait)
  | appearing (wait : Wait)
deriving DecidableEq, Repr

namespace NextWindow

def notOnAllTransports (state : CommWindowState) : Bool := !state.isOpenOnAllTransports

def start : NextWindow := .leaving .subscribe

/-- One step of the current wait; `none` while it is suspended, and at the end. -/
def step (window : Window) : NextWindow → Option NextWindow
  | leaving (.returned _) => some (appearing .subscribe)
  | leaving wait => (wait.step notOnAllTransports window).map leaving
  | appearing wait => (wait.step (·.isOpenOnAllTransports) window).map appearing

def Quiescent (window : Window) : NextWindow → Prop
  | leaving wait | appearing wait => wait.Quiescent window

def Valid (window : Window) : NextWindow → Prop
  | leaving wait => wait.Valid notOnAllTransports window
  | appearing wait => wait.Valid (·.isOpenOnAllTransports) window

/-- A step of one of the waits, or the end of the first. -/
inductive Step (window : Window) : NextWindow → NextWindow → Prop
  | leaving {wait next : Wait} (inner : wait.step notOnAllTransports window = some next) :
      Step window (.leaving wait) (.leaving next)
  | left {state : Window} : Step window (.leaving (.returned state)) (.appearing .subscribe)
  | appearing {wait next : Wait} (inner : wait.step (·.isOpenOnAllTransports) window = some next) :
      Step window (.appearing wait) (.appearing next)

variable {window changed : Window} {next after : NextWindow}

theorem step_cases (moved : next.step window = some after) : Step window next after := by
  unfold step at moved
  split at moved
  · cases Option.some.inj moved
    exact .left
  · obtain ⟨wait, inner, rfl⟩ := Option.map_eq_some_iff.mp moved
    exact .leaving inner
  · obtain ⟨wait, inner, rfl⟩ := Option.map_eq_some_iff.mp moved
    exact .appearing inner

theorem Valid.step (valid : next.Valid window) (moved : next.step window = some after) :
    after.Valid window := by
  cases step_cases moved with
  | leaving inner | appearing inner => exact Wait.Valid.step valid inner
  | left => trivial

theorem Valid.apply {event : WindowEvent} (valid : next.Valid window)
    (applied : window.apply event = some changed) : next.Valid changed := by
  cases next with
  | leaving wait | appearing wait => exact Wait.Valid.apply valid applied

end NextWindow

end RsMatterStack
