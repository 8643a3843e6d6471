import RsMatterStack.StackStep

set_option autoImplicit false

/-! Windows for all transports that an operational phase leaves without BLE. -/

namespace RsMatterStack.Stack

open Transition (Reachable Reaches Everywhere everywhere_append Machine)

variable {Creds : Type}

def carriedStep (carried : Option Nat) : StackEvent Creds → Option Nat
  | .bleEnded opening => opening
  | .operEnded _ | .runStarted _ | .runEnded _ => none
  | _ => carried

/-- The window that the phase directly before in this run, if it was a BLE phase, was
carrying as it ended. -/
def carried (log : List (StackEvent Creds)) : Option Nat := log.foldl carriedStep none

/-- The operational phase is suspended, and has been told of every window change. -/
def OperQuiescent (stack : Stack Creds) : Prop :=
  ∃ waiting, stack.run = .oper waiting ∧ waiting.Quiescent stack.window

/-- An open window for all transports is the one that the BLE phase was carrying. -/
def WindowCarried (log : List (StackEvent Creds)) (stack : Stack Creds) : Prop :=
  ∀ opening, stack.window.allTransports = some opening → carried log = some opening

/-- The first wait of `wait_next_comm_window` reads no other window for all transports. -/
def ReadsCarried (before : List (StackEvent Creds)) : StackEvent Creds → Prop
  | .readLeaving (some opening) => carried before = some opening
  | _ => True

variable {config : Config} {stack next : Stack Creds} {action : StackAction Creds}
  {log events : List (StackEvent Creds)} {window : Window} {base capacity : Nat}

/-- The waits of the operational phase know the window, and the first of them has only
read the one carried by the BLE phase. -/
structure Leaving (log : List (StackEvent Creds)) (stack : Stack Creds) : Prop where
  valid : ∀ waiting, stack.run = .oper waiting → waiting.Valid stack.window
  read : ∀ wait state, stack.run = .oper (.leaving wait) → wait.lastRead = some state →
    ∀ opening, state.allTransports = some opening → carried log = some opening

theorem carried_append : carried (log ++ events) = events.foldl carriedStep (carried log) := by
  simp only [carried, List.foldl_append]

theorem Leaving.keep (now : Leaving log stack) (window : next.window = stack.window)
    (run : next.run = stack.run) (kept : carried (log ++ events) = carried log) :
    Leaving (log ++ events) next := by
  constructor
  · rw [window, run]
    exact now.valid
  · rw [run, kept]
    exact now.read

theorem Leaving.elsewhere (other : ∀ waiting, next.run ≠ .oper waiting) : Leaving log next :=
  ⟨fun waiting located => absurd located (other waiting),
    fun _ _ located => absurd located (other _)⟩

theorem Leaving.enter (located : next.run = .oper .start) : Leaving log next := by
  constructor
  · intro waiting same
    rw [located] at same
    cases same
    trivial
  · intro wait state same read
    rw [located] at same
    cases same
    cases read

theorem Step.leaving (moved : Step config stack action events next) (now : Leaving log stack)
    (reads : Everywhere (fun before => ReadsCarried (log ++ before)) events) :
    Leaving (log ++ events) next := by
  cases moved with
  | window event applied =>
      constructor
      · intro waiting located
        exact (now.valid waiting located).apply applied
      · intro wait state located read
        rw [carried_append]
        exact now.read wait state located read
  | readLeaving located =>
      constructor
      · intro waiting same
        cases same
        exact (now.valid _ located).step rfl
      · intro wait state same read opening all
        cases same
        cases read
        rw [all] at reads
        simpa [ReadsCarried, carried_append, carriedStep] using reads
  | operPolled located other inner =>
      constructor
      · intro waiting same
        cases same
        exact (now.valid _ located).step inner
      · intro wait state same read
        cases same
        rw [carried_append]
        cases NextWindow.step_cases inner with
        | leaving moved =>
            rcases Wait.lastRead_step moved read with earlier | ⟨version, rfl, _⟩
            · exact now.read _ state located earlier
            · exact absurd rfl (other version)
  | operSkipped | connected => exact .enter rfl
  | hydrated | starting | loaded | startupOk | handled | recorded | reserved =>
      exact now.keep rfl rfl carried_append
  | reset outcome => cases outcome <;> exact now.keep rfl rfl carried_append
  | _ => exact .elsewhere (by simp)

theorem reachable_leaving
    (reached : Reachable (machine config) (fresh window base capacity) log stack)
    (reads : Everywhere ReadsCarried log) : Leaving log stack := by
  have together : Everywhere ReadsCarried log → Leaving log stack := by
    apply reached.invariant (fun log stack => Everywhere ReadsCarried log → Leaving log stack)
    · intro _
      exact .elsewhere (by simp [fresh])
    · intro log events stack next action _ now _ moved reads
      obtain ⟨before, added⟩ := everywhere_append.mp reads
      exact (step_cases moved).leaving (now before) added
  exact together reads

/-- A quiescent operational phase waits for the end of a window that it has read, or for
a window that is not open. -/
theorem Leaving.carried (now : Leaving log stack) (quiet : stack.OperQuiescent) :
    WindowCarried log stack := by
  obtain ⟨waiting, located, suspended⟩ := quiet
  have valid := now.valid waiting located
  intro opening all
  cases waiting with
  | leaving wait =>
      have known : wait.Valid NextWindow.notOnAllTransports stack.window := valid
      obtain ⟨version, same, _⟩ := known.quiescent suspended
      subst same
      exact now.read _ stack.window located rfl opening all
  | appearing wait =>
      have known : wait.Valid (·.isOpenOnAllTransports) stack.window := valid
      obtain ⟨_, _, shut⟩ := known.quiescent suspended
      simp [Window.allTransports, shut] at all

theorem poll_leaving (log : List (StackEvent Creds)) {wait after : Wait}
    (moved : wait.step NextWindow.notOnAllTransports stack.window = some after) :
    ∃ events, (machine config).step { stack with run := .oper (.leaving wait) } .poll =
        some ({ stack with run := .oper (.leaving after) }, events) ∧
      carried (log ++ events) = carried log := by
  cases wait with
  | returned state => cases moved
  | read version =>
      refine ⟨[.readLeaving stack.window.allTransports], ?_, carried_append⟩
      simp [machine, step, pollWindow, NextWindow.step, moved]
  | _ =>
      refine ⟨[], ?_, carried_append⟩
      simp [machine, step, pollWindow, NextWindow.step, moved]

/-- Polls move the first wait on, and change nothing else. -/
theorem leaving_polls {wait last : Wait}
    (steps : Relation.ReflTransGen
      (fun now next => Wait.step NextWindow.notOnAllTransports stack.window now = some next)
      wait last) :
    ∃ events, Reaches (machine config) (fun _ action => action = .poll)
      { stack with run := .oper (.leaving wait) } events
      { stack with run := .oper (.leaving last) } ∧ carried (log ++ events) = carried log := by
  induction steps with
  | refl => exact ⟨[], .start, carried_append⟩
  | tail _ moved ih =>
      obtain ⟨events, reached, kept⟩ := ih
      obtain ⟨added, polled, same⟩ := poll_leaving (log ++ events) moved
      refine ⟨events ++ added, reached.step rfl polled, ?_⟩
      rw [← List.append_assoc, same, kept]

/-- Once it has read another window, the operational phase stays with it. -/
theorem window_stranded {version opening : Nat}
    (located : stack.run = .oper (.leaving (.read version)))
    (all : stack.window.allTransports = some opening) (other : carried log ≠ some opening) :
    ∃ events last, Reaches (machine config) (fun _ action => action = .poll) stack events last ∧
      last.OperQuiescent ∧ ¬ WindowCarried (log ++ events) last := by
  have rejected : NextWindow.notOnAllTransports stack.window.state = false := by
    have opened := Window.allTransports_isSome.mp (Option.isSome_of_eq_some all)
    simp [NextWindow.notOnAllTransports, opened]
  obtain ⟨events, reached, kept⟩ := leaving_polls (Wait.settles version rejected)
  rw [← located] at reached
  refine ⟨events, _, reached, ⟨_, rfl, rfl⟩, ?_⟩
  intro follows
  rw [WindowCarried, kept] at follows
  exact other (follows opening all)

/-- An operational phase waits beside an open window for all transports only if the BLE
phase before it carried that window, in every run in which the first wait reads no other
one, and in no run after such a read. -/
theorem oper_window_carried
    (reached : Reachable (machine config) (fresh window base capacity) log stack) :
    (Everywhere ReadsCarried log → stack.OperQuiescent → WindowCarried log stack) ∧
    ∀ version opening, stack.run = .oper (.leaving (.read version)) →
      stack.window.allTransports = some opening → carried log ≠ some opening →
      ∃ events last, Reaches (machine config) (fun _ action => action = .poll) stack events last ∧
        last.OperQuiescent ∧ ¬ WindowCarried (log ++ events) last :=
  ⟨fun reads quiet => (reachable_leaving reached reads).carried quiet,
    fun _ _ located all other => window_stranded located all other⟩

/-- The window of a commissioning is carried over to the operational phase. -/
theorem oper_window_carried_commissioning :
    ∃ log stack, Reachable (machine smallConfig) smallStack log stack ∧
      stack.window.allTransports = some 1 ∧ WindowCarried log stack := by
  have executed : (machine smallConfig).exec smallStack
      (commissioning ++ [.poll, .poll, .poll]) =
      some (_, [.window .openBasic, .runStarted false, .bleStarted, .lent _, .btpStarted,
        .startupIm, .startupOk, .served, .handled _, .recorded _, .bleEnded (some 1),
        .operStarted (some 1), .deferred _, .lookedUp _ _, .recorded _, .lent _,
        .readLeaving (some 1)]) := rfl
  have reached := Machine.exec_reachable executed
  refine ⟨_, _, reached, rfl, (oper_window_carried reached).1 ?_ ⟨_, rfl, rfl⟩⟩
  simp [ReadsCarried, carried, carriedStep]

/-- The device opens its window while the driver brings the radio up. -/
theorem window_without_ble :
    ∃ log stack, Reachable (machine smallConfig) smallStack log stack ∧
      stack.OperQuiescent ∧ stack.window.allTransports = some 1 ∧ ¬ WindowCarried log stack := by
  have executed : (machine smallConfig).exec smallStack
      [.run false true, .head, .window .openBasic, .operTask, .poll, .poll, .poll] =
      some (_, [.runStarted false, .operStarted none, .window .openBasic, .deferred none, .lent _,
        .readLeaving (some 1)]) := rfl
  refine ⟨_, _, Machine.exec_reachable executed, ⟨_, rfl, rfl⟩, rfl, ?_⟩
  intro follows
  cases follows 1 rfl

end RsMatterStack.Stack
