import RsMatterStack.StrandedWindow
import RsMatterStack.WaitProgress

set_option autoImplicit false

/-! How the radio comes to rest between BLE and the operational network while the window
does not change. -/

namespace RsMatterStack.Stack

open Transition (Everywhere Machine Ranking Reachable)

variable {Creds : Type}

/-- What the run future does about the radio of its own accord, and the driver for it. -/
def Handover : StackAction Creds → Prop
  | .head | .gattTask | .operTask | .poll | .driverDone => True
  | _ => False

/-- A step of the run future between its phases, or of the waits inside one. -/
inductive RunStep (window : Window) : Run → Run → Prop
  | closed {wait next : Wait} {delaying : Bool}
      (inner : wait.step NextWindow.notOnAllTransports window = some next) :
      RunStep window (.gatt wait delaying) (.gatt next delaying)
  | gattDone {state : Window} {delaying : Bool} :
      RunStep window (.gatt (.returned state) delaying) .gattTeardown
  | next {next after : NextWindow} (inner : next.step window = some after) :
      RunStep window (.oper next) (.oper after)
  | appeared {state : Window} : RunStep window (.oper (.appearing (.returned state))) .operTeardown
  | ble (all : window.state.isOpenOnAllTransports = true) : RunStep window .head .gattSetup
  | direct (other : window.state.isOpenOnAllTransports = false) : RunStep window .head .operSetup
  | gatt : RunStep window .gattSetup (.gatt .subscribe false)
  | gattPanics : RunStep window .gattSetup .idle
  | oper : RunStep window .operSetup (.oper .start)
  | connects {networkId : NetworkId} : RunStep window .operSetup (.connecting networkId)
  | operFails : RunStep window .operSetup .idle
  | operStarts : RunStep window .gattTeardown .operSetup
  | loops : RunStep window .operTeardown .head

/-- How many of these steps are left if the window does not change. -/
def rank (window : Window) (run : Run) : Nat :=
  let all := window.state.isOpenOnAllTransports
  match run with
  | .idle | .coex | .connecting _ => 0
  | .operSetup => if all then 4 else 8
  | .gattTeardown => if all then 5 else 9
  | .gattSetup => if all then 4 else 14
  | .head => if all then 5 else 9
  | .operTeardown => if all then 6 else 10
  | .gatt wait _ => wait.rankThen NextWindow.notOnAllTransports window (if all then 5 else 9)
  | .oper (.leaving wait) =>
      wait.rankThen NextWindow.notOnAllTransports window (if all then 10 else 3)
  | .oper (.appearing wait) =>
      wait.rankThen (·.isOpenOnAllTransports) window (if all then 6 else 10)

variable {window : Window} {run after : Run}

theorem rank_le (window : Window) (run : Run) : rank window run ≤ 17 := by
  cases run with
  | gatt wait delaying =>
      apply Nat.le_trans (Wait.rankThen_le _ wait)
      split <;> omega
  | oper next =>
      cases next with
      | leaving wait | appearing wait =>
          apply Nat.le_trans (Wait.rankThen_le _ wait)
          split <;> omega
  | idle | coex | connecting => simp [rank]
  | head | gattSetup | gattTeardown | operSetup | operTeardown =>
      simp only [rank]
      split <;> omega

theorem RunStep.rank (moved : RunStep window run after) :
    Stack.rank window after < Stack.rank window run := by
  cases moved with
  | closed inner =>
      have fewer := Wait.rankThen_step (if window.state.isOpenOnAllTransports then 5 else 9) inner
      simp only [Stack.rank]
      omega
  | gattDone => simp [Stack.rank, Wait.rankThen, Wait.rank, Wait.willReturn]
  | next inner =>
      cases NextWindow.step_cases inner with
      | leaving moved =>
          have fewer :=
            Wait.rankThen_step (if window.state.isOpenOnAllTransports then 10 else 3) moved
          simp only [Stack.rank]
          omega
      | left =>
          cases all : window.state.isOpenOnAllTransports <;>
            simp [Stack.rank, Wait.rankThen, Wait.rank, Wait.willReturn, all]
      | appearing moved =>
          have fewer :=
            Wait.rankThen_step (if window.state.isOpenOnAllTransports then 6 else 10) moved
          simp only [Stack.rank]
          omega
  | appeared => simp [Stack.rank, Wait.rankThen, Wait.rank, Wait.willReturn]
  | ble all => simp [Stack.rank, all]
  | direct other => simp [Stack.rank, other]
  | gatt =>
      cases all : window.state.isOpenOnAllTransports <;>
        simp [Stack.rank, Wait.rankThen, Wait.rank, Wait.willReturn, NextWindow.notOnAllTransports,
          all]
  | oper =>
      cases all : window.state.isOpenOnAllTransports <;>
        simp [Stack.rank, NextWindow.start, Wait.rankThen, Wait.rank, Wait.willReturn,
          NextWindow.notOnAllTransports, all]
  | gattPanics | connects | operFails | operStarts | loops =>
      cases all : window.state.isOpenOnAllTransports <;> simp [Stack.rank, all]

variable {config : Config} {stack next : Stack Creds} {action : StackAction Creds}
  {log events : List (StackEvent Creds)} {base capacity : Nat}

theorem pollWindow_runStep (moved : stack.pollWindow = some (next, events)) :
    RunStep stack.window stack.run next.run ∧ next.window = stack.window := by
  unfold pollWindow at moved
  split at moved
  · rename_i located
    cases Option.some.inj moved
    rw [located]
    exact ⟨.gattDone, rfl⟩
  · rename_i located
    obtain ⟨after, inner, same⟩ := Option.map_eq_some_iff.mp moved
    cases same
    rw [located]
    exact ⟨.closed inner, rfl⟩
  · rename_i located
    cases Option.some.inj moved
    rw [located]
    exact ⟨.appeared, rfl⟩
  · rename_i located
    obtain ⟨after, inner, same⟩ := Option.map_eq_some_iff.mp moved
    cases same
    rw [located]
    exact ⟨.next inner, rfl⟩
  · cases moved

theorem runStep (inside : Handover action)
    (moved : (machine config).step stack action = some (next, events)) :
    RunStep stack.window stack.run next.run ∧ next.window = stack.window := by
  cases action with
  | poll => exact pollWindow_runStep moved
  | head =>
      obtain ⟨located, same⟩ := Option.ite_none_right_eq_some.mp moved
      rw [located]
      simp only [head] at same
      split at same
      · rename_i all
        cases Option.some.inj same
        exact ⟨.ble all, rfl⟩
      · rename_i other
        cases Option.some.inj same
        exact ⟨.direct (Bool.not_eq_true _ ▸ other), rfl⟩
  | gattTask =>
      obtain ⟨located, same⟩ := Option.ite_none_right_eq_some.mp moved
      rw [located]
      simp only [gattTask] at same
      split at same
      · cases Option.some.inj same
        exact ⟨.gattPanics, rfl⟩
      · cases Option.some.inj same
        exact ⟨.gatt, rfl⟩
  | operTask =>
      obtain ⟨located, same⟩ := Option.ite_none_right_eq_some.mp moved
      rw [located]
      simp only [operTask] at same
      split at same
      · cases Option.some.inj same
        exact ⟨.oper, rfl⟩
      · split at same
        · cases Option.some.inj same
          exact ⟨.operFails, rfl⟩
        · cases Option.some.inj same
          exact ⟨.connects, rfl⟩
  | driverDone =>
      simp only [machine, step] at moved
      split at moved
      · rename_i located
        cases Option.some.inj moved
        rw [located]
        exact ⟨.operStarts, rfl⟩
      · rename_i located
        cases Option.some.inj moved
        rw [located]
        exact ⟨.loops, rfl⟩
      · cases moved
  | _ => cases inside

/-- A BLE phase goes on in its own wait, if it goes on at all. -/
theorem gatt_moves {closed after : Wait} {delaying later : Bool}
    (moved : (machine config).step stack action = some (next, events))
    (located : stack.run = .gatt closed delaying) (still : next.run = .gatt after later) :
    after = closed ∨
      closed.step NextWindow.notOnAllTransports stack.window = some after := by
  have kept (same : next.run = stack.run) : after = closed := by
    rw [located, still, Run.gatt.injEq] at same
    exact same.1
  cases action with
  | poll =>
      have advanced := (pollWindow_runStep moved).1
      rw [located, still] at advanced
      cases advanced with
      | closed inner => exact .inr inner
  | provReady =>
      simp only [machine, step, located] at moved
      split at moved
      · rename_i waiting
        obtain ⟨_, same⟩ := Option.ite_none_right_eq_some.mp moved
        cases Option.some.inj same
        cases waiting
        cases still
        exact .inl rfl
      · cases moved
  | run | head | gattTask | operTask | connected | driverDone | reserve | reset =>
      simp [machine, step, located] at moved
  | window event =>
      obtain ⟨window, _, same⟩ := Option.map_eq_some_iff.mp moved
      cases same
      exact .inl (kept rfl)
  | provDelayed =>
      simp only [machine, step, located] at moved
      split at moved
      · cases Option.some.inj moved
        cases still
      · cases moved
  | finish task ok =>
      simp only [machine, step, finish, located] at moved
      obtain ⟨_, same⟩ := Option.ite_none_right_eq_some.mp moved
      split at same <;>
      · cases Option.some.inj same
        cases still
  | abort cancelled =>
      simp only [machine, step] at moved
      obtain ⟨_, same⟩ := Option.ite_none_left_eq_some.mp moved
      cases Option.some.inj same
      cases still
  | startupIm =>
      obtain ⟨_, same⟩ := Option.ite_none_right_eq_some.mp moved
      simp only [startupIm] at same
      split at same <;>
      · cases Option.some.inj same
        exact .inl (kept rfl)
  | startupDone ok =>
      obtain ⟨_, same⟩ := Option.ite_none_right_eq_some.mp moved
      simp only [startupDone] at same
      split at same
      · cases Option.some.inj same
        exact .inl (kept rfl)
      · cases Option.some.inj same
        cases still
  | loadNetworks | handle | record =>
      obtain ⟨_, same⟩ := Option.ite_none_right_eq_some.mp moved
      cases Option.some.inj same
      exact .inl (kept rfl)

/-- The wait of a BLE phase knows the window. -/
def GattValid (stack : Stack Creds) : Prop :=
  ∀ closed delaying, stack.run = .gatt closed delaying →
    closed.Valid NextWindow.notOnAllTransports stack.window

theorem GattValid.step (valid : stack.GattValid)
    (moved : (machine config).step stack action = some (next, events)) : next.GattValid := by
  intro closed delaying located
  have known := step_cases moved
  cases known with
  | window event applied => exact (valid closed delaying located).apply applied
  | btpStarted =>
      cases located
      trivial
  | gattPolled before ready =>
      rcases gatt_moves moved before located with rfl | inner
      · exact valid _ _ before
      · exact (valid _ _ before).step inner
  | hydrated | starting | loaded | startupOk | handled | recorded | reserved =>
      exact valid closed delaying located
  | reset outcome => cases outcome <;> exact valid closed delaying located
  | _ => cases located

theorem exec_window {last : Stack Creds} {actions : List (StackAction Creds)}
    {later : List (StackEvent Creds)} (inside : ∀ action ∈ actions, Handover action)
    (executed : (machine config).exec stack actions = some (last, later)) :
    last.window = stack.window := by
  induction actions generalizing stack later with
  | nil => exact congrArg Stack.window (Prod.mk.inj (Option.some.inj executed)).1.symm
  | cons first rest ih =>
      obtain ⟨next, events, more, moved, followed, _⟩ := Machine.exec_cons.mp executed
      have kept := (runStep (inside first List.mem_cons_self) moved).2
      exact (ih (fun action member => inside action (List.mem_cons_of_mem _ member))
        followed).trans kept

end RsMatterStack.Stack
