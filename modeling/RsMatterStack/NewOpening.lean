import RsMatterStack.WindowWaits

set_option autoImplicit false

/-! The window that ends `wait_next_comm_window` is a new one. -/

namespace RsMatterStack

theorem Window.apply_opening {window next : Window} {event : WindowEvent}
    (changed : window.apply event = some next) : window.opening ≤ next.opening := by
  cases event with
  | close =>
      obtain ⟨_, same⟩ := Option.ite_none_right_eq_some.mp changed
      cases Option.some.inj same
      exact Nat.le_refl _
  | openBasic | openOverCase opener =>
      obtain ⟨_, same⟩ := Option.ite_none_left_eq_some.mp changed
      cases Option.some.inj same
      exact Nat.le_succ _

/-- An open window for all transports that was not there before has just been opened. -/
theorem Window.apply_allTransports {window next : Window} {event : WindowEvent} {opening : Nat}
    (changed : window.apply event = some next) (all : next.allTransports = some opening) :
    event = .openBasic ∧ opening = window.opening + 1 := by
  have opened := Window.allTransports_isSome.mp (Option.isSome_of_eq_some all)
  by_cases basic : event = .openBasic
  · subst basic
    obtain ⟨_, same⟩ := Option.ite_none_left_eq_some.mp changed
    cases Option.some.inj same
    exact ⟨rfl, (Option.some.inj all).symm⟩
  · rw [Window.apply_other basic changed] at opened
    cases opened

namespace NextWindow

open Transition (Reachable Machine)
open Waiter (windowAt windowAt_append)

/-- What the waits know: the window, if open for all transports, is new once the first of
them has read that none is open. -/
def Knows (New : Window → Prop) (window : Window) : NextWindow → Prop
  | leaving (.test _ state) => state.state.isOpenOnAllTransports = false → New window
  | leaving (.returned _) => New window
  | leaving _ => True
  | appearing (.test _ state) => New window ∧ New state
  | appearing (.returned state) => New state ∧ state.state.isOpenOnAllTransports = true
  | appearing _ => New window

section

variable {New Newer : Window → Prop} {window : Window} {next after : NextWindow}

/-- Another window takes the place of the current one. -/
theorem Knows.replace {changed : Window} (knows : Knows New window next)
    (newer : ∀ state, New state → Newer state) (fresh : New window → Newer changed) :
    Knows Newer changed next := by
  cases next with
  | leaving wait =>
      cases wait with
      | subscribe | read | awaiting => trivial
      | test => exact fun shut => fresh (knows shut)
      | returned => exact fresh knows
  | appearing wait =>
      cases wait with
      | subscribe | read | awaiting => exact fresh knows
      | test => exact ⟨fresh knows.1, newer _ knows.2⟩
      | returned => exact ⟨newer _ knows.1, knows.2⟩

theorem Knows.step (knows : Knows New window next) (moved : next.step window = some after)
    (read : next.isRead = true → window.state.isOpenOnAllTransports = false → New window) :
    Knows New window after := by
  cases step_cases moved with
  | left => exact knows
  | leaving inner =>
      cases Wait.step_cases inner with
      | subscribe | rejected | woken => trivial
      | read => exact read rfl
      | accepted accepts =>
          exact knows (by simpa [notOnAllTransports] using accepts)
  | appearing inner =>
      cases Wait.step_cases inner with
      | subscribe | woken => exact knows
      | read => exact ⟨knows, knows⟩
      | accepted all => exact ⟨knows.2, all⟩
      | rejected => exact knows.1

end

/-- The device has opened this window for itself since the call. -/
def Opened (entry : Window) (log : List WaitEvent) (opening : Nat) : Prop :=
  ∃ before after, log = before ++ .window .openBasic :: after ∧
    (windowAt entry (before ++ [.window .openBasic])).allTransports = some opening

/-- A read since the call has found no window open for all transports. -/
def ReadOther (log : List WaitEvent) : Prop :=
  ∃ state, .read state ∈ log ∧ state.state.isOpenOnAllTransports = false

/-- After such a read, the window is not one from before the call. -/
def New (entry : Window) (log : List WaitEvent) (window : Window) : Prop :=
  ReadOther log ∧ ∀ opening, window.allTransports = some opening →
    entry.opening < opening ∧ Opened entry log opening

/-- The waits know what is new, and a window that stays open does not change. -/
structure Fresh (entry : Window) (log : List WaitEvent) (beside : Beside NextWindow) :
    Prop where
  later : entry.opening ≤ beside.window.opening
  knows : Knows (New entry log) beside.window beside.control
  unchanged : entry.state.isOpen = true → .window .close ∉ log →
    beside.window = entry ∧ ∀ event, .window event ∉ log

variable {entry window : Window} {beside next : Beside NextWindow}
  {log events : List WaitEvent}

theorem New.mono (new : New entry log window) : New entry (log ++ events) window := by
  obtain ⟨⟨state, read, shut⟩, opened⟩ := new
  refine ⟨⟨state, List.mem_append_left _ read, shut⟩, ?_⟩
  intro opening all
  obtain ⟨later, before, after, rfl, found⟩ := opened opening all
  exact ⟨later, before, after ++ events, by simp, found⟩

theorem New.change (new : New entry log window) {event : WindowEvent} {changed : Window}
    (applied : window.apply event = some changed) (later : entry.opening ≤ window.opening)
    (current : window = windowAt entry log) : New entry (log ++ [.window event]) changed := by
  refine ⟨new.mono.1, ?_⟩
  intro opening all
  obtain ⟨rfl, same⟩ := Window.apply_allTransports applied all
  refine ⟨by omega, log, [], rfl, ?_⟩
  have found : windowAt entry (log ++ [.window .openBasic]) = changed := by
    simp [windowAt_append, Waiter.windowStep, ← current, applied]
  rw [found, all]

theorem Fresh.step (now : Fresh entry log beside) (current : beside.window = windowAt entry log)
    (moved : Waiter.Step waiter beside events next) : Fresh entry (log ++ events) next := by
  cases moved with
  | @window event changed applied =>
      constructor
      · exact Nat.le_trans now.later (Window.apply_opening applied)
      · exact now.knows.replace (fun _ new => new.mono)
          (fun new => new.change applied now.later current)
      · intro opened unclosed
        have before := now.unchanged opened (fun closed => unclosed (by simp [closed]))
        have closes : event = .close := by
          apply Window.apply_of_open _ applied
          rw [before.1]
          exact opened
        exact absurd (by simp [closes]) unclosed
  | read reads inner =>
      constructor
      · exact now.later
      · have knows : Knows (New entry (log ++ [.read beside.window])) beside.window
            beside.control := now.knows.replace (fun _ new => new.mono) (fun new => new.mono)
        apply knows.step inner
        intro _ shut
        refine ⟨⟨beside.window, by simp, shut⟩, ?_⟩
        intro opening all
        simp [Window.allTransports, shut] at all
      · intro opened unclosed
        have before := now.unchanged opened (fun closed => unclosed (by simp [closed]))
        exact ⟨before.1, by simp [before.2]⟩
  | other reads inner =>
      have silent : beside.control.isRead = false := reads
      constructor
      · exact now.later
      · rw [List.append_nil]
        exact now.knows.step inner (by simp [silent])
      · rw [List.append_nil]
        exact now.unchanged

theorem reachable_fresh
    (reached : Reachable waiter.machine (waiter.call entry) log beside) :
    Fresh entry log beside :=
  reached.invariant (Fresh entry) ⟨Nat.le_refl _, trivial, fun _ _ => ⟨rfl, by simp⟩⟩
    (fun _ _ _ _ _ reached now _ moved =>
      now.step (Waiter.reachable_window reached) (Waiter.step_cases moved))

/-- However the window changes meanwhile, `wait_next_comm_window` resolves with a window
that the device has opened for itself since the call, after a read that found none open
for all transports; beside a window that stays open from the call on it never resolves. -/
theorem next_window_is_new
    (reached : Reachable waiter.machine (waiter.call entry) log beside) :
    (∀ seen, beside.control = .appearing (.returned seen) →
      seen.state.isOpenOnAllTransports = true ∧ Opened entry log seen.opening ∧
      entry.opening < seen.opening ∧ ReadOther log) ∧
    (entry.state.isOpen = true → .window .close ∉ log →
      ∀ seen, beside.control ≠ .appearing (.returned seen)) := by
  have now := reachable_fresh reached
  have resolves : ∀ seen, beside.control = .appearing (.returned seen) →
      seen.state.isOpenOnAllTransports = true ∧ Opened entry log seen.opening ∧
      entry.opening < seen.opening ∧ ReadOther log := by
    intro seen located
    have knows := now.knows
    rw [located] at knows
    obtain ⟨⟨read, opened⟩, all⟩ := knows
    have found : seen.allTransports = some seen.opening := by simp [Window.allTransports, all]
    exact ⟨all, (opened _ found).2, (opened _ found).1, read⟩
  refine ⟨resolves, ?_⟩
  intro opened unclosed seen located
  obtain ⟨_, ⟨before, after, rfl, _⟩, _⟩ := resolves seen located
  exact (now.unchanged opened unclosed).2 .openBasic (by simp)

/-- The window open at the call closes, an administrator opens one over CASE, and only the
next one ends the waits. -/
theorem next_window_is_new_third :
    ∃ log beside, Reachable waiter.machine (waiter.call ⟨.opened none, 1, 1⟩) log beside ∧
      beside.control = .appearing (.returned ⟨.opened none, 5, 3⟩) ∧
      Opened ⟨.opened none, 1, 1⟩ log 3 ∧ ReadOther log := by
  have executed : waiter.machine.exec (waiter.call ⟨.opened none, 1, 1⟩)
      (List.replicate 3 .poll ++ [.window .close, .window (.openOverCase 7)] ++
        List.replicate 8 .poll ++ [.window .close, .window .openBasic] ++
        List.replicate 4 .poll) = some (_, _) := rfl
  have reached := Machine.exec_reachable executed
  have resolved := (next_window_is_new reached).1 _ rfl
  exact ⟨_, _, reached, rfl, resolved.2.1, resolved.2.2.2⟩

end NextWindow

end RsMatterStack
