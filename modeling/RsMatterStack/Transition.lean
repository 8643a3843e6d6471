import Mathlib.Tactic.Common

set_option autoImplicit false

/-! Labelled machines that log events: finite runs, their invariants, and
properties that every position of a log has. -/

namespace Transition

/-- A machine refuses an action, or moves and emits the events of that move. -/
structure Machine (State Action Event : Type) where
  step : State → Action → Option (State × List Event)

section

variable {State Action Event : Type}

/-- The runs of a machine from `start` in which every step is allowed, with the
log of all emitted events in order. -/
inductive Reaches (machine : Machine State Action Event) (allowed : State → Action → Prop)
    (start : State) : List Event → State → Prop
  | start : Reaches machine allowed start [] start
  | step {log events : List Event} {state next : State} {action : Action}
      (reached : Reaches machine allowed start log state)
      (permitted : allowed state action)
      (moved : machine.step state action = some (next, events)) :
      Reaches machine allowed start (log ++ events) next

/-- Runs without any restriction on their steps. -/
abbrev Reachable (machine : Machine State Action Event) (start : State) :=
  Reaches machine (fun _ _ => True) start

variable {machine : Machine State Action Event} {allowed stricter : State → Action → Prop}
  {start state : State} {log : List Event}

/-- What holds initially and survives every allowed step holds after every run. -/
theorem Reaches.invariant (reached : Reaches machine allowed start log state)
    (Holds : List Event → State → Prop) (initial : Holds [] start)
    (preserved : ∀ log events state next action, Reaches machine allowed start log state →
      Holds log state → allowed state action →
      machine.step state action = some (next, events) → Holds (log ++ events) next) :
    Holds log state := by
  induction reached with
  | start => exact initial
  | step reached permitted moved ih =>
      exact preserved _ _ _ _ _ reached ih permitted moved

theorem Reaches.mono (reached : Reaches machine stricter start log state)
    (weaker : ∀ state action, stricter state action → allowed state action) :
    Reaches machine allowed start log state := by
  induction reached with
  | start => exact .start
  | step _ permitted moved ih => exact .step ih (weaker _ _ permitted) moved

theorem Reaches.reachable (reached : Reaches machine allowed start log state) :
    Reachable machine start log state :=
  reached.mono (fun _ _ _ => trivial)

theorem Reaches.trans {later : List Event} {last : State}
    (before : Reaches machine allowed start log state)
    (after : Reaches machine allowed state later last) :
    Reaches machine allowed start (log ++ later) last := by
  induction after with
  | start => simpa only [List.append_nil] using before
  | step _ permitted moved ih =>
      rw [← List.append_assoc]
      exact .step ih permitted moved

/-- A part of the state that every step changes as its events say is a fold of the log. -/
theorem Reaches.tracked {Part : Type} (reached : Reaches machine allowed start log state)
    (view : State → Part) (update : Part → Event → Part)
    (follows : ∀ state next action events, machine.step state action = some (next, events) →
      view next = events.foldl update (view state)) :
    view state = log.foldl update (view start) := by
  induction reached with
  | start => rfl
  | step _ _ moved ih => rw [List.foldl_append, ← ih, follows _ _ _ _ moved]

/-- Execute a list of actions, refusing any step that is not allowed. -/
def Machine.run (machine : Machine State Action Event) (allowed : State → Action → Prop)
    [∀ state action, Decidable (allowed state action)] :
    State → List Action → Option (State × List Event)
  | state, [] => some (state, [])
  | state, action :: rest =>
      if allowed state action then
        match machine.step state action with
        | none => none
        | some (next, events) =>
            match machine.run allowed next rest with
            | none => none
            | some (last, later) => some (last, events ++ later)
      else none

/-- A successful execution is a run. -/
theorem Machine.run_reaches [∀ state action, Decidable (allowed state action)]
    {actions : List Action} {last : State}
    (executed : machine.run allowed start actions = some (last, log)) :
    Reaches machine allowed start log last := by
  induction actions generalizing start log with
  | nil =>
      simp only [run, Option.some.injEq, Prod.mk.injEq] at executed
      obtain ⟨rfl, rfl⟩ := executed
      exact .start
  | cons action rest ih =>
      simp only [run] at executed
      split at executed
      · rename_i permitted
        split at executed
        · cases executed
        · rename_i next events moved
          split at executed
          · cases executed
          · rename_i last later followed
            simp only [Option.some.injEq, Prod.mk.injEq] at executed
            obtain ⟨rfl, rfl⟩ := executed
            have first : Reaches machine allowed start events next := by
              simpa only [List.nil_append] using Reaches.step .start permitted moved
            exact first.trans (ih followed)
      · cases executed

/-- Execute a list of actions without any restriction. -/
def Machine.exec (machine : Machine State Action Event) (state : State) (actions : List Action) :
    Option (State × List Event) := machine.run (fun _ _ => True) state actions

theorem Machine.exec_reachable {actions : List Action} {last : State}
    (executed : machine.exec start actions = some (last, log)) :
    Reachable machine start log last := run_reaches executed

/-- The log of an execution, empty if a step of it is refused. -/
def Machine.logOf (machine : Machine State Action Event) (state : State) (actions : List Action) :
    List Event :=
  match machine.exec state actions with
  | some (_, log) => log
  | none => []

theorem Machine.logOf_reachable {actions : List Action}
    (executed : (machine.exec start actions).isSome = true) :
    ∃ last, Reachable machine start (machine.logOf start actions) last := by
  obtain ⟨⟨last, log⟩, same⟩ := Option.isSome_iff_exists.mp executed
  have logged : machine.logOf start actions = log := by simp only [Machine.logOf, same]
  rw [logged]
  exact ⟨last, exec_reachable same⟩

end

section

variable {Event : Type}

/-- `Holds before event` for every event of the log, with all events before it. -/
def Everywhere (Holds : List Event → Event → Prop) (log : List Event) : Prop :=
  ∀ before event after, log = before ++ event :: after → Holds before event

variable {Holds Stronger : List Event → Event → Prop} {log events : List Event} {event : Event}

@[simp] theorem everywhere_nil : Everywhere Holds [] := by
  intro before event after same
  simp at same

theorem everywhere_append :
    Everywhere Holds (log ++ events) ↔
      Everywhere Holds log ∧ Everywhere (fun before => Holds (log ++ before)) events := by
  constructor
  · intro all
    constructor
    · intro before event after same
      exact all before event (after ++ events) (by simp [same])
    · intro before event after same
      exact all (log ++ before) event after (by simp [same])
  · rintro ⟨first, second⟩ before event after same
    rcases List.append_eq_append_iff.mp same with ⟨middle, rfl, rest⟩ | ⟨middle, rfl, rest⟩
    · exact second middle event after rest
    · cases middle with
      | nil =>
          simp only [List.nil_append] at rest
          simpa using second [] event after rest.symm
      | cons head tail =>
          simp only [List.cons_append, List.cons.injEq] at rest
          obtain ⟨rfl, rfl⟩ := rest
          exact first before event tail rfl

@[simp] theorem everywhere_cons :
    Everywhere Holds (event :: log) ↔
      Holds [] event ∧ Everywhere (fun before => Holds (event :: before)) log := by
  constructor
  · intro all
    exact ⟨all [] event log rfl,
      fun before later after same => all (event :: before) later after (by simp [same])⟩
  · rintro ⟨head, tail⟩ before later after same
    cases before with
    | nil =>
        simp only [List.nil_append, List.cons.injEq] at same
        obtain ⟨rfl, rfl⟩ := same
        exact head
    | cons first before =>
        simp only [List.cons_append, List.cons.injEq] at same
        obtain ⟨rfl, rfl⟩ := same
        exact tail before later after rfl

theorem Everywhere.imp (all : Everywhere Stronger log)
    (weaker : ∀ before event, Stronger before event → Holds before event) :
    Everywhere Holds log :=
  fun before event after same => weaker before event (all before event after same)

variable {State Action : Type} {machine : Machine State Action Event}
  {allowed : State → Action → Prop} {start state : State}

/-- What holds of the events of every step, after the log so far, holds of every log. -/
theorem Reaches.everywhere (reached : Reaches machine allowed start log state)
    (emitted : ∀ log events state next action, Reaches machine allowed start log state →
      allowed state action → machine.step state action = some (next, events) →
      Everywhere (fun before => Holds (log ++ before)) events) :
    Everywhere Holds log :=
  reached.invariant (fun log _ => Everywhere Holds log) everywhere_nil
    (fun _ _ _ _ _ reached all permitted moved =>
      everywhere_append.mpr ⟨all, emitted _ _ _ _ _ reached permitted moved⟩)

/-- Two properties that agree on the events of every step agree on every log. -/
theorem Reaches.everywhere_iff (reached : Reaches machine allowed start log state)
    (agree : ∀ log events state next action, Reaches machine allowed start log state →
      machine.step state action = some (next, events) →
      (Everywhere (fun before => Holds (log ++ before)) events ↔
        Everywhere (fun before => Stronger (log ++ before)) events)) :
    Everywhere Holds log ↔ Everywhere Stronger log := by
  apply reached.invariant (fun log _ => Everywhere Holds log ↔ Everywhere Stronger log)
  · simp
  · intro log events state next action reached same _ moved
    rw [everywhere_append, everywhere_append, same, agree _ _ _ _ _ reached moved]

end

end Transition
