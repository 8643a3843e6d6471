import RsMatterStack.Hydration

set_option autoImplicit false

/-! What `reset` leaves of an earlier life of the stack. -/

namespace RsMatterStack.Stack

open Transition (Reachable Machine)

variable {Creds : Type}

/-- The state of the stack itself that later runs read. -/
structure OwnState (Creds : Type) where
  networks : Networks Creds
  netState : NetCtlState
  imHydrated : Bool

def own (stack : Stack Creds) : OwnState Creds :=
  ⟨stack.networks, stack.netState, stack.imHydrated⟩

variable {config : Config} {stack next : Stack Creds} {action : StackAction Creds}
  {log events : List (StackEvent Creds)} {window : Window} {base capacity : Nat}

/-- Before the first `startup_im` no outcome is recorded and no connect is pending. -/
structure Untouched (stack : Stack Creds) : Prop where
  hydrated : stack.imHydrated = false
  im : stack.im = none ∨ stack.im = some .created
  netState : stack.netState = .cleared
  run : ∀ networkId, stack.run ≠ .connecting networkId

theorem Step.untouched (lawful : config.netCtl.Lawful)
    (moved : Step config stack action events next) (unstarted : .startupIm ∉ events)
    (now : stack.Untouched) : next.Untouched := by
  obtain ⟨unset, im, cleared, unconnected⟩ := now
  cases moved with
  | hydrated | starting => simp at unstarted
  | loaded _ im' | startupOk im' | startupFailed im' | handled _ im' | recorded _ im' =>
      rw [im'] at im
      simp at im
  | operDeferred located pending | operMissing located pending =>
      rw [cleared, lawful.cleared] at pending
      cases pending
  | connected located | connectFailed _ located => exact absurd located (unconnected _)
  | window => exact ⟨unset, im, cleared, unconnected⟩
  | reset outcome => cases outcome <;> exact ⟨unset, im, cleared, unconnected⟩
  | coexStarted | btpStarted | operSkipped => exact ⟨unset, Or.inr rfl, cleared, by simp⟩
  | bleStarted => exact ⟨unset, im, rfl, by simp⟩
  | reserved => exact ⟨unset, im, cleared, unconnected⟩
  | runStarted | operDirect | operStarted | gattPolled | readLeaving | operPolled | looped =>
      exact ⟨unset, im, cleared, by simp⟩
  | _ => exact ⟨unset, Or.inl rfl, cleared, by simp⟩

/-- The flag is never taken back, not even by `reset`. -/
theorem Step.stays_hydrated (moved : Step config stack action events next)
    (hydrated : stack.imHydrated = true) : next.imHydrated = true := by
  cases moved with
  | starting => rfl
  | reset outcome => cases outcome <;> exact hydrated
  | _ => exact hydrated

theorem reachable_untouched (lawful : config.netCtl.Lawful)
    (reached : Reachable (machine config) (fresh window base capacity) log stack) :
    .startupIm ∉ log ∧ stack.Untouched ∨ .startupIm ∈ log ∧ stack.imHydrated = true := by
  apply reached.invariant (fun log stack =>
    .startupIm ∉ log ∧ stack.Untouched ∨ .startupIm ∈ log ∧ stack.imHydrated = true)
  · exact Or.inl ⟨by simp, rfl, Or.inl rfl, rfl, by simp [fresh]⟩
  · intro log events stack next action _ now _ moved
    have step := step_cases moved
    rcases now with ⟨unstarted, untouched⟩ | ⟨started, hydrated⟩
    · by_cases starts : .startupIm ∈ events
      · refine Or.inr ⟨List.mem_append_right _ starts, ?_⟩
        cases step with
        | starting => rfl
        | hydrated _ already => exact already
        | _ => simp at starts
      · exact Or.inl ⟨by simp [unstarted, starts], step.untouched lawful starts untouched⟩
    · exact Or.inr ⟨List.mem_append_left _ started, step.stays_hydrated hydrated⟩

/-- Between runs, a stack with the own state of a fresh one is a fresh one. -/
theorem eq_fresh (reached : Reachable (machine config) (fresh window base capacity) log stack)
    (idle : stack.run = .idle) (own : stack.own = (fresh window base capacity).own) :
    stack = fresh stack.window base capacity := by
  have placed := reachable_placed reached
  have empty := (reachable_allocator reached).empty idle
  obtain ⟨current, netState, networks, imHydrated, bump, im, run⟩ := stack
  simp only [Stack.own, fresh, OwnState.mk.injEq] at own
  obtain ⟨rfl, rfl, rfl⟩ := own
  have stopped : run = .idle := idle
  have new : bump = .new base capacity := empty
  subst stopped new
  have gone : im = none := by simpa [Placed, Run.serves] using placed
  subst gone
  rfl

theorem reset_cases {outcome : ResetOutcome Creds}
    (moved : (machine config).step stack (.reset outcome) = some (next, events)) :
    stack.run = .idle ∧ next = stack.reset outcome := by
  simp only [machine, step] at moved
  obtain ⟨idle, same⟩ := Option.ite_none_right_eq_some.mp moved
  cases Option.some.inj same
  exact ⟨idle, rfl⟩

/-- A successful `reset` leaves a fresh stack exactly if no Interaction Model has ever
called `startup_im`; whatever follows then is what follows on a fresh stack. -/
theorem reset_own_iff (lawful : config.netCtl.Lawful)
    (reached : Reachable (machine config) (fresh window base capacity) log stack)
    (moved : (machine config).step stack (.reset .ok) = some (next, events)) :
    (next.own = (fresh window base capacity).own ↔ .startupIm ∉ log) ∧
    (.startupIm ∉ log → ∀ actions, (machine config).exec next actions =
      (machine config).exec (fresh next.window base capacity) actions) := by
  obtain ⟨idle, same⟩ := reset_cases moved
  have known := reachable_untouched lawful reached
  have own_iff : next.own = (fresh window base capacity).own ↔ .startupIm ∉ log := by
    subst same
    rcases known with ⟨unstarted, untouched⟩ | ⟨started, hydrated⟩
    · simp [Stack.own, Stack.reset, fresh, untouched.netState, untouched.hydrated, unstarted]
    · simp [Stack.own, Stack.reset, fresh, hydrated, started]
  refine ⟨own_iff, ?_⟩
  intro unstarted actions
  have idle_next : next.run = .idle := by rw [same]; exact idle
  have fresh_next := eq_fresh (reached.step trivial moved) idle_next (own_iff.mpr unstarted)
  exact congrArg (fun stack => (machine config).exec stack actions) fresh_next

/-- A run that is dropped before its first phase leaves nothing behind. -/
theorem reset_after_dropped_run :
    ∃ log stack, Reachable (machine smallConfig) smallStack log stack ∧ .runStarted false ∈ log ∧
      (stack.reset .ok).own = smallStack.own := by
  have executed : (machine smallConfig).exec smallStack
      [.window .openBasic, .run false true, .head, .abort true] =
      some (_, [.window .openBasic, .runStarted false, .bleStarted, .runEnded .cancelled]) := rfl
  have reached := Machine.exec_reachable executed
  exact ⟨_, _, reached, by simp,
    (reset_own_iff NetCtl.lastOutcome_lawful reached rfl).1.mpr (by simp)⟩

/-- After a commissioning, `reset` leaves the id of the network to the next run, which
fails on it where a fresh stack serves. -/
theorem reset_leaves_connect :
    smallConfig.netCtl.Lawful ∧
    ∃ log stack next events, Reachable (machine smallConfig) smallStack log stack ∧
      (machine smallConfig).step stack (.reset .ok) = some (next, events) ∧
      next.own ≠ smallStack.own ∧
      ((machine smallConfig).logOf next [.run false true, .head, .operTask]).getLast? =
        some (.runEnded .error) ∧
      ((machine smallConfig).logOf (fresh next.window 0 40 : Stack Unit)
        [.run false true, .head, .operTask]).getLast? = some (.lent .empty) := by
  have executed : (machine smallConfig).exec smallStack
      (commissioning ++ [.window .close, .abort true]) = some (_, _) := rfl
  refine ⟨NetCtl.lastOutcome_lawful, _, _, _, _, Machine.exec_reachable executed, rfl, ?_, rfl, rfl⟩
  intro same
  cases congrArg OwnState.imHydrated same

end RsMatterStack.Stack
