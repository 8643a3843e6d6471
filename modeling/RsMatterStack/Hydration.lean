import RsMatterStack.StackStep

set_option autoImplicit false

/-! The one startup of the Interaction Models of a stack: `startup_im` and `im_hydrated`. -/

namespace RsMatterStack.Stack

open Transition (Reachable Everywhere everywhere_append Machine)

variable {Creds : Type}

/-- How an `im.startup()` ends: a cancelled one does not complete. -/
def startupResult : StackEvent Creds → Option Bool
  | .startupOk => some true
  | .startupFailed | .startupCancelled => some false
  | _ => none

def startupResults (log : List (StackEvent Creds)) : List Bool := log.filterMap startupResult

/-- An Interaction Model that serves comes after a completed startup. -/
def ServesHydrated (before : List (StackEvent Creds)) : StackEvent Creds → Prop
  | .served => true ∈ startupResults before
  | _ => True

/-- `startup_im` is not called after a startup that failed or was cancelled. -/
def NoneFailed (before : List (StackEvent Creds)) : StackEvent Creds → Prop
  | .startupIm => false ∉ startupResults before
  | _ => True

/-- The startups so far: none has been called, or one is running, or one has ended. -/
inductive Hydration (log : List (StackEvent Creds)) (stack : Stack Creds) : Prop
  | unset (hydrated : stack.imHydrated = false) (idle : stack.im ≠ some .starting)
      (results : startupResults log = [])
  | starting (hydrated : stack.imHydrated = true) (running : stack.im = some .starting)
      (results : startupResults log = [])
  | ended (ok : Bool) (hydrated : stack.imHydrated = true) (idle : stack.im ≠ some .starting)
      (results : startupResults log = [ok])

variable {config : Config} {stack next : Stack Creds} {action : StackAction Creds}
  {log events : List (StackEvent Creds)} {window : Window} {base capacity : Nat}

@[simp] theorem startupResults_append :
    startupResults (log ++ events) = startupResults log ++ startupResults events := by
  simp only [startupResults, List.filterMap_append]

@[simp] theorem startupResults_nil : startupResults ([] : List (StackEvent Creds)) = [] := rfl

@[simp] theorem startupResults_cons {event : StackEvent Creds} :
    startupResults (event :: log) = (startupResult event).toList ++ startupResults log := by
  simp only [startupResults, List.filterMap_cons]
  cases startupResult event <;> rfl

@[simp] theorem startupResults_cancelled {im : Option Im} :
    startupResults (cancelled im : List (StackEvent Creds)) =
      if im = some .starting then [false] else [] := by
  cases im with
  | none => rfl
  | some im => cases im <;> rfl

/-- Nothing about startups changes. -/
theorem Hydration.keep (now : Hydration log stack) (hydrated : next.imHydrated = stack.imHydrated)
    (im : next.im = stack.im ∨ stack.im ≠ some .starting ∧ next.im ≠ some .starting)
    (quiet : startupResults events = []) : Hydration (log ++ events) next := by
  have results : startupResults (log ++ events) = startupResults log := by simp [quiet]
  cases now with
  | unset unset idle none =>
      refine .unset (hydrated.trans unset) ?_ (results.trans none)
      rcases im with same | ⟨_, other⟩
      · rw [same]
        exact idle
      · exact other
  | starting set running none =>
      rcases im with same | ⟨other, _⟩
      · exact .starting (hydrated.trans set) (same.trans running) (results.trans none)
      · exact absurd running other
  | ended ok set idle one =>
      refine .ended ok (hydrated.trans set) ?_ (results.trans one)
      rcases im with same | ⟨_, other⟩
      · rw [same]
        exact idle
      · exact other

/-- The Interaction Model is dropped, and with it a startup that it is suspended in. -/
theorem Hydration.drop (now : Hydration log stack) (hydrated : next.imHydrated = stack.imHydrated)
    (gone : next.im = none)
    (results : startupResults events = if stack.im = some .starting then [false] else []) :
    Hydration (log ++ events) next := by
  have idle : next.im ≠ some .starting := by simp [gone]
  cases now with
  | unset unset other none =>
      exact .unset (hydrated.trans unset) idle (by simp [results, other, none])
  | starting set running none =>
      exact .ended false (hydrated.trans set) idle (by simp [results, running, none])
  | ended ok set other one =>
      exact .ended ok (hydrated.trans set) idle (by simp [results, other, one])

theorem Hydration.uncalled (now : Hydration log stack) (first : stack.imHydrated = false) :
    startupResults log = [] := by
  cases now with
  | unset _ _ none => exact none
  | starting set | ended _ set =>
      rw [first] at set
      cases set

theorem Step.hydration (moved : Step config stack action events next) (placed : stack.Placed)
    (now : Hydration log stack) : Hydration (log ++ events) next := by
  have absent (elsewhere : stack.run.serves = false) : stack.im = none := by
    rcases placed with absent | serves
    · exact absent
    · rw [elsewhere] at serves
      cases serves
  cases moved with
  | starting created first =>
      have results := now.uncalled first
      exact .starting rfl rfl (by simp [results, startupResult])
  | startupOk running =>
      cases now with
      | starting set _ none =>
          exact .ended true set (by simp) (by simp [none, startupResult])
      | unset _ idle | ended _ _ idle => exact absurd running idle
  | startupFailed running =>
      exact now.drop rfl rfl (by simp [running, startupResult])
  | hydrated created =>
      exact now.keep rfl (Or.inr (by simp [created])) rfl
  | coexStarted located | btpStarted located | operSkipped located | connected located =>
      have gone := absent (by rw [located]; rfl)
      exact now.keep rfl (Or.inr (by simp [gone])) rfl
  | runFailed | btpPanicked | gattDone | operMissing | connectFailed | windowAppeared | taskDone
  | stopped =>
      exact now.drop rfl rfl (by simp [startupResult])
  | reset outcome => cases outcome <;> exact now.keep rfl (Or.inl rfl) rfl
  | _ => exact now.keep rfl (Or.inl rfl) rfl

theorem reachable_hydration
    (reached : Reachable (machine config) (fresh window base capacity) log stack) :
    Hydration log stack :=
  reached.invariant (fun log stack => Hydration log stack) (.unset rfl (by simp [fresh]) rfl)
    (fun _ _ _ _ _ reached now _ moved =>
      (step_cases moved).hydration (reachable_placed reached) now)

/-- Outside a startup, a stack that counts as hydrated has one ended startup behind it. -/
theorem Hydration.settled (now : Hydration log stack) (hydrated : stack.imHydrated = true)
    (idle : stack.im ≠ some .starting) :
    true ∈ startupResults log ↔ false ∉ startupResults log := by
  cases now with
  | unset other =>
      rw [hydrated] at other
      cases other
  | starting _ running => exact absurd running idle
  | ended ok _ _ results => cases ok <;> simp [results]

/-- Interaction Models serve hydrated exactly if no `startup_im` follows a startup that did
not complete; and the flag, outside a startup, stands for a completed one exactly if no startup
has failed or been cancelled. -/
theorem serves_hydrated_iff
    (reached : Reachable (machine config) (fresh window base capacity) log stack) :
    (Everywhere ServesHydrated log ↔ Everywhere NoneFailed log) ∧
    (stack.imHydrated = true → stack.im ≠ some .starting →
      (true ∈ startupResults log ↔ false ∉ startupResults log)) := by
  refine ⟨?_, (reachable_hydration reached).settled⟩
  apply reached.everywhere_iff
  intro log events stack next action reached moved
  have now := reachable_hydration reached
  cases step_cases moved with
  | hydrated created already =>
      have idle : stack.im ≠ some .starting := by simp [created]
      simpa [ServesHydrated, NoneFailed, startupResult] using now.settled already idle
  | starting created first =>
      have results := now.uncalled first
      simp [ServesHydrated, NoneFailed, results]
  | startupOk => simp [ServesHydrated, NoneFailed, startupResult]
  | _ => simp [everywhere_append, ServesHydrated, NoneFailed]

/-- In a first commissioning both Interaction Models serve after the startup. -/
theorem serves_hydrated_commissioning :
    Everywhere ServesHydrated
      ((machine smallConfig).logOf smallStack (commissioning ++ [.startupIm])) := by
  have executed : ((machine smallConfig).exec smallStack
      (commissioning ++ [.startupIm])).isSome = true := rfl
  obtain ⟨last, reached⟩ := Machine.logOf_reachable executed
  apply (serves_hydrated_iff reached).1.mpr
  show Everywhere NoneFailed [.window _, .runStarted _, .bleStarted, .lent _, .btpStarted,
    .startupIm, .startupOk, .served, .handled _, .recorded _, .bleEnded _, .operStarted _,
    .deferred _, .lookedUp _ _, .recorded _, .lent _, .startupIm, .served]
  simp [NoneFailed, startupResult]

/-- The window closes while the BLE phase is still in `im.startup()`. -/
def cancelledStartup : List (StackAction Unit) :=
  [.window .openBasic, .run false true, .head, .gattTask, .startupIm, .window .close, .poll, .poll,
    .poll, .poll, .driverDone, .operTask, .startupIm]

/-- The operational phase then serves without any startup. -/
theorem serves_unhydrated :
    ∃ log stack, Reachable (machine smallConfig) smallStack log stack ∧
      ¬ Everywhere ServesHydrated log := by
  have executed : (machine smallConfig).exec smallStack cancelledStartup =
      some (_, [.window .openBasic, .runStarted false, .bleStarted, .lent _, .btpStarted,
        .startupIm, .window .close, .startupCancelled, .bleEnded none, .operStarted none,
        .deferred none, .lent _, .startupIm, .served]) := rfl
  refine ⟨_, _, Machine.exec_reachable executed, ?_⟩
  simp [ServesHydrated, startupResult]

end RsMatterStack.Stack
