import RsMatterStack.StackStep

set_option autoImplicit false

/-! What ends a BLE phase as provisioned. -/

namespace RsMatterStack

/-- A cleared state is not ready, and only a successful connect makes another one so. -/
structure NetCtl.NeedsConnect (netCtl : NetCtl) : Prop where
  cleared : netCtl.isProvReady .cleared = false
  record : ∀ state outcome, netCtl.isProvReady (netCtl.record state outcome) = true →
    netCtl.isProvReady state = true ∨ outcome.success.isSome = true

theorem NetCtl.Lawful.needsConnect {netCtl : NetCtl} (lawful : netCtl.Lawful) :
    netCtl.NeedsConnect where
  cleared := by simpa [NetCtl.pending] using lawful.cleared
  record := by
    intro state outcome ready
    have verdict := lawful.record state outcome
    rw [NetCtl.pending, if_pos ready] at verdict
    exact .inr (by rw [← verdict]; rfl)

namespace Stack

open Transition (Reachable Machine)

variable {Creds : Type}

def bleConnectsStep (connects : Option (List NetworkId)) :
    StackEvent Creds → Option (List NetworkId)
  | .bleStarted => some []
  | .recorded outcome => connects.map (· ++ outcome.success.toList)
  | .bleEnded _ | .runStarted _ | .runEnded _ => none
  | _ => connects

/-- The connects recorded as successful in the current BLE phase, since it has cleared
`NetCtlState`. -/
def bleConnects (log : List (StackEvent Creds)) : Option (List NetworkId) :=
  log.foldl bleConnectsStep none

/-- The run future is inside `Gatt::run`, with its `GattTask` still to run or running. -/
def inBle : Run → Bool
  | .gattSetup | .gatt _ _ => true
  | _ => false

/-- Some connect was recorded as successful in the current BLE phase. -/
def Provisioned (log : List (StackEvent Creds)) : Prop :=
  ∃ connects, bleConnects log = some connects ∧ connects ≠ []

variable {config : Config} {stack next : Stack Creds} {action : StackAction Creds}
  {log events : List (StackEvent Creds)} {window : Window} {base capacity : Nat}

/-- In a BLE phase `NetCtlState` is only ready on its own merits. -/
structure Merits (config : Config) (log : List (StackEvent Creds)) (stack : Stack Creds) :
    Prop where
  phase : inBle stack.run = true → ∃ connects, bleConnects log = some connects
  ready : inBle stack.run = true → config.netCtl.isProvReady stack.netState = true →
    Provisioned log
  delaying : ∀ closed, stack.run = .gatt closed true → Provisioned log

theorem bleConnects_append :
    bleConnects (log ++ events) = events.foldl bleConnectsStep (bleConnects log) := by
  simp only [bleConnects, List.foldl_append]

theorem Provisioned.congr (provisioned : Provisioned log)
    (same : bleConnects (log ++ events) = bleConnects log) : Provisioned (log ++ events) := by
  rw [Provisioned, same]
  exact provisioned

theorem Merits.elsewhere (other : inBle next.run = false) : Merits config log next := by
  refine ⟨by simp [other], by simp [other], ?_⟩
  intro closed located
  rw [located] at other
  cases other

theorem Merits.keep (now : Merits config log stack) (run : next.run = stack.run)
    (state : next.netState = stack.netState)
    (same : bleConnects (log ++ events) = bleConnects log) :
    Merits config (log ++ events) next := by
  constructor
  · rw [run, same]
    exact now.phase
  · rw [run, state]
    exact fun inside ready => (now.ready inside ready).congr same
  · rw [run]
    exact fun closed located => (now.delaying closed located).congr same

/-- Recorded outcomes only add to the connects of the phase. -/
theorem Provisioned.record (provisioned : Provisioned log) (outcome : NetCtlOutcome) :
    Provisioned (log ++ [.recorded outcome]) := by
  obtain ⟨connects, same, nonempty⟩ := provisioned
  refine ⟨connects ++ outcome.success.toList, ?_, by simp [nonempty]⟩
  simp [bleConnects_append, bleConnectsStep, same]

theorem Merits.record (needsConnect : config.netCtl.NeedsConnect)
    (now : Merits config log stack) (outcome : NetCtlOutcome) :
    Merits config (log ++ [.recorded outcome])
      { stack with netState := config.netCtl.record stack.netState outcome } := by
  constructor
  · intro inside
    obtain ⟨connects, same⟩ := now.phase inside
    exact ⟨connects ++ outcome.success.toList,
      by simp [bleConnects_append, bleConnectsStep, same]⟩
  · intro inside ready
    rcases needsConnect.record _ _ ready with already | success
    · exact (now.ready inside already).record outcome
    · obtain ⟨connects, same⟩ := now.phase inside
      obtain ⟨networkId, found⟩ := Option.isSome_iff_exists.mp success
      refine ⟨connects ++ [networkId], ?_, by simp⟩
      simp [bleConnects_append, bleConnectsStep, same, found]
  · intro closed located
    exact (now.delaying closed located).record outcome

theorem Step.merits (needsConnect : config.netCtl.NeedsConnect)
    (moved : Step config stack action events next) (now : Merits config log stack) :
    Merits config (log ++ events) next := by
  cases moved with
  | bleStarted =>
      refine ⟨fun _ => ⟨[], by simp [bleConnects_append, bleConnectsStep]⟩, ?_, by simp⟩
      intro _ ready
      have cleared : config.netCtl.isProvReady .cleared = true := ready
      rw [needsConnect.cleared] at cleared
      cases cleared
  | btpStarted located =>
      have inside : inBle stack.run = true := by rw [located]; rfl
      refine ⟨fun _ => ?_, fun _ ready => ?_, by simp⟩
      · rw [bleConnects_append]
        exact now.phase inside
      · exact (now.ready inside ready).congr bleConnects_append
  | @gattPolled _ closed after delaying later located verdict =>
      have inside : inBle stack.run = true := by rw [located]; rfl
      rw [List.append_nil]
      refine ⟨fun _ => now.phase inside, fun _ => now.ready inside, ?_⟩
      intro other same
      have late : later = true := by injection same
      rcases verdict late with already | ready
      · exact now.delaying closed (by rw [located, already])
      · exact now.ready inside ready
  | recorded outcome => exact now.record needsConnect outcome
  | window | hydrated | starting | loaded | startupOk | handled | reserved =>
      exact now.keep rfl rfl bleConnects_append
  | reset outcome => cases outcome <;> exact now.keep rfl rfl bleConnects_append
  | _ => exact .elsewhere rfl

theorem reachable_merits (needsConnect : config.netCtl.NeedsConnect)
    (reached : Reachable (machine config) (fresh window base capacity) log stack) :
    Merits config log stack :=
  reached.invariant (fun log stack => Merits config log stack) (.elsewhere rfl)
    (fun _ _ _ _ _ _ now _ moved => (step_cases moved).merits needsConnect now)

/-- A BLE phase that `wait_prov_ready` ends has recorded a successful connect of its own,
whatever was recorded in earlier phases and runs. -/
theorem provisioned_on_own_merits (needsConnect : config.netCtl.NeedsConnect)
    (reached : Reachable (machine config) (fresh window base capacity) log stack)
    (moved : (machine config).step stack .provDelayed = some (next, events)) :
    Provisioned log := by
  have now := reachable_merits needsConnect reached
  simp only [machine, step] at moved
  split at moved
  · rename_i closed located
    exact now.delaying closed located
  · cases moved

/-- The connect of a commissioning is the one that its BLE phase ends with. -/
theorem provisioned_on_own_merits_commissioning :
    Provisioned ((machine smallConfig).logOf smallStack (commissioning.take 9)) := by
  have executed : (machine smallConfig).exec smallStack (commissioning.take 9) =
      some (_, _) := rfl
  have reached := Machine.exec_reachable executed
  exact provisioned_on_own_merits NetCtl.lastOutcome_lawful.needsConnect reached rfl

end Stack

end RsMatterStack
