import RsMatterStack.StackStep

set_option autoImplicit false

/-! The deferred connect of non-concurrent commissioning. -/

namespace RsMatterStack.Stack

open Transition (Reachable Everywhere everywhere_append Machine)

variable {Creds : Type}

def lastConnectStep (last : Option NetworkId) : StackEvent Creds → Option NetworkId
  | .bleStarted => none
  | .recorded outcome => outcome.success
  | _ => last

/-- The network whose successful connect is the last outcome recorded, in any phase
and run, since the last BLE phase started. -/
def lastConnect (log : List (StackEvent Creds)) : Option NetworkId :=
  log.foldl lastConnectStep none

def afterBleStep (after : Bool) : StackEvent Creds → Bool
  | .bleStarted => true
  | .deferred _ | .runStarted _ | .runEnded _ => false
  | _ => after

/-- The last phase entered was a BLE phase of the current run; an operational phase
counts as entered with its decision on the deferred connect. -/
def afterBle (log : List (StackEvent Creds)) : Bool := log.foldl afterBleStep false

/-- The network that a BLE phase hands over to the operational phase right after it. -/
def handOver (log : List (StackEvent Creds)) : Option NetworkId :=
  if afterBle log then lastConnect log else none

/-- A deferred connect is to the network handed over, and made whenever there is one. -/
def ConnectsHandOver (before : List (StackEvent Creds)) : StackEvent Creds → Prop
  | .deferred networkId => networkId = handOver before
  | _ => True

/-- An operational phase without a BLE phase right before it does not find a
successful connect as the last outcome recorded. -/
def NothingLeft (before : List (StackEvent Creds)) : StackEvent Creds → Prop
  | .deferred _ => afterBle before = true ∨ lastConnect before = none
  | _ => True

variable {config : Config} {stack next : Stack Creds} {action : StackAction Creds}
  {log events : List (StackEvent Creds)} {window : Window} {base capacity : Nat}

/-- `NetCtlState` changes as the log says. -/
theorem Step.pending (lawful : config.netCtl.Lawful)
    (moved : Step config stack action events next) :
    config.netCtl.pending next.netState =
      events.foldl lastConnectStep (config.netCtl.pending stack.netState) := by
  cases moved with
  | bleStarted => exact lawful.cleared
  | recorded outcome | connected => exact lawful.record _ _
  | connectFailed error =>
      simp only [List.foldl_append, List.foldl_cons, List.foldl_nil, lastConnectStep,
        foldl_cancelled, ite_self, lawful.record]
  | runFailed | btpPanicked | gattDone | operMissing | windowAppeared | taskDone | stopped =>
      simp only [List.foldl_append, List.foldl_cons, List.foldl_nil, lastConnectStep,
        foldl_cancelled, ite_self]
  | reset outcome => cases outcome <;> rfl
  | _ => rfl

/-- The verdict on `NetCtlState` is the one on the last outcome recorded. -/
theorem reachable_pending (lawful : config.netCtl.Lawful)
    (reached : Reachable (machine config) (fresh window base capacity) log stack) :
    config.netCtl.pending stack.netState = lastConnect log := by
  have tracked := reached.tracked (fun stack => config.netCtl.pending stack.netState)
    lastConnectStep (fun _ _ _ _ moved => (step_cases moved).pending lawful)
  rw [tracked]
  exact congrArg (List.foldl lastConnectStep · log) lawful.cleared

/-- Every deferred connect belongs to one hand-over exactly if no operational phase
without a BLE phase right before it finds a successful connect recorded last. -/
theorem deferred_connect_iff (lawful : config.netCtl.Lawful)
    (reached : Reachable (machine config) (fresh window base capacity) log stack) :
    Everywhere ConnectsHandOver log ↔ Everywhere NothingLeft log := by
  apply reached.everywhere_iff
  intro log events stack next action reached moved
  have verdict := reachable_pending lawful reached
  cases step_cases moved with
  | operSkipped located empty =>
      rw [empty] at verdict
      simp [ConnectsHandOver, NothingLeft, handOver, ← verdict]
  | operDeferred located pending | operMissing located pending =>
      rw [pending] at verdict
      simp [everywhere_append, ConnectsHandOver, NothingLeft, handOver, ← verdict]
  | _ => simp [everywhere_append, ConnectsHandOver, NothingLeft]

/-- The handler removes the network, and the user task returns. -/
def nextPhase : List (StackAction Unit) :=
  [.startupIm, .handle (.remove [1]), .window .close, .finish .user true, .driverDone, .head,
    .operTask]

/-- A first commissioning makes the one connect that it hands over. -/
theorem deferred_connect_commissioning :
    Everywhere ConnectsHandOver ((machine smallConfig).logOf smallStack commissioning) := by
  have executed : ((machine smallConfig).exec smallStack commissioning).isSome = true := rfl
  obtain ⟨last, reached⟩ := Machine.logOf_reachable executed
  apply (deferred_connect_iff NetCtl.lastOutcome_lawful reached).mpr
  show Everywhere NothingLeft [.window _, .runStarted _, .bleStarted, .lent _, .btpStarted,
    .startupIm, .startupOk, .served, .handled _, .recorded _, .bleEnded _, .operStarted _,
    .deferred _, .lookedUp _ _, .recorded _, .lent _]
  simp [NothingLeft, afterBle, afterBleStep]

/-- The next operational phase replays the connect, to a network no longer there, and
that ends the run. -/
theorem deferred_connect_replayed :
    smallConfig.netCtl.Lawful ∧
    ∃ log stack, Reachable (machine smallConfig) smallStack log stack ∧
      ¬ Everywhere ConnectsHandOver log ∧ log.getLast? = some (.runEnded .error) := by
  have executed : (machine smallConfig).exec smallStack (commissioning ++ nextPhase) =
      some (_, [.window .openBasic, .runStarted false, .bleStarted, .lent _, .btpStarted,
        .startupIm, .startupOk, .served, .handled _, .recorded (.connected [1]), .bleEnded _,
        .operStarted _, .deferred (some [1]), .lookedUp _ _, .recorded (.connected [1]), .lent _,
        .startupIm, .served, .handled _, .window .close, .operEnded _, .operStarted none,
        .deferred (some [1]), .lookedUp _ _, .runEnded .error]) := rfl
  refine ⟨NetCtl.lastOutcome_lawful, _, _, Machine.exec_reachable executed, ?_, rfl⟩
  simp [ConnectsHandOver, handOver, afterBle, afterBleStep]

end RsMatterStack.Stack
