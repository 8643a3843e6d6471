import RsMatterStack.DeferredConnect
import RsMatterStack.Refinement

set_option autoImplicit false

/-! `WirelessNetCtl`, which only checks credentials while BLE commissions the stack, and is
the controller of the driver otherwise; and the outcomes that a stack records of it. -/

namespace RsMatterStack

open Transition (Everywhere Machine Reachable everywhere_append everywhere_cons
  everywhere_map everywhere_nil)

inductive NetworkType
  | wifi
  | thread
deriving DecidableEq, Repr

/-- The calls of a `NetCtl` that do something. -/
inductive CtlCall (Creds : Type)
  | scan
  | connect (networkId : NetworkId) (creds : Creds)
  | setEnabled (enabled : Bool)
deriving DecidableEq, Repr

/-- What a stack is given: `check_match` of its credentials; the controller of the
operational network, which answers a call and goes on, or is left in the middle of it; and what
rs-matter's `NetCtlWithStatusImpl`, around each controller, records of a call. -/
structure Controllers (Creds Driver : Type) where
  netType : NetworkType
  invalidAction : Int
  checkMatch : Creds → NetworkType → Except Int Unit
  perform : Driver → CtlCall Creds → Except Int Unit × Driver
  drop : Driver → CtlCall Creds → Driver
  record : CtlCall Creds → Except Int Unit → Option NetCtlOutcome

/-- Every connect is recorded as it turned out, and nothing else as one that succeeded: whether
a scan or `set_enabled` is recorded at all is left open. -/
structure Controllers.Lawful {Creds Driver : Type} (controllers : Controllers Creds Driver) :
    Prop where
  connected : ∀ networkId creds,
    controllers.record (.connect networkId creds) (.ok ()) = some (.connected networkId)
  connectFailed : ∀ networkId creds error,
    controllers.record (.connect networkId creds) (.error error) =
      some (.connectFailed networkId error)
  success : ∀ call answer outcome, controllers.record call answer = some outcome →
    outcome.success ≠ none → ∃ networkId creds, call = .connect networkId creds

inductive WirelessNetCtl (Driver : Type)
  | commissioning (netType : NetworkType)
  | operational (driver : Driver)

namespace WirelessNetCtl

variable {Creds Driver : Type} (controllers : Controllers Creds Driver)

/-- `Operational` hands every call to the driver. -/
def delegate (driver : Driver) (call : CtlCall Creds) :
    Except Int Unit × WirelessNetCtl Driver :=
  ((controllers.perform driver call).1, .operational (controllers.perform driver call).2)

def scan : WirelessNetCtl Driver → Except Int Unit × WirelessNetCtl Driver
  | commissioning netType => (.error controllers.invalidAction, .commissioning netType)
  | operational driver => delegate controllers driver .scan

def connect (networkId : NetworkId) (creds : Creds) :
    WirelessNetCtl Driver → Except Int Unit × WirelessNetCtl Driver
  | commissioning netType => (controllers.checkMatch creds netType, .commissioning netType)
  | operational driver => delegate controllers driver (.connect networkId creds)

/-- The interface that is being commissioned is not disabled. -/
def setEnabled (enabled : Bool) :
    WirelessNetCtl Driver → Except Int Unit × WirelessNetCtl Driver
  | commissioning netType =>
      (if enabled then .ok () else .error controllers.invalidAction, .commissioning netType)
  | operational driver => delegate controllers driver (.setEnabled enabled)

def ask (ctl : WirelessNetCtl Driver) :
    CtlCall Creds → Except Int Unit × WirelessNetCtl Driver
  | .scan => ctl.scan controllers
  | .connect networkId creds => ctl.connect controllers networkId creds
  | .setEnabled enabled => ctl.setEnabled controllers enabled

def isCommissioning : WirelessNetCtl Driver → Bool
  | commissioning _ => true
  | operational _ => false

/-- The driver after a call, which `Commissioning` leaves alone. -/
def driver (before : Driver) : WirelessNetCtl Driver → Driver
  | commissioning _ => before
  | operational driver => driver

end WirelessNetCtl

/-- A stack with the driver behind its controllers. -/
structure CtlStack (Creds Driver : Type) where
  stack : Stack Creds
  driver : Driver

inductive CtlAction (Creds : Type)
  /-- A step without a controller. -/
  | stack (action : StackAction Creds)
  /-- The Network Commissioning handler asks the controller of the phase. -/
  | scan
  | connect (networkId : NetworkId)
  | setEnabled (enabled : Bool)
  /-- `connect_once` asks it. -/
  | connectOnce
  /-- A call is dropped before its answer, which only the driver lets anyone wait for. -/
  | drop (call : CtlCall Creds)

inductive CtlEvent (Creds : Type)
  | stack (event : StackEvent Creds)
  | asked (commissioning : Bool) (call : CtlCall Creds) (answer : Except Int Unit)
  | dropped (call : CtlCall Creds)

namespace CtlStack

variable {Creds Driver : Type} (config : Config) (controllers : Controllers Creds Driver)

/-- `GattTask::run` has a controller for commissioning, the operational and the concurrent
task that of the driver. -/
def ctl (state : CtlStack Creds Driver) : Option (WirelessNetCtl Driver) :=
  match state.stack.run with
  | .gatt _ _ => some (.commissioning controllers.netType)
  | .connecting _ | .oper _ | .coex => some (.operational state.driver)
  | _ => none

/-- The controller answers, and the stack does with the answer what `react` says. -/
def answer (state : CtlStack Creds Driver) (call : CtlCall Creds)
    (react : Except Int Unit → Option (StackAction Creds)) :
    Option (CtlStack Creds Driver × List (CtlEvent Creds)) :=
  match state.ctl controllers with
  | none => none
  | some ctl =>
      let (answer, after) := ctl.ask controllers call
      let asked : CtlEvent Creds := .asked ctl.isCommissioning call answer
      match react answer with
      | none => some ({ state with driver := after.driver state.driver }, [asked])
      | some action =>
          match state.stack.step config action with
          | none => none
          | some (stack, events) =>
              some (⟨stack, after.driver state.driver⟩, asked :: events.map .stack)

/-- A call of the handler, and what `NetCtlWithStatusImpl` records of it. -/
def handle (state : CtlStack Creds Driver) (call : CtlCall Creds) :
    Option (CtlStack Creds Driver × List (CtlEvent Creds)) :=
  if state.stack.im = some .serving then
    state.answer config controllers call fun answer => (controllers.record call answer).map .record
  else none

/-- The connect of `connect_once` ends. -/
def connectEnd : Except Int Unit → StackAction Creds
  | .ok _ => .connected none
  | .error error => .connected (some error)

def step (state : CtlStack Creds Driver) :
    CtlAction Creds → Option (CtlStack Creds Driver × List (CtlEvent Creds))
  | .stack (.record _) | .stack (.connected _) => none
  | .stack action =>
      (state.stack.step config action).map fun (stack, events) =>
        ({ state with stack := stack }, events.map .stack)
  | .scan => state.handle config controllers .scan
  | .connect networkId =>
      match state.stack.networks networkId with
      | none => none
      | some creds => state.handle config controllers (.connect networkId creds)
  | .setEnabled enabled => state.handle config controllers (.setEnabled enabled)
  | .connectOnce =>
      match state.stack.run with
      | .connecting networkId =>
          match state.stack.networks networkId with
          | none => none
          | some creds =>
              state.answer config controllers (.connect networkId creds) (some ∘ connectEnd)
      | _ => none
  | .drop call =>
      match state.ctl controllers with
      | some (.operational driver) =>
          some ({ state with driver := controllers.drop driver call }, [.dropped call])
      | _ => none

def machine : Machine (CtlStack Creds Driver) (CtlAction Creds) (CtlEvent Creds) :=
  ⟨step config controllers⟩

/-- A driver that counts the calls it is asked, and succeeds; a scan is not recorded. -/
def smallControllers : Controllers Unit Nat where
  netType := .wifi
  invalidAction := 1
  checkMatch := fun _ _ => .ok ()
  perform := fun driver _ => (.ok (), driver + 1)
  drop := fun driver _ => driver
  record
    | .connect networkId _, .ok _ => some (.connected networkId)
    | .connect networkId _, .error error => some (.connectFailed networkId error)
    | .scan, _ | .setEnabled _, _ => none

theorem smallControllers_lawful : smallControllers.Lawful where
  connected := fun _ _ => rfl
  connectFailed := fun _ _ _ => rfl
  success := by
    intro call answer outcome noted _
    cases call with
    | connect networkId creds => exact ⟨networkId, creds, rfl⟩
    | scan | setEnabled => cases noted

/-- Commissioning over BLE, up to the deferred connect. -/
def commissioning : List (CtlAction Unit) :=
  [.stack (.window .openBasic), .stack (.run false true), .stack .head, .stack .gattTask,
    .stack .startupIm, .stack (.startupDone true), .stack (.handle (.addOrUpdate [1] ())),
    .connect [1], .scan, .stack .provReady, .stack .provDelayed, .stack .driverDone,
    .stack .operTask, .connectOnce]

end CtlStack

namespace Stack

variable {Creds : Type} {config : Config} {stack next : Stack Creds} {action : StackAction Creds}
  {log events : List (StackEvent Creds)} {window : Window} {base capacity : Nat}

/-- Only the controller's answers are recorded. -/
theorem Step.recorded_from {outcome : NetCtlOutcome}
    (moved : Step config stack action events next) (noted : .recorded outcome ∈ events) :
    action = .record outcome ∨ ∃ error, action = .connected error := by
  cases moved with
  | recorded => simpa [eq_comm] using noted
  | connected | connectFailed => exact Or.inr ⟨_, rfl⟩
  | _ => simp at noted

/-- A BLE phase starts with nothing else. -/
theorem Step.bleStarted_alone (moved : Step config stack action events next)
    (started : .bleStarted ∈ events) : events = [.bleStarted] := by
  cases moved with
  | bleStarted => rfl
  | _ => simp at started

/-- A deferred connect is the first thing that its step does. -/
theorem Step.deferred_first (moved : Step config stack action events next) :
    Everywhere (fun before event => ∀ networkId, event = .deferred (some networkId) →
      before = [] ∧ config.netCtl.pending stack.netState = some networkId) events := by
  cases moved with
  | operDeferred _ pending => simp [pending]
  | operMissing _ pending => simp [pending, everywhere_append]
  | _ => simp [everywhere_append]

def bleUpStep (up : Bool) : StackEvent Creds → Bool
  | .btpStarted => true
  | .bleEnded _ | .runEnded _ => false
  | _ => up

/-- The `GattTask` runs. -/
def bleUp (log : List (StackEvent Creds)) : Bool := log.foldl bleUpStep false

end Stack

namespace Run

def isGatt : Run → Bool
  | gatt _ _ => true
  | _ => false

/-- The places between the start of a BLE phase and the deferred connect. -/
def leadsOn : Run → Bool
  | gattSetup | gatt _ _ | gattTeardown | operSetup => true
  | _ => false

end Run

namespace Stack

variable {Creds : Type} {config : Config} {stack next : Stack Creds} {action : StackAction Creds}
  {log events : List (StackEvent Creds)} {window : Window} {base capacity : Nat}

theorem Step.bleUp (moved : Step config stack action events next) :
    next.run.isGatt = events.foldl bleUpStep stack.run.isGatt := by
  cases moved with
  | runStarted located | coexStarted located | bleStarted located | operDirect located
  | operStarted located | gattPolled located | operSkipped located | operDeferred located
  | connected located | readLeaving located | operPolled located | looped located =>
      rw [located]
      rfl
  | windowAppeared located | taskDone _ located =>
      simp [located, foldl_cancelled, bleUpStep, Run.isGatt]
  | reset outcome => cases outcome <;> rfl
  | runFailed | btpPanicked | gattDone | operMissing | connectFailed | stopped =>
      simp [foldl_cancelled, bleUpStep, Run.isGatt]
  | _ => rfl

theorem reachable_bleUp
    (reached : Reachable (machine config) (fresh window base capacity) log stack) :
    stack.run.isGatt = Stack.bleUp log :=
  reached.tracked (fun stack => stack.run.isGatt) bleUpStep
    (fun _ _ _ _ moved => (step_cases moved).bleUp)

theorem Step.leadsOn {after : Bool} (moved : Step config stack action events next)
    (located : after = true → stack.run.leadsOn = true)
    (still : events.foldl afterBleStep after = true) : next.run.leadsOn = true := by
  cases moved with
  | bleStarted | operDirect | operStarted | btpStarted | gattPolled | gattDone => rfl
  | connected place | readLeaving place | operPolled place | looped place =>
      have before := located still
      simp [place, Run.leadsOn] at before
  | windowAppeared place | taskDone _ place =>
      have before := located (by simpa [foldl_cancelled, afterBleStep] using still)
      simp [place, Run.leadsOn] at before
  | runStarted | coexStarted | runFailed | btpPanicked | operSkipped | operDeferred | operMissing
  | connectFailed | startupFailed | stopped =>
      simp [foldl_cancelled, afterBleStep] at still
  | reset outcome => cases outcome <;> exact located still
  | _ => exact located still

/-- As long as the phase left is a BLE phase, no other controller than its own exists. -/
theorem reachable_leadsOn
    (reached : Reachable (machine config) (fresh window base capacity) log stack)
    (still : afterBle log = true) : stack.run.leadsOn = true := by
  have followed : afterBle log = true → stack.run.leadsOn = true := by
    apply reached.invariant (fun log stack => afterBle log = true → stack.run.leadsOn = true)
    · intro started
      cases started
    · intro log events stack next action _ located _ moved still
      rw [afterBle, List.foldl_append] at still
      exact (step_cases moved).leadsOn located still
  exact followed still

/-- Neither a BLE phase nor an outcome. -/
def Plain (events : List (StackEvent Creds)) : Prop :=
  .bleStarted ∉ events ∧ ∀ outcome, .recorded outcome ∉ events

theorem Plain.lastConnect {last : Option NetworkId} (plain : Plain events) :
    events.foldl lastConnectStep last = last := by
  induction events with
  | nil => rfl
  | cons event rest ih =>
      obtain ⟨unstarted, unrecorded⟩ := plain
      simp only [List.mem_cons, not_or] at unstarted unrecorded
      have unchanged : lastConnectStep last event = last := by
        cases event with
        | bleStarted => exact absurd rfl unstarted.1
        | recorded outcome => exact absurd rfl (unrecorded outcome).1
        | _ => rfl
      rw [List.foldl_cons, unchanged]
      exact ih ⟨unstarted.2, fun outcome => (unrecorded outcome).2⟩

theorem afterBle_earlier {after : Bool} (unstarted : .bleStarted ∉ events)
    (still : events.foldl afterBleStep after = true) : after = true := by
  induction events generalizing after with
  | nil => exact still
  | cons event rest ih =>
      simp only [List.mem_cons, not_or] at unstarted
      have earlier := ih unstarted.2 still
      cases event with
      | bleStarted => exact absurd rfl unstarted.1
      | deferred | runStarted | runEnded => cases earlier
      | _ => exact earlier

end Stack

namespace CtlStack

variable {Creds Driver : Type} {config : Config} {controllers : Controllers Creds Driver}
  {state next : CtlStack Creds Driver} {action : CtlAction Creds}
  {log events : List (CtlEvent Creds)} {window : Window} {base capacity : Nat} {driver : Driver}

def stackNotice : CtlEvent Creds → Option (StackEvent Creds)
  | .stack event => some event
  | .asked _ _ _ | .dropped _ => none

/-- What the stack alone logs. -/
def stackLog (log : List (CtlEvent Creds)) : List (StackEvent Creds) := log.filterMap stackNotice

@[simp] theorem stackLog_append {later : List (CtlEvent Creds)} :
    stackLog (log ++ later) = stackLog log ++ stackLog later := List.filterMap_append

@[simp] theorem stackLog_map {events : List (StackEvent Creds)} :
    stackLog (events.map .stack) = events := by
  rw [stackLog, List.filterMap_map]
  exact List.filterMap_some

@[simp] theorem stackLog_asked {commissioning : Bool} {call : CtlCall Creds}
    {answer : Except Int Unit} :
    stackLog (.asked commissioning call answer :: log) = stackLog log := rfl

/-- The steps of the stack with its controllers: beside them, an unrecorded call of one of
them, a call whose outcome is recorded before anything else happens, and a dropped call. -/
inductive Step (config : Config) (controllers : Controllers Creds Driver)
    (state : CtlStack Creds Driver) : List (CtlEvent Creds) → CtlStack Creds Driver → Prop
  | beside {action : StackAction Creds} {stack : Stack Creds} {events : List (StackEvent Creds)}
      (moved : (Stack.machine config).step state.stack action = some (stack, events))
      (unrecorded : ∀ outcome, .recorded outcome ∉ events) :
      Step config controllers state (events.map .stack) { state with stack := stack }
  | unrecorded {ctl : WirelessNetCtl Driver} (located : state.ctl controllers = some ctl)
      (call : CtlCall Creds)
      (silent : controllers.record call (ctl.ask controllers call).1 = none) :
      Step config controllers state
        [.asked ctl.isCommissioning call (ctl.ask controllers call).1]
        { state with driver := (ctl.ask controllers call).2.driver state.driver }
  | recorded {ctl : WirelessNetCtl Driver} (located : state.ctl controllers = some ctl)
      (call : CtlCall Creds) {action : StackAction Creds} {stack : Stack Creds}
      {outcome : NetCtlOutcome} {rest : List (StackEvent Creds)}
      (noted : controllers.Lawful →
        controllers.record call (ctl.ask controllers call).1 = some outcome)
      (moved : (Stack.machine config).step state.stack action =
        some (stack, .recorded outcome :: rest))
      (plain : Stack.Plain rest) :
      Step config controllers state
        (.asked ctl.isCommissioning call (ctl.ask controllers call).1 ::
          .stack (.recorded outcome) :: rest.map .stack)
        ⟨stack, (ctl.ask controllers call).2.driver state.driver⟩
  | dropped (located : state.ctl controllers = some (.operational state.driver))
      (call : CtlCall Creds) :
      Step config controllers state [.dropped call]
        { state with driver := controllers.drop state.driver call }

theorem answer_cases {call : CtlCall Creds} {react : Except Int Unit → Option (StackAction Creds)}
    (moved : state.answer config controllers call react = some (next, events)) :
    ∃ ctl, state.ctl controllers = some ctl ∧
      next.driver = (ctl.ask controllers call).2.driver state.driver ∧
      match react (ctl.ask controllers call).1 with
      | none => next.stack = state.stack ∧
          events = [.asked ctl.isCommissioning call (ctl.ask controllers call).1]
      | some action => ∃ noted, (Stack.machine config).step state.stack action =
            some (next.stack, noted) ∧
          events = .asked ctl.isCommissioning call (ctl.ask controllers call).1 ::
            noted.map .stack := by
  unfold answer at moved
  split at moved
  · cases moved
  · rename_i ctl located
    refine ⟨ctl, located, ?_⟩
    dsimp only at moved
    split at moved
    · rename_i silent
      cases Option.some.inj moved
      exact ⟨rfl, rfl, rfl⟩
    · rename_i action reacts
      split at moved
      · cases moved
      · rename_i stack noted inner
        cases Option.some.inj moved
        exact ⟨rfl, noted, inner, rfl⟩

theorem handle_cases {call : CtlCall Creds}
    (moved : state.handle config controllers call = some (next, events)) :
    Step config controllers state events next := by
  obtain ⟨serving, moved⟩ := Option.ite_none_right_eq_some.mp moved
  obtain ⟨ctl, located, driven, rest⟩ := answer_cases moved
  obtain ⟨stack, driver⟩ := next
  subst driven
  cases noted : controllers.record call (ctl.ask controllers call).1 with
  | none =>
      rw [noted] at rest
      obtain ⟨rfl, rfl⟩ := rest
      exact .unrecorded located call noted
  | some outcome =>
      rw [noted] at rest
      obtain ⟨written, inner, rfl⟩ := rest
      have record : (Stack.machine config).step state.stack (.record outcome) =
          some (state.stack.record config outcome, [.recorded outcome]) := if_pos serving
      cases record.symm.trans inner
      exact .recorded located call (fun _ => noted) record (by simp [Stack.Plain])

/-- However the connect of `connect_once` ends, it is recorded first. -/
theorem connectEnd_step {stack : Stack Creds} {networkId : NetworkId}
    (place : stack.run = .connecting networkId) (creds : Creds) (answer : Except Int Unit) :
    ∃ outcome after rest, (controllers.Lawful →
        controllers.record (.connect networkId creds) answer = some outcome) ∧
      (Stack.machine config).step stack (connectEnd answer) =
        some (after, .recorded outcome :: rest) ∧ Stack.Plain rest := by
  have connects : ∀ error, (Stack.machine config).step stack (.connected error) =
      some (stack.connected config networkId error) := by
    intro error
    simp only [Stack.machine, Stack.step, place]
  cases answer with
  | ok done =>
      exact ⟨_, _, _, fun lawful => lawful.connected networkId creds, connects none,
        by simp [Stack.Plain]⟩
  | error error =>
      exact ⟨_, _, _, fun lawful => lawful.connectFailed networkId creds error,
        connects (some error), by simp [Stack.Plain]⟩

theorem connectOnce_cases
    (moved : step config controllers state .connectOnce = some (next, events)) :
    Step config controllers state events next := by
  simp only [step] at moved
  split at moved
  · rename_i networkId place
    split at moved
    · cases moved
    · rename_i creds found
      obtain ⟨ctl, located, driven, written, inner, rfl⟩ := answer_cases moved
      obtain ⟨stack, driver⟩ := next
      subst driven
      obtain ⟨outcome, after, rest, noted, connects, plain⟩ := connectEnd_step place creds _
      cases connects.symm.trans inner
      exact .recorded located (.connect networkId creds) noted connects plain
  · cases moved

theorem beside_cases {action : StackAction Creds}
    (moved : step config controllers state (.stack action) = some (next, events)) :
    Step config controllers state events next := by
  unfold step at moved
  split at moved <;> try contradiction
  rename_i action unrecorded unconnected same
  cases same
  obtain ⟨⟨stack, noted⟩, inner, same⟩ := Option.map_eq_some_iff.mp moved
  cases same
  refine .beside inner ?_
  intro outcome recorded
  rcases (Stack.step_cases inner).recorded_from recorded with same | ⟨error, same⟩
  · exact unrecorded outcome same
  · exact unconnected error same

/-- There is a controller for commissioning exactly where BLE is up, and that of the driver
only after the deferred connect is decided on. -/
theorem ctl_cases {ctl : WirelessNetCtl Driver} (located : state.ctl controllers = some ctl) :
    state.stack.run.isGatt = true ∧ ctl = .commissioning controllers.netType ∨
      state.stack.run.isGatt = false ∧ state.stack.run.leadsOn = false ∧
        ctl = .operational state.driver := by
  cases place : state.stack.run with
  | gatt closed delaying =>
      simp only [CtlStack.ctl, place, Option.some.injEq] at located
      exact Or.inl ⟨rfl, located.symm⟩
  | connecting networkId | oper next | coex =>
      simp only [CtlStack.ctl, place, Option.some.injEq] at located
      exact Or.inr ⟨rfl, rfl, located.symm⟩
  | _ => simp [CtlStack.ctl, place] at located

theorem ctl_operational {inner : Driver}
    (located : state.ctl controllers = some (.operational inner)) : inner = state.driver := by
  rcases ctl_cases located with ⟨_, same⟩ | ⟨_, _, same⟩
  · cases same
  · cases same
    rfl

theorem drop_cases {call : CtlCall Creds}
    (moved : step config controllers state (.drop call) = some (next, events)) :
    Step config controllers state events next := by
  simp only [step] at moved
  split at moved
  · rename_i inner located
    cases Option.some.inj moved
    cases ctl_operational located
    exact .dropped located call
  · cases moved

theorem step_cases (moved : (machine config controllers).step state action = some (next, events)) :
    Step config controllers state events next := by
  cases action with
  | scan | setEnabled => exact handle_cases moved
  | connect networkId =>
      simp only [machine, step] at moved
      split at moved
      · cases moved
      · exact handle_cases moved
  | connectOnce => exact connectOnce_cases moved
  | stack inner => exact beside_cases moved
  | drop call => exact drop_cases moved

/-- The driver goes on with the calls that reach it. -/
def driven (controllers : Controllers Creds Driver) (driver : Driver) :
    CtlEvent Creds → Driver
  | .asked false call _ => (controllers.perform driver call).2
  | .dropped call => controllers.drop driver call
  | _ => driver

theorem driven_stack {events : List (StackEvent Creds)} :
    (events.map .stack).foldl (driven controllers) driver = driver := by
  induction events with
  | nil => rfl
  | cons event rest ih => exact ih

theorem driven_asked {ctl : WirelessNetCtl Driver} {call : CtlCall Creds}
    {answer : Except Int Unit} (located : state.ctl controllers = some ctl) :
    driven controllers state.driver (.asked ctl.isCommissioning call answer) =
      (ctl.ask controllers call).2.driver state.driver := by
  rcases ctl_cases located with ⟨_, rfl⟩ | ⟨_, _, rfl⟩
  · cases call <;> rfl
  · cases call <;> rfl

theorem Step.drives (moved : Step config controllers state events next) :
    next.driver = events.foldl (driven controllers) state.driver := by
  cases moved with
  | beside => rw [driven_stack]
  | unrecorded located call => exact (driven_asked located).symm
  | recorded located call =>
      rw [List.foldl_cons, driven_asked located]
      exact driven_stack.symm
  | dropped => rfl

end CtlStack

/-- The answers of a controller without a network. -/
def Controllers.noop {Creds Driver : Type} (controllers : Controllers Creds Driver) :
    CtlCall Creds → Except Int Unit
  | .connect _ creds => controllers.checkMatch creds controllers.netType
  | .setEnabled true => .ok ()
  | .scan | .setEnabled false => .error controllers.invalidAction

namespace CtlStack

variable {Creds Driver : Type} {config : Config} {controllers : Controllers Creds Driver}
  {state next : CtlStack Creds Driver} {action : CtlAction Creds}
  {log events : List (CtlEvent Creds)} {window : Window} {base capacity : Nat} {driver : Driver}

/-- The answers while BLE is up are those without a network, and otherwise those of the
driver after all calls that reached it; an outcome recorded is that of the call before. -/
def Answered (controllers : Controllers Creds Driver) (driver : Driver)
    (before : List (CtlEvent Creds)) : CtlEvent Creds → Prop
  | .asked commissioning call answer =>
      commissioning = Stack.bleUp (stackLog before) ∧
      answer = if commissioning then controllers.noop call
        else (controllers.perform (before.foldl (driven controllers) driver) call).1
  | .dropped _ => Stack.bleUp (stackLog before) = false
  | .stack (.recorded outcome) => ∃ earlier commissioning call answer,
      before = earlier ++ [.asked commissioning call answer] ∧
      controllers.record call answer = some outcome
  | .stack _ => True

theorem ask_answered {ctl : WirelessNetCtl Driver} {call : CtlCall Creds}
    (located : state.ctl controllers = some ctl)
    (up : state.stack.run.isGatt = Stack.bleUp (stackLog log))
    (same : state.driver = log.foldl (driven controllers) driver) :
    Answered controllers driver log
      (.asked ctl.isCommissioning call (ctl.ask controllers call).1) := by
  rcases ctl_cases located with ⟨gatt, rfl⟩ | ⟨other, _, rfl⟩
  · refine ⟨gatt.symm.trans up, ?_⟩
    cases call with
    | setEnabled enabled => cases enabled <;> rfl
    | _ => rfl
  · refine ⟨other.symm.trans up, ?_⟩
    rw [← same]
    cases call <;> rfl

theorem stack_answered {earlier : List (CtlEvent Creds) → List (CtlEvent Creds)}
    {events : List (StackEvent Creds)} (unrecorded : ∀ outcome, .recorded outcome ∉ events) :
    Everywhere (fun before => Answered controllers driver (earlier before))
      (events.map .stack) := by
  rw [everywhere_map]
  intro before event after same
  cases event with
  | recorded outcome => exact absurd (by simp [same]) (unrecorded outcome)
  | _ => trivial

theorem Step.answered (lawful : controllers.Lawful)
    (moved : Step config controllers state events next)
    (up : state.stack.run.isGatt = Stack.bleUp (stackLog log))
    (same : state.driver = log.foldl (driven controllers) driver) :
    Everywhere (fun before => Answered controllers driver (log ++ before)) events := by
  cases moved with
  | beside moved unrecorded => exact stack_answered unrecorded
  | unrecorded located call =>
      simpa only [everywhere_cons, everywhere_nil, List.append_nil, and_true] using
        ask_answered located up same
  | recorded located call noted moved plain =>
      simp only [everywhere_cons, List.append_nil]
      exact ⟨ask_answered located up same, ⟨log, _, call, _, rfl, noted lawful⟩,
        stack_answered plain.2⟩
  | dropped located call =>
      rcases ctl_cases located with ⟨_, same⟩ | ⟨other, _⟩
      · cases same
      · simpa [Answered, ← up] using other

/-- Seen without its controllers, the stack runs as it does alone. -/
theorem reachable_stack
    (reached : Reachable (machine config controllers)
      ⟨Stack.fresh window base capacity, driver⟩ log state) :
    Reachable (Stack.machine config) (Stack.fresh window base capacity) (stackLog log)
      state.stack := by
  refine reached.simulates CtlStack.stack stackNotice ?_
  intro log events state next action _ _ _ moved
  cases step_cases moved with
  | beside inner =>
      show Reachable _ _ (stackLog _) _
      rw [stackLog_map]
      exact .single trivial inner
  | unrecorded | dropped => exact .start
  | recorded located call noted inner =>
      show Reachable _ _ (stackLog (_ :: (_ :: _ : List (StackEvent Creds)).map .stack)) _
      rw [stackLog_asked, stackLog_map]
      exact .single trivial inner

theorem reachable_driver
    (reached : Reachable (machine config controllers)
      ⟨Stack.fresh window base capacity, driver⟩ log state) :
    state.driver = log.foldl (driven controllers) driver :=
  reached.tracked CtlStack.driver (driven controllers)
    (fun _ _ _ _ moved => (step_cases moved).drives)

/-- The driver is only asked where no BLE is up, and goes on undisturbed by what is asked
while it is. -/
theorem controllers_answer (lawful : controllers.Lawful)
    (reached : Reachable (machine config controllers)
      ⟨Stack.fresh window base capacity, driver⟩ log state) :
    Reachable (Stack.machine config) (Stack.fresh window base capacity) (stackLog log)
      state.stack ∧
    state.driver = log.foldl (driven controllers) driver ∧
    Everywhere (Answered controllers driver) log := by
  refine ⟨reachable_stack reached, reachable_driver reached, reached.everywhere ?_⟩
  intro log events state next action reached _ moved
  exact (step_cases moved).answered lawful (Stack.reachable_bleUp (reachable_stack reached))
    (reachable_driver reached)

/-- The one call that reaches the driver is the deferred connect. -/
theorem controllers_answer_commissioning :
    ∃ log state, Reachable (machine Stack.smallConfig smallControllers)
        ⟨Stack.smallStack, 0⟩ log state ∧
      Everywhere (Answered smallControllers 0) log ∧ state.driver = 1 ∧
      ((stackLog log).filter fun | .recorded _ => true | _ => false).length = 2 := by
  have executed : (machine Stack.smallConfig smallControllers).exec ⟨Stack.smallStack, 0⟩
      commissioning = some (_, _) := rfl
  have reached := Machine.exec_reachable executed
  obtain ⟨_, driver, answered⟩ := controllers_answer smallControllers_lawful reached
  exact ⟨_, _, reached, answered, driver, rfl⟩

/-- No BLE phase starts, and no call has an outcome that is recorded. -/
def Quiet (controllers : Controllers Creds Driver) (events : List (CtlEvent Creds)) : Prop :=
  .stack .bleStarted ∉ events ∧ ∀ commissioning call answer,
    .asked commissioning call answer ∈ events → controllers.record call answer = none

/-- The last outcome is of a connect in this BLE phase, to a network of the right type. -/
def AskedInBle (controllers : Controllers Creds Driver) (networkId : NetworkId)
    (before : List (CtlEvent Creds)) : Prop :=
  ∃ earlier creds later,
    before = earlier ++ .asked true (.connect networkId creds) (.ok ()) :: later ∧
    Stack.afterBle (stackLog earlier) = true ∧
    controllers.checkMatch creds controllers.netType = .ok () ∧
    Quiet controllers later

/-- What an operational phase connects to right after a BLE phase was asked for there. -/
def HandedOver (controllers : Controllers Creds Driver) (before : List (CtlEvent Creds)) :
    CtlEvent Creds → Prop
  | .stack (.deferred (some networkId)) =>
      Stack.afterBle (stackLog before) = true → AskedInBle controllers networkId before
  | _ => True

theorem AskedInBle.append {networkId : NetworkId} (asked : AskedInBle controllers networkId log)
    (quiet : Quiet controllers events) : AskedInBle controllers networkId (log ++ events) := by
  obtain ⟨earlier, creds, later, rfl, ble, matched, unstarted, silent⟩ := asked
  refine ⟨earlier, creds, later ++ events, by simp, ble, matched, ?_, ?_⟩
  · simp [unstarted, quiet.1]
  · intro commissioning call answer member
    rcases List.mem_append.mp member with before | after
    · exact silent _ _ _ before
    · exact quiet.2 _ _ _ after

theorem quiet_stack {events : List (StackEvent Creds)} (unstarted : .bleStarted ∉ events) :
    Quiet controllers (events.map .stack) := by
  constructor
  · simpa using unstarted
  · intro commissioning call answer member
    simp at member

/-- An outcome that leaves a network to connect to is that of a successful connect to it. -/
theorem recorded_success (lawful : controllers.Lawful) {call : CtlCall Creds}
    {answer : Except Int Unit} {outcome : NetCtlOutcome} {networkId : NetworkId}
    (noted : controllers.record call answer = some outcome)
    (success : outcome.success = some networkId) :
    ∃ creds, call = .connect networkId creds ∧ answer = .ok () := by
  obtain ⟨wanted, creds, rfl⟩ := lawful.success call answer outcome noted (by simp [success])
  cases answer with
  | ok done =>
      cases (lawful.connected wanted creds).symm.trans noted
      cases success
      exact ⟨creds, rfl, rfl⟩
  | error error =>
      cases (lawful.connectFailed wanted creds error).symm.trans noted
      cases success

theorem ctl_leadsOn {ctl : WirelessNetCtl Driver} (located : state.ctl controllers = some ctl)
    (leads : state.stack.run.leadsOn = true) : ctl = .commissioning controllers.netType := by
  rcases ctl_cases located with ⟨_, same⟩ | ⟨_, stays, _⟩
  · exact same
  · rw [stays] at leads
    cases leads

/-- What waits for the operational phase after a BLE phase was asked for there. -/
def Commissioned (controllers : Controllers Creds Driver) (log : List (CtlEvent Creds)) : Prop :=
  ∀ networkId, Stack.lastConnect (stackLog log) = some networkId →
    Stack.afterBle (stackLog log) = true → AskedInBle controllers networkId log

theorem Step.commissioned (lawful : controllers.Lawful)
    (moved : Step config controllers state events next)
    (leads : Stack.afterBle (stackLog log) = true → state.stack.run.leadsOn = true)
    (commissioned : Commissioned controllers log) :
    Commissioned controllers (log ++ events) := by
  intro networkId last still
  rw [stackLog_append] at last still
  cases moved with
  | beside moved unrecorded =>
      rename_i noted
      rw [stackLog_map, Stack.lastConnect, List.foldl_append] at last
      rw [stackLog_map, Stack.afterBle, List.foldl_append] at still
      by_cases started : .bleStarted ∈ noted
      · rw [(Stack.step_cases moved).bleStarted_alone started] at last
        cases last
      · have plain : Stack.Plain noted := ⟨started, unrecorded⟩
        rw [plain.lastConnect] at last
        exact (commissioned networkId last (Stack.afterBle_earlier started still)).append
          (quiet_stack started)
  | unrecorded located call silent =>
      rw [stackLog_asked] at last still
      simp only [stackLog, List.filterMap_nil, List.append_nil] at last still
      refine (commissioned networkId last still).append ⟨by simp, ?_⟩
      intro commissioning other answer member
      simp only [List.mem_singleton, CtlEvent.asked.injEq] at member
      obtain ⟨-, rfl, rfl⟩ := member
      exact silent
  | dropped located call =>
      simp only [stackLog, List.filterMap_cons, stackNotice, List.filterMap_nil,
        List.append_nil] at last still
      exact (commissioned networkId last still).append ⟨by simp, by simp⟩
  | recorded located call noted moved plain =>
      rename_i ctl action stack outcome rest
      have logged : stackLog (.stack (.recorded outcome) :: rest.map .stack) =
          .recorded outcome :: rest := congrArg (_ :: ·) stackLog_map
      rw [stackLog_asked, logged] at last still
      rw [Stack.lastConnect, List.foldl_append, List.foldl_cons, plain.lastConnect] at last
      rw [Stack.afterBle, List.foldl_append] at still
      have unstarted : .bleStarted ∉ StackEvent.recorded outcome :: rest := by
        simpa using plain.1
      have ble := Stack.afterBle_earlier unstarted still
      have commissioning := ctl_leadsOn located (leads ble)
      subst commissioning
      obtain ⟨creds, rfl, matched⟩ := recorded_success lawful (noted lawful) last
      rw [matched]
      exact ⟨log, creds, _, rfl, ble, matched, quiet_stack unstarted⟩

theorem reachable_commissioned (lawful : controllers.Lawful)
    (reached : Reachable (machine config controllers)
      ⟨Stack.fresh window base capacity, driver⟩ log state) : Commissioned controllers log := by
  apply reached.invariant (fun log _ => Commissioned controllers log)
  · intro networkId last
    cases last
  · intro log events state next action reached commissioned _ moved
    exact (step_cases moved).commissioned lawful
      (Stack.reachable_leadsOn (reachable_stack reached)) commissioned

/-- Nothing but a deferred connect is handed over. -/
theorem handedOver_stack {earlier : List (CtlEvent Creds) → List (CtlEvent Creds)}
    {events : List (StackEvent Creds)}
    (asked : ∀ before networkId after, events = before ++ .deferred (some networkId) :: after →
      HandedOver controllers (earlier (before.map .stack))
        (.stack (.deferred (some networkId)))) :
    Everywhere (fun before => HandedOver controllers (earlier before)) (events.map .stack) := by
  rw [everywhere_map]
  intro before event after same
  cases event with
  | deferred networkId =>
      cases networkId with
      | none => trivial
      | some networkId => exact asked before networkId after same
  | _ => trivial

/-- A deferred connect right after a BLE phase is the one that the commissioner asked for
last, with credentials that matched the network type. -/
theorem handover_was_asked (lawful : config.netCtl.Lawful) (records : controllers.Lawful)
    (reached : Reachable (machine config controllers)
      ⟨Stack.fresh window base capacity, driver⟩ log state) :
    Everywhere (HandedOver controllers) log := by
  refine reached.everywhere ?_
  intro log events state next action reached _ moved
  have commissioned := reachable_commissioned records reached
  have verdict := Stack.reachable_pending lawful (reachable_stack reached)
  cases step_cases moved with
  | beside inner unrecorded =>
      refine handedOver_stack ?_
      intro before networkId after same
      obtain ⟨rfl, pending⟩ :=
        (Stack.step_cases inner).deferred_first before _ after same networkId rfl
      intro ble
      rw [List.map_nil, List.append_nil] at ble ⊢
      exact commissioned networkId (verdict.symm.trans pending) ble
  | unrecorded | dropped => simp [HandedOver]
  | recorded located call noted inner plain =>
      simp only [everywhere_cons]
      refine ⟨trivial, trivial, handedOver_stack ?_⟩
      intro before networkId after same
      have first := (Stack.step_cases inner).deferred_first (_ :: before) _ after
        (congrArg (_ :: ·) same) networkId rfl
      cases first.1

/-- It is asked for before a scan that is refused and not recorded, and made. -/
theorem handover_was_asked_commissioning :
    Everywhere (HandedOver smallControllers)
      ((machine Stack.smallConfig smallControllers).logOf ⟨Stack.smallStack, 0⟩ commissioning) ∧
    ∃ before after, (machine Stack.smallConfig smallControllers).logOf ⟨Stack.smallStack, 0⟩
        commissioning = before ++ .stack (.deferred (some [1])) :: after ∧
      Stack.afterBle (stackLog before) = true := by
  have executed : ((machine Stack.smallConfig smallControllers).exec ⟨Stack.smallStack, 0⟩
      commissioning).isSome = true := rfl
  obtain ⟨last, reached⟩ := Machine.logOf_reachable executed
  refine ⟨handover_was_asked NetCtl.lastOutcome_lawful smallControllers_lawful reached, ?_⟩
  exact ⟨_, _, (List.take_append_drop 14 _).symm, rfl⟩

end CtlStack

end RsMatterStack
