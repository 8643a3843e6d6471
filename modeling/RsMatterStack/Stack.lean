import RsMatterStack.Bump
import RsMatterStack.CommWindow
import RsMatterStack.Transition
import RsMatterStack.WirelessState

set_option autoImplicit false

/-! A wireless `MatterStack` and its runs: `run` with the loop of `run_wifi` and
`run_thread`, `run_coex`, and `reset`. -/

namespace RsMatterStack

open Transition (Machine)

/-- What is fixed about a stack: rs-matter's network controller state, and the layouts
of the futures of `run_wifi` (or `run_wifi_coex`) and of `peripheral.run`. -/
structure Config where
  netCtl : NetCtl
  root : Bool → Layout
  peripheral : Layout

/-- How far `run_im` has come for the Interaction Model of the current phase. -/
inductive Im
  | created
  /-- Inside `im.startup()`. -/
  | starting
  | serving
deriving DecidableEq, Repr

/-- Where the run future stands. -/
inductive Run
  | idle
  | head
  /-- The driver is up to run the `GattTask`, then runs it, then is taken down. -/
  | gattSetup
  | gatt (closed : Wait) (delaying : Bool)
  | gattTeardown
  /-- The same for the `WifiTask` or `ThreadTask`. -/
  | operSetup
  | connecting (networkId : NetworkId)
  | oper (next : NextWindow)
  | operTeardown
  | coex
deriving DecidableEq, Repr

/-- The phases with an Interaction Model. -/
def Run.serves : Run → Bool
  | gatt _ _ | oper _ | coex => true
  | _ => false

inductive Task
  | peripheral
  | transport
  | mdns
  | im
  | user
deriving DecidableEq, Repr

inductive Ended
  | ok
  | error
  | cancelled
  | panicked
deriving DecidableEq, Repr

/-- Why an operational phase returned `Ok`. -/
inductive OperEnd
  | window
  | task (task : Task)
deriving DecidableEq, Repr

/-- How far `reset` gets. -/
inductive ResetOutcome (Creds : Type)
  | factoryResetFailed
  | removeNetworksFailed (networks : Networks Creds)
  | imFailed
  | ok

structure Stack (Creds : Type) where
  window : Window
  netState : NetCtlState
  networks : Networks Creds
  imHydrated : Bool
  bump : Bump
  im : Option Im
  run : Run

inductive StackAction (Creds : Type)
  | window (event : WindowEvent)
  | run (coex : Bool) (transportReset : Bool)
  | head
  | gattTask
  | operTask
  /-- The connect of `connect_once` ends. -/
  | connected (error : Option Int)
  /-- The phase's `comm_window_task` is polled. -/
  | poll
  | provReady
  /-- The two seconds after `wait_prov_ready` are over. -/
  | provDelayed
  | finish (task : Task) (ok : Bool)
  | driverDone
  | startupIm
  | loadNetworks (stored : Networks Creds)
  | startupDone (ok : Bool)
  | handle (op : NetworksOp Creds)
  | record (outcome : NetCtlOutcome)
  | reserve (layout : Layout)
  /-- The driver or `weak_rand` fails, or the run future is dropped. -/
  | abort (cancelled : Bool)
  | reset (outcome : ResetOutcome Creds)

inductive StackEvent (Creds : Type)
  | window (event : WindowEvent)
  | runStarted (coex : Bool)
  | runEnded (ended : Ended)
  | bleStarted
  | btpStarted
  | btpPanicked (panic : Panic)
  /-- The BLE phase is over, with this window still open. -/
  | bleEnded (carried : Option Nat)
  | operStarted (allTransports : Option Nat)
  /-- The verdict that `WifiTask::run` finds in `NetCtlState`. -/
  | deferred (networkId : Option NetworkId)
  /-- `connect_once` is lent the store. -/
  | lookedUp (networkId : NetworkId) (networks : Networks Creds)
  /-- A new handler is lent the store. -/
  | lent (networks : Networks Creds)
  /-- The first wait of `wait_next_comm_window` reads the window. -/
  | readLeaving (allTransports : Option Nat)
  | operEnded (cause : OperEnd)
  | startupIm
  | networksLoaded (stored : Networks Creds)
  | startupOk
  | startupFailed
  | startupCancelled
  | served
  | handled (op : NetworksOp Creds)
  | recorded (outcome : NetCtlOutcome)
  | reset (outcome : ResetOutcome Creds)

namespace Stack

variable {Creds : Type}

def fresh (window : Window) (base capacity : Nat) : Stack Creds :=
  ⟨window, .cleared, .empty, false, .new base capacity, none, .idle⟩

/-- Dropping the Interaction Model of a phase cancels a startup it is suspended in. -/
def cancelled : Option Im → List (StackEvent Creds)
  | some .starting => [.startupCancelled]
  | _ => []

/-- The run future is gone, and `_defer` has reset the bump allocator. -/
def stop (stack : Stack Creds) (noted : List (StackEvent Creds)) (ended : Ended) :
    Stack Creds × List (StackEvent Creds) :=
  ({ stack with run := .idle, im := none, bump := stack.bump.reset },
    noted ++ cancelled stack.im ++ [.runEnded ended])

def begin (config : Config) (stack : Stack Creds) (coex transportReset : Bool) :
    Stack Creds × List (StackEvent Creds) :=
  if transportReset then
    match stack.bump.reserve (config.root coex) with
    | .error _ => stack.stop [.runStarted coex] .panicked
    | .ok (_, bump) =>
        if coex then
          ({ stack with bump := bump, im := some .created, run := .coex },
            [.runStarted coex, .lent stack.networks])
        else ({ stack with bump := bump, run := .head }, [.runStarted coex])
  else stack.stop [.runStarted coex] .error

/-- `Wifi::run` or `Thread::run` is called. -/
def operRun (stack : Stack Creds) : Stack Creds × List (StackEvent Creds) :=
  ({ stack with run := .operSetup }, [.operStarted stack.window.allTransports])

/-- The head of the loop. -/
def head (stack : Stack Creds) : Stack Creds × List (StackEvent Creds) :=
  if stack.window.state.isOpenOnAllTransports then
    ({ stack with netState := .cleared, run := .gattSetup }, [.bleStarted])
  else stack.operRun

/-- `GattTask::run` up to the await of `run_btp`. -/
def gattTask (config : Config) (stack : Stack Creds) : Stack Creds × List (StackEvent Creds) :=
  match stack.bump.reserve config.peripheral with
  | .error panic => stack.stop [.lent stack.networks, .btpPanicked panic] .panicked
  | .ok (_, bump) =>
      ({ stack with bump := bump, im := some .created, run := .gatt .subscribe false },
        [.lent stack.networks, .btpStarted])

/-- `GattTask::run` returns `Ok`. -/
def gattDone (stack : Stack Creds) (carried : Option Nat) :
    Stack Creds × List (StackEvent Creds) :=
  ({ stack with run := .gattTeardown, im := none }, cancelled stack.im ++ [.bleEnded carried])

/-- `WifiTask::run` after the deferred connect. -/
def serve (stack : Stack Creds) (noted : List (StackEvent Creds)) :
    Stack Creds × List (StackEvent Creds) :=
  ({ stack with im := some .created, run := .oper .start }, noted ++ [.lent stack.networks])

/-- `WifiTask::run` or `ThreadTask::run` up to the connect of `connect_once`. -/
def operTask (config : Config) (stack : Stack Creds) : Stack Creds × List (StackEvent Creds) :=
  match config.netCtl.pending stack.netState with
  | none => stack.serve [.deferred none]
  | some networkId =>
      let noted := [.deferred (some networkId), .lookedUp networkId stack.networks]
      match stack.networks networkId with
      | none => stack.stop noted .error
      | some _ => ({ stack with run := .connecting networkId }, noted)

/-- `NetCtlWithStatusImpl` records an outcome. -/
def record (config : Config) (stack : Stack Creds) (outcome : NetCtlOutcome) : Stack Creds :=
  { stack with netState := config.netCtl.record stack.netState outcome }

def connected (config : Config) (stack : Stack Creds) (networkId : NetworkId) :
    Option Int → Stack Creds × List (StackEvent Creds)
  | none => (stack.record config (.connected networkId)).serve [.recorded (.connected networkId)]
  | some error => (stack.record config (.connectFailed networkId error)).stop
      [.recorded (.connectFailed networkId error)] .error

/-- `WifiTask::run` or `ThreadTask::run` returns `Ok`. -/
def operDone (stack : Stack Creds) (cause : OperEnd) : Stack Creds × List (StackEvent Creds) :=
  ({ stack with run := .operTeardown, im := none }, cancelled stack.im ++ [.operEnded cause])

/-- The tasks that a phase selects over, and the results they can end with. -/
def finishes (stack : Stack Creds) (task : Task) (ok : Bool) : Bool :=
  match stack.run, task with
  | .gatt _ _, .im | .oper _, .im | .coex, .im => stack.im = some .serving
  | .gatt _ _, .peripheral | .gatt _ _, .transport => true
  | .oper _, .transport | .oper _, .user => true
  | .coex, .transport | .coex, .user => true
  -- These two only ever end with an error
  | .oper _, .mdns | .coex, .mdns | .coex, .peripheral => !ok
  | _, _ => false

/-- `startup_im`. -/
def startupIm (stack : Stack Creds) : Stack Creds × List (StackEvent Creds) :=
  if stack.imHydrated then
    ({ stack with im := some .serving }, [.startupIm, .served])
  else ({ stack with imHydrated := true, im := some .starting }, [.startupIm])

def startupDone (stack : Stack Creds) (ok : Bool) : Stack Creds × List (StackEvent Creds) :=
  if ok then ({ stack with im := some .serving }, [.startupOk, .served])
  else { stack with im := none }.stop [.startupFailed] .error

def pollWindow (stack : Stack Creds) : Option (Stack Creds × List (StackEvent Creds)) :=
  match stack.run with
  | .gatt (.returned _) _ => some (stack.gattDone none)
  | .gatt closed delaying =>
      (closed.step NextWindow.notOnAllTransports stack.window).map fun closed =>
        ({ stack with run := .gatt closed delaying }, [])
  | .oper (.appearing (.returned _)) => some (stack.operDone .window)
  | .oper next =>
      (next.step stack.window).map fun after => ({ stack with run := .oper after },
        match next with
        | .leaving (.read _) => [.readLeaving stack.window.allTransports]
        | _ => [])
  | _ => none

def finish (stack : Stack Creds) (task : Task) (ok : Bool) :
    Option (Stack Creds × List (StackEvent Creds)) :=
  if stack.finishes task ok then
    if ok then
      match stack.run with
      | .gatt _ _ => some (stack.gattDone stack.window.allTransports)
      | .oper _ => some (stack.operDone (.task task))
      | _ => some (stack.stop [] .ok)
    else some (stack.stop [] .error)
  else none

/-- `reset`, which runs on a stack without any run. -/
def reset (stack : Stack Creds) (outcome : ResetOutcome Creds) : Stack Creds :=
  match outcome with
  | .factoryResetFailed => stack
  | .removeNetworksFailed networks => { stack with networks := networks }
  | .imFailed | .ok => { stack with networks := .empty }

/-- Every driver runs the task it is given exactly once: the `GattTask` of a BLE phase, the
`WifiTask` or `ThreadTask` of an operational phase, and the coex task of a `run_coex`. -/
def step (config : Config) (stack : Stack Creds) :
    StackAction Creds → Option (Stack Creds × List (StackEvent Creds))
  | .window event => (stack.window.apply event).map fun window =>
      ({ stack with window := window }, [.window event])
  | .run coex transportReset =>
      if stack.run = .idle then some (stack.begin config coex transportReset) else none
  | .head => if stack.run = .head then some stack.head else none
  | .gattTask => if stack.run = .gattSetup then some (stack.gattTask config) else none
  | .operTask => if stack.run = .operSetup then some (stack.operTask config) else none
  | .connected error =>
      match stack.run with
      | .connecting networkId => some (stack.connected config networkId error)
      | _ => none
  | .poll => stack.pollWindow
  | .provReady =>
      match stack.run with
      | .gatt closed false =>
          if config.netCtl.isProvReady stack.netState then
            some ({ stack with run := .gatt closed true }, [])
          else none
      | _ => none
  | .provDelayed =>
      match stack.run with
      | .gatt _ true => some (stack.gattDone stack.window.allTransports)
      | _ => none
  | .finish task ok => stack.finish task ok
  | .driverDone =>
      match stack.run with
      | .gattTeardown => some stack.operRun
      | .operTeardown => some ({ stack with run := .head }, [])
      | _ => none
  | .startupIm => if stack.im = some .created then some stack.startupIm else none
  | .loadNetworks stored =>
      if stack.im = some .starting then
        some ({ stack with networks := stored }, [.networksLoaded stored])
      else none
  | .startupDone ok => if stack.im = some .starting then some (stack.startupDone ok) else none
  | .handle op =>
      if stack.im = some .serving then
        some ({ stack with networks := stack.networks.apply op }, [.handled op])
      else none
  | .record outcome =>
      if stack.im = some .serving then some (stack.record config outcome, [.recorded outcome])
      else none
  | .reserve layout =>
      if stack.run = .coex then
        match stack.bump.reserve layout with
        | .error _ => some (stack.stop [] .panicked)
        | .ok (_, bump) => some ({ stack with bump := bump }, [])
      else none
  | .abort cancelled =>
      if stack.run = .idle then none
      else some (stack.stop [] (if cancelled then .cancelled else .error))
  | .reset outcome =>
      if stack.run = .idle then some (stack.reset outcome, [.reset outcome]) else none

def machine (config : Config) : Machine (Stack Creds) (StackAction Creds) (StackEvent Creds) :=
  ⟨step config⟩

/-- A small stack: futures of 8 bytes, in a bump allocator for five of them. -/
def smallConfig : Config where
  netCtl := .lastOutcome
  root := fun _ => ⟨8, 8, ⟨3, rfl⟩, ⟨1, rfl⟩⟩
  peripheral := ⟨8, 8, ⟨3, rfl⟩, ⟨1, rfl⟩⟩

def smallStack : Stack Unit := fresh ⟨.closed, 0, 0⟩ 0 40

/-- Commissioning over BLE, up to the operational phase that makes the connect. -/
def commissioning : List (StackAction Unit) :=
  [.window .openBasic, .run false true, .head, .gattTask, .startupIm, .startupDone true,
    .handle (.addOrUpdate [1] ()), .record (.connected [1]), .provReady, .provDelayed,
    .driverDone, .operTask, .connected none]

/-- A BLE phase whose window goes away, an operational phase ended by the next window,
and the BLE phase for that one. -/
def twoPhases : List (StackAction Unit) :=
  [.window .openBasic, .run false true, .head, .gattTask, .window .close] ++
    List.replicate 4 .poll ++ [.driverDone, .operTask] ++ List.replicate 4 .poll ++
    [.window .openBasic] ++ List.replicate 4 .poll ++ [.driverDone, .head, .gattTask]

end Stack

end RsMatterStack
