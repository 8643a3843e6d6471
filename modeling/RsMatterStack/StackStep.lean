import RsMatterStack.Stack

set_option autoImplicit false

/-! What each step of a stack can do. -/

namespace RsMatterStack.Stack

open Transition (Reachable Everywhere)

variable {Creds : Type}

@[simp] theorem everywhere_cancelled
    {Holds : List (StackEvent Creds) → StackEvent Creds → Prop} {im : Option Im} :
    Everywhere Holds (cancelled im) ↔ (im = some .starting → Holds [] .startupCancelled) := by
  cases im with
  | none => simp [cancelled]
  | some im => cases im <;> simp [cancelled]

@[simp] theorem mem_cancelled {event : StackEvent Creds} {im : Option Im} :
    event ∈ cancelled im ↔ im = some .starting ∧ event = .startupCancelled := by
  cases im with
  | none => simp [cancelled]
  | some im => cases im <;> simp [cancelled]

theorem foldl_cancelled {Part : Type} {update : Part → StackEvent Creds → Part} {part : Part}
    {im : Option Im} :
    (cancelled im).foldl update part =
      if im = some .starting then update part .startupCancelled else part := by
  cases im with
  | none => rfl
  | some im => cases im <;> rfl

/-- The steps of `step config stack`, with what each one needs, changes and logs. -/
inductive Step (config : Config) (stack : Stack Creds) :
    StackAction Creds → List (StackEvent Creds) → Stack Creds → Prop
  | window (event : WindowEvent) {window : Window}
      (applied : stack.window.apply event = some window) :
      Step config stack (.window event) [.window event] { stack with window := window }
  | runStarted {address : Nat} {bump : Bump} (idle : stack.run = .idle)
      (reserved : stack.bump.reserve (config.root false) = .ok (address, bump)) :
      Step config stack (.run false true) [.runStarted false]
        { stack with bump := bump, run := .head }
  | coexStarted {address : Nat} {bump : Bump} (idle : stack.run = .idle)
      (reserved : stack.bump.reserve (config.root true) = .ok (address, bump)) :
      Step config stack (.run true true) [.runStarted true, .lent stack.networks]
        { stack with bump := bump, im := some .created, run := .coex }
  | runFailed (coex transportReset : Bool) (ended : Ended) (idle : stack.run = .idle) :
      Step config stack (.run coex transportReset)
        (.runStarted coex :: cancelled stack.im ++ [.runEnded ended])
        { stack with run := .idle, im := none, bump := stack.bump.reset }
  | bleStarted (located : stack.run = .head)
      (all : stack.window.state.isOpenOnAllTransports = true) :
      Step config stack .head [.bleStarted]
        { stack with netState := .cleared, run := .gattSetup }
  | operDirect (located : stack.run = .head)
      (other : stack.window.state.isOpenOnAllTransports = false) :
      Step config stack .head [.operStarted none] { stack with run := .operSetup }
  | operStarted (located : stack.run = .gattTeardown) :
      Step config stack .driverDone [.operStarted stack.window.allTransports]
        { stack with run := .operSetup }
  | btpStarted {address : Nat} {bump : Bump} (located : stack.run = .gattSetup)
      (reserved : stack.bump.reserve config.peripheral = .ok (address, bump)) :
      Step config stack .gattTask [.lent stack.networks, .btpStarted]
        { stack with bump := bump, im := some .created, run := .gatt .subscribe false }
  | btpPanicked {panic : Panic} (located : stack.run = .gattSetup)
      (refused : stack.bump.reserve config.peripheral = .error panic) :
      Step config stack .gattTask
        ([.lent stack.networks, .btpPanicked panic] ++ cancelled stack.im ++
          [.runEnded .panicked])
        { stack with run := .idle, im := none, bump := stack.bump.reset }
  | gattPolled {action : StackAction Creds} {closed after : Wait} {delaying later : Bool}
      (located : stack.run = .gatt closed delaying)
      (ready : later = true → delaying = true ∨ config.netCtl.isProvReady stack.netState = true) :
      Step config stack action [] { stack with run := .gatt after later }
  | gattDone {action : StackAction Creds} {closed : Wait} {delaying : Bool} {carried : Option Nat}
      (located : stack.run = .gatt closed delaying)
      (carries : carried = none ∨ carried = stack.window.allTransports) :
      Step config stack action (cancelled stack.im ++ [.bleEnded carried])
        { stack with run := .gattTeardown, im := none }
  | operSkipped (located : stack.run = .operSetup)
      (empty : config.netCtl.pending stack.netState = none) :
      Step config stack .operTask [.deferred none, .lent stack.networks]
        { stack with im := some .created, run := .oper .start }
  | operDeferred {networkId : NetworkId} {creds : Creds} (located : stack.run = .operSetup)
      (pending : config.netCtl.pending stack.netState = some networkId)
      (found : stack.networks networkId = some creds) :
      Step config stack .operTask
        [.deferred (some networkId), .lookedUp networkId stack.networks]
        { stack with run := .connecting networkId }
  | operMissing {networkId : NetworkId} (located : stack.run = .operSetup)
      (pending : config.netCtl.pending stack.netState = some networkId)
      (missing : stack.networks networkId = none) :
      Step config stack .operTask
        ([.deferred (some networkId), .lookedUp networkId stack.networks] ++
          cancelled stack.im ++ [.runEnded .error])
        { stack with run := .idle, im := none, bump := stack.bump.reset }
  | connected {networkId : NetworkId} (located : stack.run = .connecting networkId) :
      Step config stack (.connected none)
        [.recorded (.connected networkId), .lent stack.networks]
        { stack with
          netState := config.netCtl.record stack.netState (.connected networkId)
          im := some .created
          run := .oper .start }
  | connectFailed {networkId : NetworkId} (error : Int)
      (located : stack.run = .connecting networkId) :
      Step config stack (.connected (some error))
        ([.recorded (.connectFailed networkId error)] ++ cancelled stack.im ++
          [.runEnded .error])
        { stack with
          netState := config.netCtl.record stack.netState (.connectFailed networkId error)
          run := .idle
          im := none
          bump := stack.bump.reset }
  | readLeaving {version : Nat} (located : stack.run = .oper (.leaving (.read version))) :
      Step config stack .poll [.readLeaving stack.window.allTransports]
        { stack with run := .oper (.leaving (.test version stack.window)) }
  | operPolled {next after : NextWindow} (located : stack.run = .oper next)
      (other : ∀ version, next ≠ .leaving (.read version))
      (moved : next.step stack.window = some after) :
      Step config stack .poll [] { stack with run := .oper after }
  | windowAppeared {state : Window}
      (located : stack.run = .oper (.appearing (.returned state))) :
      Step config stack .poll (cancelled stack.im ++ [.operEnded .window])
        { stack with run := .operTeardown, im := none }
  | taskDone {next : NextWindow} (task : Task) (located : stack.run = .oper next) :
      Step config stack (.finish task true) (cancelled stack.im ++ [.operEnded (.task task)])
        { stack with run := .operTeardown, im := none }
  | looped (located : stack.run = .operTeardown) :
      Step config stack .driverDone [] { stack with run := .head }
  | hydrated (created : stack.im = some .created) (already : stack.imHydrated = true) :
      Step config stack .startupIm [.startupIm, .served] { stack with im := some .serving }
  | starting (created : stack.im = some .created) (first : stack.imHydrated = false) :
      Step config stack .startupIm [.startupIm]
        { stack with imHydrated := true, im := some .starting }
  | loaded (stored : Networks Creds) (starting : stack.im = some .starting) :
      Step config stack (.loadNetworks stored) [.networksLoaded stored]
        { stack with networks := stored }
  | startupOk (starting : stack.im = some .starting) :
      Step config stack (.startupDone true) [.startupOk, .served]
        { stack with im := some .serving }
  | startupFailed (starting : stack.im = some .starting) :
      Step config stack (.startupDone false) [.startupFailed, .runEnded .error]
        { stack with run := .idle, im := none, bump := stack.bump.reset }
  | handled (op : NetworksOp Creds) (serving : stack.im = some .serving) :
      Step config stack (.handle op) [.handled op]
        { stack with networks := stack.networks.apply op }
  | recorded (outcome : NetCtlOutcome) (serving : stack.im = some .serving) :
      Step config stack (.record outcome) [.recorded outcome]
        { stack with netState := config.netCtl.record stack.netState outcome }
  | reserved (layout : Layout) {address : Nat} {bump : Bump} (located : stack.run = .coex)
      (success : stack.bump.reserve layout = .ok (address, bump)) :
      Step config stack (.reserve layout) [] { stack with bump := bump }
  | stopped {action : StackAction Creds} (ended : Ended) (running : stack.run ≠ .idle) :
      Step config stack action (cancelled stack.im ++ [.runEnded ended])
        { stack with run := .idle, im := none, bump := stack.bump.reset }
  | reset (outcome : ResetOutcome Creds) (idle : stack.run = .idle) :
      Step config stack (.reset outcome) [.reset outcome] (stack.reset outcome)

variable {config : Config} {stack next : Stack Creds} {action : StackAction Creds}
  {log events : List (StackEvent Creds)} {window : Window} {base capacity : Nat}

theorem begin_cases {coex transportReset : Bool} (idle : stack.run = .idle)
    (moved : stack.begin config coex transportReset = (next, events)) :
    Step config stack (.run coex transportReset) events next := by
  cases transportReset with
  | false =>
      cases moved
      exact .runFailed coex false .error idle
  | true =>
      simp only [begin, ↓reduceIte] at moved
      split at moved
      · cases moved
        exact .runFailed coex true .panicked idle
      · rename_i address bump reserved
        cases coex with
        | false =>
            cases moved
            exact .runStarted idle reserved
        | true =>
            cases moved
            exact .coexStarted idle reserved

theorem head_cases (located : stack.run = .head) (moved : stack.head = (next, events)) :
    Step config stack .head events next := by
  unfold head at moved
  split at moved
  · rename_i all
    cases moved
    exact .bleStarted located all
  · rename_i other
    have shut : stack.window.state.isOpenOnAllTransports = false := Bool.not_eq_true _ ▸ other
    have unopened : stack.window.allTransports = none := by simp [Window.allTransports, shut]
    cases moved
    rw [unopened]
    exact .operDirect located shut

theorem gattTask_cases (located : stack.run = .gattSetup)
    (moved : stack.gattTask config = (next, events)) :
    Step config stack .gattTask events next := by
  unfold gattTask at moved
  split at moved
  · rename_i panic refused
    cases moved
    exact .btpPanicked located refused
  · rename_i address bump reserved
    cases moved
    exact .btpStarted located reserved

theorem operTask_cases (located : stack.run = .operSetup)
    (moved : stack.operTask config = (next, events)) :
    Step config stack .operTask events next := by
  unfold operTask at moved
  split at moved
  · rename_i empty
    cases moved
    exact .operSkipped located empty
  · rename_i networkId pending
    dsimp only at moved
    split at moved
    · rename_i missing
      cases moved
      exact .operMissing located pending missing
    · rename_i creds found
      cases moved
      exact .operDeferred located pending found

theorem pollWindow_cases (moved : stack.pollWindow = some (next, events)) :
    Step config stack .poll events next := by
  unfold pollWindow at moved
  split at moved
  · rename_i state delaying located
    cases Option.some.inj moved
    exact .gattDone located (Or.inl rfl)
  · rename_i closed delaying _ located
    obtain ⟨after, _, same⟩ := Option.map_eq_some_iff.mp moved
    cases same
    exact .gattPolled located Or.inl
  · rename_i state located
    cases Option.some.inj moved
    exact .windowAppeared located
  · rename_i next _ located
    obtain ⟨after, inner, same⟩ := Option.map_eq_some_iff.mp moved
    cases same
    split
    · cases inner
      exact .readLeaving located
    · rename_i other
      exact .operPolled located other inner
  · cases moved

theorem finish_cases {task : Task} {ok : Bool}
    (moved : stack.finish task ok = some (next, events)) :
    Step config stack (.finish task ok) events next := by
  unfold finish at moved
  split at moved
  · rename_i finishes
    have running : stack.run ≠ .idle := by
      intro idle
      simp [Stack.finishes, idle] at finishes
    split at moved
    · rename_i succeeded
      cases succeeded
      split at moved
      · rename_i closed delaying located
        cases Option.some.inj moved
        exact .gattDone located (Or.inr rfl)
      · rename_i inner located
        cases Option.some.inj moved
        exact .taskDone task located
      · cases Option.some.inj moved
        exact .stopped .ok running
    · cases Option.some.inj moved
      exact .stopped .error running
  · cases moved

theorem step_cases (moved : (machine config).step stack action = some (next, events)) :
    Step config stack action events next := by
  cases action with
  | window event =>
      obtain ⟨window, applied, same⟩ := Option.map_eq_some_iff.mp moved
      cases same
      exact .window event applied
  | run coex transportReset =>
      obtain ⟨idle, moved⟩ := Option.ite_none_right_eq_some.mp moved
      exact begin_cases idle (Option.some.inj moved)
  | head =>
      obtain ⟨located, moved⟩ := Option.ite_none_right_eq_some.mp moved
      exact head_cases located (Option.some.inj moved)
  | gattTask =>
      obtain ⟨located, moved⟩ := Option.ite_none_right_eq_some.mp moved
      exact gattTask_cases located (Option.some.inj moved)
  | operTask =>
      obtain ⟨located, moved⟩ := Option.ite_none_right_eq_some.mp moved
      exact operTask_cases located (Option.some.inj moved)
  | connected error =>
      simp only [machine, step] at moved
      split at moved
      · rename_i networkId located
        cases error with
        | none =>
            cases Option.some.inj moved
            exact .connected located
        | some error =>
            cases Option.some.inj moved
            exact .connectFailed error located
      · cases moved
  | poll => exact pollWindow_cases moved
  | provReady =>
      simp only [machine, step] at moved
      split at moved
      · rename_i closed located
        obtain ⟨ready, moved⟩ := Option.ite_none_right_eq_some.mp moved
        cases Option.some.inj moved
        exact .gattPolled located (fun _ => Or.inr ready)
      · cases moved
  | provDelayed =>
      simp only [machine, step] at moved
      split at moved
      · rename_i closed located
        cases Option.some.inj moved
        exact .gattDone located (Or.inr rfl)
      · cases moved
  | finish task ok => exact finish_cases moved
  | driverDone =>
      simp only [machine, step] at moved
      split at moved
      · rename_i located
        cases Option.some.inj moved
        exact .operStarted located
      · rename_i located
        cases Option.some.inj moved
        exact .looped located
      · cases moved
  | startupIm =>
      obtain ⟨created, moved⟩ := Option.ite_none_right_eq_some.mp moved
      have same := Option.some.inj moved
      unfold Stack.startupIm at same
      split at same
      · rename_i already
        cases same
        exact .hydrated created already
      · rename_i first
        cases same
        exact .starting created (Bool.not_eq_true _ ▸ first)
  | loadNetworks stored =>
      obtain ⟨starting, moved⟩ := Option.ite_none_right_eq_some.mp moved
      cases Option.some.inj moved
      exact .loaded stored starting
  | startupDone ok =>
      obtain ⟨starting, moved⟩ := Option.ite_none_right_eq_some.mp moved
      cases ok with
      | true =>
          cases Option.some.inj moved
          exact .startupOk starting
      | false =>
          cases Option.some.inj moved
          exact .startupFailed starting
  | handle op =>
      obtain ⟨serving, moved⟩ := Option.ite_none_right_eq_some.mp moved
      cases Option.some.inj moved
      exact .handled op serving
  | record outcome =>
      obtain ⟨serving, moved⟩ := Option.ite_none_right_eq_some.mp moved
      cases Option.some.inj moved
      exact .recorded outcome serving
  | reserve layout =>
      obtain ⟨located, moved⟩ := Option.ite_none_right_eq_some.mp moved
      split at moved
      · cases Option.some.inj moved
        exact .stopped .panicked (by rw [located]; decide)
      · rename_i address bump success
        cases Option.some.inj moved
        exact .reserved layout located success
  | abort dropped =>
      obtain ⟨running, moved⟩ := Option.ite_none_left_eq_some.mp moved
      cases Option.some.inj moved
      exact .stopped _ running
  | reset outcome =>
      obtain ⟨idle, moved⟩ := Option.ite_none_right_eq_some.mp moved
      cases Option.some.inj moved
      exact .reset outcome idle

/-- An Interaction Model only lives inside a phase. -/
def Placed (stack : Stack Creds) : Prop := stack.im = none ∨ stack.run.serves = true

theorem Step.placed (moved : Step config stack action events next) (placed : stack.Placed) :
    next.Placed := by
  cases moved with
  | window | recorded | handled | loaded => exact placed
  | hydrated created | starting created =>
      rcases placed with absent | serves
      · rw [absent] at created
        cases created
      · exact Or.inr serves
  | startupOk starting =>
      rcases placed with absent | serves
      · rw [absent] at starting
        cases starting
      · exact Or.inr serves
  | reset outcome => cases outcome <;> exact placed
  | runStarted idle | bleStarted idle | operDirect idle | operStarted idle | operDeferred idle
  | looped idle =>
      rcases placed with absent | serves
      · exact Or.inl absent
      · simp [idle, Run.serves] at serves
  | coexStarted | btpStarted | gattPolled | operSkipped | connected | readLeaving | operPolled =>
      exact Or.inr rfl
  | reserved layout located =>
      exact Or.inr (by rw [located]; rfl)
  | _ => exact Or.inl rfl

theorem reachable_placed
    (reached : Reachable (machine config) (fresh window base capacity) log stack) :
    stack.Placed :=
  reached.invariant (fun _ stack => stack.Placed) (Or.inl rfl)
    (fun _ _ _ _ _ _ placed _ moved => (step_cases moved).placed placed)

/-- The bump allocator stays in its place and in bounds, and is empty between runs. -/
structure Allocator (base capacity : Nat) (stack : Stack Creds) : Prop where
  base : stack.bump.base = base
  capacity : stack.bump.capacity = capacity
  bounded : stack.bump.offset ≤ stack.bump.capacity
  idle : stack.run = .idle → stack.bump.offset = 0

theorem Allocator.empty (now : stack.Allocator base capacity) (idle : stack.run = .idle) :
    stack.bump = .new base capacity := by
  rw [← now.base, ← now.capacity, Bump.new, ← now.idle idle]

theorem Allocator.reserve (now : stack.Allocator base capacity) {layout : Layout} {address : Nat}
    {bump : Bump} (success : stack.bump.reserve layout = .ok (address, bump))
    (same : next.bump = bump) (running : next.run ≠ .idle) : next.Allocator base capacity := by
  have reserved := Bump.reserve_ok now.bounded success
  subst same
  exact ⟨reserved.base.trans now.base, reserved.capacity.trans now.capacity, reserved.bounded,
    fun idle => absurd idle running⟩

theorem Allocator.reset (now : stack.Allocator base capacity)
    (same : next.bump = stack.bump.reset) : next.Allocator base capacity := by
  refine ⟨?_, ?_, ?_, ?_⟩ <;> rw [same]
  · exact now.base
  · exact now.capacity
  · exact Bump.reset_bounded _
  · intro _
    rfl

theorem Allocator.keep (now : stack.Allocator base capacity) (same : next.bump = stack.bump)
    (idle : next.run = .idle → stack.run = .idle) : next.Allocator base capacity := by
  refine ⟨?_, ?_, ?_, ?_⟩ <;> rw [same]
  · exact now.base
  · exact now.capacity
  · exact now.bounded
  · intro located
    exact now.idle (idle located)

theorem Step.allocator (moved : Step config stack action events next)
    (now : stack.Allocator base capacity) : next.Allocator base capacity := by
  cases moved with
  | runStarted _ reserved | coexStarted _ reserved | btpStarted _ reserved =>
      exact now.reserve reserved rfl (by simp)
  | reserved layout located success => exact now.reserve success rfl (by simp [located])
  | runFailed | btpPanicked | operMissing | connectFailed | startupFailed | stopped =>
      exact now.reset rfl
  | reset outcome => cases outcome <;> exact now.keep rfl id
  | window | hydrated | starting | loaded | startupOk | handled | recorded => exact now.keep rfl id
  | _ => exact now.keep rfl (by simp)

theorem reachable_allocator
    (reached : Reachable (machine config) (fresh window base capacity) log stack) :
    stack.Allocator base capacity :=
  reached.invariant (fun _ stack => stack.Allocator base capacity)
    ⟨rfl, rfl, Nat.zero_le _, fun _ => rfl⟩
    (fun _ _ _ _ _ _ now _ moved => (step_cases moved).allocator now)

end RsMatterStack.Stack
