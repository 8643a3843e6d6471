import RsMatterStack.Refinement
import RsMatterStack.RootFutures
import RsMatterStack.StackStep

set_option autoImplicit false

/-! The `run` methods of a wireless stack, called any number of times at once: each
statement and each destructor is a step of its own, and so is what a root future does. -/

namespace RsMatterStack

open Transition (Machine Reachable)

namespace Method

/-- `run_coex`. -/
def coex : Method → Bool
  | wifiRunCoex | threadRunCoex => true
  | ethernetRun | wifiRun | threadRun => false

end Method

/-- The stack is what all calls share; `stack.run` is where the body of the root future is
that has been started last. -/
structure CalledStack (Creds : Type) where
  shared : Shared
  stack : Stack Creds

inductive CalledAction (Creds : Type)
  | window (event : WindowEvent)
  /-- `run` or `run_coex` is called. -/
  | call (id : Nat) (method : Method)
  /-- The next statement up to the one that allocates the root future. -/
  | statement (id : Nat) (transportReset : Bool)
  /-- The root future goes on; what it allocates for is kept until it drops it. -/
  | future (id : Nat) (action : StackAction Creds)
  | drop (id : Nat)
  /-- The future of a call is dropped. -/
  | cancel (id : Nat)
  | unwind (id : Nat)
  /-- `reset` borrows the stack from any calls. -/
  | reset (outcome : ResetOutcome Creds)

inductive CalledEvent (Creds : Type)
  | call (event : CallEvent)
  | stack (event : StackEvent Creds)

namespace CalledStack

variable {Creds : Type} (config : Config)

def fresh (window : Window) (base capacity : Nat) : CalledStack Creds :=
  ⟨.initial, .fresh window base capacity⟩

def both (calls : List CallEvent) (noted : List (StackEvent Creds)) : List (CalledEvent Creds) :=
  calls.map .call ++ noted.map .stack

/-- A call moves, and the stack is `next` then. -/
def move (state : CalledStack Creds) (action : CallAction) (next : Stack Creds)
    (noted : List (StackEvent Creds)) : Option (CalledStack Creds × List (CalledEvent Creds)) :=
  (state.shared.step action).map fun (shared, events) =>
    (⟨shared, next⟩, both events noted)

/-- The end of a root future leaves the memory as it is. -/
def kept (state : CalledStack Creds) (next : Stack Creds) : Stack Creds :=
  { next with bump := state.stack.bump }

/-- The root future goes on, and the call with it, unless that is its end. -/
def proceed (state : CalledStack Creds) (action : StackAction Creds)
    (onward : Option CallAction) (ended : CallAction) :
    Option (CalledStack Creds × List (CalledEvent Creds)) :=
  match state.stack.step config action with
  | none => none
  | some (next, noted) =>
      if next.run = .idle then state.move ended (state.kept next) noted
      else match onward with
        | none => some (⟨state.shared, next⟩, both [] noted)
        | some action => state.move action next noted

/-- What a root future allocates its boxes with. -/
def boxes (id : Nat) : StackAction Creds → Option CallAction
  | .gattTask | .reserve _ => some (.alloc id)
  | _ => none

/-- A step of a stack alone. -/
def alone (state : CalledStack Creds) (action : StackAction Creds) :
    Option (CalledStack Creds × List (CalledEvent Creds)) :=
  (state.stack.step config action).map fun (next, noted) =>
    ({ state with stack := next }, both [] noted)

def step (state : CalledStack Creds) :
    CalledAction Creds → Option (CalledStack Creds × List (CalledEvent Creds))
  | .window event => state.alone config (.window event)
  | .call id method =>
      if method = .ethernetRun then none else state.move (.call id method) state.stack []
  | .statement id transportReset =>
      match state.shared.statement id with
      | none | some (_, .awaitRoot) => none
      | some (method, .resetTransport) =>
          if transportReset then state.move (.step id true) state.stack []
          else state.proceed config (.run method.coex false) none (.step id false)
      | some (method, .allocRoot) =>
          state.proceed config (.run method.coex true) (some (.step id true)) (.step id false)
      | some _ => state.move (.step id true) state.stack []
  | .future id action =>
      if state.shared.awaits id then
        match action with
        | .window _ | .run _ _ | .reset _ | .abort true => none
        | action => state.proceed config action (boxes id action) (.step id true)
      else none
  | .drop id => state.move (.drop id) state.stack []
  | .cancel id =>
      if state.shared.awaits id then
        state.proceed config (.abort true) none (.cancel id)
      else state.move (.cancel id) state.stack []
  | .unwind id =>
      let next := if state.shared.defers id
        then { state.stack with bump := state.stack.bump.reset } else state.stack
      state.move (.unwind id) next []
  | .reset outcome =>
      if state.shared.runLock = none then state.alone config (.reset outcome) else none

def machine : Machine (CalledStack Creds) (CalledAction Creds) (CalledEvent Creds) :=
  ⟨step config⟩

end CalledStack

namespace Stack

variable {Creds : Type} {config : Config} {stack next : Stack Creds} {action : StackAction Creds}
  {events : List (StackEvent Creds)}

/-- What a run that ends leaves of the memory. -/
theorem Step.ended (moved : Step config stack action events next)
    (started : stack.run ≠ .idle ∨ ∃ coex transportReset, action = .run coex transportReset)
    (ended : next.run = .idle) : next.bump = stack.bump.reset := by
  cases moved with
  | runFailed | btpPanicked | operMissing | connectFailed | startupFailed | stopped => rfl
  | window | hydrated | starting | loaded | startupOk | handled | recorded =>
      rcases started with running | ⟨_, _, same⟩
      · exact absurd ended running
      · cases same
  | reserved layout located =>
      rw [located] at ended
      cases ended
  | reset outcome idle =>
      rcases started with running | ⟨_, _, same⟩
      · exact absurd idle running
      · cases same
  | _ => cases ended

end Stack

namespace CalledStack

variable {Creds : Type} {config : Config} {state next : CalledStack Creds}
  {action : CalledAction Creds} {log events : List (CalledEvent Creds)} {window : Window}
  {base capacity : Nat}

/-- The stack as it is without calls between two runs: with its memory given back. -/
def view (state : CalledStack Creds) : Stack Creds :=
  if state.stack.run = .idle then { state.stack with bump := state.stack.bump.reset }
  else state.stack

def stackNotice : CalledEvent Creds → Option (StackEvent Creds)
  | .stack event => some event
  | .call _ => none

def callNotice : CalledEvent Creds → Option CallEvent
  | .call event => some event
  | .stack _ => none

theorem call_of_both {calls : List CallEvent} {noted : List (StackEvent Creds)} :
    (both calls noted).filterMap callNotice = calls := by
  induction calls with
  | nil =>
      rw [both, List.map_nil, List.nil_append, List.filterMap_map]
      exact List.filterMap_none noted
  | cons event rest ih => exact congrArg (event :: ·) ih

/-- The call has come to one of the two statements that can start or end a run. -/
def Enters (state : CalledStack Creds) (id : Nat) : Prop :=
  ∃ method stmt, state.shared.statement id = some (method, stmt) ∧
    (stmt = .resetTransport ∨ stmt = .allocRoot)

/-- What a step does to the calls, and what to the stack. -/
inductive Step (config : Config) (state : CalledStack Creds) :
    List CallEvent → List (StackEvent Creds) → CalledStack Creds → Prop
  | alone {action : StackAction Creds} {stack : Stack Creds} {noted : List (StackEvent Creds)}
      (outside : (∃ event, action = .window event) ∨ ∃ outcome, action = .reset outcome)
      (stepped : (Stack.machine config).step state.stack action = some (stack, noted)) :
      Step config state [] noted ⟨state.shared, stack⟩
  | quiet {shared : Shared} {calls : List CallEvent}
      (moved : Reachable Shared.machine state.shared calls shared)
      (quiet : state.shared.Quiet shared) : Step config state calls [] ⟨shared, state.stack⟩
  | cleared {id : Nat} {shared : Shared} {calls : List CallEvent}
      (moved : Reachable Shared.machine state.shared calls shared)
      (resets : state.shared.resets id = true)
      (awaits : ∀ other, shared.awaits other = state.shared.awaits other) :
      Step config state calls []
        ⟨shared, { state.stack with bump := state.stack.bump.reset }⟩
  | begun {id : Nat} {coex : Bool} {shared : Shared} {stack : Stack Creds}
      {calls : List CallEvent} {noted : List (StackEvent Creds)} (enters : state.Enters id)
      (stepped : (Stack.machine config).step state.stack (.run coex true) = some (stack, noted))
      (going : stack.run ≠ .idle) (moved : Reachable Shared.machine state.shared calls shared)
      (awaits : ∀ other, shared.awaits other =
        if other = id then true else state.shared.awaits other) :
      Step config state calls noted ⟨shared, stack⟩
  | failed {id : Nat} {coex transportReset : Bool} {shared : Shared} {stack : Stack Creds}
      {calls : List CallEvent} {noted : List (StackEvent Creds)} (enters : state.Enters id)
      (stepped : (Stack.machine config).step state.stack (.run coex transportReset) =
        some (stack, noted))
      (ended : stack.run = .idle) (moved : Reachable Shared.machine state.shared calls shared)
      (quiet : state.shared.Quiet shared) :
      Step config state calls noted ⟨shared, state.kept stack⟩
  | went {id : Nat} {action : StackAction Creds} {shared : Shared} {stack : Stack Creds}
      {calls : List CallEvent} {noted : List (StackEvent Creds)}
      (awaits : state.shared.awaits id = true)
      (stepped : (Stack.machine config).step state.stack action = some (stack, noted))
      (going : stack.run ≠ .idle) (moved : Reachable Shared.machine state.shared calls shared)
      (quiet : state.shared.Quiet shared) : Step config state calls noted ⟨shared, stack⟩
  | ended {id : Nat} {action : StackAction Creds} {shared : Shared} {stack : Stack Creds}
      {calls : List CallEvent} {noted : List (StackEvent Creds)}
      (awaits : state.shared.awaits id = true)
      (stepped : (Stack.machine config).step state.stack action = some (stack, noted))
      (ended : stack.run = .idle) (moved : Reachable Shared.machine state.shared calls shared)
      (ends : state.shared.Ends shared id) :
      Step config state calls noted ⟨shared, state.kept stack⟩

theorem move_cases {action : CallAction} {stack : Stack Creds} {noted : List (StackEvent Creds)}
    (moved : state.move action stack noted = some (next, events)) :
    ∃ shared calls, Shared.machine.step state.shared action = some (shared, calls) ∧
      next = ⟨shared, stack⟩ ∧ events = both calls noted := by
  obtain ⟨⟨shared, calls⟩, inner, same⟩ := Option.map_eq_some_iff.mp moved
  cases same
  exact ⟨shared, calls, inner, rfl, rfl⟩

theorem alone_cases {action : StackAction Creds}
    (outside : (∃ event, action = .window event) ∨ ∃ outcome, action = .reset outcome)
    (moved : state.alone config action = some (next, events)) :
    ∃ calls noted, events = both calls noted ∧ Step config state calls noted next := by
  obtain ⟨⟨stack, noted⟩, stepped, same⟩ := Option.map_eq_some_iff.mp moved
  cases same
  exact ⟨[], noted, rfl, .alone outside stepped⟩

theorem quiet_cases {action : CallAction}
    (moved : state.move action state.stack [] = some (next, events))
    (quiet : ∀ shared calls, Shared.machine.step state.shared action = some (shared, calls) →
      state.shared.Quiet shared) :
    ∃ calls noted, events = both calls noted ∧ Step config state calls noted next := by
  obtain ⟨shared, calls, inner, rfl, rfl⟩ := move_cases moved
  exact ⟨calls, [], rfl, .quiet (.single trivial inner) (quiet _ _ inner)⟩

theorem proceed_cases {action : StackAction Creds} {onward : Option CallAction}
    {ended : CallAction} (moved : state.proceed config action onward ended = some (next, events)) :
    ∃ stack noted, (Stack.machine config).step state.stack action = some (stack, noted) ∧
      (stack.run = .idle ∧ state.move ended (state.kept stack) noted = some (next, events) ∨
      stack.run ≠ .idle ∧ ∃ shared calls, next = ⟨shared, stack⟩ ∧ events = both calls noted ∧
        match onward with
        | none => shared = state.shared ∧ calls = []
        | some action => Shared.machine.step state.shared action = some (shared, calls)) := by
  unfold proceed at moved
  split at moved
  · cases moved
  · rename_i stack noted stepped
    refine ⟨stack, noted, stepped, ?_⟩
    split at moved
    · rename_i ended
      exact Or.inl ⟨ended, moved⟩
    · rename_i going
      refine Or.inr ⟨going, ?_⟩
      cases onward with
      | none =>
          cases moved
          exact ⟨_, _, rfl, rfl, rfl, rfl⟩
      | some action =>
          obtain ⟨shared, calls, inner, rfl, rfl⟩ := move_cases moved
          exact ⟨shared, calls, rfl, rfl, inner⟩

theorem statement_cases {id : Nat} {transportReset : Bool}
    (moved : step config state (.statement id transportReset) = some (next, events)) :
    ∃ calls noted, events = both calls noted ∧ Step config state calls noted next := by
  simp only [step] at moved
  split at moved
  · cases moved
  · cases moved
  · rename_i method found
    split at moved
    · exact quiet_cases moved (fun _ _ => .statement found (by simp))
    · obtain ⟨stack, noted, stepped, ⟨ended, ending⟩ | ⟨going, _⟩⟩ := proceed_cases moved
      · obtain ⟨shared, calls, inner, rfl, rfl⟩ := move_cases ending
        exact ⟨calls, noted, rfl, .failed ⟨method, _, found, .inl rfl⟩ stepped ended
          (.single trivial inner) (.statement found (by simp) inner)⟩
      · obtain ⟨_, same⟩ := Option.ite_none_right_eq_some.mp stepped
        cases Option.some.inj same
        exact absurd rfl going
  · rename_i method found
    obtain ⟨stack, noted, stepped, ⟨ended, ending⟩ | ⟨going, shared, calls, rfl, rfl, inner⟩⟩ :=
      proceed_cases moved
    · obtain ⟨shared, calls, inner, rfl, rfl⟩ := move_cases ending
      exact ⟨calls, noted, rfl, .failed ⟨method, _, found, .inr rfl⟩ stepped ended
        (.single trivial inner) (.statement found (by simp) inner)⟩
    · exact ⟨calls, noted, rfl, .begun ⟨method, _, found, .inr rfl⟩ stepped going
        (.single trivial inner) (Shared.root_awaits found inner)⟩
  · rename_i there unawaited unreset unallocated found
    obtain ⟨method, stmt⟩ := there
    refine quiet_cases moved (fun _ _ => .statement found ⟨?_, ?_⟩)
    · rintro rfl
      exact unawaited method rfl
    · rintro rfl
      exact absurd rfl (unallocated method)

/-- The root future goes on, or ends and its call with it. -/
theorem root_cases {id : Nat} {action : StackAction Creds} {onward : Option CallAction}
    {ended : CallAction} (exclusive : state.shared.Exclusive)
    (awaits : state.shared.awaits id = true)
    (ending : ended = .cancel id ∨ ∃ ok, ended = .step id ok)
    (boxes : ∀ action, onward = some action → action = .alloc id)
    (moved : state.proceed config action onward ended = some (next, events)) :
    ∃ calls noted, events = both calls noted ∧ Step config state calls noted next := by
  obtain ⟨stack, noted, stepped, ⟨idle, inner⟩ | ⟨going, shared, calls, rfl, rfl, inner⟩⟩ :=
    proceed_cases moved
  · obtain ⟨shared, calls, last, rfl, rfl⟩ := move_cases inner
    exact ⟨calls, noted, rfl, .ended awaits stepped idle (.single trivial last)
      (exclusive.ends awaits last ending)⟩
  · refine ⟨calls, noted, rfl, ?_⟩
    cases onward with
    | none =>
        obtain ⟨rfl, rfl⟩ := inner
        exact .went awaits stepped going .start (.of_calls rfl)
    | some action =>
        cases boxes action rfl
        exact .went awaits stepped going (.single trivial inner) (.alloc inner)

theorem boxes_alloc {id : Nat} {action : StackAction Creds} :
    ∀ call, boxes id action = some call → call = .alloc id := by
  intro call same
  cases action with
  | gattTask | reserve => exact (Option.some.inj same).symm
  | _ => cases same

theorem future_cases {id : Nat} {action : StackAction Creds} (exclusive : state.shared.Exclusive)
    (moved : step config state (.future id action) = some (next, events)) :
    ∃ calls noted, events = both calls noted ∧ Step config state calls noted next := by
  obtain ⟨awaits, moved⟩ := Option.ite_none_right_eq_some.mp moved
  split at moved
  · cases moved
  · cases moved
  · cases moved
  · cases moved
  · exact root_cases exclusive awaits (.inr ⟨true, rfl⟩) boxes_alloc moved

theorem cancel_cases {id : Nat} (exclusive : state.shared.Exclusive)
    (moved : step config state (.cancel id) = some (next, events)) :
    ∃ calls noted, events = both calls noted ∧ Step config state calls noted next := by
  simp only [step] at moved
  split at moved
  · rename_i awaits
    exact root_cases exclusive awaits (.inl rfl) (by simp) moved
  · rename_i other
    exact quiet_cases moved (fun _ _ => .cancel (Bool.not_eq_true _ ▸ other))

theorem unwind_cases {id : Nat}
    (moved : step config state (.unwind id) = some (next, events)) :
    ∃ calls noted, events = both calls noted ∧ Step config state calls noted next := by
  obtain ⟨shared, calls, inner, rfl, rfl⟩ := move_cases moved
  obtain ⟨awaits, quiet⟩ := Shared.Quiet.unwind inner
  refine ⟨calls, [], rfl, ?_⟩
  cases defers : state.shared.defers id with
  | true =>
      simp only [if_true]
      exact .cleared (.single trivial inner) (Shared.defers_resets defers) awaits
  | false =>
      simp only [Bool.false_eq_true, if_false]
      exact .quiet (.single trivial inner) (quiet defers)

theorem step_cases (exclusive : state.shared.Exclusive)
    (moved : (machine config).step state action = some (next, events)) :
    ∃ calls noted, events = both calls noted ∧ Step config state calls noted next := by
  cases action with
  | window event => exact alone_cases (.inl ⟨event, rfl⟩) moved
  | call id method =>
      obtain ⟨_, moved⟩ := Option.ite_none_left_eq_some.mp moved
      exact quiet_cases moved (fun _ _ => .called)
  | statement id transportReset => exact statement_cases moved
  | future id action => exact future_cases exclusive moved
  | drop id => exact quiet_cases moved (fun _ _ => .drop)
  | cancel id => exact cancel_cases exclusive moved
  | unwind id => exact unwind_cases moved
  | reset outcome =>
      obtain ⟨_, moved⟩ := Option.ite_none_right_eq_some.mp moved
      exact alone_cases (.inr ⟨outcome, rfl⟩) moved

/-- A stack runs exactly while some call awaits its root future, and its memory is only in
use then, or until `_defer` gives it back. -/
structure Joined (state : CalledStack Creds) : Prop where
  running : state.stack.run ≠ .idle → ∃ id, state.shared.awaits id = true
  awaits : ∀ id, state.shared.awaits id = true → state.stack.run ≠ .idle
  memory : state.stack.bump.offset ≠ 0 →
    state.stack.run ≠ .idle ∨ ∃ id, state.shared.resets id = true

theorem run_idle {coex transportReset : Bool} {stack next : Stack Creds}
    {noted : List (StackEvent Creds)}
    (stepped : (Stack.machine config).step stack (.run coex transportReset) = some (next, noted)) :
    stack.run = .idle := (Option.ite_none_right_eq_some.mp stepped).1

theorem outside_kept {action : StackAction Creds} {stack next : Stack Creds}
    {noted : List (StackEvent Creds)}
    (outside : (∃ event, action = .window event) ∨ ∃ outcome, action = .reset outcome)
    (stepped : (Stack.machine config).step stack action = some (next, noted)) :
    next.run = stack.run ∧ next.bump = stack.bump := by
  rcases outside with ⟨event, rfl⟩ | ⟨outcome, rfl⟩
  · obtain ⟨window, _, same⟩ := Option.map_eq_some_iff.mp stepped
    cases same
    exact ⟨rfl, rfl⟩
  · obtain ⟨_, same⟩ := Option.ite_none_right_eq_some.mp stepped
    cases Option.some.inj same
    cases outcome <;> exact ⟨rfl, rfl⟩

theorem Step.joined {calls : List CallEvent} {noted : List (StackEvent Creds)}
    (moved : Step config state calls noted next) (exclusive : state.shared.Exclusive)
    (now : Joined state) : Joined next := by
  cases moved with
  | alone outside stepped =>
      obtain ⟨run, bump⟩ := outside_kept outside stepped
      constructor
      · rw [run]
        exact now.running
      · rw [run]
        exact now.awaits
      · rw [run, bump]
        exact now.memory
  | quiet moved quiet =>
      constructor
      · intro running
        obtain ⟨id, awaits⟩ := now.running running
        exact ⟨id, (quiet.awaits id).trans awaits⟩
      · intro id awaits
        exact now.awaits id ((quiet.awaits id).symm.trans awaits)
      · intro used
        refine (now.memory used).imp_right ?_
        rintro ⟨id, resets⟩
        exact ⟨id, quiet.resets id resets⟩
  | cleared moved resets awaits =>
      constructor
      · intro running
        obtain ⟨id, there⟩ := now.running running
        exact ⟨id, (awaits id).trans there⟩
      · intro id there
        exact now.awaits id ((awaits id).symm.trans there)
      · intro used
        exact absurd rfl used
  | @begun id coex shared stack calls noted enters stepped going moved awaits =>
      exact ⟨fun _ => ⟨id, by rw [awaits, if_pos rfl]⟩, fun _ _ => going, fun _ => .inl going⟩
  | failed enters stepped ended moved quiet =>
      have idle := run_idle stepped
      constructor
      · intro running
        exact absurd ended running
      · intro id awaits
        exact absurd idle (now.awaits id ((quiet.awaits id).symm.trans awaits))
      · intro used
        obtain running | ⟨id, resets⟩ := now.memory used
        · exact absurd idle running
        · exact .inr ⟨id, quiet.resets id resets⟩
  | @went id action shared stack calls noted awaits stepped going moved quiet =>
      exact ⟨fun _ => ⟨id, (quiet.awaits id).trans awaits⟩, fun _ _ => going, fun _ => .inl going⟩
  | @ended id action shared stack calls noted awaits stepped ended moved ends =>
      constructor
      · intro running
        exact absurd ended running
      · intro other there
        obtain ⟨different, also⟩ := ends.awaits other there
        have same := (exclusive.awaits_holds also).symm.trans (exclusive.awaits_holds awaits)
        exact absurd (Option.some.inj same) different
      · intro _
        exact .inr ⟨id, ends.resets⟩

/-- A call that starts a run finds none, and no memory in use. -/
theorem Joined.vacant {id : Nat} (now : Joined state) (exclusive : state.shared.Exclusive)
    (enters : state.Enters id) : state.stack.run = .idle ∧ state.stack.bump.offset = 0 := by
  obtain ⟨method, stmt, found, entering⟩ := enters
  obtain ⟨call, known, running, located, _⟩ := Shared.statement_spec found
  have live : .defer ∈ call.frame := by
    rw [(exclusive.valid id call known).running running]
    exact Method.defer_live located (entering.imp_right .inl)
  have holds := exclusive.holds known live
  have unawaited : state.shared.awaits id = false := by
    rw [Shared.awaits_located known running located]
    rcases entering with rfl | rfl <;> rfl
  have idle : state.stack.run = .idle := by
    by_contra other
    obtain ⟨owner, awaits⟩ := now.running other
    have same := holds.symm.trans (exclusive.awaits_holds awaits)
    rw [Option.some.inj same, awaits] at unawaited
    cases unawaited
  refine ⟨idle, ?_⟩
  by_contra used
  obtain other | ⟨owner, resets⟩ := now.memory used
  · exact other idle
  · have same := holds.symm.trans (exclusive.resets_holds resets)
    have unreset := Shared.resets_running known running
    rw [Option.some.inj same, resets] at unreset
    cases unreset

/-- A call that gives the memory back finds no run. -/
theorem Joined.cleared {id : Nat} (now : Joined state) (exclusive : state.shared.Exclusive)
    (resets : state.shared.resets id = true) : state.stack.run = .idle := by
  by_contra running
  obtain ⟨owner, awaits⟩ := now.running running
  have same := (exclusive.awaits_holds awaits).symm.trans (exclusive.resets_holds resets)
  obtain ⟨call, known, alive, _⟩ := Shared.awaits_spec awaits
  have unreset := Shared.resets_running known alive
  rw [Option.some.inj same, resets] at unreset
  cases unreset

theorem view_running (running : state.stack.run ≠ .idle) : state.view = state.stack :=
  if_neg running

theorem view_idle (idle : state.stack.run = .idle) :
    state.view = { state.stack with bump := state.stack.bump.reset } := if_pos idle

theorem view_unused (unused : state.stack.bump.offset = 0) : state.view = state.stack := by
  unfold view
  split
  · rw [Bump.reset, ← unused]
  · rfl

theorem view_kept {shared : Shared} {action : StackAction Creds} {stack : Stack Creds}
    {noted : List (StackEvent Creds)}
    (stepped : (Stack.machine config).step state.stack action = some (stack, noted))
    (started : state.stack.run ≠ .idle ∨ ∃ coex transportReset, action = .run coex transportReset)
    (ended : stack.run = .idle) : view ⟨shared, state.kept stack⟩ = stack := by
  have given := (Stack.step_cases stepped).ended started ended
  rw [view_idle ended]
  simp only [kept, ← given]

theorem outside_view {shared : Shared} {action : StackAction Creds} {stack : Stack Creds}
    {noted : List (StackEvent Creds)}
    (outside : (∃ event, action = .window event) ∨ ∃ outcome, action = .reset outcome)
    (stepped : (Stack.machine config).step state.stack action = some (stack, noted)) :
    (Stack.machine config).step state.view action = some (view ⟨shared, stack⟩, noted) := by
  by_cases idle : state.stack.run = .idle
  · obtain ⟨run, bump⟩ := outside_kept outside stepped
    rw [view_idle idle, view_idle (run.trans idle)]
    rcases outside with ⟨event, rfl⟩ | ⟨outcome, rfl⟩
    · obtain ⟨window, applied, same⟩ := Option.map_eq_some_iff.mp stepped
      cases same
      simp only [Stack.machine, Stack.step, applied, Option.map_some]
    · obtain ⟨_, same⟩ := Option.ite_none_right_eq_some.mp stepped
      cases Option.some.inj same
      refine (if_pos idle).trans ?_
      cases outcome <;> rfl
  · obtain ⟨run, bump⟩ := outside_kept outside stepped
    rw [view_running idle, view_running (run ▸ idle)]
    exact stepped

theorem Step.simulates {calls : List CallEvent} {noted : List (StackEvent Creds)}
    (moved : Step config state calls noted next) (exclusive : state.shared.Exclusive)
    (now : Joined state) : Reachable (Stack.machine config) state.view noted next.view := by
  cases moved with
  | alone outside stepped => exact .single trivial (outside_view outside stepped)
  | quiet => exact .start
  | @cleared id shared calls moved resets awaits =>
      have idle := now.cleared exclusive resets
      have same : view ⟨shared, { state.stack with bump := state.stack.bump.reset }⟩ =
          state.view := (if_pos idle).trans (view_idle idle).symm
      rw [same]
      exact .start
  | begun enters stepped going =>
      rw [view_unused (now.vacant exclusive enters).2, view_running going]
      exact .single trivial stepped
  | failed enters stepped ended =>
      rw [view_unused (now.vacant exclusive enters).2,
        view_kept stepped (.inr ⟨_, _, rfl⟩) ended]
      exact .single trivial stepped
  | went awaits stepped going =>
      rw [view_running (now.awaits _ awaits), view_running going]
      exact .single trivial stepped
  | ended awaits stepped ended =>
      have running := now.awaits _ awaits
      rw [view_running running, view_kept stepped (.inl running) ended]
      exact .single trivial stepped

theorem Step.calls {calls : List CallEvent} {noted : List (StackEvent Creds)}
    (moved : Step config state calls noted next) :
    Reachable Shared.machine state.shared calls next.shared := by
  cases moved with
  | alone => exact .start
  | quiet moved | cleared moved | begun _ _ _ moved | failed _ _ _ moved | went _ _ _ moved
  | ended _ _ _ moved => exact moved

/-- The calls go on as if there were no stack. -/
theorem reachable_shared
    (reached : Reachable (machine config) (fresh window base capacity) log state) :
    Reachable Shared.machine .initial (log.filterMap callNotice) state.shared := by
  refine reached.simulates CalledStack.shared callNotice ?_
  intro log events state next action _ ran _ moved
  obtain ⟨calls, noted, rfl, known⟩ := step_cases (Shared.reachable_exclusive ran) moved
  rw [call_of_both]
  exact known.calls

theorem reachable_exclusive
    (reached : Reachable (machine config) (fresh window base capacity) log state) :
    state.shared.Exclusive := Shared.reachable_exclusive (reachable_shared reached)

/-- A run is dropped in its BLE phase, while a call of `run_coex` waits for `run_lock`, which
then starts its own. -/
def handedOver : List (CalledAction Unit) :=
  [.call 0 .wifiRun, .call 1 .wifiRunCoex] ++ List.replicate 4 (.statement 0 true) ++
    [.window .openBasic, .statement 0 true, .future 0 .head, .future 0 .gattTask, .cancel 0,
      .drop 0] ++ List.replicate 4 (.unwind 0) ++ List.replicate 5 (.statement 1 true)

end CalledStack

end RsMatterStack
