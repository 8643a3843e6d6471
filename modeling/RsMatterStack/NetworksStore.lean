import RsMatterStack.StackStep

set_option autoImplicit false

/-! The networks store across phases and runs. -/

namespace RsMatterStack.Stack

open Transition (Reachable Everywhere everywhere_append Machine)

variable {Creds : Type}

def keptStep (kept : Networks Creds) : StackEvent Creds → Networks Creds
  | .handled op => kept.apply op
  | .reset .factoryResetFailed => kept
  | .reset _ => .empty
  | _ => kept

/-- What the handlers have put into the store and not removed since, whatever a load
may have put there. -/
def kept (log : List (StackEvent Creds)) : Networks Creds := log.foldl keptStep .empty

/-- The store is only loaded before any Interaction Model has passed `startup_im`, and
`connect_once` and every new handler are lent it with all that handlers put into it. -/
def KeepsNetworks (before : List (StackEvent Creds)) : StackEvent Creds → Prop
  | .networksLoaded _ => .served ∉ before
  | .lookedUp _ networks | .lent networks => networks.Includes (kept before)
  | _ => True

/-- Once an Interaction Model serves, no startup is or will be running; before, no
handler has put anything into the store, and after, it is all there. -/
structure Lending (log : List (StackEvent Creds)) (stack : Stack Creds) : Prop where
  hydrated : .served ∈ log ∨ stack.im = some .starting → stack.imHydrated = true
  settled : .served ∈ log → stack.im ≠ some .starting
  serving : stack.im = some .serving → .served ∈ log
  unused : .served ∉ log → kept log = .empty
  includes : stack.networks.Includes (kept log)

variable {config : Config} {stack next : Stack Creds} {action : StackAction Creds}
  {log events : List (StackEvent Creds)} {window : Window} {base capacity : Nat}

theorem kept_append : kept (log ++ events) = events.foldl keptStep (kept log) := by
  simp only [kept, List.foldl_append]

/-- Neither the store nor the flag changes, and no Interaction Model comes to serve. -/
theorem Lending.keep (now : Lending log stack) (hydrated : next.imHydrated = stack.imHydrated)
    (networks : next.networks = stack.networks)
    (im : next.im = stack.im ∨ next.im = none ∨ next.im = some .created)
    (unserved : .served ∉ events)
    (unhandled : ∀ networks : Networks Creds, events.foldl keptStep networks = networks) :
    Lending (log ++ events) next := by
  have earlier : .served ∈ log ++ events ↔ .served ∈ log := by simp [unserved]
  have same : kept (log ++ events) = kept log := by rw [kept_append, unhandled]
  constructor
  · rintro (served | running)
    · exact hydrated.trans (now.hydrated (Or.inl (earlier.mp served)))
    · rcases im with same | gone | created
      · exact hydrated.trans (now.hydrated (Or.inr (same.symm.trans running)))
      · rw [gone] at running
        cases running
      · rw [created] at running
        cases running
  · intro served
    rcases im with same | gone | created
    · rw [same]
      exact now.settled (earlier.mp served)
    · simp [gone]
    · simp [created]
  · intro serving
    rcases im with same | gone | created
    · exact earlier.mpr (now.serving (same.symm.trans serving))
    · rw [gone] at serving
      cases serving
    · rw [created] at serving
      cases serving
  · intro unserved
    rw [same]
    exact now.unused (fun served => unserved (earlier.mpr served))
  · rw [same, networks]
    exact now.includes

/-- An Interaction Model passes `startup_im`. -/
theorem Lending.serve (now : Lending log stack) (hydrated : stack.imHydrated = true)
    {event : StackEvent Creds} (unhandled : keptStep (kept log) event = kept log) :
    Lending (log ++ [event, .served]) { stack with im := some .serving } := by
  have same : kept (log ++ [event, .served]) = kept log := by
    rw [kept_append]
    exact unhandled
  constructor
  · intro _
    exact hydrated
  · intro _
    simp
  · intro _
    simp
  · intro unserved
    simp at unserved
  · rw [same]
    exact now.includes

/-- The store changes as the log says. -/
theorem Lending.put (now : Lending log stack) {networks : Networks Creds}
    {event : StackEvent Creds} (other : event ≠ .served)
    (unused : .served ∉ log → keptStep (kept log) event = .empty)
    (includes : networks.Includes (keptStep (kept log) event)) :
    Lending (log ++ [event]) { stack with networks := networks } := by
  have earlier : .served ∈ log ++ [event] ↔ .served ∈ log := by simp [other.symm]
  have put : kept (log ++ [event]) = keptStep (kept log) event := kept_append
  constructor
  · rw [earlier]
    exact now.hydrated
  · rw [earlier]
    exact now.settled
  · rw [earlier]
    exact now.serving
  · rw [earlier, put]
    exact unused
  · rw [put]
    exact includes

theorem Lending.start (now : Lending log stack) (first : stack.imHydrated = false) :
    Lending (log ++ [.startupIm]) { stack with imHydrated := true, im := some .starting } := by
  have unserved : .served ∉ log ++ [.startupIm] := by
    intro served
    have set := now.hydrated (Or.inl (by simpa using served))
    rw [first] at set
    cases set
  have same : kept (log ++ [.startupIm]) = kept log := kept_append
  constructor
  · intro _
    rfl
  · intro served
    exact absurd served unserved
  · intro serving
    cases serving
  · intro _
    rw [same]
    exact now.unused (by simpa using unserved)
  · rw [same]
    exact now.includes

theorem Step.lending (moved : Step config stack action events next) (now : Lending log stack) :
    Lending (log ++ events) next := by
  cases moved with
  | hydrated created already => exact now.serve already rfl
  | starting created first => exact now.start first
  | startupOk running => exact now.serve (now.hydrated (Or.inr running)) rfl
  | loaded stored running =>
      have unserved : .served ∉ log := fun served => now.settled served running
      have unused : keptStep (kept log) (.networksLoaded stored) = .empty := now.unused unserved
      exact now.put (by simp) (fun _ => unused) (by rw [unused]; exact .empty)
  | handled op serving =>
      have served := now.serving serving
      exact now.put (by simp) (fun unserved => absurd served unserved) (now.includes.apply op)
  | reset outcome =>
      cases outcome with
      | factoryResetFailed => exact now.put (by simp) now.unused now.includes
      | _ => exact now.put (by simp) (fun _ => rfl) .empty
  | startupFailed running =>
      exact now.keep rfl rfl (Or.inr (Or.inl rfl)) (by simp) (fun _ => rfl)
  | runFailed | btpPanicked | gattDone | operMissing | connectFailed | windowAppeared | taskDone
  | stopped =>
      exact now.keep rfl rfl (Or.inr (Or.inl rfl)) (by simp)
        (fun _ => by simp [List.foldl_append, foldl_cancelled, keptStep])
  | coexStarted | btpStarted | operSkipped | connected =>
      exact now.keep rfl rfl (Or.inr (Or.inr rfl)) (by simp) (fun _ => rfl)
  | _ => exact now.keep rfl rfl (Or.inl rfl) (by simp) (fun _ => rfl)

theorem reachable_lending
    (reached : Reachable (machine config) (fresh window base capacity) log stack) :
    Lending log stack :=
  reached.invariant (fun log stack => Lending log stack)
    ⟨by simp [fresh], by simp, by simp [fresh], fun _ => rfl, .empty⟩
    (fun _ _ _ _ _ _ now _ moved => (step_cases moved).lending now)

/-- From the first Interaction Model that serves, no load replaces the store: every
`connect_once` and every new handler finds in it all that earlier handlers put there. -/
theorem networks_survive
    (reached : Reachable (machine config) (fresh window base capacity) log stack) :
    Everywhere KeepsNetworks log := by
  refine reached.everywhere ?_
  intro log events stack next action reached _ moved
  have now := reachable_lending reached
  cases step_cases moved with
  | loaded stored running =>
      have unserved : .served ∉ log := fun served => now.settled served running
      simpa [KeepsNetworks] using unserved
  | operDeferred | operMissing | coexStarted | btpStarted | btpPanicked | operSkipped | connected =>
      simp [everywhere_append, KeepsNetworks, kept_append, keptStep, now.includes]
  | _ => simp [everywhere_append, KeepsNetworks]

/-- What leaves a network of the store alone. -/
def Spares (networkId : NetworkId) : StackEvent Creds → Prop
  | .handled op => op.networkId ≠ networkId
  | .reset outcome => outcome = .factoryResetFailed
  | _ => True

theorem keptStep_spared {networkId : NetworkId} {networks : Networks Creds}
    {event : StackEvent Creds} (spares : Spares networkId event) :
    keptStep networks event networkId = networks networkId := by
  cases event with
  | handled op => exact Networks.apply_other spares
  | reset outcome =>
      cases outcome with
      | factoryResetFailed => rfl
      | _ => cases spares
  | _ => rfl

/-- A network that a handler has added is kept until one changes or removes it. -/
theorem kept_added {networkId : NetworkId} {creds : Creds}
    (spared : ∀ event ∈ events, Spares networkId event) :
    kept (log ++ .handled (.addOrUpdate networkId creds) :: events) networkId = some creds := by
  rw [kept_append, List.foldl_cons]
  have added : keptStep (kept log) (.handled (.addOrUpdate networkId creds)) networkId =
      some creds := Networks.apply_added
  revert added
  generalize keptStep (kept log) (.handled (.addOrUpdate networkId creds)) = networks
  intro held
  induction events generalizing networks with
  | nil => exact held
  | cons event rest ih =>
      have first : Spares networkId event := spared event List.mem_cons_self
      exact ih (fun other member => spared other (List.mem_cons_of_mem _ member)) _
        ((keptStep_spared first).trans held)

/-- So every later handler, and `connect_once`, finds it with these credentials. -/
theorem KeepsNetworks.found {networkId : NetworkId} {creds : Creds} {networks : Networks Creds}
    {event : StackEvent Creds}
    (keeps : KeepsNetworks (log ++ .handled (.addOrUpdate networkId creds) :: events) event)
    (lent : event = .lent networks ∨ ∃ wanted, event = .lookedUp wanted networks)
    (spared : ∀ event ∈ events, Spares networkId event) : networks networkId = some creds := by
  have held : kept (log ++ .handled (.addOrUpdate networkId creds) :: events) networkId =
      some creds := kept_added spared
  rcases lent with rfl | ⟨wanted, rfl⟩
  · exact keeps networkId creds held
  · exact keeps networkId creds held

/-- The network of a first commissioning is there for the connect and for the handler
after it. -/
theorem networks_survive_commissioning :
    Everywhere KeepsNetworks ((machine smallConfig).logOf smallStack commissioning) := by
  have executed : ((machine smallConfig).exec smallStack commissioning).isSome = true := rfl
  obtain ⟨last, reached⟩ := Machine.logOf_reachable executed
  exact networks_survive reached

end RsMatterStack.Stack
