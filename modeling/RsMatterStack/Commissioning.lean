import RsMatterStack.DeferredConnect
import RsMatterStack.ProvReady
import RsMatterStack.Refinement

set_option autoImplicit false

/-! How a BLE phase that the commissioner has made a connect in leads to that connect. -/

namespace RsMatterStack

/-- The steps left from a BLE phase to the deferred connect. -/
def Run.left : Run → Nat
  | gatt _ false => 4
  | gatt _ true => 3
  | gattTeardown => 2
  | operSetup => 1
  | _ => 0

namespace Stack

open Transition (Machine Ranking Reachable)

variable {Creds : Type}

/-- The steps that lead on: of `wait_prov_ready` and its delay, and of the drivers. -/
def advances : StackAction Creds → Bool
  | .provReady | .provDelayed | .driverDone | .operTask => true
  | _ => false

/-- Nothing fails, no other outcome is recorded and no request changes the network; the
deferred connect is still to be made. -/
def Calm (networkId : NetworkId) : StackAction Creds → Prop
  | .record _ | .connected _ | .abort _ | .finish _ false => False
  | .handle op => op.networkId ≠ networkId
  | _ => True

/-- The stack is on its way to connect to a network of its store with these credentials. -/
structure Bound (config : Config) (networkId : NetworkId) (creds : Creds) (stack : Stack Creds) :
    Prop where
  place : stack.run = .connecting networkId ∨ 0 < stack.run.left
  pending : config.netCtl.pending stack.netState = some networkId
  stored : stack.networks networkId = some creds
  im : stack.im = some .serving ∨ stack.im = none

variable {config : Config} {stack next : Stack Creds} {action : StackAction Creds}
  {log events : List (StackEvent Creds)} {window : Window} {base capacity : Nat}
  {networkId : NetworkId} {creds : Creds}

namespace Bound

theorem elsewhere (bound : Bound config networkId creds stack) {run : Run}
    (other : ∀ networkId, run ≠ .connecting networkId) (ended : run.left = 0) :
    stack.run ≠ run := by
  intro same
  rcases bound.place with connecting | leads
  · exact other networkId (same.symm.trans connecting)
  · rw [same, ended] at leads
    exact absurd leads (Nat.lt_irrefl 0)

/-- A step that only moves the run future. -/
theorem move (bound : Bound config networkId creds stack) {run : Run} (leads : 0 < run.left) :
    Bound config networkId creds { stack with run := run } :=
  ⟨.inr leads, bound.pending, bound.stored, bound.im⟩

theorem gattDone (bound : Bound config networkId creds stack) (carried : Option Nat) :
    Bound config networkId creds (stack.gattDone carried).1 :=
  ⟨.inr Nat.two_pos, bound.pending, bound.stored, .inr rfl⟩

end Bound

theorem left_gatt (closed : Wait) (delaying : Bool) : 2 < (Run.gatt closed delaying).left := by
  cases delaying with
  | false => exact Nat.lt_of_sub_eq_succ rfl
  | true => exact Nat.lt_of_sub_eq_succ rfl

/-- What a step of a stack on its way leaves of the way. -/
def Onward (config : Config) (networkId : NetworkId) (creds : Creds) (stack : Stack Creds)
    (action : StackAction Creds) (next : Stack Creds) : Prop :=
  Bound config networkId creds next ∧ next.run.left ≤ stack.run.left ∧
    (advances action = true → next.run.left < stack.run.left)

theorem Bound.onward (after : Bound config networkId creds next)
    (less : next.run.left < stack.run.left) : Onward config networkId creds stack action next :=
  ⟨after, Nat.le_of_lt less, fun _ => less⟩

/-- The BLE phase ends. -/
theorem Bound.ends (bound : Bound config networkId creds stack) {closed : Wait} {delaying : Bool}
    (located : stack.run = .gatt closed delaying) (carried : Option Nat) :
    Onward config networkId creds stack action (stack.gattDone carried).1 := by
  apply (bound.gattDone carried).onward
  rw [located]
  exact left_gatt closed delaying

theorem pollWindow_onward (bound : Bound config networkId creds stack)
    (moved : stack.pollWindow = some (next, events)) :
    Onward config networkId creds stack .poll next := by
  unfold pollWindow at moved
  split at moved
  · rename_i state delaying located
    cases Option.some.inj moved
    exact bound.ends located none
  · rename_i closed delaying _ located
    obtain ⟨after, _, same⟩ := Option.map_eq_some_iff.mp moved
    cases same
    have leads : 0 < (Run.gatt after delaying).left :=
      Nat.lt_trans Nat.two_pos (left_gatt after delaying)
    refine ⟨bound.move leads, ?_, by simp [advances]⟩
    rw [located]
    cases delaying <;> exact Nat.le_refl _
  · rename_i located
    exact absurd located (bound.elsewhere (by simp) rfl)
  · rename_i located
    exact absurd located (bound.elsewhere (by simp) rfl)
  · cases moved

theorem finish_onward {task : Task} (bound : Bound config networkId creds stack)
    (moved : stack.finish task true = some (next, events)) :
    Onward config networkId creds stack (.finish task true) next := by
  obtain ⟨finishes, moved⟩ := Option.ite_none_right_eq_some.mp moved
  cases place : stack.run with
  | gatt closed delaying =>
      simp only [place, ↓reduceIte, Option.some.injEq] at moved
      cases moved
      exact bound.ends place stack.window.allTransports
  | oper waiting => exact absurd place (bound.elsewhere (by simp) rfl)
  | coex => exact absurd place (bound.elsewhere (by simp) rfl)
  | _ => simp [Stack.finishes, place] at finishes

theorem operTask_onward (bound : Bound config networkId creds stack)
    (located : stack.run = .operSetup) (moved : stack.operTask config = (next, events)) :
    Onward config networkId creds stack .operTask next := by
  simp only [operTask, bound.pending, bound.stored] at moved
  cases moved
  have connects : Bound config networkId creds { stack with run := .connecting networkId } :=
    ⟨.inl rfl, bound.pending, bound.stored, bound.im⟩
  apply connects.onward
  rw [located]
  exact Nat.one_pos

theorem step_onward (bound : Bound config networkId creds stack) (calm : Calm networkId action)
    (moved : (machine config).step stack action = some (next, events)) :
    Onward config networkId creds stack action next := by
  cases action with
  | record | connected | abort => cases calm
  | poll => exact pollWindow_onward bound moved
  | finish task ok =>
      cases ok with
      | false => cases calm
      | true => exact finish_onward bound moved
  | window event =>
      obtain ⟨window, _, same⟩ := Option.map_eq_some_iff.mp moved
      cases same
      exact ⟨⟨bound.place, bound.pending, bound.stored, bound.im⟩, Nat.le_refl _,
        by simp [advances]⟩
  | run | reset =>
      obtain ⟨idle, _⟩ := Option.ite_none_right_eq_some.mp moved
      exact absurd idle (bound.elsewhere (by simp) rfl)
  | head | gattTask | reserve =>
      obtain ⟨located, _⟩ := Option.ite_none_right_eq_some.mp moved
      exact absurd located (bound.elsewhere (by simp) rfl)
  | startupIm | loadNetworks | startupDone =>
      obtain ⟨unserved, _⟩ := Option.ite_none_right_eq_some.mp moved
      rcases bound.im with serving | absent
      · rw [serving] at unserved
        cases unserved
      · rw [absent] at unserved
        cases unserved
  | handle op =>
      obtain ⟨_, same⟩ := Option.ite_none_right_eq_some.mp moved
      cases Option.some.inj same
      exact ⟨⟨bound.place, bound.pending, (Networks.apply_other calm).trans bound.stored, bound.im⟩,
        Nat.le_refl _, by simp [advances]⟩
  | operTask =>
      obtain ⟨located, same⟩ := Option.ite_none_right_eq_some.mp moved
      exact operTask_onward bound located (Option.some.inj same)
  | driverDone =>
      simp only [machine, step] at moved
      split at moved
      · rename_i located
        cases Option.some.inj moved
        have operates : Bound config networkId creds { stack with run := .operSetup } :=
          bound.move Nat.one_pos
        apply operates.onward
        rw [located]
        exact Nat.one_lt_two
      · rename_i located
        exact absurd located (bound.elsewhere (by simp) rfl)
      · cases moved
  | provReady =>
      simp only [machine, step] at moved
      split at moved
      · rename_i closed located
        obtain ⟨_, same⟩ := Option.ite_none_right_eq_some.mp moved
        cases Option.some.inj same
        have delays : Bound config networkId creds { stack with run := .gatt closed true } :=
          bound.move (Nat.lt_trans Nat.two_pos (left_gatt closed true))
        apply delays.onward
        rw [located]
        exact Nat.lt_succ_self 3
      · cases moved
  | provDelayed =>
      simp only [machine, step] at moved
      split at moved
      · rename_i closed located
        cases Option.some.inj moved
        exact bound.ends located stack.window.allTransports
      · cases moved

theorem advances_calm (advance : advances action = true) : Calm networkId action := by
  cases action with
  | provReady | provDelayed | driverDone | operTask => trivial
  | _ => cases advance

theorem bound_ranking (config : Config) (networkId : NetworkId) (creds : Creds) :
    Ranking (machine config) (fun action : StackAction Creds => advances action = true)
      (Bound config networkId creds) (·.run.left) where
  keeps := by
    intro stack next action events bound advance moved
    exact (step_onward bound (advances_calm advance) moved).1
  decreases := by
    intro stack next action events bound advance moved
    exact (step_onward bound (advances_calm advance) moved).2.2 advance

/-- On its way, the stack can always go on. -/
theorem Bound.arrives (bound : Bound config networkId creds stack)
    (settled : (machine config).Settled (fun action => advances action = true) stack) :
    stack.run = .connecting networkId := by
  rcases bound.place with connecting | leads
  · exact connecting
  · have ready : config.netCtl.isProvReady stack.netState = true := by
      by_contra other
      have pending := bound.pending
      simp [NetCtl.pending, other] at pending
    cases place : stack.run with
    | gatt closed delaying =>
        cases delaying with
        | false =>
            have stuck := settled .provReady rfl
            simp [machine, step, place, ready] at stuck
        | true =>
            have stuck := settled .provDelayed rfl
            simp [machine, step, place] at stuck
    | gattTeardown =>
        have stuck := settled .driverDone rfl
        simp [machine, step, place] at stuck
    | operSetup =>
        have stuck := settled .operTask rfl
        simp [machine, step, place] at stuck
    | _ => simp [place, Run.left] at leads

/-- A BLE phase with a network to connect to has an Interaction Model that serves. -/
def Heard (config : Config) (stack : Stack Creds) : Prop :=
  inBle stack.run = true → config.netCtl.pending stack.netState ≠ none →
    stack.im = some .serving

theorem Step.heard (lawful : config.netCtl.Lawful) (moved : Step config stack action events next)
    (placed : stack.Placed) (now : Heard config stack) : Heard config next := by
  intro inside pending
  cases moved with
  | bleStarted => exact absurd lawful.cleared pending
  | btpStarted located =>
      have serving := now (by rw [located]; rfl) pending
      rcases placed with absent | serves
      · rw [serving] at absent
        cases absent
      · rw [located] at serves
        cases serves
  | gattPolled located => exact now (by rw [located]; rfl) pending
  | recorded outcome serving => exact serving
  | hydrated | startupOk => rfl
  | starting created =>
      have serving := now inside pending
      rw [created] at serving
      cases serving
  | window | loaded | handled | reserved => exact now inside pending
  | reset outcome => cases outcome <;> exact now inside pending
  | _ => cases inside

theorem reachable_heard (lawful : config.netCtl.Lawful)
    (reached : Reachable (machine config) (fresh window base capacity) log stack) :
    Heard config stack := by
  apply reached.invariant (fun _ stack => Heard config stack)
  · intro inside
    cases inside
  · intro log events stack next action reached now _ moved
    exact (step_cases moved).heard lawful (reachable_placed reached) now

/-- Once a connect to a network of the store has succeeded over BLE, at most four steps lead
to the deferred connect to it with its credentials, and are always possible, whatever comes in
between: unless something fails, another outcome is recorded or the network is changed. -/
theorem commissioning_completes {closed : Wait} {delaying : Bool}
    {actions : List (StackAction Creds)} {last : Stack Creds} {later : List (StackEvent Creds)}
    (lawful : config.netCtl.Lawful)
    (reached : Reachable (machine config) (fresh window base capacity) log stack)
    (ble : stack.run = .gatt closed delaying) (asked : lastConnect log = some networkId)
    (stored : stack.networks networkId = some creds)
    (calm : ∀ action ∈ actions, Calm networkId action)
    (executed : (machine config).exec stack actions = some (last, later)) :
    ∃ moves final rest, (∀ action ∈ moves, advances action = true) ∧
      (machine config).exec last moves = some (final, rest) ∧
      final.run = .connecting networkId ∧ final.networks networkId = some creds ∧
      actions.countP advances + moves.length ≤ 4 := by
  have pending := (reachable_pending lawful reached).trans asked
  have serving := reachable_heard lawful reached (by rw [ble]; rfl) (by simp [pending])
  have bound : Bound config networkId creds stack := by
    refine ⟨.inr ?_, pending, stored, .inl serving⟩
    rw [ble]
    exact Nat.lt_trans Nat.two_pos (left_gatt closed delaying)
  have ranking : Ranking (machine config) (fun action : StackAction Creds => advances action = true)
      (Bound config networkId creds) (·.run.left) := bound_ranking config networkId creds
  have aside : ∀ (stack next : Stack Creds) action events, Bound config networkId creds stack →
      Calm networkId action → (machine config).step stack action = some (next, events) →
      Bound config networkId creds next ∧ next.run.left ≤ stack.run.left := by
    intro stack next action events bound calm moved
    obtain ⟨after, most, _⟩ := step_onward bound calm moved
    exact ⟨after, most⟩
  obtain ⟨kept, counted⟩ :=
    ranking.counted aside bound (fun action member => Or.inr (calm action member)) executed
  obtain ⟨moves, final, rest, advance, moved, settled⟩ := ranking.settles last kept
  obtain ⟨ended, most⟩ := ranking.bounded kept advance moved
  refine ⟨moves, final, rest, advance, moved, ended.arrives settled, ended.stored, ?_⟩
  have way : stack.run.left ≤ 4 := by
    rw [ble]
    cases delaying <;> simp [Run.left]
  have few : actions.countP advances + last.run.left ≤ stack.run.left := by
    simpa only [Bool.decide_eq_true] using counted
  omega

/-- The commissioner adds another network, and the window is closed, during the delay. -/
theorem commissioning_completes_closed :
    ∃ stack log last later,
      (machine smallConfig).exec smallStack (commissioning.take 8) = some (stack, log) ∧
      (machine smallConfig).exec stack
        [.handle (.addOrUpdate [2] ()), .provReady, .window .close, .poll] = some (last, later) ∧
      ∃ moves final rest, (∀ action ∈ moves, advances action = true) ∧
        (machine smallConfig).exec last moves = some (final, rest) ∧
        final.run = .connecting [1] ∧ final.networks [1] = some () ∧
        1 + moves.length ≤ 4 := by
  have executed : (machine smallConfig).exec smallStack (commissioning.take 8) = some (_, _) := rfl
  have calm : ∀ action : StackAction Unit,
      action ∈ [.handle (.addOrUpdate [2] ()), .provReady, .window .close, .poll] →
        Calm [1] action := by
    simp [Calm, NetworksOp.networkId]
  refine ⟨_, _, _, _, executed, rfl, ?_⟩
  exact commissioning_completes NetCtl.lastOutcome_lawful (Machine.exec_reachable executed) rfl rfl
    rfl calm rfl

end Stack

end RsMatterStack
