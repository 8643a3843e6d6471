import RsMatterStack.NetifState

set_option autoImplicit false

/-! The mDNS responder of `run_oper_netif_mdns`, beside network interfaces that change. -/

namespace RsMatterStack

open Transition (Machine Reachable Everywhere)

/-- The parameters that a responder is run with. -/
structure MdnsParams where
  mac : Vector UInt8 8
  ipv4 : Ipv4Addr
  ipv6 : List Ipv6Addr
  interface : UInt32
deriving DecidableEq, Repr

def NetifState.params (state : NetifState) : MdnsParams :=
  ⟨state.mac, state.ipv4, state.ipv6.items, state.netifIndex⟩

/-- The responder that `mdns_task` runs for a state, and keeps running for good. -/
def NetifState.responder (state : NetifState) : Option MdnsParams :=
  if state.operational then some state.params else none

inductive MdnsPc
  /-- The first `load_netif_state`. -/
  | init
  /-- The head of the loop, which creates the two futures of an iteration. -/
  | head
  /-- `load_netif_state` inside `wait_changed`. -/
  | check
  /-- Suspended in the `wait_changed` of the interfaces. -/
  | waiting
  | failed
deriving DecidableEq, Repr

/-- The loop, the snapshot of the interfaces it runs beside, and whether a notification is
still to be delivered to it. -/
structure MdnsLoop (Error : Type) where
  net : NetifDiag Error
  notified : Bool
  curState : NetifState
  newState : NetifState
  responder : Option MdnsParams
  pc : MdnsPc

inductive MdnsAction (Error : Type)
  /-- The interfaces change, and a notification is sent. -/
  | change (net : NetifDiag Error)
  /-- A notification without any change. -/
  | notify
  | poll

inductive MdnsEvent (Error : Type)
  | changed (net : NetifDiag Error)
  /-- A new `mdns_task` replaces the one of the iteration before. -/
  | created (state : NetifState)
  | failed (error : Error)

namespace MdnsLoop

variable {Error : Type}

def start (net : NetifDiag Error) : MdnsLoop Error where
  net := net
  notified := false
  curState := .new
  newState := .new
  responder := none
  pc := .init

/-- An error of `load_netif_state` ends the loop, and with it `mdns_task`. -/
def fail (loop : MdnsLoop Error) (loaded : NetifState) (error : Error) :
    MdnsLoop Error × List (MdnsEvent Error) :=
  ({ loop with newState := loaded, responder := none, pc := .failed }, [.failed error])

def init (loop : MdnsLoop Error) : MdnsLoop Error × List (MdnsEvent Error) :=
  match loop.newState.load loop.net with
  | (loaded, .error error) => loop.fail loaded error
  | (loaded, .ok _) => ({ loop with newState := loaded, pc := .head }, [])

def head (loop : MdnsLoop Error) : MdnsLoop Error × List (MdnsEvent Error) :=
  ({ loop with curState := loop.newState, pc := .check }, [.created loop.newState])

/-- One round of `wait_changed`. -/
def check (loop : MdnsLoop Error) : MdnsLoop Error × List (MdnsEvent Error) :=
  match loop.newState.load loop.net with
  | (loaded, .error error) => loop.fail loaded error
  | (loaded, .ok _) =>
      if loaded ≠ loop.curState then
        ({ loop with newState := loaded, responder := none, pc := .head }, [])
      -- `select` goes on to poll `mdns_task`
      else ({ loop with newState := loaded, responder := loop.curState.responder, pc := .waiting },
        [])

def poll (loop : MdnsLoop Error) : Option (MdnsLoop Error × List (MdnsEvent Error)) :=
  match loop.pc with
  | .init => some loop.init
  | .head => some loop.head
  | .check => some loop.check
  | .waiting => if loop.notified then some ({ loop with notified := false, pc := .check }, [])
      else none
  | .failed => none

/-- The interfaces change only while the loop is suspended, and a change is notified in the
same step. -/
def step (loop : MdnsLoop Error) :
    MdnsAction Error → Option (MdnsLoop Error × List (MdnsEvent Error))
  | .change net =>
      if loop.pc = .waiting then some ({ loop with net := net, notified := true }, [.changed net])
      else none
  | .notify => some ({ loop with notified := true }, [])
  | .poll => loop.poll

def machine : Machine (MdnsLoop Error) (MdnsAction Error) (MdnsEvent Error) := ⟨step⟩

/-- Suspended, with no undelivered notification. -/
def Quiescent (loop : MdnsLoop Error) : Prop := loop.pc = .waiting ∧ loop.notified = false

def lastCreatedStep (last : Option NetifState) : MdnsEvent Error → Option NetifState
  | .created state => some state
  | _ => last

/-- The state that the last `mdns_task` was created for. -/
def lastCreated (log : List (MdnsEvent Error)) : Option NetifState :=
  log.foldl lastCreatedStep none

def changedSinceStep (changed : Bool) : MdnsEvent Error → Bool
  | .created _ => false
  | .changed _ => true
  | .failed _ => changed

/-- The interfaces have changed since then. -/
def changedSince (log : List (MdnsEvent Error)) : Bool := log.foldl changedSinceStep false

/-- Another `mdns_task` is only created after a change of the interfaces, and one that
makes a difference to the parameters, or to whether there is a responder. -/
def ReplacedOnChange (before : List (MdnsEvent Error)) : MdnsEvent Error → Prop
  | .created state => ∀ last, lastCreated before = some last →
      changedSince before = true ∧
        (last.operational ≠ state.operational ∨ last.params ≠ state.params)
  | _ => True

variable {net : NetifDiag Error} {loop next : MdnsLoop Error} {action : MdnsAction Error}
  {log events : List (MdnsEvent Error)}

/-- Each kind of step of the loop. -/
inductive Step (loop : MdnsLoop Error) :
    MdnsAction Error → List (MdnsEvent Error) → MdnsLoop Error → Prop
  | change (net : NetifDiag Error) (located : loop.pc = .waiting) :
      Step loop (.change net) [.changed net] { loop with net := net, notified := true }
  | notify : Step loop .notify [] { loop with notified := true }
  | loaded (located : loop.pc = .init) :
      Step loop .poll [] { loop with newState := (loop.newState.load loop.net).1, pc := .head }
  | failed (error : Error) (running : loop.pc = .init ∨ loop.pc = .check) :
      Step loop .poll [.failed error]
        { loop with
          newState := (loop.newState.load loop.net).1
          responder := none
          pc := .failed }
  | created (located : loop.pc = .head) :
      Step loop .poll [.created loop.newState]
        { loop with curState := loop.newState, pc := .check }
  | differs (located : loop.pc = .check)
      (different : (loop.newState.load loop.net).1 ≠ loop.curState) :
      Step loop .poll []
        { loop with
          newState := (loop.newState.load loop.net).1
          responder := none
          pc := .head }
  | same (located : loop.pc = .check)
      (equal : (loop.newState.load loop.net).1 = loop.curState) :
      Step loop .poll []
        { loop with
          newState := (loop.newState.load loop.net).1
          responder := loop.curState.responder
          pc := .waiting }
  | woken (located : loop.pc = .waiting) (notified : loop.notified = true) :
      Step loop .poll [] { loop with notified := false, pc := .check }

theorem init_cases (located : loop.pc = .init) (moved : loop.init = (next, events)) :
    Step loop .poll events next := by
  unfold init at moved
  split at moved
  · rename_i loaded error same
    cases moved
    have left : loaded = (loop.newState.load loop.net).1 := by rw [same]
    rw [left]
    exact .failed error (.inl located)
  · rename_i loaded result same
    cases moved
    have left : loaded = (loop.newState.load loop.net).1 := by rw [same]
    rw [left]
    exact .loaded located

theorem check_cases (located : loop.pc = .check) (moved : loop.check = (next, events)) :
    Step loop .poll events next := by
  unfold check at moved
  split at moved
  · rename_i loaded error same
    cases moved
    have left : loaded = (loop.newState.load loop.net).1 := by rw [same]
    rw [left]
    exact .failed error (.inr located)
  · rename_i loaded result same
    have left : loaded = (loop.newState.load loop.net).1 := by rw [same]
    rw [left] at moved
    split at moved
    · rename_i different
      cases moved
      exact .differs located different
    · rename_i equal
      cases moved
      exact .same located (not_not.mp equal)

theorem step_cases (moved : machine.step loop action = some (next, events)) :
    Step loop action events next := by
  cases action with
  | change net =>
      obtain ⟨located, same⟩ := Option.ite_none_right_eq_some.mp moved
      cases Option.some.inj same
      exact .change net located
  | notify =>
      cases Option.some.inj moved
      exact .notify
  | poll =>
      simp only [machine, step, poll] at moved
      split at moved
      · rename_i located
        exact init_cases located (Option.some.inj moved)
      · rename_i located
        cases Option.some.inj moved
        exact .created located
      · rename_i located
        exact check_cases located (Option.some.inj moved)
      · rename_i located
        obtain ⟨notified, same⟩ := Option.ite_none_right_eq_some.mp moved
        cases Option.some.inj same
        exact .woken located notified
      · cases moved

/-- The state of the current `mdns_task` is what the interfaces load to, as long as they
have not changed since it was created, and always again once the loop is quiescent. -/
structure Follows (log : List (MdnsEvent Error)) (loop : MdnsLoop Error) : Prop where
  init : loop.pc = .init → lastCreated log = none
  head : loop.pc = .head → (loop.newState.load loop.net).1 = loop.newState ∧
    ∀ last, lastCreated log = some last → changedSince log = true ∧ last ≠ loop.newState
  task : loop.pc = .check ∨ loop.pc = .waiting →
    lastCreated log = some loop.curState ∧ loop.newState = loop.curState ∧
    (changedSince log = false → (loop.curState.load loop.net).1 = loop.curState)
  quiet : loop.Quiescent → (loop.curState.load loop.net).1 = loop.curState
  runs : loop.pc = .waiting → loop.responder = loop.curState.responder

theorem load_again (state : NetifState) (net : NetifDiag Error) :
    ((state.load net).1.load net).1 = (state.load net).1 := by
  rw [NetifState.load_eq, NetifState.load_eq]
  cases net.picked with
  | none => rfl
  | some netif => rfl

theorem lastCreated_append :
    lastCreated (log ++ events) = events.foldl lastCreatedStep (lastCreated log) := by
  simp only [lastCreated, List.foldl_append]

theorem changedSince_append :
    changedSince (log ++ events) = events.foldl changedSinceStep (changedSince log) := by
  simp only [changedSince, List.foldl_append]

theorem Step.follows (moved : Step loop action events next) (now : Follows log loop) :
    Follows (log ++ events) next := by
  cases moved with
  | change net located =>
      obtain ⟨last, same, _⟩ := now.task (.inr located)
      have changed : changedSince (log ++ [.changed net]) = true := changedSince_append
      constructor
      · simp [located]
      · simp [located]
      · intro _
        rw [lastCreated_append, changed]
        exact ⟨last, same, by simp⟩
      · rintro ⟨_, notified⟩
        cases notified
      · intro _
        exact now.runs located
  | notify =>
      rw [List.append_nil]
      refine ⟨now.init, now.head, now.task, ?_, now.runs⟩
      rintro ⟨_, notified⟩
      cases notified
  | loaded located =>
      have none_yet := now.init located
      rw [List.append_nil]
      refine ⟨by simp, fun _ => ⟨load_again _ _, ?_⟩, by simp, by simp [Quiescent], by simp⟩
      intro last created
      rw [none_yet] at created
      cases created
  | failed =>
      exact ⟨by simp, by simp, by simp, by simp [Quiescent], by simp⟩
  | created located =>
      have fixed := (now.head located).1
      refine ⟨by simp, by simp, fun _ => ?_, by simp [Quiescent], by simp⟩
      exact ⟨by simp [lastCreated_append, lastCreatedStep], rfl, fun _ => fixed⟩
  | differs located different =>
      obtain ⟨last, same, unchanged⟩ := now.task (.inl located)
      rw [List.append_nil]
      refine ⟨by simp, fun _ => ⟨load_again _ _, ?_⟩, by simp, by simp [Quiescent], by simp⟩
      intro state created
      rw [last, Option.some.injEq] at created
      subst created
      refine ⟨?_, different.symm⟩
      by_contra still
      rw [same] at different
      exact different (unchanged (Bool.not_eq_true _ ▸ still))
  | same located equal =>
      obtain ⟨last, same, _⟩ := now.task (.inl located)
      have fixed : (loop.curState.load loop.net).1 = loop.curState := by
        rw [← same]
        exact equal.trans same.symm
      rw [List.append_nil]
      exact ⟨by simp, by simp, fun _ => ⟨last, equal, fun _ => fixed⟩, fun _ => fixed, fun _ => rfl⟩
  | woken located notified =>
      have task := now.task (.inr located)
      rw [List.append_nil]
      exact ⟨by simp, by simp, fun _ => task, by simp [Quiescent], by simp⟩

theorem reachable_follows (reached : Reachable machine (start net) log loop) : Follows log loop :=
  reached.invariant Follows
    ⟨fun _ => rfl, by simp [start], by simp [start], by simp [start, Quiescent], by simp [start]⟩
    (fun _ _ _ _ _ _ now _ moved => (step_cases moved).follows now)

/-- The fields of a state are the parameters and whether there is a responder. -/
theorem differs_of_ne {left right : NetifState} (different : left ≠ right) :
    left.operational ≠ right.operational ∨ left.params ≠ right.params := by
  by_contra same
  simp only [not_or, not_not] at same
  obtain ⟨operational, params⟩ := same
  apply different
  cases left
  cases right
  simp only [NetifState.params, MdnsParams.mk.injEq] at operational params
  obtain ⟨rfl, rfl, ipv6, rfl⟩ := params
  cases BoundedVec.ext ipv6
  cases operational
  rfl

/-- What the interfaces load to determines the responder, whatever was loaded before. -/
theorem responder_load (state : NetifState) (net : NetifDiag Error) :
    (state.load net).1.responder = (NetifState.new.load net).1.responder := by
  rw [NetifState.load_eq, NetifState.load_eq]
  cases net.picked with
  | none => rfl
  | some netif => rfl

theorem responder_isSome (state : NetifState) (net : NetifDiag Error) :
    (state.load net).1.responder.isSome = true ↔
      ∃ netif ∈ net.visited, netif.qualifies = true := by
  rw [NetifState.load_eq, ← NetifDiag.picked_isSome]
  cases net.picked with
  | none => simp [NetifState.responder, NetifState.new]
  | some netif => simp [NetifState.responder, NetifState.ofNetif]

/-- In every quiescent state the responder is the one that the current interfaces load to,
which there is exactly if one of them qualifies; and it is only replaced after a change
that makes a difference to it. -/
theorem mdns_follows_netifs (reached : Reachable machine (start net) log loop) :
    (loop.Quiescent → loop.responder = (NetifState.new.load loop.net).1.responder ∧
      (loop.responder.isSome = true ↔ ∃ netif ∈ loop.net.visited, netif.qualifies = true)) ∧
    Everywhere ReplacedOnChange log := by
  constructor
  · intro quiet
    have now := reachable_follows reached
    have runs := now.runs quiet.1
    rw [← now.quiet quiet] at runs
    rw [runs]
    exact ⟨responder_load _ _, responder_isSome _ _⟩
  · refine reached.everywhere ?_
    intro log events loop next action reached _ moved
    cases step_cases moved with
    | created located =>
        have head := ((reachable_follows reached).head located).2
        simp only [Transition.everywhere_cons, ReplacedOnChange, List.append_nil,
          Transition.everywhere_nil, and_true]
        intro last created
        exact ⟨(head last created).1, differs_of_ne (head last created).2⟩
    | _ => simp [ReplacedOnChange]

/-- A spurious notification, and then an interface that goes down. -/
def goesDown : List (MdnsAction Unit) :=
  List.replicate 3 .poll ++ [.notify, .poll, .poll, .change ⟨[], .ok ()⟩] ++
    List.replicate 4 .poll

theorem mdns_follows_netifs_down :
    ∃ log loop,
      Reachable machine (start (⟨[NetifState.crowded], .ok ()⟩ : NetifDiag Unit)) log loop ∧
      loop.Quiescent ∧ loop.responder.isSome = false ∧ Everywhere ReplacedOnChange log := by
  have executed : machine.exec (start (⟨[NetifState.crowded], .ok ()⟩ : NetifDiag Unit))
      goesDown = some (_, _) := rfl
  have reached := Machine.exec_reachable executed
  have follows := mdns_follows_netifs reached
  refine ⟨_, _, reached, ⟨rfl, rfl⟩, ?_, follows.2⟩
  rw [(follows.1 ⟨rfl, rfl⟩).1]
  rfl

end MdnsLoop

end RsMatterStack
