import RsMatterStack.HexText
import RsMatterStack.NetifMdns
import RsMatterStack.Refinement

set_option autoImplicit false

/-! `mdns_task` inside the loop of `run_oper_netif_mdns`: its calls of `Mdns::run`, their
retries, and the host that the built-in responder serves. -/

namespace RsMatterStack

open Transition (Everywhere Machine Reaches Reachable everywhere_append everywhere_cons
  everywhere_nil)

/-- What the built-in responder answers with. -/
structure Host where
  hostname : BoundedVec Char 16
  ip : Ipv4Addr
  ipv6 : List Ipv6Addr
deriving DecidableEq

/-- `write!` into a string of a fixed capacity. -/
def writeStr {capacity : Nat} (text : BoundedVec Char capacity) (chars : List Char) :
    Option (BoundedVec Char capacity) :=
  if room : (text.items ++ chars).length ≤ capacity then some ⟨text.items ++ chars, room⟩ else none

/-- The name of the host, unless `BuiltinMdns::run` panics. -/
def hostname (mac : List UInt8) : Option (BoundedVec Char 16) :=
  if mac.length = 6 then writeStr .empty (HexText.encode mac)
  else if mac.length = 8 then writeStr .empty (HexText.encode mac)
  else none

theorem hostname_eq {mac : List UInt8} (fits : mac.length = 6 ∨ mac.length = 8) :
    ∃ name, hostname mac = some name ∧ name.items = HexText.encode mac := by
  have room : (HexText.encode mac).length ≤ 16 := by
    rw [HexText.length_encode]
    omega
  refine ⟨⟨HexText.encode mac, room⟩, ?_, rfl⟩
  rcases fits with six | eight
  · simp [hostname, six, writeStr, BoundedVec.empty]
  · simp [hostname, eight, writeStr, BoundedVec.empty]

/-- No other length has a name, and no two addresses have the same. -/
theorem hostname_some {mac : List UInt8} {name : BoundedVec Char 16}
    (named : hostname mac = some name) :
    (mac.length = 6 ∨ mac.length = 8) ∧ HexText.decode name.items = some mac := by
  have fits : mac.length = 6 ∨ mac.length = 8 := by
    by_contra neither
    rw [not_or] at neither
    rw [hostname, if_neg neither.1, if_neg neither.2] at named
    cases named
  obtain ⟨found, same, encoded⟩ := hostname_eq fits
  cases named.symm.trans same
  exact ⟨fits, encoded ▸ HexText.decode_encode mac⟩

/-- The awaits of `BuiltinMdns::run`, one after another. -/
inductive BuiltinStage
  | bind
  | joinV4
  | joinV6
  | serve (host : Host)
  | panicked

/-- Where `mdns_task` stands. -/
inductive MdnsTask
  /-- There is none between two iterations. -/
  | dropped
  /-- Created, but not polled yet. -/
  | fresh
  /-- The network interface is down: pending for good. -/
  | down
  | running (params : MdnsParams) (stage : BuiltinStage)
  /-- `Timer::after` a call that has returned. -/
  | resting (due : Nat)

structure MdnsService (Error : Type) where
  loop : MdnsLoop Error
  task : MdnsTask
  /-- The clock, in ticks. -/
  now : Nat

inductive ServiceAction (Error : Type)
  /-- The interfaces change, a notification comes, or `netif_changed_task` is polled. -/
  | net (action : MdnsAction Error)
  /-- `mdns_task` is polled, as its timer has expired. -/
  | timer
  /-- It is polled with the outcome of its await in `Mdns::run`. -/
  | socket (ok : Bool)
  | tick

inductive ServiceEvent (Error : Type)
  | net (event : MdnsEvent Error)
  /-- `Mdns::run` is called. -/
  | called (params : MdnsParams) (now : Nat)
  | returned (now : Nat)
  /-- Its future is dropped together with `mdns_task`. -/
  | dropped

namespace MdnsTask

def isRunning : MdnsTask → Bool
  | running .. => true
  | _ => false

/-- The events of dropping the task. -/
def drop {Error : Type} : MdnsTask → List (ServiceEvent Error)
  | running .. => [.dropped]
  | _ => []

/-- What comes after an await of `Mdns::run`; none once it has returned. -/
def advance (params : MdnsParams) (ok : Bool) : BuiltinStage → Option BuiltinStage
  | .bind => if ok then some .joinV4 else none
  | .joinV4 => if ok then some .joinV6 else none
  | .joinV6 =>
      if ok then
        match hostname params.mac.toList with
        | some name => some (.serve ⟨name, params.ipv4, params.ipv6⟩)
        | none => some .panicked
      else none
  | .serve _ => none
  | .panicked => some .panicked

end MdnsTask

namespace MdnsService

variable {Error : Type}

/-- `Duration::from_secs(5)`, for a clock of `hz` ticks a second. -/
def retryDelay (hz : Nat) : Nat := 5 * hz

def start (net : NetifDiag Error) : MdnsService Error := ⟨.start net, .dropped, 0⟩

def call (service : MdnsService Error) : MdnsTask × List (ServiceEvent Error) :=
  (.running service.loop.curState.params .bind,
    [.called service.loop.curState.params service.now])

/-- `mdns_task` is polled. -/
def pollTask (service : MdnsService Error) : MdnsTask × List (ServiceEvent Error) :=
  match service.task with
  | .fresh => if service.loop.curState.operational then service.call else (.down, [])
  | .resting due => if due ≤ service.now then service.call else (.resting due, [])
  | task => (task, [])

def setTask (service : MdnsService Error) (polled : MdnsTask × List (ServiceEvent Error)) :
    MdnsService Error × List (ServiceEvent Error) :=
  ({ service with task := polled.1 }, polled.2)

/-- A poll of the loop. `select` polls `netif_changed_task` first, and then `mdns_task`
unless that one has ended. -/
def poll (service : MdnsService Error) :
    Option (MdnsService Error × List (ServiceEvent Error)) :=
  match service.loop.poll with
  | none => none
  | some (loop, events) =>
      let emitted := events.map .net
      match service.loop.pc with
      | .head => some ({ service with loop := loop, task := .fresh }, emitted)
      | .check =>
          if loop.pc = .waiting then
            let polled := ({ service with loop := loop }).pollTask
            some ({ service with loop := loop, task := polled.1 }, emitted ++ polled.2)
          else some ({ service with loop := loop, task := .dropped }, emitted ++ service.task.drop)
      | .init | .waiting | .failed => some ({ service with loop := loop }, emitted)

/-- `netif_changed_task` is suspended, and is not woken. -/
def Quiet (service : MdnsService Error) : Prop :=
  service.loop.pc = .waiting ∧ service.loop.notified = false

instance (service : MdnsService Error) : Decidable service.Quiet :=
  inferInstanceAs (Decidable (_ ∧ _))

def step (hz : Nat) (service : MdnsService Error) :
    ServiceAction Error → Option (MdnsService Error × List (ServiceEvent Error))
  | .net .poll => service.poll
  | .net action =>
      (service.loop.step action).map fun next =>
        ({ service with loop := next.1 }, next.2.map .net)
  | .timer => if service.Quiet then some (service.setTask service.pollTask) else none
  | .socket ok =>
      if service.Quiet then
        match service.task with
        | .running params stage =>
            match MdnsTask.advance params ok stage with
            | some next => some (service.setTask (.running params next, []))
            | none => some (service.setTask
                (.resting (service.now + retryDelay hz), [.returned service.now]))
        | _ => none
      else none
  | .tick => some ({ service with now := service.now + 1 }, [])

def machine (hz : Nat) : Machine (MdnsService Error) (ServiceAction Error) (ServiceEvent Error) :=
  ⟨step hz⟩

/-- The snapshot of the interfaces after the events of a log. -/
def netStep (net : NetifDiag Error) : ServiceEvent Error → NetifDiag Error
  | .net (.changed changed) => changed
  | _ => net

/-- Whether a call is running, unless two calls have overlapped. -/
def callStep : Option Bool → ServiceEvent Error → Option Bool
  | some false, .called .. => some true
  | some true, .returned _ => some false
  | some true, .dropped => some false
  | running, .net _ => running
  | _, _ => none

def callAfter (log : List (ServiceEvent Error)) : Option Bool := log.foldl callStep (some false)

/-- When the last call of the current `mdns_task` has returned. -/
def returnStep (last : Option Nat) : ServiceEvent Error → Option Nat
  | .net (.created _) => none
  | .returned now => some now
  | _ => last

def lastReturn (log : List (ServiceEvent Error)) : Option Nat := log.foldl returnStep none

/-- A call is made while no other is running, with the parameters that the interfaces load
to at that time, and some time after the last one of the same task has returned. -/
def CallSound (hz : Nat) (net : NetifDiag Error) (before : List (ServiceEvent Error)) :
    ServiceEvent Error → Prop
  | .called params now =>
      callAfter before = some false ∧
      (NetifState.new.load (before.foldl netStep net)).1.responder = some params ∧
      ∀ last, lastReturn before = some last → last + retryDelay hz ≤ now
  | _ => True

variable {hz : Nat} {service next : MdnsService Error} {action : ServiceAction Error}
  {log events : List (ServiceEvent Error)} {net : NetifDiag Error}

/-- A poll of `mdns_task`: it goes on waiting, or it calls `Mdns::run`. -/
inductive TaskPoll (service : MdnsService Error) : MdnsTask × List (ServiceEvent Error) → Prop
  | down (fresh : service.task = .fresh) (off : service.loop.curState.operational = false) :
      TaskPoll service (.down, [])
  | first (fresh : service.task = .fresh) (up : service.loop.curState.operational = true) :
      TaskPoll service service.call
  | retry {due : Nat} (rests : service.task = .resting due) (expired : due ≤ service.now) :
      TaskPoll service service.call
  | waits (suspended : service.task ≠ .fresh) : TaskPoll service (service.task, [])

theorem pollTask_cases (service : MdnsService Error) : TaskPoll service service.pollTask := by
  unfold pollTask
  split
  · rename_i fresh
    split
    · rename_i up
      exact .first fresh up
    · rename_i off
      exact .down fresh (Bool.not_eq_true _ ▸ off)
  · rename_i due rests
    split
    · rename_i expired
      exact .retry rests expired
    · rw [← rests]
      exact .waits (by simp [rests])
  · rename_i other _
    exact .waits other

/-- Each kind of step: of the loop alone, at the head of an iteration, at its end, of its
`mdns_task`, or of the clock. -/
inductive Step (hz : Nat) (service : MdnsService Error) :
    ServiceAction Error → List (ServiceEvent Error) → MdnsService Error → Prop
  | beside {action : MdnsAction Error} {after : MdnsLoop Error} {emitted : List (MdnsEvent Error)}
      (inner : MdnsLoop.machine.step service.loop action = some (after, emitted))
      (elsewhere : action = .poll → service.loop.pc ≠ .head ∧ service.loop.pc ≠ .check) :
      Step hz service (.net action) (emitted.map .net) { service with loop := after }
  | created (located : service.loop.pc = .head) {after : MdnsLoop Error}
      {emitted : List (MdnsEvent Error)}
      (inner : MdnsLoop.machine.step service.loop .poll = some (after, emitted)) :
      Step hz service (.net .poll) (emitted.map .net)
        { service with loop := after, task := .fresh }
  | replaced (located : service.loop.pc = .check) {after : MdnsLoop Error}
      {emitted : List (MdnsEvent Error)}
      (inner : MdnsLoop.machine.step service.loop .poll = some (after, emitted))
      (leaves : after.pc ≠ .waiting) :
      Step hz service (.net .poll) (emitted.map .net ++ service.task.drop)
        { service with loop := after, task := .dropped }
  | waits (located : service.loop.pc = .check) {after : MdnsLoop Error}
      {emitted : List (MdnsEvent Error)} {polled : MdnsTask × List (ServiceEvent Error)}
      (inner : MdnsLoop.machine.step service.loop .poll = some (after, emitted))
      (stays : after.pc = .waiting)
      (task : TaskPoll { service with loop := after } polled) :
      Step hz service (.net .poll) (emitted.map .net ++ polled.2)
        { service with loop := after, task := polled.1 }
  | timer (quiet : service.Quiet) {polled : MdnsTask × List (ServiceEvent Error)}
      (task : TaskPoll service polled) :
      Step hz service .timer polled.2 { service with task := polled.1 }
  | advanced (quiet : service.Quiet) (ok : Bool) {params : MdnsParams}
      {stage after : BuiltinStage} (running : service.task = .running params stage)
      (advance : MdnsTask.advance params ok stage = some after) :
      Step hz service (.socket ok) [] { service with task := .running params after }
  | returned (quiet : service.Quiet) (ok : Bool) {params : MdnsParams} {stage : BuiltinStage}
      (running : service.task = .running params stage) :
      Step hz service (.socket ok) [.returned service.now]
        { service with task := .resting (service.now + retryDelay hz) }
  | tick : Step hz service .tick [] { service with now := service.now + 1 }

theorem poll_cases (polled : service.poll = some (next, events)) :
    Step hz service (.net .poll) events next := by
  unfold poll at polled
  split at polled
  · cases polled
  · rename_i loop emitted inner
    split at polled
    · rename_i located
      cases Option.some.inj polled
      exact .created located inner
    · rename_i located
      split at polled
      · rename_i stays
        cases Option.some.inj polled
        exact .waits located inner stays (pollTask_cases _)
      · rename_i leaves
        cases Option.some.inj polled
        exact .replaced located inner leaves
    all_goals
      rename_i located
      cases Option.some.inj polled
      exact .beside inner (fun _ => by simp [located])

theorem step_cases (moved : (machine hz).step service action = some (next, events)) :
    Step hz service action events next := by
  cases action with
  | net action =>
      cases action with
      | poll => exact poll_cases moved
      | change net =>
          obtain ⟨⟨after, emitted⟩, inner, same⟩ := Option.map_eq_some_iff.mp moved
          cases same
          exact .beside inner (by simp)
      | notify =>
          have inner : MdnsLoop.machine.step service.loop .notify =
            some ({ service.loop with notified := true }, []) := rfl
          cases Option.some.inj moved
          exact .beside inner (by simp)
  | timer =>
      obtain ⟨quiet, same⟩ := Option.ite_none_right_eq_some.mp moved
      cases Option.some.inj same
      exact .timer quiet (pollTask_cases service)
  | socket ok =>
      obtain ⟨quiet, same⟩ := Option.ite_none_right_eq_some.mp moved
      split at same
      · rename_i params stage running
        split at same
        · rename_i after advance
          cases Option.some.inj same
          exact .advanced quiet ok running advance
        · cases Option.some.inj same
          exact .returned quiet ok running
      · cases same
  | tick =>
      cases Option.some.inj moved
      exact .tick

/-- What a stage of the built-in responder says of the parameters it was called with. -/
def StageSound (params : MdnsParams) : BuiltinStage → Prop
  | .serve host => hostname params.mac.toList = some host.hostname ∧ host.ip = params.ipv4 ∧
      host.ipv6 = params.ipv6
  | .panicked => False
  | _ => True

/-- What is known of `mdns_task`, by where it stands, from the state it was created for and
the time at which its last call has returned. -/
def TaskSound (hz : Nat) (last : Option Nat) (curState : NetifState) : MdnsTask → Prop
  | .fresh => last = none
  | .running params stage => curState.operational = true ∧ params = curState.params ∧
      StageSound params stage
  | .resting due => curState.operational = true ∧
      ∃ returned, last = some returned ∧ due = returned + retryDelay hz
  | .dropped | .down => True

/-- There is an `mdns_task` inside an iteration, which is polled before the loop waits. -/
def Placed (task : MdnsTask) : MdnsPc → Prop
  | .check => task ≠ .dropped
  | .waiting => task ≠ .dropped ∧ task ≠ .fresh
  | .init | .head | .failed => task = .dropped

/-- The events of the loop alone. -/
def netEvent : ServiceEvent Error → Option (MdnsEvent Error)
  | .net event => some event
  | _ => none

/-- What holds of a service also while it is being polled. -/
structure Polled (hz : Nat) (net : NetifDiag Error) (log : List (ServiceEvent Error))
    (service : MdnsService Error) : Prop where
  alone : Reachable MdnsLoop.machine (.start net) (log.filterMap netEvent) service.loop
  netifs : log.foldl netStep net = service.loop.net
  calls : callAfter log = some service.task.isRunning
  task : TaskSound hz (lastReturn log) service.loop.curState service.task

structure Sound (hz : Nat) (net : NetifDiag Error) (log : List (ServiceEvent Error))
    (service : MdnsService Error) : Prop extends Polled hz net log service where
  placed : Placed service.task service.loop.pc

/-- A name has room for the eight bytes of a network interface. -/
theorem advance_sound {params : MdnsParams} {ok : Bool} {stage after : BuiltinStage}
    (sound : StageSound params stage) (advance : MdnsTask.advance params ok stage = some after) :
    StageSound params after := by
  cases stage with
  | bind | joinV4 =>
      obtain ⟨_, same⟩ := Option.ite_none_right_eq_some.mp advance
      cases Option.some.inj same
      trivial
  | joinV6 =>
      obtain ⟨_, same⟩ := Option.ite_none_right_eq_some.mp advance
      have fits : params.mac.toList.length = 6 ∨ params.mac.toList.length = 8 := .inr (by simp)
      obtain ⟨name, named, _⟩ := hostname_eq fits
      rw [named] at same
      cases Option.some.inj same
      exact ⟨named, rfl, rfl⟩
  | serve host => cases advance
  | panicked => exact absurd sound id

theorem filterMap_net (emitted : List (MdnsEvent Error)) :
    (emitted.map ServiceEvent.net).filterMap netEvent = emitted := by
  induction emitted with
  | nil => rfl
  | cons event rest ih => simp [netEvent, ih]

theorem callStep_net (running : Option Bool) (emitted : List (MdnsEvent Error)) :
    (emitted.map ServiceEvent.net).foldl callStep running = running := by
  induction emitted with
  | nil => rfl
  | cons event rest ih =>
      rcases running with _ | _ | _ <;> exact ih

theorem netStep_of_step {loop after : MdnsLoop Error} {action : MdnsAction Error}
    {emitted : List (MdnsEvent Error)}
    (inner : MdnsLoop.machine.step loop action = some (after, emitted)) :
    (emitted.map ServiceEvent.net).foldl netStep loop.net = after.net := by
  cases MdnsLoop.step_cases inner <;> rfl

/-- Only the head of an iteration takes another state, and creates another `mdns_task`. -/
theorem step_not_head {loop after : MdnsLoop Error} {action : MdnsAction Error}
    {emitted : List (MdnsEvent Error)} (elsewhere : action = .poll → loop.pc ≠ .head)
    (inner : MdnsLoop.machine.step loop action = some (after, emitted)) (last : Option Nat) :
    (emitted.map ServiceEvent.net).foldl returnStep last = last ∧
      after.curState = loop.curState := by
  cases MdnsLoop.step_cases inner with
  | created located => exact absurd located (elsewhere rfl)
  | _ => exact ⟨rfl, rfl⟩

theorem Polled.loop (now : Polled hz net log service) {after : MdnsLoop Error}
    {inside : MdnsAction Error} {emitted : List (MdnsEvent Error)}
    (inner : MdnsLoop.machine.step service.loop inside = some (after, emitted))
    (task : TaskSound hz (lastReturn (log ++ emitted.map .net)) after.curState service.task) :
    Polled hz net (log ++ emitted.map .net) { service with loop := after } := by
  refine ⟨?_, ?_, ?_, task⟩
  · rw [List.filterMap_append, filterMap_net]
    exact .step now.alone trivial inner
  · rw [List.foldl_append, now.netifs, netStep_of_step inner]
  · rw [callAfter, List.foldl_append, callStep_net]
    exact now.calls

theorem Polled.elsewhere (now : Polled hz net log service) {after : MdnsLoop Error}
    {inside : MdnsAction Error} {emitted : List (MdnsEvent Error)}
    (inner : MdnsLoop.machine.step service.loop inside = some (after, emitted))
    (elsewhere : inside = .poll → service.loop.pc ≠ .head) :
    Polled hz net (log ++ emitted.map .net) { service with loop := after } := by
  obtain ⟨same, kept⟩ := step_not_head elsewhere inner (lastReturn log)
  apply now.loop inner
  rw [lastReturn, List.foldl_append, ← lastReturn, same, kept]
  exact now.task

theorem TaskPoll.polled {polled : MdnsTask × List (ServiceEvent Error)}
    (task : TaskPoll service polled) (now : Polled hz net log service) :
    Polled hz net (log ++ polled.2) { service with task := polled.1 } := by
  have called (idle : service.task.isRunning = false)
      (up : service.loop.curState.operational = true) :
      Polled hz net (log ++ service.call.2) { service with task := service.call.1 } := by
    refine ⟨?_, ?_, ?_, up, rfl, trivial⟩
    · rw [List.filterMap_append]
      exact (List.append_nil _).symm ▸ now.alone
    · rw [List.foldl_append]
      exact now.netifs
    · rw [callAfter, List.foldl_append, ← callAfter, now.calls, idle]
      rfl
  cases task with
  | down fresh off =>
      refine ⟨by simpa using now.alone, by simpa using now.netifs, ?_, trivial⟩
      rw [List.append_nil, now.calls, fresh]
      rfl
  | first fresh up => exact called (by rw [fresh]; rfl) up
  | retry rests expired =>
      have sound := now.task
      rw [rests] at sound
      exact called (by rw [rests]; rfl) sound.1
  | waits suspended =>
      rw [List.append_nil]
      exact now

theorem TaskPoll.placed {polled : MdnsTask × List (ServiceEvent Error)}
    (task : TaskPoll service polled) (there : service.task ≠ .dropped) :
    polled.1 ≠ .dropped ∧ polled.1 ≠ .fresh := by
  cases task with
  | down | first | retry => simp [call]
  | waits suspended => exact ⟨there, suspended⟩

theorem filterMap_drop (task : MdnsTask) :
    (task.drop : List (ServiceEvent Error)).filterMap netEvent = [] := by
  cases task <;> rfl

theorem Polled.drop (now : Polled hz net log service) :
    Polled hz net (log ++ service.task.drop) { service with task := .dropped } := by
  refine ⟨?_, ?_, ?_, trivial⟩
  · rw [List.filterMap_append, filterMap_drop, List.append_nil]
    exact now.alone
  · rw [List.foldl_append, now.netifs]
    cases service.task <;> rfl
  · rw [callAfter, List.foldl_append, ← callAfter, now.calls]
    cases service.task <;> rfl

/-- The head of an iteration creates the task, which has not been polled yet. -/
theorem Polled.created (now : Polled hz net log service) (idle : service.task = .dropped)
    (inner : MdnsLoop.machine.step service.loop .poll =
      some ({ service.loop with curState := service.loop.newState, pc := .check },
        [.created service.loop.newState])) :
    Polled hz net (log ++ [.net (.created service.loop.newState)])
      { service with
        loop := { service.loop with curState := service.loop.newState, pc := .check }
        task := .fresh } := by
  refine ⟨?_, ?_, ?_, ?_⟩
  · rw [List.filterMap_append]
    exact .step now.alone trivial inner
  · rw [List.foldl_append, now.netifs]
    rfl
  · rw [callAfter, List.foldl_append, ← callAfter, now.calls, idle]
    rfl
  · rw [lastReturn, List.foldl_append]
    rfl

theorem Polled.returned (now : Polled hz net log service) {params : MdnsParams}
    {stage : BuiltinStage} (running : service.task = .running params stage) :
    Polled hz net (log ++ [.returned service.now])
      { service with task := .resting (service.now + retryDelay hz) } := by
  obtain ⟨alone, netifs, calls, sound⟩ := now
  rw [running] at calls sound
  refine ⟨?_, ?_, ?_, sound.1, service.now, ?_, rfl⟩
  · rw [List.filterMap_append]
    exact (List.append_nil _).symm ▸ alone
  · rw [List.foldl_append]
    exact netifs
  · rw [callAfter, List.foldl_append, ← callAfter, calls]
    rfl
  · rw [lastReturn, List.foldl_append]
    rfl

/-- The loop alone neither creates nor polls the task. -/
theorem placed_beside {task : MdnsTask} {loop after : MdnsLoop Error} {inside : MdnsAction Error}
    {emitted : List (MdnsEvent Error)} (placed : Placed task loop.pc)
    (inner : MdnsLoop.machine.step loop inside = some (after, emitted))
    (elsewhere : inside = .poll → loop.pc ≠ .head ∧ loop.pc ≠ .check) : Placed task after.pc := by
  cases MdnsLoop.step_cases inner with
  | change net located => exact placed
  | notify => exact placed
  | loaded located =>
      rw [located] at placed
      exact placed
  | failed error running =>
      rcases running with located | located
      · rw [located] at placed
        exact placed
      · exact absurd located (elsewhere rfl).2
  | created located => exact absurd located (elsewhere rfl).1
  | differs located different => exact absurd located (elsewhere rfl).2
  | same located equal => exact absurd located (elsewhere rfl).2
  | woken located notified =>
      rw [located] at placed
      exact placed.1

theorem Step.sound (moved : Step hz service action events next) (now : Sound hz net log service) :
    Sound hz net (log ++ events) next := by
  have placed := now.placed
  cases moved with
  | beside inner elsewhere =>
      refine ⟨now.elsewhere inner (fun same => (elsewhere same).1), ?_⟩
      exact placed_beside placed inner elsewhere
  | created located inner =>
      rw [located] at placed
      cases MdnsLoop.step_cases inner with
      | created => exact ⟨now.toPolled.created placed inner, by simp [Placed]⟩
      | loaded other | differs other | same other | woken other =>
          rw [located] at other
          cases other
      | failed error running =>
          rcases running with other | other <;>
          · rw [located] at other
            cases other
  | replaced located inner leaves =>
      have polled := now.elsewhere inner (fun _ => by simp [located])
      rw [← List.append_assoc]
      refine ⟨polled.drop, ?_⟩
      cases MdnsLoop.step_cases inner with
      | loaded | failed | differs => rfl
      | created other | woken other =>
          rw [located] at other
          cases other
      | same located equal => exact absurd rfl leaves
  | waits located inner stays task =>
      have polled := now.elsewhere inner (fun _ => by simp [located])
      rw [located] at placed
      rw [← List.append_assoc]
      refine ⟨task.polled polled, ?_⟩
      show Placed _ _
      rw [stays]
      exact task.placed placed
  | timer quiet task =>
      rw [quiet.1] at placed
      refine ⟨task.polled now.toPolled, ?_⟩
      show Placed _ service.loop.pc
      rw [quiet.1]
      exact task.placed placed.1
  | advanced quiet ok running advance =>
      obtain ⟨alone, netifs, calls, sound⟩ := now.toPolled
      rw [running] at calls sound
      rw [List.append_nil]
      refine ⟨⟨alone, netifs, calls, sound.1, sound.2.1, advance_sound sound.2.2 advance⟩, ?_⟩
      show Placed _ service.loop.pc
      rw [quiet.1]
      simp [Placed]
  | returned quiet ok running =>
      refine ⟨now.toPolled.returned running, ?_⟩
      show Placed _ service.loop.pc
      rw [quiet.1]
      simp [Placed]
  | tick =>
      rw [List.append_nil]
      exact ⟨⟨now.alone, now.netifs, now.calls, now.task⟩, now.placed⟩

theorem reachable_sound (reached : Reachable (machine hz) (start net) log service) :
    Sound hz net log service := by
  refine reached.invariant (Sound hz net) ⟨⟨.start, rfl, rfl, trivial⟩, rfl⟩ ?_
  intro log events service next action _ now _ moved
  exact (step_cases moved).sound now

theorem TaskPoll.callSound {polled : MdnsTask × List (ServiceEvent Error)}
    (task : TaskPoll service polled) (now : Polled hz net log service)
    (loads : service.loop.curState.responder =
      (NetifState.new.load service.loop.net).1.responder) :
    Everywhere (fun before => CallSound hz net (log ++ before)) polled.2 := by
  have called (idle : service.task.isRunning = false)
      (up : service.loop.curState.operational = true)
      (rested : ∀ last, lastReturn log = some last → last + retryDelay hz ≤ service.now) :
      Everywhere (fun before => CallSound hz net (log ++ before)) service.call.2 := by
    have current : service.loop.curState.responder = some service.loop.curState.params := by
      rw [NetifState.responder, if_pos up]
    rw [call, everywhere_cons]
    refine ⟨?_, everywhere_nil⟩
    rw [CallSound, List.append_nil, now.calls, now.netifs, ← loads]
    exact ⟨congrArg some idle, current, rested⟩
  have sound := now.task
  cases task with
  | down | waits => exact everywhere_nil
  | first fresh up =>
      rw [fresh] at sound
      have never : lastReturn log = none := sound
      exact called (by rw [fresh]; rfl) up (by simp [never])
  | @retry due rests expired =>
      rw [rests] at sound
      obtain ⟨up, returned, last, same⟩ := sound
      refine called (by rw [rests]; rfl) up ?_
      intro other found
      rw [last, Option.some.injEq] at found
      omega

theorem everywhere_net (emitted : List (MdnsEvent Error)) :
    Everywhere (fun before => CallSound hz net (log ++ before)) (emitted.map .net) := by
  intro before event after same
  have member : event ∈ emitted.map ServiceEvent.net := by simp [same]
  obtain ⟨inner, _, rfl⟩ := List.mem_map.mp member
  trivial

theorem Step.callSound (moved : Step hz service action events next)
    (now : Sound hz net log service) :
    Everywhere (fun before => CallSound hz net (log ++ before)) events := by
  cases moved with
  | beside | created => exact everywhere_net _
  | replaced located inner leaves =>
      refine everywhere_append.mpr ⟨everywhere_net _, ?_⟩
      cases service.task <;> simp [MdnsTask.drop, CallSound]
  | @waits _ after emitted polled inner stays task =>
      rename_i located
      have between := now.elsewhere inner (fun _ => by simp [located])
      refine everywhere_append.mpr ⟨everywhere_net _, ?_⟩
      simp only [← List.append_assoc]
      refine task.callSound between ?_
      cases MdnsLoop.step_cases inner with
      | loaded | failed | created | differs => cases stays
      | same _ equal =>
          have loads := MdnsLoop.responder_load service.loop.newState service.loop.net
          rw [equal] at loads
          exact loads
      | woken => cases stays
  | timer quiet task =>
      refine task.callSound now.toPolled ?_
      have follows := (MdnsLoop.reachable_follows now.alone).quiet quiet
      have loads := MdnsLoop.responder_load service.loop.curState service.loop.net
      rw [follows] at loads
      exact loads
  | advanced | returned | tick => simp [CallSound]

/-- In every run, `Mdns::run` is only called while no other call of it is running, with
the parameters that the interfaces load to at that moment, and not before five seconds after
the last call of the same `mdns_task` has returned. The interfaces only change while
`netif_changed_task` is suspended, and every change is notified with it. -/
theorem mdns_calls_sound (hz : Nat) (net : NetifDiag Error)
    (reached : Reachable (machine hz) (start net) log service) :
    callAfter log = some service.task.isRunning ∧ Everywhere (CallSound hz net) log := by
  refine ⟨(reachable_sound reached).calls, reached.everywhere ?_⟩
  intro log events service next action reached _ moved
  exact (step_cases moved).callSound (reachable_sound reached)

/-- A call that cannot bind its socket, and the retry of it. -/
def bindsLate : List (ServiceAction Unit) :=
  List.replicate 3 (.net .poll) ++ [.socket false] ++ List.replicate 5 .tick ++ [.timer] ++
    List.replicate 3 (.socket true)

/-- The host that is served after that. -/
def lateHost : Host :=
  ⟨⟨HexText.encode (List.replicate 8 1), by decide⟩, .unspecified, [5, 1, 2, 3]⟩

def servesLate : MdnsService Unit :=
  let loaded := NetifState.ofNetif NetifState.crowded
  ⟨⟨⟨[NetifState.crowded], .ok ()⟩, false, loaded, loaded, loaded.responder, .waiting⟩,
    .running loaded.params (.serve lateHost), 5⟩

def lateLog : List (ServiceEvent Unit) :=
  let loaded := NetifState.ofNetif NetifState.crowded
  [.net (.created loaded), .called loaded.params 0, .returned 0, .called loaded.params 5]

theorem exec_bindsLate :
    (machine 1).exec (start servesLate.loop.net) bindsLate = some (servesLate, lateLog) := rfl

theorem mdns_calls_sound_late :
    callAfter lateLog = some true ∧ Everywhere (CallSound 1 servesLate.loop.net) lateLog :=
  mdns_calls_sound 1 servesLate.loop.net (Machine.exec_reachable exec_bindsLate)

/-- What the last qualifying interface is served as. -/
structure HostOf (netif : NetifInfo) (host : Host) : Prop where
  hostname : HexText.decode host.hostname.items = some netif.hwAddr.toList
  ip : host.ip = netif.ipv4Addrs.head?.getD .unspecified
  ipv6 : host.ipv6 =
    ((netif.ipv6Addrs.filter fun addr => !addr.isUnspecified).eraseDups).take maxNetifIpv6Addrs

/-- The built-in responder never panics; and as long as no change of the interfaces, notified
as it is made, is still to be noticed, it serves the last interface that qualifies, under a name
from which the address of that interface can be read back. -/
theorem host_of_netif (hz : Nat) (net : NetifDiag Error)
    (reached : Reachable (machine hz) (start net) log service) {params : MdnsParams}
    {stage : BuiltinStage} (running : service.task = .running params stage) :
    stage ≠ .panicked ∧
    (service.Quiet → ∃ netif, service.loop.net.picked = some netif ∧
      ∀ host, stage = .serve host → HostOf netif host) := by
  have now := reachable_sound reached
  have task := now.task
  rw [running] at task
  obtain ⟨up, rfl, sound⟩ := task
  constructor
  · rintro rfl
    exact sound
  · intro quiet
    have follows := (MdnsLoop.reachable_follows now.alone).quiet quiet
    rw [NetifState.load_eq] at follows
    cases picked : service.loop.net.picked with
    | none =>
        rw [picked] at follows
        have off : service.loop.curState.operational = false := by rw [← follows]; rfl
        rw [up] at off
        cases off
    | some netif =>
        rw [picked] at follows
        have whole : NetifState.IsWhole service.loop.curState netif := by
          rw [← follows]
          exact NetifState.ofNetif_isWhole netif
        refine ⟨netif, rfl, ?_⟩
        rintro host rfl
        obtain ⟨named, ip, ipv6⟩ := sound
        refine ⟨?_, ip.trans whole.ipv4, ipv6.trans whole.ipv6⟩
        rw [(hostname_some named).2]
        show some service.loop.curState.mac.toList = _
        rw [whole.mac]

theorem host_of_netif_late : HostOf NetifState.crowded lateHost := by
  have reached := Machine.exec_reachable exec_bindsLate
  obtain ⟨netif, picked, served⟩ :=
    (host_of_netif 1 servesLate.loop.net reached rfl).2 ⟨rfl, rfl⟩
  have same : NetifState.crowded = netif := Option.some.inj picked
  exact same ▸ served lateHost rfl

end MdnsService

end RsMatterStack
