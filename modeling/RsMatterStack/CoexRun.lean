import RsMatterStack.GattLoop
import RsMatterStack.NetifMdns
import RsMatterStack.WaitProgress

set_option autoImplicit false

/-! A run with concurrent commissioning: the loop for the GATT peripheral and the one for
mDNS, polled side by side in every session of the task that a driver runs. -/

namespace RsMatterStack

open Transition (Everywhere Machine Ranking Reaches Reachable everywhere_append everywhere_cons
  everywhere_nil)

namespace GattLoop

/-- How many polls are left to the loop if the window does not change. -/
def rank (window : Window) : GattPc → Nat
  | .waitOpen wait =>
      wait.rankThen (·.isOpen) window (if window.state.isOpen = true then 3 else 7)
  | .overCase wait | .serving wait =>
      wait.rankThen notOpen window (if window.state.isOpen = true then 7 else 3)
  | .failed => 0

variable {window : Window} {pc next : GattPc} {events : List GattEvent}

theorem rank_le (window : Window) (pc : GattPc) : rank window pc ≤ 14 := by
  cases pc with
  | waitOpen wait | overCase wait | serving wait =>
      apply Nat.le_trans (Wait.rankThen_le _ wait)
      split <;> omega
  | failed => simp [rank]

/-- The rank right after an await has begun. -/
theorem rank_subscribe_waitOpen :
    rank window (.waitOpen .subscribe) = if window.state.isOpen = true then 7 else 3 := by
  by_cases opened : window.state.isOpen = true
  · simp [rank, Wait.rankThen, Wait.rank, Wait.willReturn, opened]
  · simp [rank, Wait.rankThen, Wait.rank, Wait.willReturn, opened]

theorem rankThen_subscribe_notOpen :
    Wait.rankThen notOpen window (if window.state.isOpen = true then 7 else 3) .subscribe =
      if window.state.isOpen = true then 3 else 7 := by
  by_cases opened : window.state.isOpen = true
  · simp [Wait.rankThen, Wait.rank, Wait.willReturn, notOpen, opened]
  · simp [Wait.rankThen, Wait.rank, Wait.willReturn, notOpen, opened]

theorem rank_poll (moved : poll window pc = some (next, events)) :
    rank window next < rank window pc := by
  unfold poll at moved
  split at moved
  · split at moved <;>
    · cases Option.some.inj moved
      simp only [rank, rankThen_subscribe_notOpen]
      simp [Wait.rankThen, Wait.rank, Wait.willReturn]
  · obtain ⟨after, stepped, same⟩ := Option.map_eq_some_iff.mp moved
    cases same
    have fewer := Wait.rankThen_step (if window.state.isOpen = true then 3 else 7) stepped
    simp only [rank]
    omega
  · cases Option.some.inj moved
    rw [rank_subscribe_waitOpen]
    simp [rank, Wait.rankThen, Wait.rank, Wait.willReturn]
  · obtain ⟨after, stepped, same⟩ := Option.map_eq_some_iff.mp moved
    cases same
    have fewer := Wait.rankThen_step (if window.state.isOpen = true then 7 else 3) stepped
    simp only [rank]
    omega
  · cases Option.some.inj moved
    rw [rank_subscribe_waitOpen]
    simp [rank, Wait.rankThen, Wait.rank, Wait.willReturn]
  · obtain ⟨after, stepped, same⟩ := Option.map_eq_some_iff.mp moved
    cases same
    have fewer := Wait.rankThen_step (if window.state.isOpen = true then 7 else 3) stepped
    simp only [rank]
    omega
  · cases moved

/-- A loop that cannot go on is suspended in one of its awaits, or has failed. -/
theorem poll_none (stuck : poll window pc = none) :
    (GattLoop.mk window pc).Quiescent ∨ pc = .failed := by
  unfold poll at stuck
  split at stuck
  · split at stuck <;> cases stuck
  · rename_i wait goes
    exact .inl (Wait.suspended goes (Option.map_eq_none_iff.mp stuck))
  · cases stuck
  · rename_i wait goes
    exact .inl (Wait.suspended goes (Option.map_eq_none_iff.mp stuck))
  · cases stuck
  · rename_i wait goes
    exact .inl (Wait.suspended goes (Option.map_eq_none_iff.mp stuck))
  · exact .inr rfl

end GattLoop

namespace MdnsLoop

variable {Error : Type} {loop next : MdnsLoop Error} {events log : List (MdnsEvent Error)}

/-- How many polls are left to `wait_changed` until it is suspended, or to the loop until it
is inside the next `wait_changed`. -/
def checkRank (loop : MdnsLoop Error) : Nat :=
  if (loop.newState.load loop.net).1 = loop.curState then 1 else 3

/-- How many polls are left to the loop if the interfaces do not change. -/
def rank (loop : MdnsLoop Error) : Nat :=
  let extra := if loop.notified then 2 else 0
  match loop.pc with
  | .init => 3 + extra
  | .head => 2 + extra
  | .check => loop.checkRank + extra
  | .waiting => if loop.notified then loop.checkRank + 1 else 0
  | .failed => 0

theorem checkRank_le (loop : MdnsLoop Error) : loop.checkRank ≤ 3 := by
  unfold checkRank
  split <;> omega

theorem rank_le (loop : MdnsLoop Error) : loop.rank ≤ 5 := by
  have bounded := loop.checkRank_le
  by_cases news : loop.notified = true
  · cases located : loop.pc <;> simp only [rank, located, news, if_true] <;> omega
  · cases located : loop.pc <;> simp only [rank, located, news, Bool.false_eq_true, if_false] <;>
      omega

theorem Step.rank (moved : Step loop .poll events next) (now : Follows log loop) :
    next.rank < loop.rank := by
  cases moved with
  | loaded located => simp only [MdnsLoop.rank, located]; omega
  | failed error running =>
      rcases running with located | located
      · simp only [MdnsLoop.rank, located]
        omega
      · have positive : 0 < loop.checkRank := by unfold checkRank; split <;> omega
        simp only [MdnsLoop.rank, located]
        omega
  | created located =>
      have fixed := (now.head located).1
      simp only [MdnsLoop.rank, located, checkRank, fixed, if_true]
      omega
  | differs located different =>
      simp only [MdnsLoop.rank, located, checkRank, if_neg different]
      omega
  | same located equal =>
      have again : (loop.curState.load loop.net).1 = loop.curState := by
        rw [← equal, load_again]
      simp only [MdnsLoop.rank, located, checkRank, equal, again, if_true]
      by_cases news : loop.notified = true
      · simp [news]
      · simp [news]
  | woken located notified =>
      simp only [MdnsLoop.rank, located, notified, checkRank, if_true, Bool.false_eq_true,
        if_false]
      omega

theorem poll_none (stuck : loop.poll = none) : loop.Quiescent ∨ loop.pc = .failed := by
  unfold poll at stuck
  split at stuck
  · cases stuck
  · cases stuck
  · cases stuck
  · rename_i located
    refine .inl ⟨located, ?_⟩
    by_contra news
    simp [Bool.not_eq_false _ ▸ news] at stuck
  · rename_i located
    exact .inr located

end MdnsLoop

/-- The window and the interfaces, which outlive a session, and the two loops of a session:
where the one for the peripheral stands, and the one for mDNS. -/
structure CoexRun (Error : Type) where
  window : Window
  net : NetifDiag Error
  session : Option (GattPc × MdnsLoop Error)

inductive CoexAction (Error : Type)
  /-- The driver runs the task. -/
  | begin
  | window (event : WindowEvent)
  | change (net : NetifDiag Error)
  | notify
  /-- `select3` polls `btp_task`. -/
  | pollBtp
  /-- It polls `mdns_task`. -/
  | pollMdns
  | peripheral (ok : Bool)
  /-- Another task of the session ends, or its future is dropped. -/
  | finish

inductive CoexEvent (Error : Type)
  | began
  | gatt (event : GattEvent)
  | mdns (event : MdnsEvent Error)
  | ended

namespace CoexRun

variable {Error : Type}

def start (window : Window) (net : NetifDiag Error) : CoexRun Error := ⟨window, net, none⟩

/-- A peripheral future that is alive is dropped with its session. -/
def dropped : GattPc → List (CoexEvent Error)
  | .serving _ => [.gatt .stopped]
  | _ => []

/-- The session is over, and all of its futures are dropped. -/
def stop (run : CoexRun Error) (pc : GattPc) (noted : List (CoexEvent Error)) :
    CoexRun Error × List (CoexEvent Error) :=
  ({ run with session := none }, noted ++ dropped pc ++ [.ended])

def pollBtp (run : CoexRun Error) (pc : GattPc) (mdns : MdnsLoop Error) :
    Option (CoexRun Error × List (CoexEvent Error)) :=
  match GattLoop.poll run.window pc with
  | none => none
  | some (after, events) => some ({ run with session := some (after, mdns) }, events.map .gatt)

def pollMdns (run : CoexRun Error) (pc : GattPc) (mdns : MdnsLoop Error) :
    Option (CoexRun Error × List (CoexEvent Error)) :=
  match mdns.poll with
  | none => none
  | some (after, events) =>
      if after.pc = .failed then some (run.stop pc (events.map .mdns))
      else some ({ run with session := some (pc, after) }, events.map .mdns)

/-- `btp_task` goes on after the peripheral, or ends with its error. -/
def peripheral (run : CoexRun Error) (pc : GattPc) (mdns : MdnsLoop Error) (ok : Bool) :
    Option (CoexRun Error × List (CoexEvent Error)) :=
  match pc with
  | .serving _ =>
      if ok then some ({ run with session := some (.waitOpen .subscribe, mdns) },
        [.gatt .stopped])
      else some (run.stop pc [])
  | _ => none

def step (run : CoexRun Error) :
    CoexAction Error → Option (CoexRun Error × List (CoexEvent Error))
  | .begin =>
      match run.session with
      | some _ => none
      | none => some ({ run with
          session := some ((GattLoop.start run.window).pc, MdnsLoop.start run.net) }, [.began])
  | .window event => (run.window.apply event).map fun window => ({ run with window := window }, [])
  | .change net =>
      match run.session with
      | none => some ({ run with net := net }, [])
      | some (pc, mdns) =>
          match mdns.step (.change net) with
          | none => none
          | some (after, events) =>
              some ({ run with net := net, session := some (pc, after) }, events.map .mdns)
  | .notify =>
      match run.session with
      | none => none
      | some (pc, mdns) =>
          some ({ run with session := some (pc, { mdns with notified := true }) }, [])
  | .pollBtp =>
      match run.session with
      | none => none
      | some (pc, mdns) => run.pollBtp pc mdns
  | .pollMdns =>
      match run.session with
      | none => none
      | some (pc, mdns) => run.pollMdns pc mdns
  | .peripheral ok =>
      match run.session with
      | none => none
      | some (pc, mdns) => run.peripheral pc mdns ok
  | .finish =>
      match run.session with
      | none => none
      | some (pc, _) => some (run.stop pc [])

def machine : Machine (CoexRun Error) (CoexAction Error) (CoexEvent Error) := ⟨step⟩

/-- The polls of the two loops. -/
def Polls : CoexAction Error → Prop
  | .pollBtp | .pollMdns => True
  | _ => False

/-- No await of a session reads a window of the other kind. -/
def ReadsSameKind (run : CoexRun Error) (action : CoexAction Error) : Prop :=
  match action, run.session with
  | .pollBtp, some (pc, _) => GattLoop.ReadsSameKind ⟨run.window, pc⟩ .poll
  | _, _ => True

instance (run : CoexRun Error) (action : CoexAction Error) :
    Decidable (run.ReadsSameKind action) :=
  match run, action with
  | ⟨window, _, some (pc, _)⟩, .pollBtp =>
      inferInstanceAs (Decidable (GattLoop.ReadsSameKind ⟨window, pc⟩ .poll))
  | ⟨_, _, none⟩, .pollBtp => .isTrue trivial
  | _, .begin | _, .window _ | _, .change _ | _, .notify | _, .pollMdns | _, .peripheral _
  | _, .finish => .isTrue trivial

variable {run next : CoexRun Error} {action : CoexAction Error}
  {log events : List (CoexEvent Error)}

/-- A session begins, goes on in one of its loops or beside them, or ends. -/
inductive Step (run : CoexRun Error) :
    CoexAction Error → List (CoexEvent Error) → CoexRun Error → Prop
  | began (free : run.session = none) :
      Step run .begin [.began]
        { run with session := some (.waitOpen .subscribe, MdnsLoop.start run.net) }
  | window (event : WindowEvent) {window : Window}
      (applied : run.window.apply event = some window) :
      Step run (.window event) [] { run with window := window }
  | netif (net : NetifDiag Error) (free : run.session = none) :
      Step run (.change net) [] { run with net := net }
  | changed (net : NetifDiag Error) {pc : GattPc} {mdns after : MdnsLoop Error}
      {emitted : List (MdnsEvent Error)} (current : run.session = some (pc, mdns))
      (inner : MdnsLoop.machine.step mdns (.change net) = some (after, emitted)) :
      Step run (.change net) (emitted.map .mdns)
        { run with net := net, session := some (pc, after) }
  | notified {pc : GattPc} {mdns : MdnsLoop Error} (current : run.session = some (pc, mdns)) :
      Step run .notify []
        { run with session := some (pc, { mdns with notified := true }) }
  | btp {pc after : GattPc} {mdns : MdnsLoop Error} {emitted : List GattEvent}
      (current : run.session = some (pc, mdns))
      (inner : GattLoop.poll run.window pc = some (after, emitted)) :
      Step run .pollBtp (emitted.map .gatt) { run with session := some (after, mdns) }
  | mdns {pc : GattPc} {mdns after : MdnsLoop Error} {emitted : List (MdnsEvent Error)}
      (current : run.session = some (pc, mdns)) (inner : mdns.poll = some (after, emitted))
      (runs : after.pc ≠ .failed) :
      Step run .pollMdns (emitted.map .mdns) { run with session := some (pc, after) }
  | finished {wait : Wait} {mdns : MdnsLoop Error}
      (current : run.session = some (.serving wait, mdns)) :
      Step run (.peripheral true) [.gatt .stopped]
        { run with session := some (.waitOpen .subscribe, mdns) }
  | ended (action : CoexAction Error) {pc : GattPc} {mdns : MdnsLoop Error}
      (emitted : List (MdnsEvent Error)) (current : run.session = some (pc, mdns))
      (goes : Polls action → mdns.poll ≠ none) :
      Step run action (emitted.map .mdns ++ dropped pc ++ [.ended]) { run with session := none }

theorem step_cases (moved : machine.step run action = some (next, events)) :
    Step run action events next := by
  cases action with
  | begin =>
      simp only [machine, step] at moved
      split at moved
      · cases moved
      · rename_i free
        cases Option.some.inj moved
        exact .began free
  | window event =>
      obtain ⟨window, applied, same⟩ := Option.map_eq_some_iff.mp moved
      cases same
      exact .window event applied
  | change net =>
      simp only [machine, step] at moved
      split at moved
      · rename_i free
        cases Option.some.inj moved
        exact .netif net free
      · rename_i pc mdns current
        split at moved
        · cases moved
        · rename_i after emitted inner
          cases Option.some.inj moved
          exact .changed net current inner
  | notify =>
      simp only [machine, step] at moved
      split at moved
      · cases moved
      · rename_i pc mdns current
        cases Option.some.inj moved
        exact .notified current
  | pollBtp =>
      simp only [machine, step, pollBtp] at moved
      split at moved
      · cases moved
      · rename_i pc mdns current
        split at moved
        · cases moved
        · rename_i after emitted inner
          cases Option.some.inj moved
          exact .btp current inner
  | pollMdns =>
      simp only [machine, step, pollMdns] at moved
      split at moved
      · cases moved
      · rename_i pc mdns current
        split at moved
        · cases moved
        · rename_i after emitted inner
          split at moved
          · cases Option.some.inj moved
            exact .ended _ emitted current (fun _ => by simp [inner])
          · rename_i runs
            cases Option.some.inj moved
            exact .mdns current inner runs
  | peripheral ok =>
      simp only [machine, step, peripheral] at moved
      split at moved
      · cases moved
      · rename_i pc mdns current
        split at moved
        · cases ok with
          | true =>
              cases Option.some.inj moved
              exact .finished current
          | false =>
              have stopped := Step.ended (.peripheral false) [] current False.elim
              cases Option.some.inj moved
              exact stopped
        · cases moved
  | finish =>
      simp only [machine, step] at moved
      split at moved
      · cases moved
      · rename_i pc mdns current
        have stopped := Step.ended .finish [] current False.elim
        cases Option.some.inj moved
        exact stopped

/-- The peripheral future of the session is alive. -/
def isServing : GattPc → Bool
  | .serving _ => true
  | _ => false

def serving (run : CoexRun Error) : Bool :=
  match run.session with
  | none => false
  | some (pc, _) => isServing pc

/-- Whether the peripheral is up after an event, unless it was started or stopped twice. -/
def bleStep : Option Bool → CoexEvent Error → Option Bool
  | some false, .gatt .started => some true
  | some true, .gatt .stopped => some false
  | _, .gatt _ => none
  | up, _ => up

def bleAfter (log : List (CoexEvent Error)) : Option Bool := log.foldl bleStep (some false)

/-- The peripheral is down whenever a session ends. -/
def DownAtEnd (before : List (CoexEvent Error)) (event : CoexEvent Error) : Prop :=
  match event with
  | .ended => bleAfter before = some false
  | _ => True

theorem bleStep_mdns (up : Option Bool) (emitted : List (MdnsEvent Error)) :
    (emitted.map CoexEvent.mdns).foldl bleStep up = up := by
  induction emitted with
  | nil => rfl
  | cons event rest ih =>
      cases up with
      | none => exact ih
      | some up =>
          cases up with
          | false => exact ih
          | true => exact ih

theorem bleStep_poll {window : Window} {pc after : GattPc} {emitted : List GattEvent}
    (polled : GattLoop.poll window pc = some (after, emitted)) :
    (emitted.map (fun event => (.gatt event : CoexEvent Error))).foldl bleStep
      (some (isServing pc)) = some (isServing after) := by
  unfold GattLoop.poll at polled
  split at polled
  · split at polled <;>
    · cases Option.some.inj polled
      rfl
  · obtain ⟨next, _, same⟩ := Option.map_eq_some_iff.mp polled
    cases same
    rfl
  · cases Option.some.inj polled
    rfl
  · obtain ⟨next, _, same⟩ := Option.map_eq_some_iff.mp polled
    cases same
    rfl
  · cases Option.some.inj polled
    rfl
  · obtain ⟨next, _, same⟩ := Option.map_eq_some_iff.mp polled
    cases same
    rfl
  · cases polled

theorem bleStep_stopped (pc : GattPc) (emitted : List (MdnsEvent Error)) :
    (emitted.map CoexEvent.mdns ++ dropped pc).foldl bleStep (some (isServing pc)) =
      some false := by
  rw [List.foldl_append, bleStep_mdns]
  cases pc <;> rfl

theorem serving_of_session {pc : GattPc} {mdns : MdnsLoop Error}
    (current : run.session = some (pc, mdns)) : run.serving = isServing pc := by
  simp only [serving, current]

theorem Step.ble (moved : Step run action events next) :
    some next.serving = events.foldl bleStep (some run.serving) := by
  cases moved with
  | began free => simp [serving, free, isServing, bleStep]
  | window event applied => rfl
  | netif net free => rfl
  | changed net current inner => rw [bleStep_mdns, serving_of_session current]; rfl
  | notified current => simp [serving, current]
  | btp current inner => rw [serving_of_session current, bleStep_poll inner]; rfl
  | mdns current inner runs => rw [bleStep_mdns, serving_of_session current]; rfl
  | finished current => rw [serving_of_session current]; rfl
  | ended action emitted current goes =>
      rw [List.foldl_append, serving_of_session current, bleStep_stopped]
      rfl

variable {window : Window} {net : NetifDiag Error}

/-- The peripheral is started and stopped in turns, and is up as long as one of its runs. -/
theorem bleAfter_eq (reached : Reachable machine (start window net) log run) :
    bleAfter log = some run.serving :=
  (reached.tracked (fun run => some run.serving) bleStep
    (fun _ _ _ _ moved => (step_cases moved).ble)).symm

theorem everywhere_downAtEnd (reached : Reachable machine (start window net) log run) :
    Everywhere DownAtEnd log := by
  refine reached.everywhere ?_
  intro log events run next action reached _ moved
  have before := bleAfter_eq reached
  have inside (emitted : List (MdnsEvent Error)) :
      Everywhere (fun before => DownAtEnd (log ++ before)) (emitted.map .mdns) := by
    intro first event rest same
    have member : event ∈ emitted.map CoexEvent.mdns := by simp [same]
    obtain ⟨inner, _, rfl⟩ := List.mem_map.mp member
    trivial
  cases step_cases moved with
  | began | window | netif | notified | finished => simp [DownAtEnd]
  | changed | mdns => exact inside _
  | btp current inner =>
      intro first event rest same
      have member : event ∈ List.map CoexEvent.gatt _ := same ▸ List.mem_append_right _ (by simp)
      obtain ⟨inner, _, rfl⟩ := List.mem_map.mp member
      trivial
  | @ended _ pc mdns emitted current goes =>
      rw [everywhere_append, everywhere_append]
      refine ⟨⟨inside _, ?_⟩, ?_⟩
      · cases pc <;> simp [dropped, DownAtEnd]
      · rw [everywhere_cons]
        refine ⟨?_, everywhere_nil⟩
        show bleAfter (log ++ (emitted.map .mdns ++ dropped pc ++ [])) = some false
        rw [List.append_nil, bleAfter, List.foldl_append, ← bleAfter, before,
          serving_of_session current, bleStep_stopped]

/-- Of a session, its GATT loop has the runs of one that runs alone. -/
structure GattSound (allowed : GattLoop → GattAction → Prop) (run : CoexRun Error)
    (pc : GattPc) : Prop where
  runs : pc ≠ .failed
  alone : ∃ entry log, Reaches GattLoop.machine allowed (GattLoop.start entry) log ⟨run.window, pc⟩

/-- And so has its mDNS loop, beside the same interfaces. -/
structure MdnsSound (run : CoexRun Error) (mdns : MdnsLoop Error) : Prop where
  runs : mdns.pc ≠ .failed
  netifs : mdns.net = run.net
  alone : ∃ entry log, Reachable MdnsLoop.machine (MdnsLoop.start entry) log mdns

theorem poll_runs {window : Window} {pc after : GattPc} {emitted : List GattEvent}
    (polled : GattLoop.poll window pc = some (after, emitted)) : after ≠ .failed := by
  cases GattLoop.poll_cases polled <;> simp

theorem Step.gattSound (moved : Step run action events next)
    (permitted : run.ReadsSameKind action)
    (now : ∀ pc mdns, run.session = some (pc, mdns) → GattSound GattLoop.ReadsSameKind run pc) :
    ∀ pc mdns, next.session = some (pc, mdns) → GattSound GattLoop.ReadsSameKind next pc := by
  intro pc mdns session
  cases moved with
  | began free =>
      cases session
      exact ⟨by simp, run.window, [], .start⟩
  | window event applied =>
      obtain ⟨runs, entry, log, alone⟩ := now pc mdns session
      have allowed : GattLoop.ReadsSameKind ⟨run.window, pc⟩ (.window event) := trivial
      refine ⟨runs, entry, log ++ [], .step alone allowed ?_⟩
      simp [GattLoop.machine, GattLoop.step, applied]
  | netif net free =>
      rw [free] at session
      cases session
  | changed net current inner =>
      cases session
      obtain ⟨runs, alone⟩ := now _ _ current
      exact ⟨runs, alone⟩
  | notified current =>
      cases session
      obtain ⟨runs, alone⟩ := now _ _ current
      exact ⟨runs, alone⟩
  | @btp before after inner_mdns emitted current inner =>
      cases session
      obtain ⟨_, entry, log, alone⟩ := now _ _ current
      have allowed : GattLoop.ReadsSameKind ⟨run.window, before⟩ .poll := by
        simpa only [ReadsSameKind, current] using permitted
      refine ⟨poll_runs inner, entry, log ++ emitted, .step alone allowed ?_⟩
      simp [GattLoop.machine, GattLoop.step, inner]
  | mdns current inner runs =>
      cases session
      obtain ⟨runs, alone⟩ := now _ _ current
      exact ⟨runs, alone⟩
  | @finished wait inner_mdns current =>
      cases session
      obtain ⟨_, entry, log, alone⟩ := now _ _ current
      have allowed : GattLoop.ReadsSameKind ⟨run.window, .serving wait⟩ (.peripheral true) :=
        trivial
      exact ⟨by simp, entry, log ++ [.stopped], .step alone allowed rfl⟩
  | ended action emitted current goes => cases session

theorem Step.mdnsSound (moved : Step run action events next)
    (now : ∀ pc mdns, run.session = some (pc, mdns) → MdnsSound run mdns) :
    ∀ pc mdns, next.session = some (pc, mdns) → MdnsSound next mdns := by
  intro pc mdns session
  cases moved with
  | began free =>
      cases session
      exact ⟨by simp [MdnsLoop.start], rfl, run.net, [], .start⟩
  | window event applied =>
      obtain ⟨runs, netifs, alone⟩ := now pc mdns session
      exact ⟨runs, netifs, alone⟩
  | netif net free =>
      rw [free] at session
      cases session
  | changed net current inner =>
      cases session
      obtain ⟨_, _, entry, log, alone⟩ := now _ _ current
      have onward := Reaches.step alone trivial inner
      cases MdnsLoop.step_cases inner with
      | change net located => exact ⟨by simp [located], rfl, entry, _, onward⟩
  | @notified before inner_mdns current =>
      cases session
      obtain ⟨runs, netifs, entry, log, alone⟩ := now _ _ current
      have noted : MdnsLoop.machine.step inner_mdns .notify =
        some ({ inner_mdns with notified := true }, []) := rfl
      exact ⟨runs, netifs, entry, log ++ [], .step alone trivial noted⟩
  | btp current inner =>
      cases session
      obtain ⟨runs, netifs, alone⟩ := now _ _ current
      exact ⟨runs, netifs, alone⟩
  | mdns current inner runs =>
      cases session
      obtain ⟨_, netifs, entry, log, alone⟩ := now _ _ current
      have polled : MdnsLoop.machine.step _ .poll = some _ := inner
      refine ⟨runs, ?_, entry, _, .step alone trivial polled⟩
      cases MdnsLoop.step_cases polled <;> exact netifs
  | finished current =>
      cases session
      obtain ⟨runs, netifs, alone⟩ := now _ _ current
      exact ⟨runs, netifs, alone⟩
  | ended action emitted current goes => cases session

theorem reaches_gattSound
    (reached : Reaches machine ReadsSameKind (start window net) log run) :
    ∀ pc mdns, run.session = some (pc, mdns) → GattSound GattLoop.ReadsSameKind run pc :=
  reached.invariant
    (fun _ run => ∀ pc mdns, run.session = some (pc, mdns) →
      GattSound GattLoop.ReadsSameKind run pc)
    (by simp [start])
    (fun _ _ _ _ _ _ now permitted moved => (step_cases moved).gattSound permitted now)

theorem reachable_mdnsSound (reached : Reachable machine (start window net) log run) :
    ∀ pc mdns, run.session = some (pc, mdns) → MdnsSound run mdns :=
  reached.invariant
    (fun _ run => ∀ pc mdns, run.session = some (pc, mdns) → MdnsSound run mdns)
    (by simp [start])
    (fun _ _ _ _ _ _ now _ moved => (step_cases moved).mdnsSound now)

/-- How many polls are left to the session if nothing changes beside it. -/
def rank (run : CoexRun Error) : Nat :=
  match run.session with
  | none => 0
  | some (pc, mdns) => GattLoop.rank run.window pc + mdns.rank

theorem rank_le (run : CoexRun Error) : run.rank ≤ 19 := by
  unfold rank
  split
  · omega
  · rename_i pc mdns current
    have gatt := GattLoop.rank_le run.window pc
    have responder := mdns.rank_le
    omega

theorem rank_of_session {pc : GattPc} {mdns : MdnsLoop Error}
    (current : run.session = some (pc, mdns)) :
    run.rank = GattLoop.rank run.window pc + mdns.rank := by
  simp only [rank, current]

theorem Step.rank (polls : Polls action) (moved : Step run action events next)
    (sound : ∀ pc mdns, run.session = some (pc, mdns) → MdnsSound run mdns) :
    next.rank < run.rank := by
  cases moved with
  | began | window | netif | changed | notified | finished => cases polls
  | btp current inner =>
      have fewer := GattLoop.rank_poll inner
      rw [rank_of_session current]
      show GattLoop.rank run.window _ + _ < _
      omega
  | mdns current inner runs =>
      obtain ⟨_, _, entry, log, alone⟩ := sound _ _ current
      have polled : MdnsLoop.machine.step _ .poll = some _ := inner
      have fewer := (MdnsLoop.step_cases polled).rank (MdnsLoop.reachable_follows alone)
      rw [rank_of_session current]
      show GattLoop.rank run.window _ + _ < _
      omega
  | @ended _ pc mdns emitted current goes =>
      obtain ⟨_, _, entry, log, alone⟩ := sound _ _ current
      obtain ⟨⟨after, inner⟩, polled⟩ := Option.ne_none_iff_exists'.mp (goes polls)
      have moved : MdnsLoop.machine.step mdns .poll = some (after, inner) := polled
      have fewer := (MdnsLoop.step_cases moved).rank (MdnsLoop.reachable_follows alone)
      rw [rank_of_session current]
      show 0 < _
      omega

theorem ranking : Ranking machine Polls
    (fun run : CoexRun Error => ∀ pc mdns, run.session = some (pc, mdns) → MdnsSound run mdns)
    rank := by
  constructor
  · intro run next action events sound _ moved
    exact (step_cases moved).mdnsSound sound
  · intro run next action events sound polls moved
    exact (step_cases moved).rank polls sound

/-- Where no poll goes on, both loops are suspended. -/
theorem polls_none (settled : machine.Settled Polls run) {pc : GattPc} {mdns : MdnsLoop Error}
    (current : run.session = some (pc, mdns)) :
    GattLoop.poll run.window pc = none ∧ mdns.poll = none := by
  have btp := settled .pollBtp trivial
  have responder := settled .pollMdns trivial
  simp only [machine, step, current, pollBtp, pollMdns] at btp responder
  constructor
  · split at btp
    · assumption
    · cases btp
  · split at responder
    · assumption
    · split at responder <;> cases responder

/-- Without a change of the window or of the interfaces, a session comes to rest after at
most nineteen polls of its two loops, in any order. It then runs the responder that the
interfaces load to, and has BLE up exactly for a window of the device itself. The peripheral
is started and stopped in turns, and is never up between sessions. The interfaces only change
between sessions, or while the mDNS loop is suspended and notified of the change. -/
theorem coex_rests (reached : Reachable machine (start window net) log run) :
    (∀ polls last later, (∀ action ∈ polls, Polls action) →
      machine.exec run polls = some (last, later) → polls.length ≤ 19) ∧
    (∃ polls last later, (∀ action ∈ polls, Polls action) ∧
      machine.exec run polls = some (last, later) ∧ machine.Settled Polls last) ∧
    (machine.Settled Polls run → ∀ pc mdns, run.session = some (pc, mdns) →
      mdns.responder = (NetifState.new.load run.net).1.responder ∧
      (Reaches machine ReadsSameKind (start window net) log run →
        (run.serving = true ↔ run.window.state.isOpenOnAllTransports = true))) ∧
    bleAfter log = some run.serving ∧ Everywhere DownAtEnd log := by
  have sound := reachable_mdnsSound reached
  refine ⟨?_, ranking.settles run sound, ?_, bleAfter_eq reached, everywhere_downAtEnd reached⟩
  · intro polls last later inside executed
    have bound := (ranking.bounded sound inside executed).2
    have most := run.rank_le
    omega
  · intro settled pc mdns current
    obtain ⟨btp, responder⟩ := polls_none settled current
    constructor
    · obtain ⟨runs, netifs, entry, inner, alone⟩ := sound pc mdns current
      have quiet := (MdnsLoop.poll_none responder).resolve_right runs
      have follows := MdnsLoop.reachable_follows alone
      rw [follows.runs quiet.1, ← follows.quiet quiet, netifs]
      exact MdnsLoop.responder_load _ _
    · intro same
      obtain ⟨runs, entry, inner, alone⟩ := reaches_gattSound same pc mdns current
      have quiet := (GattLoop.poll_none btp).resolve_right runs
      rw [← GattLoop.bleUp_iff alone quiet, serving_of_session current]
      constructor
      · intro up
        cases pc with
        | serving wait => exact ⟨wait, rfl⟩
        | _ => cases up
      · rintro ⟨wait, rfl⟩
        rfl

/-- A window of the device itself, opened once the responder of the session runs. -/
def opensWindow : List (CoexAction Unit) :=
  [.begin] ++ List.replicate 3 .pollMdns ++ [.window .openBasic] ++ List.replicate 7 .pollBtp

/-- Where that leads: BLE is up, and the responder still the one it was. -/
def bothServed : CoexRun Unit :=
  let net : NetifDiag Unit := ⟨[NetifState.crowded], .ok ()⟩
  let loaded := (NetifState.new.load net).1
  ⟨⟨.opened none, 1, 1⟩, net, some (.serving (.awaiting 1 ⟨.opened none, 1, 1⟩),
    ⟨net, false, loaded, loaded, loaded.responder, .waiting⟩)⟩

theorem coex_rests_opened :
    ∃ log, Reachable machine (start ⟨.closed, 0, 0⟩ bothServed.net) log bothServed ∧
      bothServed.serving = true ∧ bleAfter log = some true ∧ Everywhere DownAtEnd log := by
  have executed : machine.run ReadsSameKind (start ⟨.closed, 0, 0⟩ bothServed.net) opensWindow =
      some (bothServed, [.began, .mdns (.created (NetifState.new.load bothServed.net).1),
        .gatt .started]) := rfl
  have reached := Machine.run_reaches executed
  have settled : machine.Settled Polls bothServed := by
    intro action polls
    cases action with
    | pollBtp | pollMdns => rfl
    | _ => cases polls
  obtain ⟨_, _, rests, up, down⟩ := coex_rests reached.reachable
  have served := ((rests settled _ _ rfl).2 reached).mpr rfl
  exact ⟨_, reached.reachable, served, up.trans (congrArg some served), down⟩

end CoexRun

end RsMatterStack
