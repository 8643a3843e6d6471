import RsMatterStack.NewOpening
import RsMatterStack.Refinement

set_option autoImplicit false

/-! How soon the waits for the commissioning window come to rest when it does not change:
none of them spins, and a new window is not left waiting. -/

namespace RsMatterStack

open Transition (Machine Ranking Reachable)

namespace Wait

/-- How many steps are left to a wait if the window does not change. -/
def rank (accept : CommWindowState → Bool) (window : Window) : Wait → Nat
  | subscribe => 3
  | read changed => if accept window.state = true ∨ changed = window.version then 2 else 6
  | test changed state => if accept state.state = true ∨ changed = window.version then 1 else 5
  | awaiting changed _ => if changed = window.version then 0 else 4
  | returned _ => 0

/-- Whether it returns then, or ends up suspended. -/
def willReturn (accept : CommWindowState → Bool) (window : Window) : Wait → Bool
  | subscribe | read _ => accept window.state
  | test changed state =>
      accept state.state || (changed != window.version && accept window.state)
  | awaiting changed _ => changed != window.version && accept window.state
  | returned _ => true

/-- The steps left to a wait, and to what follows it once it has returned. -/
def rankThen (accept : CommWindowState → Bool) (window : Window) (after : Nat) (wait : Wait) :
    Nat :=
  wait.rank accept window + if wait.willReturn accept window then after + 1 else 0

variable {accept : CommWindowState → Bool} {window : Window} {wait next : Wait}

theorem rank_le (wait : Wait) : wait.rank accept window ≤ 6 := by
  cases wait with
  | subscribe | returned => simp [rank]
  | read | test | awaiting =>
      simp only [rank]
      split <;> omega

theorem rank_step (moved : wait.step accept window = some next) :
    next.rank accept window + 1 = wait.rank accept window ∧
      next.willReturn accept window = wait.willReturn accept window := by
  cases step_cases moved with
  | subscribe => simp [rank, willReturn]
  | @read changed =>
      by_cases accepts : accept window.state = true
      · simp [rank, willReturn, accepts]
      · by_cases current : changed = window.version
        · simp [rank, willReturn, current]
        · simp [rank, willReturn, accepts, current]
  | accepted accepts => simp [rank, willReturn, accepts]
  | @rejected changed state rejects =>
      by_cases current : changed = window.version
      · simp [rank, willReturn, current, rejects]
      · simp [rank, willReturn, current, rejects]
  | woken stale => simp [rank, willReturn, stale]

theorem rankThen_step (after : Nat) (moved : wait.step accept window = some next) :
    next.rankThen accept window after + 1 = wait.rankThen accept window after := by
  obtain ⟨fewer, same⟩ := rank_step moved
  simp only [rankThen, same]
  omega

theorem rankThen_le (after : Nat) (wait : Wait) :
    wait.rankThen accept window after ≤ after + 7 := by
  have bounded : wait.rank accept window ≤ 6 := rank_le wait
  unfold rankThen
  split <;> omega

/-- A wait that cannot go on is suspended without news, or has returned. -/
theorem step_none (stuck : wait.step accept window = none) :
    wait.Quiescent window ∨ ∃ state, wait = .returned state := by
  cases wait with
  | subscribe | read => cases stuck
  | test changed state =>
      simp only [step] at stuck
      split at stuck <;> cases stuck
  | awaiting changed state =>
      refine .inl ?_
      by_cases current : changed = window.version
      · exact current
      · simp [step, current] at stuck
  | returned state => exact .inr ⟨state, rfl⟩

theorem suspended (goes : ∀ state, wait ≠ .returned state)
    (stuck : wait.step accept window = none) : wait.Quiescent window :=
  (step_none stuck).resolve_right (fun ⟨state, same⟩ => goes state same)

end Wait

namespace NextWindow

/-- How many steps are left to `wait_next_comm_window` if the window does not change. -/
def rank (window : Window) : NextWindow → Nat
  | leaving wait => wait.rankThen notOnAllTransports window 3
  | appearing wait => wait.rank (·.isOpenOnAllTransports) window

variable {window : Window} {next after : NextWindow}

theorem rank_le (next : NextWindow) : next.rank window ≤ 10 := by
  cases next with
  | leaving wait => exact Wait.rankThen_le 3 wait
  | appearing wait => exact Nat.le_trans (Wait.rank_le wait) (by omega)

theorem rank_step (moved : next.step window = some after) :
    after.rank window < next.rank window := by
  cases step_cases moved with
  | leaving inner =>
      have fewer := Wait.rankThen_step 3 inner
      simp only [rank]
      omega
  | left => simp [rank, Wait.rankThen, Wait.rank, Wait.willReturn]
  | appearing inner =>
      have fewer := (Wait.rank_step inner).1
      simp only [rank]
      omega

theorem ranking : Ranking waiter.machine (· = .poll) (fun _ => True)
    (fun beside => beside.control.rank beside.window) := by
  refine ⟨fun _ _ _ _ _ _ _ => trivial, ?_⟩
  rintro beside next action events _ rfl moved
  obtain ⟨control, inner, same⟩ := Option.map_eq_some_iff.mp moved
  cases same
  exact rank_step inner

/-- Waits that cannot go on are suspended without news, or over. -/
theorem suspended (goes : ∀ state, next ≠ .appearing (.returned state))
    (stuck : next.step window = none) : next.Quiescent window := by
  cases next with
  | leaving wait =>
      have still :
          (∃ state, wait = .returned state) ∨ wait.step notOnAllTransports window = none := by
        cases wait with
        | returned state => exact .inl ⟨state, rfl⟩
        | _ => exact .inr (Option.map_eq_none_iff.mp stuck)
      rcases still with ⟨state, rfl⟩ | still
      · cases stuck
      · refine Wait.suspended ?_ still
        rintro state rfl
        cases stuck
  | appearing wait =>
      refine Wait.suspended ?_ (Option.map_eq_none_iff.mp stuck)
      rintro state rfl
      exact goes state rfl

theorem Valid.reachable {entry : Window} {beside : Beside NextWindow} {log : List WaitEvent}
    (reached : Reachable waiter.machine (waiter.call entry) log beside) :
    beside.control.Valid beside.window := by
  apply reached.invariant (fun _ beside => beside.control.Valid beside.window)
  · trivial
  · intro log events beside next action _ valid _ moved
    cases Waiter.step_cases moved with
    | window event applied => exact valid.apply applied
    | read reads inner | other reads inner => exact valid.step inner

/-- The first wait is over as soon as a read has found no window for all transports. -/
def Leaves (log : List WaitEvent) : NextWindow → Prop
  | leaving (.test _ state) => ReadOther log → state.state.isOpenOnAllTransports = false
  | leaving (.returned _) => True
  | leaving _ => ¬ ReadOther log
  | appearing _ => True

theorem readOther_append {log events : List WaitEvent} :
    ReadOther (log ++ events) ↔ ReadOther log ∨ ReadOther events := by
  simp only [ReadOther, List.mem_append, or_and_right, exists_or]

theorem readOther_read {state : Window} :
    ReadOther [.read state] ↔ state.state.isOpenOnAllTransports = false := by
  simp [ReadOther]

theorem Leaves.step {log events : List WaitEvent} {beside next : Beside NextWindow}
    (now : Leaves log beside.control) (moved : Waiter.Step waiter beside events next) :
    Leaves (log ++ events) next.control := by
  obtain ⟨window, control⟩ := beside
  cases moved with
  | window event applied =>
      have same : ReadOther (log ++ [.window event]) ↔ ReadOther log := by simp [ReadOther]
      cases control with
      | leaving wait =>
          cases wait with
          | returned => trivial
          | _ => simpa only [Leaves, same] using now
      | appearing wait => trivial
  | read reads inner =>
      cases step_cases inner with
      | left => trivial
      | appearing inner => trivial
      | leaving polled =>
          cases Wait.step_cases polled with
          | @read changed =>
              intro other
              rcases readOther_append.mp other with before | found
              · exact absurd before now
              · exact readOther_read.mp found
          | subscribe | rejected | woken => cases reads
          | accepted => cases reads
  | other reads inner =>
      rw [List.append_nil]
      cases step_cases inner with
      | left => trivial
      | appearing inner => trivial
      | leaving polled =>
          cases Wait.step_cases polled with
          | read => cases reads
          | accepted accepts => trivial
          | subscribe | woken stale => exact now
          | rejected rejects =>
              intro other
              rw [notOnAllTransports, now other] at rejects
              cases rejects

theorem Leaves.reachable {entry : Window} {beside : Beside NextWindow} {log : List WaitEvent}
    (reached : Reachable waiter.machine (waiter.call entry) log beside) :
    Leaves log beside.control :=
  reached.invariant (fun log beside => Leaves log beside.control) (by simp [Waiter.call, waiter,
    start, Leaves, ReadOther])
    (fun _ _ _ _ _ _ now _ moved => now.step (Waiter.step_cases moved))

/-- Where no poll goes on, the waits are over if a window for all transports is open, unless
every read since the call has found one. -/
theorem resolved_of_settled {entry : Window} {beside : Beside NextWindow} {log : List WaitEvent}
    (reached : Reachable waiter.machine (waiter.call entry) log beside)
    (settled : waiter.machine.Settled (· = .poll) beside)
    (all : beside.window.state.isOpenOnAllTransports = true) (other : ReadOther log) :
    ∃ seen, beside.control = .appearing (.returned seen) := by
  have valid := Valid.reachable reached
  have leaves := Leaves.reachable reached
  have stuck : beside.control.step beside.window = none :=
    Option.map_eq_none_iff.mp (settled .poll rfl)
  obtain ⟨window, control⟩ := beside
  by_contra unresolved
  have quiet : control.Quiescent window :=
    suspended (fun state same => unresolved ⟨state, same⟩) stuck
  cases control with
  | leaving wait =>
      have known : wait.Valid notOnAllTransports window := valid
      obtain ⟨changed, rfl, _⟩ := known.quiescent quiet
      exact leaves other
  | appearing wait =>
      have known : wait.Valid (·.isOpenOnAllTransports) window := valid
      obtain ⟨changed, rfl, rejected⟩ := known.quiescent quiet
      rw [all] at rejected
      cases rejected

theorem exec_window {beside last : Beside NextWindow} {polls : List WaitAction}
    {later : List WaitEvent} (inside : ∀ action ∈ polls, action = .poll)
    (executed : waiter.machine.exec beside polls = some (last, later)) :
    last.window = beside.window := by
  induction polls generalizing beside later with
  | nil => exact congrArg Beside.window (Prod.mk.inj (Option.some.inj executed)).1.symm
  | cons first rest ih =>
      obtain ⟨next, events, more, moved, followed, _⟩ := Machine.exec_cons.mp executed
      have polled := inside first List.mem_cons_self
      subst polled
      obtain ⟨control, _, same⟩ := Option.map_eq_some_iff.mp moved
      cases same
      have kept := ih (fun action member => inside action (List.mem_cons_of_mem _ member)) followed
      exact kept

/-- Without a change of the window, `wait_next_comm_window` comes to rest after no more than
ten steps, from wherever it is; and if a window for all transports is open then, it has
resolved, unless no read since the call has ever found that none is. -/
theorem next_window_settles {entry : Window} {beside : Beside NextWindow} {log : List WaitEvent}
    (reached : Reachable waiter.machine (waiter.call entry) log beside) :
    (∀ polls last later, (∀ action ∈ polls, action = .poll) →
      waiter.machine.exec beside polls = some (last, later) → polls.length ≤ 10) ∧
    ∃ polls last later, (∀ action ∈ polls, action = .poll) ∧
      waiter.machine.exec beside polls = some (last, later) ∧
      waiter.machine.Settled (· = .poll) last ∧ last.window = beside.window ∧
      (beside.window.state.isOpenOnAllTransports = true → ReadOther (log ++ later) →
        ∃ seen, last.control = .appearing (.returned seen)) := by
  constructor
  · intro polls last later inside executed
    have bound := (ranking.bounded trivial inside executed).2
    have most : beside.control.rank beside.window ≤ 10 := rank_le beside.control
    omega
  · obtain ⟨polls, last, later, inside, executed, settled⟩ := ranking.settles beside trivial
    have same := exec_window inside executed
    refine ⟨polls, last, later, inside, executed, settled, same, ?_⟩
    intro all other
    have onward := reached.trans (Machine.exec_reachable executed)
    exact resolved_of_settled onward settled (same ▸ all) other

/-- The window of the commissioning has gone and the next one is open, but the future still
waits for the first: ten steps from there it has resolved. -/
theorem next_window_settles_reopened :
    ∃ log beside, Reachable waiter.machine (waiter.call ⟨.opened none, 1, 1⟩) log beside ∧
      beside.control = .appearing (.read 2) ∧ beside.window = ⟨.opened none, 3, 2⟩ ∧
      ∃ last later, Reachable waiter.machine beside later last ∧
        ∃ seen, last.control = .appearing (.returned seen) := by
  have executed : waiter.machine.exec (waiter.call ⟨.opened none, 1, 1⟩)
      (List.replicate 3 .poll ++ [.window .close] ++ List.replicate 6 .poll ++
        [.window .openBasic]) = some (⟨⟨.opened none, 3, 2⟩, .appearing (.read 2)⟩,
        [.read ⟨.opened none, 1, 1⟩, .window .close, .read ⟨.closed, 2, 1⟩,
          .window .openBasic]) := rfl
  have reached := Machine.exec_reachable executed
  obtain ⟨polls, last, later, _, executed, _, _, resolves⟩ := (next_window_settles reached).2
  refine ⟨_, _, reached, rfl, rfl, last, later, Machine.exec_reachable executed, ?_⟩
  exact resolves rfl ⟨⟨.closed, 2, 1⟩, List.mem_append_left _ (by simp), rfl⟩

end NextWindow

end RsMatterStack
