import RsMatterStack.TaskTree

set_option autoImplicit false

/-! The boxes of a run change nothing but its memory: with room for them, it is the run
that has every future pinned on the spot. -/

namespace RsMatterStack

open JobTree (Fut Job)
open Transition (Machine Reachable)

/-- A run without an allocator. -/
structure PinnedRun where
  status : TaskStatus
  session : Option (Fut Empty)
  sessions : Nat

inductive PinnedEvent
  | began
  | ended
deriving DecidableEq, Repr

namespace PinnedRun

def start : PinnedRun := ⟨.entered, none, 0⟩

def step (task : Job Empty) (run : PinnedRun) :
    TaskAction → Option (PinnedRun × List PinnedEvent)
  | .root =>
      if run.status = .entered then some ({ run with status := .running }, []) else none
  | .begin =>
      if run.status = .running ∧ run.session.isNone then
        some ({ run with session := some (.fresh task), sessions := run.sessions + 1 }, [.began])
      else none
  | .poll answers => run.session.map fun fut =>
      match fut.poll JobTree.unallocated answers () with
      | .error fault => fault.elim
      | .ok (after, _, _) =>
          if after.isDone then ({ run with session := none }, [.ended])
          else ({ run with session := some after }, [])
  | .drop =>
      if run.session.isSome then some ({ run with session := none }, [.ended]) else none

def machine (task : Job Empty) : Machine PinnedRun TaskAction PinnedEvent := ⟨step task⟩

end PinnedRun

namespace TaskEvent

/-- What an event is without the allocator. -/
def pinned? : TaskEvent → Option PinnedEvent
  | began => some .began
  | ended => some .ended
  | _ => none

end TaskEvent

namespace TaskRun

variable {config : TaskConfig} {run next : TaskRun} {action : TaskAction}
  {log events : List TaskEvent} {bump : Bump}

def pinned (run : TaskRun) : PinnedRun := ⟨run.status, run.session.map Fut.pinned, run.sessions⟩

def isBegin : TaskAction → Bool
  | .begin => true
  | _ => false

/-- The rest of the actions begins no session that the bump has no room for. -/
def Affords (config : TaskConfig) (bump : Bump) (rest : List TaskAction) (run : TaskRun) : Prop :=
  ∃ log, Reachable (machine config) (start bump) log run ∧
    needs config (run.sessions + rest.countP isBegin) ≤ bump.capacity

theorem filterMap_allocated (sites : List AllocSite) :
    (sites.map .allocated).filterMap TaskEvent.pinned? = [] := by
  induction sites with
  | nil => rfl
  | cons site rest ih => simp [TaskEvent.pinned?]

theorem Step.sessions (moved : Step config run action events next) :
    next.sessions = run.sessions + if isBegin action then 1 else 0 := by
  cases moved <;> rfl

/-- A step keeps to the room, and nothing panics in it. -/
theorem Affords.step {rest : List TaskAction} (unused : bump.offset = 0)
    (affords : Affords config bump (action :: rest) run)
    (moved : (machine config).step run action = some (next, events)) :
    Affords config bump rest next ∧ ∀ panic, .panicked panic ∉ events := by
  obtain ⟨log, reached, enough⟩ := affords
  have reached_next : Reachable (machine config) (start bump) (log ++ events) next :=
    reached.step trivial moved
  have left : next.sessions + rest.countP isBegin =
      run.sessions + (action :: rest).countP isBegin := by
    rw [(step_cases moved).sessions, List.countP_cons]
    omega
  rw [← left] at enough
  have within : needs config next.sessions ≤ bump.capacity :=
    Nat.le_trans (needs_mono (Nat.le_add_right _ _)) enough
  have calm := (reachable_fits unused reached_next within).1
  refine ⟨⟨_, reached_next, enough⟩, ?_⟩
  intro panic member
  exact calm panic (List.mem_append_right log member)

/-- A step of the run is that of the run without an allocator, as long as it does not panic. -/
theorem step_pinned
    (calm : ∀ next events, (machine config).step run action = some (next, events) →
      ∀ panic, .panicked panic ∉ events) :
    ((machine config).step run action).map
        (fun (next, events) => (next.pinned, events.filterMap TaskEvent.pinned?)) =
      (PinnedRun.machine config.task.pinned).step run.pinned action := by
  cases action with
  | root =>
      by_cases entered : run.status = .entered
      · cases granted : alloc config .root ⟨run.bump, []⟩ with
        | error panic =>
            have failed : (machine config).step run .root = some (run.fail panic) := by
              simp [machine, step, entered, granted]
            exact absurd List.mem_cons_self (calm _ _ failed panic)
        | ok allocs =>
            simp only [machine, step, PinnedRun.machine, PinnedRun.step, pinned, entered, granted,
              if_true]
            rfl
      · simp [machine, step, PinnedRun.machine, PinnedRun.step, pinned, entered]
  | begin =>
      simp only [machine, step, PinnedRun.machine, PinnedRun.step, pinned, Option.isNone_map]
      split
      · rfl
      · rfl
  | poll answers =>
      cases current : run.session with
      | none => simp [machine, step, PinnedRun.machine, PinnedRun.step, pinned, current]
      | some fut =>
          cases polled : fut.poll (alloc config) answers ⟨run.bump, []⟩ with
          | error panic =>
              have failed : (machine config).step run (.poll answers) = some (run.fail panic) := by
                simp [machine, step, current, poll, polled]
              exact absurd List.mem_cons_self (calm _ _ failed panic)
          | ok result =>
              obtain ⟨after, left, allocs⟩ := result
              have same := fut.poll_pinned _ _ _ _ _ polled
              simp only [machine, step, PinnedRun.machine, PinnedRun.step, pinned, current,
                Option.map_some, poll, polled, same, Fut.pinned_isDone]
              split
              · simp only [Option.some.injEq, List.filterMap_append, filterMap_allocated]
                rfl
              · simp only [filterMap_allocated, Option.map_some]
  | drop =>
      simp only [machine, step, PinnedRun.machine, PinnedRun.step, pinned, Option.isSome_map]
      split
      · rfl
      · rfl

/-- With a bump that has the budget of the sessions begun, whatever is polled when, the run of
a task with `pin_alloc!` goes through the same actions, and gets as far in all of its futures,
as the run that pins every one of them on the spot. -/
theorem boxed_runs_as_pinned (unused : bump.offset = 0) (actions : List TaskAction)
    (enough : needs config (actions.countP isBegin) ≤ bump.capacity) :
    ((machine config).exec (start bump) actions).map
        (fun (run, log) => (run.pinned, log.filterMap TaskEvent.pinned?)) =
      (PinnedRun.machine config.task.pinned).exec .start actions := by
  have affords : Affords config bump actions (start bump) := by
    refine ⟨[], .start, ?_⟩
    simpa only [start, Nat.zero_add] using enough
  refine Machine.exec_agrees pinned TaskEvent.pinned? (Affords config bump) affords ?_ ?_
  · intro action rest run known
    exact step_pinned (fun _ _ moved => (known.step unused moved).2)
  · intro action rest run next events known moved
    exact (known.step unused moved).1

theorem boxed_runs_as_pinned_twoSessions :
    ((machine smallConfig).exec (start ⟨64, 1323, 0⟩) twoSessions).map
        (fun (run, log) => (run.pinned, log.filterMap TaskEvent.pinned?)) =
      (PinnedRun.machine smallConfig.task.pinned).exec .start twoSessions :=
  boxed_runs_as_pinned rfl twoSessions (by decide +kernel)

end TaskRun

end RsMatterStack
