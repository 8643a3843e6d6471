import RsMatterStack.StackStep
import RsMatterStack.TaskTree

set_option autoImplicit false

/-! The tasks of a concurrent run beside the stack that they run on: they allocate from one
bump, which refuses them where it refuses the stack. -/

namespace RsMatterStack

open JobTree (Answer Fut)
open Transition (Machine)

namespace Bump

/-- Requests one after the other; a refused one leaves those behind it. -/
def reserveAll (bump : Bump) : List Layout → Except (Panic × List Layout) Bump
  | [] => .ok bump
  | layout :: rest =>
      match bump.reserve layout with
      | .error panic => .error (panic, rest)
      | .ok (_, next) => next.reserveAll rest

/-- All requests are granted, and lead to this allocator; or the last one is refused. -/
inductive Replies (bump : Bump) (requests : List Layout) : Option Bump → Prop
  | granted {next : Bump} (all : bump.reserveAll requests = .ok next) :
      Replies bump requests (some next)
  | refused {panic : Panic} (last : bump.reserveAll requests = .error (panic, [])) :
      Replies bump requests none

variable {bump next : Bump} {layout : Layout} {first requests : List Layout}
  {outcome other : Option Bump}

theorem reserveAll_append (all : bump.reserveAll first = .ok next) :
    bump.reserveAll (first ++ requests) = next.reserveAll requests := by
  induction first generalizing bump with
  | nil =>
      cases all
      rfl
  | cons layout rest ih =>
      simp only [reserveAll, List.cons_append] at all ⊢
      split at all
      · cases all
      · exact ih all

theorem Replies.append (granted : bump.Replies first (some next))
    (later : next.Replies requests outcome) : bump.Replies (first ++ requests) outcome := by
  cases granted with
  | granted all =>
      cases later with
      | granted rest => exact .granted ((reserveAll_append all).trans rest)
      | refused last => exact .refused ((reserveAll_append all).trans last)

theorem Replies.nil : bump.Replies [] (some bump) := .granted rfl

theorem Replies.reserved {address : Nat} (success : bump.reserve layout = .ok (address, next)) :
    bump.Replies [layout] (some next) := .granted (by simp only [reserveAll, success])

theorem Replies.failed {panic : Panic} (failed : bump.reserve layout = .error panic) :
    bump.Replies [layout] none := .refused (by simp only [reserveAll, failed]; rfl)

theorem Replies.behind {address : Nat} (success : bump.reserve layout = .ok (address, next))
    (replies : bump.Replies (layout :: requests) outcome) : next.Replies requests outcome := by
  have same : bump.reserveAll (layout :: requests) = next.reserveAll requests := by
    simp only [reserveAll, success]
  cases replies with
  | granted all => exact .granted (same.symm.trans all)
  | refused last => exact .refused (same.symm.trans last)

/-- Nothing is asked for after a refusal. -/
theorem Replies.ends {panic : Panic} (failed : bump.reserve layout = .error panic)
    (replies : bump.Replies (layout :: requests) outcome) : requests = [] := by
  have same : bump.reserveAll (layout :: requests) = .error (panic, requests) := by
    simp only [reserveAll, failed]
  cases replies with
  | granted all => cases same.symm.trans all
  | refused last =>
      cases same.symm.trans last
      rfl

/-- The allocator replies in one way. -/
theorem Replies.unique (replies : bump.Replies requests outcome)
    (again : bump.Replies requests other) : outcome = other := by
  cases replies with
  | granted all =>
      cases again with
      | granted same => exact congrArg some (Except.ok.inj (all.symm.trans same))
      | refused last => cases all.symm.trans last
  | refused last =>
      cases again with
      | granted all => cases last.symm.trans all
      | refused => rfl

end Bump

namespace TaskRun

variable {tasks : TaskConfig} {run next last : TaskRun} {action : TaskAction}
  {actions : List TaskAction} {log events : List TaskEvent}

/-- `alloc`, with what a poll has asked for up to its panic. -/
def traced (config : TaskConfig) (site : AllocSite) (allocs : Allocs) :
    Except (List AllocSite × Panic) Allocs :=
  match allocs.bump.reserve (config.layout site) with
  | .error panic => .error (allocs.sites ++ [site], panic)
  | .ok (_, bump) => .ok ⟨bump, allocs.sites ++ [site]⟩

theorem alloc_eq (site : AllocSite) (allocs : Allocs) :
    alloc tasks site allocs = (traced tasks site allocs).mapError Prod.snd := by
  unfold alloc traced
  cases allocs.bump.reserve (tasks.layout site) <;> rfl

section

variable {fut : Fut AllocSite} {answers : List Answer} {world : Allocs}

theorem traced_ok {result : Fut AllocSite × List Answer × Allocs}
    (granted : fut.poll (alloc tasks) answers world = .ok result) :
    fut.poll (traced tasks) answers world = .ok result := by
  rw [fut.poll_mapError alloc_eq] at granted
  cases polled : fut.poll (traced tasks) answers world with
  | error fault =>
      rw [polled] at granted
      cases granted
  | ok other =>
      rw [polled] at granted
      cases granted
      rfl

theorem traced_error {panic : Panic}
    (refused : fut.poll (alloc tasks) answers world = .error panic) :
    ∃ sites, fut.poll (traced tasks) answers world = .error (sites, panic) := by
  rw [fut.poll_mapError alloc_eq] at refused
  cases polled : fut.poll (traced tasks) answers world with
  | error fault =>
      rw [polled] at refused
      cases refused
      exact ⟨fault.1, rfl⟩
  | ok other =>
      rw [polled] at refused
      cases refused

end

/-- The sites that a poll asks the allocator for, in order. -/
def askedIn : Except (List AllocSite × Panic) (Fut AllocSite × List Answer × Allocs) →
    List AllocSite
  | .error (sites, _) => sites
  | .ok (_, _, allocs) => allocs.sites

def asks (config : TaskConfig) (run : TaskRun) : TaskAction → List AllocSite
  | .root => [.root]
  | .poll answers =>
      match run.session with
      | none => []
      | some fut => askedIn (fut.poll (traced config) answers ⟨run.bump, []⟩)
  | .begin | .drop => []

/-- The sites that a run asks the allocator for, in order; the last one may be refused. -/
def asked (config : TaskConfig) : TaskRun → List TaskAction → List AllocSite
  | _, [] => []
  | run, action :: rest =>
      match step config run action with
      | none => []
      | some (next, _) => asks config run action ++ asked config next rest

/-- The allocator that the tasks have come to, unless they have panicked. -/
def allocator (run : TaskRun) : Option Bump :=
  if run.status = .panicked then none else some run.bump

/-- There are futures of a session only while the run has not ended. -/
def Going (run : TaskRun) : Prop := run.session ≠ none → run.status = .running

theorem traced_rule (tasks : TaskConfig) (bump : Bump) :
    JobTree.Rule (traced tasks) (fun _ => 0)
      (fun _ allocs => bump.Replies (allocs.sites.map tasks.layout) (some allocs.bump))
      (fun fault => bump.Replies (fault.1.map tasks.layout) none) where
  granted := by
    intro _ site allocs after so_far granted
    unfold traced at granted
    split at granted
    · cases granted
    · rename_i address next success
      cases granted
      rw [List.map_append]
      exact so_far.append (.reserved success)
  refused := by
    intro _ site allocs fault so_far refused
    unfold traced at refused
    split at refused
    · rename_i panic failed
      cases refused
      rw [List.map_append]
      exact so_far.append (.failed failed)
    · cases refused
  less := fun _ _ _ _ so_far => so_far

theorem Step.going (moved : Step tasks run action events next) (going : run.Going) :
    next.Going := by
  intro session
  cases moved with
  | began running => exact running
  | polled current => exact going (by simp [current])
  | rooted => rfl
  | rootFailed | pollFailed | dropped => exact absurd rfl session

/-- The allocator replies to what a step asks for. -/
theorem Step.replies (moved : Step tasks run action events next) (going : run.Going) :
    run.bump.Replies ((asks tasks run action).map tasks.layout) next.allocator := by
  cases moved with
  | rooted entered granted =>
      obtain ⟨address, bump, success, rfl⟩ := alloc_cases granted
      exact .reserved success
  | @rootFailed panic entered refused =>
      unfold alloc at refused
      split at refused
      · rename_i raised failed
        exact .failed failed
      · cases refused
  | began running => simp [asks, allocator, running, Bump.Replies.nil]
  | @polled fut after answers left allocs current granted =>
      have running := going (by simp [current])
      have outcome := (traced_rule tasks run.bump).fut 0 fut answers ⟨run.bump, []⟩ .nil
      rw [traced_ok granted] at outcome
      simpa [asks, current, traced_ok granted, askedIn, allocator, running, JobTree.Outcome]
        using outcome
  | @pollFailed fut answers panic current refused =>
      have outcome := (traced_rule tasks run.bump).fut 0 fut answers ⟨run.bump, []⟩ .nil
      obtain ⟨sites, polled⟩ := traced_error refused
      rw [polled] at outcome
      simpa [asks, current, polled, askedIn, allocator, JobTree.Outcome] using outcome
  | dropped current =>
      have running := going (by simp [current])
      simp [asks, allocator, running, Bump.Replies.nil]

end TaskRun

namespace Stack

variable {Creds : Type} {config : Config} {stack next last : Stack Creds}
  {action : StackAction Creds} {actions : List (StackAction Creds)}
  {log events : List (StackEvent Creds)}

/-- What a step asks the allocator for once the run has begun. -/
def request : StackAction Creds → Option Layout
  | .reserve layout => some layout
  | _ => none

/-- What a concurrent run comes to with an allocator: it is the stack's as long as the run
goes on, and without one, a panic has ended the run and given all memory back. -/
def Reached (log : List (StackEvent Creds)) (last : Stack Creds) : Option Bump → Prop
  | some bump => .runEnded .panicked ∉ log ∧ (last.run = .coex → last.bump = bump)
  | none => .runEnded .panicked ∈ log ∧ last.run = .idle ∧ last.bump.offset = 0

theorem Reached.after {later : List (StackEvent Creds)} {outcome : Option Bump}
    (reached : Reached later last outcome) (unpanicked : .runEnded .panicked ∉ events) :
    Reached (events ++ later) last outcome := by
  cases outcome with
  | some bump => exact ⟨by simp [unpanicked, reached.1], reached.2⟩
  | none => exact ⟨List.mem_append_right _ reached.1, reached.2⟩

end Stack

namespace TaskRun

variable {Creds : Type} {tasks : TaskConfig} {config : Config} {stack : Stack Creds}
  {run : TaskRun} {actions : List TaskAction} {log : List TaskEvent}

/-- A concurrent stack with room for its root future and for one of the session. -/
def smallCoex : TaskConfig := { smallConfig with coex := true }

/-- The window changes, and the Interaction Model starts up, between the two allocations. -/
def exhausted : List (StackAction Unit) :=
  [.startupIm, .reserve (smallCoex.layout .net), .window .openBasic,
    .reserve (smallCoex.layout .im), .window .close]

end TaskRun

end RsMatterStack
