import Mathlib.Data.List.Nodup
import RsMatterStack.BumpBudget
import RsMatterStack.BumpSeparation
import RsMatterStack.JobTree
import RsMatterStack.Refinement

set_option autoImplicit false

/-! The boxes of a run with `run_im_with_bump`: where its tasks allocate, and how much of
the `Bump` they use while a driver runs the task of the stack again and again. -/

namespace RsMatterStack

open JobTree (Answer Fut Gate Job Jobs)
open Transition (Machine Reachable)

/-- The `pin_alloc!`s of a run. -/
inductive AllocSite
  /-- The future of `run_ethernet`, `run_wifi_coex` or `run_thread_coex`. -/
  | root
  | net
  | mdns
  | im
  | user
  /-- `run_gatt_while_ble_commissionable` -/
  | btp
  | operNet
  | responder
  | actual
  | busy
  | handler (id : Nat)
  | busyHandler (id : Nat)
deriving DecidableEq, Repr

namespace AllocSite

def maxBusyResponders : Nat := 2

/-- `run_one_responder_with_bump` for `count` handlers. -/
def oneResponder (site : Nat → AllocSite) (count : Nat) : Job AllocSite :=
  .node .open ((List.range count).foldr (fun id rest => .cons (some (site id)) .leaf rest) .nil)

def runResponder (maxResponders : Nat) : Job AllocSite :=
  .node .open
    (.cons (some actual) (oneResponder handler maxResponders)
      (.cons (some busy) (oneResponder busyHandler maxBusyResponders) .nil))

/-- `run_im_with_bump`, which first awaits `startup_im`. -/
def runIm (maxResponders : Nat) : Job AllocSite :=
  .node .await (.cons (some responder) (runResponder maxResponders) (.cons none .leaf .nil))

/-- `MatterStackEthernetTask::run`; only `weak_rand` can fail before it allocates. -/
def ethernetTask (maxResponders : Nat) : Job AllocSite :=
  .node .check
    (.cons (some net) .leaf
      (.cons (some mdns) .leaf
        (.cons (some im) (runIm maxResponders) (.cons (some user) .leaf .nil))))

/-- `run_net_coex`, which is `run_btp_coex`. -/
def runNetCoex : Job AllocSite :=
  .node .open
    (.cons (some btp) .leaf (.cons (some operNet) .leaf (.cons (some mdns) .leaf .nil)))

/-- `WifiCoexTask::run` and `ThreadCoexTask::run`. -/
def coexTask (maxResponders : Nat) : Job AllocSite :=
  .node .check
    (.cons (some net) runNetCoex
      (.cons (some im) (runIm maxResponders) (.cons (some user) .leaf .nil)))

/-- The sites of `run_im_with_bump`. -/
def imSites (maxResponders : Nat) : List AllocSite :=
  [responder, actual, busy] ++ (List.range maxResponders).map handler ++
    (List.range maxBusyResponders).map busyHandler

theorem oneResponder_sites (site : Nat → AllocSite) (count : Nat) :
    (oneResponder site count).sites = (List.range count).map site := by
  simp only [oneResponder, Job.sites]
  induction List.range count with
  | nil => rfl
  | cons id rest ih => simpa [Jobs.ownSites, Jobs.innerSites, Job.sites] using ih

theorem runIm_sites (maxResponders : Nat) :
    (runIm maxResponders).sites = imSites maxResponders := by
  simp [runIm, runResponder, Job.sites, Jobs.ownSites, Jobs.innerSites, oneResponder_sites, imSites]

theorem ethernetTask_sites (maxResponders : Nat) :
    (ethernetTask maxResponders).sites = [net, mdns, im, user] ++ imSites maxResponders := by
  simp [ethernetTask, Job.sites, Jobs.ownSites, Jobs.innerSites, runIm_sites]

theorem coexTask_sites (maxResponders : Nat) :
    (coexTask maxResponders).sites =
      [net, im, user, btp, operNet, mdns] ++ imSites maxResponders := by
  simp [coexTask, runNetCoex, Job.sites, Jobs.ownSites, Jobs.innerSites, runIm_sites]

/-- The handlers of a responder are the only sites in a loop, and that counts them. -/
theorem imSites_nodup (maxResponders : Nat) : (imSites maxResponders).Nodup := by
  have handlers : ((List.range maxResponders).map handler).Nodup :=
    List.Nodup.map (fun _ _ same => handler.inj same) List.nodup_range
  have busyHandlers : ((List.range maxBusyResponders).map busyHandler).Nodup :=
    List.Nodup.map (fun _ _ same => busyHandler.inj same) List.nodup_range
  simp only [imSites, List.nodup_append, List.mem_map, List.mem_append, List.mem_cons]
  refine ⟨⟨by decide, handlers, ?_⟩, busyHandlers, ?_⟩
  · rintro _ fixed _ ⟨id, _, rfl⟩ rfl
    simp at fixed
  · rintro _ (fixed | ⟨first, _, rfl⟩) _ ⟨id, _, rfl⟩ same
    · subst same
      simp at fixed
    · cases same

end AllocSite

/-- What is fixed about a stack: its task, and the layouts of its futures. -/
structure TaskConfig where
  coex : Bool
  maxResponders : Nat
  layout : AllocSite → Layout

namespace TaskConfig

def task (config : TaskConfig) : Job AllocSite :=
  if config.coex then AllocSite.coexTask config.maxResponders
  else AllocSite.ethernetTask config.maxResponders

theorem task_sites (config : TaskConfig) :
    config.task.sites.Nodup ∧ AllocSite.root ∉ config.task.sites := by
  have unique := AllocSite.imSites_nodup config.maxResponders
  unfold task
  split
  · rw [AllocSite.coexTask_sites]
    constructor
    · simpa [AllocSite.imSites] using unique
    · simp [AllocSite.imSites]
  · rw [AllocSite.ethernetTask_sites]
    constructor
    · simpa [AllocSite.imSites] using unique
    · simp [AllocSite.imSites]

end TaskConfig

/-- The allocator, and what has been allocated in a poll, in order. -/
structure Allocs where
  bump : Bump
  sites : List AllocSite

inductive TaskStatus
  | entered
  /-- The root future is there, and with it the driver. -/
  | running
  | panicked
deriving DecidableEq, Repr

/-- A run of the stack from the guard of the allocator on; `sessions` counts how often
its driver has run the task. -/
structure TaskRun where
  bump : Bump
  status : TaskStatus
  session : Option (Fut AllocSite)
  sessions : Nat

inductive TaskAction
  | root
  /-- The driver runs the task. -/
  | begin
  /-- The task is polled; `answers` is what comes from outside of the tree. -/
  | poll (answers : List Answer)
  /-- The driver drops the future of the task. -/
  | drop

inductive TaskEvent
  | allocated (site : AllocSite)
  | began
  | ended
  | panicked (panic : Panic)
deriving DecidableEq, Repr

/-- The site of an allocation. -/
def TaskEvent.site? : TaskEvent → Option AllocSite
  | allocated site => some site
  | _ => none

namespace TaskRun

def start (bump : Bump) : TaskRun := ⟨bump, .entered, none, 0⟩

def alloc (config : TaskConfig) (site : AllocSite) (allocs : Allocs) : Except Panic Allocs :=
  match allocs.bump.reserve (config.layout site) with
  | .error panic => .error panic
  | .ok (_, bump) => .ok ⟨bump, allocs.sites ++ [site]⟩

/-- The panic ends the run, and all of its futures. -/
def fail (run : TaskRun) (panic : Panic) : TaskRun × List TaskEvent :=
  ({ run with status := .panicked, session := none }, [.panicked panic])

def poll (config : TaskConfig) (run : TaskRun) (fut : Fut AllocSite) (answers : List Answer) :
    TaskRun × List TaskEvent :=
  match fut.poll (alloc config) answers ⟨run.bump, []⟩ with
  | .error panic => run.fail panic
  | .ok (after, _, allocs) =>
      if after.isDone then
        ({ run with bump := allocs.bump, session := none },
          allocs.sites.map .allocated ++ [.ended])
      else ({ run with bump := allocs.bump, session := some after },
        allocs.sites.map .allocated)

def step (config : TaskConfig) (run : TaskRun) : TaskAction → Option (TaskRun × List TaskEvent)
  | .root =>
      if run.status = .entered then
        match alloc config .root ⟨run.bump, []⟩ with
        | .error panic => some (run.fail panic)
        | .ok allocs =>
            some ({ run with bump := allocs.bump, status := .running }, [.allocated .root])
      else none
  | .begin =>
      if run.status = .running ∧ run.session.isNone then
        some ({ run with session := some (.fresh config.task), sessions := run.sessions + 1 },
          [.began])
      else none
  | .poll answers => run.session.map fun fut => run.poll config fut answers
  | .drop =>
      if run.session.isSome then some ({ run with session := none }, [.ended]) else none

def machine (config : TaskConfig) : Machine TaskRun TaskAction TaskEvent := ⟨step config⟩

variable {config : TaskConfig} {run next : TaskRun} {action : TaskAction}
  {log events : List TaskEvent}

def sessionLeft (weight : AllocSite → Nat) : Option (Fut AllocSite) → Nat
  | none => 0
  | some fut => fut.left weight

/-- The session after a poll: one that is done is dropped. -/
def kept (after : Fut AllocSite) : Option (Fut AllocSite) :=
  if after.isDone then none else some after

theorem sessionLeft_kept (weight : AllocSite → Nat) (after : Fut AllocSite) :
    sessionLeft weight (kept after) ≤ after.left weight := by
  unfold kept
  split
  · exact Nat.zero_le _
  · exact Nat.le_refl _

def rootLeft (weight : AllocSite → Nat) (run : TaskRun) : Nat :=
  if run.status = .entered then weight .root else 0

/-- Each kind of step, with what it needs and does. -/
inductive Step (config : TaskConfig) (run : TaskRun) :
    TaskAction → List TaskEvent → TaskRun → Prop
  | rooted {allocs : Allocs} (entered : run.status = .entered)
      (granted : alloc config .root ⟨run.bump, []⟩ = .ok allocs) :
      Step config run .root [.allocated .root]
        { run with bump := allocs.bump, status := .running }
  | rootFailed {panic : Panic} (entered : run.status = .entered)
      (refused : alloc config .root ⟨run.bump, []⟩ = .error panic) :
      Step config run .root [.panicked panic]
        { run with status := .panicked, session := none }
  | began (running : run.status = .running) (free : run.session = none) :
      Step config run .begin [.began]
        { run with session := some (.fresh config.task), sessions := run.sessions + 1 }
  | polled {fut after : Fut AllocSite} {answers left : List Answer} {allocs : Allocs}
      (current : run.session = some fut)
      (granted : fut.poll (alloc config) answers ⟨run.bump, []⟩ = .ok (after, left, allocs)) :
      Step config run (.poll answers)
        (allocs.sites.map .allocated ++ if after.isDone then [.ended] else [])
        { run with bump := allocs.bump, session := kept after }
  | pollFailed {fut : Fut AllocSite} {answers : List Answer} {panic : Panic}
      (current : run.session = some fut)
      (refused : fut.poll (alloc config) answers ⟨run.bump, []⟩ = .error panic) :
      Step config run (.poll answers) [.panicked panic]
        { run with status := .panicked, session := none }
  | dropped {fut : Fut AllocSite} (current : run.session = some fut) :
      Step config run .drop [.ended] { run with session := none }

theorem step_cases (moved : (machine config).step run action = some (next, events)) :
    Step config run action events next := by
  cases action with
  | root =>
      obtain ⟨entered, moved⟩ := Option.ite_none_right_eq_some.mp moved
      split at moved
      · rename_i panic refused
        cases Option.some.inj moved
        exact .rootFailed entered refused
      · rename_i allocs granted
        cases Option.some.inj moved
        exact .rooted entered granted
  | begin =>
      obtain ⟨⟨running, free⟩, same⟩ := Option.ite_none_right_eq_some.mp moved
      cases Option.some.inj same
      exact .began running (Option.isNone_iff_eq_none.mp free)
  | poll answers =>
      obtain ⟨fut, current, same⟩ := Option.map_eq_some_iff.mp moved
      unfold poll at same
      split at same
      · rename_i panic refused
        cases same
        exact .pollFailed current refused
      · rename_i after left allocs granted
        have polled := Step.polled current granted
        split at same
        · rename_i finished
          cases same
          simpa [kept, finished] using polled
        · rename_i unfinished
          cases same
          simpa [kept, unfinished] using polled
  | drop =>
      obtain ⟨alive, same⟩ := Option.ite_none_right_eq_some.mp moved
      obtain ⟨fut, current⟩ := Option.isSome_iff_exists.mp alive
      cases Option.some.inj same
      exact .dropped current

/-- The sites of a log, in order. -/
def allocatedIn (log : List TaskEvent) : List AllocSite := log.filterMap TaskEvent.site?

@[simp] theorem allocatedIn_append :
    allocatedIn (log ++ events) = allocatedIn log ++ allocatedIn events := List.filterMap_append

@[simp] theorem allocatedIn_sites (sites : List AllocSite) :
    allocatedIn (sites.map .allocated) = sites := by
  induction sites with
  | nil => rfl
  | cons site rest ih => simpa [allocatedIn, TaskEvent.site?] using ih

@[simp] theorem allocatedIn_nil : allocatedIn [] = [] := rfl

@[simp] theorem allocatedIn_began : allocatedIn [.began] = [] := rfl

@[simp] theorem allocatedIn_ended : allocatedIn [.ended] = [] := rfl

@[simp] theorem allocatedIn_panicked (panic : Panic) : allocatedIn [.panicked panic] = [] := rfl

theorem allocatedIn_polled (sites : List AllocSite) (finished : Bool) :
    allocatedIn (sites.map .allocated ++ if finished then [.ended] else []) = sites := by
  cases finished <;> simp

def size (config : TaskConfig) (site : AllocSite) : Nat := (config.layout site).size

/-- The offset covers the objects of all sites so far, and `earlier` bytes before them. -/
structure Used (config : TaskConfig) (capacity earlier : Nat) (allocs : Allocs) : Prop where
  placed : allocs.bump.capacity = capacity
  bounded : allocs.bump.offset ≤ capacity
  covers : earlier + (allocs.sites.map (size config)).sum ≤ allocs.bump.offset

theorem alloc_cases {site : AllocSite} {allocs after : Allocs}
    (granted : alloc config site allocs = .ok after) :
    ∃ address bump, allocs.bump.reserve (config.layout site) = .ok (address, bump) ∧
      after = ⟨bump, allocs.sites ++ [site]⟩ := by
  unfold alloc at granted
  split at granted
  · cases granted
  · rename_i address bump success
    cases granted
    exact ⟨address, bump, success, rfl⟩

theorem Used.alloc {capacity earlier : Nat} {site : AllocSite} {allocs after : Allocs}
    (used : Used config capacity earlier allocs)
    (granted : TaskRun.alloc config site allocs = .ok after) :
    Used config capacity earlier after := by
  obtain ⟨address, bump, success, rfl⟩ := alloc_cases granted
  have bounded : allocs.bump.offset ≤ allocs.bump.capacity := used.placed ▸ used.bounded
  have reserved := Bump.reserve_ok bounded success
  have taken : allocs.bump.offset + size config site ≤ bump.offset := by
    have grows := reserved.grows
    rcases Nat.eq_zero_or_pos (size config site) with zst | sized
    · omega
    · have fresh := reserved.fresh sized
      have inside := reserved.inside sized
      have base := reserved.base
      have same : size config site = (config.layout site).size := rfl
      omega
  refine ⟨reserved.capacity.trans used.placed, ?_, ?_⟩
  · rw [← used.placed, ← reserved.capacity]
    exact reserved.bounded
  · have covers := used.covers
    simp only [List.map_append, List.map_cons, List.map_nil, List.sum_append, List.sum_cons,
      List.sum_nil]
    omega

theorem Used.refused {capacity earlier : Nat} {site : AllocSite} {allocs : Allocs} {panic : Panic}
    (used : Used config capacity earlier allocs)
    (refused : TaskRun.alloc config site allocs = .error panic) : panic = outOfBumpMemory := by
  have bounded : allocs.bump.offset ≤ allocs.bump.capacity := used.placed ▸ used.bounded
  unfold TaskRun.alloc at refused
  split at refused
  · rename_i raised failed
    cases refused
    exact Bump.reserve_error bounded failed
  · cases refused

theorem used_rule (config : TaskConfig) (capacity earlier : Nat) :
    JobTree.Rule (alloc config) (fun _ => 0) (fun _ => Used config capacity earlier)
      (fun panic => panic = outOfBumpMemory) :=
  ⟨fun _ _ _ _ used granted => used.alloc granted,
    fun _ _ _ _ used refused => used.refused refused, fun _ _ _ _ used => used⟩

/-- Everything that has been allocated is in use until the end of the run. -/
theorem Step.used {capacity : Nat} (moved : Step config run action events next)
    (used : Used config capacity 0 ⟨run.bump, allocatedIn log⟩) :
    Used config capacity 0 ⟨next.bump, allocatedIn (log ++ events)⟩ := by
  have fresh : Used config capacity ((allocatedIn log).map (size config)).sum ⟨run.bump, []⟩ :=
    ⟨used.placed, used.bounded, by simpa using used.covers⟩
  have joined : ∀ {allocs : Allocs},
      Used config capacity ((allocatedIn log).map (size config)).sum allocs →
      Used config capacity 0 ⟨allocs.bump, allocatedIn log ++ allocs.sites⟩ := by
    intro allocs later
    exact ⟨later.placed, later.bounded, by simpa using later.covers⟩
  rw [allocatedIn_append]
  cases moved with
  | rooted entered granted =>
      have one := fresh.alloc granted
      obtain ⟨address, bump, success, rfl⟩ := alloc_cases granted
      exact joined one
  | @polled fut after answers left allocs current granted =>
      have outcome := (used_rule config capacity _).fut 0 fut answers ⟨run.bump, []⟩ fresh
      rw [granted] at outcome
      rw [allocatedIn_polled]
      exact joined outcome
  | rootFailed | began | pollFailed | dropped => simpa using used

theorem reachable_used {bump : Bump} (unused : bump.offset = 0)
    (reached : Reachable (machine config) (start bump) log run) :
    Used config bump.capacity 0 ⟨run.bump, allocatedIn log⟩ :=
  reached.invariant (fun log run => Used config bump.capacity 0 ⟨run.bump, allocatedIn log⟩)
    ⟨rfl, by simp [start, unused], by simp [start, unused]⟩
    (fun _ _ _ _ _ _ used _ moved => (step_cases moved).used used)

/-- How often a site may still be allocated. -/
def once (site : AllocSite) (other : AllocSite) : Nat := if other = site then 1 else 0

theorem count_rule (config : TaskConfig) (site : AllocSite) (earlier bound : Nat) :
    JobTree.Rule (alloc config) (once site)
      (fun amount allocs => earlier + allocs.sites.count site + amount ≤ bound)
      (fun _ => True) := by
  refine ⟨?_, fun _ _ _ _ _ _ => trivial, fun _ _ _ less more => by omega⟩
  intro amount other allocs next room granted
  obtain ⟨address, bump, success, rfl⟩ := alloc_cases granted
  have counted :
      (allocs.sites ++ [other]).count site = allocs.sites.count site + once site other := by
    by_cases same : other = site
    · simp [same, once]
    · simp [same, once]
  dsimp only
  omega

/-- What a run may have allocated at a site, and what it may still come to. -/
def Counted (config : TaskConfig) (site : AllocSite) (log : List TaskEvent) (run : TaskRun) :
    Prop :=
  (allocatedIn log).count site + rootLeft (once site) run + sessionLeft (once site) run.session ≤
    once site .root + run.sessions * config.task.cost (once site)

theorem Step.counted {site : AllocSite} (moved : Step config run action events next)
    (now : Counted config site log run) : Counted config site (log ++ events) next := by
  unfold Counted at now ⊢
  rw [allocatedIn_append, List.count_append]
  cases moved with
  | rooted entered granted =>
      obtain ⟨address, bump, success, rfl⟩ := alloc_cases granted
      have root : List.count site (allocatedIn [.allocated .root]) = once site .root := by
        show List.count site [AllocSite.root] = _
        by_cases same : AllocSite.root = site
        · simp [same, once]
        · simp [same, once]
      rw [root]
      simp only [rootLeft, entered, ↓reduceIte] at now ⊢
      simp only [reduceCtorEq, ↓reduceIte]
      omega
  | rootFailed entered refused =>
      simp only [rootLeft, sessionLeft, allocatedIn_panicked, List.count_nil, reduceCtorEq,
        ↓reduceIte]
      omega
  | began running free =>
      simp only [rootLeft, running, free, sessionLeft, Fut.left, allocatedIn_began,
        List.count_nil, reduceCtorEq, ↓reduceIte, Nat.succ_mul] at now ⊢
      omega
  | @polled fut after answers left allocs current granted =>
      have room : (allocatedIn log).count site + List.count site [] +
          (fut.left (once site) + rootLeft (once site) run) ≤
          once site .root + run.sessions * config.task.cost (once site) := by
        simp only [current, sessionLeft] at now
        simp only [List.count_nil]
        omega
      have outcome := (count_rule config site _ _).fut (rootLeft (once site) run) fut answers
        ⟨run.bump, []⟩ room
      rw [granted] at outcome
      have after_left := sessionLeft_kept (once site) after
      rw [allocatedIn_polled]
      have bounded : (allocatedIn log).count site + allocs.sites.count site +
          (after.left (once site) + rootLeft (once site) run) ≤
          once site .root + run.sessions * config.task.cost (once site) := outcome
      simp only [rootLeft] at bounded ⊢
      omega
  | pollFailed current refused =>
      simp only [rootLeft, sessionLeft, allocatedIn_panicked, List.count_nil, reduceCtorEq,
        ↓reduceIte]
      omega
  | dropped current =>
      simp only [rootLeft, sessionLeft, allocatedIn_ended, List.count_nil] at now ⊢
      omega

theorem reachable_counted {bump : Bump} (site : AllocSite)
    (reached : Reachable (machine config) (start bump) log run) : Counted config site log run :=
  reached.invariant (Counted config site)
    (by simp [Counted, start, rootLeft, sessionLeft])
    (fun _ _ _ _ _ _ now _ moved => (step_cases moved).counted now)

def budget (config : TaskConfig) (site : AllocSite) : Nat := Bump.budget (config.layout site)

/-- What is still to come fits between the bytes in use and a bound. -/
def Room (capacity bound amount : Nat) (allocs : Allocs) : Prop :=
  allocs.bump.capacity = capacity ∧ allocs.bump.offset + amount ≤ bound

theorem Room.alloc {capacity bound amount : Nat} {allocs : Allocs} (site : AllocSite)
    (enough : bound ≤ capacity) (room : Room capacity bound (budget config site + amount) allocs) :
    ∃ after, TaskRun.alloc config site allocs = .ok after ∧ Room capacity bound amount after := by
  obtain ⟨placed, fits⟩ := room
  have within : allocs.bump.offset + Bump.budget (config.layout site) ≤ allocs.bump.capacity := by
    have same : budget config site = Bump.budget (config.layout site) := rfl
    omega
  obtain ⟨address, offset, reserved, bounded⟩ := Bump.reserve_budget (config.layout site) within
  refine ⟨⟨{ allocs.bump with offset := offset }, allocs.sites ++ [site]⟩, ?_, placed, ?_⟩
  · simp only [TaskRun.alloc, reserved]
  · have same : budget config site = Bump.budget (config.layout site) := rfl
    dsimp only
    omega

theorem room_rule (config : TaskConfig) {capacity bound : Nat} (enough : bound ≤ capacity) :
    JobTree.Rule (alloc config) (budget config) (Room capacity bound) (fun _ => False) := by
  constructor
  · intro amount site allocs next room granted
    obtain ⟨after, same, kept⟩ := room.alloc site enough
    rw [granted, Except.ok.injEq] at same
    exact same ▸ kept
  · intro amount site allocs panic room refused
    obtain ⟨after, same, kept⟩ := room.alloc site enough
    rw [refused] at same
    cases same
  · rintro amount more allocs le ⟨placed, fits⟩
    exact ⟨placed, by omega⟩

/-- The budget of a run whose driver runs the task so many times. -/
def needs (config : TaskConfig) (sessions : Nat) : Nat :=
  budget config .root + sessions * (config.task.sites.map (budget config)).sum

theorem needs_mono {fewer more : Nat} (le : fewer ≤ more) :
    needs config fewer ≤ needs config more := by
  have grows := Nat.mul_le_mul_right (config.task.sites.map (budget config)).sum le
  simp only [needs]
  omega

theorem needs_succ (sessions : Nat) :
    needs config (sessions + 1) = needs config sessions + config.task.cost (budget config) := by
  rw [JobTree.Job.cost_eq]
  simp only [needs, Nat.succ_mul]
  omega

/-- As long as the budget of the sessions so far fits, nothing has panicked, and what they
still have to allocate fits too. -/
def Fits (config : TaskConfig) (capacity : Nat) (log : List TaskEvent) (run : TaskRun) : Prop :=
  needs config run.sessions ≤ capacity →
    (∀ panic, .panicked panic ∉ log) ∧ run.bump.offset +
      (sessionLeft (budget config) run.session + rootLeft (budget config) run) ≤
        needs config run.sessions

theorem silent_append (before : ∀ panic, .panicked panic ∉ log)
    (silent : ∀ panic, .panicked panic ∉ events) : ∀ panic, .panicked panic ∉ log ++ events := by
  intro panic member
  rcases List.mem_append.mp member with earlier | new
  · exact before panic earlier
  · exact silent panic new

/-- There is room for the root future, and for what a session has left. -/
theorem Fits.root_room {capacity : Nat} (now : Fits config capacity log run)
    (enough : needs config run.sessions ≤ capacity) (placed : run.bump.capacity = capacity)
    (entered : run.status = .entered) :
    Room capacity (needs config run.sessions)
      (budget config .root + sessionLeft (budget config) run.session) ⟨run.bump, []⟩ := by
  have fits := (now enough).2
  simp only [rootLeft, entered, ↓reduceIte] at fits
  refine ⟨placed, ?_⟩
  dsimp only
  omega

theorem Fits.session_room {capacity : Nat} {fut : Fut AllocSite}
    (now : Fits config capacity log run) (enough : needs config run.sessions ≤ capacity)
    (placed : run.bump.capacity = capacity) (current : run.session = some fut) :
    Room capacity (needs config run.sessions)
      (fut.left (budget config) + rootLeft (budget config) run) ⟨run.bump, []⟩ := by
  have fits := (now enough).2
  refine ⟨placed, ?_⟩
  simpa only [current, sessionLeft] using fits

theorem Step.fits {capacity : Nat} (moved : Step config run action events next)
    (placed : run.bump.capacity = capacity) (now : Fits config capacity log run) :
    Fits config capacity (log ++ events) next := by
  intro enough
  cases moved with
  | @rooted allocs entered granted =>
      have room := now.root_room enough placed entered
      have after := (room_rule config enough).granted _ _ _ _ room granted
      refine ⟨silent_append (now enough).1 (by simp), ?_⟩
      simp only [rootLeft, reduceCtorEq, ↓reduceIte, Nat.add_zero]
      exact after.2
  | rootFailed entered refused =>
      have room := now.root_room enough placed entered
      exact ((room_rule config enough).refused _ _ _ _ room refused).elim
  | began running free =>
      obtain ⟨calm, fits⟩ := now (Nat.le_trans (needs_mono (Nat.le_succ _)) enough)
      refine ⟨silent_append calm (by simp), ?_⟩
      have more : needs config (run.sessions + 1) = _ := needs_succ run.sessions
      simp only [free, rootLeft, running, sessionLeft, Fut.left, reduceCtorEq, ↓reduceIte]
        at fits ⊢
      omega
  | @polled fut after answers left allocs current granted =>
      have room := now.session_room enough placed current
      have outcome := (room_rule config enough).fut _ fut answers _ room
      rw [granted] at outcome
      have within : allocs.bump.offset +
          (after.left (budget config) + rootLeft (budget config) run) ≤
          needs config run.sessions := outcome.2
      have after_left := sessionLeft_kept (budget config) after
      refine ⟨silent_append (now enough).1 ?_, ?_⟩
      · cases after.isDone <;> simp
      · simp only [rootLeft] at within ⊢
        omega
  | @pollFailed fut answers panic current refused =>
      have room := now.session_room enough placed current
      have outcome := (room_rule config enough).fut _ fut answers _ room
      rw [refused] at outcome
      exact outcome.elim
  | dropped current =>
      obtain ⟨calm, fits⟩ := now enough
      refine ⟨silent_append calm (by simp), ?_⟩
      simp only [sessionLeft, rootLeft] at fits ⊢
      omega

theorem reachable_fits {bump : Bump} (unused : bump.offset = 0)
    (reached : Reachable (machine config) (start bump) log run) :
    Fits config bump.capacity log run :=
  reached.invariant (Fits config bump.capacity)
    (fun _ => ⟨by simp, by simp [start, unused, sessionLeft, rootLeft, needs]⟩)
    (fun _ _ _ _ _ reached now _ moved =>
      (step_cases moved).fits (reachable_used unused reached).placed now)

theorem cost_once (site : AllocSite) :
    config.task.cost (once site) = config.task.sites.count site := by
  rw [JobTree.Job.cost_eq]
  induction config.task.sites with
  | nil => rfl
  | cons other rest ih =>
      by_cases same : other = site
      · simp [same, once, ih]
        omega
      · simp [same, once, ih]

/-- Whatever is polled when, and however often the driver runs the task: the root future is
allocated once, and every other site at most once in each session. -/
theorem tasks_allocate_once {bump : Bump}
    (reached : Reachable (machine config) (start bump) log run) (site : AllocSite) :
    (allocatedIn log).count site ≤ if site = .root then 1 else run.sessions := by
  have counted : Counted config site log run := reachable_counted site reached
  obtain ⟨unique, rootless⟩ := config.task_sites
  unfold Counted at counted
  rw [cost_once] at counted
  by_cases root : site = .root
  · subst root
    rw [List.count_eq_zero_of_not_mem rootless] at counted
    simp only [once, ↓reduceIte, Nat.mul_zero] at counted ⊢
    omega
  · have single := List.nodup_iff_count_le_one.mp unique site
    have most := Nat.mul_le_mul_left run.sessions single
    have none_of_root : once site .root = 0 := if_neg (Ne.symm root)
    rw [if_neg root]
    omega

/-- An Ethernet stack with one responder, all of whose futures have 32 bytes. -/
def smallConfig : TaskConfig := ⟨false, 1, fun _ => ⟨32, 32, ⟨5, rfl⟩, Nat.dvd_refl 32⟩⟩

/-- A session that gets through its startup, and one that is dropped before. -/
def twoSessions : List TaskAction :=
  [.root, .begin, .poll [.ok], .poll [.pending, .pending, .ok], .drop, .begin, .poll [.ok], .drop]

theorem tasks_allocate_once_twoSessions :
    ∃ log run, Reachable (machine smallConfig) (start ⟨64, 704, 0⟩) log run ∧
      run.sessions = 2 ∧ (allocatedIn log).count .net ≤ 2 := by
  have completed : ((machine smallConfig).exec (start ⟨64, 704, 0⟩) twoSessions).map
      (fun result => result.1.sessions) = some 2 := by decide +kernel
  obtain ⟨⟨run, log⟩, executed, two⟩ := Option.map_eq_some_iff.mp completed
  have reached := Transition.Machine.exec_reachable executed
  have counted := tasks_allocate_once reached .net
  rw [if_neg (by decide), two] at counted
  exact ⟨log, run, reached, two, counted⟩

/-- A bump with the budget of the root future, and once for every session that of all sites
of the task, never panics, whatever the schedule. -/
theorem tasks_fit {bump : Bump} (unused : bump.offset = 0)
    (reached : Reachable (machine config) (start bump) log run)
    (enough : budget config .root + run.sessions * (config.task.sites.map (budget config)).sum ≤
      bump.capacity) :
    ∀ panic, .panicked panic ∉ log :=
  (reachable_fits unused reached enough).1

theorem tasks_fit_twoSessions :
    ∃ log run, Reachable (machine smallConfig) (start ⟨64, 1323, 0⟩) log run ∧
      run.sessions = 2 ∧ .panicked outOfBumpMemory ∉ log := by
  have completed : ((machine smallConfig).exec (start ⟨64, 1323, 0⟩) twoSessions).map
      (fun result => result.1.sessions) = some 2 := by decide +kernel
  obtain ⟨⟨run, log⟩, executed, two⟩ := Option.map_eq_some_iff.mp completed
  have reached := Transition.Machine.exec_reachable executed
  have enough : budget smallConfig .root + 2 *
      (smallConfig.task.sites.map (budget smallConfig)).sum ≤ 1323 := by decide +kernel
  exact ⟨log, run, reached, two, tasks_fit rfl reached (by rw [two]; exact enough) _⟩

theorem Step.panics {capacity : Nat} (moved : Step config run action events next)
    (used : Used config capacity 0 ⟨run.bump, allocatedIn log⟩) :
    ∀ panic, .panicked panic ∈ events → panic = outOfBumpMemory := by
  have fresh : Used config capacity 0 ⟨run.bump, []⟩ :=
    ⟨used.placed, used.bounded, Nat.zero_le _⟩
  intro panic member
  cases moved with
  | rootFailed entered refused =>
      simp only [List.mem_singleton, TaskEvent.panicked.injEq] at member
      exact member ▸ fresh.refused refused
  | @pollFailed fut answers raised current refused =>
      have outcome := (used_rule config capacity 0).fut 0 fut answers ⟨run.bump, []⟩ fresh
      rw [refused] at outcome
      simp only [List.mem_singleton, TaskEvent.panicked.injEq] at member
      exact member.trans outcome
  | @polled fut after answers left allocs current granted =>
      cases finished : after.isDone <;> simp [finished] at member
  | rooted | began | dropped => simp at member

theorem reachable_panics {bump : Bump} (unused : bump.offset = 0)
    (reached : Reachable (machine config) (start bump) log run) :
    ∀ panic, .panicked panic ∈ log → panic = outOfBumpMemory := by
  apply reached.invariant (fun log _ => ∀ panic, .panicked panic ∈ log → panic = outOfBumpMemory)
  · simp
  · intro log events run next action reached earlier _ moved panic member
    rcases List.mem_append.mp member with before | now
    · exact earlier panic before
    · exact (step_cases moved).panics (reachable_used unused reached) panic now

/-- The bytes of all objects of a session that gets through all of its startup. -/
def sessionSize (config : TaskConfig) : Nat := (config.task.sites.map (size config)).sum

theorem grown_gains (config : TaskConfig) (capacity : Nat) :
    JobTree.Gains (alloc config) (size config)
      (fun amount allocs => Used config capacity 0 allocs ∧ amount ≤ allocs.bump.offset) := by
  rintro amount site allocs next ⟨used, grown⟩ granted
  have fresh : Used config capacity allocs.bump.offset ⟨allocs.bump, []⟩ :=
    ⟨used.placed, used.bounded, by simp⟩
  refine ⟨used.alloc granted, ?_⟩
  obtain ⟨address, bump, success, rfl⟩ := alloc_cases granted
  have again : alloc config site ⟨allocs.bump, []⟩ = .ok ⟨bump, [site]⟩ := by
    simp only [alloc, success, List.nil_append]
  have covers := (fresh.alloc again).covers
  simp only [List.map_cons, List.map_nil, List.sum_cons, List.sum_nil] at covers
  dsimp only
  omega

/-- A run that ends in a panic after no more than so many sessions. -/
def Exhausts (config : TaskConfig) (bump : Bump) (sessions : Nat) : Prop :=
  ∃ log run, Reachable (machine config) (start bump) log run ∧
    .panicked outOfBumpMemory ∈ log ∧ run.sessions ≤ sessions

/-- One more session, which is let through to its last box and then dropped. -/
theorem session_grows {bump : Bump} (unused : bump.offset = 0)
    (reached : Reachable (machine config) (start bump) log run) (running : run.status = .running)
    (free : run.session = none) :
    Exhausts config bump (run.sessions + 1) ∨
    ∃ later last, Reachable (machine config) (start bump) later last ∧ last.status = .running ∧
      last.session = none ∧ last.sessions = run.sessions + 1 ∧
      sessionSize config + run.bump.offset ≤ last.bump.offset := by
  have begun : (machine config).step run .begin = some
      ({ run with session := some (.fresh config.task), sessions := run.sessions + 1 },
        [.began]) := by
    simp [machine, step, running, free]
  have opened := Transition.Reaches.step reached trivial begun
  have used := reachable_used unused reached
  have fresh : Used config bump.capacity 0 ⟨run.bump, []⟩ :=
    ⟨used.placed, used.bounded, Nat.zero_le _⟩
  have outcome := (grown_gains config bump.capacity).job config.task [] run.bump.offset
    ⟨run.bump, []⟩ ⟨fresh, Nat.le_refl _⟩
  rw [List.append_nil] at outcome
  cases polled : config.task.poll (alloc config) config.task.opening ⟨run.bump, []⟩ with
  | error panic =>
      have failed : (machine config).step
          { run with session := some (.fresh config.task), sessions := run.sessions + 1 }
          (.poll config.task.opening) = some
          (⟨run.bump, .panicked, none, run.sessions + 1⟩, [.panicked panic]) := by
        simp [machine, step, poll, Fut.poll, polled, fail]
      have reached_panic := Transition.Reaches.step opened trivial failed
      have raised := reachable_panics unused reached_panic panic (by simp)
      subst raised
      exact .inl ⟨_, _, reached_panic, by simp, Nat.le_refl _⟩
  | ok result =>
      obtain ⟨after, left, allocs⟩ := result
      rw [polled] at outcome
      obtain ⟨suspended, _, _, grown⟩ := outcome
      have granted : (machine config).step
          { run with session := some (.fresh config.task), sessions := run.sessions + 1 }
          (.poll config.task.opening) = some
          (⟨allocs.bump, run.status, some after, run.sessions + 1⟩,
            allocs.sites.map .allocated) := by
        simp [machine, step, poll, Fut.poll, polled, suspended]
      have dropped : (machine config).step
          ⟨allocs.bump, run.status, some after, run.sessions + 1⟩ .drop = some
          (⟨allocs.bump, run.status, none, run.sessions + 1⟩, [.ended]) := rfl
      have ended := Transition.Reaches.step (.step opened trivial granted) trivial dropped
      refine .inr ⟨_, _, ended, running, rfl, rfl, ?_⟩
      rw [JobTree.Job.cost_eq] at grown
      exact grown

/-- So many sessions either panic, or use up the bytes of all of them. -/
theorem sessions_grow {bump : Bump} (unused : bump.offset = 0) (sessions : Nat) :
    Exhausts config bump sessions ∨
    ∃ log run, Reachable (machine config) (start bump) log run ∧ run.status = .running ∧
      run.session = none ∧ run.sessions = sessions ∧
      sessions * sessionSize config ≤ run.bump.offset := by
  induction sessions with
  | zero =>
      cases granted : alloc config .root ⟨bump, []⟩ with
      | error panic =>
          have failed : (machine config).step (start bump) .root = some
              (⟨bump, .panicked, none, 0⟩, [.panicked panic]) := by
            simp [machine, step, start, granted, fail]
          have reached : Reachable (machine config) (start bump) _ _ := .single trivial failed
          have raised := reachable_panics unused reached panic (by simp)
          subst raised
          exact .inl ⟨_, _, reached, by simp, Nat.le_refl _⟩
      | ok allocs =>
          have rooted : (machine config).step (start bump) .root = some
              (⟨allocs.bump, .running, none, 0⟩, [.allocated .root]) := by
            simp [machine, step, start, granted]
          exact .inr ⟨_, _, .single trivial rooted, rfl, rfl, rfl, by simp⟩
  | succ sessions ih =>
      rcases ih with ⟨log, run, reached, member, fewer⟩ |
        ⟨log, run, reached, running, free, same, used⟩
      · exact .inl ⟨log, run, reached, member, Nat.le_succ_of_le fewer⟩
      · rcases session_grows unused reached running free with exhausted | ⟨later, last, more⟩
        · rw [same] at exhausted
          exact .inl exhausted
        · obtain ⟨reached, running, free, counted, grown⟩ := more
          refine .inr ⟨later, last, reached, running, free, by rw [counted, same], ?_⟩
          rw [Nat.succ_mul]
          omega

/-- Nothing a session allocates is given back before the run ends: the objects of all
sessions together fit into the bump, or one of them panics; and so some driver that keeps
running the task again makes it panic, after a number of sessions that the bump bounds. -/
theorem restarts_exhaust {bump : Bump} (unused : bump.offset = 0) :
    (∀ log run, Reachable (machine config) (start bump) log run →
      ((allocatedIn log).map (size config)).sum ≤ bump.capacity ∧
      ∀ panic, .panicked panic ∈ log → panic = outOfBumpMemory) ∧
    (0 < sessionSize config →
      ∃ log run, Reachable (machine config) (start bump) log run ∧
        .panicked outOfBumpMemory ∈ log ∧
        run.sessions ≤ bump.capacity / sessionSize config + 1) := by
  constructor
  · intro log run reached
    have used := reachable_used unused reached
    have covers := used.covers
    have bounded := used.bounded
    simp only [Nat.zero_add] at covers
    exact ⟨Nat.le_trans covers bounded, reachable_panics unused reached⟩
  · intro sized
    rcases sessions_grow unused (bump.capacity / sessionSize config + 1) with
      exhausted | ⟨log, run, reached, _, _, _, used⟩
    · exact exhausted
    · have bounded : run.bump.offset ≤ bump.capacity := (reachable_used unused reached).bounded
      have more := Nat.lt_succ_self (bump.capacity / sessionSize config)
      have beyond := Nat.lt_mul_of_div_lt more sized
      simp only [Nat.succ_eq_add_one] at beyond
      omega

/-- A bump that one session fits into, but no two of them. -/
theorem restarts_exhaust_second :
    ∃ log run, Reachable (machine smallConfig) (start ⟨64, 384, 0⟩) log run ∧
      .panicked outOfBumpMemory ∈ log ∧ run.sessions ≤ 384 / sessionSize smallConfig + 1 := by
  have unused : (⟨64, 384, 0⟩ : Bump).offset = 0 := rfl
  have sized : 0 < sessionSize smallConfig := by decide +kernel
  exact (restarts_exhaust unused).2 sized

/-- That bound is two. -/
example : 384 / sessionSize smallConfig + 1 = 2 := by decide +kernel

end TaskRun

end RsMatterStack
