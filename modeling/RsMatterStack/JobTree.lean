import Mathlib.Algebra.GroupWithZero.Nat
import Mathlib.Tactic.Common

set_option autoImplicit false

/-! Trees of async functions that allocate the futures of their children and then select
over them, polled again and again, and a rule for what polling them allocates. -/

namespace JobTree

/-- What a future from outside says when it is polled. -/
inductive Answer
  | pending
  | ok
  | failed
deriving DecidableEq, Repr

/-- What an async function does before it allocates. -/
inductive Gate
  | «open»
  /-- A call that may fail, but never suspends. -/
  | check
  | await
deriving DecidableEq, Repr

mutual

/-- An async function: one from outside that allocates nothing, or one that passes its
gate, allocates the futures of its children in order, and selects over them. -/
inductive Job (Site : Type)
  | leaf
  | node (gate : Gate) (children : Jobs Site)

/-- Children with the site that allocates their future; the others are pinned on the spot. -/
inductive Jobs (Site : Type)
  | nil
  | cons (site : Option Site) (job : Job Site) (rest : Jobs Site)

end

mutual

/-- A future, between two of its polls. -/
inductive Fut (Site : Type)
  | fresh (job : Job Site)
  /-- Suspended at its gate. -/
  | waiting (children : Jobs Site)
  | selecting (futs : Futs Site)
  | done

inductive Futs (Site : Type)
  | nil
  | cons (fut : Fut Site) (rest : Futs Site)

end

/-- The next answer; without one, whatever is asked stays pending. -/
def ask : List Answer → Answer × List Answer
  | [] => (.pending, [])
  | answer :: rest => (answer, rest)

def Gate.pass (gate : Gate) (answers : List Answer) : Answer × List Answer :=
  match gate with
  | «open» => (.ok, answers)
  | check =>
      match ask answers with
      | (.failed, rest) => (.failed, rest)
      | (_, rest) => (.ok, rest)
  | await => ask answers

variable {Site World Fault : Type}

/-- A `select` whose result is in hand drops its futures. -/
def Fut.selected : Option (Futs Site) → Fut Site
  | none => .done
  | some futs => .selecting futs

def Fut.isDone : Fut Site → Bool
  | done => true
  | _ => false

section

variable (alloc : Site → World → Except Fault World)

def Jobs.allocate : Jobs Site → World → Except Fault World
  | nil, world => .ok world
  | cons none _ rest, world => rest.allocate world
  | cons (some site) _ rest, world =>
      match alloc site world with
      | .error fault => .error fault
      | .ok next => rest.allocate next

mutual

/-- The first poll of a future. -/
def Job.poll : Job Site → List Answer → World → Except Fault (Fut Site × List Answer × World)
  | .leaf, answers, world =>
      match ask answers with
      | (.pending, rest) => .ok (.fresh .leaf, rest, world)
      | (_, rest) => .ok (.done, rest, world)
  | .node gate children, answers, world =>
      match gate.pass answers with
      | (.pending, rest) => .ok (.waiting children, rest, world)
      | (.failed, rest) => .ok (.done, rest, world)
      | (.ok, rest) =>
          match children.allocate alloc world with
          | .error fault => .error fault
          | .ok next =>
              match Jobs.poll children rest next with
              | .error fault => .error fault
              | .ok (futs, left, last) => .ok (.selected futs, left, last)

/-- Polled from left to right, until one of them is ready. -/
def Jobs.poll : Jobs Site → List Answer → World →
    Except Fault (Option (Futs Site) × List Answer × World)
  | .nil, answers, world => .ok (some .nil, answers, world)
  | .cons _ job rest, answers, world =>
      match Job.poll job answers world with
      | .error fault => .error fault
      | .ok (fut, left, next) =>
          if fut.isDone then .ok (none, left, next)
          else match Jobs.poll rest left next with
            | .error fault => .error fault
            | .ok (futs, later, last) => .ok (futs.map (.cons fut), later, last)

end

/-- What follows a passed gate. -/
def Jobs.start (children : Jobs Site) (answers : List Answer) (world : World) :
    Except Fault (Fut Site × List Answer × World) :=
  Job.poll alloc (.node .open children) answers world

mutual

def Fut.poll : Fut Site → List Answer → World → Except Fault (Fut Site × List Answer × World)
  | .fresh job, answers, world => job.poll alloc answers world
  | .waiting children, answers, world =>
      match ask answers with
      | (.pending, rest) => .ok (.waiting children, rest, world)
      | (.failed, rest) => .ok (.done, rest, world)
      | (.ok, rest) => children.start alloc rest world
  | .selecting futs, answers, world =>
      match Futs.poll futs answers world with
      | .error fault => .error fault
      | .ok (rest, left, next) => .ok (.selected rest, left, next)
  | .done, answers, world => .ok (.done, answers, world)

def Futs.poll : Futs Site → List Answer → World →
    Except Fault (Option (Futs Site) × List Answer × World)
  | .nil, answers, world => .ok (some .nil, answers, world)
  | .cons fut rest, answers, world =>
      match Fut.poll fut answers world with
      | .error fault => .error fault
      | .ok (after, left, next) =>
          if after.isDone then .ok (none, left, next)
          else match Futs.poll rest left next with
            | .error fault => .error fault
            | .ok (futs, later, last) => .ok (futs.map (.cons after), later, last)

end

end

def Jobs.ownSites : Jobs Site → List Site
  | nil => []
  | cons site _ rest => site.toList ++ rest.ownSites

mutual

/-- All sites of a tree. -/
def Job.sites : Job Site → List Site
  | .leaf => []
  | .node _ children => children.ownSites ++ Jobs.innerSites children

def Jobs.innerSites : Jobs Site → List Site
  | .nil => []
  | .cons _ job rest => Job.sites job ++ Jobs.innerSites rest

end

section

variable (weight : Site → Nat)

/-- The weight of the sites that a function allocates its children at. -/
def Jobs.own : Jobs Site → Nat
  | nil => 0
  | cons site _ rest => (site.map weight).getD 0 + rest.own

mutual

/-- The weight of all sites of a tree. -/
def Job.cost : Job Site → Nat
  | .leaf => 0
  | .node _ children => children.own weight + Jobs.inner children

def Jobs.inner : Jobs Site → Nat
  | .nil => 0
  | .cons _ job rest => Job.cost job + Jobs.inner rest

end

mutual

/-- The weight of the sites that a future has not come to yet. -/
def Fut.left : Fut Site → Nat
  | .fresh job => job.cost weight
  | .waiting children => children.own weight + children.inner weight
  | .selecting futs => Futs.left futs
  | .done => 0

def Futs.left : Futs Site → Nat
  | .nil => 0
  | .cons fut rest => Fut.left fut + Futs.left rest

end

end

theorem Jobs.own_eq (weight : Site → Nat) :
    ∀ children : Jobs Site, children.own weight = (children.ownSites.map weight).sum
  | .nil => rfl
  | .cons none _ rest => by simpa [own, ownSites] using rest.own_eq weight
  | .cons (some site) _ rest => by simp [own, ownSites, rest.own_eq weight]

mutual

theorem Job.cost_eq (weight : Site → Nat) :
    ∀ job : Job Site, job.cost weight = (job.sites.map weight).sum
  | .leaf => rfl
  | .node _ children => by
      simp [Job.cost, Job.sites, children.own_eq weight, Jobs.inner_eq weight children]

theorem Jobs.inner_eq (weight : Site → Nat) :
    ∀ children : Jobs Site, children.inner weight = (children.innerSites.map weight).sum
  | .nil => rfl
  | .cons _ job rest => by
      simp [Jobs.inner, Jobs.innerSites, Job.cost_eq weight job, Jobs.inner_eq weight rest]

end

/-- One allocation takes its weight out of what `Holds` still allows for, or fails as
`Fails` says. -/
structure Rule (alloc : Site → World → Except Fault World) (weight : Site → Nat)
    (Holds : Nat → World → Prop) (Fails : Fault → Prop) : Prop where
  granted : ∀ amount site world next, Holds (weight site + amount) world →
    alloc site world = .ok next → Holds amount next
  refused : ∀ amount site world fault, Holds (weight site + amount) world →
    alloc site world = .error fault → Fails fault
  less : ∀ amount more world, amount ≤ more → Holds more world → Holds amount world

/-- What a poll comes to, with the weight that is left to its result. -/
def Outcome {Result : Type} (Holds : Nat → World → Prop) (Fails : Fault → Prop)
    (left : Result → Nat) : Except Fault (Result × List Answer × World) → Prop
  | .ok (result, _, world) => Holds (left result) world
  | .error fault => Fails fault

section

variable {alloc : Site → World → Except Fault World} {weight : Site → Nat}
  {Holds : Nat → World → Prop} {Fails : Fault → Prop}

theorem Rule.allocateAll (rule : Rule alloc weight Holds Fails) (extra : Nat) :
    ∀ (children : Jobs Site) (world : World), Holds (children.own weight + extra) world →
      match children.allocate alloc world with
      | .ok next => Holds extra next
      | .error fault => Fails fault
  | .nil, world, holds => by simpa [Jobs.allocate, Jobs.own] using holds
  | .cons none job rest, world, holds => by
      simp only [Jobs.own, Option.map_none, Option.getD_none, Nat.zero_add] at holds
      exact rule.allocateAll extra rest world holds
  | .cons (some site) job rest, world, holds => by
      simp only [Jobs.own, Option.map_some, Option.getD_some, Nat.add_assoc] at holds
      simp only [Jobs.allocate]
      cases granted : alloc site world with
      | error fault => exact rule.refused _ _ _ _ holds granted
      | ok next => exact rule.allocateAll extra rest next (rule.granted _ _ _ _ holds granted)

/-- The weight left to the futures of a `select`. -/
def selectedLeft (weight : Site → Nat) (extra : Nat) (futs : Option (Futs Site)) : Nat :=
  (Fut.selected futs).left weight + extra

mutual

theorem Rule.job (rule : Rule alloc weight Holds Fails) (extra : Nat) :
    ∀ (job : Job Site) (answers : List Answer) (world : World),
      Holds (job.cost weight + extra) world →
      Outcome Holds Fails (fun fut => fut.left weight + extra) (job.poll alloc answers world)
  | .leaf, answers, world, holds => by
      simp only [Job.poll]
      split
      · exact holds
      · exact holds
  | .node gate children, answers, world, holds => by
      simp only [Job.cost] at holds
      simp only [Job.poll]
      split
      · exact holds
      · exact rule.less _ _ _ (by simp only [Fut.left]; omega) holds
      · rename_i rest passed
        rw [Nat.add_assoc] at holds
        have allocated := rule.allocateAll _ children world holds
        split
        · rename_i fault failed
          rw [failed] at allocated
          exact allocated
        · rename_i next granted
          rw [granted] at allocated
          have polled := rule.jobs extra children rest next allocated
          split
          · rename_i fault failed
            rw [failed] at polled
            exact polled
          · rename_i futs left last succeeded
            rw [succeeded] at polled
            exact polled

theorem Rule.jobs (rule : Rule alloc weight Holds Fails) (extra : Nat) :
    ∀ (children : Jobs Site) (answers : List Answer) (world : World),
      Holds (children.inner weight + extra) world →
      Outcome Holds Fails (selectedLeft weight extra) (children.poll alloc answers world)
  | .nil, answers, world, holds => holds
  | .cons site job rest, answers, world, holds => by
      simp only [Jobs.inner, Nat.add_assoc] at holds
      have first := rule.job (rest.inner weight + extra) job answers world holds
      simp only [Jobs.poll]
      split
      · rename_i fault failed
        rw [failed] at first
        exact first
      · rename_i fut left next polled
        rw [polled] at first
        have kept : Holds (fut.left weight + (rest.inner weight + extra)) next := first
        split
        · exact rule.less _ _ _ (by simp only [selectedLeft, Fut.selected, Fut.left]; omega) kept
        · have regrouped : Holds (rest.inner weight + (fut.left weight + extra)) next :=
            rule.less _ _ _ (by omega) kept
          have others := rule.jobs (fut.left weight + extra) rest left next regrouped
          split
          · rename_i fault failed
            rw [failed] at others
            exact others
          · rename_i futs later last succeeded
            rw [succeeded] at others
            apply rule.less _ _ _ _ others
            cases futs with
            | none => simp only [selectedLeft, Option.map_none, Fut.selected, Fut.left]; omega
            | some futs =>
                simp only [selectedLeft, Option.map_some, Fut.selected, Fut.left, Futs.left]
                omega

end

mutual

/-- What every allocation keeps, every poll of a future keeps, at the cost of the sites it
has come to. -/
theorem Rule.fut (rule : Rule alloc weight Holds Fails) (extra : Nat) :
    ∀ (fut : Fut Site) (answers : List Answer) (world : World),
      Holds (fut.left weight + extra) world →
      Outcome Holds Fails (fun after => after.left weight + extra) (fut.poll alloc answers world)
  | .fresh job, answers, world, holds => rule.job extra job answers world holds
  | .waiting children, answers, world, holds => by
      simp only [Fut.poll]
      split
      · exact holds
      · exact rule.less _ _ _ (by simp only [Fut.left]; omega) holds
      · exact rule.job extra (.node .open children) _ world holds
  | .selecting futs, answers, world, holds => by
      have polled := rule.futs extra futs answers world holds
      simp only [Fut.poll]
      split
      · rename_i fault failed
        rw [failed] at polled
        exact polled
      · rename_i rest left next succeeded
        rw [succeeded] at polled
        exact polled
  | .done, answers, world, holds => holds

theorem Rule.futs (rule : Rule alloc weight Holds Fails) (extra : Nat) :
    ∀ (futs : Futs Site) (answers : List Answer) (world : World),
      Holds (futs.left weight + extra) world →
      Outcome Holds Fails (selectedLeft weight extra) (futs.poll alloc answers world)
  | .nil, answers, world, holds => holds
  | .cons fut rest, answers, world, holds => by
      simp only [Futs.left, Nat.add_assoc] at holds
      have first := rule.fut (rest.left weight + extra) fut answers world holds
      simp only [Futs.poll]
      split
      · rename_i fault failed
        rw [failed] at first
        exact first
      · rename_i after left next polled
        rw [polled] at first
        have kept : Holds (after.left weight + (rest.left weight + extra)) next := first
        split
        · exact rule.less _ _ _ (by simp only [selectedLeft, Fut.selected, Fut.left]; omega) kept
        · have regrouped : Holds (rest.left weight + (after.left weight + extra)) next :=
            rule.less _ _ _ (by omega) kept
          have others := rule.futs (after.left weight + extra) rest left next regrouped
          split
          · rename_i fault failed
            rw [failed] at others
            exact others
          · rename_i futs later last succeeded
            rw [succeeded] at others
            apply rule.less _ _ _ _ others
            cases futs with
            | none => simp only [selectedLeft, Option.map_none, Fut.selected, Fut.left]; omega
            | some futs =>
                simp only [selectedLeft, Option.map_some, Fut.selected, Fut.left, Futs.left]
                omega

end

mutual

/-- The answers with which a function passes every gate, and its leaves are suspended. -/
def Job.opening : Job Site → List Answer
  | .leaf => [.pending]
  | .node .open children => Jobs.opening children
  | .node .check children | .node .await children => .ok :: Jobs.opening children

def Jobs.opening : Jobs Site → List Answer
  | .nil => []
  | .cons _ job rest => Job.opening job ++ Jobs.opening rest

end

theorem Gate.pass_opening (gate : Gate) (children : Jobs Site) (answers : List Answer) :
    gate.pass ((Job.node gate children).opening ++ answers) =
      (.ok, children.opening ++ answers) := by
  cases gate with
  | «open» => rfl
  | check | await => rfl

/-- One allocation adds its weight to what `Holds` counts. -/
def Gains (alloc : Site → World → Except Fault World) (weight : Site → Nat)
    (Holds : Nat → World → Prop) : Prop :=
  ∀ amount site world next, Holds amount world → alloc site world = .ok next →
    Holds (weight site + amount) next

/-- A poll with a given rest of the answers that leaves its future suspended. -/
def Opened {Result : Type} (Holds : Nat → World → Prop) (amount : Nat) (rest : List Answer)
    (suspended : Result → Prop) : Except Fault (Result × List Answer × World) → Prop
  | .ok (result, answers, world) => suspended result ∧ answers = rest ∧ Holds amount world
  | .error _ => True

theorem Gains.allocateAll (gains : Gains alloc weight Holds) :
    ∀ (children : Jobs Site) (amount : Nat) (world next : World), Holds amount world →
      children.allocate alloc world = .ok next → Holds (children.own weight + amount) next
  | .nil, amount, world, next, holds, allocated => by
      cases allocated
      simpa only [Jobs.own, Nat.zero_add] using holds
  | .cons none job rest, amount, world, next, holds, allocated => by
      simpa only [Jobs.own, Option.map_none, Option.getD_none, Nat.zero_add] using
        gains.allocateAll rest amount world next holds allocated
  | .cons (some site) job rest, amount, world, next, holds, allocated => by
      simp only [Jobs.allocate] at allocated
      split at allocated
      · cases allocated
      · rename_i middle granted
        have later := gains.allocateAll rest _ middle next (gains _ _ _ _ holds granted) allocated
        have regrouped : rest.own weight + (weight site + amount) =
            weight site + rest.own weight + amount := by omega
        rw [regrouped] at later
        simpa only [Jobs.own, Option.map_some, Option.getD_some] using later

mutual

/-- A function that is let through allocates all of its tree, or fails. -/
theorem Gains.job (gains : Gains alloc weight Holds) :
    ∀ (job : Job Site) (rest : List Answer) (amount : Nat) (world : World), Holds amount world →
      Opened Holds (job.cost weight + amount) rest (fun fut => fut.isDone = false)
        (job.poll alloc (job.opening ++ rest) world)
  | .leaf, rest, amount, world, holds => by
      simpa [Job.poll, Job.opening, ask, Opened, Job.cost, Fut.isDone] using holds
  | .node gate children, rest, amount, world, holds => by
      simp only [Job.poll, Gate.pass_opening]
      split
      · trivial
      · rename_i next allocated
        have all := gains.allocateAll children amount world next holds allocated
        have polled := gains.jobs children rest _ next all
        split
        · trivial
        · rename_i futs left last succeeded
          rw [succeeded] at polled
          obtain ⟨suspended, same, counted⟩ := polled
          obtain ⟨futs, rfl⟩ := Option.isSome_iff_exists.mp suspended
          have regrouped : children.inner weight + (children.own weight + amount) =
              (Job.node gate children).cost weight + amount := by
            simp only [Job.cost]
            omega
          rw [regrouped] at counted
          exact ⟨rfl, same, counted⟩

theorem Gains.jobs (gains : Gains alloc weight Holds) :
    ∀ (children : Jobs Site) (rest : List Answer) (amount : Nat) (world : World),
      Holds amount world →
      Opened Holds (children.inner weight + amount) rest (fun futs => futs.isSome = true)
        (children.poll alloc (children.opening ++ rest) world)
  | .nil, rest, amount, world, holds => by
      simpa [Jobs.poll, Jobs.opening, Opened, Jobs.inner] using holds
  | .cons site job others, rest, amount, world, holds => by
      have first := gains.job job (others.opening ++ rest) amount world holds
      simp only [Jobs.poll, Jobs.opening, List.append_assoc]
      split
      · trivial
      · rename_i fut left next polled
        rw [polled] at first
        obtain ⟨suspended, rfl, counted⟩ := first
        rw [if_neg (by simp [suspended])]
        have later := gains.jobs others rest _ next counted
        split
        · trivial
        · rename_i futs answers last succeeded
          rw [succeeded] at later
          obtain ⟨some_futs, same, total⟩ := later
          have regrouped : others.inner weight + (job.cost weight + amount) =
              (Jobs.cons site job others).inner weight + amount := by
            simp only [Jobs.inner]
            omega
          rw [regrouped] at total
          exact ⟨by simpa using some_futs, same, total⟩

end

end

mutual

/-- The tree with every future pinned on the spot. -/
def Job.pinned : Job Site → Job Empty
  | .leaf => .leaf
  | .node gate children => .node gate (Jobs.pinned children)

def Jobs.pinned : Jobs Site → Jobs Empty
  | .nil => .nil
  | .cons _ job rest => .cons none (Job.pinned job) (Jobs.pinned rest)

end

mutual

def Fut.pinned : Fut Site → Fut Empty
  | .fresh job => .fresh job.pinned
  | .waiting children => .waiting children.pinned
  | .selecting futs => .selecting (Futs.pinned futs)
  | .done => .done

def Futs.pinned : Futs Site → Futs Empty
  | .nil => .nil
  | .cons fut rest => .cons (Fut.pinned fut) (Futs.pinned rest)

end

/-- A tree without a site never calls its allocator. -/
def unallocated (site : Empty) : Unit → Except Empty Unit := site.elim

@[simp] theorem Fut.pinned_isDone (fut : Fut Site) : fut.pinned.isDone = fut.isDone := by
  cases fut <;> rfl

@[simp] theorem Fut.selected_pinned (futs : Option (Futs Site)) :
    (selected futs).pinned = selected (futs.map Futs.pinned) := by
  cases futs <;> rfl

theorem Jobs.allocate_pinned : ∀ children : Jobs Site,
    children.pinned.allocate unallocated () = .ok ()
  | .nil => rfl
  | .cons _ _ rest => by simpa only [pinned, allocate] using rest.allocate_pinned

section

variable {alloc : Site → World → Except Fault World}

mutual

theorem Job.poll_pinned : ∀ (job : Job Site) (answers left : List Answer) (world next : World)
    (after : Fut Site), job.poll alloc answers world = .ok (after, left, next) →
      job.pinned.poll unallocated answers () = .ok (after.pinned, left, ())
  | .leaf, answers, left, world, next, after, polled => by
      simp only [Job.poll] at polled
      simp only [Job.pinned, Job.poll]
      split at polled
      · cases polled
        simp only [Fut.pinned, Job.pinned]
      · cases polled
        simp only [Fut.pinned]
  | .node gate children, answers, left, world, next, after, polled => by
      simp only [Job.poll] at polled
      simp only [Job.pinned, Job.poll]
      split at polled
      · cases polled
        simp only [Fut.pinned]
      · cases polled
        simp only [Fut.pinned]
      · split at polled
        · cases polled
        · split at polled
          · cases polled
          · rename_i futs later last succeeded
            cases polled
            have same := Jobs.poll_pinned children _ _ _ _ _ succeeded
            simp only [children.allocate_pinned, same, Fut.selected_pinned]

theorem Jobs.poll_pinned : ∀ (children : Jobs Site) (answers left : List Answer)
    (world next : World) (futs : Option (Futs Site)),
      children.poll alloc answers world = .ok (futs, left, next) →
      children.pinned.poll unallocated answers () = .ok (futs.map Futs.pinned, left, ())
  | .nil, answers, left, world, next, futs, polled => by
      cases polled
      rfl
  | .cons site job rest, answers, left, world, next, futs, polled => by
      simp only [Jobs.poll] at polled
      split at polled
      · cases polled
      · rename_i fut middle between first
        have same := Job.poll_pinned job _ _ _ _ _ first
        simp only [Jobs.pinned, Jobs.poll, same, Fut.pinned_isDone]
        split at polled
        · rename_i finished
          cases polled
          simp only [finished, if_true, Option.map_none]
        · rename_i suspended
          split at polled
          · cases polled
          · rename_i others later last succeeded
            cases polled
            have after := Jobs.poll_pinned rest _ _ _ _ _ succeeded
            rw [if_neg suspended]
            cases others <;> simp [after, Futs.pinned]

end

mutual

/-- As long as no allocation fails, a future that allocates does at every poll what it does
with everything pinned on the spot. -/
theorem Fut.poll_pinned : ∀ (fut : Fut Site) (answers left : List Answer) (world next : World)
    (after : Fut Site), fut.poll alloc answers world = .ok (after, left, next) →
      fut.pinned.poll unallocated answers () = .ok (after.pinned, left, ())
  | .fresh job, answers, left, world, next, after, polled =>
      job.poll_pinned answers left world next after polled
  | .waiting children, answers, left, world, next, after, polled => by
      simp only [Fut.poll] at polled
      simp only [Fut.pinned, Fut.poll]
      split at polled
      · cases polled
        simp only [Fut.pinned]
      · cases polled
        simp only [Fut.pinned]
      · exact Job.poll_pinned (.node .open children) _ _ _ _ _ polled
  | .selecting futs, answers, left, world, next, after, polled => by
      simp only [Fut.poll] at polled
      split at polled
      · cases polled
      · rename_i rest later last succeeded
        cases polled
        have same := Futs.poll_pinned futs _ _ _ _ _ succeeded
        simp only [Fut.pinned, Fut.poll, same, Fut.selected_pinned]
  | .done, answers, left, world, next, after, polled => by
      cases polled
      rfl

theorem Futs.poll_pinned : ∀ (futs : Futs Site) (answers left : List Answer)
    (world next : World) (after : Option (Futs Site)),
      futs.poll alloc answers world = .ok (after, left, next) →
      futs.pinned.poll unallocated answers () = .ok (after.map Futs.pinned, left, ())
  | .nil, answers, left, world, next, after, polled => by
      cases polled
      rfl
  | .cons fut rest, answers, left, world, next, after, polled => by
      simp only [Futs.poll] at polled
      split at polled
      · cases polled
      · rename_i one middle between first
        have same := Fut.poll_pinned fut _ _ _ _ _ first
        simp only [Futs.pinned, Futs.poll, same, Fut.pinned_isDone]
        split at polled
        · rename_i finished
          cases polled
          simp only [finished, if_true, Option.map_none]
        · rename_i suspended
          split at polled
          · cases polled
          · rename_i others later last succeeded
            cases polled
            have kept := Futs.poll_pinned rest _ _ _ _ _ succeeded
            rw [if_neg suspended]
            cases others <;> simp [kept, Futs.pinned]

end

end

section

variable {Other : Type} {alloc : Site → World → Except Fault World}
  {renamed : Site → World → Except Other World} {rename : Fault → Other}

theorem Jobs.allocate_mapError
    (same : ∀ site world, renamed site world = (alloc site world).mapError rename) :
    ∀ (children : Jobs Site) (world : World),
      children.allocate renamed world = (children.allocate alloc world).mapError rename
  | .nil, world => rfl
  | .cons none _ rest, world => rest.allocate_mapError same world
  | .cons (some site) _ rest, world => by
      simp only [allocate, same site world]
      cases alloc site world with
      | error fault => rfl
      | ok next => exact rest.allocate_mapError same next

mutual

theorem Job.poll_mapError
    (same : ∀ site world, renamed site world = (alloc site world).mapError rename) :
    ∀ (job : Job Site) (answers : List Answer) (world : World),
      job.poll renamed answers world = (job.poll alloc answers world).mapError rename
  | .leaf, answers, world => by
      simp only [Job.poll]
      split <;> rfl
  | .node gate children, answers, world => by
      simp only [Job.poll, children.allocate_mapError same]
      split
      · rfl
      · rfl
      · cases children.allocate alloc world with
        | error fault => rfl
        | ok next =>
            simp only [Except.mapError, Jobs.poll_mapError same children]
            cases Jobs.poll alloc children _ next <;> rfl

theorem Jobs.poll_mapError
    (same : ∀ site world, renamed site world = (alloc site world).mapError rename) :
    ∀ (children : Jobs Site) (answers : List Answer) (world : World),
      children.poll renamed answers world = (children.poll alloc answers world).mapError rename
  | .nil, answers, world => rfl
  | .cons site job rest, answers, world => by
      simp only [Jobs.poll, Job.poll_mapError same job]
      cases Job.poll alloc job answers world with
      | error fault => rfl
      | ok polled =>
          obtain ⟨fut, left, next⟩ := polled
          simp only [Except.mapError, Jobs.poll_mapError same rest]
          split
          · rfl
          · cases Jobs.poll alloc rest left next <;> rfl

end

mutual

/-- How an allocator puts its faults does not matter to a poll. -/
theorem Fut.poll_mapError
    (same : ∀ site world, renamed site world = (alloc site world).mapError rename) :
    ∀ (fut : Fut Site) (answers : List Answer) (world : World),
      fut.poll renamed answers world = (fut.poll alloc answers world).mapError rename
  | .fresh job, answers, world => job.poll_mapError same answers world
  | .waiting children, answers, world => by
      simp only [Fut.poll]
      split
      · rfl
      · rfl
      · exact Job.poll_mapError same (.node .open children) _ world
  | .selecting futs, answers, world => by
      simp only [Fut.poll, Futs.poll_mapError same futs]
      cases Futs.poll alloc futs answers world <;> rfl
  | .done, answers, world => rfl

theorem Futs.poll_mapError
    (same : ∀ site world, renamed site world = (alloc site world).mapError rename) :
    ∀ (futs : Futs Site) (answers : List Answer) (world : World),
      futs.poll renamed answers world = (futs.poll alloc answers world).mapError rename
  | .nil, answers, world => rfl
  | .cons fut rest, answers, world => by
      simp only [Futs.poll, Fut.poll_mapError same fut]
      cases Fut.poll alloc fut answers world with
      | error fault => rfl
      | ok polled =>
          obtain ⟨after, left, next⟩ := polled
          simp only [Except.mapError, Futs.poll_mapError same rest]
          split
          · rfl
          · cases Futs.poll alloc rest left next <;> rfl

end

end

end JobTree
