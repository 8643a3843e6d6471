import RsMatterStack.Transition

set_option autoImplicit false

/-! One machine seen through another, and the moves of a machine that is left alone. -/

namespace Transition

section

variable {State Action Event Abstract Request Notice : Type}
  {machine : Machine State Action Event} {allowed : State → Action → Prop}
  {start state next : State} {action : Action} {log events : List Event}

theorem Reaches.single (permitted : allowed state action)
    (moved : machine.step state action = some (next, events)) :
    Reaches machine allowed state events next := by
  simpa only [List.nil_append] using Reaches.step .start permitted moved

/-- A machine whose every step is a run, of any length, of another one, seen through `view`
and `notice`, is such a run itself. The other machine's run up to the step may be used. -/
theorem Reaches.simulates {other : Machine Abstract Request Notice}
    {granted : Abstract → Request → Prop} (view : State → Abstract) (notice : Event → Option Notice)
    (reached : Reaches machine allowed start log state)
    (matched : ∀ log events state next action, Reaches machine allowed start log state →
      Reaches other granted (view start) (log.filterMap notice) (view state) →
      allowed state action → machine.step state action = some (next, events) →
      Reaches other granted (view state) (events.filterMap notice) (view next)) :
    Reaches other granted (view start) (log.filterMap notice) (view state) := by
  induction reached with
  | start => exact .start
  | step reached permitted moved ih =>
      rw [List.filterMap_append]
      exact ih.trans (matched _ _ _ _ _ reached ih permitted moved)

end

theorem everywhere_map {Event Image : Type} {Holds : List Image → Image → Prop}
    {image : Event → Image} {events : List Event} :
    Everywhere Holds (events.map image) ↔
      Everywhere (fun before event => Holds (before.map image) (image event)) events := by
  constructor
  · intro all before event after same
    exact all _ _ (after.map image) (by rw [same, List.map_append, List.map_cons])
  · intro all before event after same
    obtain ⟨earlier, rest, rfl, rfl, tail⟩ := List.map_eq_append_iff.mp same
    obtain ⟨last, later, rfl, rfl, rfl⟩ := List.map_eq_cons_iff.mp tail
    exact all earlier last later rfl

section

variable {State Action Event : Type}

/-- No internal action is possible. -/
def Machine.Settled (machine : Machine State Action Event) (internal : Action → Prop)
    (state : State) : Prop :=
  ∀ action, internal action → machine.step state action = none

/-- While `Holds`, every internal action makes `rank` smaller, and keeps `Holds`. -/
structure Ranking (machine : Machine State Action Event) (internal : Action → Prop)
    (Holds : State → Prop) (rank : State → Nat) : Prop where
  keeps : ∀ state next action events, Holds state → internal action →
    machine.step state action = some (next, events) → Holds next
  decreases : ∀ state next action events, Holds state → internal action →
    machine.step state action = some (next, events) → rank next < rank state

variable {machine : Machine State Action Event} {internal : Action → Prop}
  {Holds : State → Prop} {rank : State → Nat} {start last : State} {log : List Event}
  {actions : List Action}

theorem Machine.exec_cons {action : Action} {rest : List Action} :
    machine.exec start (action :: rest) = some (last, log) ↔
      ∃ next events later, machine.step start action = some (next, events) ∧
        machine.exec next rest = some (last, later) ∧ log = events ++ later := by
  simp only [Machine.exec, Machine.run, if_true]
  cases moved : machine.step start action with
  | none => simp
  | some result =>
      obtain ⟨next, events⟩ := result
      dsimp only
      cases followed : machine.run (fun _ _ => True) next rest with
      | none =>
          simp only [reduceCtorEq, Option.some.injEq, Prod.mk.injEq, false_iff]
          rintro ⟨_, _, later, ⟨rfl, rfl⟩, same, _⟩
          cases followed.symm.trans same
      | some result =>
          obtain ⟨state, later⟩ := result
          simp only [Option.some.injEq, Prod.mk.injEq]
          constructor
          · rintro ⟨rfl, rfl⟩
            exact ⟨next, events, later, ⟨rfl, rfl⟩, followed, rfl⟩
          · rintro ⟨_, _, rest, ⟨rfl, rfl⟩, same, rfl⟩
            cases followed.symm.trans same
            exact ⟨rfl, rfl⟩

/-- The machine that refuses all other steps. -/
def Machine.restrict (machine : Machine State Action Event) (allowed : State → Action → Prop)
    [∀ state action, Decidable (allowed state action)] : Machine State Action Event :=
  ⟨fun state action => if allowed state action then machine.step state action else none⟩

theorem Machine.run_eq_exec {allowed : State → Action → Prop}
    [∀ state action, Decidable (allowed state action)] :
    machine.run allowed start actions = (machine.restrict allowed).exec start actions := by
  induction actions generalizing start with
  | nil => rfl
  | cons action rest ih =>
      have step : (machine.restrict allowed).step start action =
          if allowed start action then machine.step start action else none := rfl
      simp only [Machine.exec, Machine.run, if_true, step]
      by_cases permitted : allowed start action
      · simp only [permitted, if_true]
        cases machine.step start action with
        | none => rfl
        | some result =>
            simp only [ih]
            rfl
      · simp only [permitted, if_false]

/-- Where every step is the other machine's, seen through `view` and `notice`, the same
actions lead through both machines alike: to their ends, or to the first that is impossible. -/
theorem Machine.exec_agrees {Abstract Notice : Type} {other : Machine Abstract Action Notice}
    (view : State → Abstract) (notice : Event → Option Notice)
    (Known : List Action → State → Prop) (known : Known actions start)
    (agrees : ∀ action rest state, Known (action :: rest) state →
      (machine.step state action).map (fun (next, events) => (view next, events.filterMap notice)) =
        other.step (view state) action)
    (keeps : ∀ action rest state next events, Known (action :: rest) state →
      machine.step state action = some (next, events) → Known rest next) :
    (machine.exec start actions).map (fun (last, log) => (view last, log.filterMap notice)) =
      other.exec (view start) actions := by
  induction actions generalizing start with
  | nil => rfl
  | cons action rest ih =>
      have alike := agrees action rest start known
      simp only [Machine.exec, Machine.run, if_true, ← alike]
      cases moved : machine.step start action with
      | none => rfl
      | some result =>
          obtain ⟨next, events⟩ := result
          have later := ih (keeps _ _ _ _ _ known moved)
          simp only [Machine.exec] at later
          simp only [Option.map_some, ← later]
          cases machine.run (fun _ _ => True) next rest with
          | none => rfl
          | some result => simp only [Option.map_some, List.filterMap_append]

/-- What each step costs is paid out of the rank, and what it gains is added to it: a run
costs no more than the rank it starts with and all its gains. -/
theorem Machine.spent {allowed : Action → Prop} {costs gains : Action → Bool}
    (paid : ∀ state next action events, Holds state → allowed action →
      machine.step state action = some (next, events) →
      Holds next ∧ rank next + (costs action).toNat ≤ rank state + (gains action).toNat)
    (holds : Holds start) (inside : ∀ action ∈ actions, allowed action)
    (executed : machine.exec start actions = some (last, log)) :
    Holds last ∧ actions.countP costs + rank last ≤ rank start + actions.countP gains := by
  induction actions generalizing start log with
  | nil =>
      simp only [Machine.exec, Machine.run, Option.some.injEq, Prod.mk.injEq] at executed
      obtain ⟨rfl, rfl⟩ := executed
      exact ⟨holds, by simp⟩
  | cons action rest ih =>
      obtain ⟨next, events, later, moved, followed, _⟩ := Machine.exec_cons.mp executed
      obtain ⟨still, price⟩ := paid _ _ _ _ holds (inside action List.mem_cons_self) moved
      obtain ⟨kept, bound⟩ :=
        ih still (fun other member => inside other (List.mem_cons_of_mem action member)) followed
      refine ⟨kept, ?_⟩
      have cost (counts : Action → Bool) :
          (action :: rest).countP counts = (counts action).toNat + rest.countP counts := by
        cases now : counts action with
        | false => simp [now]
        | true =>
            rw [List.countP_cons_of_pos now]
            exact Nat.add_comm _ _
      rw [cost costs, cost gains]
      omega

/-- However internal actions are ordered, and whatever comes in between that keeps `Holds` and
does not raise the rank, there are no more of them than the rank. -/
theorem Ranking.counted [DecidablePred internal] {beside : Action → Prop}
    (ranking : Ranking machine internal Holds rank)
    (aside : ∀ state next action events, Holds state → beside action →
      machine.step state action = some (next, events) → Holds next ∧ rank next ≤ rank state)
    (holds : Holds start) (inside : ∀ action ∈ actions, internal action ∨ beside action)
    (executed : machine.exec start actions = some (last, log)) :
    Holds last ∧ actions.countP (internal ·) + rank last ≤ rank start := by
  have paid : ∀ state next action events, Holds state → internal action ∨ beside action →
      machine.step state action = some (next, events) →
      Holds next ∧ rank next + (decide (internal action)).toNat ≤ rank state + false.toNat := by
    intro state next action events now permitted moved
    by_cases inner : internal action
    · have less := ranking.decreases _ _ _ _ now inner moved
      exact ⟨ranking.keeps _ _ _ _ now inner moved, by simpa [inner] using Nat.succ_le_of_lt less⟩
    · have allowed := permitted.resolve_left inner
      obtain ⟨still, most⟩ := aside _ _ _ _ now allowed moved
      exact ⟨still, by simpa [inner] using most⟩
  simpa using Machine.spent paid holds inside executed

theorem Ranking.bounded (ranking : Ranking machine internal Holds rank) (holds : Holds start)
    (inside : ∀ action ∈ actions, internal action)
    (executed : machine.exec start actions = some (last, log)) :
    Holds last ∧ actions.length + rank last ≤ rank start := by
  classical
  have nothing : ∀ state next action events, Holds state → False →
      machine.step state action = some (next, events) → Holds next ∧ rank next ≤ rank state :=
    fun _ _ _ _ _ impossible => impossible.elim
  have counted := ranking.counted nothing holds
    (fun action member => Or.inl (inside action member)) executed
  rwa [List.countP_eq_length.mpr (fun action member => by simpa using inside action member)]
    at counted

/-- Internal actions alone lead to a state in which none is possible any more. -/
theorem Ranking.settles (ranking : Ranking machine internal Holds rank) (start : State)
    (holds : Holds start) :
    ∃ actions last log, (∀ action ∈ actions, internal action) ∧
      machine.exec start actions = some (last, log) ∧ machine.Settled internal last := by
  induction height : rank start using Nat.strongRecOn generalizing start with
  | _ height_start ih =>
      by_cases settled : machine.Settled internal start
      · exact ⟨[], start, [], by simp, rfl, settled⟩
      · simp only [Machine.Settled, not_forall] at settled
        obtain ⟨action, inside, possible⟩ := settled
        obtain ⟨⟨next, events⟩, moved⟩ := Option.ne_none_iff_exists'.mp possible
        have less := ranking.decreases _ _ _ _ holds inside moved
        obtain ⟨actions, last, later, others, executed, ended⟩ :=
          ih _ (height ▸ less) _ (ranking.keeps _ _ _ _ holds inside moved) rfl
        refine ⟨action :: actions, last, events ++ later, ?_, ?_, ended⟩
        · intro other member
          rcases List.mem_cons.mp member with rfl | member
          · exact inside
          · exact others other member
        · exact Machine.exec_cons.mpr ⟨next, events, later, moved, executed, rfl⟩

end

end Transition
