import RsMatterStack.ReseedAccounting

set_option autoImplicit false

/-! What a clone returns: it attempts to reseed before its first output, and goes on with
the copied PRNG only as long as every attempt fails. -/

namespace RsMatterStack

open Transition (Machine Reachable Everywhere)

namespace Ledger

variable {R Error : Type} {ledger : Ledger R Error} {attempts : List (Except Error R)}

/-- A clone is due to reseed until it has tried to. -/
def DueUntilTried (ledger : Ledger R Error) : Prop :=
  ledger.cloned = true → ledger.tries = [] → ledger.threshold ≤ ledger.spent

theorem DueUntilTried.requested (due : ledger.DueUntilTried)
    (follows : attempts ≠ [] ↔ ledger.threshold ≤ ledger.spent) (request : Request) :
    (ledger.requested attempts request).DueUntilTried := by
  obtain ⟨_, _, _, tries, cloned⟩ := ledger.attempted_fields attempts
  intro copied untried
  have untried : ledger.tries ++ attempts = [] := tries ▸ untried
  obtain ⟨before, now⟩ := List.append_eq_nil_iff.mp untried
  exact absurd now (follows.mpr (due (cloned ▸ copied) before))

theorem DueUntilTried.reseeded (tried : attempts ≠ []) (result : Except Error Unit) :
    (ledger.reseeded attempts result).DueUntilTried := by
  obtain ⟨_, _, _, tries, _⟩ := ledger.attempted_fields attempts
  intro _ untried
  have untried : ledger.tries ++ attempts = [] := by
    cases result <;> exact tries ▸ untried
  exact absurd (List.append_eq_nil_iff.mp untried).2 tried

end Ledger

namespace Fleet

variable {R Rsdr Error GenError : Type} [TryRng R GenError]
  {fleet next : Fleet R Rsdr Error} {action : RngAction Rsdr}
  {events log : List (RngEvent R Error GenError)}

theorem due_update {ledgers : Nat → Option (Ledger R Error)} {id : Nat} {ledger : Ledger R Error}
    (due : ∀ id ledger, ledgers id = some ledger → ledger.DueUntilTried)
    (written : ledger.DueUntilTried) :
    ∀ other found, Function.update ledgers id (some ledger) other = some found →
      found.DueUntilTried := by
  intro other found same
  by_cases here : other = id
  · subst here
    rw [Function.update_self, Option.some.injEq] at same
    exact same ▸ written
  · rw [Function.update_of_ne here] at same
    exact due other found same

theorem Step.dueUntilTried (moved : Step fleet action events next) (kept : Kept log fleet)
    (due : ∀ id ledger, ledgers log id = some ledger → ledger.DueUntilTried) :
    ∀ id ledger, ledgers (log ++ events) id = some ledger → ledger.DueUntilTried := by
  cases moved with
  | refused error outcomes =>
      rw [ledgers_concat]
      exact due
  | created rng outcomes free limit full =>
      rw [ledgers_concat, record]
      refine due_update due ?_
      intro copied
      cases copied
  | @requested id request rng prepared attempts held prepares =>
      obtain ⟨ledger, found, tracks, _⟩ := kept.ledger held
      rw [ledgers_concat, record, found]
      exact due_update due ((due id ledger found).requested (prepares.due_iff tracks).2 request)
  | @reseeded id rng after attempts result held reseeds =>
      obtain ⟨ledger, found, _, _⟩ := kept.ledger held
      have tried : attempts ≠ [] := by
        cases reseeds <;> exact List.cons_ne_nil _ _
      rw [ledgers_concat, record, found]
      exact due_update due (Ledger.DueUntilTried.reseeded tried result)
  | cloned held free =>
      obtain ⟨ledger, found, _, _⟩ := kept.ledger held
      rw [ledgers_concat, record, found]
      exact due_update due fun _ _ => Nat.le_refl ledger.threshold

theorem reachable_due [SeedableRng R Rsdr Error] (reached : Reachable machine empty log fleet) :
    ∀ id ledger, ledgers log id = some ledger → ledger.DueUntilTried := by
  refine reached.invariant
    (fun log _ => ∀ id ledger, ledgers log id = some ledger → ledger.DueUntilTried) ?_ ?_
  · intro id ledger found
    cases found
  · intro log events fleet action next reached due _ moved
    exact (step_cases moved).dueUntilTried (reachable_kept reached) due

/-- Every output of a clone comes after a reseed of it that succeeded. -/
def OnlyReseeded (before : List (RngEvent R Error GenError)) : RngEvent R Error GenError → Prop
  | .requested id attempts _ _ => ∀ ledger, ledgers before id = some ledger →
      ledger.cloned = true → seeds (ledger.tries ++ attempts) ≠ []
  | _ => True

/-- The output of the last of these requests, from this seed. -/
def Yields (seed : R) (requests : List Request) (output : Output GenError) : Prop :=
  (generateAll seed requests).1.getLast? = some output

/-- Every output of a clone comes after an attempt to reseed it, and is one of the PRNG of
its last reseed that succeeded; only while all attempts have failed, it is one of the copied
PRNG. -/
def ReseededUnlessFailed (before : List (RngEvent R Error GenError)) :
    RngEvent R Error GenError → Prop
  | .requested id attempts request output => ∀ ledger, ledgers before id = some ledger →
      ledger.cloned = true →
        let tries := ledger.tries ++ attempts
        let requests := (ledger.requested attempts request).current.requests
        (∃ seed, (seeds tries).getLast? = some seed ∧ Yields seed requests output) ∨
        (tries ≠ [] ∧ (∀ attempt ∈ tries, ∃ error, attempt = .error error) ∧
          Yields ledger.origin requests output)
  | _ => True

theorem yields_current {rng prepared : ReseedingRng R Rsdr} {ledger : Ledger R Error}
    {attempts : List (Except Error R)} {request : Request}
    (prepares : rng.Prepares request.numBytes attempts prepared) (tracks : rng.Tracks ledger) :
    Yields (((seeds (ledger.tries ++ attempts)).getLast?).getD ledger.origin)
      (ledger.requested attempts request).current.requests
      (generate prepared.inner request).1 := by
  obtain ⟨_, _, origin, tries, _⟩ := ledger.attempted_fields attempts
  rw [← origin, ← tries, ← Ledger.current_seed, prepares.inner_eq tracks]
  simp [Yields, Ledger.requested, generateAll_concat, Ledger.inner]

theorem seeds_eq_nil {attempts : List (Except Error R)} (none_ok : seeds attempts = []) :
    ∀ attempt ∈ attempts, ∃ error, attempt = .error error := by
  intro attempt member
  cases attempt with
  | error error => exact ⟨error, rfl⟩
  | ok seed =>
      have found : seed ∈ seeds attempts := List.mem_filterMap.mpr ⟨_, member, rfl⟩
      rw [none_ok] at found
      cases found

theorem clones_reseeded_unless_failed [SeedableRng R Rsdr Error]
    (reached : Reachable machine empty log fleet) : Everywhere ReseededUnlessFailed log := by
  refine reached.everywhere ?_
  intro log events fleet next action reached _ moved
  cases step_cases moved with
  | @requested id request rng prepared attempts held prepares =>
      obtain ⟨ledger, found, tracks, _⟩ := (reachable_kept reached).ledger held
      have due := reachable_due reached id ledger found
      have yields := yields_current prepares tracks
      simp only [Transition.everywhere_cons, ReseededUnlessFailed, List.append_nil,
        Transition.everywhere_nil, and_true]
      intro same found_same copied
      cases Option.some.inj (found.symm.trans found_same)
      cases last : (seeds (ledger.tries ++ attempts)).getLast? with
      | some seed =>
          rw [last] at yields
          exact .inl ⟨seed, rfl, yields⟩
      | none =>
          rw [last] at yields
          have failed := seeds_eq_nil (List.getLast?_eq_none_iff.mp last)
          refine .inr ⟨?_, failed, yields⟩
          intro untried
          obtain ⟨before, now⟩ := List.append_eq_nil_iff.mp untried
          exact (prepares.due_iff tracks).2.mpr (due copied before) now
  | _ => simp [ReseededUnlessFailed]

/-- A clone that cannot reseed at first, and a clone of it after it could. -/
def reseedsLate : List (RngAction ScriptedRsdr) :=
  [.new 0 8 ⟨[.ok ⟨5⟩, .error (), .ok ⟨9⟩]⟩, .clone 0 1, .request 1 .nextU64, .request 1 .nextU64,
    .clone 1 2, .request 2 .nextU32, .request 0 .nextU64]

theorem clones_reseeded_unless_failed_late :
    ∃ (log : List (RngEvent CountingRng Unit Unit)) (fleet : Fleet CountingRng ScriptedRsdr Unit),
      Reachable machine empty log fleet ∧ outputs 1 log = [.u64 (.ok 5), .u64 (.ok 9)] ∧
      Everywhere ReseededUnlessFailed log := by
  have executed : machine.exec (empty : Fleet CountingRng ScriptedRsdr Unit) reseedsLate =
      some (_, _) := rfl
  have reached := Machine.exec_reachable executed
  exact ⟨_, _, reached, rfl, clones_reseeded_unless_failed reached⟩

/-- The first attempt of the clone fails, and both go on from the same PRNG. -/
def failsOnFirstUse : List (RngAction ScriptedRsdr) :=
  [.new 0 64 ⟨[.ok ⟨5⟩, .error (), .ok ⟨9⟩]⟩, .clone 0 1, .request 1 .nextU64, .request 0 .nextU64]

theorem clone_repeats_original :
    ∃ (log : List (RngEvent CountingRng Unit Unit)) (fleet : Fleet CountingRng ScriptedRsdr Unit),
      Reachable machine empty log fleet ∧ outputs 1 log = [.u64 (.ok 5)] ∧
      outputs 0 log = outputs 1 log ∧ ¬ Everywhere OnlyReseeded log := by
  have executed : machine.exec (empty : Fleet CountingRng ScriptedRsdr Unit) failsOnFirstUse =
      some (_, _) := rfl
  refine ⟨_, _, Machine.exec_reachable executed, rfl, rfl, ?_⟩
  intro all
  have reseeded := all [.created 0 64 ⟨5⟩, .cloned 0 1] _ _ rfl
  exact reseeded _ rfl rfl rfl

end Fleet

end RsMatterStack
