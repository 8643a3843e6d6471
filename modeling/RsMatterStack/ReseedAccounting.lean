import RsMatterStack.RngStep

set_option autoImplicit false

/-! When a generator reseeds, and what its outputs are: its signed countdown counts exactly
the bytes of its ledger, and its outputs are the streams of its ledger. -/

namespace RsMatterStack

open Transition (Machine Reachable Everywhere)

/-- A positive countdown minus the length of any buffer stays within an `i64`. -/
theorem countdown_exact {count : Int64} {numBytes : Nat} (left : 0 < count.toInt)
    (bounded : numBytes ≤ isizeMax) :
    (count - Int64.ofNat numBytes).toInt = count.toInt - numBytes := by
  have most := count.toInt_lt
  have cast : (Int64.ofNat numBytes).toInt = numBytes :=
    Int64.toInt_ofNat_of_lt (by unfold isizeMax at bounded; omega)
  unfold isizeMax at bounded
  rw [Int64.toInt_sub, cast, Int.bmod_eq_of_le (by omega) (by omega)]

/-- The countdown of a generator is what its ledger leaves of the threshold. -/
structure ReseedingRng.Tracks {R Rsdr Error GenError : Type} [TryRng R GenError]
    (rng : ReseedingRng R Rsdr) (ledger : Ledger R Error) : Prop where
  limit : rng.threshold.toInt = ledger.threshold
  positive : 0 < ledger.threshold
  counter : rng.bytesUntilReseed.toInt = ledger.threshold - ledger.spent
  inner : rng.inner = ledger.inner

namespace ReseedingRng

variable {R Rsdr Error GenError : Type} [TryRng R GenError]
  {rng prepared after : ReseedingRng R Rsdr} {ledger : Ledger R Error}
  {attempts : List (Except Error R)} {request : Request}

theorem Tracks.threshold_pos (tracks : rng.Tracks ledger) : 0 < rng.threshold.toInt := by
  rw [tracks.limit]
  exact Int.natCast_pos.mpr tracks.positive

/-- The attempts of a request follow the ledger. -/
theorem Prepares.due_iff {numBytes : Nat} (prepares : rng.Prepares numBytes attempts prepared)
    (tracks : rng.Tracks ledger) :
    attempts.length ≤ 1 ∧ (attempts ≠ [] ↔ ledger.threshold ≤ ledger.spent) := by
  have counter := tracks.counter
  cases prepares with
  | early left =>
      have unspent : ¬ ledger.threshold ≤ ledger.spent := by omega
      exact ⟨Nat.zero_le _, iff_of_false (fun tried => tried rfl) unspent⟩
  | failed due | seeded due =>
      have spent : ledger.threshold ≤ ledger.spent := by omega
      exact ⟨Nat.le_refl _, iff_of_true (List.cons_ne_nil _ _) spent⟩

theorem Prepares.inner_eq {numBytes : Nat} (prepares : rng.Prepares numBytes attempts prepared)
    (tracks : rng.Tracks ledger) : prepared.inner = (ledger.attempted attempts).inner := by
  cases prepares with
  | early => exact tracks.inner
  | failed => exact tracks.inner
  | seeded => rfl

theorem Prepares.tracks (prepares : rng.Prepares request.numBytes attempts prepared)
    (tracks : rng.Tracks ledger) :
    Tracks { prepared with inner := (generate prepared.inner request).2 }
      (ledger.requested attempts request) := by
  have bounded := request.numBytes_le
  have full := tracks.threshold_pos
  have inner : (generate prepared.inner request).2 = (ledger.requested attempts request).inner := by
    rw [Ledger.requested_inner, prepares.inner_eq tracks]
  cases prepares with
  | early left =>
      refine ⟨tracks.limit, tracks.positive, ?_, inner⟩
      rw [countdown_exact left bounded, tracks.counter, Ledger.requested_threshold,
        Ledger.requested_spent_nil]
      omega
  | failed due error reseeder | seeded due seed reseeder =>
      refine ⟨tracks.limit, tracks.positive, ?_, inner⟩
      rw [countdown_exact full bounded, tracks.limit, Ledger.requested_threshold,
        Ledger.requested_spent_cons]

theorem Reseeds.tracks {result : Except Error Unit} (reseeds : rng.Reseeds attempts result after)
    (tracks : rng.Tracks ledger) : after.Tracks (ledger.reseeded attempts result) := by
  cases reseeds with
  | failed error reseeder =>
      exact ⟨tracks.limit, tracks.positive, tracks.counter, tracks.inner⟩
  | seeded inner reseeder =>
      refine ⟨tracks.limit, tracks.positive, ?_, rfl⟩
      simpa [Ledger.reseeded, Ledger.attempt] using tracks.limit

/-- The subtraction in `before_generate` is the one of the integers. -/
def CountsExactly [SeedableRng R Rsdr Error] (rng : ReseedingRng R Rsdr)
    (outcomes : List (Except Error R)) (request : Request) : Prop :=
  (rng.beforeGenerate outcomes request.numBytes).1.bytesUntilReseed.toInt =
    (if rng.bytesUntilReseed.toInt ≤ 0 then rng.threshold.toInt
      else rng.bytesUntilReseed.toInt) - request.numBytes

/-- A failed attempt leaves the PRNG, and a failed call of `reseed` also the countdown. -/
def KeptOnFailure [SeedableRng R Rsdr Error] (rng : ReseedingRng R Rsdr)
    (outcomes : List (Except Error R)) : Prop :=
  ∀ error, (fromRng outcomes rng.reseeder).1 = .error error →
    (rng.reseedAtThreshold outcomes).1.inner = rng.inner ∧
    (rng.reseed outcomes).1 = .error error ∧ (rng.reseed outcomes).2.1.inner = rng.inner ∧
    (rng.reseed outcomes).2.1.bytesUntilReseed = rng.bytesUntilReseed

theorem Tracks.countsExactly [SeedableRng R Rsdr Error] (tracks : rng.Tracks ledger)
    (outcomes : List (Except Error R)) (request : Request) :
    rng.CountsExactly outcomes request := by
  have full := tracks.threshold_pos
  obtain ⟨attempts, _, prepares⟩ := rng.beforeGenerate_cases outcomes request.numBytes
  unfold CountsExactly
  generalize (rng.beforeGenerate outcomes request.numBytes).1 = prepared at prepares ⊢
  cases prepares with
  | early left => rw [if_neg (by omega), countdown_exact left request.numBytes_le]
  | failed due => rw [if_pos due, countdown_exact full request.numBytes_le]
  | seeded due => rw [if_pos due, countdown_exact full request.numBytes_le]

theorem keptOnFailure [SeedableRng R Rsdr Error] (rng : ReseedingRng R Rsdr)
    (outcomes : List (Except Error R)) : rng.KeptOnFailure outcomes := by
  intro error failed
  unfold reseedAtThreshold reseed
  generalize fromRng outcomes rng.reseeder = drawn at failed ⊢
  obtain ⟨outcome, reseeder, later⟩ := drawn
  cases failed
  exact ⟨rfl, rfl, rfl, rfl⟩

theorem Tracks.clone (tracks : rng.Tracks ledger) : rng.clone.Tracks ledger.clone := by
  refine ⟨tracks.limit, tracks.positive, ?_, tracks.inner⟩
  simp [ReseedingRng.clone, Ledger.clone]

end ReseedingRng

namespace Fleet

variable {R Rsdr Error GenError : Type} [TryRng R GenError]
  {fleet next : Fleet R Rsdr Error} {action : RngAction Rsdr}
  {events log : List (RngEvent R Error GenError)}

/-- Every generator has a ledger, with the streams that it has returned. -/
structure Kept (log : List (RngEvent R Error GenError)) (fleet : Fleet R Rsdr Error) : Prop where
  tracked : ∀ id, Option.Rel ReseedingRng.Tracks (fleet.rngs id) (ledgers log id)
  returned : ∀ id, outputs id log = ((ledgers log id).map Ledger.stream).getD []

theorem Kept.ledger (kept : Kept log fleet) {id : Nat} {rng : ReseedingRng R Rsdr}
    (held : fleet.rngs id = some rng) :
    ∃ ledger, ledgers log id = some ledger ∧ rng.Tracks ledger ∧
      outputs id log = ledger.stream := by
  have tracked := kept.tracked id
  have returned := kept.returned id
  rw [held] at tracked
  cases found : ledgers log id with
  | none =>
      rw [found] at tracked
      cases tracked
  | some ledger =>
      rw [found] at tracked returned
      cases tracked with
      | some tracks => exact ⟨ledger, rfl, tracks, returned⟩

theorem Kept.unused (kept : Kept log fleet) {id : Nat} (free : fleet.rngs id = none) :
    outputs id log = [] := by
  have tracked := kept.tracked id
  rw [free] at tracked
  rw [kept.returned id]
  cases found : ledgers log id with
  | none => rfl
  | some ledger =>
      rw [found] at tracked
      cases tracked

/-- A step that writes to one generator only, and to its ledger. -/
theorem Kept.put (kept : Kept log fleet) {id : Nat} {rng : ReseedingRng R Rsdr}
    {ledger : Ledger R Error} {event : RngEvent R Error GenError}
    (outcomes : List (Except Error R))
    (written : record (ledgers log) event = Function.update (ledgers log) id (some ledger))
    (quiet : ∀ other, other ≠ id → outputOf other event = none)
    (tracks : rng.Tracks ledger) (returned : outputs id (log ++ [event]) = ledger.stream) :
    Kept (log ++ [event]) (fleet.put id rng outcomes) := by
  constructor
  · intro other
    rw [ledgers_concat, written]
    by_cases same : other = id
    · subst same
      simp only [Fleet.put, Function.update_self]
      exact .some tracks
    · simp only [Fleet.put, Function.update_of_ne same]
      exact kept.tracked other
  · intro other
    rw [ledgers_concat, written]
    by_cases same : other = id
    · subst same
      rw [Function.update_self, returned]
      rfl
    · rw [Function.update_of_ne same, outputs_concat, quiet other same, Option.toList_none,
        List.append_nil]
      exact kept.returned other

theorem Step.kept (moved : Step fleet action events next) (kept : Kept log fleet) :
    Kept (log ++ events) next := by
  cases moved with
  | refused error outcomes =>
      constructor
      · intro id
        rw [ledgers_concat]
        exact kept.tracked id
      · intro id
        rw [ledgers_concat, outputs_concat]
        simpa [outputOf, record] using kept.returned id
  | @created id threshold _ rng outcomes free limit full =>
      refine kept.put outcomes rfl (fun _ _ => rfl) ?_ ?_
      · exact ⟨limit, effectiveThreshold_pos threshold, by rw [full, limit]; simp [Ledger.new], rfl⟩
      · rw [outputs_concat, kept.unused free]
        rfl
  | @requested id request rng prepared attempts held prepares =>
      obtain ⟨ledger, found, tracks, returned⟩ := kept.ledger held
      refine kept.put _ (by simp only [record, found, Option.map_some]) ?_
        (prepares.tracks tracks) ?_
      · intro other apart
        exact if_neg apart.symm
      · rw [outputs_concat, returned, Ledger.requested_stream, prepares.inner_eq tracks]
        simp [outputOf]
  | @reseeded id rng after attempts result held reseeds =>
      obtain ⟨ledger, found, tracks, returned⟩ := kept.ledger held
      refine kept.put _ (by simp only [record, found, Option.map_some]) (fun _ _ => rfl)
        (reseeds.tracks tracks) ?_
      rw [outputs_concat, returned, ← ledger.attempted_stream attempts]
      cases result <;> simp [outputOf, Ledger.reseeded, Ledger.stream, Ledger.segments]
  | @cloned id clone rng held free =>
      obtain ⟨ledger, found, tracks, returned⟩ := kept.ledger held
      refine kept.put _ (by simp only [record, found, Option.map_some]) (fun _ _ => rfl)
        tracks.clone ?_
      rw [outputs_concat, kept.unused free]
      rfl

theorem reachable_kept [SeedableRng R Rsdr Error]
    (reached : Reachable machine empty log fleet) : Kept log fleet :=
  reached.invariant Kept ⟨fun _ => .none, fun _ => rfl⟩
    (fun _ _ _ _ _ _ kept _ moved => (step_cases moved).kept kept)

/-- An automatic attempt, and only one, is made exactly if the threshold is spent. -/
def AttemptsWhenDue (before : List (RngEvent R Error GenError)) :
    RngEvent R Error GenError → Prop
  | .requested id attempts _ _ => ∃ ledger, ledgers before id = some ledger ∧
      attempts.length ≤ 1 ∧ (attempts ≠ [] ↔ ledger.threshold ≤ ledger.spent)
  | _ => True

/-- Every generator counts down exactly from the effective threshold, in an `i64` that
never overflows, attempts to reseed exactly when its threshold is spent, keeps its PRNG
when an attempt fails, and returns the streams of its PRNGs, cut where an attempt succeeded. -/
theorem reseed_accounting [SeedableRng R Rsdr Error] (reached : Reachable machine empty log fleet) :
    (∀ id rng, fleet.rngs id = some rng →
      (∀ request, rng.CountsExactly fleet.outcomes request) ∧
      rng.KeptOnFailure fleet.outcomes ∧
      ∃ ledger, ledgers log id = some ledger ∧
        rng.bytesUntilReseed.toInt = ledger.threshold - ledger.spent ∧
        ledger.segments.map Segment.seed = ledger.origin :: seeds ledger.tries ∧
        outputs id log = ledger.stream) ∧
    Everywhere AttemptsWhenDue log := by
  constructor
  · intro id rng held
    obtain ⟨ledger, found, tracks, returned⟩ := (reachable_kept reached).ledger held
    refine ⟨?_, rng.keptOnFailure fleet.outcomes, ledger, found, tracks.counter, ledger.cut,
      returned⟩
    intro request
    exact tracks.countsExactly fleet.outcomes request
  · refine reached.everywhere ?_
    intro log events fleet next action reached _ moved
    cases step_cases moved with
    | requested held prepares =>
        obtain ⟨ledger, found, tracks, _⟩ := (reachable_kept reached).ledger held
        simp only [Transition.everywhere_cons, AttemptsWhenDue, List.append_nil,
          Transition.everywhere_nil, and_true]
        exact ⟨ledger, found, prepares.due_iff tracks⟩
    | _ => simp [AttemptsWhenDue]

/-- A PRNG that counts. -/
structure CountingRng where
  next : UInt64
deriving DecidableEq, Repr

instance : TryRng CountingRng Unit where
  tryNextU32 rng := (.ok rng.next.toUInt32, ⟨rng.next + 1⟩)
  tryNextU64 rng := (.ok rng.next, ⟨rng.next + 1⟩)
  tryFillBytes rng dest := (.ok (), dest.map fun _ => rng.next.toUInt8, ⟨rng.next + 1⟩)

/-- A reseeder whose outcomes are given. -/
structure ScriptedRsdr where
  script : List (Except Unit CountingRng)

instance : SeedableRng CountingRng ScriptedRsdr Unit where
  tryFromRng _ reseeder :=
    match reseeder.script with
    | [] => (.error (), reseeder)
    | outcome :: rest => (outcome, ⟨rest⟩)

/-- The threshold is spent before the fourth request, whose attempt fails. -/
def spendsThreshold : List (RngAction ScriptedRsdr) :=
  [.new 0 16 ⟨[.ok ⟨5⟩, .error (), .ok ⟨9⟩]⟩, .request 0 .nextU32, .request 0 .nextU64,
    .request 0 .nextU32, .request 0 (.fillBytes ⟨[0, 0, 0], by decide⟩), .reseed 0,
    .request 0 .nextU32]

theorem reseed_accounting_failed :
    ∃ (log : List (RngEvent CountingRng Unit Unit)) (fleet : Fleet CountingRng ScriptedRsdr Unit),
      Reachable machine empty log fleet ∧ Everywhere AttemptsWhenDue log ∧
      ∃ ledger, ledgers log 0 = some ledger ∧ seeds ledger.tries = [⟨9⟩] ∧
        outputs 0 log = ledger.stream := by
  have executed : machine.exec (empty : Fleet CountingRng ScriptedRsdr Unit) spendsThreshold =
      some (_, _) := rfl
  have reached := Machine.exec_reachable executed
  have accounting := reseed_accounting reached
  obtain ⟨_, _, ledger, found, _, _, returned⟩ := accounting.1 0 _ rfl
  refine ⟨_, _, reached, accounting.2, ledger, found, ?_, returned⟩
  cases Option.some.inj found
  rfl

end Fleet

end RsMatterStack
