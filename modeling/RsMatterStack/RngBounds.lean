import RsMatterStack.ReseedAccounting

set_option autoImplicit false

/-! How many bytes come from one seed, and how often a generator reseeds by itself. -/

namespace RsMatterStack

open Transition (Machine Reachable)

/-- The bytes of some requests. -/
def totalBytes (requests : List Request) : Nat :=
  requests.foldl (fun total request => total + request.numBytes) 0

theorem totalBytes_concat (requests : List Request) (request : Request) :
    totalBytes (requests ++ [request]) = totalBytes requests + request.numBytes := by
  simp only [totalBytes, List.foldl_append, List.foldl_cons, List.foldl_nil]

namespace Ledger

variable {R Error : Type} {ledger : Ledger R Error} {attempts : List (Except Error R)}

def failingStep (failing : Nat) : Except Error R → Nat
  | .ok _ => 0
  | .error _ => failing + 1

/-- The attempts that have failed since the last one that succeeded. -/
def failing (ledger : Ledger R Error) : Nat := ledger.tries.foldl failingStep 0

/-- A clone that still generates from what it has copied. -/
def copied (ledger : Ledger R Error) : Bool := ledger.cloned && (seeds ledger.tries).isEmpty

/-- How often the threshold may have been spent on the current seed. -/
def periods (ledger : Ledger R Error) : Nat :=
  ledger.failing + if ledger.copied then 0 else 1

/-- The most bytes between two attempts, when no request asks for more than `most`. -/
def period (ledger : Ledger R Error) (most : Nat) : Nat := ledger.threshold - 1 + most

/-- A clone has not used what it has copied; or else every period but the current one has
been paid for by an attempt. -/
def Bounded (most : Nat) (ledger : Ledger R Error) : Prop :=
  (ledger.copied = true ∧ totalBytes ledger.current.requests = 0 ∧
    ledger.threshold ≤ ledger.spent) ∨
  (ledger.spent ≤ ledger.period most ∧
    totalBytes ledger.current.requests + ledger.period most ≤
      ledger.periods * ledger.period most + ledger.spent)

theorem Bounded.total {most : Nat} (bounded : ledger.Bounded most) :
    totalBytes ledger.current.requests ≤ ledger.periods * ledger.period most := by
  rcases bounded with ⟨_, unused, _⟩ | ⟨spent, paid⟩
  · omega
  · omega

theorem new_bounded (most : Nat) (threshold : UInt64) (inner : R) :
    (Ledger.new threshold inner : Ledger R Error).Bounded most := by
  right
  constructor
  · exact Nat.zero_le _
  · have one : (Ledger.new threshold inner : Ledger R Error).periods = 1 := rfl
    have none : totalBytes (Ledger.new threshold inner : Ledger R Error).current.requests = 0 := rfl
    rw [one, none]
    omega

theorem failed_fields (ledger : Ledger R Error) (error : Error) :
    (ledger.attempt (.error error)).periods = ledger.periods + 1 ∧
      (ledger.attempt (.error error)).copied = ledger.copied := by
  have failing : (ledger.attempt (.error error)).failing = ledger.failing + 1 := by
    simp only [Ledger.failing, attempt, List.foldl_append, List.foldl_cons, List.foldl_nil,
      failingStep]
  have copied : (ledger.attempt (.error error)).copied = ledger.copied := by
    have kept : seeds (ledger.tries ++ [.error error]) = seeds ledger.tries := by
      rw [seeds_append]
      exact List.append_nil _
    show (ledger.cloned && (seeds (ledger.tries ++ [.error error])).isEmpty) = _
    rw [kept]
    rfl
  refine ⟨?_, copied⟩
  rw [periods, failing, copied, periods]
  omega

theorem seeded_fields (ledger : Ledger R Error) (seed : R) :
    (ledger.attempt (.ok seed)).periods = 1 ∧ (ledger.attempt (.ok seed)).copied = false := by
  have failing : (ledger.attempt (.ok seed)).failing = 0 := by
    simp only [Ledger.failing, attempt, List.foldl_append, List.foldl_cons, List.foldl_nil,
      failingStep]
  have copied : (ledger.attempt (.ok seed)).copied = false := by
    simp [Ledger.copied, attempt, seeds, Except.toOption]
  refine ⟨?_, copied⟩
  rw [periods, failing, copied]
  rfl

/-- A request without an attempt. -/
theorem Bounded.served {most : Nat} (bounded : ledger.Bounded most) {request : Request}
    (small : request.numBytes ≤ most) (unspent : ledger.spent < ledger.threshold) :
    (ledger.requested [] request).Bounded most := by
  rcases bounded with ⟨_, _, due⟩ | ⟨_, paid⟩
  · omega
  · right
    have total : totalBytes (ledger.requested [] request).current.requests =
        totalBytes ledger.current.requests + request.numBytes := totalBytes_concat _ _
    have same : (ledger.requested [] request).periods = ledger.periods := rfl
    have long : (ledger.requested [] request).period most = ledger.period most := rfl
    rw [total, same, long, requested_spent_nil]
    constructor
    · unfold period
      omega
    · omega

/-- A request right after an attempt: the period before it is over. -/
theorem Bounded.renewed {most : Nat} (bounded : ledger.Bounded most) {request : Request}
    (small : request.numBytes ≤ most) (outcome : Except Error R) :
    (ledger.requested [outcome] request).Bounded most := by
  right
  have total : totalBytes (ledger.requested [outcome] request).current.requests =
      totalBytes (ledger.attempt outcome).current.requests + request.numBytes :=
    totalBytes_concat _ _
  have long : (ledger.requested [outcome] request).period most = ledger.period most := by
    rw [period, requested_threshold, period]
  have same : (ledger.requested [outcome] request).periods = (ledger.attempt outcome).periods :=
    rfl
  have within : request.numBytes ≤ ledger.period most := by
    unfold period
    omega
  rw [total, long, same, requested_spent_cons]
  refine ⟨within, ?_⟩
  cases outcome with
  | ok seed =>
      have none : totalBytes (ledger.attempt (.ok seed)).current.requests = 0 := rfl
      rw [none, (ledger.seeded_fields seed).1]
      omega
  | error error =>
      have before := bounded.total
      have grown : (ledger.periods + 1) * ledger.period most =
          ledger.periods * ledger.period most + ledger.period most := Nat.succ_mul _ _
      have kept : totalBytes (ledger.attempt (.error error)).current.requests =
          totalBytes ledger.current.requests := rfl
      rw [(ledger.failed_fields error).1, grown, kept]
      omega

/-- A call of `reseed`. -/
theorem Bounded.reseeded {most : Nat} (bounded : ledger.Bounded most)
    (outcome : Except Error R) {result : Except Error Unit}
    (agrees : (∃ seed, outcome = .ok seed ∧ result = .ok ()) ∨
      ∃ error, outcome = .error error ∧ result = .error error) :
    (ledger.reseeded [outcome] result).Bounded most := by
  rcases agrees with ⟨seed, rfl, rfl⟩ | ⟨error, rfl, rfl⟩
  · right
    have none : totalBytes (ledger.reseeded [.ok seed] (.ok ())).current.requests = 0 := rfl
    have one : (ledger.reseeded [.ok seed] (.ok ())).periods = 1 := (ledger.seeded_fields seed).1
    have zero : (ledger.reseeded [.ok seed] (.ok ())).spent = 0 := rfl
    rw [none, one, zero]
    omega
  · obtain ⟨periods, copied⟩ := ledger.failed_fields error
    rcases bounded with ⟨copy, unused, due⟩ | ⟨spent, paid⟩
    · exact .inl ⟨copied.trans copy, unused, due⟩
    · refine .inr ⟨spent, ?_⟩
      show totalBytes ledger.current.requests + ledger.period most ≤
        (ledger.attempt (.error error)).periods * ledger.period most + ledger.spent
      rw [periods, Nat.succ_mul]
      omega

theorem clone_bounded {GenError : Type} [TryRng R GenError] (most : Nat)
    (ledger : Ledger R Error) : ledger.clone.Bounded most :=
  .inl ⟨rfl, rfl, Nat.le_refl _⟩

end Ledger

namespace Fleet

variable {R Rsdr Error GenError : Type} {log events : List (RngEvent R Error GenError)}
  {event : RngEvent R Error GenError} {id : Nat}

def askedOf (id : Nat) : RngEvent R Error GenError → Option Request
  | .requested of _ request _ => if of = id then some request else none
  | _ => none

/-- The requests made of a generator. -/
def asked (id : Nat) (log : List (RngEvent R Error GenError)) : List Request :=
  log.filterMap (askedOf id)

def automaticOf (id : Nat) : RngEvent R Error GenError → Nat
  | .requested of attempts _ _ => if of = id then attempts.length else 0
  | _ => 0

/-- The attempts that a generator has made by itself. -/
def automatic (id : Nat) (log : List (RngEvent R Error GenError)) : Nat :=
  log.foldl (fun attempts event => attempts + automaticOf id event) 0

theorem asked_concat : asked id (log ++ [event]) = asked id log ++ (askedOf id event).toList := by
  simp only [asked, List.filterMap_append]
  cases same : askedOf id event <;> simp [same]

theorem automatic_concat :
    automatic id (log ++ [event]) = automatic id log + automaticOf id event := by
  simp only [automatic, List.foldl_append, List.foldl_cons, List.foldl_nil]

/-- What the requests of a generator bound, and what they have paid for. -/
structure Balanced (log : List (RngEvent R Error GenError)) (id : Nat) (ledger : Ledger R Error) :
    Prop where
  bounded : ∀ most, (∀ request ∈ asked id log, request.numBytes ≤ most) → ledger.Bounded most
  paid : automatic id log * ledger.threshold + ledger.spent ≤
    totalBytes (asked id log) + if ledger.cloned then ledger.threshold else 0

theorem Balanced.other {ledger : Ledger R Error} (balanced : Balanced log id ledger)
    (unasked : askedOf id event = none) (none : automaticOf id event = 0) :
    Balanced (log ++ [event]) id ledger := by
  have same : asked id (log ++ [event]) = asked id log := by
    rw [asked_concat, unasked]
    exact List.append_nil _
  have still : automatic id (log ++ [event]) = automatic id log := by
    rw [automatic_concat, none, Nat.add_zero]
  constructor
  · rw [same]
    exact balanced.bounded
  · rw [same, still]
    exact balanced.paid

theorem Balanced.requested [TryRng R GenError] {ledger : Ledger R Error}
    (balanced : Balanced log id ledger) {attempts : List (Except Error R)} (request : Request)
    (output : Output GenError) (single : attempts.length ≤ 1)
    (due : attempts ≠ [] ↔ ledger.threshold ≤ ledger.spent) :
    Balanced (log ++ [.requested id attempts request output]) id
      (ledger.requested attempts request) := by
  have requests : asked id (log ++ [.requested id attempts request output]) =
      asked id log ++ [request] := by
    rw [asked_concat]
    simp [askedOf]
  have counted : automatic id (log ++ [.requested id attempts request output]) =
      automatic id log + attempts.length := by
    rw [automatic_concat]
    simp [automaticOf]
  have cloned : (ledger.requested attempts request).cloned = ledger.cloned :=
    (ledger.attempted_fields attempts).2.2.2.2
  have paid := balanced.paid
  constructor
  · intro most small
    rw [requests] at small
    have before := balanced.bounded most (fun other member =>
      small other (List.mem_append_left _ member))
    have now := small request (by simp)
    match attempts, single with
    | [], _ =>
        have unspent : ledger.spent < ledger.threshold := by
          by_contra spent
          exact due.mpr (Nat.le_of_not_lt spent) rfl
        exact before.served now unspent
    | [outcome], _ => exact before.renewed now outcome
  · rw [requests, counted, totalBytes_concat, Ledger.requested_threshold, cloned]
    match attempts, single with
    | [], _ =>
        rw [Ledger.requested_spent_nil, List.length_nil, Nat.add_zero]
        omega
    | [outcome], _ =>
        have spent := due.mp (List.cons_ne_nil _ _)
        rw [Ledger.requested_spent_cons, List.length_singleton, Nat.succ_mul]
        omega

theorem Balanced.reseeded {rng after : ReseedingRng R Rsdr} {ledger : Ledger R Error}
    (balanced : Balanced log id ledger) {attempts : List (Except Error R)}
    {result : Except Error Unit} (reseeds : rng.Reseeds attempts result after) :
    Balanced (log ++ [.reseeded id attempts result]) id (ledger.reseeded attempts result) := by
  have before : Balanced (log ++ [.reseeded id attempts result]) id ledger := balanced.other rfl rfl
  have paid := before.paid
  cases reseeds with
  | failed error reseeder =>
      refine ⟨fun most small => ?_, paid⟩
      exact (before.bounded most small).reseeded _ (.inr ⟨error, rfl, rfl⟩)
  | seeded inner reseeder =>
      refine ⟨fun most small => (before.bounded most small).reseeded _ (.inl ⟨inner, rfl, rfl⟩), ?_⟩
      show _ * ledger.threshold + 0 ≤ _ + if ledger.cloned then ledger.threshold else 0
      omega

variable [TryRng R GenError]

structure Accounts (log : List (RngEvent R Error GenError)) : Prop where
  known : ∀ id ledger, ledgers log id = some ledger → Balanced log id ledger
  unknown : ∀ id, ledgers log id = none → automatic id log = 0

/-- A step that writes to one ledger only. -/
theorem Accounts.put (now : Accounts log) {ledger : Ledger R Error}
    (written : record (ledgers log) event = Function.update (ledgers log) id (some ledger))
    (unasked : ∀ other, other ≠ id → askedOf other event = none ∧ automaticOf other event = 0)
    (balanced : Balanced (log ++ [event]) id ledger) : Accounts (log ++ [event]) := by
  constructor
  · intro other found same
    rw [ledgers_concat, written] at same
    by_cases here : other = id
    · subst here
      rw [Function.update_self, Option.some.injEq] at same
      exact same ▸ balanced
    · rw [Function.update_of_ne here] at same
      exact (now.known other found same).other (unasked other here).1 (unasked other here).2
  · intro other missing
    rw [ledgers_concat, written] at missing
    by_cases here : other = id
    · subst here
      simp at missing
    · rw [Function.update_of_ne here] at missing
      rw [automatic_concat, now.unknown other missing, (unasked other here).2]

variable {fleet next : Fleet R Rsdr Error} {action : RngAction Rsdr}

theorem Kept.unledgered (kept : Kept log fleet) (free : fleet.rngs id = none) :
    ledgers log id = none := by
  have tracked := kept.tracked id
  rw [free] at tracked
  cases found : ledgers log id with
  | none => rfl
  | some ledger =>
      rw [found] at tracked
      cases tracked

theorem Step.accounts [SeedableRng R Rsdr Error] (moved : Step fleet action events next)
    (kept : Kept log fleet) (now : Accounts log) : Accounts (log ++ events) := by
  cases moved with
  | refused error outcomes =>
      constructor
      · intro id ledger found
        rw [ledgers_concat] at found
        exact (now.known id ledger found).other rfl rfl
      · intro id missing
        rw [ledgers_concat] at missing
        rw [automatic_concat, now.unknown id missing]
        rfl
  | @created id threshold _ rng outcomes free limit full =>
      have none := now.unknown id (kept.unledgered free)
      refine now.put rfl (fun _ _ => ⟨rfl, rfl⟩) ⟨fun most _ => Ledger.new_bounded most _ _, ?_⟩
      rw [automatic_concat, none]
      simp [automaticOf, Ledger.new]
  | @requested id request rng prepared attempts held prepares =>
      obtain ⟨ledger, found, tracks, _⟩ := kept.ledger held
      obtain ⟨single, due⟩ := prepares.due_iff tracks
      refine now.put (by simp only [record, found, Option.map_some]) ?_
        ((now.known id ledger found).requested request _ single due)
      intro other apart
      exact ⟨if_neg apart.symm, if_neg apart.symm⟩
  | @reseeded id rng after attempts result held reseeds =>
      obtain ⟨ledger, found, _, _⟩ := kept.ledger held
      exact now.put (by simp only [record, found, Option.map_some]) (fun _ _ => ⟨rfl, rfl⟩)
        ((now.known id ledger found).reseeded reseeds)
  | @cloned id clone rng held free =>
      obtain ⟨ledger, found, _, _⟩ := kept.ledger held
      have none := now.unknown clone (kept.unledgered free)
      have written : record (ledgers log) (.cloned id clone) =
          Function.update (ledgers log) clone (some ledger.clone) := by
        simp only [record, found, Option.map_some]
      refine now.put written (fun _ _ => ⟨rfl, rfl⟩)
        ⟨fun most _ => ledger.clone_bounded most, ?_⟩
      rw [automatic_concat, none]
      simp [automaticOf, Ledger.clone]

theorem reachable_accounts [SeedableRng R Rsdr Error]
    (reached : Reachable machine empty log fleet) : Accounts log := by
  refine reached.invariant (fun log _ => Accounts log) ⟨?_, fun _ _ => rfl⟩ ?_
  · intro id ledger found
    cases found
  · intro log events fleet next action reached now _ moved
    exact (step_cases moved).accounts (reachable_kept reached) now

/-- From one seed come at most the bytes of one period for the seed itself, and of one more
for each attempt that has failed since, where a period is less than the threshold and one
request; a clone has no period for the copied seed. And a generator attempts to reseed by
itself at most once for every threshold's worth of bytes, but for the first time of a clone. -/
theorem stream_bounds [SeedableRng R Rsdr Error] (reached : Reachable machine empty log fleet)
    {ledger : Ledger R Error} (held : ledgers log id = some ledger) :
    (∀ most, (∀ request ∈ asked id log, request.numBytes ≤ most) →
      totalBytes ledger.current.requests ≤
        (ledger.failing + if ledger.copied then 0 else 1) * (ledger.threshold - 1 + most)) ∧
    automatic id log * ledger.threshold ≤
      totalBytes (asked id log) + if ledger.cloned then ledger.threshold else 0 := by
  have balanced := (reachable_accounts reached).known id ledger held
  refine ⟨fun most small => (balanced.bounded most small).total, ?_⟩
  have paid := balanced.paid
  omega

/-- A threshold of 16 bytes is spent twice: the first attempt fails. -/
def spendsTwice : List (RngAction ScriptedRsdr) :=
  [.new 0 16 ⟨[.ok ⟨5⟩, .error ()]⟩] ++ List.replicate 3 (.request 0 .nextU64)

def twiceLog : List (RngEvent CountingRng Unit Unit) :=
  [.created 0 16 ⟨5⟩, .requested 0 [] .nextU64 (.u64 (.ok 5)),
    .requested 0 [] .nextU64 (.u64 (.ok 6)), .requested 0 [.error ()] .nextU64 (.u64 (.ok 7))]

theorem stream_bounds_twice :
    ∃ ledger, ledgers twiceLog 0 = some ledger ∧ ledger.failing = 1 ∧
      totalBytes ledger.current.requests ≤ (1 + 1) * (16 - 1 + 8) ∧
      automatic 0 twiceLog * 16 ≤ totalBytes (asked 0 twiceLog) := by
  have executed : machine.exec (empty : Fleet CountingRng ScriptedRsdr Unit) spendsTwice =
      some (_, twiceLog) := rfl
  have held : ledgers twiceLog 0 = some _ := rfl
  have bounds := stream_bounds (Machine.exec_reachable executed) held
  refine ⟨_, held, rfl, bounds.1 8 ?_, bounds.2⟩
  intro request member
  have same : Request.nextU64 = request := by simpa [asked, askedOf, twiceLog] using member
  rw [← same]
  decide

end Fleet

end RsMatterStack
