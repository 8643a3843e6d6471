import RsMatterStack.ReseedingRng

set_option autoImplicit false

/-! What a log of generators says about each of them: the bytes requested of it, its
attempts to reseed, and the PRNG streams that its outputs are to come from. -/

namespace RsMatterStack

def Request.numBytes : Request → Nat
  | .nextU32 => 4
  | .nextU64 => 8
  | .fillBytes dest => dest.val.length

theorem Request.numBytes_le (request : Request) : request.numBytes ≤ isizeMax := by
  cases request with
  | nextU32 => decide
  | nextU64 => decide
  | fillBytes dest => exact dest.property

section

variable {R GenError : Type} [TryRng R GenError]

/-- The PRNG alone, on one request. -/
def generate (inner : R) : Request → Output GenError × R
  | .nextU32 =>
      let (result, inner) := TryRng.tryNextU32 inner
      (.u32 result, inner)
  | .nextU64 =>
      let (result, inner) := TryRng.tryNextU64 inner
      (.u64 result, inner)
  | .fillBytes dest =>
      let (result, dest, inner) := TryRng.tryFillBytes inner dest.val
      (.bytes result dest, inner)

def generateAll (inner : R) : List Request → List (Output GenError) × R
  | [] => ([], inner)
  | request :: rest =>
      let (output, inner) := generate inner request
      let (outputs, inner) := generateAll inner rest
      (output :: outputs, inner)

theorem generateAll_concat (inner : R) (requests : List Request) (request : Request) :
    generateAll inner (requests ++ [request]) =
      ((generateAll inner requests).1 ++ [(generate (generateAll inner requests).2 request).1],
        (generate (generateAll inner requests).2 request).2) := by
  induction requests generalizing inner with
  | nil => rfl
  | cons first rest ih =>
      simp only [List.cons_append, generateAll]
      rw [ih]

end

section

variable {R Error : Type}

/-- The seeds of the attempts that succeeded. -/
def seeds (attempts : List (Except Error R)) : List R := attempts.filterMap Except.toOption

@[simp] theorem seeds_append (attempts more : List (Except Error R)) :
    seeds (attempts ++ more) = seeds attempts ++ seeds more :=
  List.filterMap_append

/-- 0 means "never reseed", as does what does not fit into an `i64`. -/
def effectiveThreshold (threshold : UInt64) : Nat :=
  if threshold = 0 ∨ 2 ^ 63 - 1 < threshold.toNat then 2 ^ 63 - 1 else threshold.toNat

theorem effectiveThreshold_pos (threshold : UInt64) : 0 < effectiveThreshold threshold := by
  unfold effectiveThreshold
  split
  · decide
  · rename_i fits
    by_contra zero
    exact fits (.inl (UInt64.toNat_inj.mp (by simpa using zero)))

/-- The part of a stream from one seed. -/
structure Segment (R : Type) where
  seed : R
  requests : List Request

/-- The account of one generator. -/
structure Ledger (R Error : Type) where
  threshold : Nat
  /-- The bytes requested since the last automatic attempt, successful manual reseed or
  creation; of a clone, as if the threshold were reached. -/
  spent : Nat
  /-- What the inner PRNG was created or copied as. -/
  origin : R
  /-- All attempts to reseed, automatic and manual. -/
  tries : List (Except Error R)
  earlier : List (Segment R)
  current : Segment R
  cloned : Bool
  /-- The stream is cut exactly at the attempts that succeeded. -/
  cut : (earlier ++ [current]).map Segment.seed = origin :: seeds tries

namespace Ledger

/-- The current PRNG is that of the last attempt that succeeded. -/
theorem current_seed (ledger : Ledger R Error) :
    ledger.current.seed = ((seeds ledger.tries).getLast?).getD ledger.origin := by
  have last := congrArg List.getLast? ledger.cut
  simpa [List.getLast?_cons] using last

def new (threshold : UInt64) (inner : R) : Ledger R Error where
  threshold := effectiveThreshold threshold
  spent := 0
  origin := inner
  tries := []
  earlier := []
  current := ⟨inner, []⟩
  cloned := false
  cut := rfl

def attempt (ledger : Ledger R Error) : Except Error R → Ledger R Error
  | .ok seed =>
      { ledger with
        tries := ledger.tries ++ [.ok seed]
        earlier := ledger.earlier ++ [ledger.current]
        current := ⟨seed, []⟩
        cut := by
          rw [List.map_append, ledger.cut, seeds_append]
          rfl }
  | .error error =>
      { ledger with
        tries := ledger.tries ++ [.error error]
        cut := by
          rw [ledger.cut, seeds_append]
          exact (congrArg _ (List.append_nil _)).symm }

def attempted (ledger : Ledger R Error) (attempts : List (Except Error R)) : Ledger R Error :=
  attempts.foldl attempt ledger

@[simp] theorem attempted_nil (ledger : Ledger R Error) : ledger.attempted [] = ledger := rfl

@[simp] theorem attempted_singleton (ledger : Ledger R Error) (outcome : Except Error R) :
    ledger.attempted [outcome] = ledger.attempt outcome := rfl

theorem attempted_fields (ledger : Ledger R Error) (attempts : List (Except Error R)) :
    (ledger.attempted attempts).threshold = ledger.threshold ∧
      (ledger.attempted attempts).spent = ledger.spent ∧
      (ledger.attempted attempts).origin = ledger.origin ∧
      (ledger.attempted attempts).tries = ledger.tries ++ attempts ∧
      (ledger.attempted attempts).cloned = ledger.cloned := by
  induction attempts generalizing ledger with
  | nil => simp
  | cons outcome rest ih =>
      have later := ih (ledger.attempt outcome)
      cases outcome <;> simpa [attempted, attempt] using later

def requested (ledger : Ledger R Error) (attempts : List (Except Error R)) (request : Request) :
    Ledger R Error :=
  let tried := ledger.attempted attempts
  { tried with
    spent := (if attempts.isEmpty then ledger.spent else 0) + request.numBytes
    current := ⟨tried.current.seed, tried.current.requests ++ [request]⟩
    cut := by
      rw [← tried.cut, List.map_append, List.map_append]
      rfl }

theorem requested_threshold (ledger : Ledger R Error) (attempts : List (Except Error R))
    (request : Request) : (ledger.requested attempts request).threshold = ledger.threshold :=
  (ledger.attempted_fields attempts).1

theorem requested_spent_nil (ledger : Ledger R Error) (request : Request) :
    (ledger.requested [] request).spent = ledger.spent + request.numBytes := rfl

theorem requested_spent_cons (ledger : Ledger R Error) (outcome : Except Error R)
    (rest : List (Except Error R)) (request : Request) :
    (ledger.requested (outcome :: rest) request).spent = request.numBytes :=
  Nat.zero_add _

def reseeded (ledger : Ledger R Error) (attempts : List (Except Error R)) :
    Except Error Unit → Ledger R Error
  | .ok _ => { ledger.attempted attempts with spent := 0 }
  | .error _ => ledger.attempted attempts

def segments (ledger : Ledger R Error) : List (Segment R) := ledger.earlier ++ [ledger.current]

variable {GenError : Type} [TryRng R GenError]

/-- The PRNG that the current segment has led to. -/
def inner (ledger : Ledger R Error) : R :=
  (generateAll ledger.current.seed ledger.current.requests).2

def stream (ledger : Ledger R Error) : List (Output GenError) :=
  ledger.segments.flatMap fun segment => (generateAll segment.seed segment.requests).1

def clone (ledger : Ledger R Error) : Ledger R Error where
  threshold := ledger.threshold
  spent := ledger.threshold
  origin := ledger.inner
  tries := []
  earlier := []
  current := ⟨ledger.inner, []⟩
  cloned := true
  cut := rfl

theorem attempt_stream (ledger : Ledger R Error) (outcome : Except Error R) :
    (ledger.attempt outcome).stream = ledger.stream := by
  cases outcome with
  | error error => rfl
  | ok seed => simp [attempt, stream, segments, generateAll]

theorem attempted_stream (ledger : Ledger R Error) (attempts : List (Except Error R)) :
    (ledger.attempted attempts).stream = ledger.stream := by
  induction attempts generalizing ledger with
  | nil => rfl
  | cons outcome rest ih =>
      rw [attempted, List.foldl_cons, ← attempted, ih, attempt_stream]

theorem requested_inner (ledger : Ledger R Error) (attempts : List (Except Error R))
    (request : Request) :
    (ledger.requested attempts request).inner =
      (generate (ledger.attempted attempts).inner request).2 := by
  rw [inner, requested, generateAll_concat]
  rfl

theorem requested_stream (ledger : Ledger R Error) (attempts : List (Except Error R))
    (request : Request) :
    (ledger.requested attempts request).stream =
      ledger.stream ++ [(generate (ledger.attempted attempts).inner request).1] := by
  rw [← ledger.attempted_stream attempts]
  simp [stream, segments, requested, generateAll_concat, inner]

end Ledger

end

namespace Fleet

variable {R Error GenError : Type} {log : List (RngEvent R Error GenError)}
  {event : RngEvent R Error GenError}

def outputOf (id : Nat) : RngEvent R Error GenError → Option (Output GenError)
  | .requested of _ _ output => if of = id then some output else none
  | _ => none

/-- All that a generator has returned. -/
def outputs (id : Nat) (log : List (RngEvent R Error GenError)) : List (Output GenError) :=
  log.filterMap (outputOf id)

theorem outputs_concat (id : Nat) :
    outputs id (log ++ [event]) = outputs id log ++ (outputOf id event).toList := by
  simp only [outputs, List.filterMap_append]
  cases same : outputOf id event <;> simp [same]

variable [TryRng R GenError]

def record (ledgers : Nat → Option (Ledger R Error)) :
    RngEvent R Error GenError → Nat → Option (Ledger R Error)
  | .created id threshold inner => Function.update ledgers id (some (.new threshold inner))
  | .refused _ _ => ledgers
  | .requested id attempts request _ =>
      Function.update ledgers id ((ledgers id).map fun ledger => ledger.requested attempts request)
  | .reseeded id attempts result =>
      Function.update ledgers id ((ledgers id).map fun ledger => ledger.reseeded attempts result)
  | .cloned id clone => Function.update ledgers clone ((ledgers id).map Ledger.clone)

/-- The account of every generator, read off the log. -/
def ledgers (log : List (RngEvent R Error GenError)) : Nat → Option (Ledger R Error) :=
  log.foldl record (fun _ => none)

theorem ledgers_concat :
    ledgers (log ++ [event]) = record (ledgers log) event := by
  simp only [ledgers, List.foldl_append, List.foldl_cons, List.foldl_nil]

end Fleet

end RsMatterStack
