import Mathlib.Algebra.Group.Nat.Defs
import Mathlib.Logic.Function.Basic
import RsMatterStack.Transition

set_option autoImplicit false

/-! `ReseedingRng`, and any number of generators that are created, used and cloned. -/

namespace RsMatterStack

open Transition (Machine)

/-- `isize::MAX`, the most bytes of any slice. -/
def isizeMax : Nat := 2 ^ 63 - 1

abbrev Buffer := { dest : List UInt8 // dest.length ≤ isizeMax }

/-- The calls of a `TryRng`. -/
inductive Request
  | nextU32
  | nextU64
  | fillBytes (dest : Buffer)

inductive Output (Error : Type)
  | u32 (result : Except Error UInt32)
  | u64 (result : Except Error UInt64)
  | bytes (result : Except Error Unit) (dest : List UInt8)

/-- A PRNG: what each call returns, also into its buffer, and the PRNG after it. -/
class TryRng (R : Type) (Error : outParam Type) where
  tryNextU32 : R → Except Error UInt32 × R
  tryNextU64 : R → Except Error UInt64 × R
  tryFillBytes : R → List UInt8 → Except Error Unit × List UInt8 × R

/-- `try_from_rng` of a PRNG, for a reseeder: what it returns may depend on the outcomes of
all calls so far, whoever made them. -/
class SeedableRng (R Rsdr : Type) (Error : outParam Type) where
  tryFromRng : List (Except Error R) → Rsdr → Except Error R × Rsdr

structure ReseedingRng (R Rsdr : Type) where
  inner : R
  reseeder : Rsdr
  threshold : Int64
  bytesUntilReseed : Int64

namespace ReseedingRng

section

variable {R Rsdr Error : Type} [SeedableRng R Rsdr Error]

/-- `R::try_from_rng`, with the outcomes of all calls after it. -/
def fromRng (outcomes : List (Except Error R)) (reseeder : Rsdr) :
    Except Error R × Rsdr × List (Except Error R) :=
  let (outcome, reseeder) := SeedableRng.tryFromRng outcomes reseeder
  (outcome, reseeder, outcomes ++ [outcome])

def new (threshold : UInt64) (outcomes : List (Except Error R)) (reseeder : Rsdr) :
    Except Error (ReseedingRng R Rsdr) × List (Except Error R) :=
  let threshold : Int64 :=
    if threshold = 0 ∨ Int64.maxValue.toUInt64 < threshold then Int64.maxValue
    else threshold.toInt64
  match fromRng outcomes reseeder with
  | (.error error, _, outcomes) => (.error error, outcomes)
  | (.ok inner, reseeder, outcomes) => (.ok ⟨inner, reseeder, threshold, threshold⟩, outcomes)

def reseed (rng : ReseedingRng R Rsdr) (outcomes : List (Except Error R)) :
    Except Error Unit × ReseedingRng R Rsdr × List (Except Error R) :=
  match fromRng outcomes rng.reseeder with
  | (.error error, reseeder, outcomes) =>
      (.error error, { rng with reseeder := reseeder }, outcomes)
  | (.ok inner, reseeder, outcomes) =>
      (.ok (), { rng with
        inner := inner
        reseeder := reseeder
        bytesUntilReseed := rng.threshold }, outcomes)

def reseedAtThreshold (rng : ReseedingRng R Rsdr) (outcomes : List (Except Error R)) :
    ReseedingRng R Rsdr × List (Except Error R) :=
  match rng.reseed outcomes with
  -- Retry after the next threshold worth of bytes
  | (.error _, rng, outcomes) => ({ rng with bytesUntilReseed := rng.threshold }, outcomes)
  | (.ok _, rng, outcomes) => (rng, outcomes)

def beforeGenerate (rng : ReseedingRng R Rsdr) (outcomes : List (Except Error R))
    (numBytes : Nat) : ReseedingRng R Rsdr × List (Except Error R) :=
  let (rng, outcomes) :=
    if rng.bytesUntilReseed ≤ 0 then rng.reseedAtThreshold outcomes else (rng, outcomes)
  ({ rng with bytesUntilReseed := rng.bytesUntilReseed - Int64.ofNat numBytes }, outcomes)

/-- The clone is reseeded on first use. -/
def clone (rng : ReseedingRng R Rsdr) : ReseedingRng R Rsdr :=
  { rng with bytesUntilReseed := 0 }

variable {GenError : Type} [TryRng R GenError]

def tryNextU32 (rng : ReseedingRng R Rsdr) (outcomes : List (Except Error R)) :
    Except GenError UInt32 × ReseedingRng R Rsdr × List (Except Error R) :=
  let (rng, outcomes) := rng.beforeGenerate outcomes 4
  let (result, inner) := TryRng.tryNextU32 rng.inner
  (result, { rng with inner := inner }, outcomes)

def tryNextU64 (rng : ReseedingRng R Rsdr) (outcomes : List (Except Error R)) :
    Except GenError UInt64 × ReseedingRng R Rsdr × List (Except Error R) :=
  let (rng, outcomes) := rng.beforeGenerate outcomes 8
  let (result, inner) := TryRng.tryNextU64 rng.inner
  (result, { rng with inner := inner }, outcomes)

def tryFillBytes (rng : ReseedingRng R Rsdr) (outcomes : List (Except Error R))
    (dest : List UInt8) :
    (Except GenError Unit × List UInt8) × ReseedingRng R Rsdr × List (Except Error R) :=
  let (rng, outcomes) := rng.beforeGenerate outcomes dest.length
  let (result, dest, inner) := TryRng.tryFillBytes rng.inner dest
  ((result, dest), { rng with inner := inner }, outcomes)

def request (rng : ReseedingRng R Rsdr) (outcomes : List (Except Error R)) :
    Request → Output GenError × ReseedingRng R Rsdr × List (Except Error R)
  | .nextU32 =>
      let (result, after) := rng.tryNextU32 outcomes
      (.u32 result, after)
  | .nextU64 =>
      let (result, after) := rng.tryNextU64 outcomes
      (.u64 result, after)
  | .fillBytes dest =>
      let ((result, dest), after) := rng.tryFillBytes outcomes dest.val
      (.bytes result dest, after)

end

end ReseedingRng

/-- All generators, with the outcomes of all calls of `try_from_rng` so far. -/
structure Fleet (R Rsdr Error : Type) where
  rngs : Nat → Option (ReseedingRng R Rsdr)
  outcomes : List (Except Error R)

inductive RngAction (Rsdr : Type)
  | new (id : Nat) (threshold : UInt64) (reseeder : Rsdr)
  | request (id : Nat) (request : Request)
  | reseed (id : Nat)
  | clone (id : Nat) (cloned : Nat)

/-- `attempts` are the outcomes of the calls of `try_from_rng` that a step has made. -/
inductive RngEvent (R Error GenError : Type)
  | created (id : Nat) (threshold : UInt64) (inner : R)
  | refused (id : Nat) (error : Error)
  | requested (id : Nat) (attempts : List (Except Error R)) (request : Request)
      (output : Output GenError)
  | reseeded (id : Nat) (attempts : List (Except Error R)) (result : Except Error Unit)
  | cloned (id : Nat) (clone : Nat)

namespace Fleet

variable {R Rsdr Error GenError : Type} [SeedableRng R Rsdr Error] [TryRng R GenError]

def empty : Fleet R Rsdr Error := ⟨fun _ => none, []⟩

def put (fleet : Fleet R Rsdr Error) (id : Nat) (rng : ReseedingRng R Rsdr)
    (outcomes : List (Except Error R)) : Fleet R Rsdr Error :=
  ⟨Function.update fleet.rngs id (some rng), outcomes⟩

def step (fleet : Fleet R Rsdr Error) :
    RngAction Rsdr → Option (Fleet R Rsdr Error × List (RngEvent R Error GenError))
  | .new id threshold reseeder =>
      match fleet.rngs id with
      | some _ => none
      | none =>
          match ReseedingRng.new threshold fleet.outcomes reseeder with
          | (.error error, outcomes) =>
              some ({ fleet with outcomes := outcomes }, [.refused id error])
          | (.ok rng, outcomes) =>
              some (fleet.put id rng outcomes, [.created id threshold rng.inner])
  | .request id request =>
      match fleet.rngs id with
      | none => none
      | some rng =>
          let (output, rng, outcomes) := rng.request fleet.outcomes request
          some (fleet.put id rng outcomes,
            [.requested id (outcomes.drop fleet.outcomes.length) request output])
  | .reseed id =>
      match fleet.rngs id with
      | none => none
      | some rng =>
          let (result, rng, outcomes) := rng.reseed fleet.outcomes
          some (fleet.put id rng outcomes,
            [.reseeded id (outcomes.drop fleet.outcomes.length) result])
  | .clone id cloned =>
      match fleet.rngs id, fleet.rngs cloned with
      | some rng, none => some (fleet.put cloned rng.clone fleet.outcomes, [.cloned id cloned])
      | _, _ => none

def machine : Machine (Fleet R Rsdr Error) (RngAction Rsdr) (RngEvent R Error GenError) := ⟨step⟩

end Fleet

end RsMatterStack
