import RsMatterStack.RngLedger

set_option autoImplicit false

/-! What the calls of a generator do, and each kind of step of the generators. -/

namespace RsMatterStack

namespace ReseedingRng

section

variable {R Rsdr Error : Type} [SeedableRng R Rsdr Error] {rng after : ReseedingRng R Rsdr}
  {attempts : List (Except Error R)}

theorem limit_toInt (threshold : UInt64) :
    (if threshold = 0 ∨ Int64.maxValue.toUInt64 < threshold then Int64.maxValue
      else threshold.toInt64).toInt = effectiveThreshold threshold := by
  have most : Int64.maxValue.toUInt64.toNat = 2 ^ 63 - 1 := by decide
  unfold effectiveThreshold
  simp only [UInt64.lt_iff_toNat_lt, most]
  split
  · decide
  · rename_i fits
    have small : 2 * threshold.toNat < 2 ^ 64 := by omega
    have cast : threshold.toInt64.toInt = threshold.toBitVec.toInt := rfl
    rw [cast, BitVec.toInt_eq_toNat_cond, UInt64.toNat_toBitVec, if_pos small]

theorem new_cases (threshold : UInt64) (outcomes : List (Except Error R)) (reseeder : Rsdr) :
    (∃ error later, new threshold outcomes reseeder = (.error error, later)) ∨
    ∃ rng later, new threshold outcomes reseeder = (.ok rng, later) ∧
      rng.threshold.toInt = effectiveThreshold threshold ∧
      rng.bytesUntilReseed = rng.threshold := by
  unfold new fromRng
  rcases SeedableRng.tryFromRng outcomes reseeder with ⟨error | inner, left⟩
  · exact .inl ⟨error, _, rfl⟩
  · exact .inr ⟨_, _, rfl, limit_toInt threshold, rfl⟩

/-- A call of `reseed`: its attempt, its result and the generator after it. -/
inductive Reseeds (rng : ReseedingRng R Rsdr) :
    List (Except Error R) → Except Error Unit → ReseedingRng R Rsdr → Prop
  | failed (error : Error) (reseeder : Rsdr) :
      Reseeds rng [.error error] (.error error) { rng with reseeder := reseeder }
  | seeded (inner : R) (reseeder : Rsdr) :
      Reseeds rng [.ok inner] (.ok ()) ⟨inner, reseeder, rng.threshold, rng.threshold⟩

theorem reseed_cases (rng : ReseedingRng R Rsdr) (outcomes : List (Except Error R)) :
    ∃ attempts, (rng.reseed outcomes).2.2 = outcomes ++ attempts ∧
      Reseeds rng attempts (rng.reseed outcomes).1 (rng.reseed outcomes).2.1 := by
  unfold reseed fromRng
  rcases SeedableRng.tryFromRng outcomes rng.reseeder with ⟨error | inner, reseeder⟩
  · exact ⟨_, rfl, .failed error reseeder⟩
  · exact ⟨_, rfl, .seeded inner reseeder⟩

/-- What `before_generate` does, with its attempts. -/
inductive Prepares (rng : ReseedingRng R Rsdr) (numBytes : Nat) :
    List (Except Error R) → ReseedingRng R Rsdr → Prop
  | early (left : 0 < rng.bytesUntilReseed.toInt) :
      Prepares rng numBytes []
        { rng with bytesUntilReseed := rng.bytesUntilReseed - Int64.ofNat numBytes }
  | failed (due : rng.bytesUntilReseed.toInt ≤ 0) (error : Error) (reseeder : Rsdr) :
      Prepares rng numBytes [.error error]
        ⟨rng.inner, reseeder, rng.threshold, rng.threshold - Int64.ofNat numBytes⟩
  | seeded (due : rng.bytesUntilReseed.toInt ≤ 0) (inner : R) (reseeder : Rsdr) :
      Prepares rng numBytes [.ok inner]
        ⟨inner, reseeder, rng.threshold, rng.threshold - Int64.ofNat numBytes⟩

theorem beforeGenerate_cases (rng : ReseedingRng R Rsdr) (outcomes : List (Except Error R))
    (numBytes : Nat) :
    ∃ attempts, (rng.beforeGenerate outcomes numBytes).2 = outcomes ++ attempts ∧
      Prepares rng numBytes attempts (rng.beforeGenerate outcomes numBytes).1 := by
  by_cases due : rng.bytesUntilReseed ≤ 0
  · have spent : rng.bytesUntilReseed.toInt ≤ 0 := by
      simpa only [Int64.le_iff_toInt_le, Int64.toInt_zero] using due
    simp only [beforeGenerate, if_pos due, reseedAtThreshold, reseed, fromRng]
    rcases SeedableRng.tryFromRng outcomes rng.reseeder with ⟨error | inner, reseeder⟩
    · exact ⟨_, rfl, .failed spent error reseeder⟩
    · exact ⟨_, rfl, .seeded spent inner reseeder⟩
  · have left : 0 < rng.bytesUntilReseed.toInt := by
      simpa only [Int64.le_iff_toInt_le, Int64.toInt_zero, Int.not_le] using due
    simp only [beforeGenerate, if_neg due]
    exact ⟨[], (List.append_nil _).symm, .early left⟩

variable {GenError : Type} [TryRng R GenError]

/-- Every request is `before_generate` and then the same request of the inner PRNG. -/
theorem request_eq (rng : ReseedingRng R Rsdr) (outcomes : List (Except Error R))
    (request : Request) :
    rng.request outcomes request =
      let prepared := rng.beforeGenerate outcomes request.numBytes
      ((generate prepared.1.inner request).1,
        { prepared.1 with inner := (generate prepared.1.inner request).2 }, prepared.2) := by
  cases request <;> rfl

end

end ReseedingRng

namespace Fleet

variable {R Rsdr Error GenError : Type} [SeedableRng R Rsdr Error] [TryRng R GenError]
  {fleet next : Fleet R Rsdr Error} {action : RngAction Rsdr}
  {events log : List (RngEvent R Error GenError)}

/-- Each kind of step of the generators. -/
inductive Step (fleet : Fleet R Rsdr Error) :
    RngAction Rsdr → List (RngEvent R Error GenError) → Fleet R Rsdr Error → Prop
  | refused {id : Nat} {threshold : UInt64} {reseeder : Rsdr}
      (error : Error) (outcomes : List (Except Error R)) :
      Step fleet (.new id threshold reseeder) [.refused id error]
        { fleet with outcomes := outcomes }
  | created {id : Nat} {threshold : UInt64} {reseeder : Rsdr} (rng : ReseedingRng R Rsdr)
      (outcomes : List (Except Error R)) (free : fleet.rngs id = none)
      (limit : rng.threshold.toInt = effectiveThreshold threshold)
      (full : rng.bytesUntilReseed = rng.threshold) :
      Step fleet (.new id threshold reseeder) [.created id threshold rng.inner]
        (fleet.put id rng outcomes)
  | requested {id : Nat} {request : Request} {rng prepared : ReseedingRng R Rsdr}
      {attempts : List (Except Error R)} (held : fleet.rngs id = some rng)
      (prepares : rng.Prepares request.numBytes attempts prepared) :
      Step fleet (.request id request)
        [.requested id attempts request (generate prepared.inner request).1]
        (fleet.put id { prepared with inner := (generate prepared.inner request).2 }
          (fleet.outcomes ++ attempts))
  | reseeded {id : Nat} {rng after : ReseedingRng R Rsdr} {attempts : List (Except Error R)}
      {result : Except Error Unit} (held : fleet.rngs id = some rng)
      (reseeds : rng.Reseeds attempts result after) :
      Step fleet (.reseed id) [.reseeded id attempts result]
        (fleet.put id after (fleet.outcomes ++ attempts))
  | cloned {id clone : Nat} {rng : ReseedingRng R Rsdr} (held : fleet.rngs id = some rng)
      (free : fleet.rngs clone = none) :
      Step fleet (.clone id clone) [.cloned id clone] (fleet.put clone rng.clone fleet.outcomes)

theorem step_cases (moved : machine.step fleet action = some (next, events)) :
    Step fleet action events next := by
  cases action with
  | new id threshold reseeder =>
      simp only [machine, step] at moved
      split at moved
      · cases moved
      · rename_i free
        rcases ReseedingRng.new_cases threshold fleet.outcomes reseeder with
          ⟨error, later, same⟩ | ⟨rng, later, same, limit, full⟩
        · simp only [same, Option.some.injEq, Prod.mk.injEq] at moved
          obtain ⟨rfl, rfl⟩ := moved
          exact .refused error later
        · simp only [same, Option.some.injEq, Prod.mk.injEq] at moved
          obtain ⟨rfl, rfl⟩ := moved
          exact .created rng later free limit full
  | request id request =>
      simp only [machine, step] at moved
      split at moved
      · cases moved
      · rename_i rng held
        obtain ⟨attempts, grown, prepares⟩ :=
          rng.beforeGenerate_cases fleet.outcomes request.numBytes
        rw [ReseedingRng.request_eq] at moved
        simp only [grown, List.drop_left, Option.some.injEq, Prod.mk.injEq] at moved
        obtain ⟨rfl, rfl⟩ := moved
        exact .requested held prepares
  | reseed id =>
      simp only [machine, step] at moved
      split at moved
      · cases moved
      · rename_i rng held
        obtain ⟨attempts, grown, reseeds⟩ := rng.reseed_cases fleet.outcomes
        simp only [grown, List.drop_left, Option.some.injEq, Prod.mk.injEq] at moved
        obtain ⟨rfl, rfl⟩ := moved
        exact .reseeded held reseeds
  | clone id clone =>
      simp only [machine, step] at moved
      split at moved
      · rename_i rng held free
        cases Option.some.inj moved
        exact .cloned held free
      · cases moved

end Fleet

end RsMatterStack
