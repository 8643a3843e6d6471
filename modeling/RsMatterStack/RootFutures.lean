import RsMatterStack.ResetDiscipline

set_option autoImplicit false

/-! Where a call has its root future, and where its reset of the bump allocator is still to
come. -/

namespace RsMatterStack

namespace Call

/-- The root future is there, and awaited. -/
def awaits (call : Call) : Bool :=
  !call.unwinding && decide (call.method.body[call.pc]? = some .awaitRoot)

/-- `_defer` is still to reset the bump allocator. -/
def resets (call : Call) : Bool := call.unwinding && decide (.defer ∈ call.frame)

end Call

namespace Shared

def awaits (state : Shared) (id : Nat) : Bool := (state.calls id).any Call.awaits

def resets (state : Shared) (id : Nat) : Bool := (state.calls id).any Call.resets

/-- The statement that a call has come to. -/
def statement (state : Shared) (id : Nat) : Option (Method × Stmt) :=
  match state.calls id with
  | none => none
  | some call =>
      if call.unwinding then none
      else (call.method.body[call.pc]?).map fun stmt => (call.method, stmt)

/-- The destructor that runs next is that of `_defer`. -/
def defers (state : Shared) (id : Nat) : Bool :=
  match state.calls id with
  | some ⟨_, _, .defer :: _, true⟩ => true
  | _ => false

end Shared

namespace Method

/-- A root future is awaited right after it is allocated. -/
theorem awaitRoot_next {method : Method} {pc : Nat} {stmt : Stmt}
    (located : method.body[pc]? = some stmt) :
    method.body[pc + 1]? = some .awaitRoot ↔ stmt = .allocRoot := by
  have checked : ∀ pc < method.body.length,
      method.body[pc + 1]? = some .awaitRoot ↔ method.body[pc]? = some .allocRoot := by
    cases method <;> decide
  rw [checked pc (located_lt located), located, Option.some.injEq]

/-- Wherever the transport is reset or the root future allocated, `_defer` is there. -/
theorem defer_live {method : Method} {pc : Nat} {stmt : Stmt}
    (located : method.body[pc]? = some stmt)
    (entering : stmt = .resetTransport ∨ stmt = .allocRoot ∨ stmt = .awaitRoot) :
    .defer ∈ method.frameAt pc := by
  have checked : ∀ pc < method.body.length, method.body[pc]? = some .resetTransport ∨
      method.body[pc]? = some .allocRoot ∨ method.body[pc]? = some .awaitRoot →
      .defer ∈ method.frameAt pc := by
    cases method <;> decide
  refine checked pc (located_lt located) ?_
  simpa only [located, Option.some.injEq] using entering

end Method

namespace Shared

variable {state next : Shared} {action : CallAction} {events : List CallEvent} {id : Nat}
  {call : Call}

theorem awaits_spec (awaits : state.awaits id = true) :
    ∃ call, state.calls id = some call ∧ call.unwinding = false ∧
      call.method.body[call.pc]? = some .awaitRoot := by
  obtain ⟨call, known, there⟩ := (Option.any_eq_true _ _).mp awaits
  simp only [Call.awaits, Bool.and_eq_true, Bool.not_eq_true', decide_eq_true_eq] at there
  exact ⟨call, known, there⟩

theorem resets_spec (resets : state.resets id = true) :
    ∃ call, state.calls id = some call ∧ call.unwinding = true ∧ .defer ∈ call.frame := by
  obtain ⟨call, known, there⟩ := (Option.any_eq_true _ _).mp resets
  simp only [Call.resets, Bool.and_eq_true, decide_eq_true_eq] at there
  exact ⟨call, known, there⟩

theorem statement_spec {method : Method} {stmt : Stmt}
    (found : state.statement id = some (method, stmt)) :
    ∃ call, state.calls id = some call ∧ call.unwinding = false ∧
      call.method.body[call.pc]? = some stmt ∧
      ∀ ok, machine.step state (.step id ok) = state.execute id call ok stmt := by
  unfold statement at found
  split at found
  · cases found
  · rename_i call known
    obtain ⟨running, found⟩ := Option.ite_none_left_eq_some.mp found
    obtain ⟨there, located, same⟩ := Option.map_eq_some_iff.mp found
    cases same
    refine ⟨call, known, Bool.not_eq_true _ ▸ running, located, ?_⟩
    intro ok
    simp only [machine, step, known, running, located, Bool.false_eq_true, ↓reduceIte]

/-- A call with a local that is not gone holds `run_lock`. -/
theorem Exclusive.holds (now : Exclusive state) (known : state.calls id = some call)
    {binding : Local} (live : binding ∈ call.frame) : state.runLock = some id := by
  rw [now.lock, frame_eq known]
  exact (now.valid id call known).lock_mem (List.ne_nil_of_mem live)

theorem Exclusive.awaits_holds (now : Exclusive state) (awaits : state.awaits id = true) :
    state.runLock = some id := by
  obtain ⟨call, known, running, located⟩ := awaits_spec awaits
  have live : .netTask ∈ call.frame := by
    rw [(now.valid id call known).running running]
    exact Method.netTask_live located
  exact now.holds known live

theorem Exclusive.resets_holds (now : Exclusive state) (resets : state.resets id = true) :
    state.runLock = some id := by
  obtain ⟨call, known, _, live⟩ := resets_spec resets
  exact now.holds known live

/-- No root future comes or goes, and every reset of the allocator is still to come. -/
structure Quiet (state next : Shared) : Prop where
  awaits : ∀ id, next.awaits id = state.awaits id
  resets : ∀ id, state.resets id = true → next.resets id = true

theorem Quiet.of_calls (same : next.calls = state.calls) : Quiet state next := by
  constructor
  · intro id
    simp only [Shared.awaits, same]
  · intro id resets
    simpa only [Shared.resets, same] using resets

theorem awaits_update {other : Nat}
    (same : next.calls = Function.update state.calls id (some call)) :
    next.awaits other = if other = id then call.awaits else state.awaits other := by
  by_cases moved : other = id
  · subst moved
    simp [Shared.awaits, same]
  · simp [Shared.awaits, same, moved]

theorem resets_update {other : Nat}
    (same : next.calls = Function.update state.calls id (some call)) :
    next.resets other = if other = id then call.resets else state.resets other := by
  by_cases moved : other = id
  · subst moved
    simp [Shared.resets, same]
  · simp [Shared.resets, same, moved]

theorem Quiet.of_update {new : Call}
    (same : next.calls = Function.update state.calls id (some new))
    (awaits : new.awaits = state.awaits id) (resets : state.resets id = true → new.resets = true) :
    Quiet state next := by
  constructor
  · intro other
    rw [awaits_update same]
    split
    · rename_i moved
      rw [moved, awaits]
    · rfl
  · intro other still
    rw [resets_update same]
    split
    · rename_i moved
      exact resets (moved ▸ still)
    · exact still

theorem awaits_eq (known : state.calls id = some call) : state.awaits id = call.awaits := by
  simp [Shared.awaits, known]

theorem resets_eq (known : state.calls id = some call) : state.resets id = call.resets := by
  simp [Shared.resets, known]

theorem awaits_located (known : state.calls id = some call) (running : call.unwinding = false)
    {stmt : Stmt} (located : call.method.body[call.pc]? = some stmt) :
    state.awaits id = decide (stmt = .awaitRoot) := by
  rw [awaits_eq known, Call.awaits, running, located]
  simp

theorem resets_running (known : state.calls id = some call) (running : call.unwinding = false) :
    state.resets id = false := by
  rw [resets_eq known, Call.resets, running]
  rfl

/-- A call stops that has no root future to be awaited. -/
theorem Quiet.stop (known : state.calls id = some call) (running : call.unwinding = false)
    (other : state.awaits id = false) : Quiet state (state.stop id call) := by
  refine .of_update rfl ?_ ?_
  · rw [other]
    rfl
  · rw [resets_running known running]
    simp

theorem Quiet.onward (known : state.calls id = some call) (running : call.unwinding = false)
    {stmt : Stmt} (located : call.method.body[call.pc]? = some stmt)
    (other : stmt ≠ .awaitRoot ∧ stmt ≠ .allocRoot) {frame : List Local}
    (same : next.calls =
      Function.update state.calls id (some { call with pc := call.pc + 1, frame := frame })) :
    Quiet state next := by
  refine .of_update same ?_ ?_
  · rw [awaits_located known running located]
    simp [Call.awaits, running, Method.awaitRoot_next located, other]
  · rw [resets_running known running]
    simp

/-- A statement but for the two of the root future. -/
theorem Quiet.statement {method : Method} {stmt : Stmt} {ok : Bool}
    (found : state.statement id = some (method, stmt))
    (other : stmt ≠ .awaitRoot ∧ (stmt = .allocRoot → ok = false))
    (moved : machine.step state (.step id ok) = some (next, events)) : Quiet state next := by
  obtain ⟨call, known, running, located, executes⟩ := statement_spec found
  have unawaited : state.awaits id = false := by
    rw [awaits_located known running located]
    simp [other.1]
  rw [executes] at moved
  cases stmt with
  | lockRun | lockNetworks =>
      obtain ⟨_, same⟩ := Option.ite_none_right_eq_some.mp moved
      cases Option.some.inj same
      exact .onward known running located (by simp) rfl
  | deferReset =>
      cases Option.some.inj moved
      exact .onward known running located (by simp) rfl
  | resetTransport =>
      cases ok with
      | true =>
          cases Option.some.inj moved
          exact .onward known running located (by simp) rfl
      | false =>
          cases Option.some.inj moved
          exact .stop known running unawaited
  | allocRoot =>
      cases other.2 rfl
      cases Option.some.inj moved
      exact .stop known running unawaited
  | awaitRoot => exact absurd rfl other.1

theorem root_awaits {method : Method} (found : state.statement id = some (method, .allocRoot))
    (moved : machine.step state (.step id true) = some (next, events)) (other : Nat) :
    next.awaits other = if other = id then true else state.awaits other := by
  obtain ⟨call, known, running, located, executes⟩ := statement_spec found
  rw [executes] at moved
  cases Option.some.inj moved
  have same : Call.awaits { call with pc := call.pc + 1, frame := .netTask :: call.frame } =
      true := by
    simp [Call.awaits, running, (Method.awaitRoot_next located).mpr rfl]
  rw [awaits_update rfl, same]

/-- A call ends with its root future. -/
structure Ends (state next : Shared) (id : Nat) : Prop where
  awaits : ∀ other, next.awaits other = true → other ≠ id ∧ state.awaits other = true
  resets : next.resets id = true

theorem Exclusive.ends (now : Exclusive state) (awaits : state.awaits id = true)
    (moved : machine.step state action = some (next, events))
    (ending : action = .cancel id ∨ ∃ ok, action = .step id ok) : Ends state next id := by
  obtain ⟨call, known, running, located⟩ := awaits_spec awaits
  have stopped : next = state.stop id call := by
    rcases ending with rfl | ⟨ok, rfl⟩
    · simp only [machine, step, known, running, Bool.false_eq_true, ↓reduceIte, Option.some.injEq,
        Prod.mk.injEq] at moved
      exact moved.1.symm
    · simp only [machine, step, known, running, located, execute, Bool.false_eq_true, ↓reduceIte,
        Option.some.injEq, Prod.mk.injEq] at moved
      exact moved.1.symm
  subst stopped
  constructor
  · intro other still
    rw [awaits_update rfl] at still
    split at still
    · cases still
    · rename_i different
      exact ⟨different, still⟩
  · have live : .defer ∈ call.frame := by
      rw [(now.valid id call known).running running]
      exact Method.defer_live located (.inr (.inr rfl))
    rw [resets_update rfl, if_pos rfl]
    simp [Call.resets, live]

theorem Quiet.called {method : Method}
    (moved : machine.step state (.call id method) = some (next, events)) : Quiet state next := by
  obtain ⟨unused, same⟩ := Option.ite_none_right_eq_some.mp moved
  cases Option.some.inj same
  have first : Call.awaits ⟨method, 0, [], false⟩ = false := by
    cases method <;> decide
  refine .of_update rfl ?_ ?_
  · rw [first]
    simp [Shared.awaits, unused]
  · simp [Shared.resets, unused]

theorem Quiet.drop (moved : machine.step state (.drop id) = some (next, events)) :
    Quiet state next := by
  obtain ⟨_, same⟩ := Option.ite_none_right_eq_some.mp moved
  cases Option.some.inj same
  exact .of_calls rfl

theorem Quiet.alloc (moved : machine.step state (.alloc id) = some (next, events)) :
    Quiet state next := by
  simp only [machine, step] at moved
  split at moved
  · cases moved
  · obtain ⟨_, same⟩ := Option.ite_none_right_eq_some.mp moved
    cases Option.some.inj same
    exact .of_calls rfl

theorem Quiet.cancel (other : state.awaits id = false)
    (moved : machine.step state (.cancel id) = some (next, events)) : Quiet state next := by
  simp only [machine, step] at moved
  split at moved
  · cases moved
  · rename_i call known
    obtain ⟨running, same⟩ := Option.ite_none_left_eq_some.mp moved
    cases Option.some.inj same
    exact .stop known (Bool.not_eq_true _ ▸ running) other

theorem Quiet.pop {rest : List Local} (known : state.calls id = some call)
    (unwinding : call.unwinding = true) (keeps : .defer ∈ call.frame → .defer ∈ rest)
    (same : next.calls = Function.update state.calls id (some { call with frame := rest })) :
    Quiet state next := by
  refine .of_update same ?_ ?_
  · rw [awaits_eq known]
    rfl
  · rw [resets_eq known]
    simpa [Call.resets, unwinding] using keeps

theorem defers_resets (defers : state.defers id = true) : state.resets id = true := by
  unfold Shared.defers at defers
  split at defers
  · rename_i known
    simp [Shared.resets, known, Call.resets]
  · cases defers

/-- A destructor runs; unless it is that of `_defer`, all resets are still to come. -/
theorem Quiet.unwind (moved : machine.step state (.unwind id) = some (next, events)) :
    (∀ other, next.awaits other = state.awaits other) ∧
      (state.defers id = false → Quiet state next) := by
  simp only [machine, step] at moved
  split at moved
  · cases moved
  · rename_i call known
    obtain ⟨unwinding, moved⟩ := Option.ite_none_right_eq_some.mp moved
    split at moved
    · cases moved
    · rename_i newest rest frame
      have same :
          next.calls = Function.update state.calls id (some { call with frame := rest }) := by
        cases newest with
        | netTask =>
            obtain ⟨_, same⟩ := Option.ite_none_right_eq_some.mp moved
            cases Option.some.inj same
            rfl
        | defer | networks | lock =>
            cases Option.some.inj moved
            rfl
      constructor
      · intro other
        rw [awaits_update same]
        split
        · rename_i moved
          rw [moved, awaits_eq known]
          rfl
        · rfl
      · intro other
        refine .pop known unwinding ?_ same
        intro live
        rw [frame] at live
        rcases List.mem_cons.mp live with rfl | older
        · obtain ⟨method, pc, locals, dropping⟩ := call
          cases frame
          cases unwinding
          simp [Shared.defers, known] at other
        · exact older

end Shared

end RsMatterStack
