import RsMatterStack.RunLock

set_option autoImplicit false

/-! Boxes, `run_lock` and the reset of the bump allocator, over all interleavings. -/

namespace RsMatterStack

open Transition (Reachable Everywhere Machine)

namespace Method

variable {method : Method} {pc : Nat}

theorem frameAt_bind {stmt : Stmt} {newest : Local} (located : method.body[pc]? = some stmt)
    (binds : stmt.binds = some newest) :
    method.frameAt (pc + 1) = newest :: method.frameAt pc := by
  simp [frameAt, List.take_add_one, located, binds]

theorem frameAt_pass {stmt : Stmt} (located : method.body[pc]? = some stmt)
    (binds : stmt.binds = none) : method.frameAt (pc + 1) = method.frameAt pc := by
  simp [frameAt, List.take_add_one, located, binds]

/-- The locals so far are the older ones of all locals. -/
theorem frameAt_suffix : method.frameAt pc <:+ method.frameAt method.body.length := by
  unfold frameAt
  rw [List.take_length, List.reverse_suffix]
  exact (List.take_prefix pc method.body).filterMap Stmt.binds

theorem located_lt {stmt : Stmt} (located : method.body[pc]? = some stmt) :
    pc < method.body.length := (List.getElem?_eq_some_iff.mp located).1

theorem lockRun_first (located : method.body[pc]? = some .lockRun) : pc = 0 := by
  have checked : ∀ pc < method.body.length, method.body[pc]? = some .lockRun → pc = 0 := by
    cases method <;> decide
  exact checked pc (located_lt located) located

theorem netTask_live (located : method.body[pc]? = some .awaitRoot) :
    .netTask ∈ method.frameAt pc := by
  have checked : ∀ pc < method.body.length, method.body[pc]? = some .awaitRoot →
      .netTask ∈ method.frameAt pc := by
    cases method <;> decide
  exact checked pc (located_lt located) located

/-- Of what is left of a frame, the newest local goes next: the root box is never below
another local, and the guard of `run_lock` is below all of them. -/
def Ordered : List Local → Prop
  | [] => True
  | newest :: rest => .netTask ∉ rest ∧ (newest = .lock ∧ rest = [] ∨ newest ≠ .lock ∧ .lock ∈ rest)

instance : (frame : List Local) → Decidable (Ordered frame)
  | [] => isTrue trivial
  | newest :: rest => inferInstanceAs (Decidable (.netTask ∉ rest ∧
      (newest = .lock ∧ rest = [] ∨ newest ≠ .lock ∧ .lock ∈ rest)))

theorem ordered {frame : List Local} (suffix : frame <:+ method.frameAt method.body.length) :
    Ordered frame := by
  have checked : ∀ frame ∈ (method.frameAt method.body.length).tails, Ordered frame := by
    cases method <;> decide
  exact checked frame ((List.mem_tails _ _).mpr suffix)

end Method

/-- A call that goes on has the locals of its place; its locals only ever go in order. -/
structure Call.Valid (call : Call) : Prop where
  running : call.unwinding = false → call.frame = call.method.frameAt call.pc
  suffix : call.frame <:+ call.method.frameAt call.method.body.length
  entered : call.frame ≠ [] → 0 < call.pc

namespace Call

variable {call : Call} {newest : Local} {rest : List Local}

theorem Valid.bind (valid : call.Valid) {stmt : Stmt} (running : call.unwinding = false)
    (located : call.method.body[call.pc]? = some stmt) (binds : stmt.binds = some newest) :
    Valid { call with pc := call.pc + 1, frame := newest :: call.frame } := by
  have same : newest :: call.frame = call.method.frameAt (call.pc + 1) := by
    rw [Method.frameAt_bind located binds, valid.running running]
  constructor
  · intro _
    exact same
  · show newest :: call.frame <:+ _
    rw [same]
    exact Method.frameAt_suffix
  · intro _
    exact Nat.succ_pos _

theorem Valid.pass (valid : call.Valid) {stmt : Stmt} (running : call.unwinding = false)
    (located : call.method.body[call.pc]? = some stmt) (binds : stmt.binds = none) :
    Valid { call with pc := call.pc + 1 } := by
  constructor
  · intro _
    exact (valid.running running).trans (Method.frameAt_pass located binds).symm
  · exact valid.suffix
  · intro _
    exact Nat.succ_pos _

theorem Valid.stop (valid : call.Valid) : Valid { call with unwinding := true } := by
  constructor
  · intro running
    cases running
  · exact valid.suffix
  · exact valid.entered

theorem Valid.pop (valid : call.Valid) (unwinding : call.unwinding = true)
    (frame : call.frame = newest :: rest) : Valid { call with frame := rest } := by
  have suffix := valid.suffix
  rw [frame] at suffix
  constructor
  · intro running
    have other : call.unwinding = false := running
    rw [unwinding] at other
    cases other
  · exact (List.suffix_cons newest rest).trans suffix
  · intro _
    exact valid.entered (by simp [frame])

theorem Valid.ordered (valid : call.Valid) (frame : call.frame = newest :: rest) :
    Method.Ordered (newest :: rest) := by
  rw [← frame]
  exact Method.ordered valid.suffix

/-- Whatever a call still has to drop, it holds `run_lock` under it. -/
theorem Valid.lock_mem (valid : call.Valid) (nonempty : call.frame ≠ []) :
    .lock ∈ call.frame := by
  cases frame : call.frame with
  | nil => exact absurd frame nonempty
  | cons newest rest =>
      rcases (valid.ordered frame).2 with ⟨rfl, _⟩ | ⟨_, below⟩
      · exact List.mem_cons_self
      · exact List.mem_cons_of_mem _ below

end Call

namespace Shared

/-- The live locals of a call. -/
def frame (state : Shared) (id : Nat) : List Local :=
  match state.calls id with
  | none => []
  | some call => call.frame

variable {state next : Shared} {action : CallAction} {log events : List CallEvent}

theorem frame_eq {id : Nat} {call : Call} (known : state.calls id = some call) :
    state.frame id = call.frame := by
  simp only [frame, known]

@[simp] theorem frame_set {id other : Nat} {call : Call} :
    (state.set id call).frame other = if other = id then call.frame else state.frame other := by
  by_cases same : other = id
  · simp [frame, set, same]
  · simp [frame, set, same]

/-- Each kind of step of a call: what it needs, and what it does. -/
inductive Step (state : Shared) : CallAction → List CallEvent → Shared → Prop
  | called (id : Nat) (method : Method) (unused : state.calls id = none) :
      Step state (.call id method) [] (state.set id ⟨method, 0, [], false⟩)
  | locked {id : Nat} {call : Call} {ok : Bool} (known : state.calls id = some call)
      (running : call.unwinding = false)
      (located : call.method.body[call.pc]? = some .lockRun) (free : state.runLock = none) :
      Step state (.step id ok) [.locked id]
        { state.bind id call .lock with runLock := some id }
  | networks {id : Nat} {call : Call} {ok : Bool} (known : state.calls id = some call)
      (running : call.unwinding = false)
      (located : call.method.body[call.pc]? = some .lockNetworks) :
      Step state (.step id ok) [] { state.bind id call .networks with networksLock := some id }
  | defer {id : Nat} {call : Call} {ok : Bool} (known : state.calls id = some call)
      (running : call.unwinding = false)
      (located : call.method.body[call.pc]? = some .deferReset) :
      Step state (.step id ok) [] (state.bind id call .defer)
  | transport {id : Nat} {call : Call} (known : state.calls id = some call)
      (running : call.unwinding = false)
      (located : call.method.body[call.pc]? = some .resetTransport) :
      Step state (.step id true) [] (state.set id { call with pc := call.pc + 1 })
  | root {id : Nat} {call : Call} (known : state.calls id = some call)
      (running : call.unwinding = false)
      (located : call.method.body[call.pc]? = some .allocRoot) :
      Step state (.step id true) [.allocated id]
        { state.bind id call .netTask with boxes := id :: state.boxes }
  | stopped {id : Nat} {call : Call} {action : CallAction} (known : state.calls id = some call) :
      Step state action [] (state.stop id call)
  | allocated {id : Nat} {call : Call} (known : state.calls id = some call)
      (running : call.unwinding = false)
      (located : call.method.body[call.pc]? = some .awaitRoot) :
      Step state (.alloc id) [.allocated id] { state with boxes := id :: state.boxes }
  | dropped {id : Nat} (many : 1 < state.boxes.count id) :
      Step state (.drop id) [.dropped id] { state with boxes := state.boxes.erase id }
  | rootDropped {id : Nat} {call : Call} {rest : List Local} (known : state.calls id = some call)
      (unwinding : call.unwinding = true) (newest : call.frame = .netTask :: rest)
      (last : state.boxes.count id = 1) :
      Step state (.unwind id) [.dropped id]
        { state.set id { call with frame := rest } with boxes := state.boxes.erase id }
  | reset {id : Nat} {call : Call} {rest : List Local} (known : state.calls id = some call)
      (unwinding : call.unwinding = true) (newest : call.frame = .defer :: rest) :
      Step state (.unwind id) [.reset id] (state.set id { call with frame := rest })
  | released {id : Nat} {call : Call} {rest : List Local} (known : state.calls id = some call)
      (unwinding : call.unwinding = true) (newest : call.frame = .networks :: rest) :
      Step state (.unwind id) []
        { state.set id { call with frame := rest } with networksLock := none }
  | unlocked {id : Nat} {call : Call} {rest : List Local} (known : state.calls id = some call)
      (unwinding : call.unwinding = true) (newest : call.frame = .lock :: rest) :
      Step state (.unwind id) [.unlocked id]
        { state.set id { call with frame := rest } with runLock := none }

variable {id : Nat} {call : Call}

theorem execute_cases {ok : Bool} {stmt : Stmt} (known : state.calls id = some call)
    (running : call.unwinding = false) (located : call.method.body[call.pc]? = some stmt)
    (moved : state.execute id call ok stmt = some (next, events)) :
    Step state (.step id ok) events next := by
  cases stmt with
  | lockRun =>
      obtain ⟨free, same⟩ := Option.ite_none_right_eq_some.mp moved
      cases Option.some.inj same
      exact .locked known running located free
  | lockNetworks =>
      obtain ⟨_, same⟩ := Option.ite_none_right_eq_some.mp moved
      cases Option.some.inj same
      exact .networks known running located
  | deferReset =>
      cases Option.some.inj moved
      exact .defer known running located
  | resetTransport =>
      cases ok with
      | true =>
          cases Option.some.inj moved
          exact .transport known running located
      | false =>
          cases Option.some.inj moved
          exact .stopped known
  | allocRoot =>
      cases ok with
      | true =>
          cases Option.some.inj moved
          exact .root known running located
      | false =>
          cases Option.some.inj moved
          exact .stopped known
  | awaitRoot =>
      cases Option.some.inj moved
      exact .stopped known

theorem release_cases {newest : Local} {rest : List Local} (known : state.calls id = some call)
    (unwinding : call.unwinding = true) (frame : call.frame = newest :: rest)
    (moved : state.release id call rest newest = some (next, events)) :
    Step state (.unwind id) events next := by
  cases newest with
  | netTask =>
      obtain ⟨last, same⟩ := Option.ite_none_right_eq_some.mp moved
      cases Option.some.inj same
      exact .rootDropped known unwinding frame last
  | defer =>
      cases Option.some.inj moved
      exact .reset known unwinding frame
  | networks =>
      cases Option.some.inj moved
      exact .released known unwinding frame
  | lock =>
      cases Option.some.inj moved
      exact .unlocked known unwinding frame

theorem step_cases (moved : machine.step state action = some (next, events)) :
    Step state action events next := by
  cases action with
  | call id method =>
      obtain ⟨unused, same⟩ := Option.ite_none_right_eq_some.mp moved
      cases Option.some.inj same
      exact .called id method unused
  | step id ok =>
      simp only [machine, step] at moved
      split at moved
      · cases moved
      · rename_i call known
        obtain ⟨running, moved⟩ := Option.ite_none_left_eq_some.mp moved
        split at moved
        · cases moved
        · rename_i stmt located
          exact execute_cases known (Bool.not_eq_true _ ▸ running) located moved
  | alloc id =>
      simp only [machine, step] at moved
      split at moved
      · cases moved
      · rename_i call known
        obtain ⟨⟨running, located⟩, same⟩ := Option.ite_none_right_eq_some.mp moved
        cases Option.some.inj same
        exact .allocated known running located
  | drop id =>
      obtain ⟨many, same⟩ := Option.ite_none_right_eq_some.mp moved
      cases Option.some.inj same
      exact .dropped many
  | cancel id =>
      simp only [machine, step] at moved
      split at moved
      · cases moved
      · rename_i call known
        obtain ⟨_, same⟩ := Option.ite_none_left_eq_some.mp moved
        cases Option.some.inj same
        exact .stopped known
  | unwind id =>
      simp only [machine, step] at moved
      split at moved
      · cases moved
      · rename_i call known
        obtain ⟨unwinding, moved⟩ := Option.ite_none_right_eq_some.mp moved
        split at moved
        · cases moved
        · rename_i newest rest frame
          exact release_cases known unwinding frame moved

/-- Calls keep to their order; the holder of `run_lock` is the call with its guard, and
only calls with a root box own boxes. -/
structure Exclusive (state : Shared) : Prop where
  valid : ∀ id call, state.calls id = some call → call.Valid
  lock : ∀ id, state.runLock = some id ↔ .lock ∈ state.frame id
  boxes : ∀ id ∈ state.boxes, .netTask ∈ state.frame id

/-- Every box belongs to the holder of `run_lock`. -/
theorem Exclusive.owner (now : Exclusive state) (member : id ∈ state.boxes) :
    state.runLock = some id := by
  have live := now.boxes id member
  rw [now.lock]
  cases known : state.calls id with
  | none => simp [frame, known] at live
  | some call =>
      rw [frame_eq known] at live ⊢
      exact (now.valid id call known).lock_mem (List.ne_nil_of_mem live)

theorem Exclusive.valid_set (now : Exclusive state) (valid : call.Valid) (other : Nat)
    (found : Call) (known : (state.set id call).calls other = some found) : found.Valid := by
  by_cases same : other = id
  · subst same
    simp only [set, Function.update_self, Option.some.injEq] at known
    exact known ▸ valid
  · simp only [set, Function.update_of_ne same] at known
    exact now.valid other found known

/-- The boxes of a call that still has what root box it had. -/
theorem Exclusive.owned (now : Exclusive state)
    (keeps : .netTask ∈ state.frame id → .netTask ∈ call.frame) :
    ∀ other ∈ state.boxes, .netTask ∈ (state.set id call).frame other := by
  intro other member
  have live := now.boxes other member
  by_cases same : other = id
  · subst same
    simpa using keeps live
  · simpa [same] using live

/-- One call moves, without taking or releasing `run_lock`. -/
theorem Exclusive.goOn {boxes : List Nat} {networksLock : Option Nat} (now : Exclusive state)
    (valid : call.Valid) (lock : .lock ∈ call.frame ↔ .lock ∈ state.frame id)
    (owned : ∀ other ∈ boxes, .netTask ∈ (state.set id call).frame other) :
    Exclusive ⟨(state.set id call).calls, state.runLock, networksLock, boxes⟩ := by
  constructor
  · exact now.valid_set valid
  · intro other
    show state.runLock = some other ↔ .lock ∈ (state.set id call).frame other
    rw [now.lock, frame_set]
    split
    · rename_i same
      rw [same, lock]
    · rfl
  · exact owned

theorem Exclusive.take (now : Exclusive state) (valid : call.Valid)
    (holds : .lock ∈ call.frame) (free : state.runLock = none)
    (keeps : .netTask ∈ state.frame id → .netTask ∈ call.frame) :
    Exclusive { state.set id call with runLock := some id } := by
  constructor
  · exact now.valid_set valid
  · intro other
    show some id = some other ↔ .lock ∈ (state.set id call).frame other
    rw [frame_set]
    split
    · rename_i same
      simp [same, holds]
    · rename_i different
      have idle : .lock ∉ state.frame other := by
        rw [← now.lock, free]
        simp
      simp [idle, Ne.symm different]
  · exact now.owned keeps

theorem Exclusive.give (now : Exclusive state) (valid : call.Valid) (held : .lock ∈ state.frame id)
    (empty : call.frame = []) (rootless : .netTask ∉ state.frame id) :
    Exclusive { state.set id call with runLock := none } := by
  constructor
  · exact now.valid_set valid
  · intro other
    show none = some other ↔ .lock ∈ (state.set id call).frame other
    rw [frame_set]
    split
    · simp [empty]
    · rename_i different
      have other_idle : .lock ∉ state.frame other := by
        intro holds
        have first := (now.lock other).mpr holds
        rw [(now.lock id).mpr held] at first
        exact different (Option.some.inj first).symm
      simp [other_idle]
  · exact now.owned (fun live => absurd live rootless)

theorem Step.exclusive (moved : Step state action events next) (now : Exclusive state) :
    Exclusive next := by
  cases moved with
  | called id method unused =>
      have empty : state.frame id = [] := by simp [frame, unused]
      refine now.goOn ⟨fun _ => rfl, List.nil_suffix, by simp⟩ ?_ (now.owned ?_)
      · rw [empty]
      · simp [empty]
  | locked known running located free =>
      have valid := now.valid _ _ known
      apply now.take (valid.bind running located rfl) (by simp) free
      rw [frame_eq known]
      exact List.mem_cons_of_mem _
  | networks known running located | defer known running located =>
      have valid := now.valid _ _ known
      refine now.goOn (valid.bind running located rfl) ?_ (now.owned ?_)
      · simp [frame_eq known]
      · simp [frame_eq known]
  | transport known running located =>
      have valid := now.valid _ _ known
      refine now.goOn (valid.pass running located rfl) ?_ (now.owned ?_)
      · rw [frame_eq known]
      · simp [frame_eq known]
  | root known running located =>
      have valid := now.valid _ _ known
      refine now.goOn (valid.bind running located rfl) ?_ ?_
      · simp [frame_eq known]
      · intro other member
        rcases List.mem_cons.mp member with same | member
        · simp [same]
        · exact now.owned (by simp) other member
  | stopped known =>
      have valid := now.valid _ _ known
      refine now.goOn valid.stop ?_ (now.owned ?_)
      · rw [frame_eq known]
      · simp [frame_eq known]
  | allocated known running located =>
      have valid := now.valid _ _ known
      refine ⟨now.valid, now.lock, ?_⟩
      intro other member
      rcases List.mem_cons.mp member with same | member
      · have live := Method.netTask_live located
        rw [← valid.running running, ← frame_eq known, ← same] at live
        exact live
      · exact now.boxes other member
  | dropped many =>
      exact ⟨now.valid, now.lock,
        fun other member => now.boxes other (List.mem_of_mem_erase member)⟩
  | @rootDropped id call rest known unwinding newest last =>
      have valid := now.valid _ _ known
      refine now.goOn (valid.pop unwinding newest) ?_ ?_
      · simp [frame_eq known, newest]
      · intro other member
        have gone : id ∉ state.boxes.erase id := by
          rw [← List.count_pos_iff, List.count_erase_self, last]
          simp
        have different : other ≠ id := fun same => gone (same ▸ member)
        simpa [different] using now.boxes other (List.mem_of_mem_erase member)
  | reset known unwinding newest | released known unwinding newest =>
      have valid := now.valid _ _ known
      refine now.goOn (valid.pop unwinding newest) ?_ (now.owned ?_)
      · simp [frame_eq known, newest]
      · simp [frame_eq known, newest]
  | unlocked known unwinding newest =>
      have valid := now.valid _ _ known
      obtain ⟨rootless, ⟨_, empty⟩ | ⟨other, _⟩⟩ := valid.ordered newest
      · apply now.give (valid.pop unwinding newest) _ empty
        · simp [frame_eq known, newest, empty]
        · simp [frame_eq known, newest]
      · exact absurd rfl other

theorem reachable_exclusive (reached : Reachable machine initial log state) : Exclusive state :=
  reached.invariant (fun _ state => Exclusive state)
    ⟨by simp [initial], by simp [initial, frame], by simp [initial]⟩
    (fun _ _ _ _ _ _ now _ moved => (step_cases moved).exclusive now)

/-- Nothing is left of any box when a call resets the bump allocator: the root box of that
call is gone, and no other call holds the lock. -/
theorem Exclusive.reset_empty (now : Exclusive state) (moved : Step state action events next)
    (resets : .reset id ∈ events) : state.boxes = [] ∧ state.runLock = some id := by
  cases moved with
  | @reset id' call rest known unwinding newest =>
      have same : id = id' := by simpa using resets
      subst same
      have valid := now.valid _ _ known
      obtain ⟨rootless, _⟩ := valid.ordered newest
      have holder : state.runLock = some id := by
        rw [now.lock, frame_eq known]
        exact valid.lock_mem (by simp [newest])
      refine ⟨?_, holder⟩
      apply List.eq_nil_iff_forall_not_mem.mpr
      intro owner member
      have sameOwner : owner = id := by
        have owns := now.owner member
        rw [holder] at owns
        exact (Option.some.inj owns).symm
      have live := now.boxes owner member
      rw [sameOwner, frame_eq known, newest] at live
      simp [rootless] at live
  | _ => simp at resets

/-- The call has got past its first statement. -/
def Entered (state : Shared) (id : Nat) : Prop :=
  ∃ call, state.calls id = some call ∧ 0 < call.pc

theorem entered_set {other : Nat} :
    (state.set id call).Entered other ↔
      (other = id ∧ 0 < call.pc) ∨ (other ≠ id ∧ state.Entered other) := by
  by_cases same : other = id
  · simp [Entered, set, same]
  · simp [Entered, set, same]

/-- The owner of a box is past its first statement. -/
theorem Exclusive.entered (now : Exclusive state) (member : id ∈ state.boxes) :
    state.Entered id := by
  have live := now.boxes id member
  cases known : state.calls id with
  | none => simp [frame, known] at live
  | some call =>
      rw [frame_eq known] at live
      exact ⟨call, known, (now.valid id call known).entered (List.ne_nil_of_mem live)⟩

/-- A call never goes back to its first statement. -/
theorem Entered.set {other : Nat} (entered : state.Entered other)
    (onward : state.Entered id → 0 < call.pc) : (state.set id call).Entered other := by
  rw [entered_set]
  by_cases same : other = id
  · exact .inl ⟨same, onward (same ▸ entered)⟩
  · exact .inr ⟨same, entered⟩

theorem Entered.pc_pos (entered : state.Entered id) (known : state.calls id = some call) :
    0 < call.pc := by
  obtain ⟨found, same, past⟩ := entered
  rw [known] at same
  exact Option.some.inj same ▸ past

theorem Step.entered (moved : Step state action events next) (entered : state.Entered id) :
    next.Entered id := by
  cases moved with
  | called id' method unused =>
      apply Entered.set entered
      rintro ⟨call, known, _⟩
      rw [unused] at known
      cases known
  | locked | networks | defer | transport | root =>
      exact Entered.set entered (fun _ => Nat.succ_pos _)
  | stopped known | rootDropped known | reset known | released known | unlocked known =>
      apply Entered.set entered
      intro past
      have positive := past.pc_pos known
      exact positive
  | allocated | dropped => exact entered

theorem Step.dropped_mem (moved : Step state action events next)
    (drops : .dropped id ∈ events) : id ∈ state.boxes := by
  cases moved with
  | dropped many =>
      simp only [List.mem_singleton, CallEvent.dropped.injEq] at drops
      rw [drops, ← List.count_pos_iff]
      exact Nat.lt_of_succ_lt many
  | rootDropped known unwinding newest last =>
      simp only [List.mem_singleton, CallEvent.dropped.injEq] at drops
      rw [drops, ← List.count_pos_iff, last]
      exact Nat.one_pos
  | _ => simp at drops

theorem Step.allocated_mem (moved : Step state action events next)
    (allocates : .allocated id ∈ events) : id ∈ next.boxes := by
  cases moved with
  | root | allocated =>
      simp only [List.mem_singleton, CallEvent.allocated.injEq] at allocates
      rw [allocates]
      exact List.mem_cons_self
  | _ => simp at allocates

/-- `run_lock` is taken by a call at its first statement, given back, or left alone. -/
theorem Step.lock_cases (moved : Step state action events next) :
    (∃ id call, events = [.locked id] ∧ next.runLock = some id ∧
      state.calls id = some call ∧ call.pc = 0) ∨
    next.runLock = none ∨ next.runLock = state.runLock := by
  cases moved with
  | locked known running located free =>
      exact .inl ⟨_, _, rfl, rfl, known, Method.lockRun_first located⟩
  | unlocked => exact .inr (.inl rfl)
  | _ => exact .inr (.inr rfl)

/-- The log since the holder of `run_lock` took it, and which calls have dropped boxes. -/
structure Recorded (log : List CallEvent) (state : Shared) : Prop where
  held : ∀ id, state.runLock = some id → ∃ before since, log = before ++ .locked id :: since ∧
    .dropped id ∉ before ∧ ∀ owner, .allocated owner ∈ since → owner = id
  entered : ∀ id, .dropped id ∈ log → state.Entered id

theorem Step.recorded (moved : Step state action events next) (exclusive : Exclusive state)
    (now : Recorded log state) : Recorded (log ++ events) next := by
  constructor
  · intro id holds
    rcases moved.lock_cases with ⟨taker, call, only, taken, known, first⟩ | free | kept
    · rw [taken, Option.some.injEq] at holds
      subst holds
      refine ⟨log, [], by rw [only], ?_, by simp⟩
      intro drops
      have past := (now.entered taker drops).pc_pos known
      omega
    · rw [free] at holds
      cases holds
    · rw [kept] at holds
      obtain ⟨before, since, rfl, undropped, alone⟩ := now.held id holds
      refine ⟨before, since ++ events, by simp, undropped, ?_⟩
      intro owner allocates
      rcases List.mem_append.mp allocates with old | new
      · exact alone owner old
      · have owns := (moved.exclusive exclusive).owner (moved.allocated_mem new)
        rw [kept, holds] at owns
        exact (Option.some.inj owns).symm
  · intro id drops
    rcases List.mem_append.mp drops with old | new
    · exact moved.entered (now.entered id old)
    · exact moved.entered (exclusive.entered (moved.dropped_mem new))

theorem reachable_recorded (reached : Reachable machine initial log state) :
    Recorded log state :=
  reached.invariant Recorded ⟨by simp [initial], by simp⟩
    (fun _ _ _ _ _ reached now _ moved =>
      (step_cases moved).recorded (reachable_exclusive reached) now)

/-- Between the boxes of a call and its reset, only that call allocates. -/
def ResetsAlone (before : List CallEvent) : CallEvent → Prop
  | .reset id => ∀ earlier later, before = earlier ++ .dropped id :: later →
      ∀ owner, .allocated owner ∈ later → owner = id
  | _ => True

/-- What follows a box of the holder in the log follows its `run_lock` too. -/
theorem Recorded.resetsAlone (now : Recorded log state) (holds : state.runLock = some id) :
    ResetsAlone log (.reset id) := by
  intro earlier later same owner allocates
  obtain ⟨before, since, rfl, undropped, alone⟩ := now.held id holds
  apply alone owner
  rcases List.append_eq_append_iff.mp same with ⟨middle, _, rest⟩ | ⟨middle, rfl, rest⟩
  · cases middle with
    | nil => simp at rest
    | cons head tail =>
        simp only [List.cons_append, List.cons.injEq] at rest
        rw [rest.2]
        simp [allocates]
  · cases middle with
    | nil => simp at rest
    | cons head tail =>
        simp only [List.cons_append, List.cons.injEq] at rest
        exact absurd (by simp [← rest.1]) undropped

theorem Step.resetsAlone (moved : Step state action events next) (exclusive : Exclusive state)
    (now : Recorded log state) :
    Everywhere (fun before => ResetsAlone (log ++ before)) events := by
  cases moved with
  | reset known unwinding newest =>
      have holds := (exclusive.reset_empty (.reset known unwinding newest)
        List.mem_cons_self).2
      simpa using now.resetsAlone holds
  | _ => simp [ResetsAlone]

/-- In every interleaving of any calls: every box belongs to the holder of `run_lock`,
nothing is left of any box at a reset, and from the drop of a call's box to its reset no
other call allocates. -/
theorem bump_reset_discipline (reached : Reachable machine initial log state) :
    (∀ owner ∈ state.boxes, state.runLock = some owner) ∧
    (∀ action next events id, machine.step state action = some (next, events) →
      .reset id ∈ events → state.boxes = []) ∧
    Everywhere ResetsAlone log := by
  have exclusive := reachable_exclusive reached
  constructor
  · exact fun owner member => exclusive.owner member
  constructor
  · intro action next events id moved resets
    exact (exclusive.reset_empty (step_cases moved) resets).1
  · refine reached.everywhere ?_
    intro log events state next action reached _ moved
    exact (step_cases moved).resetsAlone (reachable_exclusive reached)
      (reachable_recorded reached)

/-- Two calls: one is dropped while its root future has a box of its own, the other one
waits for `run_lock` meanwhile and fails at `reset_transport`. -/
def contended : List CallAction :=
  [.call 0 .wifiRun, .call 1 .threadRun, .step 0 true, .step 0 true, .step 0 true,
    .step 0 true, .step 0 true, .alloc 0, .cancel 0, .drop 0, .unwind 0, .unwind 0, .unwind 0,
    .unwind 0, .step 1 true, .step 1 true, .step 1 true, .step 1 false, .unwind 1]

theorem bump_reset_discipline_contended :
    machine.logOf initial contended =
      [.locked 0, .allocated 0, .allocated 0, .dropped 0, .dropped 0, .reset 0, .unlocked 0,
        .locked 1, .reset 1] ∧
    Everywhere ResetsAlone (machine.logOf initial contended) := by
  have executed : (machine.exec initial contended).isSome = true := by decide
  obtain ⟨last, reached⟩ := Machine.logOf_reachable executed
  exact ⟨by decide, (bump_reset_discipline reached).2.2⟩

end Shared

end RsMatterStack
