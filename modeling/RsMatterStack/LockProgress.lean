import Mathlib.Algebra.GroupWithZero.Nat
import RsMatterStack.StackMemory

set_option autoImplicit false

/-! Concurrent calls of `run` are never stuck: outside its root future, a call waits for
`run_lock` alone, and its holder hands it on. -/

namespace RsMatterStack

open Transition (Machine Ranking Reachable)

/-- A statement, and the destructor of the local that it binds. -/
def Stmt.weight (stmt : Stmt) : Nat := if stmt.binds = none then 1 else 2

namespace Method

variable {method : Method} {pc : Nat}

/-- Only the last statement has none after it. -/
theorem next_lt {stmt : Stmt} (located : method.body[pc]? = some stmt)
    (other : stmt ≠ .awaitRoot) : pc + 1 < method.body.length := by
  have checked : ∀ pc < method.body.length,
      method.body[pc]? ≠ some .awaitRoot → pc + 1 < method.body.length := by
    cases method <;> decide
  refine checked pc (located_lt located) ?_
  rw [located]
  simpa using other

/-- A method takes the lock of the networks store at most once, and under `run_lock`. -/
theorem lockNetworks_frame (located : method.body[pc]? = some .lockNetworks) :
    .networks ∉ method.frameAt pc ∧ .lock ∈ method.frameAt pc := by
  have checked : ∀ pc < method.body.length, method.body[pc]? = some .lockNetworks →
      .networks ∉ method.frameAt pc ∧ .lock ∈ method.frameAt pc := by
    cases method <;> decide
  exact checked pc (located_lt located) located

/-- What is left to do from a statement on. -/
def left (method : Method) (pc : Nat) : Nat := ((method.body.drop pc).map Stmt.weight).sum

theorem left_succ {stmt : Stmt} (located : method.body[pc]? = some stmt) :
    method.left pc = stmt.weight + method.left (pc + 1) := by
  obtain ⟨inside, rfl⟩ := List.getElem?_eq_some_iff.mp located
  simp only [left, List.drop_eq_getElem_cons inside, List.map_cons, List.sum_cons]

/-- The destructors of a call, but for that of its root box. -/
def plain (frame : List Local) : Nat := frame.countP (· ≠ .netTask)

theorem plain_cons {newest : Local} {frame : List Local} (other : newest ≠ .netTask) :
    plain (newest :: frame) = plain frame + 1 := List.countP_cons_of_pos (by simpa using other)

theorem plain_root {frame : List Local} : plain (.netTask :: frame) = plain frame :=
  List.countP_cons_of_neg (by simp)

theorem plain_left_le (inside : pc < method.body.length) :
    plain (method.frameAt pc) + method.left pc ≤ 10 := by
  have checked : ∀ pc < method.body.length, plain (method.frameAt pc) + method.left pc ≤ 10 := by
    cases method <;> decide
  exact checked pc inside

theorem plain_le : plain (method.frameAt method.body.length) ≤ 10 := by
  cases method <;> decide

end Method

/-- The locals of the call are all gone. -/
def Call.Finished (call : Call) : Prop := call.unwinding = true ∧ call.frame = []

namespace Call

variable {call : Call} {stmt : Stmt} {newest : Local} {rest : List Local}

/-- How many statements and destructors are left to a call, but for those of its boxes. -/
def rank (call : Call) : Nat :=
  Method.plain call.frame + if call.unwinding then 0 else call.method.left call.pc

theorem rank_running (running : call.unwinding = false) :
    call.rank = Method.plain call.frame + call.method.left call.pc := by
  simp only [rank, running, Bool.false_eq_true, if_false]

theorem rank_unwinding (unwinding : call.unwinding = true) :
    call.rank = Method.plain call.frame := by
  simp only [rank, unwinding, if_true, Nat.add_zero]

theorem Valid.rank_le (valid : call.Valid)
    (inside : call.unwinding = false → call.pc < call.method.body.length) : call.rank ≤ 10 := by
  cases unwinding : call.unwinding with
  | true =>
      have most : Method.plain call.frame ≤ Method.plain _ := valid.suffix.sublist.countP_le
      rw [rank_unwinding unwinding]
      exact Nat.le_trans most Method.plain_le
  | false =>
      rw [rank_running unwinding, valid.running unwinding]
      exact Method.plain_left_le (inside unwinding)

theorem rank_bind (running : call.unwinding = false)
    (located : call.method.body[call.pc]? = some stmt) (binds : stmt.binds = some newest)
    (other : newest ≠ .netTask) :
    rank { call with pc := call.pc + 1, frame := newest :: call.frame } + 1 = call.rank := by
  have weight : stmt.weight = 2 := by simp [Stmt.weight, binds]
  have after : rank { call with pc := call.pc + 1, frame := newest :: call.frame } =
      Method.plain (newest :: call.frame) + call.method.left (call.pc + 1) := rank_running running
  rw [after, rank_running running, Method.left_succ located, weight, Method.plain_cons other]
  omega

/-- The box of the root future is another thing to drop. -/
theorem rank_root (running : call.unwinding = false)
    (located : call.method.body[call.pc]? = some .allocRoot) :
    rank { call with pc := call.pc + 1, frame := .netTask :: call.frame } + 2 = call.rank := by
  have weight : Stmt.allocRoot.weight = 2 := rfl
  have after : rank { call with pc := call.pc + 1, frame := .netTask :: call.frame } =
      Method.plain (.netTask :: call.frame) + call.method.left (call.pc + 1) :=
    rank_running running
  rw [after, rank_running running, Method.left_succ located, weight, Method.plain_root]
  omega

theorem rank_pass (running : call.unwinding = false)
    (located : call.method.body[call.pc]? = some stmt) (binds : stmt.binds = none) :
    rank { call with pc := call.pc + 1 } + 1 = call.rank := by
  have weight : stmt.weight = 1 := by simp [Stmt.weight, binds]
  have after : rank { call with pc := call.pc + 1 } =
      Method.plain call.frame + call.method.left (call.pc + 1) := rank_running running
  rw [after, rank_running running, Method.left_succ located, weight]
  omega

theorem rank_stop (running : call.unwinding = false)
    (located : call.method.body[call.pc]? = some stmt) :
    rank { call with unwinding := true } < call.rank := by
  have weight : 0 < stmt.weight := by cases stmt <;> decide
  have after : rank { call with unwinding := true } = Method.plain call.frame := rank_unwinding rfl
  rw [after, rank_running running, Method.left_succ located]
  omega

theorem rank_cancel : rank { call with unwinding := true } ≤ call.rank := by
  rw [rank_unwinding rfl]
  exact Nat.le_add_right _ _

theorem rank_pop (unwinding : call.unwinding = true) (frame : call.frame = newest :: rest)
    (other : newest ≠ .netTask) : rank { call with frame := rest } + 1 = call.rank := by
  have after : rank { call with frame := rest } = Method.plain rest := rank_unwinding unwinding
  rw [after, rank_unwinding unwinding, frame, Method.plain_cons other]

theorem rank_popRoot (unwinding : call.unwinding = true)
    (frame : call.frame = .netTask :: rest) : rank { call with frame := rest } = call.rank := by
  have after : rank { call with frame := rest } = Method.plain rest := rank_unwinding unwinding
  rw [after, rank_unwinding unwinding, frame, Method.plain_root]

end Call

namespace Shared

variable {state next : Shared} {action : CallAction} {log events : List CallEvent} {id : Nat}
  {call : Call}

/-- A call that goes on has a statement left; the lock of the networks store and the root
box are those of the call that has the local for it. -/
structure Prompt (state : Shared) : Prop where
  located : ∀ id call, state.calls id = some call → call.unwinding = false →
    call.pc < call.method.body.length
  networks : ∀ id, state.networksLock = some id → .networks ∈ state.frame id
  root : ∀ id, .netTask ∈ state.frame id → id ∈ state.boxes

/-- One call moves, and the lock of the networks store is the one it says. -/
theorem Prompt.put {networksLock runLock : Option Nat} {boxes : List Nat} (now : Prompt state)
    (located : call.unwinding = false → call.pc < call.method.body.length)
    (networks : ∀ other, networksLock = some other → other ≠ id → state.networksLock = some other)
    (held : networksLock = some id → .networks ∈ call.frame)
    (root : ∀ other ∈ state.boxes, other ≠ id → other ∈ boxes)
    (own : .netTask ∈ call.frame → id ∈ boxes) :
    Prompt ⟨(state.set id call).calls, runLock, networksLock, boxes⟩ := by
  constructor
  · intro other found known
    by_cases same : other = id
    · subst same
      simp only [set, Function.update_self, Option.some.injEq] at known
      exact known ▸ located
    · simp only [set, Function.update_of_ne same] at known
      exact now.located other found known
  · intro other locked
    show .networks ∈ (state.set id call).frame other
    rw [frame_set]
    by_cases same : other = id
    · subst same
      rw [if_pos rfl]
      exact held locked
    · rw [if_neg same]
      exact now.networks other (networks other locked same)
  · intro other live
    have framed : .netTask ∈ (state.set id call).frame other := live
    rw [frame_set] at framed
    by_cases same : other = id
    · subst same
      rw [if_pos rfl] at framed
      exact own framed
    · rw [if_neg same] at framed
      exact root other (now.root other framed) same

/-- One call moves beside the locks, and keeps the locals that it answers for. -/
theorem Prompt.goOn {runLock : Option Nat} (now : Prompt state)
    (located : call.unwinding = false → call.pc < call.method.body.length)
    (networks : .networks ∈ state.frame id → .networks ∈ call.frame)
    (own : .netTask ∈ call.frame → .netTask ∈ state.frame id) :
    Prompt { state.set id call with runLock := runLock } :=
  now.put located (fun _ locked _ => locked) (fun locked => networks (now.networks id locked))
    (fun _ member _ => member) (fun live => now.root id (own live))

/-- A statement with a local that the call does not answer for. -/
theorem Prompt.bind {runLock : Option Nat} {newest : Local} (now : Prompt state)
    (known : state.calls id = some call) (inside : call.pc + 1 < call.method.body.length)
    (plain : newest ≠ .netTask) :
    Prompt { state.set id { call with pc := call.pc + 1, frame := newest :: call.frame } with
      runLock := runLock } := by
  refine now.goOn (fun _ => inside) ?_ ?_
  · rw [frame_eq known]
    exact List.mem_cons_of_mem _
  · rw [frame_eq known, List.mem_cons]
    exact fun live => live.resolve_left (Ne.symm plain)

/-- The locals of the call stay. -/
theorem Prompt.stay {after : Call} (now : Prompt state) (known : state.calls id = some call)
    (located : after.unwinding = false → after.pc < after.method.body.length)
    (same : after.frame = call.frame) : Prompt (state.set id after) := by
  refine now.goOn located ?_ ?_
  · rw [frame_eq known, same]
    exact fun held => held
  · rw [frame_eq known, same]
    exact fun live => live

/-- The destructor of a local that holds no lock of the networks store. -/
theorem Prompt.pop {runLock : Option Nat} {newest : Local} {rest : List Local}
    (now : Prompt state) (known : state.calls id = some call) (unwinding : call.unwinding = true)
    (frame : call.frame = newest :: rest) (plain : newest ≠ .networks) :
    Prompt { state.set id { call with frame := rest } with runLock := runLock } := by
  refine now.goOn (fun running => ?_) ?_ ?_
  · exact absurd (unwinding.symm.trans running) (by simp)
  · rw [frame_eq known, frame, List.mem_cons]
    exact fun held => held.resolve_left (Ne.symm plain)
  · rw [frame_eq known, frame]
    exact List.mem_cons_of_mem _

theorem Step.prompt (moved : Step state action events next) (exclusive : Exclusive state)
    (now : Prompt state) : Prompt next := by
  cases moved with
  | called id method unused =>
      have empty : state.frame id = [] := by simp [frame, unused]
      refine now.goOn (fun _ => ?_) ?_ ?_
      · cases method <;> decide
      · simp [empty]
      · simp
  | locked known running located free =>
      exact now.bind known (Method.next_lt located (by simp)) (by simp)
  | @networks id call ok known running located =>
      have onward := Method.next_lt located (by simp)
      refine now.put (fun _ => onward) ?_ ?_ (fun _ member _ => member) ?_
      · intro other locked apart
        exact absurd (Option.some.inj locked).symm apart
      · intro _
        exact List.mem_cons_self
      · intro live
        have below : .netTask ∈ state.frame id := by simpa [frame_eq known] using live
        exact now.root id below
  | defer known running located =>
      exact now.bind known (Method.next_lt located (by simp)) (by simp)
  | transport known running located =>
      exact now.stay known (fun _ => Method.next_lt located (by simp)) rfl
  | root known running located =>
      have onward := Method.next_lt located (by simp)
      refine now.put (fun _ => onward) (fun _ locked _ => locked) ?_ ?_ ?_
      · intro locked
        have held := now.networks _ locked
        rw [frame_eq known] at held
        exact List.mem_cons_of_mem _ held
      · exact fun _ member _ => List.mem_cons_of_mem _ member
      · exact fun _ => List.mem_cons_self
  | stopped known =>
      exact now.stay known (fun running => absurd running (by simp)) rfl
  | allocated known running located =>
      exact ⟨now.located, now.networks,
        fun other live => List.mem_cons_of_mem _ (now.root other live)⟩
  | @dropped id many =>
      refine ⟨now.located, now.networks, ?_⟩
      intro other live
      have member := now.root other live
      show other ∈ state.boxes.erase id
      by_cases same : other = id
      · rw [same, ← List.count_pos_iff, List.count_erase_self]
        omega
      · rwa [List.mem_erase_of_ne same]
  | @rootDropped id call rest known unwinding newest last =>
      obtain ⟨rootless, _⟩ := (exclusive.valid _ _ known).ordered newest
      refine now.put (fun running => ?_) (fun _ locked _ => locked) ?_ ?_ ?_
      · exact absurd (unwinding.symm.trans running) (by simp)
      · intro locked
        have held := now.networks _ locked
        simpa [frame_eq known, newest] using held
      · intro other member apart
        rwa [List.mem_erase_of_ne apart]
      · exact fun live => absurd live rootless
  | reset known unwinding newest => exact now.pop known unwinding newest (by simp)
  | @released id call rest known unwinding newest =>
      refine now.put (fun running => ?_) (by simp) (by simp) (fun _ member _ => member) ?_
      · exact absurd (unwinding.symm.trans running) (by simp)
      · intro live
        refine now.root _ ?_
        rw [frame_eq known, newest]
        exact List.mem_cons_of_mem _ live
  | unlocked known unwinding newest => exact now.pop known unwinding newest (by simp)

theorem reachable_prompt (reached : Reachable machine initial log state) : Prompt state :=
  reached.invariant (fun _ state => Prompt state)
    ⟨by simp [initial], by simp [initial], by simp [initial, frame]⟩
    (fun _ _ _ _ _ reached now _ moved =>
      (step_cases moved).prompt (reachable_exclusive reached) now)

/-- A call that waits for the networks store finds its lock free. -/
theorem Prompt.networks_free (now : Prompt state) (exclusive : Exclusive state)
    (known : state.calls id = some call) (running : call.unwinding = false)
    (located : call.method.body[call.pc]? = some .lockNetworks) : state.networksLock = none := by
  obtain ⟨without, locked⟩ := Method.lockNetworks_frame located
  have valid := exclusive.valid id call known
  rw [← valid.running running] at without locked
  cases held : state.networksLock with
  | none => rfl
  | some other =>
      have member := now.networks other held
      have first : state.runLock = some id := by
        rw [exclusive.lock, frame_eq known]
        exact locked
      have second : state.runLock = some other := by
        rw [exclusive.lock]
        cases found : state.calls other with
        | none => simp [frame, found] at member
        | some holder =>
            rw [frame_eq found] at member ⊢
            exact (exclusive.valid other holder found).lock_mem (List.ne_nil_of_mem member)
      rw [first, Option.some.injEq] at second
      subst second
      rw [frame_eq known] at member
      exact absurd member without

/-- The call is inside its root future. -/
def inRoot (state : Shared) (id : Nat) : Bool :=
  match state.calls id with
  | none => false
  | some call => !call.unwinding && decide (call.method.body[call.pc]? = some .awaitRoot)

/-- What a call does by itself, however that turns out: its statements up to its root future,
and all destructors after it. -/
def Own (id : Nat) (state : Shared) : CallAction → Prop
  | .step other _ | .unwind other | .drop other => other = id ∧ state.inRoot id = false
  | _ => False

instance (id : Nat) (state : Shared) (action : CallAction) : Decidable (Own id state action) :=
  match action with
  | .step other _ | .unwind other | .drop other =>
      inferInstanceAs (Decidable (other = id ∧ state.inRoot id = false))
  | .call _ _ | .alloc _ | .cancel _ => inferInstanceAs (Decidable False)

theorem inRoot_eq (known : state.calls id = some call) :
    state.inRoot id = true ↔
      call.unwinding = false ∧ call.method.body[call.pc]? = some .awaitRoot := by
  simp [inRoot, known]

/-- Outside its root future, a call that has not finished can go on, unless it waits for
`run_lock`. -/
theorem Prompt.possible (now : Prompt state) (exclusive : Exclusive state)
    (known : state.calls id = some call) (unfinished : ¬ call.Finished)
    (outside : state.inRoot id = false)
    (free : state.runLock = none ∨ state.runLock = some id) :
    ∃ action, Own id state action ∧ machine.step state action ≠ none := by
  cases unwinding : call.unwinding with
  | true =>
      cases frame : call.frame with
      | nil => exact absurd ⟨unwinding, frame⟩ unfinished
      | cons newest rest =>
          by_cases root : newest = .netTask
          · subst root
            have live : .netTask ∈ state.frame id := by simp [frame_eq known, frame]
            have owned := List.count_pos_iff.mpr (now.root id live)
            by_cases last : state.boxes.count id = 1
            · refine ⟨.unwind id, ⟨rfl, outside⟩, ?_⟩
              simp [machine, step, known, unwinding, frame, release, last]
            · have many : 1 < state.boxes.count id := by omega
              exact ⟨.drop id, ⟨rfl, outside⟩, by simp [machine, step, many]⟩
          · refine ⟨.unwind id, ⟨rfl, outside⟩, ?_⟩
            cases newest with
            | netTask => exact absurd rfl root
            | _ => simp [machine, step, known, unwinding, frame, release]
  | false =>
      obtain ⟨stmt, located⟩ : ∃ stmt, call.method.body[call.pc]? = some stmt :=
        ⟨_, List.getElem?_eq_getElem (now.located id call known unwinding)⟩
      refine ⟨.step id true, ⟨rfl, outside⟩, ?_⟩
      have valid := exclusive.valid id call known
      cases stmt with
      | lockRun =>
          have first : call.frame = [] := by
            rw [valid.running unwinding, Method.lockRun_first located]
            rfl
          have unlocked : state.runLock = none := by
            rcases free with free | mine
            · exact free
            · rw [exclusive.lock, frame_eq known, first] at mine
              cases mine
          simp [machine, step, known, unwinding, located, execute, unlocked]
      | lockNetworks =>
          have unlocked := now.networks_free exclusive known unwinding located
          simp [machine, step, known, unwinding, located, execute, unlocked]
      | awaitRoot =>
          have inside := (inRoot_eq known).mpr ⟨unwinding, located⟩
          rw [outside] at inside
          cases inside
      | _ => simp [machine, step, known, unwinding, located, execute]

/-- How much is left to a call, with its root future's boxes. -/
def rank (id : Nat) (state : Shared) : Nat :=
  state.boxes.count id +
    match state.calls id with
    | none => 0
    | some call => call.rank

theorem rank_eq (known : state.calls id = some call) :
    state.rank id = state.boxes.count id + call.rank := by
  simp only [rank, known]

@[simp] theorem rank_put {runLock networksLock : Option Nat} {boxes : List Nat} :
    rank id ⟨(state.set id call).calls, runLock, networksLock, boxes⟩ =
      boxes.count id + call.rank := by
  simp [rank, set]

@[simp] theorem rank_set : (state.set id call).rank id = state.boxes.count id + call.rank :=
  rank_put

theorem execute_rank {ok : Bool} {stmt : Stmt} (known : state.calls id = some call)
    (running : call.unwinding = false) (located : call.method.body[call.pc]? = some stmt)
    (moved : state.execute id call ok stmt = some (next, events)) :
    next.rank id < state.rank id := by
  rw [rank_eq known]
  have stopped := Call.rank_stop running located
  cases stmt with
  | lockRun | lockNetworks =>
      have less := Call.rank_bind running located rfl (by simp)
      obtain ⟨_, same⟩ := Option.ite_none_right_eq_some.mp moved
      cases Option.some.inj same
      show rank id ⟨(state.set id _).calls, _, _, state.boxes⟩ < _
      rw [rank_put]
      omega
  | deferReset =>
      have less := Call.rank_bind running located rfl (by simp)
      cases Option.some.inj moved
      rw [bind, rank_set]
      omega
  | resetTransport =>
      have less := Call.rank_pass running located rfl
      cases ok with
      | true =>
          cases Option.some.inj moved
          rw [if_pos rfl, rank_set]
          omega
      | false =>
          cases Option.some.inj moved
          rw [if_neg (by simp), stop, rank_set]
          omega
  | allocRoot =>
      cases ok with
      | true =>
          have less := Call.rank_root running located
          cases Option.some.inj moved
          rw [bind, rank_put, List.count_cons_self]
          omega
      | false =>
          cases Option.some.inj moved
          rw [stop, rank_set]
          omega
  | awaitRoot =>
      cases Option.some.inj moved
      rw [stop, rank_set]
      omega

theorem release_rank {newest : Local} {rest : List Local} (known : state.calls id = some call)
    (unwinding : call.unwinding = true) (frame : call.frame = newest :: rest)
    (moved : state.release id call rest newest = some (next, events)) :
    next.rank id < state.rank id := by
  rw [rank_eq known]
  cases newest with
  | netTask =>
      have popped := Call.rank_popRoot unwinding frame
      obtain ⟨last, same⟩ := Option.ite_none_right_eq_some.mp moved
      cases Option.some.inj same
      show rank id ⟨(state.set id _).calls, _, _, state.boxes.erase id⟩ < _
      rw [rank_put, List.count_erase_self]
      omega
  | defer =>
      have popped := Call.rank_pop unwinding frame (by simp)
      cases Option.some.inj moved
      rw [rank_set]
      omega
  | networks | lock =>
      have popped := Call.rank_pop unwinding frame (by simp)
      cases Option.some.inj moved
      show rank id ⟨(state.set id _).calls, _, _, state.boxes⟩ < _
      rw [rank_put]
      omega

/-- What a call does, its root future or their destructors. -/
def spends (id : Nat) : CallAction → Bool
  | .step other _ | .unwind other | .drop other => other = id
  | _ => false

/-- The root future of the call allocates a box. -/
def allocates (id : Nat) : CallAction → Bool
  | .alloc other => other = id
  | _ => false

theorem step_rank (spent : spends id action = true)
    (moved : machine.step state action = some (next, events)) : next.rank id < state.rank id := by
  cases action with
  | step other ok =>
      have same : other = id := by simpa [spends] using spent
      subst same
      simp only [machine, step] at moved
      split at moved
      · cases moved
      · rename_i call known
        obtain ⟨running, moved⟩ := Option.ite_none_left_eq_some.mp moved
        have going : call.unwinding = false := Bool.not_eq_true _ ▸ running
        split at moved
        · cases moved
        · rename_i stmt located
          exact execute_rank known going located moved
  | unwind other =>
      have same : other = id := by simpa [spends] using spent
      subst same
      simp only [machine, step] at moved
      split at moved
      · cases moved
      · rename_i call known
        obtain ⟨unwinding, moved⟩ := Option.ite_none_right_eq_some.mp moved
        split at moved
        · cases moved
        · rename_i newest rest frame
          exact release_rank known unwinding frame moved
  | drop other =>
      have same : other = id := by simpa [spends] using spent
      subst same
      obtain ⟨many, same⟩ := Option.ite_none_right_eq_some.mp moved
      cases Option.some.inj same
      simp only [rank, List.count_erase_self]
      omega
  | call | alloc | cancel => cases spent

theorem step_boxes (moved : machine.step state action = some (next, events))
    (different : id ≠ action.id) : next.boxes.count id = state.boxes.count id := by
  cases step_cases moved with
  | root | allocated => exact List.count_cons_of_ne (Ne.symm different)
  | dropped | rootDropped => exact List.count_erase_of_ne different
  | _ => rfl

theorem set_known {other : Nat} (known : ∃ found, state.calls id = some found) :
    ∃ found, (state.set other call).calls id = some found := by
  by_cases same : id = other
  · exact ⟨call, by simp [set, same]⟩
  · simpa [set, same] using known

theorem Step.known (moved : Step state action events next)
    (known : ∃ call, state.calls id = some call) : ∃ call, next.calls id = some call := by
  cases moved with
  | allocated | dropped => exact known
  | _ => exact set_known known

/-- Only a box that its root future allocates adds to what is left to a call. -/
theorem step_pays (known : ∃ call, state.calls id = some call)
    (moved : machine.step state action = some (next, events)) :
    next.rank id + (spends id action).toNat ≤ state.rank id + (allocates id action).toNat := by
  by_cases spent : spends id action = true
  · have less := step_rank spent moved
    rw [spent]
    exact Nat.le_add_right_of_le less
  · have unspent : spends id action = false := Bool.not_eq_true _ ▸ spent
    rw [unspent]
    by_cases mine : action.id = id
    · cases action with
      | step | unwind | drop => exact absurd (decide_eq_true mine) spent
      | call other method =>
          have same : other = id := mine
          subst same
          obtain ⟨call, known⟩ := known
          obtain ⟨unused, _⟩ := Option.ite_none_right_eq_some.mp moved
          rw [known] at unused
          cases unused
      | alloc other =>
          have same : other = id := mine
          subst same
          simp only [machine, step] at moved
          split at moved
          · cases moved
          · obtain ⟨_, same⟩ := Option.ite_none_right_eq_some.mp moved
            cases Option.some.inj same
            simp only [rank, List.count_cons_self, allocates, decide_true, Bool.toNat_true,
              Bool.toNat_false]
            omega
      | cancel other =>
          have same : other = id := mine
          subst same
          simp only [machine, step] at moved
          split at moved
          · cases moved
          · rename_i call found
            obtain ⟨_, same⟩ := Option.ite_none_left_eq_some.mp moved
            cases Option.some.inj same
            rw [stop, rank_set, rank_eq found]
            exact Nat.le_add_right_of_le (Nat.add_le_add_left Call.rank_cancel _)
    · have others := step_calls moved (Ne.symm mine)
      have boxes := step_boxes moved (Ne.symm mine)
      have same : next.rank id = state.rank id := by simp only [rank, others, boxes]
      rw [same]
      exact Nat.le_add_right _ _

/-- The call has left its root future, or will never enter it. -/
def Leaving (state : Shared) (id : Nat) : Prop :=
  ∃ call, state.calls id = some call ∧ call.unwinding = true

theorem Leaving.outside (leaving : state.Leaving id) : state.inRoot id = false := by
  obtain ⟨call, known, unwinding⟩ := leaving
  simp [inRoot, known, unwinding]

theorem Leaving.set {other : Nat} (leaving : state.Leaving id)
    (goes : other = id → call.unwinding = true) : (state.set other call).Leaving id := by
  by_cases same : other = id
  · subst same
    exact ⟨call, by simp [Shared.set], goes rfl⟩
  · obtain ⟨found, known, unwinding⟩ := leaving
    exact ⟨found, by simpa [Shared.set, Ne.symm same] using known, unwinding⟩

theorem Step.leaving (moved : Step state action events next) (leaving : state.Leaving id) :
    next.Leaving id := by
  have same {other : Nat} {call : Call} (known : state.calls other = some call)
      (mine : other = id) : call.unwinding = true := by
    obtain ⟨found, same, unwinding⟩ := leaving
    subst mine
    rw [known] at same
    cases same
    exact unwinding
  cases moved with
  | called other method unused =>
      refine leaving.set ?_
      rintro rfl
      obtain ⟨_, known, _⟩ := leaving
      rw [unused] at known
      cases known
  | allocated | dropped => exact leaving
  | stopped => exact leaving.set (fun _ => rfl)
  | locked known | networks known | defer known | transport known | root known
  | rootDropped known | reset known | released known | unlocked known =>
      refine leaving.set fun mine => ?_
      have unwinding := same known mine
      exact unwinding

/-- What holds of a call that is alone with `run_lock`, and of the others beside it. -/
structure Alone (before : Shared) (id : Nat) (state : Shared) : Prop where
  exclusive : Exclusive state
  prompt : Prompt state
  known : ∃ call, state.calls id = some call
  lock : state.runLock = none ∨ state.runLock = some id
  leaving : before.Leaving id → state.Leaving id
  others : ∀ other, other ≠ id → state.calls other = before.calls other

theorem Step.lock (moved : Step state action events next) (mine : action.id = id)
    (lock : state.runLock = none ∨ state.runLock = some id) :
    next.runLock = none ∨ next.runLock = some id := by
  cases moved with
  | locked => exact .inr (congrArg some mine)
  | unlocked => exact .inl rfl
  | _ => exact lock

theorem Own.mine (own : Own id state action) : action.id = id := by
  cases action with
  | step | unwind | drop => exact own.1
  | call | alloc | cancel => cases own

theorem Own.spends (own : Own id state action) : spends id action = true := by
  cases action with
  | step | unwind | drop => exact decide_eq_true own.1
  | call | alloc | cancel => cases own

theorem Alone.step {before : Shared} (now : Alone before id state) (own : Own id state action)
    (moved : machine.step state action = some (next, events)) : Alone before id next := by
  have known := step_cases moved
  have mine : action.id = id := own.mine
  refine ⟨known.exclusive now.exclusive, known.prompt now.exclusive now.prompt,
    known.known now.known, known.lock mine now.lock, ?_, ?_⟩
  · exact fun leaving => known.leaving (now.leaving leaving)
  · intro other apart
    exact (step_calls moved (mine.symm ▸ apart)).trans (now.others other apart)

/-- The call alone: a machine that makes its own steps only. -/
abbrev alone (id : Nat) : Machine Shared CallAction CallEvent := machine.restrict (Own id)

theorem own_ranking (before : Shared) (id : Nat) :
    Ranking (alone id) (fun _ => True) (Alone before id) (rank id) := by
  constructor
  · intro state next action events now _ moved
    obtain ⟨own, moved⟩ := Option.ite_none_right_eq_some.mp moved
    exact now.step own moved
  · intro state next action events now _ moved
    obtain ⟨own, moved⟩ := Option.ite_none_right_eq_some.mp moved
    exact step_rank own.spends moved

/-- Where a call gets by itself: into its root future, unless it has left it, or to its end. -/
def Arrives (before : Shared) (id : Nat) (last : Shared) : Prop :=
  ¬ before.Leaving id ∧ last.inRoot id = true ∧ last.runLock = some id ∨
  (∃ call, last.calls id = some call ∧ call.Finished) ∧ last.runLock = none ∧
    last.networksLock = none ∧ last.boxes = []

theorem inRoot_lock (exclusive : Exclusive state) (inside : state.inRoot id = true) :
    state.runLock = some id := by
  cases known : state.calls id with
  | none => simp [inRoot, known] at inside
  | some call =>
      obtain ⟨running, located⟩ := (inRoot_eq known).mp inside
      have valid := exclusive.valid id call known
      have live := Method.netTask_live located
      rw [← valid.running running] at live
      rw [exclusive.lock, frame_eq known]
      exact valid.lock_mem (List.ne_nil_of_mem live)

/-- A finished call has left nothing locked. -/
theorem Alone.finished {before : Shared} (now : Alone before id state)
    (known : state.calls id = some call) (finished : call.Finished) :
    state.runLock = none ∧ state.networksLock = none ∧ state.boxes = [] := by
  have free : state.runLock = none := by
    rcases now.lock with free | mine
    · exact free
    · rw [now.exclusive.lock, frame_eq known, finished.2] at mine
      cases mine
  refine ⟨free, ?_, ?_⟩
  · cases held : state.networksLock with
    | none => rfl
    | some owner =>
        have member := now.prompt.networks owner held
        cases found : state.calls owner with
        | none => simp [frame, found] at member
        | some holder =>
            rw [frame_eq found] at member
            have guarded := (now.exclusive.valid owner holder found).lock_mem
              (List.ne_nil_of_mem member)
            rw [← frame_eq found, ← now.exclusive.lock, free] at guarded
            cases guarded
  · apply List.eq_nil_iff_forall_not_mem.mpr
    intro owner member
    have holds := now.exclusive.owner member
    rw [free] at holds
    cases holds

/-- A call that cannot go on by itself is inside its root future, or has finished. -/
theorem Alone.arrives {before : Shared} (now : Alone before id state)
    (settled : (alone id).Settled (fun _ => True) state) : Arrives before id state := by
  obtain ⟨call, known⟩ := now.known
  cases inside : state.inRoot id with
  | true =>
      refine .inl ⟨?_, inside, inRoot_lock now.exclusive inside⟩
      intro leaving
      rw [(now.leaving leaving).outside] at inside
      cases inside
  | false =>
      have finished : call.Finished := by
        by_contra unfinished
        obtain ⟨action, own, possible⟩ :=
          now.prompt.possible now.exclusive known unfinished inside now.lock
        exact possible ((if_pos own).symm.trans (settled action trivial))
      exact .inr ⟨⟨call, known, finished⟩, now.finished known finished⟩

/-- In every interleaving, a call never waits for the networks store, and outside its root
future it can go on by itself until it has finished, unless another one holds `run_lock`.
Whatever happens from then on, it takes ten steps at most, and as many as there are boxes to be
dropped. With `run_lock` in hand or free, its own steps, however they turn out, come to an end:
inside its root future, or with both locks free and no box left. -/
theorem calls_progress (reached : Reachable machine initial log state)
    (known : state.calls id = some call) :
    (call.unwinding = false → call.method.body[call.pc]? = some .lockNetworks →
      state.networksLock = none) ∧
    (call.Finished ∨ state.inRoot id = true ∨
      (∃ action, Own id state action ∧ machine.step state action ≠ none) ∨
      ∃ other ≠ id, state.runLock = some other) ∧
    (∀ actions last later, machine.exec state actions = some (last, later) →
      actions.countP (spends id) ≤ 10 + state.boxes.count id + actions.countP (allocates id)) ∧
    (state.runLock = none ∨ state.runLock = some id →
      (∀ actions last later, machine.run (Own id) state actions = some (last, later) →
        (∀ action, Own id last action → machine.step last action = none) →
        Arrives state id last ∧ ∀ other ≠ id, last.calls other = state.calls other) ∧
      ∃ actions last later, machine.run (Own id) state actions = some (last, later) ∧
        ∀ action, Own id last action → machine.step last action = none) := by
  have exclusive := reachable_exclusive reached
  have prompt := reachable_prompt reached
  refine ⟨prompt.networks_free exclusive known, ?_, ?_, ?_⟩
  · by_cases finished : call.Finished
    · exact .inl finished
    · cases inside : state.inRoot id with
      | true => exact .inr (.inl rfl)
      | false =>
          have goesOn := prompt.possible exclusive known finished inside
          cases holder : state.runLock with
          | none => exact .inr (.inr (.inl (goesOn (.inl holder))))
          | some owner =>
              by_cases mine : owner = id
              · subst mine
                exact .inr (.inr (.inl (goesOn (.inr holder))))
              · exact .inr (.inr (.inr ⟨owner, mine, rfl⟩))
  · intro actions last later executed
    have paid : ∀ state next action events, (∃ call, state.calls id = some call) → True →
        machine.step state action = some (next, events) →
        (∃ call, next.calls id = some call) ∧
          next.rank id + (spends id action).toNat ≤
            state.rank id + (allocates id action).toNat :=
      fun _ _ _ _ known _ moved => ⟨(step_cases moved).known known, step_pays known moved⟩
    have bound := (Machine.spent paid ⟨call, known⟩ (fun _ _ => trivial) executed).2
    have most := (exclusive.valid id call known).rank_le (prompt.located id call known)
    rw [rank_eq known] at bound
    omega
  · intro lock
    have now : Alone state id state :=
      ⟨exclusive, prompt, ⟨call, known⟩, lock, fun leaving => leaving, fun _ _ => rfl⟩
    have stuck {last : Shared} : (alone id).Settled (fun _ => True) last ↔
        ∀ action, Own id last action → machine.step last action = none := by
      constructor
      · intro settled action own
        exact (if_pos own).symm.trans (settled action trivial)
      · intro none action _
        by_cases own : Own id last action
        · exact (if_pos own).trans (none action own)
        · exact if_neg own
    constructor
    · intro actions last later executed settled
      rw [Machine.run_eq_exec] at executed
      have ended := ((own_ranking state id).bounded now (fun _ _ => trivial) executed).1
      exact ⟨ended.arrives (stuck.mpr settled), ended.others⟩
    · obtain ⟨actions, last, later, _, executed, settled⟩ :=
        (own_ranking state id).settles state now
      rw [← Machine.run_eq_exec] at executed
      exact ⟨actions, last, later, executed, stuck.mp settled⟩

/-- One call is dropped while its root future has a box, and another one waits for
`run_lock`. -/
def holding : List CallAction :=
  [.call 0 .wifiRun, .call 1 .threadRun] ++ List.replicate 5 (.step 0 true) ++
    [.alloc 0, .cancel 0]

theorem calls_progress_holding :
    ∃ log state, Reachable machine initial log state ∧ state.runLock = some 0 ∧
      state.boxes = [0, 0] ∧ ∃ later last, Reachable machine state later last ∧
        last.runLock = none ∧ last.boxes = [] ∧
        last.calls 1 = some ⟨.threadRun, 0, [], false⟩ := by
  have executed : machine.exec initial holding = some (_, _) := rfl
  have reached := Machine.exec_reachable executed
  have progress := (calls_progress reached (show calls _ 0 = some _ from rfl)).2.2.2 (.inr rfl)
  obtain ⟨actions, last, later, handed, settled⟩ := progress.2
  obtain ⟨arrives, others⟩ := progress.1 _ _ _ handed settled
  obtain ⟨_, free, _, boxes⟩ := arrives.resolve_left (fun inside => inside.1 ⟨_, rfl, rfl⟩)
  exact ⟨_, _, reached, rfl, rfl, later, last, (Machine.run_reaches handed).reachable, free, boxes,
    others 1 (by decide)⟩

end Shared

end RsMatterStack
