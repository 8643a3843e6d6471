import RsMatterStack.BumpSeparation
import RsMatterStack.Refinement
import RsMatterStack.ResetDiscipline

set_option autoImplicit false

/-! The memory of a stack under concurrent calls of its `run` methods: every call
allocates from the one `Bump`, which a call resets without asking for the boxes of others. -/

namespace RsMatterStack

open Transition (Machine Reaches Reachable Everywhere)

namespace CallAction

/-- The call that acts. -/
def id : CallAction → Nat
  | call id _ | step id _ | alloc id | drop id | cancel id | unwind id => id

end CallAction

namespace Method

/-- Wherever a call allocates it has the guard of `run_lock`. -/
theorem lock_live {method : Method} {pc : Nat} {stmt : Stmt}
    (located : method.body[pc]? = some stmt) (allocates : stmt = .allocRoot ∨ stmt = .awaitRoot) :
    .lock ∈ method.frameAt pc := by
  have checked : ∀ pc < method.body.length,
      method.body[pc]? = some .allocRoot ∨ method.body[pc]? = some .awaitRoot →
      .lock ∈ method.frameAt pc := by
    cases method <;> decide
  apply checked pc (located_lt located)
  rcases allocates with rfl | rfl
  · exact .inl located
  · exact .inr located

end Method

namespace Shared

/-- How a call allocates at its place: its root future, or what that needs. -/
def allocation (state : Shared) (id : Nat) : Option CallAction :=
  match state.calls id with
  | none => none
  | some call =>
      if call.unwinding then none
      else match call.method.body[call.pc]? with
        | some .allocRoot => some (.step id true)
        | some .awaitRoot => some (.alloc id)
        | _ => none

/-- How a box of the call goes: its root box with the local that holds it. -/
def disposal (state : Shared) (id : Nat) : Option CallAction :=
  if 1 < state.boxes.count id then some (.drop id)
  else match state.calls id with
    | some ⟨_, _, .netTask :: _, true⟩ => some (.unwind id)
    | _ => none

variable {state next : Shared} {action : CallAction} {events : List CallEvent} {id : Nat}

theorem set_other {call : Call} {other : Nat} (different : other ≠ id) :
    (state.set id call).calls other = state.calls other := by
  simp [set, different]

/-- A call only moves itself. -/
theorem step_calls (moved : machine.step state action = some (next, events))
    (different : id ≠ action.id) : next.calls id = state.calls id := by
  cases action with
  | call other method =>
      obtain ⟨_, same⟩ := Option.ite_none_right_eq_some.mp moved
      cases Option.some.inj same
      exact set_other different
  | step other ok =>
      simp only [machine, step] at moved
      split at moved
      · cases moved
      · obtain ⟨_, moved⟩ := Option.ite_none_left_eq_some.mp moved
        split at moved
        · cases moved
        · rename_i stmt _
          cases stmt with
          | lockRun | lockNetworks =>
              obtain ⟨_, same⟩ := Option.ite_none_right_eq_some.mp moved
              cases Option.some.inj same
              exact set_other different
          | deferReset | awaitRoot =>
              cases Option.some.inj moved
              exact set_other different
          | resetTransport | allocRoot =>
              cases ok <;> cases Option.some.inj moved <;> exact set_other different
  | alloc other =>
      simp only [machine, step] at moved
      split at moved
      · cases moved
      · obtain ⟨_, same⟩ := Option.ite_none_right_eq_some.mp moved
        cases Option.some.inj same
        rfl
  | drop other =>
      obtain ⟨_, same⟩ := Option.ite_none_right_eq_some.mp moved
      cases Option.some.inj same
      rfl
  | cancel other =>
      simp only [machine, step] at moved
      split at moved
      · cases moved
      · obtain ⟨_, same⟩ := Option.ite_none_left_eq_some.mp moved
        cases Option.some.inj same
        exact set_other different
  | unwind other =>
      simp only [machine, step] at moved
      split at moved
      · cases moved
      · obtain ⟨_, moved⟩ := Option.ite_none_right_eq_some.mp moved
        split at moved
        · cases moved
        · rename_i newest rest _
          cases newest with
          | netTask =>
              obtain ⟨_, same⟩ := Option.ite_none_right_eq_some.mp moved
              cases Option.some.inj same
              exact set_other different
          | defer | networks | lock =>
              cases Option.some.inj moved
              exact set_other different

theorem allocation_other (moved : machine.step state action = some (next, events))
    (different : id ≠ action.id) : next.allocation id = state.allocation id := by
  simp only [allocation, step_calls moved different]

/-- The owners of the live boxes after an event. -/
def boxesAfter (boxes : List Nat) : CallEvent → List Nat
  | .allocated id => id :: boxes
  | .dropped id => boxes.erase id
  | _ => boxes

theorem Step.boxes (moved : Step state action events next) :
    next.boxes = events.foldl boxesAfter state.boxes := by
  cases moved with
  | _ => rfl

theorem step_allocation {alloc : CallAction} (allocates : state.allocation id = some alloc)
    (moved : machine.step state alloc = some (next, events)) :
    alloc.id = id ∧ events = [.allocated id] := by
  unfold allocation at allocates
  split at allocates
  · cases allocates
  · rename_i call known
    obtain ⟨running, allocates⟩ := Option.ite_none_left_eq_some.mp allocates
    split at allocates
    · rename_i located
      cases Option.some.inj allocates
      simp only [machine, step, known, located, execute, running] at moved
      cases Option.some.inj moved
      exact ⟨rfl, rfl⟩
    · rename_i located
      cases Option.some.inj allocates
      simp only [machine, step, known, located, running, and_self, ↓reduceIte] at moved
      cases Option.some.inj moved
      exact ⟨rfl, rfl⟩
    · cases allocates

theorem step_disposal {goes : CallAction} (disposes : state.disposal id = some goes)
    (moved : machine.step state goes = some (next, events)) :
    goes.id = id ∧ events = [.dropped id] := by
  unfold disposal at disposes
  split at disposes
  · rename_i many
    cases Option.some.inj disposes
    simp only [machine, step, many, ↓reduceIte] at moved
    cases Option.some.inj moved
    exact ⟨rfl, rfl⟩
  · split at disposes
    · rename_i known
      cases Option.some.inj disposes
      simp only [machine, step, known, ↓reduceIte, release] at moved
      obtain ⟨_, same⟩ := Option.ite_none_right_eq_some.mp moved
      cases Option.some.inj same
      exact ⟨rfl, rfl⟩
    · cases disposes

theorem step_cancel (moved : machine.step state (.cancel id) = some (next, events)) :
    events = [] := by
  simp only [machine, step] at moved
  split at moved
  · cases moved
  · obtain ⟨_, same⟩ := Option.ite_none_left_eq_some.mp moved
    cases Option.some.inj same
    rfl

/-- A call that allocates holds `run_lock`, and is not on its way out. -/
theorem Exclusive.allocates (now : Exclusive state) {alloc : CallAction}
    (allocates : state.allocation id = some alloc) :
    state.runLock = some id ∧ ∃ call, state.calls id = some call ∧ call.unwinding = false := by
  unfold allocation at allocates
  split at allocates
  · cases allocates
  · rename_i call known
    obtain ⟨running, allocates⟩ := Option.ite_none_left_eq_some.mp allocates
    have alive : call.unwinding = false := Bool.not_eq_true _ ▸ running
    refine ⟨?_, call, known, alive⟩
    rw [now.lock, frame_eq known, (now.valid id call known).running alive]
    split at allocates
    · rename_i located
      exact Method.lock_live located (.inl rfl)
    · rename_i located
      exact Method.lock_live located (.inr rfl)
    · cases allocates

end Shared

/-- The calls and the arena behind their `Bump`; `owners` has the call of every slot
handed out since the last reset, in the order of the slots. -/
structure StackMemory where
  shared : Shared
  arena : Arena
  owners : List Nat

inductive MemoryAction
  /-- A step of a call that neither allocates nor drops a box. -/
  | call (action : CallAction)
  /-- `alloc_with` reserves a slot. -/
  | reserve (id : Nat) (layout : Layout)
  /-- Its closure has returned the object. -/
  | finish (box : Nat) (object : List UInt8)
  /-- Its closure has panicked. -/
  | abandon (box : Nat)
  | store (box : Nat) (offset : Nat) (bytes : List UInt8)
  | drop (box : Nat) (remains : List UInt8)

inductive MemoryEvent
  | call (event : CallEvent)
  | arena (event : ArenaEvent)
deriving DecidableEq

namespace MemoryEvent

def call? : MemoryEvent → Option CallEvent
  | call event => some event
  | arena _ => none

def arena? : MemoryEvent → Option ArenaEvent
  | call _ => none
  | arena event => some event

end MemoryEvent

namespace StackMemory

def initial (base capacity : Nat) (memory : Nat → UInt8) : StackMemory :=
  ⟨.initial, .new base capacity memory, []⟩

/-- The call is inside the closure of an `alloc_with`. -/
def Constructing (memory : StackMemory) (id : Nat) : Prop :=
  ∃ box ∈ memory.arena.pending, memory.owners[box]? = some id

instance (memory : StackMemory) (id : Nat) : Decidable (memory.Constructing id) :=
  inferInstanceAs (Decidable (∃ box ∈ memory.arena.pending, memory.owners[box]? = some id))

/-- The call has moved; `_defer` resets the allocator, whatever it has handed out. -/
def passed (memory : StackMemory) (shared : Shared) :
    List CallEvent → Option (StackMemory × List MemoryEvent)
  | [.allocated _] | [.dropped _] => none
  | [.reset id] => some (⟨shared, memory.arena.reset, []⟩, [.call (.reset id), .arena .reset])
  | events => some ({ memory with shared := shared }, events.map .call)

/-- A step of a call together with one of the arena. -/
def both (memory : StackMemory) (action : CallAction) (inner : ArenaAction) :
    Option (StackMemory × List MemoryEvent) :=
  match memory.shared.step action, memory.arena.step inner with
  | some (shared, noted), some (arena, events) =>
      some ({ memory with shared := shared, arena := arena },
        noted.map .call ++ events.map .arena)
  | _, _ => none

def reserve (memory : StackMemory) (id : Nat) (layout : Layout) :
    Option (StackMemory × List MemoryEvent) :=
  match memory.arena.bump.reserve layout with
  -- The panic goes through the call
  | .error _ => memory.both (.cancel id) (.reserve layout)
  | .ok _ => some ({ memory with
      arena := (memory.arena.reserve layout).1
      owners := memory.owners ++ [id] }, [.arena (memory.arena.reserve layout).2])

def step (memory : StackMemory) : MemoryAction → Option (StackMemory × List MemoryEvent)
  | .call action =>
      if memory.Constructing action.id then none
      else match memory.shared.step action with
        | none => none
        | some (shared, events) => memory.passed shared events
  | .reserve id layout =>
      if memory.Constructing id then none
      else match memory.shared.allocation id with
        | none => none
        | some _ => memory.reserve id layout
  | .finish box object =>
      match memory.owners[box]? with
      | none => none
      | some id => match memory.shared.allocation id with
        | none => none
        | some action => memory.both action (.finish box object)
  | .abandon box =>
      match memory.owners[box]? with
      | none => none
      | some id => memory.both (.cancel id) (.abandon box)
  | .store box offset bytes =>
      match memory.arena.step (.store box offset bytes) with
      | none => none
      | some (arena, events) => some ({ memory with arena := arena }, events.map .arena)
  | .drop box remains =>
      match memory.owners[box]? with
      | none => none
      | some id =>
          -- The root future owns all other boxes of its call
          if memory.Constructing id ∨
              1 < memory.shared.boxes.count id ∧ memory.owners.idxOf id = box then none
          else match memory.shared.disposal id with
            | none => none
            | some action => memory.both action (.drop box remains)

def machine : Machine StackMemory MemoryAction MemoryEvent := ⟨step⟩

variable {memory next : StackMemory} {action : MemoryAction} {log events : List MemoryEvent}

/-- Events of a call that have nothing to do with boxes. -/
def Plain (events : List CallEvent) : Prop :=
  ∀ id, .allocated id ∉ events ∧ .dropped id ∉ events ∧ .reset id ∉ events

/-- Each kind of step, with what it needs and does. -/
inductive Step (memory : StackMemory) :
    MemoryAction → List MemoryEvent → StackMemory → Prop
  | passed {action : CallAction} {shared : Shared} {noted : List CallEvent}
      (ready : ¬ memory.Constructing action.id)
      (moved : Shared.machine.step memory.shared action = some (shared, noted))
      (plain : Plain noted) :
      Step memory (.call action) (noted.map .call) { memory with shared := shared }
  | reset {action : CallAction} {shared : Shared} {id : Nat}
      (moved : Shared.machine.step memory.shared action = some (shared, [.reset id])) :
      Step memory (.call action) [.call (.reset id), .arena .reset]
        ⟨shared, memory.arena.reset, []⟩
  | reserved {id address : Nat} {layout : Layout} {bump : Bump} {alloc : CallAction}
      (ready : ¬ memory.Constructing id) (allocates : memory.shared.allocation id = some alloc)
      (success : memory.arena.bump.reserve layout = .ok (address, bump)) :
      Step memory (.reserve id layout)
        [.arena (.reserved memory.arena.slots.length ⟨address, layout⟩)]
        ⟨memory.shared, { memory.arena with
            bump := bump
            slots := memory.arena.slots ++ [⟨address, layout⟩]
            pending := memory.arena.slots.length :: memory.arena.pending },
          memory.owners ++ [id]⟩
  | refused {id : Nat} {layout : Layout} {shared : Shared} {noted : List CallEvent} {panic : Panic}
      (ready : ¬ memory.Constructing id)
      (moved : Shared.machine.step memory.shared (.cancel id) = some (shared, noted))
      (failed : memory.arena.bump.reserve layout = .error panic) :
      Step memory (.reserve id layout) (noted.map .call ++ [.arena (.panicked panic)])
        { memory with shared := shared }
  | finished {id box : Nat} {slot : Slot} {object : List UInt8} {alloc : CallAction}
      {shared : Shared} {noted : List CallEvent} (owned : memory.owners[box]? = some id)
      (allocates : memory.shared.allocation id = some alloc)
      (moved : Shared.machine.step memory.shared alloc = some (shared, noted))
      (located : memory.arena.slots[box]? = some slot) (pending : box ∈ memory.arena.pending)
      (size : object.length = slot.layout.size) :
      Step memory (.finish box object) (noted.map .call ++ [.arena (.constructed box object)])
        ⟨shared, memory.arena.finish box slot object, memory.owners⟩
  | abandoned {id box : Nat} {shared : Shared} {noted : List CallEvent}
      (owned : memory.owners[box]? = some id)
      (moved : Shared.machine.step memory.shared (.cancel id) = some (shared, noted))
      (pending : box ∈ memory.arena.pending) :
      Step memory (.abandon box) (noted.map .call ++ [.arena (.abandoned box)])
        ⟨shared, { memory.arena with pending := memory.arena.pending.filter (· ≠ box) },
          memory.owners⟩
  | stored {box offset : Nat} {bytes : List UInt8} {slot : Slot}
      (located : memory.arena.slots[box]? = some slot) (live : box ∈ memory.arena.live)
      (fits : offset + bytes.length ≤ slot.layout.size) :
      Step memory (.store box offset bytes) [.arena (.stored box offset bytes)]
        { memory with arena := memory.arena.store slot offset bytes }
  | dropped {id box : Nat} {remains : List UInt8} {slot : Slot} {goes : CallAction}
      {shared : Shared} {noted : List CallEvent} (owned : memory.owners[box]? = some id)
      (ready : ¬ memory.Constructing id) (disposes : memory.shared.disposal id = some goes)
      (moved : Shared.machine.step memory.shared goes = some (shared, noted))
      (located : memory.arena.slots[box]? = some slot) (live : box ∈ memory.arena.live)
      (size : remains.length = slot.layout.size) :
      Step memory (.drop box remains) (noted.map .call ++ [.arena (.dropped box)])
        ⟨shared, memory.arena.drop box slot remains, memory.owners⟩

theorem passed_cases {callAction : CallAction} {shared : Shared} {noted : List CallEvent}
    (ready : ¬ memory.Constructing callAction.id)
    (stepped : Shared.machine.step memory.shared callAction = some (shared, noted))
    (moved : memory.passed shared noted = some (next, events)) :
    Step memory (.call callAction) events next := by
  unfold passed at moved
  split at moved
  · cases moved
  · cases moved
  · cases Option.some.inj moved
    exact .reset stepped
  · rename_i noAllocated noDropped noReset
    cases Option.some.inj moved
    refine .passed ready stepped ?_
    intro id
    -- A call logs at most one event at a time
    have short : noted = [] ∨ ∃ event, noted = [event] := by
      cases Shared.step_cases stepped with
      | _ => first
        | exact .inl rfl
        | exact .inr ⟨_, rfl⟩
    rcases short with rfl | ⟨event, rfl⟩
    · simp
    · refine ⟨?_, ?_, ?_⟩
      · intro member
        exact noAllocated id (by rw [List.mem_singleton.mp member])
      · intro member
        exact noDropped id (by rw [List.mem_singleton.mp member])
      · intro member
        exact noReset id (by rw [List.mem_singleton.mp member])

theorem both_eq {callAction : CallAction} {inner : ArenaAction}
    (moved : memory.both callAction inner = some (next, events)) :
    ∃ shared noted arena emitted,
      Shared.machine.step memory.shared callAction = some (shared, noted) ∧
      memory.arena.step inner = some (arena, emitted) ∧
      next = ⟨shared, arena, memory.owners⟩ ∧ events = noted.map .call ++ emitted.map .arena := by
  unfold both at moved
  split at moved
  · rename_i shared noted arena emitted stepped inside
    cases Option.some.inj moved
    exact ⟨shared, noted, arena, emitted, stepped, inside, rfl, rfl⟩
  · cases moved

theorem step_cases (moved : machine.step memory action = some (next, events)) :
    Step memory action events next := by
  cases action with
  | call callAction =>
      obtain ⟨ready, moved⟩ := Option.ite_none_left_eq_some.mp moved
      split at moved
      · cases moved
      · rename_i shared noted stepped
        exact passed_cases ready stepped moved
  | reserve id layout =>
      obtain ⟨ready, moved⟩ := Option.ite_none_left_eq_some.mp moved
      split at moved
      · cases moved
      · rename_i alloc allocates
        unfold reserve at moved
        split at moved
        · rename_i panic failed
          obtain ⟨shared, noted, arena, emitted, stepped, inside, rfl, rfl⟩ := both_eq moved
          simp only [Arena.step, Arena.reserve, failed, Option.some.injEq, Prod.mk.injEq] at inside
          obtain ⟨rfl, rfl⟩ := inside
          exact .refused ready stepped failed
        · rename_i reserved success
          simp only [Arena.reserve, success, Option.some.injEq, Prod.mk.injEq] at moved
          obtain ⟨rfl, rfl⟩ := moved
          exact .reserved ready allocates success
  | finish box object =>
      simp only [machine, step] at moved
      split at moved
      · cases moved
      · rename_i id owned
        split at moved
        · cases moved
        · rename_i alloc allocates
          obtain ⟨shared, noted, arena, emitted, stepped, inside, rfl, rfl⟩ := both_eq moved
          simp only [Arena.step] at inside
          split at inside
          · cases inside
          · rename_i slot located
            obtain ⟨⟨pending, size⟩, same⟩ := Option.ite_none_right_eq_some.mp inside
            cases Option.some.inj same
            exact .finished owned allocates stepped located pending size
  | abandon box =>
      simp only [machine, step] at moved
      split at moved
      · cases moved
      · rename_i id owned
        obtain ⟨shared, noted, arena, emitted, stepped, inside, rfl, rfl⟩ := both_eq moved
        obtain ⟨pending, same⟩ := Option.ite_none_right_eq_some.mp inside
        cases Option.some.inj same
        exact .abandoned owned stepped pending
  | store box offset bytes =>
      simp only [machine, step] at moved
      split at moved
      · cases moved
      · rename_i arena emitted inside
        cases Option.some.inj moved
        simp only [Arena.step] at inside
        split at inside
        · cases inside
        · rename_i slot located
          obtain ⟨⟨live, fits⟩, same⟩ := Option.ite_none_right_eq_some.mp inside
          cases Option.some.inj same
          exact .stored located live fits
  | drop box remains =>
      simp only [machine, step] at moved
      split at moved
      · cases moved
      · rename_i id owned
        obtain ⟨guard, moved⟩ := Option.ite_none_left_eq_some.mp moved
        split at moved
        · cases moved
        · rename_i goes disposes
          obtain ⟨shared, noted, arena, emitted, stepped, inside, rfl, rfl⟩ := both_eq moved
          simp only [Arena.step] at inside
          split at inside
          · cases inside
          · rename_i slot located
            obtain ⟨⟨live, size⟩, same⟩ := Option.ite_none_right_eq_some.mp inside
            cases Option.some.inj same
            exact .dropped owned (fun constructing => guard (.inl constructing)) disposes stepped
              located live size

/-- Every slot has its call; the live boxes of the arena are the boxes of the calls, and the
one box under construction is that of a call that goes on. -/
structure Owned (memory : StackMemory) : Prop where
  owners : memory.owners.length = memory.arena.slots.length
  inside : ∀ box ∈ memory.arena.live, ∃ id, memory.owners[box]? = some id
  distinct : memory.arena.live.Nodup
  boxes : memory.shared.boxes.Perm (memory.arena.live.filterMap (memory.owners[·]?))
  single : memory.arena.pending.length ≤ 1
  pending : ∀ box ∈ memory.arena.pending, box ∉ memory.arena.live ∧ ∃ id alloc,
    memory.owners[box]? = some id ∧ memory.shared.allocation id = some alloc

theorem initial_owned (base capacity : Nat) (bytes : Nat → UInt8) :
    Owned (initial base capacity bytes) := by
  constructor <;> simp [initial, Arena.new, Shared.initial]

theorem Owned.alone (owned : Owned memory) {box other : Nat} (first : box ∈ memory.arena.pending)
    (second : other ∈ memory.arena.pending) : other = box := by
  have single := owned.single
  cases pending : memory.arena.pending with
  | nil => simp [pending] at first
  | cons head tail =>
      rw [pending] at first second single
      have empty : tail = [] := List.length_eq_zero_iff.mp (by simpa using single)
      subst empty
      exact (List.mem_singleton.mp second).trans (List.mem_singleton.mp first).symm

/-- Once its one pending box is settled, nothing is under construction. -/
theorem Owned.settled (owned : Owned memory) {box : Nat} (pending : box ∈ memory.arena.pending) :
    memory.arena.pending.filter (· ≠ box) = [] := by
  rw [List.filter_eq_nil_iff]
  intro other member
  simp [owned.alone pending member]

theorem Owned.split_live (owned : Owned memory) {box : Nat} (live : box ∈ memory.arena.live) :
    memory.arena.live.Perm (box :: memory.arena.live.filter (· ≠ box)) := by
  have erased := List.perm_cons_erase live
  rw [owned.distinct.erase_eq_filter] at erased
  simpa [bne, beq_eq_decide] using erased

/-- What is under construction belongs to the holder of `run_lock`. -/
theorem Owned.constructing (owned : Owned memory) (exclusive : memory.shared.Exclusive) {box : Nat}
    (member : box ∈ memory.arena.pending) :
    ∃ id call, memory.shared.runLock = some id ∧ memory.Constructing id ∧
      memory.shared.calls id = some call ∧ call.unwinding = false := by
  obtain ⟨_, id, alloc, same, allocates⟩ := owned.pending box member
  obtain ⟨holder, call, known, running⟩ := exclusive.allocates allocates
  exact ⟨id, call, holder, ⟨box, member, same⟩, known, running⟩

/-- Only one call allocates: while it is not under way, nothing is under construction. -/
theorem Owned.idle (owned : Owned memory) (exclusive : memory.shared.Exclusive) {id : Nat}
    (ready : ¬ memory.Constructing id) (holder : memory.shared.runLock = some id) :
    memory.arena.pending = [] := by
  apply List.eq_nil_iff_forall_not_mem.mpr
  intro box member
  obtain ⟨other, _, lock, constructing, _⟩ := owned.constructing exclusive member
  rw [holder, Option.some.injEq] at lock
  exact ready (lock ▸ constructing)

/-- The steps of a call that is not under construction leave the pending box alone. -/
theorem Owned.others (owned : Owned memory) {callAction : CallAction} {shared : Shared}
    {noted : List CallEvent} (ready : ¬ memory.Constructing callAction.id)
    (moved : Shared.machine.step memory.shared callAction = some (shared, noted)) :
    ∀ box ∈ memory.arena.pending, box ∉ memory.arena.live ∧ ∃ id alloc,
      memory.owners[box]? = some id ∧ shared.allocation id = some alloc := by
  intro box member
  obtain ⟨apart, id, alloc, same, allocates⟩ := owned.pending box member
  have different : id ≠ callAction.id := by
    intro equal
    exact ready ⟨box, member, equal ▸ same⟩
  exact ⟨apart, id, alloc, same, (Shared.allocation_other moved different).trans allocates⟩

theorem foldl_plain {noted : List CallEvent} (plain : Plain noted) (boxes : List Nat) :
    noted.foldl Shared.boxesAfter boxes = boxes := by
  induction noted with
  | nil => rfl
  | cons event rest ih =>
      have others : Plain rest := by
        intro id
        have absent := plain id
        simp only [List.mem_cons, not_or] at absent
        exact ⟨absent.1.2, absent.2.1.2, absent.2.2.2⟩
      have kept : Shared.boxesAfter boxes event = boxes := by
        cases event with
        | allocated id => exact absurd List.mem_cons_self (plain id).1
        | dropped id => exact absurd List.mem_cons_self (plain id).2.1
        | _ => rfl
      rw [List.foldl_cons, kept, ih others]

/-- Nothing is left in the arena when a call resets it. -/
theorem Owned.reset_empty (owned : Owned memory) (exclusive : memory.shared.Exclusive)
    {callAction : CallAction} {shared : Shared} {id : Nat}
    (moved : Shared.machine.step memory.shared callAction = some (shared, [.reset id])) :
    memory.arena.pending = [] ∧ memory.arena.live = [] := by
  have resets := Shared.step_cases moved
  obtain ⟨empty, holder⟩ := exclusive.reset_empty resets List.mem_cons_self
  constructor
  · apply List.eq_nil_iff_forall_not_mem.mpr
    intro box member
    obtain ⟨other, call, lock, _, known, running⟩ := owned.constructing exclusive member
    rw [holder, Option.some.injEq] at lock
    subst lock
    cases resets with
    | reset found unwinding newest =>
        rw [known, Option.some.injEq] at found
        rw [found, unwinding] at running
        cases running
  · apply List.eq_nil_iff_forall_not_mem.mpr
    intro box member
    obtain ⟨owner, same⟩ := owned.inside box member
    have boxes := owned.boxes
    rw [empty, List.nil_perm, List.filterMap_eq_nil_iff] at boxes
    rw [boxes box member] at same
    cases same

theorem getElem?_push {owners : List Nat} {box id other : Nat}
    (owned : owners[box]? = some other) : (owners ++ [id])[box]? = some other := by
  rw [List.getElem?_append_left (List.getElem?_eq_some_iff.mp owned).1, owned]

/-- A new slot comes after all others. -/
theorem Owned.reserve (owned : Owned memory) {id : Nat} {alloc : CallAction} (bump : Bump)
    (slot : Slot) (idle : memory.arena.pending = [])
    (allocates : memory.shared.allocation id = some alloc) :
    Owned ⟨memory.shared, { memory.arena with
      bump := bump
      slots := memory.arena.slots ++ [slot]
      pending := memory.arena.slots.length :: memory.arena.pending }, memory.owners ++ [id]⟩ := by
  have old : ∀ box ∈ memory.arena.live,
      (memory.owners ++ [id])[box]? = memory.owners[box]? := by
    intro box member
    obtain ⟨owner, same⟩ := owned.inside box member
    rw [getElem?_push same, same]
  refine ⟨?_, ?_, owned.distinct, ?_, ?_, ?_⟩
  · simp [owned.owners]
  · intro box member
    obtain ⟨owner, same⟩ := owned.inside box member
    exact ⟨owner, getElem?_push same⟩
  · rw [List.filterMap_congr old]
    exact owned.boxes
  · simp [idle]
  · intro box member
    rw [idle, List.mem_singleton] at member
    subst member
    refine ⟨?_, id, alloc, ?_, allocates⟩
    · intro live
      obtain ⟨owner, same⟩ := owned.inside _ live
      have short := (List.getElem?_eq_some_iff.mp same).1
      have length := owned.owners
      omega
    · rw [← owned.owners, List.getElem?_concat_length]

/-- The box that was under construction is live, and one of the boxes of its call. -/
theorem Owned.finish (owned : Owned memory) {id box : Nat} {shared : Shared} (slot : Slot)
    (object : List UInt8) (same : memory.owners[box]? = some id)
    (pending : box ∈ memory.arena.pending) (boxes : shared.boxes = id :: memory.shared.boxes) :
    Owned ⟨shared, memory.arena.finish box slot object, memory.owners⟩ := by
  have settled := owned.settled pending
  have fresh := (owned.pending box pending).1
  refine ⟨owned.owners, ?_, ?_, ?_, ?_, ?_⟩
  · intro other member
    rcases List.mem_cons.mp member with rfl | member
    · exact ⟨id, same⟩
    · exact owned.inside other member
  · exact List.nodup_cons.mpr ⟨fresh, owned.distinct⟩
  · simp only [boxes, Arena.finish, List.filterMap_cons, same]
    exact owned.boxes.cons id
  · show (memory.arena.pending.filter (· ≠ box)).length ≤ 1
    rw [settled]
    exact Nat.zero_le 1
  · intro other member
    have none_left : other ∈ memory.arena.pending.filter (· ≠ box) := member
    rw [settled] at none_left
    cases none_left

/-- The boxes that are left to the calls are those that are left in the arena. -/
theorem Owned.drop_boxes (owned : Owned memory) {id box : Nat}
    (same : memory.owners[box]? = some id) (live : box ∈ memory.arena.live) :
    (memory.shared.boxes.erase id).Perm
      ((memory.arena.live.filter (· ≠ box)).filterMap (memory.owners[·]?)) := by
  have boxes := owned.boxes.trans ((owned.split_live live).filterMap (memory.owners[·]?))
  simp only [List.filterMap_cons, same] at boxes
  simpa using boxes.erase id

theorem Step.owned (moved : Step memory action events next) (exclusive : memory.shared.Exclusive)
    (owned : Owned memory) : Owned next := by
  cases moved with
  | passed ready stepped plain =>
      refine ⟨owned.owners, owned.inside, owned.distinct, ?_, owned.single,
        owned.others ready stepped⟩
      have same := (Shared.step_cases stepped).boxes
      rw [foldl_plain plain] at same
      rw [same]
      exact owned.boxes
  | reset stepped =>
      obtain ⟨pending, live⟩ := owned.reset_empty exclusive stepped
      have same := (Shared.step_cases stepped).boxes
      have empty : memory.shared.boxes = [] := by
        have boxes := owned.boxes
        rwa [live, List.filterMap_nil, List.perm_nil] at boxes
      refine ⟨rfl, ?_, ?_, ?_, ?_, ?_⟩
      · simp [Arena.reset, live]
      · simp [Arena.reset, live]
      · simp [same, empty, Shared.boxesAfter]
      · simp [Arena.reset, pending]
      · simp [Arena.reset, pending]
  | reserved ready allocates success =>
      have holder := (exclusive.allocates allocates).1
      exact owned.reserve _ _ (owned.idle exclusive ready holder) allocates
  | @refused id _ _ _ _ ready stepped failed =>
      have others := owned.others (show ¬ memory.Constructing (CallAction.cancel id).id from ready)
        stepped
      refine ⟨owned.owners, owned.inside, owned.distinct, ?_, owned.single, others⟩
      rw [(Shared.step_cases stepped).boxes, Shared.step_cancel stepped]
      exact owned.boxes
  | finished same allocates stepped located pending size =>
      obtain ⟨_, rfl⟩ := Shared.step_allocation allocates stepped
      exact owned.finish _ _ same pending (Shared.step_cases stepped).boxes
  | @abandoned id box _ _ same stepped pending =>
      have settled := owned.settled pending
      refine ⟨owned.owners, owned.inside, owned.distinct, ?_, ?_, ?_⟩
      · rw [(Shared.step_cases stepped).boxes, Shared.step_cancel stepped]
        exact owned.boxes
      · rw [settled]
        exact Nat.zero_le 1
      · intro other member
        rw [settled] at member
        cases member
  | stored located live fits =>
      exact ⟨owned.owners, owned.inside, owned.distinct, owned.boxes, owned.single, owned.pending⟩
  | dropped same ready disposes stepped located live size =>
      obtain ⟨actor, rfl⟩ := Shared.step_disposal disposes stepped
      refine ⟨owned.owners, ?_, owned.distinct.filter _, ?_, owned.single, ?_⟩
      · intro other member
        exact owned.inside other (List.mem_of_mem_filter member)
      · rw [(Shared.step_cases stepped).boxes]
        exact owned.drop_boxes same live
      · intro other member
        obtain ⟨apart, rest⟩ := owned.others (actor ▸ ready) stepped other member
        exact ⟨fun back => apart (List.mem_of_mem_filter back), rest⟩

def callLog (log : List MemoryEvent) : List CallEvent := log.filterMap MemoryEvent.call?

def arenaLog (log : List MemoryEvent) : List ArenaEvent := log.filterMap MemoryEvent.arena?

@[simp] theorem callLog_append : callLog (log ++ events) = callLog log ++ callLog events :=
  List.filterMap_append

@[simp] theorem arenaLog_append : arenaLog (log ++ events) = arenaLog log ++ arenaLog events :=
  List.filterMap_append

@[simp] theorem callLog_calls (noted : List CallEvent) : callLog (noted.map .call) = noted := by
  induction noted with
  | nil => rfl
  | cons event rest ih => simpa [callLog, MemoryEvent.call?] using ih

@[simp] theorem arenaLog_calls (noted : List CallEvent) : arenaLog (noted.map .call) = [] := by
  induction noted with
  | nil => rfl
  | cons event rest ih => simp [arenaLog, MemoryEvent.arena?]

@[simp] theorem callLog_arena (event : ArenaEvent) : callLog [.arena event] = [] := rfl

@[simp] theorem arenaLog_arena (event : ArenaEvent) : arenaLog [.arena event] = [event] := rfl

/-- Every step is one of the calls, or none. -/
theorem Step.calls (moved : Step memory action events next) :
    Reachable Shared.machine memory.shared (callLog events) next.shared := by
  cases moved with
  | passed ready stepped plain =>
      rw [callLog_calls]
      exact .single trivial stepped
  | reset stepped => exact .single trivial stepped
  | refused ready stepped failed =>
      rw [callLog_append, callLog_calls, callLog_arena, List.append_nil]
      exact .single trivial stepped
  | finished owned allocates stepped | dropped owned ready disposes stepped =>
      rw [callLog_append, callLog_calls, callLog_arena, List.append_nil]
      exact .single trivial stepped
  | abandoned owned stepped =>
      rw [callLog_append, callLog_calls, callLog_arena, List.append_nil]
      exact .single trivial stepped
  | reserved | stored => exact .start

variable {base capacity : Nat} {bytes : Nat → UInt8}

theorem reachable_calls (reached : Reachable machine (initial base capacity bytes) log memory) :
    Reachable Shared.machine .initial (callLog log) memory.shared :=
  reached.simulates StackMemory.shared MemoryEvent.call?
    (fun _ _ _ _ _ _ _ _ moved => (step_cases moved).calls)

theorem reachable_owned (reached : Reachable machine (initial base capacity bytes) log memory) :
    Owned memory :=
  reached.invariant (fun _ memory => Owned memory) (initial_owned base capacity bytes)
    (fun _ _ _ _ _ reached owned _ moved =>
      (step_cases moved).owned (Shared.reachable_exclusive (reachable_calls reached)) owned)

/-- Every step is one of an arena that is only ever reset once nothing of it is in use. -/
theorem Step.arena (moved : Step memory action events next) (exclusive : memory.shared.Exclusive)
    (owned : Owned memory) :
    Reachable Arena.machine memory.arena (arenaLog events) next.arena := by
  cases moved with
  | passed ready stepped plain =>
      rw [arenaLog_calls]
      exact .start
  | reset stepped =>
      have unused := owned.reset_empty exclusive stepped
      have permitted : Arena.machine.step memory.arena .reset =
          some (memory.arena.reset, [.reset]) := by
        simp [Arena.machine, Arena.step, unused]
      exact .single trivial permitted
  | @reserved _ _ layout _ _ ready allocates success =>
      have permitted : Arena.machine.step memory.arena (.reserve layout) = some (_, _) := rfl
      simp only [Arena.reserve, success] at permitted
      exact .single trivial permitted
  | @refused _ layout _ _ _ ready stepped failed =>
      rw [arenaLog_append, arenaLog_calls, arenaLog_arena]
      have permitted : Arena.machine.step memory.arena (.reserve layout) = some (_, _) := rfl
      simp only [Arena.reserve, failed] at permitted
      exact .single trivial permitted
  | @finished _ box slot object _ _ _ same allocates stepped located pending size =>
      rw [arenaLog_append, arenaLog_calls, arenaLog_arena]
      have permitted : Arena.machine.step memory.arena (.finish box object) =
          some (memory.arena.finish box slot object, [.constructed box object]) := by
        simp [Arena.machine, Arena.step, located, pending, size]
      exact .single trivial permitted
  | @abandoned _ box _ _ same stepped pending =>
      rw [arenaLog_append, arenaLog_calls, arenaLog_arena]
      have permitted : Arena.machine.step memory.arena (.abandon box) =
          some ({ memory.arena with pending := memory.arena.pending.filter (· ≠ box) },
            [.abandoned box]) := by
        simp [Arena.machine, Arena.step, pending]
      exact .single trivial permitted
  | @stored box offset bytes slot located live fits =>
      have permitted : Arena.machine.step memory.arena (.store box offset bytes) =
          some (memory.arena.store slot offset bytes, [.stored box offset bytes]) := by
        simp [Arena.machine, Arena.step, located, live, fits]
      exact .single trivial permitted
  | @dropped _ box remains slot _ _ _ same ready disposes stepped located live size =>
      rw [arenaLog_append, arenaLog_calls, arenaLog_arena]
      have permitted : Arena.machine.step memory.arena (.drop box remains) =
          some (memory.arena.drop box slot remains, [.dropped box]) := by
        simp [Arena.machine, Arena.step, located, live, size]
      exact .single trivial permitted

theorem reachable_arena (reached : Reachable machine (initial base capacity bytes) log memory) :
    Reachable Arena.machine (.new base capacity bytes) (arenaLog log) memory.arena :=
  reached.simulates StackMemory.arena MemoryEvent.arena?
    (fun _ _ _ _ _ reached _ _ moved => (step_cases moved).arena
      (Shared.reachable_exclusive (reachable_calls reached)) (reachable_owned reached))

/-- The calls keep the contract of the unsafe `reset`: whatever their interleaving, what they
do to the memory is a run of an arena that is only reset once none of its boxes is in use. -/
theorem stack_memory_refines
    (reached : Reachable machine (initial base capacity bytes) log memory) :
    Reachable Shared.machine .initial (callLog log) memory.shared ∧
    Reachable Arena.machine (.new base capacity bytes) (arenaLog log) memory.arena :=
  ⟨reachable_calls reached, reachable_arena reached⟩

/-- One call has two boxes when it is dropped; the other, which has waited for it, then
makes its own in the same memory. -/
def handedOver : List MemoryAction :=
  [.call (.call 0 .wifiRun), .call (.call 1 .ethernetRun), .call (.step 0 true),
    .call (.step 0 true), .call (.step 0 true), .call (.step 0 true),
    .reserve 0 ⟨16, 16, ⟨4, rfl⟩, Nat.dvd_refl 16⟩, .finish 0 (.replicate 16 1),
    .reserve 0 ⟨16, 16, ⟨4, rfl⟩, Nat.dvd_refl 16⟩, .finish 1 (.replicate 16 2),
    .store 1 0 [3], .call (.cancel 0), .drop 1 (.replicate 16 9), .drop 0 (.replicate 16 9),
    .call (.unwind 0), .call (.unwind 0), .call (.unwind 0), .call (.step 1 true),
    .call (.step 1 true), .call (.step 1 true),
    .reserve 1 ⟨16, 16, ⟨4, rfl⟩, Nat.dvd_refl 16⟩, .finish 0 (.replicate 16 7), .store 0 2 [8]]

theorem stack_memory_refines_handedOver :
    ∃ log memory, Reachable machine (initial 1001 64 (fun _ => 0)) log memory ∧
      Reachable Arena.machine (.new 1001 64 (fun _ => 0)) (arenaLog log) memory.arena := by
  have executed : machine.exec (initial 1001 64 (fun _ => 0)) handedOver = some (_, _) := rfl
  have reached := Transition.Machine.exec_reachable executed
  exact ⟨_, _, reached, (stack_memory_refines reached).2⟩

/-- Every live box of any call is the holder's, and reads back what was last written through
it: no reset, and no box of another call, has ever touched it. -/
theorem stack_memory_intact
    (reached : Reachable machine (initial base capacity bytes) log memory) :
    ∀ box ∈ memory.arena.live, ∃ id slot, memory.owners[box]? = some id ∧
      memory.shared.runLock = some id ∧ memory.arena.slots[box]? = some slot ∧
      lastWritten box (arenaLog log) = some (memory.arena.load slot) := by
  intro box live
  have owned := reachable_owned reached
  have exclusive := Shared.reachable_exclusive (reachable_calls reached)
  obtain ⟨id, same⟩ := owned.inside box live
  obtain ⟨slot, located, value⟩ := Arena.reachable_intact (reachable_arena reached) box live
  have member : id ∈ memory.shared.boxes := by
    rw [owned.boxes.mem_iff, List.mem_filterMap]
    exact ⟨box, live, same⟩
  exact ⟨id, slot, same, exclusive.owner member, located, value⟩

theorem stack_memory_intact_handedOver :
    ∃ log memory, Reachable machine (initial 1001 64 (fun _ => 0)) log memory ∧
      memory.arena.live = [0] ∧ ∃ id slot, memory.owners[0]? = some id ∧
        memory.shared.runLock = some id ∧ memory.arena.slots[0]? = some slot ∧
        lastWritten 0 (arenaLog log) = some (memory.arena.load slot) := by
  have executed : machine.exec (initial 1001 64 (fun _ => 0)) handedOver = some (_, _) := rfl
  have reached := Transition.Machine.exec_reachable executed
  exact ⟨_, _, reached, rfl, stack_memory_intact reached 0 (by decide)⟩

def constructedStep (boxes : List Nat) : ArenaEvent → List Nat
  | .constructed box _ => box :: boxes
  | .reset => []
  | _ => boxes

/-- The boxes whose objects have been constructed since the last reset. -/
def constructedSince (log : List ArenaEvent) : List Nat := log.foldl constructedStep []

def droppedStep (boxes : List Nat) : ArenaEvent → List Nat
  | .dropped box => box :: boxes
  | .reset => []
  | _ => boxes

/-- The boxes whose destructors have run since the last reset. -/
def droppedSince (log : List ArenaEvent) : List Nat := log.foldl droppedStep []

/-- The destructor of every object runs once before its memory is given up, and that of
nothing else does. -/
def DroppedOnce (before : List ArenaEvent) : ArenaEvent → Prop
  | .reset => (constructedSince before).Nodup ∧ (droppedSince before).Perm (constructedSince before)
  | _ => True

/-- An object is constructed in a slot at most once, and lives until it is dropped. -/
structure Accounted (built gone : List Nat) (arena : Arena) : Prop where
  once : built.Nodup
  split : built.Perm (gone ++ arena.live)
  inside : ∀ box ∈ built, box < arena.slots.length
  pending : ∀ box ∈ arena.pending, box ∉ built ∧ box < arena.slots.length

theorem Accounted.keep {built gone : List Nat} {arena after : Arena}
    (now : Accounted built gone arena) (live : after.live = arena.live)
    (slots : after.slots = arena.slots)
    (pending : ∀ box ∈ after.pending, box ∈ arena.pending) : Accounted built gone after := by
  refine ⟨now.once, ?_, ?_, ?_⟩
  · rw [live]
    exact now.split
  · rw [slots]
    exact now.inside
  · rw [slots]
    exact fun box member => now.pending box (pending box member)

/-- A slot is numbered after all others. -/
theorem Accounted.reserve {built gone : List Nat} {arena : Arena} (now : Accounted built gone arena)
    (bump : Bump) (slot : Slot) :
    Accounted built gone { arena with
      bump := bump
      slots := arena.slots ++ [slot]
      pending := arena.slots.length :: arena.pending } := by
  refine ⟨now.once, now.split, ?_, ?_⟩
  · intro box member
    have short := now.inside box member
    simp only [List.length_append, List.length_singleton]
    omega
  · intro box member
    simp only [List.length_append, List.length_singleton]
    rcases List.mem_cons.mp member with rfl | earlier
    · refine ⟨?_, by omega⟩
      intro found
      have short := now.inside _ found
      omega
    · have before := now.pending box earlier
      exact ⟨before.1, by omega⟩

theorem Accounted.finish {built gone : List Nat} {arena : Arena} {box : Nat}
    (now : Accounted built gone arena) (slot : Slot) (object : List UInt8)
    (pending : box ∈ arena.pending) :
    Accounted (box :: built) gone (arena.finish box slot object) := by
  obtain ⟨fresh, located⟩ := now.pending box pending
  refine ⟨List.nodup_cons.mpr ⟨fresh, now.once⟩, ?_, ?_, ?_⟩
  · exact (now.split.cons box).trans List.perm_middle.symm
  · intro other member
    rcases List.mem_cons.mp member with rfl | earlier
    · exact located
    · exact now.inside other earlier
  · intro other member
    obtain ⟨waiting, different⟩ := List.mem_filter.mp member
    have before := now.pending other waiting
    refine ⟨?_, before.2⟩
    intro found
    rcases List.mem_cons.mp found with same | earlier
    · simp [same] at different
    · exact before.1 earlier

theorem Step.accounted (moved : Step memory action events next) (owned : Owned memory)
    (exclusive : memory.shared.Exclusive)
    (now : Accounted (constructedSince (arenaLog log)) (droppedSince (arenaLog log)) memory.arena) :
    Accounted (constructedSince (arenaLog (log ++ events)))
      (droppedSince (arenaLog (log ++ events))) next.arena := by
  have concat : ∀ event, constructedSince (arenaLog log ++ [event]) =
      constructedStep (constructedSince (arenaLog log)) event ∧
      droppedSince (arenaLog log ++ [event]) = droppedStep (droppedSince (arenaLog log)) event := by
    intro event
    simp [constructedSince, droppedSince]
  rw [arenaLog_append]
  cases moved with
  | passed ready stepped plain =>
      rw [arenaLog_calls, List.append_nil]
      exact now
  | reset stepped =>
      obtain ⟨pending, live⟩ := owned.reset_empty exclusive stepped
      show Accounted (constructedSince (arenaLog log ++ [.reset]))
        (droppedSince (arenaLog log ++ [.reset])) memory.arena.reset
      rw [(concat _).1, (concat _).2]
      constructor <;> simp [constructedStep, droppedStep, Arena.reset, pending, live]
  | reserved ready allocates success =>
      rw [arenaLog_arena, (concat _).1, (concat _).2]
      exact now.reserve _ _
  | refused ready stepped failed =>
      rw [arenaLog_append, arenaLog_calls, arenaLog_arena, List.nil_append, (concat _).1,
        (concat _).2]
      exact now
  | finished same allocates stepped located pending size =>
      rw [arenaLog_append, arenaLog_calls, arenaLog_arena, List.nil_append, (concat _).1,
        (concat _).2]
      exact now.finish _ _ pending
  | abandoned same stepped pending =>
      rw [arenaLog_append, arenaLog_calls, arenaLog_arena, List.nil_append, (concat _).1,
        (concat _).2]
      exact now.keep rfl rfl (fun _ member => List.mem_of_mem_filter member)
  | stored located live fits =>
      rw [arenaLog_arena, (concat _).1, (concat _).2]
      exact now.keep rfl rfl (fun _ member => member)
  | dropped same ready disposes stepped located live size =>
      rw [arenaLog_append, arenaLog_calls, arenaLog_arena, List.nil_append, (concat _).1,
        (concat _).2]
      have split := now.split.trans ((owned.split_live live).append_left _)
      exact ⟨now.once, split.trans List.perm_middle, now.inside, now.pending⟩

theorem reachable_accounted
    (reached : Reachable machine (initial base capacity bytes) log memory) :
    Accounted (constructedSince (arenaLog log)) (droppedSince (arenaLog log)) memory.arena :=
  reached.invariant (fun log memory =>
    Accounted (constructedSince (arenaLog log)) (droppedSince (arenaLog log)) memory.arena)
    (by constructor <;> simp [arenaLog, constructedSince, droppedSince, initial, Arena.new])
    (fun _ _ _ _ _ reached now _ moved => (step_cases moved).accounted (reachable_owned reached)
      (Shared.reachable_exclusive (reachable_calls reached)) now)

/-- However the calls are interleaved, cancelled or panic, every object constructed in the
stack's memory has been dropped exactly once when a call resets the allocator. -/
theorem objects_dropped_once
    (reached : Reachable machine (initial base capacity bytes) log memory) :
    Everywhere DroppedOnce (arenaLog log) := by
  apply reached.invariant (fun log _ => Everywhere DroppedOnce (arenaLog log))
  · exact Transition.everywhere_nil
  · intro log events memory next action reached all _ moved
    have exclusive := Shared.reachable_exclusive (reachable_calls reached)
    have owned := reachable_owned reached
    rw [arenaLog_append, Transition.everywhere_append]
    refine ⟨all, ?_⟩
    cases step_cases moved with
    | passed ready stepped plain => simp
    | reset stepped =>
        have accounts := reachable_accounted reached
        have split := accounts.split
        rw [(owned.reset_empty exclusive stepped).2, List.append_nil] at split
        show Everywhere _ [ArenaEvent.reset]
        simpa [DroppedOnce] using ⟨accounts.once, split.symm⟩
    | reserved => simp [DroppedOnce]
    | refused | finished | abandoned | dropped => simp [DroppedOnce]
    | stored => simp [DroppedOnce]

theorem objects_dropped_once_handedOver :
    ∃ log memory, Reachable machine (initial 1001 64 (fun _ => 0)) log memory ∧
      .reset ∈ arenaLog log ∧ Everywhere DroppedOnce (arenaLog log) := by
  have executed : machine.exec (initial 1001 64 (fun _ => 0)) handedOver = some (_, _) := rfl
  have reached := Transition.Machine.exec_reachable executed
  exact ⟨_, _, reached, by decide, objects_dropped_once reached⟩

end StackMemory

end RsMatterStack
