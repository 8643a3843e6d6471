import RsMatterStack.Bump
import RsMatterStack.Memory
import RsMatterStack.Transition

set_option autoImplicit false

/-! The arena behind a `Bump`: slots, boxes and the bytes they share. -/

namespace RsMatterStack

open Transition (Machine)

/-- Memory handed out by `reserve` for one object. -/
structure Slot where
  address : Nat
  layout : Layout
deriving DecidableEq

/-- A `Bump` with the memory it shares with everything else. Boxes are numbered in
the order of their slots, as handed out since the last reset: `pending` are those
whose closure is still running in `alloc_with`, `live` those not yet dropped. -/
structure Arena where
  bump : Bump
  memory : Nat → UInt8
  slots : List Slot
  pending : List Nat
  live : List Nat

inductive ArenaAction
  /-- `alloc_with` is called for a type of this layout. -/
  | reserve (layout : Layout)
  /-- The closure has returned its object. -/
  | finish (box : Nat) (object : List UInt8)
  /-- The closure has panicked. -/
  | abandon (box : Nat)
  /-- A write through `deref_mut`. -/
  | store (box : Nat) (offset : Nat) (bytes : List UInt8)
  /-- `drop` of the box; `remains` is what the destructor leaves in the slot. -/
  | drop (box : Nat) (remains : List UInt8)
  | reset

inductive ArenaEvent
  | reserved (box : Nat) (slot : Slot)
  | panicked (panic : Panic)
  | constructed (box : Nat) (object : List UInt8)
  | abandoned (box : Nat)
  | stored (box : Nat) (offset : Nat) (bytes : List UInt8)
  | dropped (box : Nat)
  | reset
deriving DecidableEq

namespace Arena

def new (base capacity : Nat) (memory : Nat → UInt8) : Arena :=
  ⟨.new base capacity, memory, [], [], []⟩

def reserve (arena : Arena) (layout : Layout) : Arena × ArenaEvent :=
  match arena.bump.reserve layout with
  | .error panic => (arena, .panicked panic)
  | .ok (address, bump) =>
      ({ arena with
          bump := bump
          slots := arena.slots ++ [⟨address, layout⟩]
          pending := arena.slots.length :: arena.pending },
        .reserved arena.slots.length ⟨address, layout⟩)

def finish (arena : Arena) (box : Nat) (slot : Slot) (object : List UInt8) : Arena :=
  { arena with
    memory := Memory.write arena.memory slot.address object
    pending := arena.pending.filter (· ≠ box)
    live := box :: arena.live }

def store (arena : Arena) (slot : Slot) (offset : Nat) (bytes : List UInt8) : Arena :=
  { arena with memory := Memory.write arena.memory (slot.address + offset) bytes }

def drop (arena : Arena) (box : Nat) (slot : Slot) (remains : List UInt8) : Arena :=
  { arena with
    memory := Memory.write arena.memory slot.address remains
    live := arena.live.filter (· ≠ box) }

def reset (arena : Arena) : Arena :=
  { arena with bump := arena.bump.reset, slots := [] }

/-- What `deref` of a box reads. -/
def load (arena : Arena) (slot : Slot) : List UInt8 :=
  Memory.read arena.memory slot.address slot.layout.size

def step (arena : Arena) : ArenaAction → Option (Arena × List ArenaEvent)
  | .reserve layout => some ((arena.reserve layout).1, [(arena.reserve layout).2])
  | .finish box object =>
      match arena.slots[box]? with
      | none => none
      | some slot =>
          if box ∈ arena.pending ∧ object.length = slot.layout.size then
            some (arena.finish box slot object, [.constructed box object])
          else none
  | .abandon box =>
      if box ∈ arena.pending then
        some ({ arena with pending := arena.pending.filter (· ≠ box) }, [.abandoned box])
      else none
  | .store box offset bytes =>
      match arena.slots[box]? with
      | none => none
      | some slot =>
          if box ∈ arena.live ∧ offset + bytes.length ≤ slot.layout.size then
            some (arena.store slot offset bytes, [.stored box offset bytes])
          else none
  | .drop box remains =>
      match arena.slots[box]? with
      | none => none
      | some slot =>
          if box ∈ arena.live ∧ remains.length = slot.layout.size then
            some (arena.drop box slot remains, [.dropped box])
          else none
  | .reset =>
      -- The contract of the unsafe `reset`: no allocated object is still in use
      if arena.pending = [] ∧ arena.live = [] then some (arena.reset, [.reset]) else none

def machine : Machine Arena ArenaAction ArenaEvent := ⟨step⟩

end Arena

/-- The effect of one event on the object of a box that only its own writes change. -/
def writtenBy (box : Nat) (value : Option (List UInt8)) : ArenaEvent → Option (List UInt8)
  | .constructed other object => if other = box then some object else value
  | .stored other offset bytes =>
      if other = box then value.map (Memory.splice · offset bytes) else value
  | _ => value

/-- The object last written through a box, from the log alone. -/
def lastWritten (box : Nat) (log : List ArenaEvent) : Option (List UInt8) :=
  log.foldl (writtenBy box) none

theorem lastWritten_concat (box : Nat) (log : List ArenaEvent) (event : ArenaEvent) :
    lastWritten box (log ++ [event]) = writtenBy box (lastWritten box log) event := by
  simp only [lastWritten, List.foldl_append, List.foldl_cons, List.foldl_nil]

end RsMatterStack
