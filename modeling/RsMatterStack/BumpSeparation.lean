import RsMatterStack.BumpArena

set_option autoImplicit false

namespace RsMatterStack

open Transition (Reachable Machine)

/-- Objects of zero size share no byte with anything. -/
def Slot.Apart (left right : Slot) : Prop :=
  0 < left.layout.size → 0 < right.layout.size →
    left.address + left.layout.size ≤ right.address ∨
      right.address + right.layout.size ≤ left.address

theorem Slot.Apart.symm {left right : Slot} (apart : left.Apart right) : right.Apart left :=
  fun first second => (apart second first).symm

/-- A write into one slot leaves the object of another one alone. -/
theorem Slot.Apart.read {written other : Slot} (apart : written.Apart other)
    (memory : Nat → UInt8) (offset : Nat) (bytes : List UInt8)
    (fits : offset + bytes.length ≤ written.layout.size) :
    Memory.read (Memory.write memory (written.address + offset) bytes)
      other.address other.layout.size =
    Memory.read memory other.address other.layout.size := by
  rcases Nat.eq_zero_or_pos other.layout.size with empty | sized
  · apply Memory.read_congr
    intro index inside
    omega
  · cases bytes with
    | nil => rw [Memory.write_nil]
    | cons byte rest =>
        simp only [List.length_cons] at fits
        have separate := apart (by omega) sized
        apply Memory.read_write_apart
        simp only [List.length_cons]
        omega

namespace Arena

/-- Slots handed out since the last reset: where they lie, and apart from each other. -/
structure Separated (arena : Arena) : Prop where
  bounded : arena.bump.offset ≤ arena.bump.capacity
  aligned : ∀ (box : Nat) (slot : Slot), arena.slots[box]? = some slot →
    slot.layout.align ∣ slot.address
  inside : ∀ (box : Nat) (slot : Slot), arena.slots[box]? = some slot →
    0 < slot.layout.size →
    arena.bump.base ≤ slot.address ∧
      slot.address + slot.layout.size ≤ arena.bump.base + arena.bump.offset
  apart : ∀ (left right : Nat) (first second : Slot), left ≠ right →
    arena.slots[left]? = some first → arena.slots[right]? = some second → first.Apart second

theorem new_separated (base capacity : Nat) (memory : Nat → UInt8) :
    Separated (new base capacity memory) := by
  refine ⟨Nat.zero_le _, ?_, ?_, ?_⟩
  · intro box slot found
    simp [new] at found
  · intro box slot found
    simp [new] at found
  · intro left right first second different found
    simp [new] at found

/-- A fresh slot starts behind everything handed out before it. -/
theorem Separated.push {arena : Arena} (separated : Separated arena) {layout : Layout}
    {address : Nat} {bump : Bump} (reserved : arena.bump.Reserved layout address bump) :
    Separated { arena with
      bump := bump
      slots := arena.slots ++ [⟨address, layout⟩]
      pending := arena.slots.length :: arena.pending } := by
  have old : ∀ {box : Nat} {slot : Slot},
      (arena.slots ++ [(⟨address, layout⟩ : Slot)])[box]? = some slot →
      arena.slots[box]? = some slot ∨ (box = arena.slots.length ∧ slot = ⟨address, layout⟩) := by
    intro box slot found
    by_cases earlier : box < arena.slots.length
    · rw [List.getElem?_append_left earlier] at found
      exact Or.inl found
    · have last : box < arena.slots.length + 1 := by
        simpa using (List.getElem?_eq_some_iff.mp found).1
      have same : box = arena.slots.length := by omega
      subst same
      rw [List.getElem?_concat_length] at found
      exact Or.inr ⟨rfl, (Option.some.inj found).symm⟩
  have behind : ∀ {box : Nat} {slot : Slot}, arena.slots[box]? = some slot →
      slot.Apart ⟨address, layout⟩ := by
    intro box slot found first second
    have within := separated.inside box slot found first
    have start := reserved.fresh second
    exact Or.inl (by dsimp only; omega)
  refine ⟨reserved.bounded, ?_, ?_, ?_⟩
  · intro box slot found
    rcases old found with earlier | ⟨rfl, rfl⟩
    · exact separated.aligned box slot earlier
    · exact reserved.aligned
  · intro box slot found sized
    have base := reserved.base
    rcases old found with earlier | ⟨rfl, rfl⟩
    · have within := separated.inside box slot earlier sized
      have grows := reserved.grows
      dsimp only
      omega
    · have start := reserved.fresh sized
      have finish := reserved.inside sized
      dsimp only at *
      omega
  · intro left right first second different firstFound secondFound
    rcases old firstFound with earlier | ⟨rfl, rfl⟩ <;>
      rcases old secondFound with other | ⟨rfl, rfl⟩
    · exact separated.apart left right first second different earlier other
    · exact behind earlier
    · exact (behind other).symm
    · exact absurd rfl different

theorem reserve_separated {arena : Arena} (separated : Separated arena) (layout : Layout) :
    Separated (arena.reserve layout).1 := by
  unfold reserve
  split
  · exact separated
  · rename_i address bump success
    exact separated.push (Bump.reserve_ok separated.bounded success)

theorem reset_separated (arena : Arena) : Separated arena.reset := by
  refine ⟨Nat.zero_le _, ?_, ?_, ?_⟩
  · intro box slot found
    simp [reset] at found
  · intro box slot found
    simp [reset] at found
  · intro left right first second different found
    simp [reset] at found

/-- Everything but `reserve` and `reset` keeps the slots and the allocator. -/
theorem Separated.congr {arena next : Arena} (separated : Separated arena)
    (bump : next.bump = arena.bump) (slots : next.slots = arena.slots) : Separated next := by
  obtain ⟨bounded, aligned, inside, apart⟩ := separated
  exact ⟨by rwa [bump], by rwa [slots], by rwa [slots, bump], by rwa [slots]⟩

/-- Each kind of step, with what it needs. -/
inductive Step (arena : Arena) : Arena → List ArenaEvent → Prop
  | reserve (layout : Layout) :
      Step arena (arena.reserve layout).1 [(arena.reserve layout).2]
  | finish (box : Nat) (slot : Slot) (object : List UInt8)
      (found : arena.slots[box]? = some slot) (size : object.length = slot.layout.size) :
      Step arena (arena.finish box slot object) [.constructed box object]
  | abandon (box : Nat) :
      Step arena { arena with pending := arena.pending.filter (· ≠ box) } [.abandoned box]
  | store (box : Nat) (slot : Slot) (offset : Nat) (bytes : List UInt8)
      (found : arena.slots[box]? = some slot)
      (fits : offset + bytes.length ≤ slot.layout.size) :
      Step arena (arena.store slot offset bytes) [.stored box offset bytes]
  | drop (box : Nat) (slot : Slot) (remains : List UInt8)
      (found : arena.slots[box]? = some slot) (size : remains.length = slot.layout.size) :
      Step arena (arena.drop box slot remains) [.dropped box]
  | reset (unused : arena.live = []) : Step arena arena.reset [.reset]

theorem step_cases {arena next : Arena} {action : ArenaAction} {events : List ArenaEvent}
    (moved : machine.step arena action = some (next, events)) : Step arena next events := by
  cases action with
  | reserve layout =>
      simp only [machine, step, Option.some.injEq, Prod.mk.injEq] at moved
      obtain ⟨rfl, rfl⟩ := moved
      exact .reserve layout
  | finish box object =>
      simp only [machine, step] at moved
      split at moved
      · cases moved
      · rename_i slot found
        split at moved
        · rename_i ready
          simp only [Option.some.injEq, Prod.mk.injEq] at moved
          obtain ⟨rfl, rfl⟩ := moved
          exact .finish box slot object found ready.2
        · cases moved
  | abandon box =>
      simp only [machine, step] at moved
      split at moved
      · simp only [Option.some.injEq, Prod.mk.injEq] at moved
        obtain ⟨rfl, rfl⟩ := moved
        exact .abandon box
      · cases moved
  | store box offset bytes =>
      simp only [machine, step] at moved
      split at moved
      · cases moved
      · rename_i slot found
        split at moved
        · rename_i ready
          simp only [Option.some.injEq, Prod.mk.injEq] at moved
          obtain ⟨rfl, rfl⟩ := moved
          exact .store box slot offset bytes found ready.2
        · cases moved
  | drop box remains =>
      simp only [machine, step] at moved
      split at moved
      · cases moved
      · rename_i slot found
        split at moved
        · rename_i ready
          simp only [Option.some.injEq, Prod.mk.injEq] at moved
          obtain ⟨rfl, rfl⟩ := moved
          exact .drop box slot remains found ready.2
        · cases moved
  | reset =>
      simp only [machine, step] at moved
      split at moved
      · rename_i unused
        simp only [Option.some.injEq, Prod.mk.injEq] at moved
        obtain ⟨rfl, rfl⟩ := moved
        exact .reset unused.2
      · cases moved

theorem Step.separated {arena next : Arena} {events : List ArenaEvent}
    (moved : Step arena next events) (separated : Separated arena) : Separated next := by
  cases moved with
  | reserve layout => exact reserve_separated separated layout
  | finish box slot object found size => exact separated.congr rfl rfl
  | abandon box => exact separated.congr rfl rfl
  | store box slot offset bytes found fits => exact separated.congr rfl rfl
  | drop box slot remains found size => exact separated.congr rfl rfl
  | reset unused => exact reset_separated arena

theorem reachable_separated {base capacity : Nat} {memory : Nat → UInt8}
    {log : List ArenaEvent} {arena : Arena}
    (reached : Reachable machine (new base capacity memory) log arena) : Separated arena :=
  reached.invariant (fun _ arena => Separated arena) (new_separated base capacity memory)
    (fun _ _ _ _ _ _ separated _ moved => (step_cases moved).separated separated)

theorem Step.placed {arena next : Arena} {events : List ArenaEvent} (moved : Step arena next events)
    (separated : Separated arena) :
    next.bump.base = arena.bump.base ∧ next.bump.capacity = arena.bump.capacity := by
  cases moved with
  | reserve layout =>
      unfold Arena.reserve
      split
      · exact ⟨rfl, rfl⟩
      · rename_i address bump success
        have reserved := Bump.reserve_ok separated.bounded success
        exact ⟨reserved.base, reserved.capacity⟩
  | _ => exact ⟨rfl, rfl⟩

theorem reachable_placed {base capacity : Nat} {memory : Nat → UInt8}
    {log : List ArenaEvent} {arena : Arena}
    (reached : Reachable machine (new base capacity memory) log arena) :
    arena.bump.base = base ∧ arena.bump.capacity = capacity := by
  apply reached.invariant
    (fun _ arena => arena.bump.base = base ∧ arena.bump.capacity = capacity)
  · exact ⟨rfl, rfl⟩
  · intro log events state next action reached placed _ moved
    have same := (step_cases moved).placed (reachable_separated reached)
    exact ⟨same.1.trans placed.1, same.2.trans placed.2⟩

/-- The only panic of the allocator is its own: `N - offset` never underflows and
no assertion or split fails. -/
theorem reachable_panics {base capacity : Nat} {memory : Nat → UInt8}
    {log : List ArenaEvent} {arena : Arena}
    (reached : Reachable machine (new base capacity memory) log arena) :
    ∀ panic, ArenaEvent.panicked panic ∈ log → panic = outOfBumpMemory := by
  apply reached.invariant
    (fun log _ => ∀ panic, ArenaEvent.panicked panic ∈ log → panic = outOfBumpMemory)
  · intro panic member
    cases member
  · intro log events state next action reached earlier _ moved panic member
    rcases List.mem_append.mp member with before | now
    · exact earlier panic before
    · cases step_cases moved with
      | reserve layout =>
          have bounded := (reachable_separated reached).bounded
          unfold reserve at now
          split at now
          · rename_i raised failed
            simp only [List.mem_singleton, ArenaEvent.panicked.injEq] at now
            exact now.trans (Bump.reserve_error bounded failed)
          · simp at now
      | _ => simp at now

/-- Every live box has its slot, and reads there what was last written through it. -/
def Intact (log : List ArenaEvent) (arena : Arena) : Prop :=
  ∀ box ∈ arena.live, ∃ slot, arena.slots[box]? = some slot ∧
    lastWritten box log = some (arena.load slot)

/-- Bytes written into the slot of one box do not change what another box reads. -/
theorem Separated.load_other {arena : Arena} (separated : Separated arena) {written other : Nat}
    {into slot : Slot} (different : written ≠ other) (found : arena.slots[written]? = some into)
    (owned : arena.slots[other]? = some slot) (offset : Nat) (bytes : List UInt8)
    (fits : offset + bytes.length ≤ into.layout.size) :
    Memory.read (Memory.write arena.memory (into.address + offset) bytes)
      slot.address slot.layout.size = arena.load slot :=
  (separated.apart written other into slot different found owned).read arena.memory offset
    bytes fits

theorem reserve_intact {log : List ArenaEvent} {arena : Arena} (intact : Intact log arena)
    (layout : Layout) : Intact (log ++ [(arena.reserve layout).2]) (arena.reserve layout).1 := by
  unfold reserve
  split
  · intro box alive
    obtain ⟨slot, found, value⟩ := intact box alive
    refine ⟨slot, found, ?_⟩
    rw [lastWritten_concat]
    exact value
  · intro box alive
    obtain ⟨slot, found, value⟩ := intact box alive
    have inside := (List.getElem?_eq_some_iff.mp found).1
    refine ⟨slot, ?_, ?_⟩
    · rwa [List.getElem?_append_left inside]
    · rw [lastWritten_concat]
      exact value

theorem Step.intact {arena next : Arena} {events log : List ArenaEvent}
    (moved : Step arena next events) (separated : Separated arena) (intact : Intact log arena) :
    Intact (log ++ events) next := by
  cases moved with
  | reserve layout => exact reserve_intact intact layout
  | finish written into object written_found size =>
      intro box alive
      rw [lastWritten_concat]
      by_cases same : written = box
      · subst same
        refine ⟨into, written_found, ?_⟩
        simp only [writtenBy, ↓reduceIte, load, Arena.finish, ← size, Memory.read_write_self]
      · have member : box ∈ arena.live := by
          simp only [Arena.finish, List.mem_cons] at alive
          exact alive.resolve_left (fun equal => same equal.symm)
        obtain ⟨slot, found, value⟩ := intact box member
        refine ⟨slot, found, ?_⟩
        have kept := separated.load_other same written_found found 0 object (by omega)
        simp only [writtenBy, same, ↓reduceIte, load, Arena.finish]
        rw [← Nat.add_zero into.address, kept]
        exact value
  | abandon other =>
      intro box alive
      obtain ⟨slot, found, value⟩ := intact box alive
      refine ⟨slot, found, ?_⟩
      rw [lastWritten_concat]
      exact value
  | store written into offset bytes written_found fits =>
      intro box alive
      obtain ⟨slot, found, value⟩ := intact box alive
      refine ⟨slot, found, ?_⟩
      rw [lastWritten_concat]
      by_cases same : written = box
      · subst same
        have equal : into = slot := Option.some.inj (written_found.symm.trans found)
        subst equal
        simp only [writtenBy, ↓reduceIte, value, Option.map_some, load, Arena.store,
          Memory.read_write_part _ _ _ _ _ fits]
      · have kept := separated.load_other same written_found found offset bytes fits
        simp only [writtenBy, same, ↓reduceIte, load, Arena.store]
        rw [kept]
        exact value
  | drop dropped into remains dropped_found size =>
      intro box alive
      simp only [Arena.drop, List.mem_filter, decide_eq_true_eq] at alive
      obtain ⟨slot, found, value⟩ := intact box alive.1
      refine ⟨slot, found, ?_⟩
      have kept := separated.load_other (Ne.symm alive.2) dropped_found found 0 remains (by omega)
      rw [lastWritten_concat]
      simp only [writtenBy, load, Arena.drop]
      rw [← Nat.add_zero into.address, kept]
      exact value
  | reset unused =>
      intro box alive
      simp only [Arena.reset, unused, List.not_mem_nil] at alive

theorem reachable_intact {base capacity : Nat} {memory : Nat → UInt8}
    {log : List ArenaEvent} {arena : Arena}
    (reached : Reachable machine (new base capacity memory) log arena) : Intact log arena := by
  apply reached.invariant Intact
  · intro box alive
    cases alive
  · intro log events state next action reached intact _ moved
    exact (step_cases moved).intact (reachable_separated reached) intact

/-- Slots handed out since the last reset lie aligned and apart in the used part
of the arena, which never outgrows it; a live box reads back what was last
written through it, however allocations, writes and drops were interleaved. -/
theorem bump_slots_separated {base capacity : Nat} {memory : Nat → UInt8}
    {log : List ArenaEvent} {arena : Arena}
    (reached : Reachable machine (new base capacity memory) log arena) :
    arena.bump.base = base ∧ arena.bump.capacity = capacity ∧
    arena.bump.offset ≤ capacity ∧
    (∀ panic, ArenaEvent.panicked panic ∈ log → panic = outOfBumpMemory) ∧
    (∀ (box : Nat) (slot : Slot), arena.slots[box]? = some slot → 0 < slot.layout.size →
      base ≤ slot.address ∧ slot.address + slot.layout.size ≤ base + arena.bump.offset ∧
      slot.layout.align ∣ slot.address) ∧
    (∀ (left right : Nat) (first second : Slot), left ≠ right →
      arena.slots[left]? = some first → arena.slots[right]? = some second →
      0 < first.layout.size → 0 < second.layout.size →
      first.address + first.layout.size ≤ second.address ∨
        second.address + second.layout.size ≤ first.address) ∧
    (∀ box ∈ arena.live, ∃ slot, arena.slots[box]? = some slot ∧
      lastWritten box log = some (arena.load slot)) := by
  obtain ⟨bounded, aligned, inside, apart⟩ := reachable_separated reached
  obtain ⟨rfl, rfl⟩ := reachable_placed reached
  refine ⟨rfl, rfl, bounded, reachable_panics reached, ?_, apart, reachable_intact reached⟩
  intro box slot found sized
  have within := inside box slot found sized
  exact ⟨within.1, within.2, aligned box slot found⟩

/-- Three bytes, whose closure allocates an eight byte box of its own. -/
theorem bump_slots_separated_nested :
    ∃ log arena, Reachable machine (new 1001 64 (fun _ => 0)) log arena ∧
      arena.live = [0, 1] ∧ ∃ slot, arena.slots[1]? = some slot ∧
        lastWritten 1 log = some (arena.load slot) := by
  have executed : machine.exec (new 1001 64 (fun _ => 0))
      [.reserve ⟨3, 1, ⟨0, rfl⟩, Nat.one_dvd 3⟩, .reserve ⟨8, 8, ⟨3, rfl⟩, Nat.dvd_refl 8⟩,
        .finish 1 [2, 0, 0, 0, 0, 0, 0, 0], .finish 0 [1, 1, 1], .store 1 0 [3],
        .store 0 1 [10]] = some (_, _) := rfl
  have reached := Machine.exec_reachable executed
  exact ⟨_, _, reached, rfl, (bump_slots_separated reached).2.2.2.2.2.2 1 (by decide)⟩

end Arena

end RsMatterStack
