import RsMatterStack.BumpSeparation

set_option autoImplicit false

/-! When `align_min` and `reserve` fail, and what exactly they take otherwise. -/

namespace RsMatterStack

open Alignment (padding)
open Transition (Reachable Machine)

/-- What so many items take of a buffer from this address on. -/
def needed (layout : Layout) (address count : Nat) : Nat :=
  padding address layout.align + count * layout.size

/-- `align_min` panics exactly if the items do not fit behind the padding, with its own
message and no failed assertion, and otherwise cuts the buffer exactly there. -/
structure AlignMinExact (layout : Layout) (buf : Slice) (count : Nat) : Prop where
  first : IsLeast {distance | layout.align ∣ buf.address + distance}
    (padding buf.address layout.align)
  panics : (∃ panic, alignMin layout buf count = .error panic) ↔
    buf.len < needed layout buf.address count
  message : ∀ panic, alignMin layout buf count = .error panic → panic = outOfBumpMemory
  returns : needed layout buf.address count ≤ buf.len → alignMin layout buf count =
    .ok (⟨buf.address + padding buf.address layout.align, count⟩,
      ⟨buf.address + needed layout buf.address count,
        buf.len - needed layout buf.address count⟩)

theorem alignMin_exact (layout : Layout) (buf : Slice) (count : Nat) (positive : 0 < count)
    (sized : 0 < layout.size) : AlignMinExact layout buf count := by
  have aligned : alignMin layout buf count =
      if buf.len < needed layout buf.address count then .error outOfBumpMemory
      else .ok (⟨buf.address + padding buf.address layout.align, count⟩,
        ⟨buf.address + needed layout buf.address count,
          buf.len - needed layout buf.address count⟩) :=
    alignMin_eq layout buf count positive sized
  refine ⟨Alignment.isLeast_padding buf.address layout.align_pos, ?_, ?_, ?_⟩
  · rw [aligned]
    by_cases short : buf.len < needed layout buf.address count
    · simp [short]
    · simp [short]
  · intro panic failed
    rw [aligned] at failed
    split at failed
    · exact (Except.error.inj failed).symm
    · cases failed
  · intro fits
    rw [aligned, if_neg (Nat.not_lt.mpr fits)]

namespace Arena

/-- `reserve` takes exactly padding and size of the type, and nothing if it panics. -/
structure ReserveExact (arena : Arena) (layout : Layout) : Prop where
  unsized : layout.size = 0 → (arena.reserve layout).1.bump = arena.bump ∧
    ∃ slot, (arena.reserve layout).2 = .reserved arena.slots.length slot
  moves : 0 < layout.size →
    arena.bump.offset + needed layout (arena.bump.base + arena.bump.offset) 1 ≤
      arena.bump.capacity →
    (arena.reserve layout).1.bump.offset =
      arena.bump.offset + needed layout (arena.bump.base + arena.bump.offset) 1 ∧
    (arena.reserve layout).2 = .reserved arena.slots.length
      ⟨arena.bump.base + arena.bump.offset +
        padding (arena.bump.base + arena.bump.offset) layout.align, layout⟩
  panics : 0 < layout.size → arena.bump.capacity <
      arena.bump.offset + needed layout (arena.bump.base + arena.bump.offset) 1 →
    arena.reserve layout = (arena, .panicked outOfBumpMemory)

variable {arena : Arena}

theorem reserve_exact (bounded : arena.bump.offset ≤ arena.bump.capacity) (layout : Layout) :
    ReserveExact arena layout := by
  constructor
  · intro zst
    have reserved := Bump.reserve_zst arena.bump layout bounded zst
    simp only [Arena.reserve, reserved, true_and]
    exact ⟨_, rfl⟩
  · intro sized fits
    have room : ¬ arena.bump.capacity < arena.bump.offset +
        padding (arena.bump.base + arena.bump.offset) layout.align + layout.size := by
      simp only [needed] at fits
      omega
    have reserved := Bump.reserve_sized arena.bump layout bounded sized
    rw [if_neg room] at reserved
    simp only [Arena.reserve, reserved, needed, Nat.one_mul, Nat.add_assoc, and_self]
  · intro sized tight
    have full : arena.bump.capacity < arena.bump.offset +
        padding (arena.bump.base + arena.bump.offset) layout.align + layout.size := by
      simp only [needed] at tight
      omega
    have refused := Bump.reserve_sized arena.bump layout bounded sized
    rw [if_pos full] at refused
    simp only [Arena.reserve, refused]

/-- `align_min` fails exactly when it must, for every buffer and type, and so does `reserve`
in every state that an allocator can reach. -/
theorem bump_fails_exactly {base capacity : Nat} {memory : Nat → UInt8}
    {log : List ArenaEvent}
    (reached : Reachable machine (new base capacity memory) log arena) :
    (∀ (layout : Layout) (buf : Slice) (count : Nat), 0 < count → 0 < layout.size →
      AlignMinExact layout buf count) ∧
    ∀ layout, ReserveExact arena layout :=
  ⟨alignMin_exact, reserve_exact (reachable_separated reached).bounded⟩

/-- An arena of nine bytes at an odd address, with its last eight bytes taken: it has room
for nothing but objects of size zero. -/
theorem bump_fails_exactly_full :
    ∃ log arena, Reachable machine (new 1023 9 (fun _ => 0)) log arena ∧
      arena.bump.offset = 9 ∧
      arena.reserve ⟨1, 1, ⟨0, rfl⟩, Nat.one_dvd 1⟩ = (arena, .panicked outOfBumpMemory) ∧
      (arena.reserve ⟨0, 8, ⟨3, rfl⟩, Nat.dvd_zero 8⟩).1.bump = arena.bump := by
  have executed : machine.exec (new 1023 9 (fun _ => 0))
      [.reserve ⟨8, 8, ⟨3, rfl⟩, Nat.dvd_refl 8⟩] = some (_, _) := rfl
  have reached := Machine.exec_reachable executed
  have exact := (bump_fails_exactly reached).2
  exact ⟨_, _, reached, rfl, (exact _).panics (by decide) (by decide), ((exact _).unsized rfl).1⟩

end Arena

end RsMatterStack
