import Mathlib.Tactic.Common

set_option autoImplicit false

/-! Flat memory: writing and reading byte ranges. -/

namespace Memory

variable {Byte : Type}

/-- The memory after `bytes` have been stored from `address` upwards. -/
def write (memory : Nat → Byte) (address : Nat) (bytes : List Byte) : Nat → Byte :=
  fun index => if address ≤ index then (bytes[index - address]?).getD (memory index)
    else memory index

def read (memory : Nat → Byte) (address count : Nat) : List Byte :=
  (List.range count).map (fun index => memory (address + index))

/-- Overwrite the part of `bytes` that starts at `offset`. -/
def splice (bytes : List Byte) (offset : Nat) (part : List Byte) : List Byte :=
  bytes.take offset ++ part ++ bytes.drop (offset + part.length)

theorem write_inside (memory : Nat → Byte) (address index : Nat) (bytes : List Byte)
    (inside : index < bytes.length) :
    write memory address bytes (address + index) = bytes[index] := by
  simp [write, inside]

theorem write_outside (memory : Nat → Byte) (address index : Nat) (bytes : List Byte)
    (outside : index < address ∨ address + bytes.length ≤ index) :
    write memory address bytes index = memory index := by
  unfold write
  split
  · rw [List.getElem?_eq_none (by omega), Option.getD_none]
  · rfl

@[simp] theorem write_nil (memory : Nat → Byte) (address : Nat) :
    write memory address [] = memory := by
  funext index
  exact write_outside memory address index [] (by simp only [List.length_nil]; omega)

@[simp] theorem read_length (memory : Nat → Byte) (address count : Nat) :
    (read memory address count).length = count := by simp [read]

theorem read_getElem (memory : Nat → Byte) (address count index : Nat)
    (inside : index < (read memory address count).length) :
    (read memory address count)[index] = memory (address + index) := by simp [read]

/-- Only the cells of the range matter to a read. -/
theorem read_congr {before after : Nat → Byte} {address count : Nat}
    (same : ∀ index, index < count → before (address + index) = after (address + index)) :
    read before address count = read after address count := by
  apply List.ext_getElem
  · simp
  · intro index left right
    rw [read_getElem, read_getElem]
    exact same index (by simpa using left)

theorem read_write_self (memory : Nat → Byte) (address : Nat) (bytes : List Byte) :
    read (write memory address bytes) address bytes.length = bytes := by
  apply List.ext_getElem
  · simp
  · intro index left right
    rw [read_getElem, write_inside _ _ _ _ right]

/-- A write does not reach a range it is apart from; an empty range has no cell
to lose, wherever it lies. -/
theorem read_write_apart (memory : Nat → Byte) (address target count : Nat) (bytes : List Byte)
    (apart : target + count ≤ address ∨ address + bytes.length ≤ target) :
    read (write memory address bytes) target count = read memory target count := by
  apply read_congr
  intro index inside
  apply write_outside
  omega

@[simp] theorem splice_length (bytes part : List Byte) (offset : Nat)
    (fits : offset + part.length ≤ bytes.length) :
    (splice bytes offset part).length = bytes.length := by
  simp only [splice, List.length_append, List.length_take, List.length_drop]
  omega

/-- A write inside a range overwrites just that part of what the range reads. -/
theorem read_write_part (memory : Nat → Byte) (address count offset : Nat) (part : List Byte)
    (fits : offset + part.length ≤ count) :
    read (write memory (address + offset) part) address count =
      splice (read memory address count) offset part := by
  have fits' : offset + part.length ≤ (read memory address count).length := by simpa using fits
  have front : ((read memory address count).take offset).length = offset := by
    simp only [List.length_take, read_length]
    omega
  apply List.ext_getElem
  · rw [read_length, splice_length _ _ _ fits', read_length]
  · intro index left right
    have inside : index < count := by simpa using left
    rw [read_getElem]
    by_cases before : index < offset
    · rw [write_outside _ _ _ _ (Or.inl (by omega))]
      simp only [splice, List.append_assoc]
      rw [List.getElem_append_left (by omega), List.getElem_take, read_getElem]
    · by_cases within : index < offset + part.length
      · have position : address + index = address + offset + (index - offset) := by omega
        rw [position, write_inside _ _ _ _ (by omega)]
        simp only [splice, List.append_assoc]
        rw [List.getElem_append_right (by omega), List.getElem_append_left (by omega)]
        simp only [front]
      · rw [write_outside _ _ _ _ (Or.inr (by omega))]
        simp only [splice]
        rw [List.getElem_append_right (by simp only [List.length_append, front]; omega),
          List.getElem_drop, read_getElem]
        congr 1
        simp only [List.length_append, front]
        omega

end Memory
