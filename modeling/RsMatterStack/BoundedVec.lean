import Mathlib.Tactic.Common

set_option autoImplicit false

/-! Vectors of a fixed capacity, and the loop that pushes what they do not have yet. -/

/-- At most `capacity` items, in order. -/
structure BoundedVec (α : Type) (capacity : Nat) where
  items : List α
  bounded : items.length ≤ capacity
deriving DecidableEq, Repr

namespace BoundedVec

variable {α : Type} {capacity : Nat}

@[ext] theorem ext {left right : BoundedVec α capacity} (same : left.items = right.items) :
    left = right := by
  cases left
  cases right
  cases same
  rfl

def empty : BoundedVec α capacity := ⟨[], Nat.zero_le _⟩

/-- A full vector refuses the item. -/
def push (vec : BoundedVec α capacity) (item : α) : Option (BoundedVec α capacity) :=
  if room : vec.items.length < capacity then
    some ⟨vec.items ++ [item], by simpa using Nat.succ_le_of_lt room⟩
  else none

theorem push_room {vec : BoundedVec α capacity} (item : α) (room : vec.items.length < capacity) :
    ∃ pushed, vec.push item = some pushed ∧ pushed.items = vec.items ++ [item] :=
  ⟨⟨vec.items ++ [item], by simpa using Nat.succ_le_of_lt room⟩, by simp [push, room], rfl⟩

theorem push_full {vec : BoundedVec α capacity} (item : α) (full : capacity ≤ vec.items.length) :
    vec.push item = none := by
  simp [push, Nat.not_lt.mpr full]

variable [DecidableEq α]

/-- Push the items that are not skipped and not there yet, up to the first one refused. -/
def extendNew (skip : α → Bool) (vec : BoundedVec α capacity) : List α → BoundedVec α capacity
  | [] => vec
  | item :: rest =>
      if skip item || vec.items.contains item then vec.extendNew skip rest
      else match vec.push item with
        | none => vec
        | some pushed => pushed.extendNew skip rest

/-- The first occurrences of what is new, as many as there is room for. -/
theorem extendNew_items (skip : α → Bool) (vec : BoundedVec α capacity) (items : List α) :
    (vec.extendNew skip items).items = vec.items ++
      ((items.filter fun item => !(skip item || vec.items.contains item)).eraseDups).take
        (capacity - vec.items.length) := by
  induction items generalizing vec with
  | nil => simp [extendNew]
  | cons item rest ih =>
      by_cases old : (skip item || vec.items.contains item) = true
      · rw [extendNew, if_pos old, ih, List.filter_cons_of_neg (by simp only [old]; decide)]
      · rw [extendNew, if_neg old,
          List.filter_cons_of_pos (by simp only [Bool.not_eq_true] at old; simp only [old]; rfl),
          List.eraseDups_cons, List.filter_filter]
        rcases Nat.lt_or_ge vec.items.length capacity with room | full
        · obtain ⟨pushed, same, appended⟩ := push_room item room
          have left : capacity - vec.items.length = (capacity - pushed.items.length) + 1 := by
            rw [appended, List.length_append, List.length_singleton]
            omega
          have fresh : (fun other => !other == item &&
                !(skip other || vec.items.contains other)) =
              fun other => !(skip other || pushed.items.contains other) := by
            funext other
            rw [appended]
            by_cases equal : other = item <;> simp [equal]
          simp only [same]
          rw [ih, left, List.take_succ_cons, fresh, appended, List.append_assoc]
          rfl
        · have none_left : capacity - vec.items.length = 0 := by omega
          rw [push_full item full, none_left, List.take_zero, List.append_nil]

/-- What an empty vector takes. -/
theorem extendNew_empty (skip : α → Bool) (items : List α) :
    ((empty : BoundedVec α capacity).extendNew skip items).items =
      ((items.filter fun item => !skip item).eraseDups).take capacity := by
  rw [extendNew_items]
  simp [empty]

/-- With any room at all, nothing is taken only if everything is skipped. -/
theorem extendNew_eq_nil (skip : α → Bool) (items : List α) (positive : 0 < capacity) :
    ((empty : BoundedVec α capacity).extendNew skip items).items = [] ↔
      ∀ item ∈ items, skip item = true := by
  rw [extendNew_empty, List.take_eq_nil_iff]
  constructor
  · rintro (zero | nothing)
    · omega
    · intro item member
      by_contra kept
      have found : item ∈ (items.filter fun item => !skip item).eraseDups := by
        rw [List.mem_eraseDups, List.mem_filter]
        exact ⟨member, by simpa using kept⟩
      rw [nothing] at found
      cases found
  · intro all
    right
    have filtered : (items.filter fun item => !skip item) = [] := by
      rw [List.filter_eq_nil_iff]
      intro item member
      simp [all item member]
    rw [filtered, List.eraseDups_nil]

end BoundedVec
