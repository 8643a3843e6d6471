import Mathlib.Data.Nat.ModEq
import RsMatterStack.Bump

set_option autoImplicit false

/-! Arena sizes that are enough for a list of requests, whatever the address. -/

namespace RsMatterStack.Bump

open Alignment (padding)

/-- What `reserve` makes of each request in turn: its panic, or the offset after it. -/
def outcomes (bump : Bump) : List Layout → List (Except Panic Nat)
  | [] => []
  | layout :: rest =>
      match bump.reserve layout with
      | .error panic => .error panic :: bump.outcomes rest
      | .ok (_, next) => .ok next.offset :: next.outcomes rest

/-- The most that a request can take, at any address. -/
def budget (layout : Layout) : Nat :=
  if layout.size = 0 then 0 else layout.size + layout.align - 1

def maxAlign : List Layout → Nat
  | [] => 1
  | layout :: rest => max layout.align (maxAlign rest)

theorem maxAlign_power (requests : List Layout) : ∃ exponent, maxAlign requests = 2 ^ exponent := by
  induction requests with
  | nil => exact ⟨0, rfl⟩
  | cons layout rest ih =>
      rcases Nat.le_total layout.align (maxAlign rest) with le | le
      · rw [maxAlign, Nat.max_eq_right le]
        exact ih
      · rw [maxAlign, Nat.max_eq_left le]
        exact layout.power

theorem le_maxAlign {requests : List Layout} {layout : Layout} (member : layout ∈ requests) :
    layout.align ≤ maxAlign requests := by
  induction requests with
  | nil => cases member
  | cons first rest ih =>
      rcases List.mem_cons.mp member with rfl | later
      · exact Nat.le_max_left _ _
      · exact Nat.le_trans (ih later) (Nat.le_max_right _ _)

theorem dvd_maxAlign {requests : List Layout} {layout : Layout} (member : layout ∈ requests) :
    layout.align ∣ maxAlign requests :=
  Alignment.dvd_of_le_power layout.power (maxAlign_power requests) (le_maxAlign member)

variable {bump other : Bump} {requests : List Layout}

/-- A request within the free bytes succeeds, and takes no more than its budget. -/
theorem reserve_budget (layout : Layout) (room : bump.offset + budget layout ≤ bump.capacity) :
    ∃ address offset, bump.reserve layout = .ok (address, { bump with offset := offset }) ∧
      offset ≤ bump.offset + budget layout := by
  have bounded : bump.offset ≤ bump.capacity := Nat.le_trans (Nat.le_add_right _ _) room
  rcases Nat.eq_zero_or_pos layout.size with zst | sized
  · exact ⟨_, bump.offset, reserve_zst bump layout bounded zst, Nat.le_add_right _ _⟩
  · have short := Alignment.padding_lt (bump.base + bump.offset) layout.align_pos
    have most : padding (bump.base + bump.offset) layout.align + layout.size ≤ budget layout := by
      rw [budget, if_neg (by omega)]
      omega
    have reserved := reserve_sized bump layout bounded sized
    rw [if_neg (by omega)] at reserved
    exact ⟨_, _, reserved, by omega⟩

theorem outcomes_ok (room : bump.offset + (requests.map budget).sum ≤ bump.capacity) :
    ∀ outcome ∈ bump.outcomes requests, ∃ offset, outcome = .ok offset := by
  induction requests generalizing bump with
  | nil => simp [outcomes]
  | cons layout rest ih =>
      simp only [List.map_cons, List.sum_cons] at room
      have first : bump.offset + budget layout ≤ bump.capacity := by omega
      obtain ⟨address, offset, reserved, within⟩ := reserve_budget layout first
      have later : ∀ outcome ∈ outcomes { bump with offset := offset } rest,
          ∃ offset, outcome = .ok offset := by
        apply ih
        dsimp only
        omega
      simpa [outcomes, reserved] using later

/-- Two allocators with the same bytes in use, at addresses that no request tells apart. -/
structure Alike (requests : List Layout) (bump other : Bump) : Prop where
  offset : other.offset = bump.offset
  capacity : other.capacity = bump.capacity
  bounded : bump.offset ≤ bump.capacity
  address : ∀ layout ∈ requests, bump.base ≡ other.base [MOD layout.align]

theorem Alike.reserve {layout : Layout} (alike : Alike requests bump other)
    (member : layout ∈ requests) :
    (∃ panic, bump.reserve layout = .error panic ∧ other.reserve layout = .error panic) ∨
    ∃ first second offset, bump.reserve layout = .ok (first, { bump with offset := offset }) ∧
      other.reserve layout = .ok (second, { other with offset := offset }) ∧
      offset ≤ bump.capacity := by
  have bounded : other.offset ≤ other.capacity := by
    rw [alike.offset, alike.capacity]
    exact alike.bounded
  rcases Nat.eq_zero_or_pos layout.size with zst | sized
  · refine .inr ⟨layout.align, layout.align, bump.offset,
      reserve_zst bump layout alike.bounded zst, ?_, alike.bounded⟩
    rw [reserve_zst other layout bounded zst, ← alike.offset]
  · have same : padding (other.base + other.offset) layout.align =
        padding (bump.base + bump.offset) layout.align := by
      rw [alike.offset]
      exact Alignment.padding_congr ((alike.address layout member).symm.add_right bump.offset)
    have first := reserve_sized bump layout alike.bounded sized
    have second := reserve_sized other layout bounded sized
    rw [same, alike.offset] at second
    by_cases tight : bump.capacity <
        bump.offset + padding (bump.base + bump.offset) layout.align + layout.size
    · rw [if_pos tight] at first
      rw [if_pos (by rwa [alike.capacity])] at second
      exact .inl ⟨_, first, second⟩
    · rw [if_neg tight] at first
      rw [if_neg (by rwa [alike.capacity])] at second
      exact .inr ⟨_, _, _, first, second, Nat.le_of_not_lt tight⟩

theorem Alike.outcomes (alike : Alike requests bump other) :
    bump.outcomes requests = other.outcomes requests := by
  induction requests generalizing bump other with
  | nil => rfl
  | cons layout rest ih =>
      have tail : ∀ later ∈ rest, bump.base ≡ other.base [MOD later.align] :=
        fun later member => alike.address later (List.mem_cons_of_mem _ member)
      rcases alike.reserve List.mem_cons_self with
        ⟨panic, first, second⟩ | ⟨_, _, offset, first, second, bounded⟩
      · have same := ih ⟨alike.offset, alike.capacity, alike.bounded, tail⟩
        simp only [Bump.outcomes, first, second, same]
      · have next : Alike rest { bump with offset := offset } { other with offset := offset } :=
          ⟨rfl, alike.capacity, bounded, tail⟩
        simp only [Bump.outcomes, first, second, ih next]

/-- An unused allocator with the budget of all requests grants them at any address and in
any order; and what it does with a list of requests only depends on its address modulo the
largest alignment in it. -/
theorem arena_size_suffices (unused : bump.offset = 0) :
    (∀ requests order : List Layout, (requests.map budget).sum ≤ bump.capacity →
      order.Perm requests → ∀ outcome ∈ bump.outcomes order, ∃ offset, outcome = .ok offset) ∧
    ∀ (requests : List Layout) (other : Bump), other.offset = 0 →
      other.capacity = bump.capacity → bump.base ≡ other.base [MOD maxAlign requests] →
      bump.outcomes requests = other.outcomes requests := by
  constructor
  · intro requests order enough reordered
    apply outcomes_ok
    rw [unused, Nat.zero_add, (reordered.map budget).sum_nat]
    exact enough
  · intro requests other empty capacity address
    apply Alike.outcomes
    refine ⟨empty.trans unused.symm, capacity, by omega, ?_⟩
    intro layout member
    exact address.of_dvd (dvd_maxAlign member)

/-- Six bytes, an empty object and one byte. -/
def mixed : List Layout :=
  [⟨6, 2, ⟨1, rfl⟩, ⟨3, rfl⟩⟩, ⟨0, 4, ⟨2, rfl⟩, Nat.dvd_zero 4⟩, ⟨1, 1, ⟨0, rfl⟩, Nat.one_dvd 1⟩]

/-- Eight bytes are the budget of the mixed requests, also at an odd address. -/
theorem arena_size_suffices_odd :
    (mixed.map budget).sum = 8 ∧
      ∀ outcome ∈ (Bump.new 1001 8).outcomes mixed, ∃ offset, outcome = .ok offset := by
  have unused : (Bump.new 1001 8).offset = 0 := rfl
  have enough : (mixed.map budget).sum = 8 := rfl
  exact ⟨enough, (arena_size_suffices unused).1 _ _ (Nat.le_of_eq enough) (.refl _)⟩

end RsMatterStack.Bump
