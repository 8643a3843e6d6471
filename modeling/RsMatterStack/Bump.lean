import RsMatterStack.Alignment

set_option autoImplicit false

/-! The bump allocator: `align_min`, `Bump::reserve` and `Bump::reset`. -/

namespace RsMatterStack

open Alignment (padding)

/-- Size and alignment of a Rust type. -/
structure Layout where
  size : Nat
  align : Nat
  power : ∃ exponent, align = 2 ^ exponent
  multiple : align ∣ size
deriving DecidableEq

theorem Layout.align_pos (layout : Layout) : 0 < layout.align := by
  obtain ⟨exponent, same⟩ := layout.power
  rw [same]
  exact Nat.two_pow_pos exponent

inductive Panic
  | message (text : String)
  | subtractOverflow
  | splitOutOfBounds
  | assertionFailed
deriving DecidableEq, Repr

def outOfBumpMemory : Panic := .message "Out of bump memory"

def require (condition : Prop) [Decidable condition] (panic : Panic) : Except Panic Unit :=
  if condition then .ok () else .error panic

/-- Subtraction of two `usize` values with overflow checks. -/
def checkedSub (left right : Nat) : Except Panic Nat :=
  if right ≤ left then .ok (left - right) else .error .subtractOverflow

/-- A `&mut [MaybeUninit<u8>]`. -/
structure Slice where
  address : Nat
  len : Nat
deriving DecidableEq, Repr

/-- A `&mut [MaybeUninit<T>]`. -/
structure Items where
  address : Nat
  len : Nat
deriving DecidableEq, Repr

/-- `align_to_mut`: bytes up to the first aligned item, as many whole items as
fit, and the bytes behind them. -/
def alignToMut (layout : Layout) (buf : Slice) : Slice × Items × Slice :=
  let offset := padding buf.address layout.align
  if buf.len < offset then
    (buf, ⟨layout.align, 0⟩, ⟨layout.align, 0⟩)
  else
    let count := (buf.len - offset) / layout.size
    (⟨buf.address, offset⟩, ⟨buf.address + offset, count⟩,
      ⟨buf.address + offset + count * layout.size, (buf.len - offset) % layout.size⟩)

def splitAtMut (buf : Slice) (mid : Nat) : Except Panic (Slice × Slice) :=
  if mid ≤ buf.len then .ok (⟨buf.address, mid⟩, ⟨buf.address + mid, buf.len - mid⟩)
  else .error .splitOutOfBounds

def alignMin (layout : Layout) (buf : Slice) (count : Nat) : Except Panic (Items × Slice) :=
  if count = 0 ∨ layout.size = 0 then
    .ok (⟨layout.align, 0⟩, buf)
  else do
    let (tLeadingBuf0, tBuf, _) := alignToMut layout buf
    require (count ≤ tBuf.len) outOfBumpMemory
    -- Shrink `t_buf` to the number of requested items
    let tBuf : Items := { tBuf with len := count }
    let tBufSize := tBuf.len * layout.size
    let (buf0, remainingBuf) ← splitAtMut buf (tLeadingBuf0.len + tBufSize)
    let (tLeadingBuf, tBuf, tRemainingBuf) := alignToMut layout buf0
    require (tLeadingBuf0.len = tLeadingBuf.len) .assertionFailed
    require (tBuf.len = count) .assertionFailed
    require (tRemainingBuf.len = 0) .assertionFailed
    return (tBuf, remainingBuf)

/-- `Bump<N>` at a fixed place: `base` is the address of its `N = capacity` bytes. -/
structure Bump where
  base : Nat
  capacity : Nat
  offset : Nat
deriving DecidableEq, Repr

namespace Bump

def new (base capacity : Nat) : Bump := ⟨base, capacity, 0⟩

def reset (bump : Bump) : Bump := { bump with offset := 0 }

/-- The address of an uninitialized slot for one `T`, and the allocator after it. -/
def reserve (bump : Bump) (layout : Layout) : Except Panic (Nat × Bump) := do
  let free ← checkedSub bump.capacity bump.offset
  let remaining : Slice := ⟨bump.base + bump.offset, free⟩
  let remainingLen := remaining.len
  let (tBuf, rBuf) ← alignMin layout remaining 1
  let offset ← checkedSub (bump.offset + remainingLen) rBuf.len
  return (tBuf.address, { bump with offset := offset })

end Bump

theorem alignToMut_short (layout : Layout) (buf : Slice)
    (short : buf.len < padding buf.address layout.align) :
    alignToMut layout buf = (buf, ⟨layout.align, 0⟩, ⟨layout.align, 0⟩) := by
  simp only [alignToMut, short, ↓reduceIte]

/-- A buffer of exactly the padding and `count` items is split without a tail. -/
theorem alignToMut_exact (layout : Layout) (address count : Nat) (sized : 0 < layout.size) :
    alignToMut layout ⟨address, padding address layout.align + count * layout.size⟩ =
      (⟨address, padding address layout.align⟩, ⟨address + padding address layout.align, count⟩,
        ⟨address + padding address layout.align + count * layout.size, 0⟩) := by
  have room : ¬ padding address layout.align + count * layout.size <
      padding address layout.align := by omega
  simp only [alignToMut, room, ↓reduceIte, Nat.add_sub_cancel_left,
    Nat.mul_div_cancel _ sized, Nat.mul_mod_left]

/-- `align_min` hands out the first aligned items and what lies behind them,
and panics exactly when padding and items do not fit. The two splits agree, so
that none of its assertions can fail. -/
theorem alignMin_eq (layout : Layout) (buf : Slice) (count : Nat)
    (positive : 0 < count) (sized : 0 < layout.size) :
    alignMin layout buf count =
      if buf.len < padding buf.address layout.align + count * layout.size then
        .error outOfBumpMemory
      else .ok (⟨buf.address + padding buf.address layout.align, count⟩,
        ⟨buf.address + (padding buf.address layout.align + count * layout.size),
          buf.len - (padding buf.address layout.align + count * layout.size)⟩) := by
  have proper : ¬ (count = 0 ∨ layout.size = 0) := by omega
  by_cases short : buf.len < padding buf.address layout.align
  · have missing : ¬ count ≤ 0 := by omega
    have tight : buf.len < padding buf.address layout.align + count * layout.size := by omega
    simp only [alignMin, proper, ↓reduceIte, alignToMut_short layout buf short, require,
      missing, tight]
    rfl
  · have enough : count ≤ (buf.len - padding buf.address layout.align) / layout.size ↔
        ¬ buf.len < padding buf.address layout.align + count * layout.size := by
      rw [Nat.le_div_iff_mul_le sized]
      omega
    by_cases tight : buf.len < padding buf.address layout.align + count * layout.size
    · have few : ¬ count ≤ (buf.len - padding buf.address layout.align) / layout.size :=
        fun fits => enough.mp fits tight
      simp only [alignMin, proper, ↓reduceIte, alignToMut, short, require, few, tight]
      rfl
    · have many := enough.mpr tight
      have inside : padding buf.address layout.align + count * layout.size ≤ buf.len := by omega
      have split := alignToMut_exact layout buf.address count sized
      rw [alignMin]
      simp only [proper, ↓reduceIte]
      rw [show alignToMut layout buf = (⟨buf.address, padding buf.address layout.align⟩,
        ⟨buf.address + padding buf.address layout.align,
          (buf.len - padding buf.address layout.align) / layout.size⟩, _) by
        simp only [alignToMut, short, ↓reduceIte]; rfl]
      simp only [require, many, ↓reduceIte, splitAtMut, inside, bind, Except.bind, split, tight]
      rfl

namespace Bump

/-- A zero-sized type takes no room and is never refused. -/
theorem reserve_zst (bump : Bump) (layout : Layout) (bounded : bump.offset ≤ bump.capacity)
    (zst : layout.size = 0) : bump.reserve layout = .ok (layout.align, bump) := by
  have tail : bump.capacity - bump.offset ≤ bump.offset + (bump.capacity - bump.offset) := by omega
  simp only [reserve, checkedSub, bounded, ↓reduceIte, alignMin, zst, or_true, tail, bind,
    Except.bind, Nat.add_sub_cancel]
  rfl

/-- Any other slot starts at the first aligned address of the free tail and
takes padding and size from it, unless they do not fit. -/
theorem reserve_sized (bump : Bump) (layout : Layout) (bounded : bump.offset ≤ bump.capacity)
    (sized : 0 < layout.size) :
    bump.reserve layout =
      if bump.capacity <
          bump.offset + padding (bump.base + bump.offset) layout.align + layout.size then
        .error outOfBumpMemory
      else .ok (bump.base + bump.offset + padding (bump.base + bump.offset) layout.align,
        { bump with offset :=
            bump.offset + padding (bump.base + bump.offset) layout.align + layout.size }) := by
  have aligned := alignMin_eq layout
    ⟨bump.base + bump.offset, bump.capacity - bump.offset⟩ 1 Nat.one_pos sized
  simp only [Nat.one_mul] at aligned
  simp only [reserve, checkedSub, bounded, ↓reduceIte, bind, Except.bind, aligned]
  by_cases tight : bump.capacity <
      bump.offset + padding (bump.base + bump.offset) layout.align + layout.size
  · have less : bump.capacity - bump.offset <
        padding (bump.base + bump.offset) layout.align + layout.size := by omega
    simp only [less, tight, ↓reduceIte]
  · have room : ¬ bump.capacity - bump.offset <
        padding (bump.base + bump.offset) layout.align + layout.size := by omega
    have kept : bump.capacity - bump.offset -
        (padding (bump.base + bump.offset) layout.align + layout.size) ≤
        bump.offset + (bump.capacity - bump.offset) := by omega
    have moved : bump.offset + (bump.capacity - bump.offset) -
        (bump.capacity - bump.offset -
          (padding (bump.base + bump.offset) layout.align + layout.size)) =
        bump.offset + padding (bump.base + bump.offset) layout.align + layout.size := by omega
    simp only [room, tight, ↓reduceIte, kept, moved]
    rfl

theorem reset_bounded (bump : Bump) : bump.reset.offset ≤ bump.reset.capacity := Nat.zero_le _

/-- All that later proofs need of a successful reservation. -/
structure Reserved (bump : Bump) (layout : Layout) (slot : Nat) (next : Bump) : Prop where
  base : next.base = bump.base
  capacity : next.capacity = bump.capacity
  bounded : next.offset ≤ next.capacity
  grows : bump.offset ≤ next.offset
  aligned : layout.align ∣ slot
  fresh : 0 < layout.size → bump.base + bump.offset ≤ slot
  inside : 0 < layout.size → slot + layout.size ≤ next.base + next.offset

theorem reserve_ok {bump next : Bump} {layout : Layout} {slot : Nat}
    (bounded : bump.offset ≤ bump.capacity) (success : bump.reserve layout = .ok (slot, next)) :
    Reserved bump layout slot next := by
  rcases Nat.eq_zero_or_pos layout.size with zst | sized
  · rw [reserve_zst bump layout bounded zst] at success
    simp only [Except.ok.injEq, Prod.mk.injEq] at success
    obtain ⟨rfl, rfl⟩ := success
    exact ⟨rfl, rfl, bounded, Nat.le_refl _, Nat.dvd_refl _, by omega, by omega⟩
  · rw [reserve_sized bump layout bounded sized] at success
    split at success
    · cases success
    · rename_i room
      simp only [Except.ok.injEq, Prod.mk.injEq] at success
      obtain ⟨rfl, rfl⟩ := success
      refine ⟨rfl, rfl, Nat.le_of_not_lt room, ?_, ?_, ?_, ?_⟩
      · dsimp only
        omega
      · exact Alignment.dvd_add_padding _ layout.align_pos
      · omega
      · dsimp only
        omega

/-- The only panic an in-bounds allocator can raise. -/
theorem reserve_error {bump : Bump} {layout : Layout} {panic : Panic}
    (bounded : bump.offset ≤ bump.capacity) (failed : bump.reserve layout = .error panic) :
    panic = outOfBumpMemory := by
  rcases Nat.eq_zero_or_pos layout.size with zst | sized
  · rw [reserve_zst bump layout bounded zst] at failed
    cases failed
  · rw [reserve_sized bump layout bounded sized] at failed
    split at failed
    · exact (Except.error.inj failed).symm
    · cases failed

end Bump

end RsMatterStack
