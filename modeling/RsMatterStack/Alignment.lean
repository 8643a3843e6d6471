import Mathlib.Algebra.Group.Nat.Defs
import Mathlib.Order.Bounds.Basic
import Mathlib.Tactic.Common

set_option autoImplicit false

/-! Distance from an address to the next multiple of an alignment. -/

namespace Alignment

/-- Bytes between `address` and the first multiple of `align` at or after it. -/
def padding (address align : Nat) : Nat := (align - address % align) % align

theorem padding_lt (address : Nat) {align : Nat} (positive : 0 < align) :
    padding address align < align := Nat.mod_lt _ positive

theorem dvd_add_padding (address : Nat) {align : Nat} (positive : 0 < align) :
    align ∣ address + padding address align := by
  have below := Nat.mod_lt address positive
  have split := Nat.div_add_mod address align
  by_cases aligned : address % align = 0
  · have zero : padding address align = 0 := by simp [padding, aligned]
    rw [zero, Nat.add_zero]
    exact Nat.dvd_of_mod_eq_zero aligned
  · have short : padding address align = align - address % align :=
      Nat.mod_eq_of_lt (by omega)
    refine ⟨address / align + 1, ?_⟩
    rw [Nat.mul_add, short]
    omega

/-- No smaller displacement reaches a multiple of the alignment. -/
theorem padding_le_of_dvd {address align distance : Nat} (positive : 0 < align)
    (aligned : align ∣ address + distance) : padding address align ≤ distance := by
  have reached := dvd_add_padding address positive
  have bound := padding_lt address positive
  by_cases less : distance < padding address align
  · have gap : align ∣ padding address align - distance := by
      have same : address + padding address align - (address + distance) =
          padding address align - distance := by omega
      rw [← same]
      exact Nat.dvd_sub reached aligned
    have := Nat.le_of_dvd (by omega) gap
    omega
  · omega

theorem padding_eq_zero {address align : Nat} (positive : 0 < align)
    (aligned : align ∣ address) : padding address align = 0 :=
  Nat.le_zero.mp (padding_le_of_dvd positive (by simpa using aligned))

/-- The padding is the distance to the first aligned address at or after this one. -/
theorem isLeast_padding (address : Nat) {align : Nat} (positive : 0 < align) :
    IsLeast {distance | align ∣ address + distance} (padding address align) :=
  ⟨dvd_add_padding address positive, fun _ aligned => padding_le_of_dvd positive aligned⟩

/-- Only the address modulo the alignment matters. -/
theorem padding_congr {left right align : Nat} (same : left % align = right % align) :
    padding left align = padding right align := by
  unfold padding
  rw [same]

/-- Of two powers of two, the smaller one divides the other. -/
theorem dvd_of_le_power {small large : Nat} (smallPower : ∃ exponent, small = 2 ^ exponent)
    (largePower : ∃ exponent, large = 2 ^ exponent) (le : small ≤ large) : small ∣ large := by
  obtain ⟨first, rfl⟩ := smallPower
  obtain ⟨second, rfl⟩ := largePower
  have exponents : first ≤ second := (Nat.pow_le_pow_iff_right Nat.one_lt_two).mp le
  exact Nat.pow_dvd_pow 2 exponents

end Alignment
