import DocFilter.Decimal.Binary64
import Mathlib.Algebra.Order.Ring.Int

/-!
# Finite numbers in units

A finite number of the 64-bit format is a whole multiple of the least positive one. Which multiple
it is decides whether it equals a whole number, and it tells all finite numbers apart but the two
zeros.
-/

namespace DocFilter

theorem twoPow_pos (n : Nat) : 0 < twoPow n := Nat.two_pow_pos n

theorem twoPow_add (m n : Nat) : twoPow (m + n) = twoPow m * twoPow n := Nat.pow_add 2 m n

theorem twoPow_le {m n : Nat} (h : m ≤ n) : twoPow m ≤ twoPow n :=
  Nat.pow_le_pow_right Nat.two_pos h

namespace Binary64

variable {x y : Binary64}

def isFinite (x : Binary64) : Bool := x.exponentField != 2047

/-- The size of a finite number in units of the least positive one. -/
def size (x : Binary64) : Nat :=
  if x.exponentField = 0 then x.fractionField
  else (x.fractionField + twoPow 52) * twoPow (x.exponentField - 1)

/-- A finite number in units of the least positive one. -/
def units (x : Binary64) : Int := if x.isNegative then -(x.size : Int) else x.size

theorem fractionField_lt (x : Binary64) : x.fractionField < twoPow 52 :=
  Nat.mod_lt _ (twoPow_pos 52)

theorem size_lt (x : Binary64) : x.size < twoPow (52 + x.exponentField) := by
  have hfraction := x.fractionField_lt
  unfold size
  split
  · next hzero => rwa [hzero]
  · next hnormal =>
    have hsplit : twoPow (52 + x.exponentField) = 2 * twoPow 52 * twoPow (x.exponentField - 1) := by
      rw [show 52 + x.exponentField = 1 + 52 + (x.exponentField - 1) by omega, twoPow_add,
        twoPow_add]
      rfl
    rw [hsplit]
    exact Nat.mul_lt_mul_of_pos_right (by omega) (twoPow_pos _)

theorem le_size (h : x.exponentField ≠ 0) : twoPow (51 + x.exponentField) ≤ x.size := by
  unfold size
  rw [if_neg h, show 51 + x.exponentField = 52 + (x.exponentField - 1) by omega, twoPow_add]
  exact Nat.mul_le_mul_right _ (Nat.le_add_left _ _)

theorem size_lt_size (h : x.exponentField < y.exponentField) : x.size < y.size :=
  calc x.size < twoPow (52 + x.exponentField) := x.size_lt
    _ ≤ twoPow (51 + y.exponentField) := twoPow_le (by omega)
    _ ≤ y.size := le_size (by omega)

theorem exponentField_eq_of_size_eq (h : x.size = y.size) : x.exponentField = y.exponentField := by
  rcases Nat.lt_trichotomy x.exponentField y.exponentField with hlt | heq | hgt
  · exact absurd h (size_lt_size hlt).ne
  · exact heq
  · exact absurd h (size_lt_size hgt).ne'

theorem fractionField_eq_of_size_eq (h : x.size = y.size) : x.fractionField = y.fractionField := by
  have hexponent := exponentField_eq_of_size_eq h
  unfold size at h
  rw [hexponent] at h
  split at h
  · exact h
  · exact Nat.add_right_cancel (Nat.mul_right_cancel (twoPow_pos _) h)

/-- A number is its sign, its exponent and its fraction. -/
theorem eq_of_fields (hsign : x.isNegative = y.isNegative)
    (hexponent : x.exponentField = y.exponentField)
    (hfraction : x.fractionField = y.fractionField) : x = y := by
  obtain ⟨b⟩ := x
  obtain ⟨c⟩ := y
  have hb := b.toNat_lt
  have hc := c.toNat_lt
  simp only [isNegative, exponentField, fractionField, decide_eq_decide,
    show twoPow 63 = 9223372036854775808 from rfl, show twoPow 52 = 4503599627370496 from rfl]
    at hsign hexponent hfraction
  have hbits : b.toNat = c.toNat := by omega
  rw [UInt64.toNat_inj.mp hbits]

theorem isZero_iff : x.isZero = true ↔ x.size = 0 := by
  unfold isZero
  constructor
  · intro h
    obtain ⟨hexponent, hfraction⟩ : x.exponentField = 0 ∧ x.fractionField = 0 := by simpa using h
    rw [size, if_pos hexponent, hfraction]
  · intro h
    have hexponent : x.exponentField = 0 := by
      by_contra hne
      have := le_size hne
      have := twoPow_pos (51 + x.exponentField)
      omega
    rw [size, if_pos hexponent] at h
    simp [hexponent, h]

theorem natAbs_units (x : Binary64) : x.units.natAbs = x.size := by
  unfold units
  split <;> simp

/-- Finite numbers with the same units are one number, or both are zero. -/
theorem units_eq_iff : x.units = y.units ↔ x = y ∨ (x.isZero = true ∧ y.isZero = true) := by
  constructor
  · intro h
    have hsize : x.size = y.size := by rw [← natAbs_units, h, natAbs_units]
    by_cases hzero : x.size = 0
    · exact .inr ⟨isZero_iff.mpr hzero, isZero_iff.mpr (hsize ▸ hzero)⟩
    · refine .inl (eq_of_fields ?_ (exponentField_eq_of_size_eq hsize)
        (fractionField_eq_of_size_eq hsize))
      unfold units at h
      cases hx : x.isNegative <;> cases hy : y.isNegative <;> simp [hx, hy] at h ⊢ <;> omega
  · rintro (rfl | ⟨hx, hy⟩)
    · rfl
    · have hx' := natAbs_units x
      have hy' := natAbs_units y
      rw [isZero_iff.mp hx] at hx'
      rw [isZero_iff.mp hy] at hy'
      rw [Int.natAbs_eq_zero.mp hx', Int.natAbs_eq_zero.mp hy']

theorem isNaN_eq_false (h : x.isFinite = true) : x.isNaN = false := by
  have hne : x.exponentField ≠ 2047 := by simpa [isFinite] using h
  simp [isNaN, hne]

theorem eqValue_iff_of_isFinite (hx : x.isFinite = true) (hy : y.isFinite = true) :
    x.eqValue y = true ↔ x.units = y.units := by
  obtain ⟨b⟩ := x
  obtain ⟨c⟩ := y
  rw [units_eq_iff, eqValue, isNaN_eq_false hx, isNaN_eq_false hy]
  simp

/-- Where one of two numbers is not finite, they are equal only if they are the same. -/
theorem eq_of_eqValue (hx : x.isFinite = false ∨ y.isFinite = false) (h : x.eqValue y = true) :
    x = y := by
  have hzero {z : Binary64} (hz : z.isFinite = false) : z.isZero = false := by
    have hexponent : z.exponentField = 2047 := by simpa [isFinite] using hz
    simp [isZero, hexponent]
  obtain ⟨b⟩ := x
  obtain ⟨c⟩ := y
  rcases hx with hx | hx
  all_goals
    have := hzero hx
    simp_all [eqValue]

theorem significand_units (x : Binary64) :
    (if x.isNegative then -(x.significand.1 : Int) else x.significand.1) *
      twoPow (x.significand.2 + 1074).toNat = x.units := by
  have hsize : x.significand.1 * twoPow (x.significand.2 + 1074).toNat = x.size := by
    unfold significand size
    split
    · exact Nat.mul_one _
    · next hnormal =>
      rw [show ((x.exponentField : Int) - 1075 + 1074).toNat = x.exponentField - 1 by omega]
  unfold units
  split <;> simp [← hsize]

/-- A finite number equals a whole number if it has as many units. -/
theorem eqInt_iff (n : Int) :
    x.eqInt n = true ↔ x.isFinite = true ∧ x.units = n * twoPow 1074 := by
  have hlow : -1074 ≤ x.significand.2 := by
    unfold significand
    split <;> omega
  unfold eqInt compareInt
  rw [Bool.and_eq_true, beq_iff_eq, compare_eq_iff_eq, ← significand_units, isFinite]
  generalize x.significand = p at hlow ⊢
  obtain ⟨m, q⟩ := p
  refine and_congr_right fun _ => ?_
  dsimp only at hlow ⊢
  generalize (if x.isNegative then -(m : Int) else m) = s
  -- both sides are multiplied by the power of two that is left of the units
  rcases Int.le_total 0 q with hq | hq
  · have hup : twoPow (q + 1074).toNat = twoPow q.toNat * twoPow 1074 := by
      rw [← twoPow_add, show (q + 1074).toNat = q.toNat + 1074 by omega]
    have hdown : twoPow (-q).toNat = 1 := by
      rw [show (-q).toNat = 0 by omega]
      rfl
    rw [hup, hdown, Nat.cast_mul, ← mul_assoc, Nat.cast_one, mul_one]
    exact (mul_left_inj' (Int.natCast_ne_zero.mpr (twoPow_pos 1074).ne')).symm
  · have hup : twoPow q.toNat = 1 := by
      rw [show q.toNat = 0 by omega]
      rfl
    have hdown : twoPow 1074 = twoPow (-q).toNat * twoPow (q + 1074).toNat := by
      rw [← twoPow_add, show (-q).toNat + (q + 1074).toNat = 1074 by omega]
    rw [hup, hdown, Nat.cast_mul, ← mul_assoc, Nat.cast_one, mul_one]
    exact (mul_left_inj' (Int.natCast_ne_zero.mpr (twoPow_pos _).ne')).symm

end Binary64

end DocFilter
