import Mathlib.NumberTheory.LegendreSymbol.Basic
import Signet.Proofs.Curve.PrimeField

/-! # The Euler test tells the coordinates of points

Before the curve is asked for a public key, `eulerTest` raises the right side of
the curve's equation to half the order of the multiplicative group.  By Euler's
criterion the power is one for the nonzero squares and for nothing else, and the
right side is never zero, since minus seven is no cube in the field
(`cube_add_seven_ne_zero`).  So the test is one exactly for the coordinates of
points (`eulerTest_eq_one_iff`), and never zero (`eulerTest_ne_zero`).
-/

namespace Signet.Secp256k1

/-- Whether `x` is the first coordinate of a point of the curve. -/
def OnCurve (x : ℕ) : Prop :=
  ∃ y, mul y y = rightSide x

theorem one_lt_fieldOrder : 1 < fieldOrder := by
  decide

/-! ## The equation of the curve in the field -/

theorem natCast_mul (a b : ℕ) : (mul a b : ZMod fieldOrder) = a * b := by
  rw [mul, ZMod.natCast_mod, Nat.cast_mul]

theorem natCast_rightSide (x : ℕ) : (rightSide x : ZMod fieldOrder) = (x : ZMod fieldOrder) ^ 3 + 7 := by
  have hconstant : ((constant : ℕ) : ZMod fieldOrder) = 7 := by
    rw [constant, Nat.cast_ofNat]
  rw [rightSide, ZMod.natCast_mod, Nat.cast_add, natCast_mul, natCast_mul, hconstant]
  ring

/-- A coordinate of a point is one for which the right side is a square. -/
theorem onCurve_iff_isSquare {x : ℕ} : OnCurve x ↔ IsSquare ((x : ZMod fieldOrder) ^ 3 + 7) := by
  rw [← natCast_rightSide]
  constructor
  · rintro ⟨y, hy⟩
    exact ⟨y, by rw [← hy, natCast_mul]⟩
  · rintro ⟨z, hz⟩
    refine ⟨z.val, ?_⟩
    -- both sides are reduced, so that they are equal if they are in the field
    have hmod : mul z.val z.val % fieldOrder = rightSide x % fieldOrder := by
      rw [← ZMod.natCast_eq_natCast_iff', natCast_mul, ZMod.natCast_zmod_val, hz]
    have hl : mul z.val z.val < fieldOrder := Nat.mod_lt _ (by decide)
    have hr : rightSide x < fieldOrder := Nat.mod_lt _ (by decide)
    rwa [Nat.mod_eq_of_lt hl, Nat.mod_eq_of_lt hr] at hmod

/-- A coordinate of a point is one for which the equation of the curve has a solution in
the field. -/
theorem onCurve_iff_exists_sq {x : ℕ} :
    OnCurve x ↔ ∃ y : ZMod fieldOrder, y ^ 2 = (x : ZMod fieldOrder) ^ 3 + 7 := by
  rw [onCurve_iff_isSquare, isSquare_iff_exists_sq]
  simp only [eq_comm]

/-! ## The right side is never zero -/

/-- Minus seven is not raised to one by a third of the order of the group. -/
theorem powMod_neg_seven_ne_one : powMod (fieldOrder - 7) ((fieldOrder - 1) / 3) fieldOrder ≠ 1 := by
  decide +kernel

/-- **No point of the curve has the second coordinate zero**: a cube is raised to one
by a third of the order of the group, and minus seven is not. -/
theorem cube_add_seven_ne_zero (x : ZMod fieldOrder) : x ^ 3 + 7 ≠ 0 := by
  intro h
  have hneg : ((fieldOrder - 7 : ℕ) : ZMod fieldOrder) = -7 := by
    rw [Nat.cast_sub (by decide), ZMod.natCast_self, zero_sub, Nat.cast_ofNat]
  have hcube : x ^ 3 = ((fieldOrder - 7 : ℕ) : ZMod fieldOrder) := by
    rw [hneg]
    exact eq_neg_of_add_eq_zero_left h
  have hx : x ≠ 0 := by
    rintro rfl
    rw [zero_pow (by decide), eq_comm, ZMod.natCast_eq_zero_iff] at hcube
    exact absurd (Nat.le_of_dvd (by decide) hcube) (by decide)
  refine powMod_neg_seven_ne_one ((powMod_eq_one_iff one_lt_fieldOrder _ _).mpr ?_)
  rw [← hcube, ← pow_mul, show 3 * ((fieldOrder - 1) / 3) = fieldOrder - 1 by decide]
  exact ZMod.pow_card_sub_one_eq_one hx

/-! ## The test -/

/-- What the test raises is the right side of the equation. -/
theorem natCast_cube_add_constant (r : ℕ) :
    ((powMod r 3 fieldOrder + constant : ℕ) : ZMod fieldOrder) = (r : ZMod fieldOrder) ^ 3 + 7 := by
  rw [Nat.cast_add, natCast_powMod, constant, Nat.cast_ofNat]

/-- **The Euler test is one exactly for the coordinates of points.** -/
theorem eulerTest_eq_one_iff {r : ℕ} : eulerTest r = 1 ↔ OnCurve r := by
  rw [eulerTest, powMod_eq_one_iff one_lt_fieldOrder, natCast_cube_add_constant,
    onCurve_iff_isSquare, ZMod.euler_criterion fieldOrder (cube_add_seven_ne_zero _)]
  rfl

/-- **The Euler test is never zero**, since the right side is not. -/
theorem eulerTest_ne_zero (r : ℕ) : eulerTest r ≠ 0 := by
  intro h
  have hpower : ((r : ZMod fieldOrder) ^ 3 + 7) ^ ((fieldOrder - 1) / 2) = 0 := by
    rw [← natCast_cube_add_constant, ← natCast_powMod, ← eulerTest, h, Nat.cast_zero]
  exact cube_add_seven_ne_zero _ (eq_zero_of_pow_eq_zero hpower)

end Signet.Secp256k1
