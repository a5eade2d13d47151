import Mathlib.Analysis.SpecialFunctions.Complex.Arg
import Rearrangement.Proofs.Scalar.Lawful

/-!
# Exact arithmetic

What geometry does apart from rounding is said of ordered fields.  The functions for angles and
lengths may be any; `CircleScalar` asks that cosine and sine are coordinates of one point of the
unit circle.  The real numbers with their own functions are one such field.
-/

namespace Rearrangement

/-- Exact arithmetic: an ordered field with functions for angles and lengths. -/
class ExactScalar (R : Type) extends Field R, LinearOrder R, IsStrictOrderedRing R where
  pi : R
  cos : R → R
  sin : R → R
  atan2 : R → R → R
  remainder : R → R → R
  hypot : R → R → R

-- What a field has of its own goes first.
attribute [instance (50)] ExactScalar.toField ExactScalar.toLinearOrder

instance (priority := low) ExactScalar.toScalar {R : Type} [ExactScalar R] : Scalar R where
  decidableLE := inferInstance
  decidableLT := inferInstance
  pi := pi
  cos := cos
  sin := sin
  atan2 := atan2
  remainder := remainder
  hypot := hypot

namespace ExactScalar

variable {R : Type} [ExactScalar R]

/-- Zero is that of the field. -/
@[simp] theorem ofNat_zero : @OfNat.ofNat R 0 (Scalar.instOfNat 0) = 0 := Nat.cast_zero

@[simp] theorem ofNat_one : @OfNat.ofNat R 1 (Scalar.instOfNat 1) = 1 := Nat.cast_one

/-- So is every other numeral. -/
@[simp] theorem ofNat_eq (n : Nat) [n.AtLeastTwo] :
    @OfNat.ofNat R n (Scalar.instOfNat n) = OfNat.ofNat n := Nat.cast_ofNat

end ExactScalar

/-- Angles stand for points of the unit circle. -/
class CircleScalar (R : Type) [ExactScalar R] : Prop where
  cos_sq_add_sin_sq (a : R) : ExactScalar.cos a ^ 2 + ExactScalar.sin a ^ 2 = 1

/-- Everything is a number and finite. -/
instance ExactScalar.toLawfulScalar {R : Type} [ExactScalar R] : LawfulScalar R where
  isNumber_left _ := le_rfl
  isNumber_right _ := le_rfl
  le_trans := le_trans
  le_total {x y} _ _ := le_total x y
  lt_iff_le_not_ge := lt_iff_le_not_ge
  abs_sub_self {x} _ := by
    have hpos : (0 : R) < Scalar.epsilon := by
      rw [Scalar.epsilon, ExactScalar.ofNat_one]
      exact one_div_pos.2 (Nat.cast_pos.2 (by positivity))
    rw [sub_self, Scalar.abs, ExactScalar.ofNat_zero, if_neg (lt_irrefl _)]
    exact hpos

noncomputable instance : ExactScalar ℝ where
  pi := Real.pi
  cos := Real.cos
  sin := Real.sin
  atan2 y x := Complex.arg ⟨x, y⟩
  remainder x y := x - y * (if 0 ≤ x / y then ⌊x / y⌋ else ⌈x / y⌉ : ℤ)
  hypot x y := √(x * x + y * y)

instance : CircleScalar ℝ := ⟨Real.cos_sq_add_sin_sq⟩

/-! ## Objects without extent -/

section Flat

variable {R : Type} [ExactScalar R]

theorem Footprint.side_self (a p : Point R) : side a a p = 0 := by
  simp [side]

/-- The footprint of an object without extent has no sides, and so no point lies outside of it. -/
theorem SceneObject.contains_of_size_eq_zero {o : SceneObject R} (hx : o.size.x = 0)
    (hy : o.size.y = 0) (p : Point R) : o.footprint.contains p = true := by
  simp [footprint, Footprint.ofOrientation, Footprint.ofDirection, Footprint.contains,
    Footprint.sides, Footprint.side_self, hx, hy]

end Flat

end Rearrangement
