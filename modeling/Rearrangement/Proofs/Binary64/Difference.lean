import Rearrangement.Proofs.Binary64.Packing

/-!
# Differences of doubles

A positive difference of two doubles is one of doubles in order, whatever rounding makes of it
(`rank_le_of_isPositive_sub`).  For finite values both mantissas are brought to the smaller of their
exponents; since the parts of doubles are canonical, the one with the larger exponent stays the
larger one (`lex_of_shift_lt`).

## Main statements

* `pos_iff`: a double is greater than zero exactly if the value it stands for is positive.
* `pos_of_isPositive_normalize`: rounding makes nothing positive that was not.
* `rank_le_of_isPositive_sub`: values with a positive difference are in order.

Rounding need not be followed to its end for this.  Only its sign matters, and it keeps that.
-/

namespace Rearrangement.Binary64

open Float.Model (UnpackedFloat Format)
open Float.Model.UnpackedFloat

/-! ## Positive values -/

/-- The value lies above zero. -/
def isPositive : UnpackedFloat → Bool
  | .infinity .positive | .finite .positive _ _ _ => true
  | _ => false

/-- A double is greater than zero if it is positive. -/
theorem pos_iff {x : Float} : 0 < x ↔ isPositive x.toModel.unpack = true := by
  rw [lt_iff_rank, show rankOf 0 = some (toLex (0, toLex (0, 0))) from rfl, rankOf]
  rcases x.toModel.unpack with ⟨_ | _⟩ | _ | _ | ⟨_ | _, m, e, hm⟩
  all_goals
    dsimp only [rank, isPositive]
    simp [Prod.Lex.lt_iff]

theorem toNat_lt_of_isPositive {b : BitVec 64} (h : isPositive (unpack .binary64 b) = true) :
    b.toNat < 2 ^ 63 := by
  by_contra hb
  have hsign : Sign.ofBitVec (@unpackSign .binary64 b) = .negative := by
    rw [ofBitVec_unpackSign, decide_eq_true (Nat.le_of_not_lt hb)]
    rfl
  unfold unpack at h
  dsimp only at h
  rw [hsign, apply_ite isPositive, apply_ite isPositive, apply_ite isPositive,
    apply_dite isPositive] at h
  dsimp only [isPositive] at h
  simp at h

/-- The sign bit of a negative value is set. -/
theorem le_toNat_pack (m : ℕ) (e : ℤ) (hm : 0 < m) :
    2 ^ 63 ≤ (pack .binary64 (.finite .negative m e hm)).toNat := by
  have hcomponents (field : BitVec 11) (fraction : BitVec 52) :
      2 ^ 63 ≤ (packComponents .binary64 (signOf true) field fraction).toNat := by
    rw [toNat_packComponents, bitsOf, if_pos rfl]
    omega
  unfold pack
  dsimp only
  split
  · exact hcomponents _ _
  · split <;> exact hcomponents _ _

/-- What is positive after rounding to the format was so before. -/
theorem isPositive_of_pack {u : UnpackedFloat}
    (h : isPositive (Float.Model.pack u).unpack = true) : isPositive u = true := by
  rcases u with ⟨_ | _⟩ | _ | ⟨_ | _⟩ | ⟨_ | _, m, e, hm⟩
  case infinity.positive | finite.positive => rfl
  case finite.negative => exact absurd (toNat_lt_of_isPositive h) (le_toNat_pack m e hm).not_gt
  all_goals exact absurd h (by decide)

/-! ## Finite values -/

theorem isPositive_roundWithAccuracy (m : ℕ) (e : ℤ) (acc : Accuracy) :
    isPositive (roundWithAccuracy .binary64 .negative m e acc) = false := by
  obtain h | ⟨m', hm, h⟩ := roundWithAccuracy_cases .negative m e acc
  all_goals
    rw [h]
    rfl

/-- Rounding makes nothing positive that was not so before. -/
theorem pos_of_isPositive_normalize {m e : ℤ} {s : Sign}
    (h : isPositive (UnpackedFloat.normalize .binary64 m e s) = true) : 0 < m := by
  unfold UnpackedFloat.normalize at h
  split at h
  next => exact absurd h (Bool.eq_false_iff.1 (isPositive_roundWithAccuracy _ _ _))
  next => cases h
  next hgt => exact compare_gt_iff_gt.1 hgt

/-- Parts with the larger exponent stay larger at the smaller exponent. -/
theorem lex_of_shift_lt {m m' : ℕ} {e e' : ℤ} (h : Canonical m e) (h' : Canonical m' e')
    (hlt : (decreaseExponent m' e' (min e e')).1 < (decreaseExponent m e (min e e')).1) :
    e' < e ∨ e' = e ∧ m' ≤ m := by
  unfold decreaseExponent at hlt
  dsimp only at hlt
  rw [Nat.shiftLeft_eq, Nat.shiftLeft_eq] at hlt
  rcases lt_trichotomy e' e with hexponent | rfl | hexponent
  · exact .inl hexponent
  · simp only [min_self, sub_self, Int.toNat_zero, pow_zero, mul_one] at hlt
    exact .inr ⟨rfl, hlt.le⟩
  · rw [min_eq_left hexponent.le, sub_self, Int.toNat_zero, pow_zero, mul_one] at hlt
    -- the mantissa with the larger exponent has all its bits, and is shifted
    have hbits : 2 ^ 52 ≤ m' := by
      have hle := h.le
      exact h'.normal.resolve_right (by omega)
    have hshift : 2 ^ 1 ≤ 2 ^ (e' - e).toNat := Nat.pow_le_pow_right (by decide) (by omega)
    have hfull : 2 ^ 53 ≤ m' * 2 ^ (e' - e).toNat := Nat.mul_le_mul hbits hshift
    have hshort := h.lt
    omega

/-- The value has the parts of a double, if it is finite. -/
def Proper : UnpackedFloat → Prop
  | .finite _ m e _ => Canonical m e
  | _ => True

/-- The value that a double stands for has the canonical mantissa. -/
theorem proper_unpack (x : Float) : Proper x.toModel.unpack := by
  cases hx : x.isFinite with
  | true =>
    obtain ⟨p, hp⟩ := exists_parts hx
    rw [unpack_of_parts hp, Parts.unpacked]
    by_cases hpos : 0 < p.mantissa
    · rw [dif_pos hpos]
      exact canonical_of_parts hp
    · rw [dif_neg hpos]
      trivial
  | false =>
    change x.toModel.unpack.isFinite = false at hx
    generalize x.toModel.unpack = u at hx ⊢
    cases u with
    | finite => cases hx
    | notANumber | infinity | zero => trivial

/-- A positive difference is one of values in order, for all kinds of values. -/
theorem rank_le_of_isPositive_sub {u v : UnpackedFloat} (hu : Proper u) (hv : Proper v)
    (h : isPositive (sub .binary64 u v) = true) : ∃ a ∈ rank v, ∃ b ∈ rank u, a ≤ b := by
  rcases u with ⟨_ | _⟩ | _ | ⟨_ | _⟩ | ⟨_ | _, m, e, hm⟩ <;>
    rcases v with ⟨_ | _⟩ | _ | ⟨_ | _⟩ | ⟨_ | _, m', e', hm'⟩
  case finite.negative.finite.negative =>
    have hpos : 0 < -((decreaseExponent m e (min e e')).1 : ℤ) -
        -((decreaseExponent m' e' (min e e')).1 : ℤ) := pos_of_isPositive_normalize h
    rw [min_comm] at hpos
    have hlex := lex_of_shift_lt hv hu (by omega)
    refine ⟨_, rfl, _, rfl, ?_⟩
    simp only [Prod.Lex.le_iff, ofLex_toLex, true_and]
    omega
  case finite.positive.finite.positive =>
    have hpos : 0 < ((decreaseExponent m e (min e e')).1 : ℤ) -
        (decreaseExponent m' e' (min e e')).1 := pos_of_isPositive_normalize h
    have hlex := lex_of_shift_lt hu hv (by omega)
    refine ⟨_, rfl, _, rfl, ?_⟩
    simp only [Prod.Lex.le_iff, ofLex_toLex, true_and]
    omega
  case finite.negative.finite.positive =>
    have hpos : 0 < -((decreaseExponent m e (min e e')).1 : ℤ) -
        (decreaseExponent m' e' (min e e')).1 := pos_of_isPositive_normalize h
    omega
  -- otherwise what the values are decides
  all_goals first
    | (cases h; done)
    | dsimp only [rank]
      simp [Prod.Lex.le_iff]

end Rearrangement.Binary64

namespace Rearrangement

open Binary64

instance : DifferenceScalar Float where
  le_of_sub_pos {x y} h := by
    refine le_iff_rank.2 (rank_le_of_isPositive_sub (proper_unpack y) (proper_unpack x) ?_)
    exact isPositive_of_pack (pos_iff.1 h)

end Rearrangement
