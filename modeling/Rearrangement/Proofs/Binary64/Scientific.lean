import Mathlib.Data.Nat.Cast.Field
import Mathlib.Tactic.Positivity
import Rearrangement.Proofs.Binary64.Nearest

/-!
# Doubles from decimals

A decimal that lies in the interval of a double is converted to it.  Small significands with small
powers of ten are multiplied or divided as doubles, which both hold exactly (`IsExactly`); others
are multiplied out, or divided to enough bits, before they are rounded.  So each way comes down to
one rounding of the exact value.

## Main statements

* `mul_eq`, `div_eq`: products and quotients of values round to a double if the exact ones do.
* `isExactly_power`: the powers of ten that are kept as doubles are exact.
* `ofScientific_eq`: a decimal in the interval of a double is converted to it.

The conversion goes one of three ways, by how large the significand and the power are, and the last
theorem is by cases on them.  That the value is in range (`RoundsTo.range`) is what keeps the powers
of ten within the tables.
-/

namespace Rearrangement.Binary64

open Float.Model (UnpackedFloat Format totalExponent)
open Float.Model.UnpackedFloat

/-! ## Products and quotients -/

section Operations

variable {m m₁ m₂ : ℕ} {e e₁ e₂ : ℤ} {h₁ : 0 < m₁} {h₂ : 0 < m₂} {s : Sign}

/-- A natural times a power of two, if its mantissa is long enough. -/
theorem roundWithAccuracy_exact {n : ℕ} {E : ℤ} (hm : 0 < m) (hc : Canonical m e)
    (h : RoundsTo (n * 2 ^ E) m e) (hE : E ≤ -1074 ∨ 2 ^ 52 ≤ n) :
    roundWithAccuracy .binary64 s n E .exact = .finite s m e hm := by
  have hround := roundWithAccuracy_eq (n := n) (d := 1) (E := E) (s := s) one_pos hm hc
  rw [Nat.div_one, Nat.mod_one, Nat.cast_one, div_one] at hround
  exact hround h hE

/-- The product of two values rounds to a double if the exact product does. -/
theorem mul_eq (hm : 0 < m) (hc : Canonical m e)
    (h : RoundsTo (m₁ * 2 ^ e₁ * (m₂ * 2 ^ e₂)) m e) (hbits : 2 ^ 52 ≤ m₁) :
    mul .binary64 (.finite .positive m₁ e₁ h₁) (.finite .positive m₂ e₂ h₂) =
      .finite .positive m e hm := by
  refine roundWithAccuracy_exact hm hc ?_ (.inr (hbits.trans (Nat.le_mul_of_pos_right _ h₂)))
  rw [zpow_add₀ two_ne_zero]
  push_cast
  rw [mul_mul_mul_comm]
  exact h

/-- The quotient of two values rounds to a double if the exact quotient does. -/
theorem div_eq (hm : 0 < m) (hc : Canonical m e)
    (h : RoundsTo (m₁ * 2 ^ e₁ / (m₂ * 2 ^ e₂)) m e) :
    div .binary64 (.finite .positive m₁ e₁ h₁) (.finite .positive m₂ e₂ h₂) =
      .finite .positive m e hm := by
  have htarget : Format.binary64.targetExponent (totalExponent m₁ e₁ - totalExponent m₂ e₂) =
      max (m₁.log2 + 1 + e₁ - (m₂.log2 + 1 + e₂) - 53) (-1074) := rfl
  change roundWithAccuracy .binary64 .positive (divCore .binary64 m₁ e₁ m₂ e₂).1
    (divCore .binary64 m₁ e₁ m₂ e₂).2.1 (divCore .binary64 m₁ e₁ m₂ e₂).2.2 = _
  unfold divCore
  dsimp only
  rw [htarget, Nat.shiftLeft_eq]
  generalize hE : min (e₁ - e₂) (max (m₁.log2 + 1 + e₁ - (m₂.log2 + 1 + e₂) - 53) (-1074)) = E
  generalize hk : (e₁ - e₂ - E).toNat = k
  refine roundWithAccuracy_eq h₂ hm hc ?_ ?_
  · have hexponent : e₁ - e₂ = k + E := by omega
    have hvalue : (m₁ * 2 ^ e₁ / (m₂ * 2 ^ e₂) : ℚ) = (m₁ * 2 ^ k : ℕ) / m₂ * 2 ^ E := by
      rw [mul_div_mul_comm, ← zpow_sub₀ two_ne_zero, hexponent, zpow_add₀ two_ne_zero, zpow_natCast]
      push_cast
      ring
    rwa [hvalue] at h
  · by_cases hleast : E ≤ -1074
    · exact .inl hleast
    · -- the numerator has been shifted until the quotient has 53 bits
      refine .inr ((Nat.le_div_iff_mul_le h₂).2 ?_)
      calc 2 ^ 52 * m₂ ≤ 2 ^ 52 * 2 ^ (m₂.log2 + 1) := Nat.mul_le_mul_left _ Nat.lt_log2_self.le
        _ = 2 ^ (52 + (m₂.log2 + 1)) := (Nat.pow_add ..).symm
        _ ≤ 2 ^ (m₁.log2 + k) := Nat.pow_le_pow_right Nat.two_pos (by omega)
        _ = 2 ^ m₁.log2 * 2 ^ k := Nat.pow_add ..
        _ ≤ m₁ * 2 ^ k := Nat.mul_le_mul_right _ (Nat.log2_self_le h₁.ne')

end Operations

/-! ## Exact doubles -/

/-- The parts of a natural that is a double, with a mantissa of 53 bits. -/
def partsOfNat (n : ℕ) : Parts := ⟨false, n * 2 ^ 52 / 2 ^ n.log2, n.log2 - 52⟩

section Natural

variable {n : ℕ} {x : Float}

theorem le_mantissa_partsOfNat (hn : 0 < n) : 2 ^ 52 ≤ (partsOfNat n).mantissa := by
  refine (Nat.le_div_iff_mul_le (Nat.two_pow_pos _)).2 ?_
  rw [Nat.mul_comm]
  exact Nat.mul_le_mul_right _ (Nat.log2_self_le hn.ne')

/-- The parts of a natural are canonical as long as it is in range. -/
theorem canonical_partsOfNat (hn : 0 < n) (hlog : n.log2 < 1024) :
    Canonical (partsOfNat n).mantissa (partsOfNat n).exponent := by
  refine ⟨?_, ?_, ?_, .inl (le_mantissa_partsOfNat hn)⟩
  · refine (Nat.div_lt_iff_lt_mul (Nat.two_pow_pos _)).2 ?_
    have hupper : n < 2 ^ n.log2 * 2 := Nat.lt_log2_self
    omega
  · simp only [partsOfNat]
    omega
  · simp only [partsOfNat]
    omega

/-- The double is the given natural. -/
structure IsExactly (x : Float) (n : ℕ) : Prop where
  pos : 0 < n
  dvd : 2 ^ n.log2 ∣ n * 2 ^ 52
  parts : Parts.ofFloat? x = some (partsOfNat n)

/-- The parts of a natural have its value if it needs no more than the bits of a mantissa. -/
theorem partsOfNat_value (hdvd : 2 ^ n.log2 ∣ n * 2 ^ 52) :
    ((partsOfNat n).mantissa * 2 ^ (partsOfNat n).exponent : ℚ) = n := by
  simp only [partsOfNat]
  rw [Nat.cast_div hdvd (by positivity), zpow_sub₀ two_ne_zero]
  push_cast
  rw [zpow_natCast]
  field_simp

/-- A double that is exactly a natural stands for its canonical parts. -/
theorem IsExactly.unpack (h : IsExactly x n) : x.toModel.unpack =
    .finite .positive (partsOfNat n).mantissa (partsOfNat n).exponent
      (Nat.lt_of_lt_of_le (by decide) (le_mantissa_partsOfNat h.pos)) := by
  rw [unpack_of_parts h.parts]
  exact dif_pos _

/-- A natural below `2 ^ 53` is a double. -/
theorem isExactly_toFloat (hn : 0 < n) (hlt : n < 2 ^ 53) : IsExactly n.toUInt64.toFloat n := by
  have hlog : n.log2 < 53 := (Nat.log2_lt hn.ne').2 hlt
  have hdvd : 2 ^ n.log2 ∣ n * 2 ^ 52 := Dvd.dvd.mul_left (Nat.pow_dvd_pow 2 (by omega)) n
  refine ⟨hn, hdvd, ?_⟩
  have hnat : n.toUInt64.toNat = n := UInt64.toNat_ofNat_of_lt (hlt.trans (by decide))
  have htarget : Format.binary64.targetExponent (totalExponent n 0) = n.log2 - 52 := by
    change max ((n.log2 : ℤ) + 1 + 0 - 53) (-1074) = _
    omega
  have hshift : n * 2 ^ (52 - n.log2) = (partsOfNat n).mantissa := by
    refine (Nat.div_eq_of_eq_mul_left (Nat.two_pow_pos _) ?_).symm
    rw [Nat.mul_assoc, ← Nat.pow_add, Nat.sub_add_cancel (by omega)]
  have hround : UnpackedFloat.round .binary64 .positive n 0 = (partsOfNat n).unpacked := by
    have hpos : 0 < (partsOfNat n).mantissa :=
      Nat.lt_of_lt_of_le (by decide) (le_mantissa_partsOfNat hn)
    unfold UnpackedFloat.round decreaseExponent
    dsimp only
    rw [htarget, show (0 - ((n.log2 : ℤ) - 52)).toNat = 52 - n.log2 by omega, Nat.shiftLeft_eq,
      hshift,
      show (0 - ((52 - n.log2 : ℕ) : ℤ)) = (partsOfNat n).exponent by simp only [partsOfNat]; omega,
      Parts.unpacked, dif_pos hpos]
    exact roundWithAccuracy_exact hpos (canonical_partsOfNat hn (by omega)) (roundsTo_self _ _)
      (.inr (le_mantissa_partsOfNat hn))
  have hvalue : n.toUInt64.toFloat =
      .ofModel (.pack (UnpackedFloat.round .binary64 .positive n 0)) := by
    change Float.ofModel
      (.pack (UnpackedFloat.normalize .binary64 (n.toUInt64.toNat : ℤ) 0 .positive)) = _
    rw [hnat, UnpackedFloat.normalize, compare_gt_iff_gt.2 (by exact_mod_cast hn)]
    rfl
  rw [hvalue, hround]
  exact ofFloat?_pack (canonical_partsOfNat hn (by omega))

/-- The powers of ten that are kept as doubles. -/
theorem powers_exact (i : Fin Float.exactlyRepresentablePowersOfTen.size) :
    2 ^ (10 ^ (i : ℕ)).log2 ∣ 10 ^ (i : ℕ) * 2 ^ 52 ∧
      Parts.ofFloat? Float.exactlyRepresentablePowersOfTen[i] =
        some (partsOfNat (10 ^ (i : ℕ))) := by
  decide +kernel +revert

/-- The powers of ten in the table are exact. -/
theorem isExactly_power {k : ℕ} (hk : k < Float.exactlyRepresentablePowersOfTen.size) :
    IsExactly Float.exactlyRepresentablePowersOfTen[k] (10 ^ k) := by
  obtain ⟨hdvd, hparts⟩ := powers_exact ⟨k, hk⟩
  exact ⟨Nat.pow_pos (by decide), hdvd, hparts⟩

end Natural

/-! ## Decimals -/

section Decimal

variable {s m : ℕ} {k e : ℤ} {v : ℚ}

/-- What is in the interval of a double is in the range of doubles. -/
theorem RoundsTo.range (h : RoundsTo v m e) (hm : 0 < m) (hc : Canonical m e) :
    (2 : ℚ) ^ (-1075 : ℤ) ≤ v ∧ v < 2 ^ (1024 : ℤ) := by
  have hpow : (0 : ℚ) < 2 ^ e := zpow_pos two_pos e
  have hm1 : (1 : ℚ) ≤ m := by exact_mod_cast hm
  constructor
  · calc (2 : ℚ) ^ (-1075 : ℤ) ≤ 2 ^ (e - 1) := zpow_le_zpow_right₀ one_le_two (by linarith [hc.le])
      _ = (1 - 1 / 2) * 2 ^ e := by rw [zpow_sub₀ two_ne_zero]; ring
      _ ≤ (m - 1 / 2) * 2 ^ e := mul_le_mul_of_nonneg_right (by linarith) hpow.le
      _ ≤ v := (le_div_iff₀ hpow).1 h.isNear.low
  · calc v < 2 ^ (53 + e) := h.lt hc
      _ ≤ 2 ^ (1024 : ℤ) := zpow_le_zpow_right₀ one_le_two (by linarith [hc.exponent_le])

/-- A power of ten is further from one than the power of eight. -/
theorem le_ten_zpow (hk : 0 ≤ k) : (2 : ℚ) ^ (3 * k) ≤ 10 ^ k := by
  rw [zpow_mul]
  exact zpow_le_zpow_left₀ hk (by norm_num) (by norm_num)

theorem ten_zpow_le (hk : k ≤ 0) : (10 : ℚ) ^ k ≤ 2 ^ (3 * k) := by
  have h := inv_anti₀ (zpow_pos two_pos _) (le_ten_zpow (Int.neg_nonneg_of_nonpos hk))
  rwa [← zpow_neg, ← zpow_neg, Int.mul_neg, Int.neg_neg, Int.neg_neg] at h

/-- What rounds to a positive double has a positive significand. -/
theorem pos_of_roundsTo (h : RoundsTo (s * 10 ^ k) m e) (hm : 0 < m) (hc : Canonical m e) :
    0 < s := by
  refine Nat.pos_of_ne_zero ?_
  rintro rfl
  have hlow := (h.range hm hc).1
  rw [Nat.cast_zero, zero_mul] at hlow
  exact absurd hlow (not_le_of_gt (zpow_pos two_pos _))

/-- A decimal in the interval of a double is worked out to that double. -/
theorem unpacked_ofScientific (hm : 0 < m) (hc : Canonical m e) (h : RoundsTo (s * 10 ^ k) m e) :
    UnpackedFloat.ofScientific .binary64 s k = .finite .positive m e hm := by
  have hs := pos_of_roundsTo h hm hc
  obtain ⟨hlow, hhigh⟩ := h.range hm hc
  have hs1 : (1 : ℚ) ≤ s := by exact_mod_cast hs
  have hlarge : ¬(k > 2 ^ 11) := fun hk ↦ by
    refine absurd hhigh (not_lt_of_ge ?_)
    calc (2 : ℚ) ^ (1024 : ℤ) ≤ 2 ^ (3 * k) := zpow_le_zpow_right₀ one_le_two (by omega)
      _ ≤ 10 ^ k := le_ten_zpow (by omega)
      _ ≤ s * 10 ^ k := le_mul_of_one_le_left (zpow_nonneg (by norm_num) k) hs1
  have hsmall : ¬(k < -(2 ^ 11 + (s.log2 : ℤ))) := fun hk ↦ by
    refine absurd hlow (not_le_of_gt ?_)
    have hlog : (s : ℚ) < 2 ^ (s.log2 + 1 : ℤ) := by exact_mod_cast Nat.lt_log2_self
    calc (s * 10 ^ k : ℚ) < 2 ^ (s.log2 + 1 : ℤ) * 10 ^ k :=
          mul_lt_mul_of_pos_right hlog (zpow_pos (by norm_num) k)
      _ ≤ 2 ^ (s.log2 + 1 : ℤ) * 2 ^ (3 * k) :=
          mul_le_mul_of_nonneg_left (ten_zpow_le (by omega)) (zpow_nonneg two_pos.le _)
      _ = 2 ^ (s.log2 + 1 + 3 * k) := (zpow_add₀ two_ne_zero _ _).symm
      _ ≤ 2 ^ (-1075 : ℤ) := zpow_le_zpow_right₀ one_le_two (by omega)
  unfold UnpackedFloat.ofScientific
  rw [dif_neg hs.ne', if_neg hlarge, if_neg hsmall]
  by_cases hk : 0 ≤ k
  · rw [if_pos hk]
    have hbits : Format.binary64.mantissaBits = 53 := rfl
    refine mul_eq hm hc ?_ ?_
    · rw [hbits, Nat.shiftLeft_eq]
      have hunit : ((2 ^ 53 : ℕ) * 2 ^ (-(53 : ℕ) : ℤ) : ℚ) = 1 := by norm_num
      rw [Nat.cast_mul, mul_assoc (s : ℚ), hunit, Nat.cast_pow, zpow_zero, mul_one, mul_one,
        ← zpow_natCast, Int.toNat_of_nonneg hk]
      exact h
    · rw [hbits, Nat.shiftLeft_eq]
      omega
  · rw [if_neg hk]
    refine div_eq hm hc ?_
    rw [Nat.cast_pow, zpow_zero, mul_one, mul_one, ← zpow_natCast, Int.toNat_of_nonneg (by omega),
      zpow_neg, div_inv_eq_mul]
    exact h

/-- A decimal in the interval of a double is converted to it, whichever way is taken. -/
theorem ofScientific_eq (hm : 0 < m) (hc : Canonical m e) (h : RoundsTo (s * 10 ^ k) m e) :
    Float.ofScientific s (decide (k < 0)) k.natAbs =
      .ofModel (.pack (.finite .positive m e hm)) := by
  have hs := pos_of_roundsTo h hm hc
  unfold Float.ofScientific
  by_cases hfast : s < 2 ^ 53 ∧ k.natAbs ≤ 22
  · -- both factors are doubles, so that there is one rounding
    rw [dif_pos hfast]
    have hk : k.natAbs < Float.exactlyRepresentablePowersOfTen.size := Nat.lt_succ_of_le hfast.2
    have hx := isExactly_toFloat hs hfast.1
    have hy := isExactly_power hk
    dsimp only
    by_cases hneg : k < 0
    · rw [if_pos (decide_eq_true hneg)]
      have hvalue : (s / (10 ^ k.natAbs : ℕ) : ℚ) = s * 10 ^ k := by
        have hk0 : k = -(k.natAbs : ℤ) := by omega
        conv_rhs => rw [hk0, zpow_neg, zpow_natCast]
        push_cast
        exact div_eq_mul_inv _ _
      change Float.ofModel (.pack (div .binary64 s.toUInt64.toFloat.toModel.unpack
        Float.exactlyRepresentablePowersOfTen[k.natAbs].toModel.unpack)) = _
      rw [hx.unpack, hy.unpack, div_eq hm hc]
      rw [partsOfNat_value hx.dvd, partsOfNat_value hy.dvd, hvalue]
      exact h
    · rw [if_neg (mt of_decide_eq_true hneg)]
      have hvalue : (s * (10 ^ k.natAbs : ℕ) : ℚ) = s * 10 ^ k := by
        have hk0 : k = (k.natAbs : ℤ) := by omega
        conv_rhs => rw [hk0, zpow_natCast]
        push_cast
        rfl
      change Float.ofModel (.pack (mul .binary64 s.toUInt64.toFloat.toModel.unpack
        Float.exactlyRepresentablePowersOfTen[k.natAbs].toModel.unpack)) = _
      rw [hx.unpack, hy.unpack, mul_eq hm hc]
      · rw [partsOfNat_value hx.dvd, partsOfNat_value hy.dvd, hvalue]
        exact h
      · exact le_mantissa_partsOfNat hs
  · rw [dif_neg hfast]
    have hexponent :
        (if decide (k < 0) = true then Int.negOfNat k.natAbs else Int.ofNat k.natAbs) = k := by
      by_cases hneg : k < 0
      · rw [if_pos (decide_eq_true hneg), Int.negOfNat_eq]
        change -(k.natAbs : ℤ) = k
        omega
      · rw [if_neg (mt of_decide_eq_true hneg)]
        change (k.natAbs : ℤ) = k
        omega
    dsimp only
    rw [hexponent]
    exact congrArg (Float.ofModel ∘ .pack) (unpacked_ofScientific hm hc h)

end Decimal

end Rearrangement.Binary64
