import Mathlib.Algebra.Order.Field.Rat
import Mathlib.Data.Nat.Cast.Order.Field
import Mathlib.Tactic.FieldSimp
import Mathlib.Tactic.Linarith
import Rearrangement.Proofs.Binary64.Packing

/-!
# Rounding to the nearest double

The values that round to the double `m · 2 ^ e` form an interval around it: half the distance to
its neighbours on either side, the ends included if `m` is even (`RoundsTo`).  Rounding is worked
out on a mantissa with two more bits, which tell on which side of a half the rest lies
(`Represents`); shifting keeps that, so that what comes out for a value in the interval is the
double itself (`roundWithAccuracy_eq`).  The one case apart is a value just below a power of two,
which is rounded at the smaller exponent and then carried.

## Main statements

* `roundsTo_self`: a double is in its own interval.
* `Represents.shiftRight`: a shift keeps what is represented.
* `Represents.roundedMantissa_eq`: what is near a natural is rounded to it.
* `roundWithAccuracy_eq`: what is in the interval of a double is rounded to it.

The values are rationals, so that no bit is lost in saying what is represented.  The statements are
about the rounding of the library's model of doubles, and there is nothing in them about decimals,
products or quotients: each of these comes to it with a value and what it is represented by.
-/

namespace Rearrangement.Binary64

open Float.Model (UnpackedFloat Format totalExponent)
open Float.Model.UnpackedFloat

/-! ## Doubles and their intervals -/

/-- Four times the distance to the lower end of the interval, in units of `2 ^ e`: below a power of
two the next double is half as far away as above it. -/
def gapBelow (m : ℕ) (e : ℤ) : ℕ := if m = 2 ^ 52 ∧ Parts.leastExponent < e then 1 else 2

/-- The value lies in the interval around the double `m · 2 ^ e`. -/
structure RoundsTo (v : ℚ) (m : ℕ) (e : ℤ) : Prop where
  low : (4 * m - gapBelow m e : ℚ) * 2 ^ (e - 2) ≤ v
  high : v ≤ (4 * m + 2 : ℚ) * 2 ^ (e - 2)
  odd : m % 2 = 1 → (4 * m - gapBelow m e : ℚ) * 2 ^ (e - 2) < v ∧ v < (4 * m + 2 : ℚ) * 2 ^ (e - 2)

variable {m : ℕ} {e : ℤ} {v x : ℚ}

theorem gapBelow_le (m : ℕ) (e : ℤ) : gapBelow m e ≤ 2 := by
  unfold gapBelow
  split <;> decide

theorem quarter_zpow (e : ℤ) : (2 : ℚ) ^ (e - 2) = 2 ^ e / 4 := by
  rw [zpow_sub₀ two_ne_zero]
  norm_num

/-- A double is in its own interval. -/
theorem roundsTo_self (m : ℕ) (e : ℤ) : RoundsTo (m * 2 ^ e) m e := by
  have hpow : (0 : ℚ) < 2 ^ e := zpow_pos two_pos e
  have hgap : (1 : ℚ) ≤ gapBelow m e := by
    unfold gapBelow
    split <;> norm_num
  have hbelow : (4 * m - gapBelow m e : ℚ) * (2 ^ e / 4) < m * 2 ^ e := by nlinarith
  have habove : (m : ℚ) * 2 ^ e < (4 * m + 2) * (2 ^ e / 4) := by nlinarith
  rw [← quarter_zpow] at hbelow habove
  exact ⟨hbelow.le, habove.le, fun _ ↦ ⟨hbelow, habove⟩⟩

/-- The value is at most half a unit away from the natural, and less than that if it is odd. -/
structure IsNear (x : ℚ) (m : ℕ) : Prop where
  low : m - 1 / 2 ≤ x
  high : x ≤ m + 1 / 2
  odd : m % 2 = 1 → m - 1 / 2 < x ∧ x < m + 1 / 2

/-- What rounds to a double is near its mantissa, in units of the last bit. -/
theorem RoundsTo.isNear (h : RoundsTo v m e) : IsNear (v / 2 ^ e) m := by
  obtain ⟨hlow, hhigh, hodd⟩ := h
  have hpow : (0 : ℚ) < 2 ^ e := zpow_pos two_pos e
  have hgap : (gapBelow m e : ℚ) ≤ 2 := by exact_mod_cast gapBelow_le m e
  have hbelow : (m - 1 / 2 : ℚ) * 2 ^ e ≤ (4 * m - gapBelow m e : ℚ) * 2 ^ (e - 2) := by
    rw [quarter_zpow]
    nlinarith
  have habove : (4 * m + 2 : ℚ) * 2 ^ (e - 2) = (m + 1 / 2 : ℚ) * 2 ^ e := by
    rw [quarter_zpow]
    ring
  rw [habove] at hhigh hodd
  constructor
  · exact (le_div_iff₀ hpow).2 (hbelow.trans hlow)
  · exact (div_le_iff₀ hpow).2 hhigh
  · intro hm
    obtain ⟨hlt, hgt⟩ := hodd hm
    exact ⟨(lt_div_iff₀ hpow).2 (hbelow.trans_lt hlt), (div_lt_iff₀ hpow).2 hgt⟩

/-! ## Mantissas with their lost bits -/

/-- What is left of the value has this mantissa, and the bits that were lost are on the side of a
half that the extended mantissa tells. -/
def Represents (em : ExtendedMantissa) (x : ℚ) : Prop :=
  match em.accuracy with
  | .exact => x = em.mantissa
  | .inexact .lt => em.mantissa < x ∧ x < em.mantissa + 1 / 2
  | .inexact .eq => x = em.mantissa + 1 / 2
  | .inexact .gt => em.mantissa + 1 / 2 < x ∧ x < em.mantissa + 1

variable {em : ExtendedMantissa}

/-- A fraction is represented by its whole part and two bits for what is left. -/
theorem represents_fraction (n : ℕ) {d : ℕ} (hd : 0 < d) :
    Represents (.ofMantissaAndAccuracy (n / d) (accuracyOfFraction (n % d) d)) (n / d) := by
  have hd' : (0 : ℚ) < d := by exact_mod_cast hd
  have hrest : n % d < d := Nat.mod_lt n hd
  have hvalue : (n : ℚ) / d = (n / d : ℕ) + (n % d : ℕ) / d := by
    have hsplit : (n : ℚ) = (n / d : ℕ) * d + (n % d : ℕ) := by
      exact_mod_cast (Nat.div_add_mod' n d).symm
    conv_lhs => rw [hsplit, add_div, mul_div_cancel_right₀ _ hd'.ne']
  rw [hvalue]
  generalize n / d = q
  generalize n % d = r at *
  have hr : (r : ℚ) / d < 1 := by
    rw [div_lt_one hd']
    exact_mod_cast hrest
  unfold accuracyOfFraction
  split
  next hzero =>
    subst hzero
    simp [Represents, ExtendedMantissa.ofMantissaAndAccuracy, ExtendedMantissa.accuracy]
  next hzero =>
    have hpos : (0 : ℚ) < r / d := by
      have : (0 : ℚ) < r := by exact_mod_cast Nat.pos_of_ne_zero hzero
      exact div_pos this hd'
    rcases lt_trichotomy (2 * r) d with hside | hside | hside
    · have hhalf : (r : ℚ) / d < 1 / 2 := by
        rw [div_lt_div_iff₀ hd' two_pos]
        exact_mod_cast (by omega : r * 2 < 1 * d)
      rw [compare_lt_iff_lt.2 hside]
      exact ⟨by change (q : ℚ) < _; linarith, by change _ < (q : ℚ) + 1 / 2; linarith⟩
    · have hhalf : (r : ℚ) / d = 1 / 2 := by
        rw [div_eq_div_iff hd'.ne' two_ne_zero]
        exact_mod_cast (by omega : r * 2 = 1 * d)
      rw [compare_eq_iff_eq.2 hside, hhalf]
      rfl
    · have hhalf : 1 / 2 < (r : ℚ) / d := by
        rw [div_lt_div_iff₀ two_pos hd']
        exact_mod_cast (by omega : 1 * d < r * 2)
      rw [compare_gt_iff_gt.2 hside]
      exact ⟨by change (q : ℚ) + 1 / 2 < _; linarith, by change _ < (q : ℚ) + 1; linarith⟩

/-- To shift by one bit keeps what is represented, up to the factor two: no bit is lost without a
trace. -/
theorem Represents.shiftRightOne (h : Represents em x) : Represents em.shiftRightOne (x / 2) := by
  obtain ⟨m, r, s⟩ := em
  have hcast : (m : ℚ) = 2 * (m / 2 : ℕ) + (m % 2 : ℕ) := by
    exact_mod_cast (Nat.div_add_mod m 2).symm
  rcases Nat.mod_two_eq_zero_or_one m with hm | hm <;> rw [hm] at hcast <;> cases r <;> cases s <;>
    simp [Represents, ExtendedMantissa.accuracy, ExtendedMantissa.shiftRightOne, hm] at h ⊢ <;>
    push_cast at hcast <;> grind

/-- The same holds of a shift by any number of bits. -/
theorem Represents.shiftRight (h : Represents em x) (k : ℕ) :
    Represents (em >>> k) (x / 2 ^ k) := by
  change Represents (k.repeat ExtendedMantissa.shiftRightOne em) _
  induction k with
  | zero => simpa [Nat.repeat] using h
  | succ k ih =>
    rw [Nat.repeat, pow_succ, ← div_div]
    exact ih.shiftRightOne

/-- What is near a natural is rounded to it. -/
theorem Represents.roundedMantissa_eq (h : Represents em x) (hnear : IsNear x m) :
    em.roundedMantissa = m := by
  obtain ⟨hlow, hhigh, hodd⟩ := hnear
  unfold ExtendedMantissa.roundedMantissa
  unfold Represents at h
  generalize em.mantissa = q at *
  have hle {a b : ℕ} (h : (a : ℚ) < b + 1) : a ≤ b := Nat.le_of_lt_succ (by exact_mod_cast h)
  -- each case bounds the natural from both sides, by the mantissa or the next one
  generalize em.accuracy = acc at *
  rcases acc with _ | _ | _ | _
  case exact =>
    change x = q at h
    change q = m
    exact Nat.le_antisymm (hle (by linarith)) (hle (by linarith))
  case inexact.lt =>
    obtain ⟨hlt, hgt⟩ := h
    change q = m
    exact Nat.le_antisymm (hle (by linarith)) (hle (by linarith))
  case inexact.eq =>
    change x = q + 1 / 2 at h
    have heven : m % 2 = 0 := by
      refine (Nat.mod_two_eq_zero_or_one m).resolve_right fun hm ↦ ?_
      obtain ⟨hlow, hhigh⟩ := hodd hm
      have hmq : m ≤ q := hle (by linarith)
      have hqm : q + 1 ≤ m := hle (by push_cast; linarith)
      omega
    have hqm : q ≤ m := hle (by linarith)
    have hmq : m ≤ q + 1 := hle (by push_cast; linarith)
    change q + q % 2 = m
    omega
  case inexact.gt =>
    obtain ⟨hlt, hgt⟩ := h
    change q + 1 = m
    exact Nat.le_antisymm (hle (by push_cast; linarith)) (hle (by push_cast; linarith))

/-! ## Rounding -/

section Rounding

variable {M k : ℕ} {E t : ℤ} {acc : Accuracy} {s : Sign}

/-- The leading bit of the mantissa is the one of the value. -/
theorem log2_add_lt (hM : M ≠ 0) (hv : (M : ℚ) * 2 ^ E ≤ v) (hlt : v < 2 ^ t) :
    (M.log2 : ℤ) + E < t := by
  have hlog : ((2 ^ M.log2 : ℕ) : ℚ) ≤ M := by exact_mod_cast Nat.log2_self_le hM
  rw [← zpow_lt_zpow_iff_right₀ (one_lt_two : (1 : ℚ) < 2), zpow_add₀ two_ne_zero, zpow_natCast]
  push_cast at hlog
  calc (2 : ℚ) ^ M.log2 * 2 ^ E
      ≤ M * 2 ^ E := mul_le_mul_of_nonneg_right hlog (zpow_nonneg two_pos.le E)
    _ ≤ v := hv
    _ < 2 ^ t := hlt

/-- The exponent of a value is no greater than that of what represents it. -/
theorem le_log2_add (hv : v < (M + 1 : ℚ) * 2 ^ E) (hle : 2 ^ t ≤ v) : t ≤ (M.log2 : ℤ) + E := by
  have hlog : ((M + 1 : ℕ) : ℚ) ≤ (2 ^ (M.log2 + 1) : ℕ) := by exact_mod_cast Nat.lt_log2_self
  refine Int.lt_add_one_iff.1 ?_
  rw [← zpow_lt_zpow_iff_right₀ (one_lt_two : (1 : ℚ) < 2), Int.add_right_comm,
    zpow_add₀ two_ne_zero, ← Nat.cast_add_one, zpow_natCast]
  push_cast at hlog
  calc (2 : ℚ) ^ t ≤ v := hle
    _ < (M + 1) * 2 ^ E := hv
    _ ≤ 2 ^ (M.log2 + 1) * 2 ^ E := mul_le_mul_of_nonneg_right hlog (zpow_nonneg two_pos.le E)

/-- The exponent at which a value of 53 bits is rounded.  The value may be given at any exponent
that leaves enough bits. -/
theorem target_eq {n d : ℕ} (hd : 0 < d) (hE : E ≤ -1074 ∨ 2 ^ 52 ≤ n / d) (ht : -1074 ≤ t)
    (hlt : (n / d * 2 ^ E : ℚ) < 2 ^ (53 + t))
    (hge : (2 : ℚ) ^ (52 + t) ≤ n / d * 2 ^ E ∨ t = -1074) (acc : Accuracy) :
    (shiftToTargetExponent .binary64 (n / d) E acc).2 = t := by
  have hpow : (0 : ℚ) < 2 ^ E := zpow_pos two_pos E
  have hfloor : ((n / d : ℕ) : ℚ) * 2 ^ E ≤ n / d * 2 ^ E :=
    mul_le_mul_of_nonneg_right Nat.cast_div_le hpow.le
  have hceil : (n / d * 2 ^ E : ℚ) < ((n / d : ℕ) + 1 : ℚ) * 2 ^ E := by
    refine mul_lt_mul_of_pos_right ?_ hpow
    rw [div_lt_iff₀ (by exact_mod_cast hd)]
    exact_mod_cast (Nat.lt_mul_div_succ n hd).trans_eq (Nat.mul_comm ..)
  have hlog : ((n / d).log2 : ℤ) + E < 53 + t := by
    by_cases hM : n / d = 0
    · rw [hM] at hE ⊢
      have hsmall : E ≤ -1074 := hE.resolve_right (by decide)
      change 0 + E < 53 + t
      omega
    · exact log2_add_lt hM hfloor hlt
  have hleading : E ≤ -1074 ∨ 52 ≤ (n / d).log2 :=
    hE.imp_right fun h ↦ (Nat.le_log2 (by omega)).2 h
  have hleast : 52 + t ≤ ((n / d).log2 : ℤ) + E ∨ t = -1074 := hge.imp_left (le_log2_add hceil)
  rw [snd_shiftToTargetExponent]
  omega

/-- After the shift to the exponent of the result, a mantissa still represents the quotient. -/
theorem represents_shiftToTargetExponent (n : ℕ) {d : ℕ} (hd : 0 < d) (E : ℤ) :
    Represents
      (shiftToTargetExponent .binary64 (n / d) E (accuracyOfFraction (n % d) d)).1
      (n / d * 2 ^ E /
        2 ^ (shiftToTargetExponent .binary64 (n / d) E (accuracyOfFraction (n % d) d)).2) := by
  unfold shiftToTargetExponent shiftToExponent
  dsimp only
  rw [zpow_add₀ two_ne_zero, zpow_natCast, mul_comm _ ((2 : ℚ) ^ E),
    mul_div_mul_left _ _ (zpow_ne_zero E two_ne_zero)]
  exact (represents_fraction n hd).shiftRight _

/-- At the exponent at which a value is rounded, it is rounded to the mantissa that it is near. -/
theorem roundedMantissa_of_isNear {n d : ℕ} (hd : 0 < d)
    (htarget : (shiftToTargetExponent .binary64 (n / d) E (accuracyOfFraction (n % d) d)).2 = t)
    (hnear : IsNear (n / d * 2 ^ E / 2 ^ t) m) :
    (shiftToTargetExponent .binary64 (n / d) E
      (accuracyOfFraction (n % d) d)).1.roundedMantissa = m := by
  subst htarget
  exact (represents_shiftToTargetExponent n hd E).roundedMantissa_eq hnear

/-- A mantissa of at most 53 bits stays as it is. -/
theorem shiftToTargetExponent_canonical (h : Canonical m e) :
    (shiftToTargetExponent .binary64 m e .exact).1.mantissa = m ∧
      (shiftToTargetExponent .binary64 m e .exact).2 = e := by
  have hexponent : (shiftToTargetExponent .binary64 m e .exact).2 = e := by
    have hlog := h.log2_le
    have hleast := h.le
    rw [snd_shiftToTargetExponent]
    omega
  refine ⟨?_, hexponent⟩
  rw [fst_shiftToTargetExponent, hexponent, Int.sub_self]
  exact Nat.div_one m

/-- The mantissa `2 ^ 53` is one bit too long. -/
theorem shiftToTargetExponent_carry (h : -1074 < e) :
    (shiftToTargetExponent .binary64 (2 ^ 53) (e - 1) .exact).1.mantissa = 2 ^ 52 ∧
      (shiftToTargetExponent .binary64 (2 ^ 53) (e - 1) .exact).2 = e := by
  have hexponent : (shiftToTargetExponent .binary64 (2 ^ 53) (e - 1) .exact).2 = e := by
    rw [snd_shiftToTargetExponent, Nat.log2_two_pow]
    omega
  refine ⟨?_, hexponent⟩
  rw [fst_shiftToTargetExponent, hexponent, Int.sub_sub_self]
  rfl

/-- What comes out of rounding, if what comes out of its last shift is known. -/
theorem roundWithAccuracy_of_shift (hm : 0 < m)
    (h : (shiftToTargetExponent .binary64
      (shiftToTargetExponent .binary64 M E acc).1.roundedMantissa
      (shiftToTargetExponent .binary64 M E acc).2 .exact).1.mantissa = m ∧
      (shiftToTargetExponent .binary64
      (shiftToTargetExponent .binary64 M E acc).1.roundedMantissa
      (shiftToTargetExponent .binary64 M E acc).2 .exact).2 = e) :
    roundWithAccuracy .binary64 s M E acc = .finite s m e hm := by
  obtain ⟨rfl, rfl⟩ := h
  exact dif_neg hm.ne'

/-- A value that rounds to a double does not need a greater exponent than the double. -/
theorem RoundsTo.lt (h : RoundsTo v m e) (hc : Canonical m e) : v < 2 ^ (53 + e) := by
  have hbits : (m : ℚ) + 1 ≤ 2 ^ (53 : ℤ) := by exact_mod_cast hc.lt
  have hhigh := h.isNear.high
  rw [zpow_add₀ two_ne_zero, ← div_lt_iff₀ (zpow_pos two_pos e)]
  linarith

/-- A value that is below a power of two and yet rounds to it. -/
theorem RoundsTo.below_power (h : RoundsTo v m e) (hc : Canonical m e) (hv : v < 2 ^ (52 + e))
    (he : e ≠ -1074) : m = 2 ^ 52 ∧ (2 ^ 53 - 1 / 2 : ℚ) * 2 ^ (e - 1) ≤ v := by
  have hm : m = 2 ^ 52 := by
    refine Nat.le_antisymm (Nat.le_of_lt_succ ?_) (hc.normal.resolve_right he)
    have hlt : v / 2 ^ e < 2 ^ 52 := by
      rw [div_lt_iff₀ (zpow_pos two_pos e), ← zpow_natCast, ← zpow_add₀ two_ne_zero]
      exact hv
    have hlow := h.isNear.low
    exact_mod_cast (by linarith : (m : ℚ) < 2 ^ 52 + 1)
  refine ⟨hm, le_trans (le_of_eq ?_) h.low⟩
  have hgap : gapBelow m e = 1 := if_pos ⟨hm, lt_of_le_of_ne hc.le (Ne.symm he)⟩
  rw [hgap, hm, zpow_sub₀ two_ne_zero, zpow_sub₀ two_ne_zero]
  norm_num
  ring

/-- A value in the interval of a double is rounded to it.  The exponent at which the value is given
has to leave enough bits. -/
theorem roundWithAccuracy_eq {n d : ℕ} (hd : 0 < d) (hm : 0 < m) (hc : Canonical m e)
    (h : RoundsTo (n / d * 2 ^ E) m e) (hE : E ≤ -1074 ∨ 2 ^ 52 ≤ n / d) :
    roundWithAccuracy .binary64 s (n / d) E (accuracyOfFraction (n % d) d) =
      .finite s m e hm := by
  apply roundWithAccuracy_of_shift hm
  have hleast := hc.le
  by_cases hcase : (n / d * 2 ^ E : ℚ) < 2 ^ (52 + e) ∧ e ≠ -1074
  · -- rounding carries to the mantissa `2 ^ 53` at the exponent below
    obtain ⟨hlt, he⟩ := hcase
    obtain ⟨rfl, hlow⟩ := h.below_power hc hlt he
    have hhalf : (0 : ℚ) < 2 ^ (e - 1) := zpow_pos two_pos _
    have hlt' : (n / d * 2 ^ E : ℚ) < 2 ^ (53 + (e - 1)) := by
      rwa [show 53 + (e - 1) = 52 + e by omega]
    have hge : (2 : ℚ) ^ (52 + (e - 1)) ≤ n / d * 2 ^ E := by
      refine le_trans ?_ hlow
      rw [zpow_add₀ two_ne_zero]
      exact mul_le_mul_of_nonneg_right (by norm_num) hhalf.le
    have hnear : IsNear (n / d * 2 ^ E / 2 ^ (e - 1)) (2 ^ 53) := by
      rw [zpow_add₀ two_ne_zero, ← div_lt_iff₀ hhalf] at hlt'
      rw [← le_div_iff₀ hhalf] at hlow
      constructor
      · exact_mod_cast hlow
      · push_cast
        norm_num at hlt'
        linarith
      · exact fun hodd ↦ absurd hodd (by decide)
    have htarget := target_eq hd hE (by omega) hlt' (.inl hge) (accuracyOfFraction (n % d) d)
    rw [roundedMantissa_of_isNear hd htarget hnear, htarget]
    exact shiftToTargetExponent_carry (lt_of_le_of_ne hleast (Ne.symm he))
  · have hge : (2 : ℚ) ^ (52 + e) ≤ n / d * 2 ^ E ∨ e = -1074 := by
      by_cases he : e = -1074
      · exact .inr he
      · exact .inl (not_lt.1 fun hlt ↦ hcase ⟨hlt, he⟩)
    have htarget := target_eq hd hE hleast (h.lt hc) hge (accuracyOfFraction (n % d) d)
    rw [roundedMantissa_of_isNear hd htarget h.isNear, htarget]
    exact shiftToTargetExponent_canonical hc

end Rounding

end Rearrangement.Binary64
