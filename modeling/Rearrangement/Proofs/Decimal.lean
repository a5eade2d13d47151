import Rearrangement.Decimal
import Rearrangement.Proofs.Binary64.Nearest

/-!
# The shortest decimal reads back

The decimal that is written for a double lies in the interval of the double (`roundsTo_digits`), so
that it is read back as the same double, however it is rounded on the way.

What the search takes is in the interval by the test it has passed; what has to be shown is that it
finds something.  Seventeen digits are fine enough: a step between two decimals of that many digits
is at most `10 ^ -16` of the double, so that of the two next to the double, the nearer one is in the
interval.

That the decimal is as short as can be is not needed, and is not said here.

## Main statements

* `lt_pow_length`, `pow_length_le`: the number of digits of a natural.
* `roundsTo_of_holds`, `holds_of_lt`: what the test of the search means.
* `holds_or_holds`: of two neighbours on a fine grid, the nearer one passes it.
* `roundsTo_digits`: the decimal that is found is in the interval.
-/

namespace Rearrangement.Decimal

/-! ## Decimal digits

What is written of a natural in decimal digits: the first of them is no zero, unless the natural is,
and their number tells between which powers of ten the natural lies. -/

theorem isDigit_of_mem_digitsOf {n : Nat} {c : Char} (h : c ∈ digitsOf n) : c.isDigit = true :=
  Nat.isDigit_of_mem_toDigits (by decide) (by decide) h

theorem digitsOf_ne_nil (n : Nat) : digitsOf n ≠ [] := Nat.toDigits_ne_nil

/-- Only zero begins with the digit zero. -/
theorem head?_digitsOf {n : Nat} (hn : 0 < n) : (digitsOf n).head? ≠ some '0' := by
  induction n using Nat.strongRecOn with
  | ind n ih =>
    unfold digitsOf
    rw [Nat.toDigits_eq_if (by decide)]
    split
    next hlt =>
      intro h
      have hzero : n = 0 := Nat.digitChar_eq_zero.1 (Option.some.inj h)
      omega
    next hge =>
      have hquotient := ih (n / 10) (Nat.div_lt_self hn (by decide)) (by omega)
      rw [List.head?_append, List.head?_eq_some_head Nat.toDigits_ne_nil, Option.some_or,
        ← List.head?_eq_some_head]
      exact hquotient

theorem length_pos {n : Nat} (hn : 0 < n) : 0 < length n := by
  rw [length, if_neg (by omega)]
  exact Nat.length_toDigits_pos

/-- A number has enough digits. -/
theorem lt_pow_length (n : Nat) : n < 10 ^ length n := by
  by_cases hn : n = 0
  · subst hn
    decide
  · rw [length, if_neg hn]
    exact (Nat.length_toDigits_le_iff (by decide) Nat.length_toDigits_pos).1 (Nat.le_refl _)

/-- It has no more of them than it needs. -/
theorem pow_length_le {n : Nat} (hn : 0 < n) : 10 ^ (length n - 1) ≤ n := by
  rw [length, if_neg (by omega)]
  by_cases hone : (Nat.toDigits 10 n).length = 1
  · rw [hone]
    exact hn
  · have hpos := Nat.length_toDigits_pos (b := 10) (n := n)
    refine Nat.not_lt.1 fun hlt ↦ ?_
    have hle := (Nat.length_toDigits_le_iff (b := 10) (by decide) (by omega)).2 hlt
    omega

/-! ## The shortest decimal -/

open Binary64

/-! ### Intervals -/

/-- A power is a quotient of naturals. -/
theorem zpow_eq_div {b : ℕ} (hb : 0 < b) (k : ℤ) :
    (b : ℚ) ^ k = (b ^ k.toNat : ℕ) / (b ^ (-k).toNat : ℕ) := by
  have hb' : (b : ℚ) ≠ 0 := by exact_mod_cast hb.ne'
  rcases le_total 0 k with hk | hk
  · rw [Int.toNat_eq_zero.2 (Int.neg_nonpos_of_nonneg hk), pow_zero, Nat.cast_one, div_one,
      Nat.cast_pow, ← zpow_natCast, Int.toNat_of_nonneg hk]
  · rw [Int.toNat_eq_zero.2 hk, pow_zero, Nat.cast_one, Nat.cast_pow, ← zpow_natCast,
      Int.toNat_of_nonneg (Int.neg_nonneg_of_nonpos hk), zpow_neg, one_div, inv_inv]

section Interval

variable {m : ℕ} {e : ℤ} {n num unit : ℕ}

theorem two_zpow_sub (e : ℤ) :
    (2 : ℚ) ^ (e - 2) = (2 ^ (e - 2).toNat : ℕ) / (2 ^ (2 - e).toNat : ℕ) := by
  rw [← Int.neg_sub e 2]
  exact_mod_cast zpow_eq_div two_pos (e - 2)

/-- The lower end of the interval of a double is halfway to the double below. -/
theorem around_low (hm : 0 < m) (e : ℤ) :
    ((Interval.around m e).low / (Interval.around m e).den : ℚ) =
      (4 * m - gapBelow m e) * 2 ^ (e - 2) := by
  have hgap := gapBelow_le m e
  change (((4 * m - gapBelow m e) * 2 ^ (e - 2).toNat : ℕ) / (2 ^ (2 - e).toNat : ℕ) : ℚ) = _
  rw [two_zpow_sub, Nat.cast_mul, Nat.cast_sub (by omega), mul_div_assoc]
  push_cast
  rfl

/-- The upper end is halfway to the double above. -/
theorem around_high (m : ℕ) (e : ℤ) :
    ((Interval.around m e).high / (Interval.around m e).den : ℚ) = (4 * m + 2) * 2 ^ (e - 2) := by
  change (((4 * m + 2) * 2 ^ (e - 2).toNat : ℕ) / (2 ^ (2 - e).toNat : ℕ) : ℚ) = _
  rw [two_zpow_sub, Nat.cast_mul, mul_div_assoc]
  push_cast
  rfl

/-- Between them lies the double itself. -/
theorem around_value (m : ℕ) (e : ℤ) :
    ((Interval.around m e).value / (Interval.around m e).den : ℚ) = m * 2 ^ e := by
  change ((4 * m * 2 ^ (e - 2).toNat : ℕ) / (2 ^ (2 - e).toNat : ℕ) : ℚ) = _
  rw [Nat.cast_mul, mul_div_assoc, ← two_zpow_sub, quarter_zpow]
  push_cast
  ring

theorem den_pos (m : ℕ) (e : ℤ) : 0 < (Interval.around m e).den := Nat.two_pow_pos _

theorem value_pos (hm : 0 < m) (e : ℤ) : 0 < (Interval.around m e).value :=
  Nat.mul_pos (Nat.mul_pos (by decide) hm) (Nat.two_pow_pos _)

/-- The point of the grid that `holds` speaks of is on this side of an end of the interval. -/
theorem end_le_iff {a d : ℕ} (hd : 0 < d) (hunit : 0 < unit) :
    (a / d : ℚ) ≤ n * (num / unit) ↔ a * unit ≤ n * num * d := by
  rw [← mul_div_assoc, div_le_div_iff₀ (by exact_mod_cast hd) (by exact_mod_cast hunit)]
  norm_cast

/-- Decimals and ends of intervals are compared without division. -/
theorem le_end_iff {a d : ℕ} (hd : 0 < d) (hunit : 0 < unit) :
    (n * (num / unit) : ℚ) ≤ a / d ↔ n * num * d ≤ a * unit := by
  rw [← mul_div_assoc, div_le_div_iff₀ (by exact_mod_cast hunit) (by exact_mod_cast hd)]
  norm_cast

/-- The quotient is between two neighbours on the grid. -/
theorem between_grid {a d : ℕ} (hd : 0 < d) (hnum : 0 < num) (hunit : 0 < unit) :
    ((a * unit / (d * num) : ℕ) * (num / unit) : ℚ) ≤ a / d ∧
      (a / d : ℚ) < (a * unit / (d * num) + 1 : ℕ) * (num / unit) := by
  constructor
  · rw [le_end_iff hd hunit, Nat.mul_assoc, Nat.mul_comm num]
    exact Nat.div_mul_le_self ..
  · refine not_le.1 fun hle ↦ absurd ((le_end_iff hd hunit).1 hle) (not_le_of_gt ?_)
    rw [Nat.mul_assoc, Nat.mul_comm num, Nat.mul_comm (_ + 1)]
    exact Nat.lt_mul_div_succ _ (Nat.mul_pos hd hnum)

/-- What lies in the interval of a double is rounded to it. -/
theorem roundsTo_of_holds (hm : 0 < m) (hunit : 0 < unit)
    (h : (Interval.around m e).holds n num unit = true) : RoundsTo (n * (num / unit)) m e := by
  have hd := den_pos m e
  unfold Interval.holds at h
  dsimp only at h
  split at h
  next heven =>
    obtain ⟨hlow, hhigh⟩ := of_decide_eq_true h
    refine ⟨?_, ?_, fun hodd ↦ ?_⟩
    · rw [← around_low hm]
      exact (end_le_iff hd hunit).2 hlow
    · rw [← around_high]
      exact (le_end_iff hd hunit).2 hhigh
    · have heven : m % 2 = 0 := of_decide_eq_true heven
      omega
  next =>
    obtain ⟨hlow, hhigh⟩ := of_decide_eq_true h
    have hlow' : (4 * m - gapBelow m e : ℚ) * 2 ^ (e - 2) < n * (num / unit) := by
      rw [← around_low hm]
      exact not_le.1 fun hle ↦ absurd ((le_end_iff hd hunit).1 hle) (not_le_of_gt hlow)
    have hhigh' : (n * (num / unit) : ℚ) < (4 * m + 2) * 2 ^ (e - 2) := by
      rw [← around_high]
      exact not_le.1 fun hle ↦ absurd ((end_le_iff hd hunit).1 hle) (not_le_of_gt hhigh)
    exact ⟨hlow'.le, hhigh'.le, fun _ ↦ ⟨hlow', hhigh'⟩⟩

/-- What lies strictly between the ends is in the interval. -/
theorem holds_of_lt (hm : 0 < m) (hunit : 0 < unit)
    (hlow : (4 * m - gapBelow m e : ℚ) * 2 ^ (e - 2) < n * (num / unit))
    (hhigh : (n * (num / unit) : ℚ) < (4 * m + 2) * 2 ^ (e - 2)) :
    (Interval.around m e).holds n num unit = true := by
  have hd := den_pos m e
  rw [← around_low hm] at hlow
  rw [← around_high] at hhigh
  have hlow' : (Interval.around m e).low * unit < n * num * (Interval.around m e).den :=
    not_le.1 fun hle ↦ absurd ((le_end_iff hd hunit).2 hle) (not_le_of_gt hlow)
  have hhigh' : n * num * (Interval.around m e).den < (Interval.around m e).high * unit :=
    not_le.1 fun hle ↦ absurd ((end_le_iff hd hunit).2 hle) (not_le_of_gt hhigh)
  unfold Interval.holds
  dsimp only
  split
  · exact decide_eq_true ⟨hlow'.le, hhigh'.le⟩
  · exact decide_eq_true ⟨hlow', hhigh'⟩

end Interval

/-! ### The magnitude -/

/-- The order of magnitude of a fraction is not too large. -/
theorem pow_magnitude_le {num den : ℕ} (hnum : 0 < num) (hden : 0 < den) :
    (10 : ℚ) ^ (magnitude num den - 1) ≤ num / den := by
  have hden' : (0 : ℚ) < den := by exact_mod_cast hden
  rw [le_div_iff₀ hden', magnitude]
  split
  next hle =>
    have hq : 0 < num / den := Nat.div_pos hle hden
    have hlength := length_pos hq
    have hpow : ((length (num / den) : ℤ) - 1) = (length (num / den) - 1 : ℕ) := by omega
    rw [hpow, zpow_natCast]
    exact_mod_cast (Nat.mul_le_mul_right den (pow_length_le hq)).trans (Nat.div_mul_le_self num den)
  next hlt =>
    rw [show (1 - (length ((den - 1) / num) : ℤ) - 1) = -(length ((den - 1) / num) : ℤ) by omega,
      zpow_neg, zpow_natCast, inv_mul_le_iff₀ (pow_pos (by norm_num) _)]
    have hq := lt_pow_length ((den - 1) / num)
    have hstep : den ≤ 10 ^ length ((den - 1) / num) * num := by
      calc den ≤ ((den - 1) / num + 1) * num := by
            have := Nat.lt_mul_div_succ (den - 1) hnum
            rw [Nat.mul_comm] at this
            omega
        _ ≤ _ := Nat.mul_le_mul_right num hq
    exact_mod_cast hstep

/-! ### The search -/

section Search

variable {m count : ℕ} {e top k : ℤ} {d : Digits}

/-- The decimal as a rational. -/
def Digits.value (d : Digits) : ℚ := d.significand * 10 ^ d.exponent

theorem ten_zpow_eq (k : ℤ) : (10 : ℚ) ^ k = (10 ^ k.toNat : ℕ) / (10 ^ (-k).toNat : ℕ) := by
  exact_mod_cast zpow_eq_div (b := 10) (by decide) k

/-- What is taken has passed the test. -/
theorem roundsTo_of_pick? (hm : 0 < m) (h : pick? (.around m e) top count = some d) :
    RoundsTo d.value m e := by
  have hgrid {n : ℕ} (hn : (Interval.around m e).holds n (10 ^ (top - count).toNat)
      (10 ^ (-(top - count)).toNat) = true) : RoundsTo (n * 10 ^ (top - count)) m e := by
    rw [ten_zpow_eq]
    exact roundsTo_of_holds hm (Nat.pow_pos (by decide)) hn
  unfold pick? at h
  dsimp only at h
  split at h
  next hbelow habove =>
    cases h
    unfold Digits.value
    dsimp only
    split
    · exact hgrid hbelow
    · exact hgrid habove
  next hbelow _ =>
    cases h
    exact hgrid hbelow
  next _ habove =>
    cases h
    exact hgrid habove
  next => cases h

/-- Seventeen digits tell a double from its neighbours. -/
theorem two_mul_lt_gapBelow (hbits : m < 2 ^ 53) (e : ℤ) : 2 * m < gapBelow m e * 10 ^ 16 := by
  unfold gapBelow
  split <;> omega

/-- Half a step of a fine grid is less than the distance to either end of the interval. -/
theorem step_lt {g : ℚ} (hbits : m < 2 ^ 53) (hg : g * 10 ^ 16 ≤ m * 2 ^ e) :
    g / 2 < gapBelow m e * 2 ^ (e - 2) ∧ g / 2 < 2 * 2 ^ (e - 2) := by
  have hpow : (0 : ℚ) < 2 ^ (e - 2) := zpow_pos two_pos _
  have hgap : (2 * m : ℚ) < gapBelow m e * 10 ^ 16 := by exact_mod_cast two_mul_lt_gapBelow hbits e
  have hle : (gapBelow m e : ℚ) ≤ 2 := by exact_mod_cast gapBelow_le m e
  have hvalue : (m * 2 ^ e : ℚ) = 2 * (2 * m) * 2 ^ (e - 2) := by
    rw [quarter_zpow]
    ring
  rw [hvalue] at hg
  have hlow : g / 2 < gapBelow m e * 2 ^ (e - 2) := by
    have := mul_lt_mul_of_pos_right hgap hpow
    linarith
  exact ⟨hlow, hlow.trans_le (mul_le_mul_of_nonneg_right hle hpow.le)⟩

/-- Of two neighbours on a fine grid, one on either side of the double, the nearer one is in the
interval. -/
theorem holds_or_holds {n num unit : ℕ} (hm : 0 < m) (hunit : 0 < unit)
    (hbelow : (n * (num / unit) : ℚ) ≤ m * 2 ^ e)
    (habove : (m * 2 ^ e : ℚ) < (n + 1 : ℕ) * (num / unit))
    (hlow : (num / unit : ℚ) / 2 < gapBelow m e * 2 ^ (e - 2))
    (hhigh : (num / unit : ℚ) / 2 < 2 * 2 ^ (e - 2)) :
    (Interval.around m e).holds n num unit = true ∨
      (Interval.around m e).holds (n + 1) num unit = true := by
  have hvalue : (m * 2 ^ e : ℚ) = 4 * m * 2 ^ (e - 2) := by
    rw [quarter_zpow]
    ring
  have hpow : (0 : ℚ) < 2 ^ (e - 2) := zpow_pos two_pos _
  have hgap : (0 : ℚ) ≤ gapBelow m e * 2 ^ (e - 2) := mul_nonneg (Nat.cast_nonneg _) hpow.le
  rw [hvalue] at hbelow habove
  have habove' : (4 * m * 2 ^ (e - 2) : ℚ) < n * (num / unit) + num / unit := by
    push_cast at habove
    linarith
  rcases le_total (4 * m * 2 ^ (e - 2) - n * (num / unit) : ℚ) (num / unit / 2) with hnear | hnear
  · left
    apply holds_of_lt hm hunit <;> linarith
  · right
    apply holds_of_lt hm hunit <;> push_cast <;> linarith

/-- With seventeen digits something is found. -/
theorem pick?_ne_none (hm : 0 < m) (hbits : m < 2 ^ 53) (htop : (10 : ℚ) ^ (top - 1) ≤ m * 2 ^ e) :
    pick? (.around m e) top 17 ≠ none := by
  have hstep : (10 : ℚ) ^ (top - (17 : ℕ)) * 10 ^ 16 ≤ m * 2 ^ e := by
    refine le_of_eq_of_le ?_ htop
    rw [← zpow_natCast, ← zpow_add₀ (by norm_num)]
    congr 1
    push_cast
    ring
  obtain ⟨hlow, hhigh⟩ := step_lt hbits hstep
  rw [ten_zpow_eq] at hlow hhigh
  have hnum : 0 < 10 ^ (top - (17 : ℕ)).toNat := Nat.pow_pos (by decide)
  have hunit : 0 < 10 ^ (-(top - (17 : ℕ))).toNat := Nat.pow_pos (by decide)
  obtain ⟨hbelow, habove⟩ :=
    between_grid (a := (Interval.around m e).value) (den_pos m e) hnum hunit
  rw [around_value] at hbelow habove
  have hfound := holds_or_holds hm hunit hbelow habove hlow hhigh
  intro h
  unfold pick? at h
  dsimp only at h
  split at h
  case h_4 hnot hnot' =>
    rw [hnot, hnot'] at hfound
    exact hfound.elim Bool.false_ne_true Bool.false_ne_true
  all_goals cases h

/-- Zeros that are taken off the end do not change what is written. -/
theorem strip_value (fuel : ℕ) (d : Digits) : (strip fuel d).value = d.value := by
  induction fuel generalizing d with
  | zero => rfl
  | succ fuel ih =>
    rw [strip]
    split
    next h =>
      have hten : (d.significand : ℚ) = (d.significand / 10 : ℕ) * 10 := by
        exact_mod_cast (Nat.div_mul_cancel (Nat.dvd_of_mod_eq_zero h.2)).symm
      rw [ih, Digits.value, Digits.value, hten, zpow_add₀ (by norm_num)]
      ring
    next => rfl

/-- The shortest decimal for a double is in the interval of the double. -/
theorem roundsTo_digits (hm : 0 < m) (hbits : m < 2 ^ 53) (e : ℤ) :
    RoundsTo (digits m e).value m e := by
  rw [digits, if_neg hm.ne']
  dsimp only
  rw [strip_value]
  have hfound : ((List.range 17).findSome? fun n ↦ pick? (.around m e)
      (magnitude (Interval.around m e).value (Interval.around m e).den) (n + 1)).isSome := by
    refine List.findSome?_isSome_iff.2 ⟨16, List.mem_range.2 (by decide), ?_⟩
    refine Option.isSome_iff_ne_none.2 (pick?_ne_none hm hbits ?_)
    rw [← around_value]
    exact pow_magnitude_le (value_pos hm e) (den_pos m e)
  obtain ⟨d, hd⟩ := Option.isSome_iff_exists.1 hfound
  rw [hd]
  obtain ⟨n, -, hpick⟩ := List.exists_of_findSome?_eq_some hd
  exact roundsTo_of_pick? hm hpick

end Search

end Rearrangement.Decimal
