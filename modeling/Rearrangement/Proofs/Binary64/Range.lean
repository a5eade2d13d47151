import Mathlib.Tactic.Ring
import Rearrangement.Proofs.Binary64.Order

/-!
# The range of doubles

Sums of numbers are numbers as long as one of the two is finite, and half of a finite double is
finite, as is its product with a factor below one.  The first is a matter of what the values are
(`isNumber_add`, `isNumber_sub`).  For the second, a value that is to be rounded must not need a
greater exponent than a double has: `Fits` bounds it one step below the least power of two that is
too large, so that rounding up stays in range (`Fits.isFinite`).

## Main statements

* `isNumber_add`, `isNumber_sub`: sums and differences with a finite value are numbers.
* `Fits.isFinite`: what fits is rounded to a finite double.
* `isFinite_half`, `isFinite_mul`: parts of a finite double are finite.

These are the laws that `RangedScalar` asks for.  A sum of two finite doubles may be infinite, so
nothing is said of it but that it is a number.
-/

namespace Rearrangement.Binary64

open Float.Model (UnpackedFloat Format totalExponent)
open Float.Model.UnpackedFloat
open Scalar

/-! ## Packing -/

/-- What is not packed with the greatest exponent of all is finite. -/
theorem isFinite_unpack {b : BitVec Format.binary64.numBits} (h : unpackExponent b ≠ -1#_) :
    (unpack .binary64 b).isFinite = true := by
  unfold unpack
  dsimp only
  rw [if_neg h]
  by_cases hzero : unpackExponent b = 0#_
  · rw [if_pos hzero]
    by_cases hmantissa : unpackMantissa b = 0#_
    · rw [dif_pos hmantissa]
      rfl
    · rw [dif_neg hmantissa]
      rfl
  · rw [if_neg hzero]
    rfl

/-- A value whose exponent is in range is packed as a finite double. -/
theorem unpackExponent_pack {s : Sign} {m : ℕ} {e : ℤ} (hm : 0 < m) (he : e ≤ 971) :
    unpackExponent (pack .binary64 (.finite s m e hm)) ≠ -1#_ := by
  have hbiased : (e + 1023 + 52).toNat < 2 ^ 11 - 1 := by omega
  unfold pack
  dsimp only
  rw [if_neg (by change ¬2 ^ 11 ≤ (e + 1023 + 52).toNat + 1; omega)]
  split
  · rw [unpackExponent_packComponents]
    intro hall
    have hnat : (e + 1023 + 52).toNat % 2 ^ 11 = 2 ^ 11 - 1 := congrArg BitVec.toNat hall
    omega
  · rw [unpackExponent_packComponents]
    decide

/-- A finite value is packed as one, if a double can have its exponent. -/
theorem isFinite_pack {s : Sign} {m : ℕ} {e : ℤ} (hm : 0 < m) (he : e ≤ 971) :
    (Float.Model.pack (.finite s m e hm)).unpack.isFinite = true :=
  isFinite_unpack (unpackExponent_pack hm he)

theorem isFinite_pack_zero (s : Sign) :
    (Float.Model.pack (.zero s)).unpack.isFinite = true := by
  cases s <;> decide

theorem isNaN_of_isFinite {u : UnpackedFloat} (h : u.isFinite = true) : u.isNaN = false := by
  cases u with
  | notANumber => cases h
  | infinity | zero | finite => rfl

/-- What is packed is a number if it was one. -/
theorem isNaN_pack {u : UnpackedFloat} (h : u.isNaN = false) :
    (Float.Model.pack u).unpack.isNaN = false := by
  cases u with
  | notANumber => cases h
  | infinity s => cases s <;> decide
  | zero s => cases s <;> decide
  | finite s m e hm =>
    by_cases he : e ≤ 971
    · exact isNaN_of_isFinite (isFinite_pack hm he)
    · have hlarge : pack .binary64 (.finite s m e hm) = packedInfinity .binary64 s :=
        if_pos (by change 2 ^ 11 ≤ (e + 1023 + 52).toNat + 1; omega)
      change (unpack .binary64 (pack .binary64 (.finite s m e hm))).isNaN = false
      rw [hlarge]
      cases s <;> decide

/-! ## Sums -/

/-- A double is a number unless it stands for none. -/
theorem isNumber_iff {x : Float} : IsNumber x ↔ x.toModel.unpack.isNaN = false := by
  rw [IsNumber, le_iff_rank, rankOf]
  rcases x.toModel.unpack with ⟨_ | _⟩ | _ | _ | ⟨_ | _, m, e, hm⟩
  case notANumber => exact iff_of_false nofun nofun
  all_goals exact iff_of_true ⟨_, rfl, _, rfl, le_rfl⟩ rfl

/-- Finite doubles are numbers. -/
theorem isNumber_of_isFinite {x : Float} (h : IsFinite x) : IsNumber x :=
  isNumber_iff.2 (isNaN_of_isFinite (isFinite_iff.1 h))

theorem unpacked_beq_self {u : UnpackedFloat} (h : u.isNaN = false) : u.beq u = true := by
  have hcompare (m : ℕ) (e : ℤ) : (compare e e).then (compare m m) = .eq := by
    rw [compare_eq_iff_eq.2 rfl, compare_eq_iff_eq.2 rfl]
    rfl
  rcases u with ⟨_ | _⟩ | _ | _ | ⟨_ | _, m, e, hm⟩
  case notANumber => cases h
  case finite.negative => exact congrArg (fun o : Ordering ↦ some o.swap == some .eq) (hcompare m e)
  case finite.positive => exact congrArg (fun o : Ordering ↦ some o == some .eq) (hcompare m e)
  all_goals rfl

/-- A number is equal to itself. -/
theorem beq_self {x : Float} (h : IsNumber x) : (x == x) = true :=
  unpacked_beq_self (isNumber_iff.1 h)

/-- Rounding comes to zero, or to the exponent that is left when the rounded mantissa has been
shifted once more. -/
theorem roundWithAccuracy_cases (s : Sign) (m : ℕ) (e : ℤ) (acc : Accuracy) :
    roundWithAccuracy .binary64 s m e acc = .zero s ∨
      ∃ m' hm, roundWithAccuracy .binary64 s m e acc = .finite s m'
        (shiftToTargetExponent .binary64 (shiftToTargetExponent .binary64 m e acc).1.roundedMantissa
          (shiftToTargetExponent .binary64 m e acc).2 .exact).2 hm := by
  by_cases hzero : (shiftToTargetExponent .binary64
      (shiftToTargetExponent .binary64 m e acc).1.roundedMantissa
      (shiftToTargetExponent .binary64 m e acc).2 .exact).1.mantissa = 0
  · exact .inl (dif_pos hzero)
  · exact .inr ⟨_, _, dif_neg hzero⟩

/-- Rounding never makes a number into none; at most it makes it infinite. -/
theorem isNaN_roundWithAccuracy (s : Sign) (m : ℕ) (e : ℤ) (acc : Accuracy) :
    (roundWithAccuracy .binary64 s m e acc).isNaN = false := by
  obtain h | ⟨m', hm, h⟩ := roundWithAccuracy_cases s m e acc
  all_goals
    rw [h]
    rfl

theorem isNaN_normalize (m e : ℤ) (s : Sign) :
    (UnpackedFloat.normalize .binary64 m e s).isNaN = false := by
  unfold UnpackedFloat.normalize
  split
  · exact isNaN_roundWithAccuracy _ _ _ _
  · rfl
  · exact isNaN_roundWithAccuracy _ _ _ _

/-- A finite value may be added to anything that is a number. -/
theorem isNaN_add {u v : UnpackedFloat} (hu : u.isNaN = false) (hv : v.isFinite = true) :
    (add .binary64 u v).isNaN = false := by
  cases u with
  | notANumber => cases hu
  | infinity s =>
    cases v with
    | notANumber | infinity => cases hv
    | zero | finite => rfl
  | zero s =>
    cases v with
    | notANumber | infinity => cases hv
    | zero s' => cases s <;> cases s' <;> rfl
    | finite => rfl
  | finite s m e hm =>
    cases v with
    | notANumber | infinity => cases hv
    | zero => rfl
    | finite => exact isNaN_normalize _ _ _

/-- To subtract is to add the negative. -/
theorem sub_eq_add_neg (u v : UnpackedFloat) : sub .binary64 u v = add .binary64 u v.neg := by
  cases v with
  | notANumber => cases u <;> rfl
  | infinity s' => cases u <;> rfl
  | zero s' => cases u <;> rfl
  | finite s' m' e' hm' =>
    cases u with
    | notANumber | infinity | zero => rfl
    | finite s m e hm =>
      cases s' with
      | positive => rfl
      | negative => exact congrArg (UnpackedFloat.normalize _ · _ _) (Int.sub_neg ..)

/-- A finite value taken from a number is a number. -/
theorem isNaN_sub {u v : UnpackedFloat} (hu : u.isNaN = false) (hv : v.isFinite = true) :
    (sub .binary64 u v).isNaN = false := by
  rw [sub_eq_add_neg]
  refine isNaN_add hu ?_
  cases v <;> exact hv

variable {x y : Float}

/-- Sums of numbers are numbers as long as one of the two is finite. -/
theorem isNumber_add (hx : IsNumber x) (hy : IsFinite y) : IsNumber (x + y) :=
  isNumber_iff.2 (isNaN_pack (isNaN_add (isNumber_iff.1 hx) (isFinite_iff.1 hy)))

/-- So are differences. -/
theorem isNumber_sub (hx : IsNumber x) (hy : IsFinite y) : IsNumber (x - y) :=
  isNumber_iff.2 (isNaN_pack (isNaN_sub (isNumber_iff.1 hx) (isFinite_iff.1 hy)))

/-! ## Rounding -/

section Rounding

variable {em : ExtendedMantissa} {m : ℕ} {e : ℤ} {acc : Accuracy} {s : Sign}

/-- A shift divides the mantissa and drops the rest. -/
theorem mantissa_shiftRight (em : ExtendedMantissa) (n : ℕ) :
    (em >>> n).mantissa = em.mantissa / 2 ^ n := by
  change (n.repeat ExtendedMantissa.shiftRightOne em).mantissa = _
  induction n with
  | zero => exact (Nat.div_one _).symm
  | succ n ih =>
    change (n.repeat ExtendedMantissa.shiftRightOne em).mantissa / 2 = _
    rw [ih, Nat.div_div_eq_div_mul, Nat.pow_succ]

theorem mantissa_shiftToExponent (m : ℕ) (e : ℤ) (acc : Accuracy) (t : ℤ) :
    (shiftToExponent m e acc t).1.mantissa = m / 2 ^ (t - e).toNat := by
  unfold shiftToExponent
  rw [mantissa_shiftRight]
  cases acc with
  | exact => rfl
  | inexact o => cases o <;> rfl

/-- Rounding adds at most one to the mantissa. -/
theorem roundedMantissa_le (em : ExtendedMantissa) : em.roundedMantissa ≤ em.mantissa + 1 := by
  obtain ⟨m, r, s⟩ := em
  cases r <;> cases s <;>
    simp only [ExtendedMantissa.roundedMantissa, ExtendedMantissa.accuracy,
      Accuracy.roundToNearestEven] <;> omega

/-- A value with this mantissa and exponent may be rounded and stays in range: it is below the
greatest double. -/
def Fits (m : ℕ) (e : ℤ) : Prop := e ≤ 971 ∧ m / 2 ^ (971 - e).toNat + 1 < 2 ^ 53

theorem log2_le {n : ℕ} (h : m < 2 ^ (n + 1)) : m.log2 ≤ n := by
  by_cases hm : m = 0
  · subst hm
    exact Nat.zero_le n
  · exact Nat.le_of_lt_succ ((Nat.log2_lt hm).2 h)

/-- The exponent to which a value is shifted, so that its mantissa has at most 53 bits. -/
theorem snd_shiftToTargetExponent (m : ℕ) (e : ℤ) (acc : Accuracy) :
    (shiftToTargetExponent .binary64 m e acc).2 = max e (max (m.log2 + 1 + e - 53) (-1074)) := by
  change e + ((max (m.log2 + 1 + e - 53) (-1074) - e).toNat : ℤ) = _
  omega

/-- The mantissa at the exponent of the result is a quotient by a power of two. -/
theorem fst_shiftToTargetExponent (m : ℕ) (e : ℤ) (acc : Accuracy) :
    (shiftToTargetExponent .binary64 m e acc).1.mantissa =
      m / 2 ^ ((shiftToTargetExponent .binary64 m e acc).2 - e).toNat := by
  have hshift : (shiftToTargetExponent .binary64 m e acc).2 - e =
      ((max (m.log2 + 1 + e - 53) (-1074) - e).toNat : ℤ) := by
    rw [snd_shiftToTargetExponent]
    omega
  rw [hshift, Int.toNat_natCast]
  exact mantissa_shiftToExponent _ _ _ _

/-- A mantissa is at most 53 bits long once it has been shifted. -/
theorem fst_shiftToTargetExponent_lt (m : ℕ) (e : ℤ) (acc : Accuracy) :
    (shiftToTargetExponent .binary64 m e acc).1.mantissa < 2 ^ 53 := by
  rw [fst_shiftToTargetExponent, snd_shiftToTargetExponent,
    Nat.div_lt_iff_lt_mul (Nat.two_pow_pos _), ← Nat.pow_add]
  refine Nat.lt_of_lt_of_le Nat.lt_log2_self (Nat.pow_le_pow_right Nat.two_pos ?_)
  omega

theorem Fits.log2_le (h : Fits m e) : m.log2 + e ≤ 1023 := by
  obtain ⟨he, hm⟩ := h
  have hlt : m < 2 ^ ((971 - e).toNat + 52 + 1) := by
    rw [Nat.add_assoc, Nat.pow_add, Nat.mul_comm, ← Nat.div_lt_iff_lt_mul (Nat.two_pow_pos _)]
    exact Nat.lt_of_succ_lt hm
  have hlog := Binary64.log2_le hlt
  omega

/-- Rounding a value that fits comes to no greater exponent than doubles have. -/
theorem Fits.exponent_le (h : Fits m e) :
    (shiftToTargetExponent .binary64
      (shiftToTargetExponent .binary64 m e acc).1.roundedMantissa
      (shiftToTargetExponent .binary64 m e acc).2 .exact).2 ≤ 971 := by
  have hlog := h.log2_le
  obtain ⟨he, hm⟩ := h
  have hexponent := snd_shiftToTargetExponent m e acc
  have hmantissa := fst_shiftToTargetExponent m e acc
  have hbits := fst_shiftToTargetExponent_lt m e acc
  have hrounded := roundedMantissa_le (shiftToTargetExponent .binary64 m e acc).1
  rw [snd_shiftToTargetExponent]
  generalize shiftToTargetExponent .binary64 m e acc = first at *
  by_cases hgreatest : first.2 = 971
  · -- the value is a step below the least one that is too large, so that rounding has room
    have hr : first.1.roundedMantissa < 2 ^ (52 + 1) := by
      rw [hgreatest] at hmantissa
      omega
    have := Binary64.log2_le hr
    omega
  · have hr : first.1.roundedMantissa < 2 ^ (53 + 1) := by omega
    have := Binary64.log2_le hr
    omega

/-- A value that fits is rounded to a finite double. -/
theorem Fits.isFinite (h : Fits m e) :
    (Float.Model.pack (roundWithAccuracy .binary64 s m e acc)).unpack.isFinite = true := by
  obtain hround | ⟨m', hm, hround⟩ := roundWithAccuracy_cases s m e acc
  · rw [hround]
    exact isFinite_pack_zero s
  · rw [hround]
    exact isFinite_pack hm h.exponent_le

end Rounding

/-! ## Parts of a finite double -/

/-- The mantissa and the exponent of the value of a double are in range. -/
theorem unpack_bounds {b : BitVec Format.binary64.numBits} {s : Sign} {m : ℕ} {e : ℤ} {hm : 0 < m}
    (h : unpack .binary64 b = .finite s m e hm) : m < 2 ^ 53 ∧ e ≤ 971 := by
  have hmantissa : (unpackMantissa b).toNat < 2 ^ 52 := (unpackMantissa b).isLt
  have hexponent : (unpackExponent b).toNat < 2 ^ 11 := (unpackExponent b).isLt
  unfold unpack at h
  dsimp only at h
  by_cases hall : unpackExponent b = -1#_
  · rw [if_pos hall] at h
    by_cases hzero : unpackMantissa b = 0#_
    · rw [if_pos hzero] at h
      cases h
    · rw [if_neg hzero] at h
      cases h
  · rw [if_neg hall] at h
    have hne : (unpackExponent b).toNat ≠ 2 ^ 11 - 1 := fun heq ↦ hall (BitVec.eq_of_toNat_eq heq)
    by_cases hsmall : unpackExponent b = 0#_
    · rw [if_pos hsmall] at h
      by_cases hzero : unpackMantissa b = 0#_
      · rw [dif_pos hzero] at h
        cases h
      · rw [dif_neg hzero] at h
        obtain ⟨-, rfl, rfl⟩ := UnpackedFloat.finite.inj h
        rw [hsmall]
        exact ⟨by omega, by decide⟩
    · rw [if_neg hsmall] at h
      obtain ⟨-, rfl, rfl⟩ := UnpackedFloat.finite.inj h
      refine ⟨(1#1 ++ unpackMantissa b).isLt, ?_⟩
      change ((unpackExponent b).toNat : ℤ) - (1023 + 52) ≤ 971
      omega

section Parts

variable {m c : ℕ} {e f : ℤ}

/-- The product with a factor below one. -/
theorem fits_mul (hm : m < 2 ^ 53) (he : e ≤ 971) (hc : c + 1 < 2 ^ 53) (hf : f ≤ -53) :
    Fits (m * c) (e + f) := by
  refine ⟨by omega, Nat.lt_of_le_of_lt (Nat.succ_le_succ ?_) hc⟩
  have hpow : 2 ^ 53 ≤ 2 ^ (971 - (e + f)).toNat := Nat.pow_le_pow_right Nat.two_pos (by omega)
  refine Nat.div_le_of_le_mul ?_
  exact Nat.mul_le_mul_right c (Nat.le_trans (Nat.le_of_lt hm) hpow)

/-- The quotient by two, which is the mantissa `2 ^ 52` with the exponent `-51`. -/
theorem fits_divCore (hm : m < 2 ^ 53) (he : e ≤ 971) :
    Fits (divCore .binary64 m e (2 ^ 52) (-51)).1 (divCore .binary64 m e (2 ^ 52) (-51)).2.1 := by
  have hlog : m.log2 ≤ 52 := Binary64.log2_le hm
  unfold divCore
  dsimp only
  rw [show totalExponent (2 ^ 52) (-51) = 2 from rfl, Nat.shiftLeft_eq]
  have ht : Format.binary64.targetExponent (totalExponent m e - 2) =
      max (m.log2 + 1 + e - 2 - 53) (-1074) := rfl
  rw [ht]
  generalize hk : min (e - -51) (max (m.log2 + 1 + e - 2 - 53) (-1074)) = k
  have hk' : k ≤ 971 := by omega
  refine ⟨hk', ?_⟩
  have hshift : 2 ^ (e - -51 - k).toNat ≤ 2 ^ 51 * 2 ^ (971 - k).toNat := by
    rw [← Nat.pow_add]
    exact Nat.pow_le_pow_right Nat.two_pos (by omega)
  have hquotient : m * 2 ^ (e - -51 - k).toNat / 2 ^ 52 < 2 ^ 52 * 2 ^ (971 - k).toNat := by
    rw [Nat.div_lt_iff_lt_mul (Nat.two_pow_pos 52)]
    calc m * 2 ^ (e - -51 - k).toNat
        < 2 ^ 53 * (2 ^ 51 * 2 ^ (971 - k).toNat) :=
          Nat.mul_lt_mul_of_lt_of_le hm hshift
            (Nat.mul_pos (Nat.two_pow_pos _) (Nat.two_pow_pos _))
      _ = 2 ^ 52 * 2 ^ (971 - k).toNat * 2 ^ 52 := by ring
  rw [← Nat.div_lt_iff_lt_mul (Nat.two_pow_pos _)] at hquotient
  omega

end Parts

variable {x y : Float}

/-- Half of a finite double is finite. -/
theorem isFinite_half (h : IsFinite x) : IsFinite (x / 2) := by
  refine isFinite_iff.2 ?_
  have hx : x.toModel.unpack.isFinite = true := isFinite_iff.1 h
  have htwo : (2 : Float).toModel.unpack = .finite .positive (2 ^ 52) (-51) (by decide) := rfl
  change (Float.Model.pack
    (div .binary64 x.toModel.unpack (2 : Float).toModel.unpack)).unpack.isFinite = true
  rw [htwo]
  cases hparts : x.toModel.unpack with
  | notANumber | infinity => rw [hparts] at hx; cases hx
  | zero s => exact isFinite_pack_zero _
  | finite s m e hm =>
    obtain ⟨hm, he⟩ := unpack_bounds hparts
    exact (fits_divCore hm he).isFinite

/-- The product of a finite double with a factor below one is finite. -/
theorem isFinite_mul {c : ℕ} {f : ℤ} {hpos : 0 < c} (h : IsFinite x)
    (hy : y.toModel.unpack = .finite .positive c f hpos) (hc : c + 1 < 2 ^ 53) (hf : f ≤ -53) :
    IsFinite (x * y) := by
  refine isFinite_iff.2 ?_
  have hx : x.toModel.unpack.isFinite = true := isFinite_iff.1 h
  change (Float.Model.pack (mul .binary64 x.toModel.unpack y.toModel.unpack)).unpack.isFinite = true
  rw [hy]
  cases hparts : x.toModel.unpack with
  | notANumber | infinity => rw [hparts] at hx; cases hx
  | zero s => exact isFinite_pack_zero _
  | finite s m e hm =>
    obtain ⟨hm, he⟩ := unpack_bounds hparts
    exact (fits_mul hm he hc hf).isFinite

end Rearrangement.Binary64

namespace Rearrangement

open Scalar Binary64

instance : RangedScalar Float where
  isNumber_zero := by decide +kernel
  isNumber_of_isFinite := isNumber_of_isFinite
  isNumber_add := isNumber_add
  isNumber_sub := isNumber_sub
  isFinite_half := isFinite_half
  isFinite_parts {x} h := by
    have hseven : (7 / 10 : Float).toModel.unpack =
        .finite .positive 6305039478318694 (-53) (by decide) := rfl
    have hthree : (3 / 10 : Float).toModel.unpack =
        .finite .positive 5404319552844595 (-54) (by decide) := rfl
    exact ⟨isFinite_mul h hseven (by decide) (by decide),
      isFinite_mul h hthree (by decide) (by decide)⟩

end Rearrangement
