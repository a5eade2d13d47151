import Rearrangement.Proofs.Binary64.Range

/-!
# Doubles and their parts

A finite double is the same as its parts (`eq_of_parts`): they are those of the value that the
double stands for (`unpack_of_parts`), and what is packed has the parts of the value
(`ofFloat?_pack`).  The parts are canonical: a mantissa of 53 bits, or a shorter one at the least
exponent.

## Main statements

* `ofFields_inj`, `exists_fields`: canonical parts and fields in range are the same.
* `toNat_packComponents`: three fields make one word of 64 bits, and can be read off it again.
* `unpack_of_parts`, `ofFloat?_pack`: from a double to its value and its parts, and back.
* `eq_of_parts`: doubles with the same parts are equal.

Everything that is shown of doubles by their parts rests on the last one.
-/

namespace Rearrangement.Binary64

open Float.Model (UnpackedFloat Format)
open Float.Model.UnpackedFloat

/-- The mantissa and exponent of a double. -/
structure Canonical (m : ℕ) (e : ℤ) : Prop where
  lt : m < 2 ^ 53
  le : -1074 ≤ e
  exponent_le : e ≤ 971
  normal : 2 ^ 52 ≤ m ∨ e = -1074

theorem Canonical.log2_le {m : ℕ} {e : ℤ} (h : Canonical m e) : m.log2 ≤ 52 :=
  Binary64.log2_le h.lt

def signOf (negative : Bool) : Sign := if negative then .negative else .positive

namespace Parts

/-- The value with the given parts. -/
def unpacked (p : Parts) : UnpackedFloat :=
  if h : 0 < p.mantissa then .finite (signOf p.negative) p.mantissa p.exponent h
  else .zero (signOf p.negative)

/-- The parts that are kept as a sign, an exponent field and a fraction. -/
def ofFields (negative : Bool) (field fraction : ℕ) : Parts :=
  if field = 0 then ⟨negative, fraction, leastExponent⟩
  else ⟨negative, 2 ^ 52 + fraction, leastExponent + (field - 1 : ℕ)⟩

/-- The fields of a finite double make canonical parts. -/
theorem canonical_ofFields (negative : Bool) {field fraction : ℕ} (hfield : field < 2047)
    (hfraction : fraction < 2 ^ 52) :
    Canonical (ofFields negative field fraction).mantissa
      (ofFields negative field fraction).exponent := by
  unfold ofFields
  split
  · exact ⟨Nat.lt_trans hfraction (by decide), le_rfl, (by decide : leastExponent ≤ 971), .inr rfl⟩
  · constructor <;> simp only [leastExponent] <;> omega

/-- The fields can be read off the parts. -/
theorem ofFields_inj {s s' : Bool} {f f' r r' : ℕ} (hr : r < 2 ^ 52) (hr' : r' < 2 ^ 52)
    (h : ofFields s f r = ofFields s' f' r') : s = s' ∧ f = f' ∧ r = r' := by
  unfold ofFields at h
  split_ifs at h <;> obtain ⟨hs, hm, he⟩ := Parts.mk.inj h
  · exact ⟨hs, by omega, hm⟩
  · omega
  · omega
  · exact ⟨hs, by omega, by omega⟩

/-- Canonical parts can be kept so. -/
theorem exists_fields {p : Parts} (h : Canonical p.mantissa p.exponent) :
    ∃ field fraction, field < 2047 ∧ fraction < 2 ^ 52 ∧
      ofFields p.negative field fraction = p := by
  obtain ⟨negative, m, e⟩ := p
  obtain ⟨hlt, hle, hexponent, hnormal⟩ := h
  dsimp only at *
  by_cases hm : m < 2 ^ 52
  · obtain rfl : e = leastExponent := hnormal.resolve_left (by omega)
    exact ⟨0, m, by omega, hm, rfl⟩
  · refine ⟨(e + 1075).toNat, m - 2 ^ 52, by omega, by omega, ?_⟩
    rw [ofFields, if_neg (by omega), Parts.mk.injEq]
    exact ⟨rfl, by omega, by rw [leastExponent]; omega⟩

end Parts

/-! ## Bits -/

/-- The bits that keep a sign, an exponent field and a fraction. -/
def bitsOf (negative : Bool) (field fraction : ℕ) : ℕ :=
  (if negative then 2 ^ 63 else 0) + field * 2 ^ 52 + fraction

/-- A word of 64 bits is put together again from its three fields. -/
theorem bitsOf_fields {n : ℕ} (h : n < 2 ^ 64) :
    bitsOf (decide (2 ^ 63 ≤ n)) (n / 2 ^ 52 % 2 ^ 11) (n % 2 ^ 52) = n := by
  unfold bitsOf
  by_cases hn : 2 ^ 63 ≤ n
  · rw [if_pos (decide_eq_true hn)]
    omega
  · rw [if_neg (by rw [decide_eq_false hn]; exact Bool.false_ne_true)]
    omega

section Fields

variable (negative : Bool) {field fraction : ℕ}

theorem sign_bitsOf (hfield : field < 2 ^ 11) (hfraction : fraction < 2 ^ 52) :
    decide (2 ^ 63 ≤ bitsOf negative field fraction) = negative := by
  unfold bitsOf
  cases negative
  · exact decide_eq_false (by rw [if_neg Bool.false_ne_true]; omega)
  · exact decide_eq_true (by rw [if_pos rfl]; omega)

theorem field_bitsOf (hfield : field < 2 ^ 11) (hfraction : fraction < 2 ^ 52) :
    bitsOf negative field fraction / 2 ^ 52 % 2 ^ 11 = field := by
  unfold bitsOf
  split <;> omega

theorem fraction_bitsOf (hfraction : fraction < 2 ^ 52) :
    bitsOf negative field fraction % 2 ^ 52 = fraction := by
  unfold bitsOf
  split <;> omega

end Fields

theorem toNat_append {m n : ℕ} (b : BitVec m) (c : BitVec n) :
    (b ++ c).toNat = b.toNat * 2 ^ n + c.toNat := by
  rw [BitVec.toNat_append, ← Nat.shiftLeft_add_eq_or_of_lt c.isLt, Nat.shiftLeft_eq]

/-- To pack three fields is to put them together in one word. -/
theorem toNat_packComponents (negative : Bool) (field : BitVec 11) (fraction : BitVec 52) :
    (packComponents .binary64 (signOf negative) field fraction).toNat =
      bitsOf negative field.toNat fraction.toNat := by
  change ((signOf negative).toBitVec ++ field ++ fraction).toNat = _
  rw [toNat_append, toNat_append, bitsOf]
  cases negative
  · change (0 * 2 ^ 11 + field.toNat) * 2 ^ 52 + fraction.toNat = 0 + _ + _
    omega
  · change (1 * 2 ^ 11 + field.toNat) * 2 ^ 52 + fraction.toNat = 2 ^ 63 + _ + _
    omega

theorem toNat_unpackMantissa (b : BitVec 64) :
    (@unpackMantissa .binary64 b).toNat = b.toNat % 2 ^ 52 := by
  simp [unpackMantissa]

theorem toNat_unpackExponent (b : BitVec 64) :
    (@unpackExponent .binary64 b).toNat = b.toNat / 2 ^ 52 % 2 ^ 11 := by
  simp [unpackExponent, Nat.shiftRight_eq_div_pow]

theorem ofBitVec_unpackSign (b : BitVec 64) :
    Sign.ofBitVec (@unpackSign .binary64 b) = signOf (decide (2 ^ 63 ≤ b.toNat)) := by
  have hbit : (@unpackSign .binary64 b).toNat = b.toNat / 2 ^ 63 % 2 := by
    unfold unpackSign
    simp [Nat.shiftRight_eq_div_pow]
  have hlt := b.isLt
  by_cases hb : 2 ^ 63 ≤ b.toNat
  · rw [decide_eq_true hb]
    refine if_neg fun hzero ↦ ?_
    rw [hzero] at hbit
    change 0 = _ at hbit
    omega
  · rw [decide_eq_false hb]
    exact if_pos (BitVec.eq_of_toNat_eq (by rw [hbit]; change _ = 0; omega))

/-! ## Parts -/

variable {x y : Float} {p : Parts}

theorem ofFloat?_eq (x : Float) : Parts.ofFloat? x =
    let n := x.toBits.toNat
    if n / 2 ^ 52 % 2 ^ 11 = 2047 then none
    else some (.ofFields (decide (2 ^ 63 ≤ n)) (n / 2 ^ 52 % 2 ^ 11) (n % 2 ^ 52)) := by
  unfold Parts.ofFloat? Parts.ofFields
  dsimp only
  split_ifs <;> rfl

/-- The parts of a double are made of its three fields. -/
theorem parts_eq (h : Parts.ofFloat? x = some p) :
    x.toBits.toNat / 2 ^ 52 % 2 ^ 11 ≠ 2047 ∧
      p = .ofFields (decide (2 ^ 63 ≤ x.toBits.toNat)) (x.toBits.toNat / 2 ^ 52 % 2 ^ 11)
        (x.toBits.toNat % 2 ^ 52) := by
  rw [ofFloat?_eq] at h
  obtain ⟨hne, heq⟩ := Option.ite_none_left_eq_some.1 h
  exact ⟨hne, (Option.some.inj heq).symm⟩

/-- The parts of a double are canonical. -/
theorem canonical_of_parts (h : Parts.ofFloat? x = some p) : Canonical p.mantissa p.exponent := by
  obtain ⟨hne, rfl⟩ := parts_eq h
  exact Parts.canonical_ofFields _ (by omega) (Nat.mod_lt _ (by decide))

/-- What the fields of a double stand for. -/
theorem unpack_eq (b : BitVec 64) (hfield : b.toNat / 2 ^ 52 % 2 ^ 11 ≠ 2047) :
    unpack .binary64 b = (Parts.ofFields (decide (2 ^ 63 ≤ b.toNat)) (b.toNat / 2 ^ 52 % 2 ^ 11)
      (b.toNat % 2 ^ 52)).unpacked := by
  rw [← toNat_unpackExponent] at hfield ⊢
  rw [← toNat_unpackMantissa]
  unfold unpack
  dsimp only
  rw [ofBitVec_unpackSign, if_neg fun hall ↦ hfield (congrArg BitVec.toNat hall), Parts.ofFields]
  by_cases hzero : @unpackExponent .binary64 b = 0#11
  · have hnat : (@unpackExponent .binary64 b).toNat = 0 := congrArg BitVec.toNat hzero
    rw [if_pos hzero, if_pos hnat, Parts.unpacked]
    dsimp only
    by_cases hfraction : @unpackMantissa .binary64 b = 0#52
    · rw [dif_pos hfraction, dif_neg (by rw [hfraction]; decide)]
    · have hpos : 0 < (@unpackMantissa .binary64 b).toNat :=
        Nat.pos_of_ne_zero fun h ↦ hfraction (BitVec.eq_of_toNat_eq h)
      rw [dif_neg hfraction, dif_pos hpos, UnpackedFloat.finite.injEq, hzero]
      exact ⟨rfl, rfl, rfl⟩
  · have hne : (@unpackExponent .binary64 b).toNat ≠ 0 :=
      fun h ↦ hzero (BitVec.eq_of_toNat_eq h)
    rw [if_neg hzero, if_neg hne, Parts.unpacked, dif_pos (Nat.add_pos_left (by decide) _),
      UnpackedFloat.finite.injEq, toNat_append]
    refine ⟨rfl, rfl, ?_⟩
    change ((@unpackExponent .binary64 b).toNat : ℤ) - (1023 + 52) =
      -1074 + (((@unpackExponent .binary64 b).toNat - 1 : ℕ) : ℤ)
    omega

/-- The parts of a double are those of the value that it stands for. -/
theorem unpack_of_parts (h : Parts.ofFloat? x = some p) : x.toModel.unpack = p.unpacked := by
  obtain ⟨hne, rfl⟩ := parts_eq h
  exact unpack_eq x.toBits.toBitVec hne

/-- To pack the value of parts gives back the fields of which the parts are made. -/
theorem pack_ofFields (negative : Bool) {field fraction : ℕ} (hfield : field < 2047)
    (hfraction : fraction < 2 ^ 52) :
    UnpackedFloat.pack .binary64 (Parts.ofFields negative field fraction).unpacked =
      packComponents .binary64 (signOf negative) (.ofNat 11 field) (.ofNat 52 fraction) := by
  unfold Parts.ofFields
  split
  next hzero =>
    subst hzero
    rcases Nat.eq_zero_or_pos fraction with rfl | hpos
    · rfl
    · have hlog : fraction.log2 < 52 := (Nat.log2_lt hpos.ne').2 hfraction
      rw [Parts.unpacked, dif_pos hpos]
      refine if_neg ?_
      change ¬fraction.log2 + 1 = 53
      omega
  next hne =>
    have hlog : (2 ^ 52 + fraction).log2 = 52 := (Nat.log2_eq_iff (by omega)).2 (by omega)
    have hbiased : (Parts.leastExponent + (field - 1 : ℕ) + 1023 + 52).toNat = field := by
      rw [Parts.leastExponent]
      omega
    rw [Parts.unpacked, dif_pos (Nat.add_pos_left (by decide) _)]
    refine (if_neg ?_).trans ((if_pos (congrArg (· + 1) hlog)).trans ?_)
    · change ¬2 ^ 11 ≤ (Parts.leastExponent + (field - 1 : ℕ) + 1023 + 52).toNat + 1
      omega
    · refine congrArg₂ (packComponents .binary64 (signOf negative))
        (congrArg (BitVec.ofNat 11) hbiased) (BitVec.eq_of_toNat_eq ?_)
      rw [BitVec.toNat_ofNat, BitVec.toNat_ofNat]
      exact Nat.add_mod_left _ _

/-- What is packed from canonical parts has these parts. -/
theorem ofFloat?_pack (hp : Canonical p.mantissa p.exponent) :
    Parts.ofFloat? (.ofModel (.pack p.unpacked)) = some p := by
  obtain ⟨field, fraction, hfield, hfraction, hfields⟩ := Parts.exists_fields hp
  rw [← hfields]
  have hbits :
      (Float.ofModel (.pack (Parts.ofFields p.negative field fraction).unpacked)).toBits.toNat =
        bitsOf p.negative field fraction := by
    change (UnpackedFloat.pack .binary64 _).toNat = _
    rw [pack_ofFields _ hfield hfraction, toNat_packComponents, BitVec.toNat_ofNat,
      BitVec.toNat_ofNat, Nat.mod_eq_of_lt (by omega), Nat.mod_eq_of_lt hfraction]
  have hfield' : field < 2 ^ 11 := by omega
  rw [ofFloat?_eq, hbits]
  dsimp only
  rw [sign_bitsOf _ hfield' hfraction, field_bitsOf _ hfield' hfraction,
    fraction_bitsOf _ hfraction]
  exact if_neg (by omega)

/-- Two doubles with the same parts are equal. -/
theorem eq_of_parts (hx : Parts.ofFloat? x = some p) (hy : Parts.ofFloat? y = some p) : x = y := by
  obtain ⟨-, rfl⟩ := parts_eq hx
  obtain ⟨-, hfields⟩ := parts_eq hy
  have hbits : x.toBits.toNat = y.toBits.toNat := by
    obtain ⟨hsign, hfield, hfraction⟩ :=
      Parts.ofFields_inj (Nat.mod_lt _ (by decide)) (Nat.mod_lt _ (by decide)) hfields
    rw [← bitsOf_fields x.toBits.toNat_lt, ← bitsOf_fields y.toBits.toNat_lt, hsign, hfield,
      hfraction]
  have heq : x.toBits = y.toBits := UInt64.toNat_inj.1 hbits
  obtain ⟨⟨b, hb⟩⟩ := x
  obtain ⟨⟨c, hc⟩⟩ := y
  obtain rfl : b = c := heq
  rfl

/-- Only finite doubles have parts. -/
theorem isFinite_of_parts (h : Parts.ofFloat? x = some p) : x.isFinite = true := by
  change x.toModel.unpack.isFinite = true
  rw [unpack_of_parts h, Parts.unpacked]
  by_cases hpos : 0 < p.mantissa
  · rw [dif_pos hpos]
    rfl
  · rw [dif_neg hpos]
    rfl

/-- All finite doubles have parts. -/
theorem exists_parts (h : x.isFinite = true) : ∃ p, Parts.ofFloat? x = some p := by
  rw [ofFloat?_eq]
  dsimp only
  split
  next hfield =>
    -- the greatest exponent field is kept for what is not finite
    have hall : @unpackExponent .binary64 x.toBits.toBitVec = -1#11 :=
      BitVec.eq_of_toNat_eq ((toNat_unpackExponent _).trans hfield)
    change (unpack .binary64 x.toBits.toBitVec).isFinite = true at h
    unfold unpack at h
    dsimp only at h
    rw [if_pos hall] at h
    split at h <;> cases h
  next => exact ⟨_, rfl⟩

theorem unpacked_neg (p : Parts) :
    p.unpacked.neg = { p with negative := !p.negative }.unpacked := by
  obtain ⟨negative, m, e⟩ := p
  rcases Nat.eq_zero_or_pos m with rfl | hpos
  · cases negative <;> rfl
  · have hfinite (s : Bool) : Parts.unpacked ⟨s, m, e⟩ = .finite (signOf s) m e hpos :=
      dif_pos hpos
    rw [hfinite, hfinite]
    cases negative <;> rfl

/-- The negative of a double differs in its sign. -/
theorem ofFloat?_neg (h : Parts.ofFloat? x = some p) :
    Parts.ofFloat? (-x) = some { p with negative := !p.negative } := by
  have hneg : -x = .ofModel (.pack x.toModel.unpack.neg) := rfl
  have hcanonical := canonical_of_parts h
  rw [hneg, unpack_of_parts h, unpacked_neg]
  exact ofFloat?_pack hcanonical

end Rearrangement.Binary64
