import Rearrangement.Proofs.Binary64.Scientific
import Rearrangement.Proofs.Decimal
import Rearrangement.Proofs.Json.Lexing

/-!
# Written numbers read back

Every finite double is read from what is written of it (`readsBack_real`).  Whether the digits are
written with the point among them or with a power of ten, the parts that the reader cuts the text
into denote the decimal that was written; that decimal is in the interval of the double, so it is
converted to the double.

## Main statements

* `number?_eq`: the three parts of a number are read one after the other.
* `reads_positional`, `reads_scientific`: each layout is read as the decimal that it writes.
* `ofFloat?_ofDecimal_digits`: the decimal of a double is converted to the double.
* `readsBack_real`: what is written of a finite double is read as that double.

`Reads` is what the halves have in common: the text denotes a decimal.  Layout and reader meet in
it, and neither has anything to do with how the digits were found; that they are enough to tell the
double is `Decimal.roundsTo_digits`.
-/

namespace Rearrangement.Json

open Token Binary64
open Decimal (digitsOf positional scientific written)

/-! ## Digits -/

section Digits

variable {ds w r : List Char}

/-- Digits are read as by the library's reader of decimal numerals. -/
theorem natOf_eq (ds : List Char) : natOf ds = Nat.ofDigitChars 10 ds 0 := by
  rw [natOf, Nat.ofDigitChars]
  congr 1
  funext n c
  rw [Nat.mul_comm]

theorem natOf_digitsOf (n : ℕ) : natOf (digitsOf n) = n := by
  rw [natOf_eq]
  exact Nat.ofDigitChars_ten_toDigits

/-- Digits that follow move the ones before them to the left. -/
theorem natOf_append (ds w : List Char) : natOf (ds ++ w) = natOf ds * 10 ^ w.length + natOf w := by
  rw [natOf_eq, natOf_eq, natOf_eq, Nat.ofDigitChars_append, Nat.ofDigitChars_eq_ofDigitChars_zero,
    Nat.mul_comm]

theorem natOf_zeros (n : ℕ) : natOf (List.replicate n '0') = 0 := by
  rw [natOf_eq, Nat.ofDigitChars_replicate_zero, Nat.mul_zero]

/-- Digits that a reader takes as the whole part of a number. -/
structure IsWhole (ds : List Char) : Prop where
  ne_nil : ds ≠ []
  digit : ∀ c ∈ ds, c.isDigit = true
  head : ds.head? = some '0' → ds = ['0']

theorem isWhole_digitsOf (n : ℕ) : IsWhole (digitsOf n) := by
  refine ⟨Decimal.digitsOf_ne_nil n, fun c ↦ Decimal.isDigit_of_mem_digitsOf, fun h ↦ ?_⟩
  obtain rfl | hn := Nat.eq_zero_or_pos n
  · rfl
  · exact absurd h (Decimal.head?_digitsOf hn)

theorem IsWhole.take (h : IsWhole ds) {n : ℕ} (hn : 0 < n) : IsWhole (ds.take n) := by
  obtain ⟨hne, hdigit, hhead⟩ := h
  obtain ⟨d, ds, rfl⟩ := List.exists_cons_of_ne_nil hne
  obtain ⟨n, rfl⟩ := Nat.exists_eq_succ_of_ne_zero hn.ne'
  refine ⟨List.cons_ne_nil _ _, fun c hc ↦ hdigit c (List.mem_of_mem_take hc), fun h ↦ ?_⟩
  rw [hhead h]
  exact List.take_of_length_le (Nat.succ_le_succ (Nat.zero_le n))

/-- The text does not go on with a digit. -/
def NoDigit (r : List Char) : Prop := ∀ c ∈ r.head?, c.isDigit = false

theorem digits_append (hds : ∀ c ∈ ds, c.isDigit = true) (hr : NoDigit r) :
    digits (ds ++ r) = (ds, r) := by
  have hnone : r.takeWhile Char.isDigit = [] ∧ r.dropWhile Char.isDigit = r := by
    cases r with
    | nil => exact ⟨rfl, rfl⟩
    | cons c r =>
      have hc : c.isDigit = false := hr c rfl
      simp [hc]
  rw [digits, List.takeWhile_append_of_pos hds, List.dropWhile_append_of_pos hds, hnone.1, hnone.2,
    List.append_nil]

/-- The whole part ends where the digits end. -/
theorem whole?_append (hds : IsWhole ds) (hr : NoDigit r) :
    Token.whole? (ds ++ r) = some (ds, r) := by
  by_cases hzero : ds = ['0']
  · subst hzero
    rfl
  · have hhead : ds.head? ≠ some '0' := fun h ↦ hzero (hds.head h)
    obtain ⟨hne, hdigit, -⟩ := hds
    obtain ⟨d, ds, rfl⟩ := List.exists_cons_of_ne_nil hne
    rw [List.cons_append, Token.whole?]
    · rw [← List.cons_append, digits_append hdigit hr]
    · rintro _ ⟨⟩
      exact hhead rfl

/-- A point and at least one digit are a fraction. -/
theorem fraction?_append (hne : ds ≠ []) (hds : ∀ c ∈ ds, c.isDigit = true) (hr : NoDigit r) :
    fraction? ('.' :: (ds ++ r)) = some (some ds, r) := by
  rw [fraction?, digits_append hds hr]
  cases ds with
  | nil => exact absurd rfl hne
  | cons d ds => rfl

theorem fraction?_none (h : ∀ c ∈ r.head?, c ≠ '.') : fraction? r = some (none, r) := by
  cases r with
  | nil => rfl
  | cons c r =>
    rw [fraction?]
    exact fun _ heq ↦ h c rfl (List.cons.inj heq).1

theorem power?_none (h : ∀ c ∈ r.head?, c ≠ 'e' ∧ c ≠ 'E') : power? r = some (none, r) := by
  cases r with
  | nil => rfl
  | cons c r =>
    rw [power?]
    · exact fun _ heq ↦ (h c rfl).1 (List.cons.inj heq).1
    · exact fun _ heq ↦ (h c rfl).2 (List.cons.inj heq).1

/-- How the power of ten of a number is written. -/
def powerChars (z : ℤ) : List Char := 'e' :: ((if z < 0 then ['-'] else ['+']) ++ digitsOf z.natAbs)

/-- A power that is printed is read back. -/
theorem power?_powerChars (z : ℤ) (hr : NoDigit r) :
    power? (powerChars z ++ r) = some (some z, r) := by
  have hdigits := digits_append (fun c ↦ Decimal.isDigit_of_mem_digitsOf (n := z.natAbs)) hr
  have hunsigned (sign : ℤ → ℤ) :
      power?.unsigned (digitsOf z.natAbs ++ r) sign = some (some (sign z.natAbs), r) := by
    rw [power?.unsigned, hdigits]
    cases hds : digitsOf z.natAbs with
    | nil => exact absurd hds (Decimal.digitsOf_ne_nil _)
    | cons d ds =>
      dsimp only
      rw [← hds, natOf_digitsOf]
  unfold powerChars
  by_cases hz : z < 0
  · rw [if_pos hz]
    change power?.unsigned (digitsOf z.natAbs ++ r) (fun n ↦ -n) = _
    rw [hunsigned, show -(z.natAbs : ℤ) = z by omega]
  · rw [if_neg hz]
    change power?.unsigned (digitsOf z.natAbs ++ r) id = _
    rw [hunsigned, id, show (z.natAbs : ℤ) = z by omega]

end Digits

/-! ## Numbers -/

/-- The double with the given sign and decimal. -/
def signed (negative : Bool) (significand : ℕ) (exponent : ℤ) : Option Number :=
  let x := Number.ofDecimal significand exponent
  if x.isFinite then some (.real (if negative then -x else x)) else none

theorem numberOf_fraction (negative : Bool) (w f : List Char) (p : Option ℤ) :
    numberOf negative w (some f) p = signed negative (natOf (w ++ f)) (p.getD 0 - f.length) := by
  cases p <;> rfl

theorem numberOf_power (negative : Bool) (w : List Char) (p : ℤ) :
    numberOf negative w none (some p) = signed negative (natOf w) p := by
  change signed negative (natOf (w ++ [])) (p - 0) = _
  rw [List.append_nil, Int.sub_zero]

/-- A number is read part by part. -/
theorem number?_eq {negative : Bool} {t w r₁ r₂ r : List Char} {f : Option (List Char)}
    {p : Option ℤ} (hw : Token.whole? t = some (w, r₁)) (hf : fraction? r₁ = some (f, r₂))
    (hp : power? r₂ = some (p, r)) :
    number? negative t = some (numberOf negative w f p, r) := by
  simp only [number?, hw, hf, hp, Option.bind_eq_bind, Option.bind_some]
  rfl

section Text

variable {w f r : List Char}

theorem Ends.noDigit (hr : Ends r) : NoDigit r := fun c hc ↦ (hr c hc).1

/-- A numeral with a fraction is read as its digits without the point, scaled down. -/
theorem number?_fraction (negative : Bool) (hw : IsWhole w) (hne : f ≠ [])
    (hf : ∀ c ∈ f, c.isDigit = true) (hr : Ends r) :
    number? negative (w ++ '.' :: f ++ r) =
      some (signed negative (natOf (w ++ f)) (-f.length), r) := by
  have hpoint : NoDigit ('.' :: (f ++ r)) := by rintro _ ⟨⟩; rfl
  rw [List.append_assoc, List.cons_append, number?_eq (whole?_append hw hpoint)
    (fraction?_append hne hf hr.noDigit) (power?_none fun c hc ↦ (hr c hc).2.2), numberOf_fraction]
  simp

/-- A numeral with a power is read as its digits, scaled by it. -/
theorem number?_power (negative : Bool) (hw : IsWhole w) (z : ℤ) (hr : Ends r) :
    number? negative (w ++ powerChars z ++ r) = some (signed negative (natOf w) z, r) := by
  have hpower : NoDigit (powerChars z ++ r) := by rintro _ ⟨⟩; rfl
  have hnone : fraction? (powerChars z ++ r) = some (none, powerChars z ++ r) :=
    fraction?_none (by rintro _ ⟨⟩; decide)
  rw [List.append_assoc,
    number?_eq (whole?_append hw hpower) hnone (power?_powerChars z hr.noDigit), numberOf_power]

theorem number?_fraction_power (negative : Bool) (hw : IsWhole w) (hne : f ≠ [])
    (hf : ∀ c ∈ f, c.isDigit = true) (z : ℤ) (hr : Ends r) :
    number? negative (w ++ '.' :: f ++ powerChars z ++ r) =
      some (signed negative (natOf (w ++ f)) (z - f.length), r) := by
  have hpoint : NoDigit ('.' :: (f ++ (powerChars z ++ r))) := by rintro _ ⟨⟩; rfl
  have hpower : NoDigit (powerChars z ++ r) := by rintro _ ⟨⟩; rfl
  rw [List.append_assoc, List.append_assoc, List.cons_append, number?_eq (whole?_append hw hpoint)
    (fraction?_append hne hf hpower) (power?_powerChars z hr.noDigit), numberOf_fraction]
  rfl

end Text

/-- The text is read as the given decimal. -/
def Reads (negative : Bool) (text : List Char) (v : ℚ) : Prop :=
  ∀ r, Ends r → ∃ (s : ℕ) (k : ℤ), number? negative (text ++ r) = some (signed negative s k, r) ∧
    (s * 10 ^ k : ℚ) = v

theorem isWhole_zero : IsWhole ['0'] :=
  ⟨List.cons_ne_nil _ _, List.forall_mem_singleton.2 rfl, fun _ ↦ rfl⟩

theorem isDigit_of_mem_replicate {n : ℕ} {c : Char} (h : c ∈ List.replicate n '0') :
    c.isDigit = true := by
  rw [List.eq_of_mem_replicate h]
  rfl

/-- Zeros that are not written out only shift the decimal. -/
theorem natOf_append_zeros (ds : List Char) (n : ℕ) :
    natOf (ds ++ List.replicate n '0') = natOf ds * 10 ^ n := by
  rw [natOf_append, natOf_zeros, List.length_replicate, Nat.add_zero]

theorem natOf_zeros_append (n : ℕ) (ds : List Char) :
    natOf (List.replicate n '0' ++ ds) = natOf ds := by
  rw [natOf_append, natOf_zeros, Nat.zero_mul, Nat.zero_add]

section Layout

variable {ds : List Char}

/-- A numeral that is written out in full has the value of its digits. -/
theorem reads_positional (negative : Bool) (hds : IsWhole ds) (whole : ℤ)
    (hwhole : ds = ['0'] → whole ≤ 1) :
    Reads negative (positional ds whole) (natOf ds * 10 ^ (whole - ds.length)) := by
  intro r hr
  unfold positional
  split
  next hle =>
    have hf : ∀ c ∈ List.replicate whole.natAbs '0' ++ ds, c.isDigit = true := fun c hc ↦
      (List.mem_append.1 hc).elim isDigit_of_mem_replicate (hds.digit c)
    refine ⟨_, _, number?_fraction negative isWhole_zero
      (List.append_ne_nil_of_right_ne_nil _ hds.ne_nil) hf hr, ?_⟩
    have hnat : natOf (['0'] ++ (List.replicate whole.natAbs '0' ++ ds)) = natOf ds := by
      rw [← List.append_assoc]
      exact natOf_zeros_append (whole.natAbs + 1) ds
    rw [hnat, List.length_append, List.length_replicate]
    congr 2
    omega
  next hpos =>
    split
    next hlong =>
      have hw : IsWhole (ds ++ List.replicate (whole.toNat - ds.length) '0') := by
        refine ⟨List.append_ne_nil_of_left_ne_nil hds.ne_nil _, fun c hc ↦
          (List.mem_append.1 hc).elim (hds.digit c) isDigit_of_mem_replicate, fun hhead ↦ ?_⟩
        rw [List.head?_append, List.head?_eq_some_head hds.ne_nil, Option.some_or,
          ← List.head?_eq_some_head] at hhead
        -- only zero begins with a zero, and of that there is no room for another digit
        have hzero := hds.head hhead
        have hone := hwhole hzero
        rw [hzero, show whole.toNat - ['0'].length = 0 by simp; omega]
        rfl
      refine ⟨_, _, number?_fraction negative hw (List.cons_ne_nil '0' [])
        (List.forall_mem_singleton.2 rfl) hr, ?_⟩
      have hnat : natOf (ds ++ List.replicate (whole.toNat - ds.length) '0' ++ ['0']) =
          natOf ds * 10 ^ (whole.toNat - ds.length + 1) := by
        rw [List.append_assoc, ← List.replicate_succ', natOf_append_zeros]
      have hwhole : whole - ds.length = (whole.toNat - ds.length : ℕ) := by omega
      rw [hnat, hwhole, Nat.cast_mul, Nat.cast_pow, zpow_natCast, pow_succ, List.length_singleton,
        zpow_neg, Nat.cast_one, zpow_one, mul_assoc, mul_assoc]
      norm_num
    next hshort =>
      have hw : IsWhole (ds.take whole.toNat) := hds.take (by omega)
      have hne : ds.drop whole.toNat ≠ [] := fun h ↦ hshort (List.drop_eq_nil_iff.1 h)
      refine ⟨_, _, number?_fraction negative hw hne
        (fun c hc ↦ hds.digit c (List.mem_of_mem_drop hc)) hr, ?_⟩
      rw [List.take_append_drop, List.length_drop]
      congr 2
      omega

/-- So has one that is written with a power. -/
theorem reads_scientific (negative : Bool) (hds : IsWhole ds) (power : ℤ) :
    Reads negative (scientific Number.shape ds power)
      (natOf ds * 10 ^ (power + 1 - ds.length)) := by
  have hpower : scientific Number.shape ds power =
      (if ds.length ≤ 1 then ds else ds.take 1 ++ '.' :: ds.drop 1) ++ powerChars power := by
    have hplus : Number.shape.plusSign = true := rfl
    rw [scientific, if_pos hplus, List.append_assoc]
    rfl
  have hlength : 0 < ds.length := List.length_pos_iff.2 hds.ne_nil
  intro r hr
  rw [hpower]
  split
  next hone =>
    refine ⟨_, _, number?_power negative hds power hr, ?_⟩
    rw [show power + 1 - ds.length = power by omega]
  next hmore =>
    have hne : ds.drop 1 ≠ [] := fun h ↦ hmore (List.drop_eq_nil_iff.1 h)
    refine ⟨_, _, number?_fraction_power negative (hds.take one_pos) hne
      (fun c hc ↦ hds.digit c (List.mem_of_mem_drop hc)) power hr, ?_⟩
    rw [List.take_append_drop, List.length_drop]
    congr 2
    omega

end Layout

/-! ## Doubles -/

section Converted

variable {m s : ℕ} {e k : ℤ}

/-- The power of ten above a decimal that is in the range of doubles. -/
theorem top_bounds (hs : 0 < s) (hlow : (2 : ℚ) ^ (-1075 : ℤ) ≤ s * 10 ^ k)
    (hhigh : (s * 10 ^ k : ℚ) < 2 ^ (1024 : ℤ)) :
    -400 ≤ k + Decimal.length s ∧ k + Decimal.length s ≤ 400 := by
  have hpow : (0 : ℚ) < 10 ^ k := zpow_pos (by norm_num) k
  constructor
  · refine not_lt.1 fun hlt ↦ absurd hlow (not_le_of_gt ?_)
    have hlength : (s : ℚ) < 10 ^ (Decimal.length s : ℤ) := by
      exact_mod_cast Decimal.lt_pow_length s
    calc (s * 10 ^ k : ℚ)
        < 10 ^ (Decimal.length s : ℤ) * 10 ^ k := mul_lt_mul_of_pos_right hlength hpow
      _ = 10 ^ (k + Decimal.length s) := by rw [← zpow_add₀ (by norm_num), Int.add_comm]
      _ ≤ 2 ^ (3 * (k + Decimal.length s)) := ten_zpow_le (by omega)
      _ ≤ 2 ^ (-1075 : ℤ) := zpow_le_zpow_right₀ one_le_two (by omega)
  · refine not_lt.1 fun hlt ↦ absurd hhigh (not_lt_of_ge ?_)
    have hlength : (10 : ℚ) ^ ((Decimal.length s - 1 : ℕ) : ℤ) ≤ s := by
      exact_mod_cast Decimal.pow_length_le hs
    have hpos := Decimal.length_pos hs
    calc (2 : ℚ) ^ (1024 : ℤ) ≤ 2 ^ (3 * (k + (Decimal.length s - 1 : ℕ))) :=
          zpow_le_zpow_right₀ one_le_two (by omega)
      _ ≤ 10 ^ (k + (Decimal.length s - 1 : ℕ)) := le_ten_zpow (by omega)
      _ = 10 ^ ((Decimal.length s - 1 : ℕ) : ℤ) * 10 ^ k := by
          rw [← zpow_add₀ (by norm_num), Int.add_comm]
      _ ≤ s * 10 ^ k := mul_le_mul_of_nonneg_right hlength hpow.le

/-- A decimal in the interval of a double is converted to it. -/
theorem ofFloat?_ofDecimal (hm : 0 < m) (hc : Canonical m e) (h : RoundsTo (s * 10 ^ k) m e) :
    Parts.ofFloat? (Number.ofDecimal s k) = some ⟨false, m, e⟩ := by
  have hs := pos_of_roundsTo h hm hc
  obtain ⟨hlow, hhigh⟩ := h.range hm hc
  obtain ⟨hbottom, htop⟩ := top_bounds hs hlow hhigh
  have hunpacked : (⟨false, m, e⟩ : Parts).unpacked = .finite .positive m e hm := dif_pos hm
  unfold Number.ofDecimal
  dsimp only
  rw [if_neg (by omega), if_neg (by omega), ofScientific_eq hm hc h, ← hunpacked]
  exact ofFloat?_pack hc

theorem ofFloat?_ofDecimal_zero (k : ℤ) :
    Parts.ofFloat? (Number.ofDecimal 0 k) = some ⟨false, 0, Parts.leastExponent⟩ := by
  unfold Number.ofDecimal
  dsimp only
  rw [if_pos (.inl rfl)]
  decide +kernel

variable {x : Float} {p : Parts}

/-- The decimal of a double is converted to its magnitude. -/
theorem ofFloat?_ofDecimal_digits (hp : Parts.ofFloat? x = some p)
    (h : (s * 10 ^ k : ℚ) = (Decimal.digits p.mantissa p.exponent).value) :
    Parts.ofFloat? (Number.ofDecimal s k) = some ⟨false, p.mantissa, p.exponent⟩ := by
  have hc := canonical_of_parts hp
  obtain hzero | hm := Nat.eq_zero_or_pos p.mantissa
  · have hleast : p.exponent = Parts.leastExponent := hc.normal.resolve_left (by omega)
    obtain rfl : s = 0 := by
      rw [hzero, Decimal.digits, if_pos rfl, Decimal.Digits.value, Nat.cast_zero, zero_mul] at h
      exact_mod_cast (mul_eq_zero.1 h).resolve_right (zpow_ne_zero k (by norm_num))
    rw [hzero, hleast]
    exact ofFloat?_ofDecimal_zero k
  · exact ofFloat?_ofDecimal hm hc (h ▸ Decimal.roundsTo_digits hm hc.lt p.exponent)

/-- The decimal of a double is read as the double, with its sign. -/
theorem signed_eq (hp : Parts.ofFloat? x = some p)
    (h : (s * 10 ^ k : ℚ) = (Decimal.digits p.mantissa p.exponent).value) :
    signed p.negative s k = some (.real x) := by
  have hmagnitude := ofFloat?_ofDecimal_digits hp h
  unfold signed
  dsimp only
  rw [if_pos (isFinite_of_parts hmagnitude)]
  obtain ⟨negative, m, e⟩ := p
  cases negative
  · exact congrArg (some ∘ Number.real) (eq_of_parts hmagnitude hp)
  · exact congrArg (some ∘ Number.real) (eq_of_parts (ofFloat?_neg hmagnitude) hp)

end Converted

/-- What is written of a decimal, without its sign. -/
def unsignedChars (d : Decimal.Digits) : List Char :=
  let ds := digitsOf d.significand
  let power := d.exponent + ds.length - 1
  if d.significand = 0 ∨
      (Number.shape.positionalFrom ≤ power ∧ power < Number.shape.positionalBelow) then
    positional ds (if d.significand = 0 then 1 else power + 1)
  else scientific Number.shape ds power

theorem written_eq (p : Parts) : written Number.shape p =
    (if p.negative then ['-'] else []) ++
      unsignedChars (Decimal.digits p.mantissa p.exponent) := rfl

/-- The digits of a decimal are read as the decimal, in either layout. -/
theorem reads_unsignedChars (negative : Bool) (d : Decimal.Digits) :
    Reads negative (unsignedChars d) d.value := by
  have hds := isWhole_digitsOf d.significand
  have hnat := natOf_digitsOf d.significand
  have hexponent : d.exponent + (digitsOf d.significand).length - 1 + 1 -
      (digitsOf d.significand).length = d.exponent := by omega
  unfold unsignedChars Decimal.Digits.value
  dsimp only
  split
  next =>
    by_cases hzero : d.significand = 0
    · have hread := reads_positional negative hds 1 fun _ ↦ le_rfl
      rw [hnat, hzero, Nat.cast_zero, zero_mul] at hread
      rw [if_pos hzero, hzero, Nat.cast_zero, zero_mul]
      exact hread
    · have hhead := Decimal.head?_digitsOf (Nat.pos_of_ne_zero hzero)
      have hread := reads_positional negative hds
        (d.exponent + (digitsOf d.significand).length - 1 + 1)
        fun h ↦ absurd (congrArg List.head? h) hhead
      rw [hnat, hexponent] at hread
      rw [if_neg hzero]
      exact hread
  next =>
    have hread := reads_scientific negative hds (d.exponent + (digitsOf d.significand).length - 1)
    rw [hnat, hexponent] at hread
    exact hread

/-- A number starts with a digit. -/
theorem exists_digit_of_number? {negative : Bool} {t : List Char} {q : Option Number × List Char}
    (h : number? negative t = some q) : ∃ c w, t = c :: w ∧ c.isDigit = true := by
  cases t with
  | nil => cases h
  | cons c w =>
    refine ⟨c, w, rfl, ?_⟩
    by_contra hc
    have hwhole : Token.whole? (c :: w) = none := by
      rw [Token.whole?, Token.digits, List.takeWhile_cons_of_neg hc]
      rintro _ ⟨⟩
      exact hc rfl
    rw [number?, hwhole] at h
    cases h

theorem next?_digit {c : Char} (hc : c.isDigit = true) (w : List Char) :
    next? noStray (c :: w) = (number? false (c :: w)).map fun q ↦ (.number q.1, q.2) := by
  rw [next?]
  all_goals
    rintro _ ⟨⟩
    revert hc
    decide

theorem isBlank_of_isDigit {c : Char} (hc : c.isDigit = true) : isBlank c = false := by
  refine Bool.eq_false_iff.2 fun hblank ↦ ?_
  have hcases : c = ' ' ∨ c = '\t' ∨ c = '\n' ∨ c = '\r' := by
    simpa [isBlank, or_assoc] using hblank
  rcases hcases with rfl | rfl | rfl | rfl <;> cases hc

/-- What is written of a finite double is read as that double. -/
theorem readsBack_real {x : Float} (hx : x.isFinite = true) : (Number.real x).ReadsBack := by
  obtain ⟨p, hp⟩ := exists_parts hx
  intro r hr
  have hchars : (Number.real x).chars = written Number.shape p := by
    rw [Number.chars, hp]
  rw [hchars, written_eq]
  obtain ⟨s, k, hread, hvalue⟩ := reads_unsignedChars p.negative _ r hr
  rw [signed_eq hp hvalue] at hread
  generalize unsignedChars (Decimal.digits p.mantissa p.exponent) = text at *
  obtain ⟨c, w, htext, hdigit⟩ := exists_digit_of_number? hread
  have hlength : r.length ≤ w.length := by
    cases text with
    | nil =>
      -- what follows a number does not start with a digit
      obtain rfl : r = c :: w := htext
      exact absurd hdigit (Bool.eq_false_iff.1 (hr c rfl).1)
    | cons d ds =>
      obtain rfl : ds ++ r = w := (List.cons.inj htext).2
      rw [List.length_append]
      exact Nat.le_add_left _ _
  cases hsign : p.negative with
  | true =>
    rw [hsign] at hread
    refine ⟨'-', text ++ r, rfl, rfl, ?_, ?_⟩
    · rw [List.length_append]
      exact Nat.le_add_left _ _
    · change (number? true (text ++ r)).map _ = _
      rw [hread]
      rfl
  | false =>
    rw [hsign] at hread
    refine ⟨c, w, htext, isBlank_of_isDigit hdigit, hlength, ?_⟩
    rw [next?_digit hdigit, ← htext, hread]
    rfl

end Rearrangement.Json
