import Mathlib.Data.Prod.Lex
import Rearrangement.Binary64
import Rearrangement.Proofs.Scalar.Lawful

/-!
# Doubles are lawful coordinates

The comparison of doubles goes by cases on what the two values are.  `rank` sends each number to its
place in one linear order, and the comparison is the one of the ranks (`le_iff_rank`,
`lt_iff_rank`); the laws of the order are read off there.  A double taken from itself is zero if it
is finite and no number otherwise (`sub_self_eq`), so that `IsFinite` says of a double what it
should.

## Main statements

* `le_iff_rank`, `lt_iff_rank`: doubles are compared as their ranks are.
* `sub_self_eq`: what a double leaves when it is taken from itself.
* `isFinite_iff`: finite coordinates are finite doubles.

The laws themselves are fields of an instance, each of them one step from the ranks: no double
without a rank compares with anything, and the ranks are linearly ordered.
-/

namespace Rearrangement.Binary64

open Float.Model (UnpackedFloat Format)

/-! ## Ranks -/

/-- The place of a number among all doubles: by what it is, then by exponent, then by mantissa. -/
def rank : UnpackedFloat → Option (ℤ ×ₗ ℤ ×ₗ ℤ)
  | .notANumber => none
  | .infinity .negative => some (toLex (-2, toLex (0, 0)))
  | .finite .negative m e _ => some (toLex (-1, toLex (-e, -m)))
  | .zero _ => some (toLex (0, toLex (0, 0)))
  | .finite .positive m e _ => some (toLex (1, toLex (e, m)))
  | .infinity .positive => some (toLex (2, toLex (0, 0)))

/-- Values are compared as their ranks are; one that is no number has no rank. -/
theorem unpacked_le_iff (a b : UnpackedFloat) :
    a.le b = true ↔ ∃ x ∈ rank a, ∃ y ∈ rank b, x ≤ y := by
  rcases a with ⟨_ | _⟩ | _ | _ | ⟨_ | _, m, e, hm⟩ <;>
    rcases b with ⟨_ | _⟩ | _ | _ | ⟨_ | _, m', e', hm'⟩ <;>
    dsimp only [UnpackedFloat.le, UnpackedFloat.compare, rank] <;>
    simp [Prod.Lex.le_iff, compare, compareOfLessAndEq]
  all_goals split_ifs <;> simp <;> omega

theorem unpacked_lt_iff (a b : UnpackedFloat) :
    a.lt b = true ↔ ∃ x ∈ rank a, ∃ y ∈ rank b, x < y := by
  rcases a with ⟨_ | _⟩ | _ | _ | ⟨_ | _, m, e, hm⟩ <;>
    rcases b with ⟨_ | _⟩ | _ | _ | ⟨_ | _, m', e', hm'⟩ <;>
    dsimp only [UnpackedFloat.lt, UnpackedFloat.compare, rank] <;>
    simp [Prod.Lex.lt_iff, compare, compareOfLessAndEq]
  all_goals split_ifs <;> simp <;> omega

/-- The place of a double among all of them. -/
abbrev rankOf (x : Float) : Option (ℤ ×ₗ ℤ ×ₗ ℤ) := rank x.toModel.unpack

/-- Doubles are compared as their ranks are. -/
theorem le_iff_rank {x y : Float} : x ≤ y ↔ ∃ a ∈ rankOf x, ∃ b ∈ rankOf y, a ≤ b :=
  decide_eq_true_iff.trans (unpacked_le_iff _ _)

/-- The strict comparison is the one of the ranks, too. -/
theorem lt_iff_rank {x y : Float} : x < y ↔ ∃ a ∈ rankOf x, ∃ b ∈ rankOf y, a < b :=
  decide_eq_true_iff.trans (unpacked_lt_iff _ _)

/-! ## A double and itself -/

/-- A finite value taken from itself is zero; any other is no number. -/
theorem unpacked_sub_self (spec : Format) (u : UnpackedFloat) :
    UnpackedFloat.sub spec u u = if u.isFinite then .zero .positive else .notANumber := by
  rcases u with s | _ | s | ⟨s, m, e, hm⟩
  · cases s <;> rfl
  · rfl
  · cases s <;> rfl
  · -- both mantissas are brought to the same exponent, so the difference is an exact zero
    unfold UnpackedFloat.sub
    dsimp only
    rw [Int.sub_self]
    rfl

/-- A double taken from itself. -/
theorem sub_self_eq (x : Float) : x - x = if x.isFinite then 0 else nan := by
  change Float.ofModel (.pack (UnpackedFloat.sub .binary64 x.toModel.unpack x.toModel.unpack)) = _
  rw [unpacked_sub_self]
  change _ = if x.toModel.unpack.isFinite = true then (0 : Float) else nan
  split <;> decide +kernel

end Rearrangement.Binary64

namespace Rearrangement

open Scalar Binary64

/-- Finite coordinates are finite doubles. -/
theorem Binary64.isFinite_iff {x : Float} : IsFinite x ↔ x.isFinite = true := by
  change x - x ≤ x - x ↔ _
  rw [sub_self_eq]
  cases x.isFinite <;> decide +kernel

instance : LawfulScalar Float where
  isNumber_left h := by
    obtain ⟨a, ha, -⟩ := le_iff_rank.1 h
    exact le_iff_rank.2 ⟨a, ha, a, ha, le_refl a⟩
  isNumber_right h := by
    obtain ⟨-, -, b, hb, -⟩ := le_iff_rank.1 h
    exact le_iff_rank.2 ⟨b, hb, b, hb, le_refl b⟩
  le_trans h₁ h₂ := by
    obtain ⟨a, ha, b, hb, hab⟩ := le_iff_rank.1 h₁
    obtain ⟨b', hb', c, hc, hbc⟩ := le_iff_rank.1 h₂
    obtain rfl : b = b' := Option.mem_unique hb hb'
    exact le_iff_rank.2 ⟨a, ha, c, hc, le_trans hab hbc⟩
  le_total hx hy := by
    obtain ⟨a, ha, -⟩ := le_iff_rank.1 hx
    obtain ⟨b, hb, -⟩ := le_iff_rank.1 hy
    rcases le_total a b with h | h
    · exact .inl (le_iff_rank.2 ⟨a, ha, b, hb, h⟩)
    · exact .inr (le_iff_rank.2 ⟨b, hb, a, ha, h⟩)
  lt_iff_le_not_ge := by
    intro x y
    constructor
    · intro h
      obtain ⟨a, ha, b, hb, hab⟩ := lt_iff_rank.1 h
      refine ⟨le_iff_rank.2 ⟨a, ha, b, hb, le_of_lt hab⟩, fun hle ↦ ?_⟩
      obtain ⟨b', hb', a', ha', hba⟩ := le_iff_rank.1 hle
      obtain rfl : a = a' := Option.mem_unique ha ha'
      obtain rfl : b = b' := Option.mem_unique hb hb'
      exact absurd hba (not_le_of_gt hab)
    · rintro ⟨h, hnot⟩
      obtain ⟨a, ha, b, hb, hab⟩ := le_iff_rank.1 h
      refine lt_iff_rank.2 ⟨a, ha, b, hb, lt_of_not_ge fun hba ↦ hnot ?_⟩
      exact le_iff_rank.2 ⟨b, hb, a, ha, hba⟩
  abs_sub_self := by
    intro x h
    have hx : x.isFinite = true := isFinite_iff.1 h
    change Scalar.abs (x - x) < epsilon
    rw [sub_self_eq, if_pos hx]
    decide +kernel

end Rearrangement
