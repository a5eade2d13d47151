import Rearrangement.Placement

/-!
# Lawful coordinates, and keeping inside bounds

`Scalar` asks nothing of its operations.  `LawfulScalar` asks what holds of doubles with rounding,
infinities and values that are not numbers, and of exact arithmetic as well: numbers are totally
preordered, nothing else compares, and a finite value taken from itself leaves less than `epsilon`.
`RangedScalar` asks that the places of actions are numbers: a finite value may be added to a number
and taken from one, and parts of a finite value are finite.  `DifferenceScalar` asks that what has a
positive difference is in order.

Keeping a value inside bounds twice is the same as once (`clamp?_clamp?`).  A drag in several pulls
leaves each coordinate as it was or puts it where keeping it inside changes nothing:
`World.Reaches`, and that is enough for the drag to be repeated in one go
(`World.Reaches.clampMoved?`).

## Main statements

* `clamp?_isSome_iff`, `clamp?_clamp?`: when a value can be kept inside, and that it then stays.
* `Grip.reaches_of_free?`, `Grip.reaches_of_alongAxis?`: where drags lead.
* `World.Reaches.clampMoved?`: replay leads there again.
-/

namespace Rearrangement

open Scalar

/-- The laws that doubles share with exact arithmetic. -/
class LawfulScalar (R : Type) [Scalar R] : Prop where
  isNumber_left {x y : R} : x ≤ y → IsNumber x
  isNumber_right {x y : R} : x ≤ y → IsNumber y
  le_trans {x y z : R} : x ≤ y → y ≤ z → x ≤ z
  le_total {x y : R} : IsNumber x → IsNumber y → x ≤ y ∨ y ≤ x
  lt_iff_le_not_ge {x y : R} : x < y ↔ x ≤ y ∧ ¬y ≤ x
  /-- The difference of a finite value and itself is no change of a coordinate. -/
  abs_sub_self {x : R} : IsNumber (x - x) → Scalar.abs (x - x) < epsilon

namespace Scalar

variable {R : Type} [Scalar R]

/-- `x` is a number and not infinite: it can be taken from itself. -/
abbrev IsFinite (x : R) : Prop := IsNumber (x - x)

end Scalar

/-- The laws by which what is computed from numbers is one. -/
class RangedScalar (R : Type) [Scalar R] : Prop where
  isNumber_zero : IsNumber (0 : R)
  isNumber_of_isFinite {x : R} : IsFinite x → IsNumber x
  isNumber_add {x y : R} : IsNumber x → IsFinite y → IsNumber (x + y)
  isNumber_sub {x y : R} : IsNumber x → IsFinite y → IsNumber (x - y)
  isFinite_half {x : R} : IsFinite x → IsFinite (x / 2)
  /-- The parts of a container by which its lid is set aside. -/
  isFinite_parts {x : R} : IsFinite x → IsFinite (x * (7 / 10)) ∧ IsFinite (x * (3 / 10))

/-- The law by which the bounds of what has an extent are in order. -/
class DifferenceScalar (R : Type) [Scalar R] : Prop where
  le_of_sub_pos {x y : R} : 0 < y - x → x ≤ y

namespace Scalar

variable {R : Type} [Scalar R] {lo hi x y : R}

/-- Between bounds in order, clamping gives the bound that is passed or the number itself. -/
theorem clamp?_of_le (h : lo ≤ hi) (x : R) :
    clamp? lo hi x = some (if x < lo then lo else if hi < x then hi else x) := if_pos h

/-- Clamping fails exactly if the bounds are out of order. -/
theorem clamp?_isSome_iff : (clamp? lo hi x).isSome ↔ lo ≤ hi := by
  unfold clamp?
  split <;> simp_all

variable [LawfulScalar R]

theorem not_lt_self (x : R) : ¬x < x := fun h ↦
  (LawfulScalar.lt_iff_le_not_ge.1 h).2 (LawfulScalar.lt_iff_le_not_ge.1 h).1

theorem not_lt_of_le (h : x ≤ y) : ¬y < x := fun hlt ↦ (LawfulScalar.lt_iff_le_not_ge.1 hlt).2 h

/-- Bounds are numbers, and so is what is kept inside them. -/
theorem isNumber_of_clamp? (hx : IsNumber x) (h : clamp? lo hi x = some y) : IsNumber y := by
  have hle : lo ≤ hi := clamp?_isSome_iff.1 (by rw [h]; rfl)
  rw [clamp?_of_le hle] at h
  obtain rfl := Option.some.inj h
  split
  · exact LawfulScalar.isNumber_left hle
  · split
    · exact LawfulScalar.isNumber_right hle
    · exact hx

/-- A value that is kept inside bounds stays where it is. -/
theorem clamp?_clamp? (h : clamp? lo hi x = some y) : clamp? lo hi y = some y := by
  have hle : lo ≤ hi := clamp?_isSome_iff.1 (by rw [h]; rfl)
  rw [clamp?_of_le hle] at h ⊢
  by_cases hlo : x < lo
  · obtain rfl : lo = y := by simpa [hlo] using h
    rw [if_neg (not_lt_self _), if_neg (not_lt_of_le hle)]
  · by_cases hhi : hi < x
    · obtain rfl : hi = y := by simpa [hlo, hhi] using h
      rw [if_neg (not_lt_of_le hle), if_neg (not_lt_self _)]
    · obtain rfl : x = y := by simpa [hlo, hhi] using h
      rw [if_neg hlo, if_neg hhi]

theorem le_of_not_lt (hx : IsNumber x) (hy : IsNumber y) (h : ¬x < y) : y ≤ x := by
  rcases LawfulScalar.le_total hy hx with hle | hle
  · exact hle
  · exact Decidable.byContradiction fun hnot ↦ h (LawfulScalar.lt_iff_le_not_ge.2 ⟨hle, hnot⟩)

/-- What is kept inside bounds lies between them, if it is a number. -/
theorem between_of_clamp? (h : clamp? lo hi x = some y) (hy : IsNumber y) : lo ≤ y ∧ y ≤ hi := by
  have hle : lo ≤ hi := clamp?_isSome_iff.1 (by rw [h]; rfl)
  rw [clamp?_of_le hle] at h
  obtain rfl := Option.some.inj h
  split at hy
  next hlo =>
    rw [if_pos hlo]
    exact ⟨hy, hle⟩
  next hlo =>
    rw [if_neg hlo]
    split at hy
    next hhi =>
      rw [if_pos hhi]
      exact ⟨hle, hy⟩
    next hhi =>
      rw [if_neg hhi]
      exact ⟨le_of_not_lt hy (LawfulScalar.isNumber_left hle) hlo,
        le_of_not_lt (LawfulScalar.isNumber_right hle) hy hhi⟩

end Scalar

/-! ## Where drags lead -/

section Reaches

variable {R : Type} [Scalar R]

/-- From `p`, a drag may lead to `q`: each coordinate is what it was, or one that stays where it is
when it is kept inside. -/
def World.Reaches (w : World R) (p q : Point R) : Prop :=
  (q.x = p.x ∨ Scalar.clamp? w.xMin w.xMax q.x = some q.x) ∧
    (q.y = p.y ∨ Scalar.clamp? w.yMin w.yMax q.y = some q.y)

variable {w : World R} {p q r : Point R} {g : Grip R} {pixel : Point R} {v : Viewport R}

theorem World.reaches_self (w : World R) (p : Point R) : w.Reaches p p := ⟨.inl rfl, .inl rfl⟩

/-- A point is clamped on each axis. -/
theorem World.clamp?_eq_some : w.clamp? p = some q ↔
    Scalar.clamp? w.xMin w.xMax p.x = some q.x ∧ Scalar.clamp? w.yMin w.yMax p.y = some q.y := by
  obtain ⟨x, y⟩ := q
  simp [World.clamp?, Option.bind_eq_some_iff]

theorem World.ordered_of_clamp? (h : w.clamp? p = some q) : w.Ordered := by
  obtain ⟨hx, hy⟩ := World.clamp?_eq_some.1 h
  exact ⟨clamp?_isSome_iff.1 (by rw [hx]; rfl), clamp?_isSome_iff.1 (by rw [hy]; rfl)⟩

instance (w : World R) : Decidable w.Ordered := inferInstanceAs (Decidable (_ ∧ _))

theorem World.Ordered.clamp?_isSome (hw : w.Ordered) (p : Point R) : ∃ q, w.clamp? p = some q :=
  ⟨⟨_, _⟩, World.clamp?_eq_some.2 ⟨clamp?_of_le hw.1 p.x, clamp?_of_le hw.2 p.y⟩⟩

variable [LawfulScalar R]

/-- A free drag leads to where the world can be reached from anywhere. -/
theorem Grip.reaches_of_free? (h : g.free? pixel v = some q) : v.world.Reaches p q := by
  obtain ⟨hx, hy⟩ := World.clamp?_eq_some.1 h
  exact ⟨.inr (clamp?_clamp? hx), .inr (clamp?_clamp? hy)⟩

/-- A pull along one axis keeps the other coordinate where the pulls before have led it. -/
theorem Grip.reaches_of_alongAxis? (hg : v.world.Reaches p g.origin)
    (h : g.alongAxis? pixel v = some q) : v.world.Reaches p q := by
  unfold Grip.alongAxis? at h
  simp only at h
  split at h
  · obtain rfl : g.origin = q := Option.some.inj h
    exact hg
  · split at h
    · obtain ⟨inside, hinside, rfl⟩ := Option.map_eq_some_iff.1 h
      exact ⟨.inr (clamp?_clamp? (World.clamp?_eq_some.1 hinside).1), hg.2⟩
    · obtain ⟨inside, hinside, rfl⟩ := Option.map_eq_some_iff.1 h
      exact ⟨hg.1, .inr (clamp?_clamp? (World.clamp?_eq_some.1 hinside).2)⟩

/-- Where a replayed drag leads, it leads again. -/
theorem World.clampMoved?_clampMoved? (h : w.clampMoved? p q = some r) :
    w.clampMoved? p r = some r := by
  obtain ⟨inside, hinside, hr⟩ := Option.map_eq_some_iff.1 h
  obtain ⟨again, hagain⟩ := (World.ordered_of_clamp? hinside).clamp?_isSome r
  obtain ⟨hinx, hiny⟩ := World.clamp?_eq_some.1 hinside
  obtain ⟨hagx, hagy⟩ := World.clamp?_eq_some.1 hagain
  -- a coordinate that stays where it was stays there again, and any other one is inside by now
  have axis {a b b' c d : R} {lo hi : R} (hb : (if Scalar.abs (b - a) < epsilon then b else c) = b')
      (hc : Scalar.clamp? lo hi b = some c) (hd : Scalar.clamp? lo hi b' = some d) :
      (if Scalar.abs (b' - a) < epsilon then b' else d) = b' := by
    split at hb
    next hnear =>
      subst hb
      exact if_pos hnear
    next =>
      subst hb
      obtain rfl := Option.some.inj ((clamp?_clamp? hc).symm.trans hd)
      exact ite_self _
  rw [World.clampMoved?, hagain, Option.map_some, axis (congrArg Point.x hr) hinx hagx,
    axis (congrArg Point.y hr) hiny hagy]

/-- Where drags lead from a finite place, the place can be reached again in one go. -/
theorem World.Reaches.clampMoved? (h : w.Reaches p q) (hw : w.Ordered) (hx : IsFinite p.x)
    (hy : IsFinite p.y) : w.clampMoved? p q = some q := by
  obtain ⟨inside, hinside⟩ := hw.clamp?_isSome q
  obtain ⟨hinx, hiny⟩ := World.clamp?_eq_some.1 hinside
  have axis {a b c : R} {lo hi : R} (ha : IsFinite a)
      (hb : b = a ∨ Scalar.clamp? lo hi b = some b) (hc : Scalar.clamp? lo hi b = some c) :
      (if Scalar.abs (b - a) < epsilon then b else c) = b := by
    split
    next => rfl
    next hfar =>
      rcases hb with rfl | hb
      · exact absurd (LawfulScalar.abs_sub_self ha) hfar
      · exact Option.some.inj (hc.symm.trans hb)
  rw [World.clampMoved?, hinside, Option.map_some, axis hx h.1 hinx, axis hy h.2 hiny]

end Reaches

end Rearrangement
