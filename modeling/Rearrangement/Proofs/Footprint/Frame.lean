import Mathlib.Algebra.Order.Field.Basic
import Mathlib.Tactic.Linarith
import Mathlib.Tactic.LinearCombination
import Rearrangement.Proofs.Scalar.Exact

/-!
# Footprints in their own frame

A footprint is made of a centre, two extents and a direction.  In exact arithmetic the direction
makes a frame around the centre, in which a point lies so far along the depth axis and so far across
it (`Frame.along`, `Frame.across`).  There the corners are those of an upright rectangle, and the
side of an edge on which a point lies is an extent times the signed distance from that edge
(`Frame.sides_footprint`).  Hence the signs of the sides tell whether the point is within half
the extent on both axes (`Footprint.ofDirection_exact`).

If an extent is zero, two of the edges are points and have no sides.  What is left of the test does
not bound the coordinate on the other axis (`Frame.contains_footprint`).

## Main statements

* `Frame.isRectangle_footprint`, `Frame.centroid_footprint`: the corners are those of a rectangle
  around the centre.
* `Frame.contains_footprint`: which points a footprint contains, for any extents.
* `Footprint.ofDirection_exact`: all of it for extents that are not zero, whatever their signs.

The test is by the signs of four products.  In the frame each of them is a distance times an extent,
so a negative extent turns all four signs at once, and the test, which accepts either sign, does not
notice.
-/

namespace Rearrangement

variable {R : Type}

/-- The point as seen from a centre. -/
def Point.seenFrom [Scalar R] (p center : Point R) : Point R := ⟨p.x - center.x, p.y - center.y⟩

def Point.dot [Scalar R] (p q : Point R) : R := p.x * q.x + p.y * q.y

/-- Axes through a point of the table: that of depth has the direction `(cs, sn)`, that of width the
direction `(sn, -cs)`. -/
structure Frame (R : Type) where
  center : Point R
  cs : R
  sn : R

variable [ExactScalar R]

/-- The corners are those of a rectangle with sides of the given lengths. -/
structure Footprint.IsRectangle (f : Footprint R) (width depth : R) : Prop where
  opposite : f.second.seenFrom f.first = f.third.seenFrom f.fourth
  square : (f.second.seenFrom f.first).dot (f.fourth.seenFrom f.first) = 0
  depth_sq : (f.second.seenFrom f.first).dot (f.second.seenFrom f.first) = depth ^ 2
  width_sq : (f.fourth.seenFrom f.first).dot (f.fourth.seenFrom f.first) = width ^ 2

/-- The front is in the middle between two corners. -/
theorem Footprint.seenFrom_front (f : Footprint R) :
    f.front.seenFrom f.first = f.fourth.seenFrom f.front := by
  simp only [front, Point.midpoint, Point.seenFrom, ExactScalar.ofNat_eq, ExactScalar.ofNat_one,
    Point.mk.injEq]
  constructor <;> ring

/-- A point is inside if no edge has it on the one side, or none on the other. -/
theorem Footprint.contains_iff {f : Footprint R} {p : Point R} : f.contains p = true ↔
    (∀ c ∈ f.sides p, c ≤ 0) ∨ ∀ c ∈ f.sides p, 0 ≤ c := by
  rw [contains, Bool.not_eq_true', Bool.and_eq_false_iff, List.any_eq_false, List.any_eq_false]
  simp only [ExactScalar.ofNat_zero, decide_eq_true_eq, not_lt]

namespace Frame

/-- The coordinate on the depth axis. -/
def along (f : Frame R) (p : Point R) : R := (p.seenFrom f.center).dot ⟨f.cs, f.sn⟩

/-- The coordinate on the width axis. -/
def across (f : Frame R) (p : Point R) : R := (p.seenFrom f.center).dot ⟨f.sn, -f.cs⟩

/-- The point with the given coordinates. -/
def point (f : Frame R) (along across : R) : Point R :=
  ⟨f.center.x + along * f.cs + across * f.sn, f.center.y + along * f.sn - across * f.cs⟩

/-- The footprint with the given extents. -/
def footprint (f : Frame R) (width depth : R) : Footprint R :=
  .ofDirection f.center width depth f.cs f.sn

/-- On both axes the point is within half the extent. -/
structure Covers (f : Frame R) (width depth : R) (p : Point R) : Prop where
  along : |f.along p| ≤ |depth| / 2
  across : |f.across p| ≤ |width| / 2

variable {f : Frame R} {width depth : R} {p : Point R}

/-- A frame covers a point if neither distance from the centre is more than half a side. -/
theorem covers_iff : f.Covers width depth p ↔
    |f.along p| ≤ |depth| / 2 ∧ |f.across p| ≤ |width| / 2 :=
  ⟨fun h ↦ ⟨h.along, h.across⟩, fun h ↦ ⟨h.1, h.2⟩⟩

/-- The middle of the four corners is the centre of the frame. -/
theorem centroid_footprint (f : Frame R) (width depth : R) :
    (f.footprint width depth).centroid = f.center := by
  obtain ⟨⟨x, y⟩, cs, sn⟩ := f
  simp only [Footprint.centroid, footprint, Footprint.ofDirection, ExactScalar.ofNat_eq,
    Point.mk.injEq]
  constructor <;> ring

theorem front_footprint (f : Frame R) (width depth : R) :
    (f.footprint width depth).front = f.point (-(depth / 2)) 0 := by
  simp only [Footprint.front, Point.midpoint, footprint, Footprint.ofDirection, point,
    ExactScalar.ofNat_eq, ExactScalar.ofNat_one, Point.mk.injEq]
  constructor <;> ring

/-! ### Axes at a right angle -/

section Turned

variable (h : f.cs ^ 2 + f.sn ^ 2 = 1)
include h

/-- The distances of a point that is given by its distances are these. -/
theorem along_point (x y : R) : f.along (f.point x y) = x := by
  simp only [along, point, Point.seenFrom, Point.dot]
  linear_combination x * h

theorem across_point (x y : R) : f.across (f.point x y) = y := by
  simp only [across, point, Point.seenFrom, Point.dot]
  linear_combination y * h

/-- The axes measure what those of the table do. -/
theorem along_sq_add_across_sq (p : Point R) :
    f.along p ^ 2 + f.across p ^ 2 = (p.seenFrom f.center).dot (p.seenFrom f.center) := by
  simp only [along, across, Point.seenFrom, Point.dot]
  linear_combination ((p.x - f.center.x) ^ 2 + (p.y - f.center.y) ^ 2) * h

/-- A point that is covered is no farther from the centre than half of the diagonal. -/
theorem Covers.dot_le (hcovers : f.Covers width depth p) :
    (p.seenFrom f.center).dot (p.seenFrom f.center) ≤ (width ^ 2 + depth ^ 2) / 4 := by
  have halong : f.along p ^ 2 ≤ (|depth| / 2) ^ 2 :=
    sq_le_sq' (abs_le.1 hcovers.along).1 (abs_le.1 hcovers.along).2
  have hacross : f.across p ^ 2 ≤ (|width| / 2) ^ 2 :=
    sq_le_sq' (abs_le.1 hcovers.across).1 (abs_le.1 hcovers.across).2
  rw [div_pow, sq_abs] at halong hacross
  rw [← along_sq_add_across_sq h]
  linarith

/-- The corners are those of a rectangle with the given sides. -/
theorem isRectangle_footprint : (f.footprint width depth).IsRectangle width depth := by
  constructor
  all_goals simp only [footprint, Footprint.ofDirection, Point.seenFrom, Point.dot,
    ExactScalar.ofNat_eq, Point.mk.injEq]
  · constructor <;> ring
  · ring
  · linear_combination depth ^ 2 * h
  · linear_combination width ^ 2 * h

/-- The side of an edge on which a point lies tells how far it is from the edge. -/
theorem sides_footprint (p : Point R) : (f.footprint width depth).sides p =
    [-(depth * f.across p + depth * width / 2), width * f.along p - depth * width / 2,
      depth * f.across p - depth * width / 2, -(width * f.along p + depth * width / 2)] := by
  simp only [Footprint.sides, Footprint.side, footprint, Footprint.ofDirection, along, across,
    Point.seenFrom, Point.dot, ExactScalar.ofNat_eq, List.cons.injEq, and_true]
  refine ⟨?_, ?_, ?_, ?_⟩
  all_goals linear_combination (-(depth * width) / 2) * h

/-- Times the other extent, the bound is the same for both coordinates. -/
theorem contains_footprint_mul : (f.footprint width depth).contains p = true ↔
    |width * f.along p| ≤ |depth * width / 2| ∧ |depth * f.across p| ≤ |depth * width / 2| := by
  rw [Footprint.contains_iff, sides_footprint h]
  generalize width * f.along p = a, depth * f.across p = b, depth * width / 2 = c
  -- the sign of `c` tells which way round the corners go
  have hsigns : ((∀ s ∈ [-(b + c), a - c, b - c, -(a + c)], s ≤ 0) ↔ |a| ≤ c ∧ |b| ≤ c) ∧
      ((∀ s ∈ [-(b + c), a - c, b - c, -(a + c)], 0 ≤ s) ↔ |a| ≤ -c ∧ |b| ≤ -c) := by
    simp only [List.forall_mem_cons, abs_le]
    constructor
    all_goals
      constructor
      · rintro ⟨h₁, h₂, h₃, h₄, -⟩
        refine ⟨⟨?_, ?_⟩, ?_, ?_⟩ <;> linarith
      · rintro ⟨⟨h₁, h₂⟩, h₃, h₄⟩
        refine ⟨?_, ?_, ?_, ?_, nofun⟩ <;> linarith
  rw [hsigns.1, hsigns.2, ← max_le_iff, ← max_le_iff, ← max_le_iff, le_abs]

/-- A footprint bounds each coordinate by half the extent on its axis, unless the other extent is
zero. -/
theorem contains_footprint : (f.footprint width depth).contains p = true ↔
    (width ≠ 0 → |f.along p| ≤ |depth| / 2) ∧ (depth ≠ 0 → |f.across p| ≤ |width| / 2) := by
  have hcancel (extent other x : R) :
      |extent * x| ≤ |extent * other / 2| ↔ (extent ≠ 0 → |x| ≤ |other| / 2) := by
    rcases eq_or_ne extent 0 with rfl | hextent
    · simp
    · rw [mul_div_assoc, abs_mul, abs_mul, mul_le_mul_iff_right₀ (abs_pos.2 hextent), abs_div,
        abs_two]
      exact ⟨fun hle _ ↦ hle, fun hle ↦ hle hextent⟩
  rw [contains_footprint_mul h, ← hcancel, ← hcancel, mul_comm width depth]

/-- If no side is zero, the half planes of the four edges meet in what the frame covers. -/
theorem contains_footprint_of_ne_zero (hwidth : width ≠ 0) (hdepth : depth ≠ 0) :
    (f.footprint width depth).contains p = true ↔ f.Covers width depth p := by
  rw [contains_footprint h, forall_prop_of_true hwidth, forall_prop_of_true hdepth, covers_iff]

end Turned

end Frame

/-- The corners of a footprint are those of a rectangle around its centre, with sides as long as the
extents; the front is the middle of one side and half a depth before the centre; the footprint
contains the points that are within half the extent on both axes, whatever signs the extents
have. -/
theorem Footprint.ofDirection_exact (center : Point R) {width depth cs sn : R} (hwidth : width ≠ 0)
    (hdepth : depth ≠ 0) (h : cs ^ 2 + sn ^ 2 = 1) :
    let f := Footprint.ofDirection center width depth cs sn
    let frame : Frame R := ⟨center, cs, sn⟩
    (f.IsRectangle width depth ∧ f.centroid = center) ∧
      (f.front.seenFrom f.first = f.fourth.seenFrom f.front ∧
        (frame.along f.front = -(depth / 2) ∧ frame.across f.front = 0) ∧
        (f.front.seenFrom center).dot (f.front.seenFrom center) = (depth / 2) ^ 2) ∧
      (∀ p, f.contains p = true ↔ frame.Covers width depth p) ∧
      ∀ width' depth', |width'| = |width| → |depth'| = |depth| → ∀ p,
        (Footprint.ofDirection center width' depth' cs sn).contains p = f.contains p := by
  intro f frame
  have hfront : f.front = frame.point (-(depth / 2)) 0 := frame.front_footprint width depth
  have halong : frame.along f.front = -(depth / 2) := by
    rw [hfront, Frame.along_point h]
  have hacross : frame.across f.front = 0 := by
    rw [hfront, Frame.across_point h]
  have hcontains (p : Point R) : f.contains p = true ↔ frame.Covers width depth p :=
    Frame.contains_footprint_of_ne_zero (f := frame) h hwidth hdepth
  refine ⟨⟨Frame.isRectangle_footprint (f := frame) h, frame.centroid_footprint width depth⟩,
    ⟨seenFrom_front f, ⟨halong, hacross⟩, ?_⟩, hcontains, fun width' depth' hw hd p ↦ ?_⟩
  · have hdistance := Frame.along_sq_add_across_sq (f := frame) h f.front
    rw [← hdistance, halong, hacross]
    ring
  · -- what a frame covers depends on the absolute values of the sides
    have hwidth' : width' ≠ 0 := by rwa [← abs_pos, hw, abs_pos]
    have hdepth' : depth' ≠ 0 := by rwa [← abs_pos, hd, abs_pos]
    have hcontains' : (frame.footprint width' depth').contains p = true ↔
        frame.Covers width' depth' p :=
      Frame.contains_footprint_of_ne_zero (f := frame) h hwidth' hdepth'
    rw [Bool.eq_iff_iff, hcontains]
    refine hcontains'.trans ?_
    rw [Frame.covers_iff, Frame.covers_iff, hw, hd]

/-- A slanted footprint with a negative depth contains its corners, but not what is beyond them. -/
theorem Footprint.ofDirection_exact_slanted :
    ((2 : ℝ) ≠ 0 ∧ (-4 : ℝ) ≠ 0 ∧ (3 / 5 : ℝ) ^ 2 + (4 / 5) ^ 2 = 1) ∧
      let f := Footprint.ofDirection (⟨1, 2⟩ : Point ℝ) 2 (-4) (3 / 5) (4 / 5)
      f.IsRectangle 2 (-4) ∧ f.contains ⟨3 / 5, -1 / 5⟩ = true ∧ f.contains ⟨0, 0⟩ = false := by
  have hwidth : (2 : ℝ) ≠ 0 := by norm_num
  have hdepth : (-4 : ℝ) ≠ 0 := by norm_num
  have h : (3 / 5 : ℝ) ^ 2 + (4 / 5) ^ 2 = 1 := by norm_num
  obtain ⟨⟨hrectangle, -⟩, -, hcontains, -⟩ := ofDirection_exact ⟨1, 2⟩ hwidth hdepth h
  refine ⟨⟨hwidth, hdepth, h⟩, hrectangle, (hcontains _).2 ⟨?_, ?_⟩, ?_⟩
  · norm_num [Frame.along, Point.seenFrom, Point.dot, abs_le]
  · norm_num [Frame.across, Point.seenFrom, Point.dot, abs_le]
  · rw [Bool.eq_false_iff]
    intro hinside
    have hbound : |Frame.along ⟨⟨1, 2⟩, 3 / 5, 4 / 5⟩ (⟨0, 0⟩ : Point ℝ)| ≤ |(-4 : ℝ)| / 2 :=
      ((hcontains _).1 hinside).along
    norm_num [Frame.along, Point.seenFrom, Point.dot, abs_le] at hbound

end Rearrangement
