import Mathlib.Data.Finset.Order
import Rearrangement.Proofs.Cells.Grasp
import Rearrangement.Proofs.Scene.Topmost
import Rearrangement.Proofs.Viewport.Fit

/-!
# What a hit touches

In exact arithmetic an object that has both of its extents is hit only where it is: the point lies
in its own rectangle, and so no farther from its centre than half of the diagonal.  Sizes are never
looked at before, though, and the footprint of an object without one of the extents goes on forever
along an axis, beyond all objects that end somewhere (`SceneObject.exists_contains_beyond`).  So
hits can be relied on exactly if all objects of the scene have both extents (`Scene.hit_covers`).

## Main statements

* `Extended.contains_footprint`: an object of some extent contains what its frame covers.
* `Covers.dot_le`: which is near its centre.
* `exists_contains_beyond`: an object without one of its extents contains points beyond all others.
* `hit_covers`: hits can be relied on exactly if no object is without extent.
* `hit_crumb`: a hit in the middle of a world, on a crumb that lies in its corner.
-/

namespace Rearrangement

variable {R : Type} [ExactScalar R]

namespace SceneObject

/-- The axes of an object. -/
def frame (o : SceneObject R) : Frame R :=
  ⟨o.position.flat, Scalar.cos (-Scalar.toRadians o.orientation),
    Scalar.sin (-Scalar.toRadians o.orientation)⟩

/-- The point lies in the rectangle of the object. -/
def Covers (o : SceneObject R) (p : Point R) : Prop := o.frame.Covers o.size.x o.size.y p

/-- Neither extent is zero. -/
def Extended (o : SceneObject R) : Prop := o.size.x ≠ 0 ∧ o.size.y ≠ 0

/-- The footprint of an object is that of its frame. -/
theorem footprint_eq (o : SceneObject R) :
    o.footprint = o.frame.footprint o.size.x o.size.y := rfl

variable [CircleScalar R] {o b : SceneObject R} {p : Point R}

/-- The axes of the frame are unit vectors. -/
theorem frame_sq (o : SceneObject R) : o.frame.cs ^ 2 + o.frame.sn ^ 2 = 1 :=
  CircleScalar.cos_sq_add_sin_sq _

/-- The test by half planes is right for objects of some extent. -/
theorem Extended.contains_footprint (h : o.Extended) :
    o.footprint.contains p = true ↔ o.Covers p := by
  rw [footprint_eq, Frame.contains_footprint_of_ne_zero o.frame_sq h.1 h.2]
  rfl

/-- A point of an object is no farther from its centre than half of the diagonal. -/
theorem Covers.dot_le (h : o.Covers p) :
    (p.seenFrom o.position.flat).dot (p.seenFrom o.position.flat) ≤
      (o.size.x ^ 2 + o.size.y ^ 2) / 4 :=
  Frame.Covers.dot_le o.frame_sq h

/-- How far a point of an object can be from some other centre. -/
theorem Covers.dot_seenFrom_le (h : b.Covers p) (center : Point R) :
    (p.seenFrom center).dot (p.seenFrom center) ≤ (b.size.x ^ 2 + b.size.y ^ 2) / 2 +
      2 * (b.position.flat.seenFrom center).dot (b.position.flat.seenFrom center) := by
  have hle := h.dot_le
  simp only [Point.seenFrom, Point.dot] at hle ⊢
  linarith [sq_nonneg (p.x - b.position.flat.x - (b.position.flat.x - center.x)),
    sq_nonneg (p.y - b.position.flat.y - (b.position.flat.y - center.y))]

/-- Without one of the extents, a footprint contains points as far away as may be. -/
theorem exists_contains_far (h : ¬o.Extended) (t : R) : ∃ p, o.footprint.contains p = true ∧
    (p.seenFrom o.position.flat).dot (p.seenFrom o.position.flat) = t ^ 2 := by
  have hdistance (x y : R) : ((o.frame.point x y).seenFrom o.position.flat).dot
      ((o.frame.point x y).seenFrom o.position.flat) = x ^ 2 + y ^ 2 := by
    have hsum := Frame.along_sq_add_across_sq o.frame_sq (o.frame.point x y)
    rw [Frame.along_point o.frame_sq, Frame.across_point o.frame_sq] at hsum
    exact hsum.symm
  rcases not_and_or.1 h with hwidth | hdepth
  · refine ⟨o.frame.point t 0, ?_, by rw [hdistance]; ring⟩
    rw [footprint_eq, Frame.contains_footprint o.frame_sq, Frame.along_point o.frame_sq,
      Frame.across_point o.frame_sq]
    exact ⟨fun hne ↦ absurd hne hwidth, fun _ ↦ by rw [abs_zero]; positivity⟩
  · refine ⟨o.frame.point 0 t, ?_, by rw [hdistance]; ring⟩
    rw [footprint_eq, Frame.contains_footprint o.frame_sq, Frame.along_point o.frame_sq,
      Frame.across_point o.frame_sq]
    exact ⟨fun _ ↦ by rw [abs_zero]; positivity, fun hne ↦ absurd hne hdepth⟩

/-- Without one of the extents, a footprint goes beyond whatever objects there are. -/
theorem exists_contains_beyond (h : ¬o.Extended) (os : List (SceneObject R)) :
    ∃ p, o.footprint.contains p = true ∧ ∀ b ∈ os, ¬b.Covers p := by
  let reach (b : SceneObject R) : R := (b.size.x ^ 2 + b.size.y ^ 2) / 2 +
    2 * (b.position.flat.seenFrom o.position.flat).dot (b.position.flat.seenFrom o.position.flat)
  obtain ⟨m, hm⟩ := (os.map reach).toFinset.exists_le
  obtain ⟨p, hcontains, hdistance⟩ := exists_contains_far h (|m| + 1)
  refine ⟨p, hcontains, fun b hb hcovers ↦ ?_⟩
  have hreach : (|m| + 1) ^ 2 ≤ reach b := hdistance ▸ hcovers.dot_seenFrom_le o.position.flat
  have hle : reach b ≤ m := hm _ (List.mem_toFinset.2 (List.mem_map_of_mem hb))
  nlinarith [le_abs_self m, abs_nonneg m]

end SceneObject

namespace Scene

/-- An object that has both extents is hit only in its own rectangle, within half of the diagonal
from its centre.  Where pixels show all of the table, each hit is in the rectangle of the object
exactly if all objects of the scene have both extents. -/
theorem hit_covers [CircleScalar R] (s : Scene R) (v : Viewport R) :
    (∀ pixel id, s.hit? v pixel = some id → ∃ o, s.OnTop (v.toWorld pixel) o ∧ o.id = id ∧
      (o.Extended → o.Covers (v.toWorld pixel) ∧
        ((v.toWorld pixel).seenFrom o.position.flat).dot
          ((v.toWorld pixel).seenFrom o.position.flat) ≤ (o.size.x ^ 2 + o.size.y ^ 2) / 4)) ∧
      (0 < v.scale → ((∀ pixel id, s.hit? v pixel = some id →
          ∃ o, s.OnTop (v.toWorld pixel) o ∧ o.id = id ∧ o.Covers (v.toWorld pixel)) ↔
        ∀ o ∈ s.objects, o.Extended)) := by
  have hhit (pixel : Point R) (id : ObjectId) (h : s.hit? v pixel = some id) :
      ∃ o, s.OnTop (v.toWorld pixel) o ∧ o.id = id ∧ (o.Extended → o.Covers (v.toWorld pixel)) := by
    obtain ⟨o, htop, hid⟩ := (hit?_eq_some fun _ _ ↦ le_rfl).1 h
    exact ⟨o, htop, hid, fun hextended ↦ hextended.contains_footprint.1 htop.contains⟩
  refine ⟨fun pixel id h ↦ ?_, fun hv ↦ ⟨fun hcovers ↦ ?_, fun hextended pixel id h ↦ ?_⟩⟩
  · obtain ⟨o, htop, hid, hcovers⟩ := hhit pixel id h
    exact ⟨o, htop, hid, fun hextended ↦ ⟨hcovers hextended, (hcovers hextended).dot_le⟩⟩
  · -- an object without an extent is hit beyond all others, and beyond itself
    by_contra hnot
    push Not at hnot
    obtain ⟨o, ho, hflat⟩ := hnot
    obtain ⟨p, hcontains, hbeyond⟩ := SceneObject.exists_contains_beyond hflat s.objects
    have hp : v.toWorld (v.toCanvas p) = p := Viewport.toWorld_toCanvas hv p
    cases h : s.hit? v (v.toCanvas p) with
    | none =>
      have hnone := hit?_eq_none.1 h o ho
      rw [hp, hcontains] at hnone
      cases hnone
    | some id =>
      obtain ⟨b, htop, -, hb⟩ := hcovers _ _ h
      rw [hp] at hb
      exact hbeyond b htop.mem hb
  · obtain ⟨o, htop, hid, hcovers⟩ := hhit pixel id h
    exact ⟨o, htop, hid, hcovers (hextended o htop.mem)⟩

/-- A plate on which nothing stands, turned a little and with a negative depth. -/
noncomputable def plate : Scene ℝ :=
  ⟨"kitchen", "kitchen.png", [⟨"plate", "plate", .base, ⟨0, 1, 0⟩, 1, ⟨1, -1, 0⟩, none⟩]⟩

/-- A plate on a table one metre wide, seen at half its size. -/
theorem hit_covers_plate :
    (0 < (Cells.square 612 512).scale ∧ ∀ o ∈ plate.objects, o.Extended) ∧
      ∀ pixel id, plate.hit? (Cells.square 612 512) pixel = some id →
        ∃ o, plate.OnTop ((Cells.square 612 512).toWorld pixel) o ∧ o.id = id ∧
          o.Covers ((Cells.square 612 512).toWorld pixel) := by
  have hscale : 0 < (Cells.square 612 512).scale := (by norm_num : (0 : ℝ) < 512)
  have hextended : ∀ o ∈ plate.objects, o.Extended :=
    List.forall_mem_singleton.2 ⟨one_ne_zero, neg_ne_zero.2 one_ne_zero⟩
  exact ⟨⟨hscale, hextended⟩, ((hit_covers plate _).2 hscale).2 hextended⟩

/-- A scene of one crumb is loaded, and the crumb, which lies in one corner of the world, is hit in
the middle of it. -/
theorem hit_crumb :
    let c := (Cells.start ⟨⟨0, 1, 0, 1⟩, 50, 5⟩).run Cells.chooseCrumb
    let s : Scene ℝ := ⟨"kitchen", "kitchen.png", [Cells.crumb]⟩
    (c.scene = some s ∧ s.hit? c.viewport ⟨306, 306⟩ = some "crumb") ∧
      ¬Cells.crumb.Covers (c.viewport.toWorld ⟨306, 306⟩) := by
  intro c s
  have htop (p : Point ℝ) : s.OnTop p Cells.crumb :=
    ⟨[], [], rfl, SceneObject.contains_of_size_eq_zero rfl rfl p, nofun, nofun⟩
  refine ⟨⟨rfl, (hit?_eq_some fun _ _ ↦ le_rfl).2 ⟨_, htop _, rfl⟩⟩, fun hcovers ↦ ?_⟩
  have hle := hcovers.dot_le
  rw [show c.viewport = Cells.square 612 512 from Cells.viewport_chooseCrumb,
    Cells.toWorld_square (by norm_num)] at hle
  norm_num [Point.seenFrom, Point.dot, Cells.crumb, Vec3.flat] at hle

end Scene

end Rearrangement
