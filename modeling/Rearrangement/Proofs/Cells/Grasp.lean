import Mathlib.Analysis.SpecialFunctions.Complex.Arg
import Rearrangement.Proofs.Cells.Drag
import Rearrangement.Proofs.Footprint.Frame

/-!
# What stays under the pointer

The grip of a drag is a pixel and the centre of the object when it was taken.  A free drag moves the
centre by the way from the point that this pixel shows now to the point under the pointer.  So the
pointer lies as seen from the object as the pressed pixel now lies as seen from the place at which
the object was taken (`pressed_point_run`).  As long as that pixel shows the same point, this is
where the object was taken; if the canvas changes its size in the middle of a drag, the object slips
(`grasp_slips`).

## Main statements

* `Grip.seenFrom_ahead`: the object goes as far as the pointer has gone since it was taken.
* `pressed_point_run`: in exact arithmetic, after any moves and resizes of a free drag.
* `grasp_slips`: a canvas that shrinks in the middle of a drag.

Over doubles the equation would hold up to rounding only, which is why the coordinates are exact
here.  The moves themselves may go anywhere, and each of them is measured against the viewport as it
is then: only the last one has to be out of reach of the bounds.
-/

namespace Rearrangement

variable {R : Type}

namespace Session

variable [Scalar R] {s : Session R} {target : ObjectId} {reference : Option ObjectId} {g : Grip R}
  {o : SceneObject R} {pixel : Point R}

/-- If the bounds do not matter, the object is led as far as the pointer has gone. -/
theorem Holds.exists_ahead (h : s.Holds .move target reference g o)
    (hahead : s.viewport.world.clamp? (g.ahead pixel s.viewport) =
      some (g.ahead pixel s.viewport)) :
    ∃ o', (s.perform (.pointerMove pixel)).1.Holds .move target reference g o' ∧
      o'.position.flat = g.ahead pixel s.viewport := by
  have hfree : g.free? pixel s.viewport = some (g.ahead pixel s.viewport) := hahead
  obtain ⟨pose, hpose, hholds⟩ | ⟨hnowhere, -⟩ := h.perform_pointerMove pixel
  · refine ⟨_, hholds, ?_⟩
    obtain ⟨hkind, -⟩ | ⟨g', hg', ⟨hkind, -⟩ | ⟨-, hp⟩⟩ := followed_cases hpose
    · cases hkind
    · cases hkind
    · obtain rfl := Option.some.inj hg'
      exact Option.some.inj (hp.symm.trans hfree)
  · have hfollowed : ∃ pose, followed o .move (some g) pixel s.viewport = .ok (some pose) :=
      ⟨⟨⟨(g.ahead pixel s.viewport).x, (g.ahead pixel s.viewport).y, o.position.z⟩, o.orientation⟩,
        by simp only [followed, hfree]⟩
    exact absurd hfollowed.choose_spec (hnowhere _)

/-- Moves of the pointer leave the mapping alone. -/
theorem viewport_run_pointerMoves {ops : List (Operation R)}
    (hops : ∀ op ∈ ops, ∃ p, op = .pointerMove p) : (s.run ops).viewport = s.viewport := by
  induction ops generalizing s with
  | nil => rfl
  | cons op ops ih =>
    obtain ⟨⟨p, rfl⟩, hrest⟩ := List.forall_mem_cons.1 hops
    rw [run_cons, ih hrest, viewport_perform]

end Session

/-- Points that are seen alike from one centre are the same. -/
theorem Point.seenFrom_inj [ExactScalar R] {p q center : Point R} :
    p.seenFrom center = q.seenFrom center ↔ p = q := by
  obtain ⟨x, y⟩ := p
  obtain ⟨x', y'⟩ := q
  simp only [seenFrom, Point.mk.injEq]
  exact and_congr sub_left_inj sub_left_inj

/-- As far as the pointer has gone, so far has the object. -/
theorem Grip.seenFrom_ahead [ExactScalar R] (g : Grip R) (pixel : Point R) (v : Viewport R) :
    (v.toWorld pixel).seenFrom (g.ahead pixel v) = (v.toWorld g.pixel).seenFrom g.origin := by
  have hway (a b c : R) : a - (b + (a - c)) = c - b := by ring
  rw [Point.seenFrom, Point.seenFrom, Point.mk.injEq]
  exact ⟨hway _ _ _, hway _ _ _⟩

namespace Cells

section Runs

variable [Scalar R] {config : Config R} {ops pulls : List (Operation R)} {target : ObjectId}
  {reference : Option ObjectId} {down pixel : Point R} {o : SceneObject R}

/-- After a move that the bounds do not affect, the object is where its grip leads it. -/
theorem Grabs.exists_ahead
    (hgrabs : ((start config).run ops).Grabs .move target reference down o)
    (hpulls : ∀ op ∈ pulls, op.isPull) {v : Viewport R}
    (hv : v = (((start config).run ops).run (.pointerDown down :: pulls)).viewport)
    (hahead : v.world.clamp? (Grip.ahead ⟨down, o.position.flat⟩ pixel v) =
      some (Grip.ahead ⟨down, o.position.flat⟩ pixel v)) :
    ∃ o', (((start config).run ops).run
        (.pointerDown down :: (pulls ++ [.pointerMove pixel]))).object? target = some o' ∧
      o'.position.flat = Grip.ahead ⟨down, o.position.flat⟩ pixel v := by
  rw [run_start] at hgrabs
  obtain ⟨o₁, ho₁, -⟩ := (hgrabs.holds rfl).run (P := fun _ ↦ True)
    (fun _ _ _ _ _ _ _ ↦ trivial) trivial hpulls
  rw [run_pointerDown] at hv
  subst hv
  obtain ⟨o', ho', hplace⟩ := ho₁.exists_ahead hahead
  refine ⟨o', ?_, hplace⟩
  rw [run_pointerDown, Session.run_append]
  exact ho'.object?_cells

/-- Neither the press nor moves of the pointer touch the viewport. -/
theorem viewport_run_pointerDown (hmoves : ∀ op ∈ pulls, ∃ p, op = .pointerMove p) :
    (((start config).run ops).run (.pointerDown down :: pulls)).viewport =
      ((start config).run ops).viewport := by
  rw [run_pointerDown, run_start]
  exact (Session.viewport_run_pointerMoves hmoves).trans (Session.viewport_perform _ _)

theorem viewport_run_resize {width height : R} (hmoves : ∀ op ∈ pulls, ∃ p, op = .pointerMove p) :
    (((start config).run ops).run (.pointerDown down :: .resize width height :: pulls)).viewport =
      ((start config).run ops).viewport.resize width height := by
  rw [run_pointerDown, run_start, Session.run_cons]
  refine (Session.viewport_run_pointerMoves hmoves).trans ?_
  change (Session.perform _ _).1.viewport.resize width height = _
  rw [Session.viewport_perform]
  rfl

end Runs

/-- In exact arithmetic, after each move of a free drag that the bounds do not affect, the pointer
lies as seen from the object as the pressed pixel now lies as seen from where the object was taken.
It lies as it did then exactly if that pixel still shows the same point, and so it does as long as
the canvas keeps its size. -/
theorem pressed_point_run [ExactScalar R] (config : Config R) (ops : List (Operation R))
    {target : ObjectId} {reference : Option ObjectId} {down : Point R} {o : SceneObject R}
    (hgrabs : ((start config).run ops).Grabs .move target reference down o)
    {pulls : List (Operation R)} (hpulls : ∀ op ∈ pulls, op.isPull) (pixel : Point R) :
    let c := (start config).run ops
    let v := (c.run (.pointerDown down :: pulls)).viewport
    let ahead := Grip.ahead ⟨down, o.position.flat⟩ pixel v
    v.world.clamp? ahead = some ahead →
      ∃ o', (c.run (.pointerDown down :: (pulls ++ [.pointerMove pixel]))).object? target =
          some o' ∧
        (v.toWorld pixel).seenFrom o'.position.flat =
          (v.toWorld down).seenFrom o.position.flat ∧
        ((v.toWorld pixel).seenFrom o'.position.flat =
            (c.viewport.toWorld down).seenFrom o.position.flat ↔
          v.toWorld down = c.viewport.toWorld down) ∧
        ((∀ op ∈ pulls, ∃ p, op = .pointerMove p) →
          (v.toWorld pixel).seenFrom o'.position.flat =
            (c.viewport.toWorld down).seenFrom o.position.flat) := by
  intro c v ahead hahead
  obtain ⟨o', ho', hplace⟩ := hgrabs.exists_ahead hpulls rfl hahead
  have hseen : (v.toWorld pixel).seenFrom o'.position.flat =
      (v.toWorld down).seenFrom o.position.flat := by
    rw [hplace]
    exact Grip.seenFrom_ahead ⟨down, o.position.flat⟩ pixel v
  have hiff : (v.toWorld pixel).seenFrom o'.position.flat =
      (c.viewport.toWorld down).seenFrom o.position.flat ↔
        v.toWorld down = c.viewport.toWorld down := by
    rw [hseen, Point.seenFrom_inj]
  refine ⟨o', ho', hseen, hiff, fun hmoves ↦ hiff.2 ?_⟩
  rw [show v = c.viewport from viewport_run_pointerDown hmoves]

/-! ### A canvas that shrinks -/

/-- An object without extent. -/
def crumb : SceneObject ℝ := ⟨"crumb", "crumb", .item, ⟨0, 0, 1⟩, 0, ⟨0, 0, 2⟩, none⟩

/-- The crumb is chosen to be moved, on a canvas of 612 by 612 pixels. -/
noncomputable def chooseCrumb : List (Operation ℝ) :=
  [.load ⟨⟨"kitchen", [crumb]⟩, "kitchen.png", .empty, .empty⟩, .choose .move, .clickObject "crumb",
    .resize 612 612]

/-- The unit square in a band of 50 pixels. -/
def square (size scale : ℝ) : Viewport ℝ := ⟨⟨0, 1, 0, 1⟩, 50, size, size, scale, 50, 50⟩

/-- A square canvas shows a square rectangle from edge to edge of its padding. -/
theorem resize_square {v : Viewport ℝ} (hworld : v.world = ⟨0, 1, 0, 1⟩) (hpadding : v.padding = 50)
    {size scale : ℝ} (hsize : size = scale + 100) (hscale : 0 < scale) :
    v.resize size size = square size scale := by
  have hplot : Scalar.max (size - 2 * (50 : ℝ)) 0 = scale := by
    have hlength : size - 2 * (50 : ℝ) = scale := by
      rw [hsize]
      ring
    rw [hlength, Scalar.max, if_neg hscale.not_gt, if_pos le_rfl]
  have hmin : Scalar.min scale scale = scale := by
    rw [Scalar.min, if_neg (lt_irrefl _), if_pos le_rfl]
  simp [Viewport.resize, World.xRange, World.yRange, hworld, hpadding, square, hplot, hmin]

theorem toWorld_square {size scale : ℝ} (hscale : 0 < scale) (p : Point ℝ) :
    (square size scale).toWorld p = ⟨(p.y - 50) / scale, (p.x - 50) / scale⟩ := by
  simp [Viewport.toWorld, square, hscale.not_ge]

theorem clamp?_square {size scale : ℝ} {p : Point ℝ} (hx : 0 ≤ p.x ∧ p.x ≤ 1)
    (hy : 0 ≤ p.y ∧ p.y ≤ 1) : (square size scale).world.clamp? p = some p := by
  have hclamp {x : ℝ} (h : 0 ≤ x ∧ x ≤ 1) : Scalar.clamp? 0 1 x = some x := by
    rw [Scalar.clamp?_of_le zero_le_one, if_neg h.1.not_gt, if_neg h.2.not_gt]
  exact World.clamp?_eq_some.2 ⟨hclamp hx, hclamp hy⟩

theorem ahead_square {size scale : ℝ} (hscale : 0 < scale) (p q : Point ℝ) :
    Grip.ahead ⟨p, crumb.position.flat⟩ q (square size scale) =
      ⟨(q.y - p.y) / scale, (q.x - p.x) / scale⟩ := by
  have horigin : crumb.position.flat = ⟨0, 0⟩ := rfl
  simp only [Grip.ahead, Grip.displacement, toWorld_square hscale, horigin, Point.mk.injEq]
  constructor <;> ring

/-- The pointer takes hold of the crumb. -/
theorem grabs_crumb : ((start ⟨⟨0, 1, 0, 1⟩, 50, 5⟩).run chooseCrumb).Grabs .move "crumb" none
    ⟨178, 178⟩ crumb :=
  ⟨rfl, rfl, rfl, SceneObject.contains_of_size_eq_zero rfl rfl _⟩

theorem viewport_chooseCrumb :
    ((start ⟨⟨0, 1, 0, 1⟩, 50, 5⟩).run chooseCrumb).viewport = square 612 512 :=
  resize_square rfl rfl (by norm_num) (by norm_num)

theorem viewport_shrunk {down : Point ℝ} {pulls : List (Operation ℝ)}
    (hmoves : ∀ op ∈ pulls, ∃ p, op = .pointerMove p) :
    (((start ⟨⟨0, 1, 0, 1⟩, 50, 5⟩).run chooseCrumb).run
      (.pointerDown down :: .resize 356 356 :: pulls)).viewport = square 356 256 := by
  rw [viewport_run_resize hmoves, viewport_chooseCrumb]
  exact resize_square rfl rfl (by norm_num) (by norm_num)

/-- The canvas shrinks to half its scale while the crumb is held; then the crumb is led along. -/
theorem pressed_point_run_shrunk :
    let c := (start ⟨⟨0, 1, 0, 1⟩, 50, 5⟩).run chooseCrumb
    let pulls : List (Operation ℝ) := [.resize 356 356, .pointerMove ⟨200, 200⟩]
    let v := (c.run (.pointerDown ⟨178, 178⟩ :: pulls)).viewport
    (c.Grabs .move "crumb" none ⟨178, 178⟩ crumb ∧ 0 < c.viewport.scale ∧ 0 < v.scale) ∧
      ∃ o', (c.run (.pointerDown ⟨178, 178⟩ :: (pulls ++ [.pointerMove ⟨242, 242⟩]))).object?
          "crumb" = some o' ∧
        (v.toWorld ⟨242, 242⟩).seenFrom o'.position.flat =
          (v.toWorld ⟨178, 178⟩).seenFrom crumb.position.flat := by
  intro c pulls v
  have hmoves : ∀ op ∈ [Operation.pointerMove (⟨200, 200⟩ : Point ℝ)], ∃ p, op = .pointerMove p :=
    List.forall_mem_singleton.2 ⟨_, rfl⟩
  have hc : c.viewport = square 612 512 := viewport_chooseCrumb
  have hv : v = square 356 256 := viewport_shrunk hmoves
  have hahead : v.world.clamp? (Grip.ahead ⟨⟨178, 178⟩, crumb.position.flat⟩ ⟨242, 242⟩ v) =
      some (Grip.ahead ⟨⟨178, 178⟩, crumb.position.flat⟩ ⟨242, 242⟩ v) := by
    rw [hv, ahead_square (by norm_num)]
    exact clamp?_square (by norm_num) (by norm_num)
  have hpulls : ∀ op ∈ pulls, op.isPull := by
    intro op hop
    obtain rfl | hop := List.mem_cons.1 hop
    · rfl
    · obtain rfl := List.mem_singleton.1 hop
      rfl
  obtain ⟨o', ho', hseen, -⟩ := pressed_point_run _ _ grabs_crumb hpulls ⟨242, 242⟩ hahead
  refine ⟨⟨grabs_crumb, ?_, ?_⟩, o', ho', hseen⟩
  · rw [hc]
    exact (by norm_num : (0 : ℝ) < 512)
  · rw [hv]
    exact (by norm_num : (0 : ℝ) < 256)

/-- The canvas shrinks to half its scale while the crumb is held.  The pointer has not moved, and so
the crumb stays where it is, but the pointer is now twice as far from it. -/
theorem grasp_slips :
    let c := (start ⟨⟨0, 1, 0, 1⟩, 50, 5⟩).run chooseCrumb
    let v := (c.run [.pointerDown ⟨178, 178⟩, .resize 356 356]).viewport
    let ahead := Grip.ahead ⟨⟨178, 178⟩, crumb.position.flat⟩ ⟨178, 178⟩ v
    (c.Grabs .move "crumb" none ⟨178, 178⟩ crumb ∧ 0 < c.viewport.scale ∧ 0 < v.scale ∧
        v.world.clamp? ahead = some ahead) ∧
      ∃ o', (c.run [.pointerDown ⟨178, 178⟩, .resize 356 356, .pointerMove ⟨178, 178⟩]).object?
          "crumb" = some o' ∧
        (v.toWorld ⟨178, 178⟩).seenFrom o'.position.flat ≠
          (c.viewport.toWorld ⟨178, 178⟩).seenFrom crumb.position.flat := by
  intro c v ahead
  have hc : c.viewport = square 612 512 := viewport_chooseCrumb
  have hv : v = square 356 256 := viewport_shrunk (List.forall_mem_nil _)
  have hahead : v.world.clamp? ahead = some ahead := by
    change v.world.clamp? (Grip.ahead _ _ v) = some (Grip.ahead _ _ v)
    rw [hv, ahead_square (by norm_num)]
    exact clamp?_square (by norm_num) (by norm_num)
  have hpulls : ∀ op ∈ [Operation.resize (356 : ℝ) 356], op.isPull :=
    List.forall_mem_singleton.2 rfl
  obtain ⟨o', ho', hplace⟩ := grabs_crumb.exists_ahead hpulls rfl hahead
  refine ⟨⟨grabs_crumb, ?_, ?_, hahead⟩, o', ho', ?_⟩
  · rw [hc]
    exact (by norm_num : (0 : ℝ) < 512)
  · rw [hv]
    exact (by norm_num : (0 : ℝ) < 256)
  · -- one half is not one quarter
    have hpointer : v.toWorld ⟨178, 178⟩ ≠ c.viewport.toWorld ⟨178, 178⟩ := by
      rw [hc, hv, toWorld_square (by norm_num), toWorld_square (by norm_num)]
      norm_num
    rw [hplace, Grip.seenFrom_ahead]
    exact fun h ↦ hpointer (Point.seenFrom_inj.1 h)

end Cells

end Rearrangement
