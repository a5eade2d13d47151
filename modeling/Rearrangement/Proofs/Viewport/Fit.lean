import Mathlib.Data.List.Range
import Mathlib.Tactic.FieldSimp
import Mathlib.Tactic.Linarith
import Mathlib.Tactic.Positivity
import Mathlib.Tactic.Ring
import Rearrangement.Geometry
import Rearrangement.Proofs.Scalar.Exact

/-!
# What a viewport shows

In exact arithmetic, a canvas that is larger than its band of padding shows the world rectangle as
large as there is room, in the middle and without distortion: the scale is the smaller one of the
two that fit, one side of the rectangle fills the room, and the slack of the other one is shared
evenly (`fitted_resize`).  All that is said of the mapping follows from this and not from sizes
(`Fitted.displays`).  What sizes a canvas has had before makes no difference (`resizes_displays`).

Ticks do not depend on how large the canvas is: they divide an axis evenly from end to end and stand
where their values are shown (`divides_of_two_le`).

## Main statements

* `toWorld_toCanvas`, `toCanvas_toWorld`: the two mappings are inverse to each other.
* `fitted_resize`, `Fitted.displays`: how the world lies on the canvas.
* `divides_of_two_le`: how the ticks lie on an axis.
* `resizes_displays`: all of it after any sizes, and when there is nothing to be seen.
-/

namespace Rearrangement

variable {R : Type} [ExactScalar R]

theorem Scalar.max_eq (x y : R) : Scalar.max x y = x ⊔ y := by
  unfold Scalar.max
  split
  next h => exact (max_eq_right h.le).symm
  next h => rw [if_pos le_rfl, max_eq_left (not_lt.1 h)]

theorem Scalar.min_eq (x y : R) : Scalar.min x y = x ⊓ y := by
  unfold Scalar.min
  split
  next h => exact (min_eq_right h.le).symm
  next h => rw [if_pos le_rfl, min_eq_left (not_lt.1 h)]

/-! ## World rectangles -/

namespace World

/-- The rectangle has an extent on both axes. -/
def Extended (w : World R) : Prop := 0 < w.xRange ∧ 0 < w.yRange

def lower (w : World R) : Axis → R
  | .x => w.xMin
  | .y => w.yMin

def upper (w : World R) : Axis → R
  | .x => w.xMax
  | .y => w.yMax

/-- The corner with the smallest coordinates. -/
def lowest (w : World R) : Point R := ⟨w.xMin, w.yMin⟩

/-- The corner with the largest coordinates. -/
def highest (w : World R) : Point R := ⟨w.xMax, w.yMax⟩

variable {w : World R} {p : Point R}

theorem contains_iff : w.contains p = true ↔
    (w.xMin ≤ p.x ∧ p.x ≤ w.xMax) ∧ w.yMin ≤ p.y ∧ p.y ≤ w.yMax := by
  simp [contains, and_assoc]

theorem Extended.lower_lt_upper (h : w.Extended) (axis : Axis) : w.lower axis < w.upper axis := by
  cases axis with
  | x => exact sub_pos.1 h.1
  | y => exact sub_pos.1 h.2

end World

namespace Viewport

/-! ## Mapping back and forth -/

variable {v : Viewport R}

/-- The pixel of a point shows the point. -/
theorem toWorld_toCanvas (hv : 0 < v.scale) (p : Point R) : v.toWorld (v.toCanvas p) = p := by
  have hscale : ¬v.scale ≤ (@OfNat.ofNat R 0 (Scalar.instOfNat 0)) := by
    rw [ExactScalar.ofNat_zero]
    exact hv.not_ge
  rw [toWorld, if_neg hscale]
  simp only [toCanvas, add_sub_cancel_left, mul_div_cancel_right₀ _ hv.ne', add_sub_cancel]

/-- A pixel is that of the point that it shows. -/
theorem toCanvas_toWorld (hv : 0 < v.scale) (q : Point R) : v.toCanvas (v.toWorld q) = q := by
  have hscale : ¬v.scale ≤ (@OfNat.ofNat R 0 (Scalar.instOfNat 0)) := by
    rw [ExactScalar.ofNat_zero]
    exact hv.not_ge
  rw [toWorld, if_neg hscale]
  simp only [toCanvas, add_sub_cancel_left, div_mul_cancel₀ _ hv.ne', add_sub_cancel]

/-! ## Fitting -/

/-- The world rectangle is in the middle of the canvas, and as large as the band of padding leaves
room for. -/
structure Fitted (v : Viewport R) : Prop where
  scale_pos : 0 < v.scale
  offsetX : v.offsetX = (v.width - v.world.yRange * v.scale) / 2
  offsetY : v.offsetY = (v.height - v.world.xRange * v.scale) / 2
  across : v.world.yRange * v.scale ≤ v.width - 2 * v.padding
  down : v.world.xRange * v.scale ≤ v.height - 2 * v.padding
  /-- There is no slack both ways. -/
  tight : v.world.yRange * v.scale = v.width - 2 * v.padding ∨
    v.world.xRange * v.scale = v.height - 2 * v.padding

/-- A viewport maps the world rectangle to pixels one to one and without distortion, into the middle
of a canvas of this size and as large as the band of padding allows. -/
structure Displays (v : Viewport R) (world : World R) (padding width height : R) : Prop where
  toWorld_toCanvas : ∀ p, v.toWorld (v.toCanvas p) = p
  toCanvas_toWorld : ∀ q, v.toCanvas (v.toWorld q) = q
  /-- World `y` runs right, and a length on this axis is as many pixels as one on the other. -/
  across : ∀ p q, (v.toCanvas q).x - (v.toCanvas p).x = v.lengthToPixels (q.y - p.y)
  /-- World `x` runs down. -/
  down : ∀ p q, (v.toCanvas q).y - (v.toCanvas p).y = v.lengthToPixels (q.x - p.x)
  inside : ∀ p, world.contains p = true →
    (padding ≤ (v.toCanvas p).x ∧ (v.toCanvas p).x ≤ width - padding) ∧
      padding ≤ (v.toCanvas p).y ∧ (v.toCanvas p).y ≤ height - padding
  centred : v.toCanvas world.center = ⟨width / 2, height / 2⟩
  /-- On one of the axes the rectangle reaches from one side of the room to the other. -/
  touches : ((v.toCanvas world.lowest).x = padding ∧
      (v.toCanvas world.highest).x = width - padding) ∨
    (v.toCanvas world.lowest).y = padding ∧ (v.toCanvas world.highest).y = height - padding

/-- The world is shown within the padding. -/
theorem Fitted.toCanvas_inside (h : v.Fitted) {p : Point R} (hp : v.world.contains p = true) :
    (v.padding ≤ (v.toCanvas p).x ∧ (v.toCanvas p).x ≤ v.width - v.padding) ∧
      v.padding ≤ (v.toCanvas p).y ∧ (v.toCanvas p).y ≤ v.height - v.padding := by
  obtain ⟨⟨hxlo, hxhi⟩, hylo, hyhi⟩ := World.contains_iff.1 hp
  -- a point of the rectangle is at most one extent away from the lower bound
  have haxis {lo hi x : R} (hlo : lo ≤ x) (hhi : x ≤ hi) :
      0 ≤ (x - lo) * v.scale ∧ (x - lo) * v.scale ≤ (hi - lo) * v.scale :=
    ⟨mul_nonneg (sub_nonneg.2 hlo) h.scale_pos.le,
      mul_le_mul_of_nonneg_right (sub_le_sub_right hhi lo) h.scale_pos.le⟩
  obtain ⟨hright, hright'⟩ := haxis hylo hyhi
  obtain ⟨hdown, hdown'⟩ := haxis hxlo hxhi
  have hacross := h.across
  have hheight := h.down
  simp only [World.xRange, World.yRange] at hacross hheight
  simp only [toCanvas, h.offsetX, h.offsetY, World.xRange, World.yRange]
  refine ⟨⟨?_, ?_⟩, ?_, ?_⟩ <;> linarith

theorem Fitted.toCanvas_center (h : v.Fitted) :
    v.toCanvas v.world.center = ⟨v.width / 2, v.height / 2⟩ := by
  simp only [toCanvas, World.center, h.offsetX, h.offsetY, World.xRange, World.yRange,
    ExactScalar.ofNat_one, ExactScalar.ofNat_eq, Point.mk.injEq]
  constructor <;> ring

/-- A fitted viewport displays its world. -/
theorem Fitted.displays (h : v.Fitted) : v.Displays v.world v.padding v.width v.height where
  toWorld_toCanvas := toWorld_toCanvas h.scale_pos
  toCanvas_toWorld := toCanvas_toWorld h.scale_pos
  across p q := by
    simp only [toCanvas, lengthToPixels]
    ring
  down p q := by
    simp only [toCanvas, lengthToPixels]
    ring
  inside _ := h.toCanvas_inside
  centred := h.toCanvas_center
  touches := by
    have htight := h.tight
    simp only [World.xRange, World.yRange] at htight
    simp only [toCanvas, World.lowest, World.highest, h.offsetX, h.offsetY, World.xRange,
      World.yRange]
    refine htight.imp (fun hwide ↦ ⟨?_, ?_⟩) (fun hhigh ↦ ⟨?_, ?_⟩) <;> linarith

/-! ## Sizes -/

theorem scale_resize (h : v.world.Extended) (width height : R) :
    (v.resize width height).scale = ((width - 2 * v.padding) ⊔ 0) / v.world.yRange ⊓
      ((height - 2 * v.padding) ⊔ 0) / v.world.xRange := by
  simp only [resize, Scalar.max_eq, Scalar.min_eq, ExactScalar.ofNat_zero, ExactScalar.ofNat_eq]
  exact if_pos ⟨h.2, h.1⟩

theorem offsets_resize (v : Viewport R) (width height : R) :
    (v.resize width height).offsetX = v.padding +
        ((width - 2 * v.padding) ⊔ 0 - v.world.yRange * (v.resize width height).scale) / 2 ∧
      (v.resize width height).offsetY = v.padding +
        ((height - 2 * v.padding) ⊔ 0 - v.world.xRange * (v.resize width height).scale) / 2 := by
  simp only [resize, Scalar.max_eq, Scalar.min_eq, ExactScalar.ofNat_zero, ExactScalar.ofNat_eq,
    and_self]

/-- A canvas shows something if there is room on it both ways. -/
theorem scale_resize_pos (h : v.world.Extended) {width height : R} :
    0 < (v.resize width height).scale ↔ 2 * v.padding < width ∧ 2 * v.padding < height := by
  have hroom {length range : R} (hrange : 0 < range) :
      0 < ((length - 2 * v.padding) ⊔ 0) / range ↔ 2 * v.padding < length := by
    rw [div_pos_iff_of_pos_right hrange, lt_sup_iff, or_iff_left (lt_irrefl 0), sub_pos]
  rw [scale_resize h, lt_inf_iff, hroom h.2, hroom h.1]

/-- A size with room for the world makes the viewport fit. -/
theorem fitted_resize (h : v.world.Extended) {width height : R}
    (hscale : 0 < (v.resize width height).scale) : (v.resize width height).Fitted := by
  obtain ⟨hwidth, hheight⟩ := (scale_resize_pos h).1 hscale
  have heq := scale_resize h width height
  obtain ⟨hx, hy⟩ := v.offsets_resize width height
  rw [max_eq_left (sub_nonneg.2 hwidth.le)] at heq hx
  rw [max_eq_left (sub_nonneg.2 hheight.le)] at heq hy
  obtain ⟨hdown, hacross⟩ := h
  refine ⟨hscale, ?_, ?_, ?_, ?_, ?_⟩
  · rw [hx]
    change _ = (width - v.world.yRange * _) / 2
    ring
  · rw [hy]
    change _ = (height - v.world.xRange * _) / 2
    ring
  · refine (le_div_iff₀' hacross).1 ?_
    rw [heq]
    exact inf_le_left
  · refine (le_div_iff₀' hdown).1 ?_
    rw [heq]
    exact inf_le_right
  · -- the smaller scale fills the room on its axis
    rcases min_choice ((width - 2 * v.padding) / v.world.yRange)
      ((height - 2 * v.padding) / v.world.xRange) with hmin | hmin
    · refine .inl ?_
      rw [heq, hmin]
      exact mul_div_cancel₀ _ hacross.ne'
    · refine .inr ?_
      rw [heq, hmin]
      exact mul_div_cancel₀ _ hdown.ne'

/-- The viewport after its canvas has had some sizes, one after the other. -/
def resizes (v : Viewport R) (sizes : List (R × R)) : Viewport R :=
  sizes.foldl (fun v size ↦ v.resize size.1 size.2) v

/-- Only the last size counts. -/
theorem resize_resizes (v : Viewport R) (sizes : List (R × R)) (width height : R) :
    (v.resizes sizes).resize width height = v.resize width height := by
  induction sizes generalizing v with
  | nil => rfl
  | cons size sizes ih => exact ih (v.resize size.1 size.2)

/-! ## Ticks -/

/-- The ticks of an axis divide it evenly from end to end, and each of them stands where its value
is shown. -/
structure Divides (v : Viewport R) (world : World R) (axis : Axis) (count : Nat) : Prop where
  length : (v.ticks axis count).length = count
  first : (v.ticks axis count).head?.map (·.value) = some (world.lower axis)
  last : (v.ticks axis count).getLast?.map (·.value) = some (world.upper axis)
  evenly : (v.ticks axis count).IsChain fun s t ↦
    t.value - s.value = (world.upper axis - world.lower axis) / (count - 1 : Nat)
  increasing : (v.ticks axis count).Pairwise fun s t ↦ s.value < t.value
  shown : ∀ t ∈ v.ticks axis count, ∀ p : Point R,
    match axis with
    | .x => p.x = t.value → (v.toCanvas p).y = t.pixel
    | .y => p.y = t.value → (v.toCanvas p).x = t.pixel

/-- Ticks are as far apart as the range divided by their number less one. -/
theorem ticks_eq (v : Viewport R) (axis : Axis) {count : Nat} (h : 2 ≤ count) :
    v.ticks axis count = (List.range count).map fun (i : Nat) ↦
      let value := v.world.lower axis +
        (v.world.upper axis - v.world.lower axis) / (count - 1 : Nat) * i
      ⟨value, (match axis with | .x => v.offsetY | .y => v.offsetX) +
        (value - v.world.lower axis) * v.scale⟩ := by
  unfold ticks
  dsimp only
  rw [if_neg (Nat.not_lt.2 h)]
  cases axis <;> rfl

/-- Two ticks or more divide the axis evenly, from one end to the other. -/
theorem divides_of_two_le (hworld : v.world.Extended) (axis : Axis) {count : Nat} (h : 2 ≤ count) :
    v.Divides v.world axis count := by
  have hgaps : (0 : R) < (count - 1 : Nat) := Nat.cast_pos.2 (by omega)
  have hgap : 0 < (v.world.upper axis - v.world.lower axis) / (count - 1 : Nat) :=
    div_pos (sub_pos.2 (hworld.lower_lt_upper axis)) hgaps
  obtain ⟨n, rfl⟩ : ∃ n, count = n + 1 := ⟨count - 1, by omega⟩
  refine ⟨?_, ?_, ?_, ?_, ?_, ?_⟩ <;> rw [ticks_eq v axis h]
  · rw [List.length_map, List.length_range]
  · simp [List.range_succ_eq_map]
  · simp only [List.getLast?_map, List.range_succ, List.getLast?_append, List.getLast?_singleton,
      Option.some_or, Option.map_some, Nat.add_sub_cancel] at hgaps ⊢
    rw [div_mul_cancel₀ _ hgaps.ne', add_sub_cancel]
  · rw [List.isChain_map, List.isChain_range_succ]
    intro i _
    simp only [Nat.succ_eq_add_one, Nat.cast_add, Nat.cast_one]
    ring
  · rw [List.pairwise_map]
    refine List.pairwise_lt_range.imp fun {i j} hij ↦ ?_
    exact add_lt_add_right (mul_lt_mul_of_pos_left (Nat.cast_lt.2 hij) hgap) _
  · intro t ht p
    obtain ⟨i, -, rfl⟩ := List.mem_map.1 ht
    cases axis
    all_goals
      intro hp
      simp only [toCanvas, hp]
      rfl

/-! ## All together -/

/-- In exact arithmetic, whatever sizes a canvas has had, a viewport is as the last size makes it.
It shows something exactly if there is room both ways; then it displays the world rectangle.  In any
case its ticks divide the axes. -/
theorem resizes_displays (world : World R) (padding : R) (h : world.Extended)
    (earlier : List (R × R)) (width height : R) :
    let v := ((unsized world padding).resizes earlier).resize width height
    v = (unsized world padding).resize width height ∧
      (0 < v.scale ↔ 2 * padding < width ∧ 2 * padding < height) ∧
        (0 < v.scale → v.Displays world padding width height) ∧
          ∀ axis count, 2 ≤ count → v.Divides world axis count := by
  intro v
  have hv : v = (unsized world padding).resize width height := resize_resizes _ earlier width height
  refine ⟨hv, ?_⟩
  rw [hv]
  refine ⟨scale_resize_pos h, fun hscale ↦ (fitted_resize h hscale).displays, ?_⟩
  exact fun axis count hcount ↦ divides_of_two_le h axis hcount

/-- A canvas of which nothing was left for a moment. -/
theorem resizes_displays_standard :
    let v : Viewport ℝ := ((unsized .standard 50).resizes [(640, 480), (0, 0)]).resize 600 300
    ((World.standard (R := ℝ)).Extended ∧ 0 < v.scale) ∧
      v.Displays .standard 50 600 300 ∧ v.Divides .standard .y 5 := by
  intro v
  have hworld : (World.standard (R := ℝ)).Extended := by
    simp only [World.Extended, World.standard, World.xRange, World.yRange, ExactScalar.ofNat_zero,
      ExactScalar.ofNat_one, ExactScalar.ofNat_eq]
    exact ⟨(by norm_num : (0 : ℝ) < 1 / 2 - 0), (by norm_num : (0 : ℝ) < 3 / 10 - -(7 / 10))⟩
  obtain ⟨-, hscale, hdisplays, hdivides⟩ :=
    resizes_displays _ 50 hworld [(640, 480), (0, 0)] (600 : ℝ) 300
  have hpos : 0 < v.scale := hscale.2 (by norm_num)
  exact ⟨⟨hworld, hpos⟩, hdisplays hpos, hdivides .y 5 (by norm_num)⟩

end Viewport

end Rearrangement
