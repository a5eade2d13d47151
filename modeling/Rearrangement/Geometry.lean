/-!
# The geometry of the table

Coordinates, the points of the table plane, the rectangles that objects cover there, and the mapping
to the pixels of a canvas.

Everything is stated over a class of numbers, `Scalar`, with no laws at all.  The program runs on
doubles, which have few of the laws of a field; what is said about exact arithmetic is said of
another instance of the same definitions.  So the order of the operations below is part of the
program, and so is which of two equal expressions is evaluated.

World `x` grows down the canvas and world `y` grows right, so that a rotation that is clockwise on
the canvas is one by the opposite angle in world terms.

* `Scalar` : the operations, with `clamp?` and `normalizeDegrees` built from them;
* `Point`, `Footprint` : the plane, and the rectangle of an object at any orientation;
* `World`, `Viewport` : the rectangle that is shown, and how it is fitted into a canvas.
-/

-- A power of naturals is this one, whatever others are in scope.
attribute [instance (1100), default_instance 20000] instPowNat

namespace Rearrangement

/-! ## Coordinates

The arithmetic that geometry needs, as a class: the program runs on doubles, and what is said about
exact arithmetic is said of any other instance.  Only `≤` and `<` compare; a value that is not a
number is one that is not `≤` itself. -/

/-- Numbers that can measure a table: field operations, comparisons and the circular functions. -/
class Scalar (R : Type) extends Add R, Sub R, Mul R, Div R, Neg R, NatCast R, LE R, LT R where
  decidableLE : DecidableLE R
  decidableLT : DecidableLT R
  pi : R
  cos : R → R
  sin : R → R
  /-- The angle of the point with the given ordinate and abscissa, in this order. -/
  atan2 : R → R → R
  /-- The remainder of division that has the sign of the dividend. -/
  remainder : R → R → R
  /-- The length of the vector with the given components. -/
  hypot : R → R → R

namespace Scalar

attribute [reducible, instance] decidableLE decidableLT

variable {R : Type} [Scalar R]

/-- Numerals stand for the naturals they denote. -/
scoped instance (priority := low) (n : Nat) : OfNat R n := ⟨(n : R)⟩

/-- `x` is a number. -/
abbrev IsNumber (x : R) : Prop := x ≤ x

def abs (x : R) : R := if x < 0 then -x else x

/-- The larger of two values; one that is not a number loses. -/
def max (x y : R) : R := if x < y then y else if x ≤ x then x else y

/-- The smaller of two values; one that is not a number loses. -/
def min (x y : R) : R := if y < x then y else if x ≤ x then x else y

/-- The value between `lo` and `hi` that is nearest to `x`; there is none unless `lo ≤ hi`. -/
def clamp? (lo hi x : R) : Option R :=
  if lo ≤ hi then some (if x < lo then lo else if hi < x then hi else x) else none

/-- Smaller than this, a change of a coordinate counts as none. -/
def epsilon : R := 1 / ((2 ^ 52 : Nat) : R)

def toRadians (deg : R) : R := deg * (pi / 180)

def toDegrees (rad : R) : R := rad * (180 / pi)

/-- The angle in `[0, 360)` with the same direction. -/
def normalizeDegrees (deg : R) : R :=
  let r := remainder deg 360
  let wrapped := if r < 0 then r + 360 else r
  if 360 ≤ wrapped then 0 else wrapped

end Scalar

/-! ## Points

World `x` grows down the canvas and world `y` grows right.  The same type serves for canvas pixels.
-/

/-- A point of the table plane, or a canvas pixel. -/
structure Point (R : Type) where
  x : R
  y : R
deriving BEq, DecidableEq, Repr

namespace Point

open Scalar

variable {R : Type} [Scalar R]

def midpoint (p q : Point R) : Point R := ⟨(p.x + q.x) * (1 / 2), (p.y + q.y) * (1 / 2)⟩

/-- The orientation that turns an object centred at `center` so that its front faces `toward`.

At orientation `θ` the front lies in the direction `(-cos θ, sin θ)` from the centre. -/
def facing (center toward : Point R) : R :=
  normalizeDegrees (toDegrees (atan2 (toward.y - center.y) (-(toward.x - center.x))))

end Point

/-! ## Footprints

The rectangle that an object covers on the table.  At orientation 0 the width of an object spans
world `y` and its depth spans world `x`; a positive orientation turns it clockwise on the canvas,
which is a rotation by the opposite angle in world terms. -/

/-- A rectangle by its corners, in order around it.  The front goes from `first` to `fourth`. -/
structure Footprint (R : Type) where
  first : Point R
  second : Point R
  third : Point R
  fourth : Point R
deriving Repr

namespace Footprint

open Scalar

variable {R : Type} [Scalar R]

def corners (f : Footprint R) : List (Point R) := [f.first, f.second, f.third, f.fourth]

/-- The middle of the front edge. -/
def front (f : Footprint R) : Point R := f.first.midpoint f.fourth

/-- The mean of the corners. -/
def centroid (f : Footprint R) : Point R :=
  ⟨(f.first.x + f.second.x + f.third.x + f.fourth.x) / 4,
    (f.first.y + f.second.y + f.third.y + f.fourth.y) / 4⟩

/-- Positive or negative as `p` lies on one or the other side of the edge from `a` to `b`. -/
def side (a b p : Point R) : R := (b.x - a.x) * (p.y - a.y) - (b.y - a.y) * (p.x - a.x)

/-- The sides of the four edges on which `p` lies. -/
def sides (f : Footprint R) (p : Point R) : List R :=
  [side f.first f.second p, side f.second f.third p, side f.third f.fourth p,
    side f.fourth f.first p]

/-- Whether `p` lies inside or on the boundary: never on opposite sides of two edges. -/
def contains (f : Footprint R) (p : Point R) : Bool :=
  let s := f.sides p
  !(s.any (fun c => decide (0 < c)) && s.any (fun c => decide (c < 0)))

/-- The footprint around `center` whose depth axis has the direction `(cs, sn)`. -/
def ofDirection (center : Point R) (width depth cs sn : R) : Footprint R :=
  let depthX := depth / 2 * cs
  let depthY := depth / 2 * sn
  let widthX := width / 2 * sn
  let widthY := -width / 2 * cs
  { first := ⟨center.x - depthX - widthX, center.y - depthY - widthY⟩
    second := ⟨center.x + depthX - widthX, center.y + depthY - widthY⟩
    third := ⟨center.x + depthX + widthX, center.y + depthY + widthY⟩
    fourth := ⟨center.x - depthX + widthX, center.y - depthY + widthY⟩ }

/-- The footprint around `center` at an orientation in degrees. -/
def ofOrientation (center : Point R) (width depth orientation : R) : Footprint R :=
  let angle := -toRadians orientation
  ofDirection center width depth (cos angle) (sin angle)

end Footprint

/-! ## The viewport

The part of the table that is shown, and the mapping between it and canvas pixels: one scale for
both axes, the smaller of the two that fit, inside a band of padding.  World `x` runs down the
canvas and world `y` runs right. -/

open Scalar

variable {R : Type} [Scalar R]

/-- The shown rectangle of the table. -/
structure World (R : Type) where
  xMin : R
  xMax : R
  yMin : R
  yMax : R
deriving Repr

namespace World

def standard : World R := ⟨0, 1 / 2, -(7 / 10), 3 / 10⟩

def xRange (w : World R) : R := w.xMax - w.xMin

def yRange (w : World R) : R := w.yMax - w.yMin

def center (w : World R) : Point R := ⟨(w.xMin + w.xMax) * (1 / 2), (w.yMin + w.yMax) * (1 / 2)⟩

/-- Neither axis has its bounds the wrong way round. -/
def Ordered (w : World R) : Prop := w.xMin ≤ w.xMax ∧ w.yMin ≤ w.yMax

/-- The nearest point of the rectangle, if its bounds are in order. -/
def clamp? (w : World R) (p : Point R) : Option (Point R) := do
  return ⟨← Scalar.clamp? w.xMin w.xMax p.x, ← Scalar.clamp? w.yMin w.yMax p.y⟩

def contains (w : World R) (p : Point R) : Bool :=
  decide (w.xMin ≤ p.x) && decide (p.x ≤ w.xMax) && decide (w.yMin ≤ p.y) && decide (p.y ≤ w.yMax)

end World

/-- A world axis. -/
inductive Axis
  | x
  | y
deriving DecidableEq, Repr

/-- A labelled place on an axis, as a world value and as a canvas pixel. -/
structure Tick (R : Type) where
  value : R
  pixel : R
deriving Repr

/-- The mapping between a world rectangle and the pixels of a canvas. -/
structure Viewport (R : Type) where
  world : World R
  padding : R
  width : R
  height : R
  scale : R
  offsetX : R
  offsetY : R
deriving Repr

namespace Viewport

def standardPadding : R := 50

/-- A viewport that has no size yet. -/
def unsized (world : World R) (padding : R) : Viewport R :=
  ⟨world, padding, 0, 0, 0, padding, padding⟩

/-- The viewport with the given size in pixels. -/
def resize (v : Viewport R) (width height : R) : Viewport R :=
  let plotWidth := Scalar.max (width - 2 * v.padding) 0
  let plotHeight := Scalar.max (height - 2 * v.padding) 0
  let across := v.world.yRange
  let down := v.world.xRange
  let scale :=
    if 0 < across ∧ 0 < down then Scalar.min (plotWidth / across) (plotHeight / down) else 0
  { v with
    width, height, scale
    offsetX := v.padding + (plotWidth - across * scale) / 2
    offsetY := v.padding + (plotHeight - down * scale) / 2 }

/-- The pixel of a world point. -/
def toCanvas (v : Viewport R) (p : Point R) : Point R :=
  ⟨v.offsetX + (p.y - v.world.yMin) * v.scale, v.offsetY + (p.x - v.world.xMin) * v.scale⟩

/-- The world point of a pixel; all pixels show the centre as long as the scale is zero. -/
def toWorld (v : Viewport R) (pixel : Point R) : Point R :=
  if v.scale ≤ 0 then v.world.center
  else
    ⟨v.world.xMin + (pixel.y - v.offsetY) / v.scale, v.world.yMin + (pixel.x - v.offsetX) / v.scale⟩

def lengthToPixels (v : Viewport R) (length : R) : R := length * v.scale

/-- `count` evenly spaced ticks from one end of an axis to the other; none if there are fewer than
two. -/
def ticks (v : Viewport R) (axis : Axis) (count : Nat) : List (Tick R) :=
  let lo := match axis with | .x => v.world.xMin | .y => v.world.yMin
  let hi := match axis with | .x => v.world.xMax | .y => v.world.yMax
  let offset := match axis with | .x => v.offsetY | .y => v.offsetX
  if count < 2 then []
  else
    let gap := (hi - lo) / ((count - 1 : Nat) : R)
    (List.range count).map fun (i : Nat) =>
      let value := lo + gap * (i : R)
      ⟨value, offset + (value - lo) * v.scale⟩

/-- The pixel of the corner of the world rectangle that is shown at the top left. -/
def origin (v : Viewport R) : Point R := ⟨v.offsetX, v.offsetY⟩

end Viewport

end Rearrangement
