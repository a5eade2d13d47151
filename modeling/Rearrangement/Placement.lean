import Rearrangement.Geometry
import Rearrangement.Scene

/-!
# Pixels, poses and the pointer

What a pixel shows, and where an action puts its object.

An action either follows from the objects it names (a lid on its container, an object on its
support) or from the pointer.  In the second case the object keeps the distance it had from the
pointer when it was taken hold of (`Grip`), and its centre is kept inside the world rectangle: on
both axes if it is moved freely, on the one axis along which it moves otherwise.

Results are optional where the bounds of the world rectangle may be the wrong way round, since then
there is no nearest point inside.
-/

namespace Rearrangement

/-! ## Hit testing

The object that a pixel shows.  Where footprints overlap it is the one whose centre is highest, and
of equally high ones the one drawn last. -/

open Scalar

variable {R : Type} [Scalar R]

/-- The object on top of two of which the second is drawn later. -/
def upper (best : Option (SceneObject R)) (o : SceneObject R) : Option (SceneObject R) :=
  match best with
  | some b => if o.position.z < b.position.z then some b else some o
  | none => some o

/-- The object on top of all of which the footprint contains a world point. -/
def Scene.topmost? (s : Scene R) (p : Point R) : Option (SceneObject R) :=
  (s.objects.filter (·.footprint.contains p)).foldl upper none

/-- The object that a pixel shows. -/
def Scene.hit? (s : Scene R) (v : Viewport R) (pixel : Point R) : Option ObjectId :=
  (s.topmost? (v.toWorld pixel)).map (·.id)

/-! ## Where actions put objects

The pose that follows from an object and its reference, and the one that follows from the pointer.
-/

namespace SceneObject

/-- Centred on top of a support and turned to 0. -/
def puttingOn (moving support : SceneObject R) : Pose R :=
  ⟨⟨support.position.x, support.position.y, support.top + moving.size.z / 2⟩, 0⟩

/-- Centred on the floor of a container and turned to 0. -/
def puttingIn (moving container : SceneObject R) : Pose R :=
  ⟨⟨container.position.x, container.position.y, container.bottom + moving.size.z / 2⟩, 0⟩

/-- Seated on a container, turned as before. -/
def closing (lid container : SceneObject R) : Pose R :=
  ⟨⟨container.position.x, container.position.y, container.top + lid.size.z / 2⟩, lid.orientation⟩

/-- Set aside next to a container, as low as the container stands, turned as before. -/
def opening (lid container : SceneObject R) : Pose R :=
  ⟨⟨container.position.x - container.size.y * (7 / 10),
    container.position.y - container.size.x * (3 / 10),
    container.bottom + lid.size.z / 2⟩, lid.orientation⟩

/-- The orientation at which an object faces the pointer. -/
def turnToward (o : SceneObject R) (pointer : Point R) (v : Viewport R) : R :=
  o.position.flat.facing (v.toWorld pointer)

end SceneObject

/-- Where the pointer took hold of an object: the pixel, and the centre of the object then. -/
structure Grip (R : Type) where
  pixel : Point R
  origin : Point R
deriving BEq, DecidableEq, Repr

namespace Grip

/-- How far the pointer has gone since, in world units. -/
def displacement (g : Grip R) (pointer : Point R) (v : Viewport R) : Point R :=
  let start := v.toWorld g.pixel
  let now := v.toWorld pointer
  ⟨now.x - start.x, now.y - start.y⟩

/-- The centre of an object that follows the pointer inside the world rectangle. -/
def free? (g : Grip R) (pointer : Point R) (v : Viewport R) : Option (Point R) :=
  let d := g.displacement pointer v
  v.world.clamp? ⟨g.origin.x + d.x, g.origin.y + d.y⟩

/-- The centre of an object that follows the pointer along the world axis on which it has gone
further, along `y` if both are equal.  Only that axis is kept inside the world rectangle. -/
def alongAxis? (g : Grip R) (pointer : Point R) (v : Viewport R) : Option (Point R) :=
  let d := g.displacement pointer v
  if abs d.x < epsilon ∧ abs d.y < epsilon then some g.origin
  else if abs d.y < abs d.x then
    (v.world.clamp? ⟨g.origin.x + d.x, g.origin.y⟩).map fun p => ⟨p.x, g.origin.y⟩
  else
    (v.world.clamp? ⟨g.origin.x, g.origin.y + d.y⟩).map fun p => ⟨g.origin.x, p.y⟩

end Grip

/-- Move `origin` to `target`, keeping inside the world rectangle on each axis that changes.  An
axis that stays as it is may lie outside. -/
def World.clampMoved? (w : World R) (origin target : Point R) : Option (Point R) :=
  (w.clamp? target).map fun inside =>
    ⟨if abs (target.x - origin.x) < epsilon then target.x else inside.x,
      if abs (target.y - origin.y) < epsilon then target.y else inside.y⟩

end Rearrangement
