import Rearrangement.Geometry

/-!
# Scenes and actions

The objects on a table, and what an annotator can do to them.

A scene is a list of objects, in the order in which they are drawn.  It is a list and not a map
since the order counts: of two objects under a pixel that are equally high the later one is hit, and
a bundle lists the objects in the same order again.  That no two objects share an identifier is
checked once, where a scene is made (`Scene.ofObjects?`); after that only poses change.

* `firstRepeated?`, `distinct` : repetition in lists, for identifiers and closed containers;
* `SceneObject`, `Scene` : rigid objects with their poses, sizes and categories;
* `ActionKind`, `Action` : the seven kinds of action, and the record of one that was carried out.
-/

namespace Rearrangement

/-! ## Repetition in lists

`firstRepeated?` finds an element that has occurred before, and `distinct` leaves such elements out.
-/

section Repetition

variable {α : Type} [DecidableEq α]

/-- The first element, from left to right, that is in `seen` or has occurred before. -/
def firstRepeatedAfter? (seen : List α) : List α → Option α
  | [] => none
  | x :: xs => if x ∈ seen then some x else firstRepeatedAfter? (x :: seen) xs

/-- The first element, from left to right, that has occurred before. -/
def firstRepeated? (xs : List α) : Option α := firstRepeatedAfter? [] xs

/-- The first occurrence of each element. -/
def distinct : List α → List α
  | [] => []
  | x :: xs => x :: (distinct xs).filter (· ≠ x)

/-- Taking out repetitions takes out nothing else. -/
@[simp] theorem mem_distinct {x : α} {xs : List α} : x ∈ distinct xs ↔ x ∈ xs := by
  induction xs with
  | nil => rfl
  | cons y ys ih => by_cases h : x = y <;> simp [distinct, h, ih]

theorem nodup_distinct (xs : List α) : (distinct xs).Nodup := by
  induction xs with
  | nil => exact .nil
  | cons y ys ih => exact List.nodup_cons.2 ⟨by simp, ih.sublist List.filter_sublist⟩

theorem firstRepeatedAfter?_eq_none {seen xs : List α} :
    firstRepeatedAfter? seen xs = none ↔ xs.Nodup ∧ ∀ x ∈ xs, x ∉ seen := by
  induction xs generalizing seen with
  | nil => simp [firstRepeatedAfter?]
  | cons y ys ih => grind [firstRepeatedAfter?]

/-- Nothing is repeated exactly if nothing is found. -/
theorem firstRepeated?_eq_none {xs : List α} : firstRepeated? xs = none ↔ xs.Nodup := by
  simp [firstRepeated?, firstRepeatedAfter?_eq_none]

end Repetition

/-! ## Scenes

The objects on a table.  The order of the objects is the order in which they are drawn; no two
objects of a scene made by `Scene.ofObjects?` share an identifier. -/

open Scalar

/-- The name of an object in its scene. -/
abbrev ObjectId := String

/-- What an object is good for. -/
inductive Category
  /-- Holds other objects and may have a lid. -/
  | container
  /-- Carries other objects. -/
  | support
  /-- Seats on its container. -/
  | lid
  | basket
  /-- An ordinary movable object. -/
  | item
  /-- A fixed plate. -/
  | base
  | unclassified
deriving DecidableEq, Repr

namespace Category

def name : Category → String
  | container => "container"
  | support => "support"
  | lid => "lid"
  | basket => "basket"
  | item => "item"
  | base => "base"
  | unclassified => "unclassified"

/-- The category with a name; two categories have a second one, and all other names classify
nothing. -/
def ofName (s : String) : Category :=
  match s with
  | "container" => container
  | "bowl" => container
  | "support" => support
  | "lid" => lid
  | "lid-bearing" => lid
  | "basket" => basket
  | "item" => item
  | "base" => base
  | _ => unclassified

@[simp] theorem ofName_name (c : Category) : ofName c.name = c := by cases c <;> rfl

end Category

/-- A vector in world units. -/
structure Vec3 (R : Type) where
  x : R
  y : R
  z : R
deriving BEq, DecidableEq, Repr

/-- The part of a vector in the table plane. -/
def Vec3.flat {R : Type} (v : Vec3 R) : Point R := ⟨v.x, v.y⟩

/-- Where an object is and how it is turned, clockwise in degrees. -/
structure Pose (R : Type) where
  position : Vec3 R
  orientation : R
deriving BEq, DecidableEq, Repr

/-- A rigid object: what it is, and where its centre is now. -/
structure SceneObject (R : Type) where
  id : ObjectId
  name : String
  category : Category
  position : Vec3 R
  orientation : R
  /-- The extents in the object's own frame. -/
  size : Vec3 R
  /-- Whether the object is said to be open, for one that can be. -/
  isOpen : Option Bool
deriving BEq, DecidableEq, Repr

namespace SceneObject

variable {R : Type}

def pose (o : SceneObject R) : Pose R := ⟨o.position, o.orientation⟩

def withPose (o : SceneObject R) (p : Pose R) : SceneObject R :=
  { o with position := p.position, orientation := p.orientation }

variable [Scalar R]

def footprint (o : SceneObject R) : Footprint R :=
  Footprint.ofOrientation o.position.flat o.size.x o.size.y o.orientation

/-- The height of the top face. -/
def top (o : SceneObject R) : R := o.position.z + o.size.z / 2

/-- The height of the bottom face. -/
def bottom (o : SceneObject R) : R := o.position.z - o.size.z / 2

end SceneObject

/-- The objects on a table, with the picture that shows them. -/
structure Scene (R : Type) where
  id : String
  image : String
  objects : List (SceneObject R)
deriving BEq, DecidableEq, Repr

namespace Scene

variable {R : Type}

/-- The scene with the given objects, or the identifier that two of them share. -/
def ofObjects? (id image : String) (objects : List (SceneObject R)) : Except ObjectId (Scene R) :=
  match firstRepeated? (objects.map (·.id)) with
  | some x => .error x
  | none => .ok ⟨id, image, objects⟩

def get? (s : Scene R) (id : ObjectId) : Option (SceneObject R) := s.objects.find? (·.id = id)

/-- Change the first object with the given identifier. -/
def modify (id : ObjectId) (f : SceneObject R → SceneObject R) :
    List (SceneObject R) → List (SceneObject R)
  | [] => []
  | o :: os => if o.id = id then f o :: os else o :: modify id f os

/-- Put the object with the given identifier where `p` says, if there is one. -/
def setPose (s : Scene R) (id : ObjectId) (p : Pose R) : Scene R :=
  { s with objects := modify id (·.withPose p) s.objects }

end Scene

/-! ## Actions

What an annotator can do to an object, and the record of having done it. -/

/-- What is done to an object. -/
inductive ActionKind
  /-- Lift the lid of a container and set it aside. -/
  | openLid
  /-- Seat the lid of a container. -/
  | closeLid
  /-- Put the object inside a container. -/
  | putIn
  /-- Stack the object on something that is no container. -/
  | putOn
  /-- Drag the object along one axis, with respect to a reference. -/
  | putNear
  /-- Drag the object freely. -/
  | move
  /-- Turn the object in place. -/
  | rotate
deriving DecidableEq, Repr

namespace ActionKind

def all : List ActionKind := [openLid, closeLid, putIn, putOn, putNear, move, rotate]

/-- The name under which actions are recorded. -/
def name : ActionKind → String
  | openLid => "OPEN"
  | closeLid => "CLOSE"
  | putIn => "PUT_IN"
  | putOn => "PUT_ON"
  | putNear => "PUT_NEAR"
  | move => "MOVE"
  | rotate => "ROTATE"

def ofName? (s : String) : Option ActionKind := all.find? (·.name = s)

@[simp] theorem ofName?_name (k : ActionKind) : ofName? k.name = some k := by cases k <;> rfl

/-- The action relates the object to a second one. -/
def needsReference : ActionKind → Bool
  | putIn | putOn | putNear => true
  | _ => false

/-- The action follows from the container and its lid alone. -/
def isLidToggle : ActionKind → Bool
  | openLid | closeLid => true
  | _ => false

/-- The action drags the object. -/
def isDrag : ActionKind → Bool
  | putNear | move => true
  | _ => false

end ActionKind

/-- An action as it is recorded. -/
structure Action (R : Type) where
  kind : ActionKind
  /-- The object that has moved; when a container is opened or closed, its lid. -/
  object : ObjectId
  /-- What the object was put in, on or near; when a lid was moved, its container. -/
  reference : Option ObjectId
  /-- Where the object is afterwards. -/
  pose : Pose R
deriving BEq, DecidableEq, Repr

end Rearrangement
