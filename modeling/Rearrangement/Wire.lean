import Rearrangement.Json.Basic
import Rearrangement.Json.Reader
import Rearrangement.Relations
import Rearrangement.Scene

/-!
# Records as JSON

How objects, lid maps, actions, relations and bundles are written and read.

What has a standard value may be left out in reading, and is always written.  The names of the
members of each record are listed once, and its reader goes by the list.

A record may be written as an object or as an array of its fields in order, and both are read.  An
unknown field is stepped over, a field that is given twice is refused, and so is one that must be
there and is not (`fields?`).  What cannot be read is told apart from what is not there, but not
from what has the wrong type: readers are optional, and there is one error for all of it.
-/

namespace Rearrangement

/-! ## Objects and lids

How objects and lid maps are written and read.  What has a standard value may be left out in
reading. -/

open Json

namespace Vec3

/-- A vector is the list of its components. -/
def toJson (v : Vec3 Float) : Json := .array [.real v.x, .real v.y, .real v.z]

def ofJson? (j : Json) : Option (Vec3 Float) := do
  let [x, y, z] ← j.list? float? | none
  return ⟨x, y, z⟩

end Vec3

def Category.toJson (c : Category) : Json := .string c.name

def Category.ofJson? (j : Json) : Option Category := j.word?.map Category.ofName

namespace SceneObject

def fieldNames : List String :=
  ["id", "name", "category", "position", "orientation", "size", "isOpen"]

/-- An object is a record of its fields; what is not known of being open is left out. -/
def toJson (o : SceneObject Float) : Json :=
  .object ([("id", .string o.id), ("name", .string o.name), ("category", o.category.toJson),
    ("position", o.position.toJson), ("orientation", .real o.orientation),
    ("size", o.size.toJson)] ++
    match o.isOpen with
    | some b => [("isOpen", .bool b)]
    | none => [])

def ofJson? (j : Json) : Option (SceneObject Float) := do
  let [id, name, category, position, orientation, size, isOpen] ← j.fields? fieldNames | none
  return {
    id := ← required? string? id
    name := ← required? string? name
    category := ← withDefault? .unclassified Category.ofJson? category
    position := ← required? Vec3.ofJson? position
    orientation := ← withDefault? 0 float? orientation
    size := ← required? Vec3.ofJson? size
    isOpen := ← withDefault? none (nullable? bool?) isOpen }

end SceneObject

namespace LidMap

/-- A lid map is an object with the containers as keys. -/
def toJson (m : LidMap) : Json := .object (m.entries.map fun e => (e.1, .string e.2))

def ofJson? : Json → Option LidMap
  | .object members =>
      (members.mapM fun (m : String × Json) => m.2.string?.map fun lid => (m.1, lid)).map ofList
  | _ => none

end LidMap

/-! ## Actions, relations and bundles

What goes to and comes from the provider of scenes and the store of trajectories. -/

def ActionKind.toJson (k : ActionKind) : Json := .string k.name

def ActionKind.ofJson? (j : Json) : Option ActionKind := j.word? >>= ActionKind.ofName?

namespace Action

def fieldNames : List String := ["type", "object_id", "reference_id", "new_pos", "new_orientation"]

def toJson (a : Action Float) : Json :=
  .object ([("type", a.kind.toJson), ("object_id", .string a.object)] ++
    (match a.reference with
      | some r => [("reference_id", .string r)]
      | none => []) ++
    [("new_pos", a.pose.position.toJson), ("new_orientation", .real a.pose.orientation)])

def ofJson? (j : Json) : Option (Action Float) := do
  let [kind, object, reference, position, orientation] ← j.fields? fieldNames | none
  return {
    kind := ← required? ActionKind.ofJson? kind
    object := ← required? string? object
    reference := ← withDefault? none (nullable? string?) reference
    pose := {
      position := ← required? Vec3.ofJson? position
      orientation := ← required? float? orientation } }

/-- A trajectory is the list of its actions. -/
def listToJson (as : List (Action Float)) : Json := .array (as.map toJson)

def listOfJson? (j : Json) : Option (List (Action Float)) := j.list? ofJson?

end Action

namespace Placement

def toJson (p : Placement) : Json :=
  .object [("obj1", .string p.object), ("obj2", .string p.anchor)]

def ofJson? (j : Json) : Option Placement := do
  let [object, anchor] ← j.fields? ["obj1", "obj2"] | none
  return ⟨← required? string? object, ← required? string? anchor⟩

end Placement

namespace RelationSet

/-- That a container is closed is a relation of one object. -/
def closedToJson (c : ObjectId) : Json := .object [("obj1", .string c)]

def closedOfJson? (j : Json) : Option ObjectId := do
  let [container] ← j.fields? ["obj1"] | none
  required? string? container

def toJson (r : RelationSet) : Json :=
  .object [("on", .array (r.on.map Placement.toJson)),
    ("in", .array (r.inside.map Placement.toJson)),
    ("closed", .array (r.closed.map closedToJson))]

def ofJson? (j : Json) : Option RelationSet := do
  let [on, inside, closed] ← j.fields? ["on", "in", "closed"] | none
  return {
    on := ← withDefault? [] (list? Placement.ofJson?) on
    inside := ← withDefault? [] (list? Placement.ofJson?) inside
    closed := ← withDefault? [] (list? closedOfJson?) closed }

end RelationSet

namespace SceneDocument

def toJson (d : SceneDocument Float) : Json :=
  .object [("task_id", .string d.taskId), ("objects", .array (d.objects.map SceneObject.toJson))]

def ofJson? (j : Json) : Option (SceneDocument Float) := do
  let [taskId, objects] ← j.fields? ["task_id", "objects"] | none
  return ⟨← required? string? taskId, ← required? (list? SceneObject.ofJson?) objects⟩

end SceneDocument

namespace SceneBundle

def toJson (b : SceneBundle Float) : Json :=
  .object [("scene", b.scene.toJson), ("image", .string b.image), ("lid_map", b.lids.toJson),
    ("relations", b.relations.toJson)]

def ofJson? (j : Json) : Option (SceneBundle Float) := do
  let [scene, image, lids, relations] ← j.fields? ["scene", "image", "lid_map", "relations"] | none
  return {
    scene := ← required? SceneDocument.ofJson? scene
    image := ← required? string? image
    lids := ← withDefault? .empty LidMap.ofJson? lids
    relations := ← withDefault? .empty RelationSet.ofJson? relations }

/-- The bundle that a text spells. -/
def read? (text : String) : Option (SceneBundle Float) := Json.read? text >>= ofJson?

end SceneBundle

namespace SavePayload

def toJson (p : SavePayload Float) : Json :=
  .object [("actions", Action.listToJson p.actions), ("relations", p.relations.toJson)]

def ofJson? (j : Json) : Option (SavePayload Float) := do
  let [actions, relations] ← j.fields? ["actions", "relations"] | none
  return ⟨← required? Action.listOfJson? actions, ← required? RelationSet.ofJson? relations⟩

end SavePayload

/-- The actions that a text spells, either as a list or as the payload of a save.  Here all of the
text has to be readable. -/
def Action.readList? (text : String) : Option (List (Action Float)) := do
  let j ← (← Json.read? text).whole?
  match Action.listOfJson? j with
  | some as => some as
  | none => (SavePayload.ofJson? j).map (·.actions)

end Rearrangement
