import Rearrangement.Scene

/-!
# Relations and bundles

What stands on what, what lies in what and what is closed, which lids belong to which containers,
and the scene with all of this as it is sent and saved.

Relations follow from the actions that were taken and not from the poses.  `RelationSet.update` is
the only function that changes them, and it is the same one for an action by hand, for the preview
of one and for an action that is replayed.  `RelationSet.normalize` turns what a problem file
asserts into the same form: a lid that is said to be on its own container closes it.

* `LidMap` : at most one lid for each container, kept in order by construction;
* `RelationSet` : the relations, `update`, `normalize` and what `validate` refuses;
* `SceneBundle`, `SavePayload` : what is exchanged with the provider and with the store.
-/

namespace Rearrangement

/-! ## Lids

Which object is the lid of which container.  A container has at most one lid; one object may be the
lid of several containers, and then `containerFor?` names the first of them. -/

/-- Containers with their lids, in strictly increasing order of the containers. -/
structure LidMap where
  entries : List (ObjectId × ObjectId)
  sorted : entries.Pairwise (·.1 < ·.1)
deriving DecidableEq, Repr

namespace LidMap

instance : Inhabited LidMap := ⟨⟨[], .nil⟩⟩

def empty : LidMap := default

/-- Put an entry in its place, instead of the one for the same container if there is one. -/
def insertEntry (container lid : ObjectId) : List (ObjectId × ObjectId) → List (ObjectId × ObjectId)
  | [] => [(container, lid)]
  | (c, l) :: es =>
      if container < c then (container, lid) :: (c, l) :: es
      else if container = c then (container, lid) :: es
      else (c, l) :: insertEntry container lid es

theorem fst_of_mem_insertEntry {container lid : ObjectId} {es : List (ObjectId × ObjectId)}
    {e : ObjectId × ObjectId} (h : e ∈ insertEntry container lid es) :
    e.1 = container ∨ e ∈ es := by
  induction es with
  | nil => simp_all [insertEntry]
  | cons d es ih => grind [insertEntry]

theorem pairwise_insertEntry (container lid : ObjectId) {es : List (ObjectId × ObjectId)}
    (h : es.Pairwise (·.1 < ·.1)) : (insertEntry container lid es).Pairwise (·.1 < ·.1) := by
  induction es with
  | nil => simp [insertEntry]
  | cons d es ih =>
    obtain ⟨hd, hes⟩ := List.pairwise_cons.1 h
    unfold insertEntry
    split
    next hlt =>
      refine List.pairwise_cons.2 ⟨fun e he => ?_, h⟩
      rcases List.mem_cons.1 he with rfl | he
      · exact hlt
      · exact String.lt_trans hlt (hd e he)
    next hlt =>
      split
      next heq => exact List.pairwise_cons.2 ⟨fun e he => heq ▸ hd e he, hes⟩
      next hne =>
        refine List.pairwise_cons.2 ⟨fun e he => ?_, ih hes⟩
        rcases fst_of_mem_insertEntry he with rfl | he
        · rcases String.le_total d.1 e.1 with hle | hle
          · exact String.not_le.1 fun hge => hne (String.le_antisymm hge hle)
          · exact absurd (String.le_antisymm hle (String.not_lt.1 hlt)) hne
        · exact hd e he

/-- Map a container to its lid. -/
def insert (m : LidMap) (container lid : ObjectId) : LidMap :=
  ⟨insertEntry container lid m.entries, pairwise_insertEntry container lid m.sorted⟩

/-- The map with the given entries; of two for one container the later one counts. -/
def ofList (es : List (ObjectId × ObjectId)) : LidMap :=
  es.foldl (fun m e => m.insert e.1 e.2) empty

/-- The lid of a container. -/
def lidFor? (m : LidMap) (container : ObjectId) : Option ObjectId :=
  (m.entries.find? (·.1 = container)).map (·.2)

/-- The first container with the given lid. -/
def containerFor? (m : LidMap) (lid : ObjectId) : Option ObjectId :=
  (m.entries.find? (·.2 = lid)).map (·.1)

def size (m : LidMap) : Nat := m.entries.length

end LidMap

/-! ## Relations between objects

What stands on what, what lies in what, and which containers are closed.  Relations follow from the
actions that were taken and not from the poses: a container is closed if its lid was put there to
close it. -/

/-- `object` is on or in `anchor`. -/
structure Placement where
  object : ObjectId
  anchor : ObjectId
deriving DecidableEq, Repr

/-- The two ways to be placed. -/
inductive PlacementKind
  | on
  | inside
deriving DecidableEq, Repr

/-- All relations that hold. -/
structure RelationSet where
  on : List Placement
  inside : List Placement
  /-- The closed containers. -/
  closed : List ObjectId
deriving DecidableEq, Repr

/-- What relations must not do. -/
inductive InvariantViolation
  /-- An object is placed twice. -/
  | multiplePlacements (object : ObjectId)
  /-- A container is closed twice. -/
  | duplicateClosed (container : ObjectId)
deriving DecidableEq, Repr

def InvariantViolation.message : InvariantViolation → String
  | multiplePlacements o => s!"`{o}` is the moving member of more than one on/in relation"
  | duplicateClosed c => s!"container `{c}` is listed as closed more than once"

namespace RelationSet

def empty : RelationSet := ⟨[], [], []⟩

instance : Inhabited RelationSet := ⟨empty⟩

def isEmpty (r : RelationSet) : Bool := r.on.isEmpty && r.inside.isEmpty && r.closed.isEmpty

def isClosed (r : RelationSet) (container : ObjectId) : Bool := decide (container ∈ r.closed)

/-- Where an object is placed, if it is. -/
def placementOf? (r : RelationSet) (object : ObjectId) : Option (PlacementKind × ObjectId) :=
  match r.on.find? (·.object = object) with
  | some p => some (.on, p.anchor)
  | none => (r.inside.find? (·.object = object)).map fun p => (.inside, p.anchor)

/-- The object is no longer placed anywhere. -/
def unplace (r : RelationSet) (object : ObjectId) : RelationSet :=
  { r with
    on := r.on.filter (·.object ≠ object)
    inside := r.inside.filter (·.object ≠ object) }

/-- The container is no longer closed. -/
def reopen (r : RelationSet) (container : ObjectId) : RelationSet :=
  { r with closed := r.closed.filter (· ≠ container) }

/-- The object has moved as part of the given action: it leaves its place, and the container of
which it is the lid is open unless it was just closed with it. -/
def lift (r : RelationSet) (lids : LidMap) (moved : ObjectId) (kind : ActionKind)
    (context : Option ObjectId) : RelationSet :=
  match lids.containerFor? moved with
  | some c =>
      if kind = .closeLid ∧ context = some c then r.unplace moved else (r.unplace moved).reopen c
  | none => r.unplace moved

/-- The fact that an action adds or takes away once its object has been lifted. -/
def settle (r : RelationSet) (lids : LidMap) (moved : ObjectId) :
    ActionKind → Option ObjectId → RelationSet
  | .putOn, some anchor => { r with on := r.on ++ [⟨moved, anchor⟩] }
  | .putIn, some anchor => { r with inside := r.inside ++ [⟨moved, anchor⟩] }
  | .closeLid, some c =>
      if lids.lidFor? c = some moved then { r with closed := r.closed ++ [c] } else r
  | .openLid, some c => r.reopen c
  | _, _ => r

/-- The relations after `moved` was moved by an action.  `context` is what it was put in, on or
near, and the container when a lid was moved. -/
def update (r : RelationSet) (lids : LidMap) (moved : ObjectId) (kind : ActionKind)
    (context : Option ObjectId) : RelationSet :=
  let r := (r.lift lids moved kind context).settle lids moved kind context
  { r with closed := distinct r.closed }

/-- The object is the lid of what it is on. -/
def seated (lids : LidMap) (p : Placement) : Bool := decide (lids.lidFor? p.anchor = some p.object)

/-- A lid that is said to be on its own container closes it. -/
def normalize (r : RelationSet) (lids : LidMap) : RelationSet :=
  { r with
    on := r.on.filter fun p => !seated lids p
    closed := distinct (r.closed ++ (r.on.filter (seated lids)).map (·.anchor)) }

/-- Whether each object is placed at most once and each container is closed at most once. -/
def validate (r : RelationSet) : Except InvariantViolation Unit :=
  match firstRepeated? ((r.on ++ r.inside).map (·.object)) with
  | some o => .error (.multiplePlacements o)
  | none =>
      match firstRepeated? r.closed with
      | some c => .error (.duplicateClosed c)
      | none => .ok ()

end RelationSet

/-! ## Scene bundles

What the provider of scenes sends for one scene, and what the store of trajectories gets back. -/

/-- The objects of one task. -/
structure SceneDocument (R : Type) where
  taskId : String
  objects : List (SceneObject R)
deriving BEq, DecidableEq, Repr

/-- A scene with all that is known about it at the start. -/
structure SceneBundle (R : Type) where
  scene : SceneDocument R
  image : String
  lids : LidMap
  relations : RelationSet
deriving DecidableEq, Repr

/-- The recorded actions and the relations after them. -/
structure SavePayload (R : Type) where
  actions : List (Action R)
  relations : RelationSet
deriving BEq, DecidableEq, Repr

end Rearrangement
