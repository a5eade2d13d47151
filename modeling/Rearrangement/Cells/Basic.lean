import Rearrangement.Session.Handlers

/-!
# A session in cells

A session may also be kept in separate cells, one for each thing that can be asked of it: the mode,
the stage of the selection and the draft of the action in progress are three cells, and nothing but
the order in which they are written makes them fit.  `Session.cells` lays a session out in cells.

What is done to cells is done by handlers.  A handler writes one cell after the other, and what it
has written stays written when it stops: no cell is put back.
-/

namespace Rearrangement

/-- How far the selection has got. -/
inductive Stage (R : Type)
  | idle
  | selectTarget
  | selectReference (target : ObjectId)
  | manipulate (target : ObjectId) (reference : Option ObjectId) (grip : Option (Grip R))
  | awaitCommit (target : ObjectId) (reference : Option ObjectId)
deriving Repr

namespace Stage

variable {R : Type}

def isIdle : Stage R → Bool
  | idle => true
  | _ => false

/-- The chosen object. -/
def target : Stage R → Option ObjectId
  | idle | selectTarget => none
  | selectReference t | manipulate t _ _ | awaitCommit t _ => some t

/-- What the chosen object is put in, on or near. -/
def reference : Stage R → Option ObjectId
  | manipulate _ r _ | awaitCommit _ r => r
  | _ => none

end Stage

/-- An action in progress: copies of the scene and the relations before it, and the action as it
would be recorded now. -/
structure Draft (R : Type) where
  scene : Scene R
  relations : RelationSet
  action : Option (Action R)
deriving Repr

/-- The cells of a session. -/
structure Cells (R : Type) where
  config : Config R
  viewport : Viewport R
  scene : Option (Scene R)
  lids : LidMap
  relations : RelationSet
  mode : Option ActionKind
  stage : Stage R
  draft : Option (Draft R)
  trajectory : List (Action R)
  latestLoad : Nat
  press : Option (Point R)
deriving Repr

/-- Why a handler stops. -/
inductive Halt
  | refused (error : SessionError)
  /-- The relations that were just written do not hold together. -/
  | broken (violation : InvariantViolation)
deriving DecidableEq, Repr

/-- A program on cells.  When it stops, the cells are left as they are then. -/
abbrev Handler (R α : Type) := EStateM Halt (Cells R) α

namespace Cells

variable {R : Type}

/-- Cells before anything has happened. -/
def start [Scalar R] (config : Config R) : Cells R :=
  { config
    viewport := .unsized config.world config.padding
    scene := none
    lids := .empty
    relations := .empty
    mode := none
    stage := .idle
    draft := none
    trajectory := []
    latestLoad := 0
    press := none }

/-- The scene with its lids and relations. -/
def table (c : Cells R) : Option (Table R) := c.scene.map (⟨·, c.lids, c.relations⟩)

def object? (c : Cells R) (id : ObjectId) : Option (SceneObject R) := c.scene.bind (·.get? id)

/-- The action in progress as it would be recorded now. -/
def action (c : Cells R) : Option (Action R) := c.draft.bind (·.action)

end Cells

/-! ## Sessions in cells -/

variable {R : Type}

/-- How far the selection has got in a phase. -/
def Phase.stage : Phase R → Stage R
  | idle => .idle
  | selectTarget _ => .selectTarget
  | selectReference _ target _ => .selectReference target
  | manipulate _ target reference grip _ => .manipulate target reference grip
  | awaitCommit _ target reference _ _ => .awaitCommit target reference

def Step.draft (s : Step R) : Draft R := ⟨s.before.scene, s.before.relations, s.action⟩

/-- The session, laid out in cells. -/
def Session.cells (s : Session R) : Cells R :=
  { config := s.config
    viewport := s.viewport
    scene := s.scene?
    lids := s.lids
    relations := s.relations
    mode := s.phase.mode
    stage := s.phase.stage
    draft := s.phase.step.map Step.draft
    trajectory := s.trajectory
    latestLoad := s.latestLoad
    press := s.press }

end Rearrangement
