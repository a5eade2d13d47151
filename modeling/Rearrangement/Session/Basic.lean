import Rearrangement.Placement
import Rearrangement.Relations
import Rearrangement.Scene

/-!
# Annotation sessions

A session shows one scene and records what is done to it.  At most one action is in progress, and a
phase of the session carries all that belongs to it: the kind of action, the objects chosen so far,
and the table as it was before.  What is displayed of a phase is read off it by `mode`, `target`,
`reference` and `step`.

Since the table before an action is part of the phase of that action, taking it back means to put
that table in place of the one shown (`Session.rollback`), and there is no undo log that could
disagree with it.
-/

namespace Rearrangement

/-! ## What can go wrong

Every cause is a constructor of its own; the wording of all of them is in the `message` functions.
-/

/-- Something was attempted on the wrong object or at the wrong time. -/
inductive PreconditionViolation
  | noSceneLoaded
  | noActionChosen
  | unknownObject (id : ObjectId)
  | duplicateObjectId (id : ObjectId)
  | sameObject (kind : ActionKind) (target : ObjectId)
  | notAContainer (id : ObjectId)
  | containerClosed (id : ObjectId)
  | referenceIsContainer (id : ObjectId)
  | noMappedLid (container : ObjectId)
  | lidMismatch (container lid : ObjectId)
  | alreadyOpen (container : ObjectId)
  | alreadyClosed (container : ObjectId)
  | missingReference (kind : ActionKind)
  | nothingToCommit
  | nothingToSave
deriving DecidableEq, Repr

def PreconditionViolation.message : PreconditionViolation → String
  | noSceneLoaded => "no scene is loaded"
  | noActionChosen => "no action type is chosen"
  | unknownObject id => s!"object `{id}` is not in the scene"
  | duplicateObjectId id => s!"scene contains object id `{id}` more than once"
  | sameObject kind target => s!"{kind.name} needs a reference distinct from the target `{target}`"
  | notAContainer id => s!"`{id}` is not a container"
  | containerClosed id => s!"container `{id}` is closed"
  | referenceIsContainer id => s!"cannot put on `{id}`: it is a container, use PUT_IN"
  | noMappedLid container => s!"`{container}` has no mapped lid"
  | lidMismatch container lid => s!"`{lid}` is not the mapped lid of `{container}`"
  | alreadyOpen container => s!"`{container}` is already open"
  | alreadyClosed container => s!"`{container}` is already closed"
  | missingReference kind => s!"{kind.name} needs a reference object"
  | nothingToCommit => "no step action to commit"
  | nothingToSave => "nothing to save"

/-- The provider of scenes or the store of trajectories failed. -/
inductive CollaboratorError
  | status (code : Nat) (text : String)
  /-- An answer that forms no scene. -/
  | malformed (text : String)
  /-- An answer that is no bundle at all. -/
  | unreadable
  | transport (text : String)
deriving DecidableEq, Repr

def CollaboratorError.message : CollaboratorError → String
  | status code text => s!"collaborator returned status {code}: {text}"
  | malformed text => s!"malformed collaborator response: {text}"
  | unreadable => "malformed collaborator response"
  | transport text => s!"collaborator unreachable: {text}"

/-- Why an operation of a session did not go through. -/
inductive SessionError
  | precondition (violation : PreconditionViolation)
  | collaborator (error : CollaboratorError)
  /-- A point was to be kept inside a world rectangle whose bounds are not in order. -/
  | unorderedWorld
deriving DecidableEq, Repr

def SessionError.message : SessionError → String
  | precondition violation => violation.message
  | collaborator error => error.message
  | unorderedWorld => "the bounds of the world rectangle are not in order"

/-! ## Tables, phases and sessions -/

/-- A scene with its lids and the relations that hold in it. -/
structure Table (R : Type) where
  scene : Scene R
  lids : LidMap
  relations : RelationSet
deriving DecidableEq, Repr

namespace Table

variable {R : Type}

def require (t : Table R) (id : ObjectId) : Except PreconditionViolation (SceneObject R) :=
  match t.scene.get? id with
  | some o => .ok o
  | none => .error (.unknownObject id)

/-- Put an object somewhere and update the relations accordingly. -/
def place (t : Table R) (kind : ActionKind) (id : ObjectId) (p : Pose R)
    (context : Option ObjectId) : Table R :=
  { t with
    scene := t.scene.setPose id p
    relations := t.relations.update t.lids id kind context }

end Table

/-- An action in progress: the table before it, and the action as it would be recorded now. -/
structure Step (R : Type) where
  before : Table R
  action : Option (Action R)
deriving Repr

/-- Where a session stands between two inputs. -/
inductive Phase (R : Type)
  | idle
  /-- A kind of action is chosen; its object is not. -/
  | selectTarget (kind : ActionKind)
  /-- The object is chosen; what it is put in, on or near is not. -/
  | selectReference (kind : ActionKind) (target : ObjectId) (before : Table R)
  /-- The object follows the pointer; there is a grip while it is dragged. -/
  | manipulate (kind : ActionKind) (target : ObjectId) (reference : Option ObjectId)
      (grip : Option (Grip R)) (step : Step R)
  /-- The object has been put where it belongs; the action is not yet recorded. -/
  | awaitCommit (kind : ActionKind) (target : ObjectId) (reference : Option ObjectId)
      (before : Table R) (action : Action R)
deriving Repr

namespace Phase

variable {R : Type}

def isIdle : Phase R → Bool
  | idle => true
  | _ => false

/-- The chosen kind of action. -/
def mode : Phase R → Option ActionKind
  | idle => none
  | selectTarget k | selectReference k _ _ | manipulate k _ _ _ _ | awaitCommit k _ _ _ _ => some k

/-- The chosen object. -/
def target : Phase R → Option ObjectId
  | idle | selectTarget _ => none
  | selectReference _ t _ | manipulate _ t _ _ _ | awaitCommit _ t _ _ _ => some t

/-- What the chosen object is put in, on or near. -/
def reference : Phase R → Option ObjectId
  | manipulate _ _ r _ _ | awaitCommit _ _ r _ _ => r
  | _ => none

def grip : Phase R → Option (Grip R)
  | manipulate _ _ _ g _ => g
  | _ => none

/-- The action in progress. -/
def step : Phase R → Option (Step R)
  | idle | selectTarget _ => none
  | selectReference _ _ t => some ⟨t, none⟩
  | manipulate _ _ _ _ s => some s
  | awaitCommit _ _ _ t a => some ⟨t, some a⟩

/-- The action in progress as it would be recorded now. -/
def action (p : Phase R) : Option (Action R) := p.step.bind (·.action)

end Phase

/-- What an operation asks of whoever shows the session. -/
inductive Effect (R : Type)
  | renderNeeded
  | selectionChanged
  | stepCommitted (action : Action R)
  | stepCancelled
  | setCursor (name : String)
deriving BEq, DecidableEq, Repr

/-- Names one request for a scene. -/
structure LoadTicket where
  number : Nat
  sceneId : String
deriving DecidableEq, Repr

/-- What the store of trajectories is asked to keep. -/
structure SaveRequest (R : Type) where
  sceneId : String
  payload : SavePayload R
deriving DecidableEq, Repr

/-- What is fixed for a whole session. -/
structure Config (R : Type) where
  world : World R
  padding : R
  tickCount : Nat
deriving Repr

def Config.standard {R : Type} [Scalar R] : Config R := ⟨.standard, Viewport.standardPadding, 5⟩

/-- All that a session knows. -/
structure Session (R : Type) where
  config : Config R
  viewport : Viewport R
  /-- There is none before a scene is loaded. -/
  table : Option (Table R)
  phase : Phase R
  trajectory : List (Action R)
  /-- The number of the latest request for a scene. -/
  latestLoad : Nat
  /-- Where the pointer was pressed, until it is released. -/
  press : Option (Point R)
deriving Repr

namespace Session

open Scalar

variable {R : Type} [Scalar R]

/-- A session before anything has happened. -/
def start (config : Config R) : Session R :=
  { config
    viewport := .unsized config.world config.padding
    table := none
    phase := .idle
    trajectory := []
    latestLoad := 0
    press := none }

omit [Scalar R]

def scene? (s : Session R) : Option (Scene R) := s.table.map (·.scene)

def relations (s : Session R) : RelationSet := (s.table.map (·.relations)).getD .empty

def lids (s : Session R) : LidMap := (s.table.map (·.lids)).getD .empty

def object? (s : Session R) (id : ObjectId) : Option (SceneObject R) :=
  s.table.bind (·.scene.get? id)

/-- The table, which must be there. -/
def loaded (s : Session R) : Except PreconditionViolation (Table R) :=
  match s.table with
  | some t => .ok t
  | none => .error .noSceneLoaded

/-- What is certain about the table: how it was before the action in progress, if there is one. -/
def committed (s : Session R) : Option (Table R) :=
  match s.phase.step with
  | some step => some step.before
  | none => s.table

end Session

end Rearrangement
