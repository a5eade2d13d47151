import Rearrangement.Cells.Basic
import Rearrangement.Session.Handlers

/-!
# Handlers

What can be done to the cells of a session, one write after the other.  All that is asked before the
first write is asked by `ask` and `loaded`; after it only `applyPose` can stop, and it stops when
the relations that it has written do not hold together.

A handler is a program in a monad with state and exceptions in which the state outlasts the
exception (`Handler`).  One that was refused after its first write would leave its cells half
written, so the order of its lines matters.  What is asked is what a session asks, by the same
functions.
-/

namespace Rearrangement.Handler

open Scalar

variable {R α : Type}

/-! ## Asking and writing -/

def refuse (e : SessionError) : Handler R α := throw (.refused e)

/-- Go on with a result, or refuse for the cause of its failure. -/
def ask {ε : Type} (cause : ε → SessionError) : Except ε α → Handler R α
  | .ok a => pure a
  | .error e => refuse (cause e)

/-- The table, which must be there. -/
def loaded : Handler R (Table R) := do
  match (← get).table with
  | some t => return t
  | none => refuse (.precondition .noSceneLoaded)

/-- Put an object somewhere and update the relations, which must hold together afterwards. -/
def applyPose (id : ObjectId) (p : Pose R) (kind : ActionKind) (context : Option ObjectId) :
    Handler R Unit := do
  modify fun c => { c with scene := c.scene.map (·.setPose id p) }
  modify fun c => { c with relations := c.relations.update c.lids id kind context }
  match (← get).relations.validate with
  | .ok () => return ()
  | .error violation => throw (.broken violation)

/-- Note the action in the draft, if there is one. -/
def setAction (a : Action R) : Handler R Unit :=
  modify fun c => { c with draft := c.draft.map ({ · with action := some a }) }

/-! ## Loading and saving -/

def beginLoad (sceneId : String) : Handler R LoadTicket := do
  modify fun c => { c with latestLoad := c.latestLoad + 1 }
  return ⟨(← get).latestLoad, sceneId⟩

/-- Show the table of a bundle from the start. -/
def install (b : SceneBundle R) : Handler R Unit := do
  let t ← ask .collaborator b.table
  modify fun c => { c with
    scene := some t.scene, lids := t.lids, relations := t.relations, trajectory := [] }
  modify fun c => { c with mode := none, stage := .idle, draft := none, press := none }

def completeLoad (ticket : LoadTicket) (answer : Except CollaboratorError (SceneBundle R)) :
    Handler R LoadOutcome := do
  if ticket.number ≠ (← get).latestLoad then
    return .superseded
  else
    let b ← ask .collaborator answer
    install b
    return .loaded

def load (b : SceneBundle R) : Handler R LoadOutcome := do
  let ticket ← beginLoad b.scene.taskId
  completeLoad ticket (.ok b)

def saveRequest : Handler R (SaveRequest R) := do
  match (← get).table, (← get).trajectory with
  | some t, a :: as => return ⟨t.scene.id, ⟨a :: as, t.relations⟩⟩
  | _, _ => refuse (.precondition .nothingToSave)

/-! ## Choosing and clicking -/

def choose (kind : ActionKind) : Handler R (List (Effect R)) := do
  modify fun c => { c with draft := none }
  modify fun c => { c with mode := some kind, stage := .selectTarget, press := none }
  return Session.selectionEffects

/-- Record the action of the draft. -/
def finish : Handler R (List (Effect R)) := do
  match (← get).action with
  | none => refuse (.precondition .nothingToCommit)
  | some a =>
      modify fun c => { c with draft := none, trajectory := c.trajectory ++ [a] }
      modify fun c => { c with mode := none, stage := .idle, press := none }
      return [.stepCommitted a, .selectionChanged, .renderNeeded]

/-- Give up the draft and put the scene and the relations back. -/
def cancel : Handler R (List (Effect R)) := do
  let c ← get
  match c.draft with
  | some d =>
      modify fun c => { c with draft := none, scene := some d.scene, relations := d.relations }
  | none => pure ()
  modify fun c => { c with mode := none, stage := .idle, press := none }
  if c.draft.isSome then
    return [.stepCancelled, .selectionChanged, .renderNeeded]
  else if c.stage.isIdle && c.mode.isNone then
    return []
  else
    return [.selectionChanged, .renderNeeded]

def clickEmpty : Handler R (List (Effect R)) := do
  let _ ← loaded
  let c ← get
  if c.action.isSome then
    finish
  else if c.stage.isIdle then
    return []
  else
    modify fun c => { c with draft := none }
    modify fun c => { c with stage := if c.mode.isSome then .selectTarget else .idle }
    return Session.selectionEffects

variable [Scalar R]

/-- Open or close the container that was clicked, or whose lid was clicked. -/
def toggleLid (kind : ActionKind) (clicked : ObjectId) : Handler R (List (Effect R)) := do
  let t ← loaded
  let container := (t.lids.containerFor? clicked).getD clicked
  let (lid, pose) ← ask .precondition (t.lidToggle kind container)
  applyPose lid pose kind (some container)
  let a : Action R := ⟨kind, lid, some container, pose⟩
  modify fun c => { c with draft := some ⟨t.scene, t.relations, some a⟩ }
  modify fun c => { c with stage := .awaitCommit container none }
  return Session.selectionEffects

def selectTarget (kind : ActionKind) (id : ObjectId) : Handler R (List (Effect R)) := do
  if kind.isLidToggle then
    toggleLid kind id
  else
    let t ← loaded
    modify fun c => { c with draft := some ⟨t.scene, t.relations, none⟩ }
    modify fun c => { c with
      stage := if kind.needsReference then .selectReference id else .manipulate id none none }
    return Session.selectionEffects

def selectReference (kind : ActionKind) (target reference : ObjectId) :
    Handler R (List (Effect R)) := do
  if target = reference then
    refuse (.precondition (.sameObject kind target))
  else
    let t ← loaded
    let moving ← ask .precondition (t.require target)
    let anchor ← ask .precondition (t.require reference)
    ask .precondition (t.checkReference kind anchor)
    if kind = .putNear then
      modify fun c => { c with stage := .manipulate target (some reference) none }
      return Session.selectionEffects
    else
      let pose := if kind = .putIn then moving.puttingIn anchor else moving.puttingOn anchor
      applyPose target pose kind (some reference)
      setAction ⟨kind, target, some reference, pose⟩
      modify fun c => { c with stage := .awaitCommit target (some reference) }
      return Session.selectionEffects

def clickObject (id : ObjectId) : Handler R (List (Effect R)) := do
  let t ← loaded
  let _ ← ask .precondition (t.require id)
  let c ← get
  match c.mode, c.stage with
  | none, _ | _, .idle => refuse (.precondition .noActionChosen)
  | some kind, .selectTarget => selectTarget kind id
  | some kind, .selectReference target => selectReference kind target id
  | _, .manipulate _ _ _ | _, .awaitCommit _ _ => return []

def click (pixel : Point R) : Handler R (List (Effect R)) := do
  let t ← loaded
  match t.scene.hit? (← get).viewport pixel with
  | some id => clickObject id
  | none => clickEmpty

/-! ## The pointer -/

def resize (width height : R) : Handler R (List (Effect R)) := do
  modify fun c => { c with viewport := c.viewport.resize width height }
  return [.renderNeeded]

def pointerDown (pixel : Point R) : Handler R (List (Effect R)) := do
  modify fun c => { c with press := some pixel }
  let c ← get
  match c.mode, c.stage with
  | some kind, .manipulate target reference none =>
      match c.object? target with
      | some o =>
          if kind.isDrag ∧ o.footprint.contains (c.viewport.toWorld pixel) then
            let grip : Grip R := ⟨pixel, o.position.flat⟩
            modify fun c => { c with stage := .manipulate target reference (some grip) }
            return [.setCursor "grabbing"]
          else
            return []
      | none => return []
  | _, _ => return []

def pointerMove (pixel : Point R) : Handler R (List (Effect R)) := do
  let c ← get
  match c.mode, c.stage with
  | some kind, .manipulate target reference grip =>
      match c.object? target with
      | some o =>
          match ← ask id (Session.followed o kind grip pixel c.viewport) with
          | some pose =>
              applyPose target pose kind reference
              setAction ⟨kind, target, reference, pose⟩
              return [.renderNeeded]
          | none => return []
      | none => return []
  | _, _ => return []

/-- The pointer is released, which counts as a click if it was pressed nearby. -/
def release (press : Option (Point R)) (pixel : Point R) : Handler R (List (Effect R)) := do
  match (← get).stage with
  | .manipulate target reference (some _) =>
      modify fun c => { c with stage := .manipulate target reference none }
      return [.setCursor "default", .renderNeeded]
  | _ =>
      match press with
      | some start =>
          if hypot (pixel.x - start.x) (pixel.y - start.y) ≤ clickSlop then
            click pixel
          else
            return []
      | none => return []

def pointerUp (pixel : Point R) : Handler R (List (Effect R)) := do
  let press := (← get).press
  modify fun c => { c with press := none }
  release press pixel

/-! ## Replaying -/

def replay (a : Action R) : Handler R (Action R) := do
  let t ← loaded
  let pose ← ask id (t.replayPose (← get).config.world a)
  modify fun c => { c with draft := none, mode := none, stage := .idle }
  applyPose a.object pose a.kind a.reference
  let applied := { a with pose }
  modify fun c => { c with trajectory := c.trajectory ++ [applied] }
  return applied

end Rearrangement.Handler
