import Rearrangement.Placement
import Rearrangement.Session.Basic

/-!
# The handlers of a session

What each click, drag, replay, load and save does to a session, and what it tells its caller to do
next.

All preconditions of a handler are checked before anything changes.  A handler that fails answers an
error and no session, so that its caller goes on with the session it had; the few that use something
up in any case answer a session beside their result.

The handlers that may fail return `Except`, with the violated precondition as the error.  Their
checks come in a fixed order, which decides what is said where several are violated.

Clicks and replays share the places to which actions lead (`SceneObject.puttingIn` and its like) and
differ in what they check and in which order.  A replay takes a recorded pose only where nothing
else says where the object goes.
-/

namespace Rearrangement

/-! ## Choosing actions and objects

The clicks that lead from a kind of action to its objects.  All preconditions are checked before
anything changes. -/

section Manipulation

open Scalar

variable {R : Type} [Scalar R]

namespace Table

/-- Whether an object may be what another one is put in or on. -/
def checkReference (t : Table R) (kind : ActionKind) (anchor : SceneObject R) :
    Except PreconditionViolation Unit :=
  match kind with
  | .putIn =>
      if anchor.category ≠ .container then .error (.notAContainer anchor.id)
      else if t.relations.isClosed anchor.id then .error (.containerClosed anchor.id)
      else .ok ()
  | .putOn =>
      if anchor.category = .container then .error (.referenceIsContainer anchor.id) else .ok ()
  | _ => .ok ()

/-- The lid of a container that is opened or closed, and where it goes. -/
def lidToggle (t : Table R) (kind : ActionKind) (container : ObjectId) :
    Except PreconditionViolation (ObjectId × Pose R) := do
  let c ← t.require container
  match t.lids.lidFor? container with
  | none => throw (.noMappedLid container)
  | some lidId =>
      let lid ← t.require lidId
      if kind = .openLid then
        if t.relations.isClosed container then return (lidId, lid.opening c)
        else throw (.alreadyOpen container)
      else
        if t.relations.isClosed container then throw (.alreadyClosed container)
        else return (lidId, lid.closing c)

end Table

namespace Session

/-- The effects of a change of the selection. -/
def selectionEffects : List (Effect R) := [.selectionChanged, .renderNeeded]

/-- Choose a kind of action.  An action in progress is dropped, and what it has done stays. -/
def choose (s : Session R) (kind : ActionKind) : Session R × List (Effect R) :=
  ({ s with phase := .selectTarget kind, press := none }, selectionEffects)

/-- Open or close the container that was clicked, or whose lid was clicked. -/
def toggleLid (s : Session R) (t : Table R) (kind : ActionKind) (clicked : ObjectId) :
    Except PreconditionViolation (Session R × List (Effect R)) := do
  let container := (t.lids.containerFor? clicked).getD clicked
  let (lid, pose) ← t.lidToggle kind container
  return ({ s with
    table := some (t.place kind lid pose (some container))
    phase := .awaitCommit kind container none t ⟨kind, lid, some container, pose⟩ },
    selectionEffects)

/-- Choose the object of an action. -/
def selectTarget (s : Session R) (t : Table R) (kind : ActionKind) (id : ObjectId) :
    Except PreconditionViolation (Session R × List (Effect R)) :=
  if kind.isLidToggle then s.toggleLid t kind id
  else if kind.needsReference then
    .ok ({ s with phase := .selectReference kind id t }, selectionEffects)
  else .ok ({ s with phase := .manipulate kind id none none ⟨t, none⟩ }, selectionEffects)

/-- Choose what the object of an action is put in, on or near. -/
def selectReference (s : Session R) (t : Table R) (kind : ActionKind) (target : ObjectId)
    (before : Table R) (reference : ObjectId) :
    Except PreconditionViolation (Session R × List (Effect R)) := do
  if target = reference then throw (.sameObject kind target)
  let moving ← t.require target
  let anchor ← t.require reference
  t.checkReference kind anchor
  if kind = .putNear then
    return ({ s with phase := .manipulate kind target (some reference) none ⟨before, none⟩ },
      selectionEffects)
  let pose := if kind = .putIn then moving.puttingIn anchor else moving.puttingOn anchor
  return ({ s with
    table := some (t.place kind target pose (some reference))
    phase := .awaitCommit kind target (some reference) before
      ⟨kind, target, some reference, pose⟩ }, selectionEffects)

/-- Click on an object. -/
def clickObject (s : Session R) (id : ObjectId) :
    Except PreconditionViolation (Session R × List (Effect R)) := do
  let t ← s.loaded
  let _ ← t.require id
  match s.phase with
  | .idle => throw .noActionChosen
  | .selectTarget kind => s.selectTarget t kind id
  | .selectReference kind target before => s.selectReference t kind target before id
  | .manipulate _ _ _ _ _ | .awaitCommit _ _ _ _ _ => return (s, [])

omit [Scalar R] in
/-- Record the action in progress. -/
def finish (s : Session R) : Except PreconditionViolation (Session R × List (Effect R)) :=
  match s.phase.action with
  | none => .error .nothingToCommit
  | some a =>
      .ok ({ s with phase := .idle, trajectory := s.trajectory ++ [a], press := none },
        [.stepCommitted a, .selectionChanged, .renderNeeded])

omit [Scalar R] in
/-- Give up the action in progress and put everything back where it was before. -/
def cancel (s : Session R) : Session R × List (Effect R) :=
  match s.phase.step with
  | some step =>
      ({ s with table := some step.before, phase := .idle, press := none },
        [.stepCancelled, .selectionChanged, .renderNeeded])
  | none =>
      ({ s with phase := .idle, press := none },
        if s.phase.isIdle then [] else [.selectionChanged, .renderNeeded])

omit [Scalar R] in
/-- Click where no object is: record the action in progress if there is something to record, and
otherwise go back to choosing its object. -/
def clickEmpty (s : Session R) : Except PreconditionViolation (Session R × List (Effect R)) := do
  let _ ← s.loaded
  if s.phase.action.isSome then s.finish
  else match s.phase.mode with
    | none => return (s, [])
    | some kind =>
        return ({ s with phase := .selectTarget kind }, [.selectionChanged, .renderNeeded])

end Session

/-! ## The pointer

Dragging and turning objects, and the presses that count as clicks. -/

/-- How far the pointer may stray between press and release of a click, in pixels. -/
def clickSlop : R := 3

namespace Session

/-- The object that a pixel shows. -/
def hit? (s : Session R) (pixel : Point R) : Except PreconditionViolation (Option ObjectId) := do
  return (← s.loaded).scene.hit? s.viewport pixel

/-- Click on a pixel: on the object that it shows, or where none is. -/
def click (s : Session R) (pixel : Point R) :
    Except PreconditionViolation (Session R × List (Effect R)) := do
  match ← s.hit? pixel with
  | some id => s.clickObject id
  | none => s.clickEmpty

/-- Change the size of the canvas. -/
def resize (s : Session R) (width height : R) : Session R × List (Effect R) :=
  ({ s with viewport := s.viewport.resize width height }, [.renderNeeded])

/-- Press the pointer.  On the chosen object of a drag this takes hold of it. -/
def pointerDown (s : Session R) (pixel : Point R) : Session R × List (Effect R) :=
  let pressed := { s with press := some pixel }
  match s.phase with
  | .manipulate kind target reference none step =>
      match s.object? target with
      | some o =>
          if kind.isDrag ∧ o.footprint.contains (s.viewport.toWorld pixel) then
            ({ pressed with
              phase := .manipulate kind target reference (some ⟨pixel, o.position.flat⟩) step },
              [.setCursor "grabbing"])
          else (pressed, [])
      | none => (pressed, [])
  | _ => (pressed, [])

/-- Where an object is while the pointer is at a pixel; nowhere new unless it is turned or held. -/
def followed (o : SceneObject R) (kind : ActionKind) (grip : Option (Grip R)) (pixel : Point R)
    (v : Viewport R) : Except SessionError (Option (Pose R)) :=
  let dragged (center : Option (Point R)) : Except SessionError (Option (Pose R)) :=
    match center with
    | some p => .ok (some ⟨⟨p.x, p.y, o.position.z⟩, o.orientation⟩)
    | none => .error .unorderedWorld
  match kind, grip with
  | .rotate, _ => .ok (some ⟨o.position, o.turnToward pixel v⟩)
  | .putNear, some g => dragged (g.alongAxis? pixel v)
  | .move, some g => dragged (g.free? pixel v)
  | _, _ => .ok none

/-- Move the pointer.  The chosen object follows while it is held or turned. -/
def pointerMove (s : Session R) (pixel : Point R) :
    Except SessionError (Session R × List (Effect R)) :=
  match s.phase, s.table with
  | .manipulate kind target reference grip step, some t =>
      match t.scene.get? target with
      | some o => do
          match ← followed o kind grip pixel s.viewport with
          | some pose =>
              return ({ s with
                table := some (t.place kind target pose reference)
                phase := .manipulate kind target reference grip
                  { step with action := some ⟨kind, target, reference, pose⟩ } }, [.renderNeeded])
          | none => return (s, [])
      | none => return (s, [])
  | _, _ => .ok (s, [])

/-- The session once the pointer is released: the press is forgotten, and with it any grip. -/
def release (s : Session R) : Session R :=
  match s.phase with
  | .manipulate kind target reference (some _) step =>
      { s with phase := .manipulate kind target reference none step, press := none }
  | _ => { s with press := none }

/-- Release the pointer: let go of the object, or click if the pointer has hardly moved since it was
pressed. -/
def pointerUp (s : Session R) (pixel : Point R) :
    Session R × Except PreconditionViolation (List (Effect R)) :=
  let released := s.release
  if s.phase.grip.isSome then (released, .ok [.setCursor "default", .renderNeeded])
  else match s.press with
    | some start =>
        if hypot (pixel.x - start.x) (pixel.y - start.y) ≤ clickSlop then
          match released.click pixel with
          | .ok (s, effects) => (s, .ok effects)
          | .error e => (released, .error e)
        else (released, .ok [])
    | none => (released, .ok [])

end Session

/-! ## Replaying actions

A recorded action is carried out again without the pointer.  Where an action follows from the
objects its recorded pose is ignored; where it followed the pointer the recorded pose is taken, kept
inside the world rectangle on each axis that changes. -/

namespace Table

/-- The second object of an action, for a kind that has one. -/
def replayReference (t : Table R) (a : Action R) :
    Except PreconditionViolation (Option (SceneObject R)) := do
  if a.kind.needsReference || a.kind.isLidToggle then
    match a.reference with
    | none => throw (.missingReference a.kind)
    | some reference =>
        if reference = a.object then throw (.sameObject a.kind a.object)
        return some (← t.require reference)
  else return none

/-- Where a recorded action puts its object now. -/
def replayPose (t : Table R) (world : World R) (a : Action R) : Except SessionError (Pose R) := do
  let moving ← (t.require a.object).mapError .precondition
  let reference ← (t.replayReference a).mapError .precondition
  let dragged : Except SessionError (Pose R) :=
    match world.clampMoved? moving.position.flat a.pose.position.flat with
    | some p => .ok ⟨⟨p.x, p.y, a.pose.position.z⟩, a.pose.orientation⟩
    | none => .error .unorderedWorld
  match a.kind, reference with
  | .openLid, some container | .closeLid, some container => do
      let (lid, pose) ← (t.lidToggle a.kind container.id).mapError .precondition
      if lid ≠ a.object then throw (.precondition (.lidMismatch container.id a.object))
      return pose
  | .putIn, some anchor => do
      (t.checkReference a.kind anchor).mapError .precondition
      return moving.puttingIn anchor
  | .putOn, some anchor => do
      (t.checkReference a.kind anchor).mapError .precondition
      return moving.puttingOn anchor
  | .rotate, _ => return ⟨moving.position, a.pose.orientation⟩
  | _, _ => dragged

end Table

namespace Session

/-- Carry out a recorded action and record it as it turned out, dropping one in progress. -/
def replay (s : Session R) (a : Action R) : Except SessionError (Session R × Action R) := do
  let t ← s.loaded.mapError .precondition
  let pose ← t.replayPose s.config.world a
  let applied := { a with pose }
  return ({ s with
    table := some (t.place a.kind a.object pose a.reference)
    phase := .idle
    trajectory := s.trajectory ++ [applied] }, applied)

end Session

end Manipulation

/-! ## Loading and saving

A request for a scene gets a ticket, and only the answer to the latest ticket counts.  An answer
that forms no scene changes nothing. -/

variable {R : Type}

/-- The table that a bundle describes. -/
def SceneBundle.table (b : SceneBundle R) : Except CollaboratorError (Table R) := do
  match Scene.ofObjects? b.scene.taskId b.image b.scene.objects with
  | .error id => throw (.malformed (PreconditionViolation.duplicateObjectId id).message)
  | .ok scene =>
      let relations := b.relations.normalize b.lids
      match relations.validate with
      | .error violation => throw (.malformed violation.message)
      | .ok () => return ⟨scene, b.lids, relations⟩

/-- What becomes of an answer to a request for a scene. -/
inductive LoadOutcome
  | loaded
  /-- There has been a later request. -/
  | superseded
deriving DecidableEq, Repr

namespace Session

/-- Request a scene. -/
def beginLoad (s : Session R) (sceneId : String) : Session R × LoadTicket :=
  let number := s.latestLoad + 1
  ({ s with latestLoad := number }, ⟨number, sceneId⟩)

/-- Show a table from the start. -/
def install (s : Session R) (t : Table R) : Session R :=
  { s with table := some t, phase := .idle, trajectory := [], press := none }

/-- Take the answer to a request. -/
def completeLoad (s : Session R) (ticket : LoadTicket)
    (answer : Except CollaboratorError (SceneBundle R)) :
    Except CollaboratorError (Session R × LoadOutcome) := do
  if ticket.number ≠ s.latestLoad then return (s, .superseded)
  let bundle ← answer
  return (s.install (← bundle.table), .loaded)

/-- Take the answer to a request, keeping the session as it is if the answer is no good. -/
def deliver (s : Session R) (ticket : LoadTicket)
    (answer : Except CollaboratorError (SceneBundle R)) :
    Session R × Except CollaboratorError LoadOutcome :=
  match s.completeLoad ticket answer with
  | .ok (s, outcome) => (s, .ok outcome)
  | .error e => (s, .error e)

/-- Load a bundle that is at hand, which counts as a request and its answer. -/
def load (s : Session R) (bundle : SceneBundle R) :
    Session R × Except CollaboratorError LoadOutcome :=
  let (s, ticket) := s.beginLoad bundle.scene.taskId
  s.deliver ticket (.ok bundle)

/-- What there is to save: the trajectory of the loaded scene, unless it is empty. -/
def saveRequest (s : Session R) : Except PreconditionViolation (SaveRequest R) :=
  match s.table, s.trajectory with
  | some t, a :: as => .ok ⟨t.scene.id, ⟨a :: as, t.relations⟩⟩
  | _, _ => .error .nothingToSave

end Session

end Rearrangement
