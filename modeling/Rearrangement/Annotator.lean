import Rearrangement.Canvas
import Rearrangement.Session.Run
import Rearrangement.Wire

/-!
# Annotators

A session together with the canvas that shows it and the requests that are under way.  An `Easel`
draws a session; an `Annotator` also sees to it that every change is drawn and tells whether the
selection or the action in progress has changed.

Every call answers with a `Reply`: its result, and the commands that the canvas has carried out for
it.  A session that has gone on is kept also where the canvas then fails, so that drawing can be
tried again; the result tells of the failure.

A save is begun here and answered from outside.  In between the annotator keeps what the store has
been asked to keep (`pendingSave`).  There is at most one such request; an answer ends it, and so
does another scene.  Of a request for a scene nothing is kept but its number, in the session.
-/

namespace Rearrangement

/-- What a list of effects asks for in all. -/
structure EffectSummary where
  render : Bool
  cursor : Option String
  changed : Bool
deriving DecidableEq, Repr

namespace EffectSummary

def nothing : EffectSummary := ⟨false, none, false⟩

/-- Ask for one more effect; of several cursors the last one counts. -/
def add {R : Type} (s : EffectSummary) : Effect R → EffectSummary
  | .renderNeeded => { s with render := true }
  | .setCursor name => { s with cursor := some name }
  | .selectionChanged | .stepCommitted _ | .stepCancelled => { s with changed := true }

def ofEffects {R : Type} (es : List (Effect R)) : EffectSummary := es.foldl add nothing

end EffectSummary

/-- A session and the canvas that shows it. -/
structure Easel where
  session : Session Float
  /-- How many device pixels there are to a pixel. -/
  pixelRatio : Float
  canvas : Canvas

namespace Easel

def start (config : Config Float) : Easel := ⟨.start config, 1, .blank⟩

/-- The number of whole device pixels, never negative. -/
def devicePixels (length pixelRatio : Float) : UInt32 :=
  (Scalar.max (length * pixelRatio).round 0).toUInt32

/-- Change the size of the canvas.  Also returns the commands that do so. -/
def resize (e : Easel) (width height pixelRatio : Float) :
    Easel × List Call × List (Effect Float) :=
  let (session, effects) := e.session.resize width height
  ({ e with session, pixelRatio },
    [.setWidth (devicePixels width pixelRatio), .setHeight (devicePixels height pixelRatio)],
    effects)

/-- Draw the session. -/
def render (e : Easel) : Easel × List Call × Except CanvasFault Unit :=
  let (canvas, calls, result) := e.canvas.draw (e.session.picture e.pixelRatio)
  ({ e with canvas }, calls, result)

def setCursor (e : Easel) (name : String) : Easel × List Call × Except CanvasFault Unit :=
  let (canvas, calls, result) := e.canvas.setCursor name
  ({ e with canvas }, calls, result)

/-- Do what effects ask for, the cursor first.  The picture is not drawn if that fails. -/
def dispatch (e : Easel) (effects : List (Effect Float)) :
    Easel × List Call × Except CanvasFault Bool :=
  let summary := EffectSummary.ofEffects effects
  let (e, cursorCalls, cursorResult) :=
    match summary.cursor with
    | some name => e.setCursor name
    | none => (e, [], .ok ())
  match cursorResult with
  | .error f => (e, cursorCalls, .error f)
  | .ok () =>
      if summary.render then
        let (e, calls, result) := e.render
        (e, cursorCalls ++ calls, result.map fun _ => summary.changed)
      else (e, cursorCalls, .ok summary.changed)

end Easel

/-- The store's answer to a save. -/
def saveResult (status : Nat) (text : String) : Except CollaboratorError Unit :=
  if 200 ≤ status ∧ status < 300 then .ok () else .error (.status status text)

/-- Why a call of an annotator failed. -/
inductive AnnotatorError
  | session (error : SessionError)
  | canvas (fault : CanvasFault)
  | unknownAction (name : String)
deriving DecidableEq, Repr

/-- What a call of an annotator answers, and the commands that it gave to the canvas. -/
structure Reply (α : Type) where
  calls : List Call
  result : Except AnnotatorError α

namespace Reply

variable {α β : Type}

def ok (a : α) : Reply α := ⟨[], .ok a⟩

def fail (e : AnnotatorError) : Reply α := ⟨[], .error e⟩

def map (f : α → β) (r : Reply α) : Reply β := ⟨r.calls, r.result.map f⟩

end Reply

/-- An easel, and the save that is under way. -/
structure Annotator where
  easel : Easel
  pendingSave : Option (SaveRequest Float)

namespace Annotator

def start : Annotator := ⟨.start .standard, none⟩

def session (a : Annotator) : Session Float := a.easel.session

def withSession (a : Annotator) (s : Session Float) : Annotator :=
  { a with easel := { a.easel with session := s } }

def withFault (a : Annotator) (fault : Option CanvasFault) : Annotator :=
  { a with easel := { a.easel with canvas := { a.easel.canvas with fault } } }

/-- Do what effects ask for and tell whether the selection or the action in progress has changed. -/
def dispatch (a : Annotator) (effects : List (Effect Float)) : Annotator × Reply Bool :=
  let (easel, calls, result) := a.easel.dispatch effects
  ({ a with easel }, ⟨calls, result.mapError .canvas⟩)

/-- Take over the outcome of an operation and do what its effects ask for. -/
def follow (a : Annotator) (s : Session Float) (effects : List (Effect Float)) :
    Annotator × Reply Bool := (a.withSession s).dispatch effects

def setViewport (a : Annotator) (width height pixelRatio : Float) : Annotator × Reply Unit :=
  let (easel, sizing, effects) := a.easel.resize width height pixelRatio
  let (a, reply) := { a with easel }.dispatch effects
  (a, ⟨sizing ++ reply.calls, reply.result.map fun _ => ()⟩)

/-! ## The provider of scenes -/

/-- The provider's answer, which is the body of a reply. -/
def bundleOf (body : String) : Except CollaboratorError (SceneBundle Float) :=
  match SceneBundle.read? body with
  | some b => .ok b
  | none => .error .unreadable

def beginLoad (a : Annotator) (sceneId : String) : Annotator × LoadTicket :=
  let (s, ticket) := a.session.beginLoad sceneId
  (a.withSession s, ticket)

/-- Take the body of an answer.  The result is `false` if there has been a later request. -/
def completeLoad (a : Annotator) (ticket : LoadTicket) (body : String) : Annotator × Reply Bool :=
  let (s, result) := a.session.deliver ticket (bundleOf body)
  let a := a.withSession s
  match result with
  | .error e => (a, .fail (.session (.collaborator e)))
  | .ok .superseded => (a, .ok false)
  | .ok .loaded =>
      let (easel, calls, result) := a.easel.render
      (⟨easel, none⟩, ⟨calls, (result.mapError .canvas).map fun _ => true⟩)

/-- Take a failure instead of an answer. -/
def failLoad (a : Annotator) (ticket : LoadTicket) (status : Nat) (text : String) :
    Annotator × Reply Unit :=
  let (s, result) := a.session.deliver ticket (.error (.status status text))
  (a.withSession s, ⟨[], (result.mapError fun e => .session (.collaborator e)).map fun _ => ()⟩)

/-- The picture that shows the loaded scene. -/
def image (a : Annotator) : Option String := a.session.scene?.map (·.image)

def lidFor (a : Annotator) (container : ObjectId) : Option ObjectId :=
  a.session.lids.lidFor? container

/-! ## Interaction -/

def chooseAction (a : Annotator) (name : String) : Annotator × Reply Bool :=
  match ActionKind.ofName? name with
  | some kind => let (s, es) := a.session.choose kind; a.follow s es
  | none => (a, .fail (.unknownAction name))

def pointerDown (a : Annotator) (pixel : Point Float) : Annotator × Reply Bool :=
  let (s, es) := a.session.pointerDown pixel
  a.follow s es

def pointerMove (a : Annotator) (pixel : Point Float) : Annotator × Reply Bool :=
  match a.session.pointerMove pixel with
  | .ok (s, es) => a.follow s es
  | .error e => (a, .fail (.session e))

def pointerUp (a : Annotator) (pixel : Point Float) : Annotator × Reply Bool :=
  match a.session.pointerUp pixel with
  | (s, .ok es) => a.follow s es
  | (s, .error e) => (a.withSession s, .fail (.session (.precondition e)))

def finish (a : Annotator) : Annotator × Reply Bool :=
  match a.session.finish with
  | .ok (s, es) => a.follow s es
  | .error e => (a, .fail (.session (.precondition e)))

def cancel (a : Annotator) : Annotator × Reply Bool :=
  let (s, es) := a.session.cancel
  a.follow s es

def target (a : Annotator) : Option ObjectId := a.session.phase.target

def reference (a : Annotator) : Option ObjectId := a.session.phase.reference

/-! ## The store of trajectories -/

/-- Start a save and return the body to send. -/
def beginSave (a : Annotator) : Annotator × Reply String :=
  match a.session.saveRequest with
  | .ok request => ({ a with pendingSave := some request }, .ok request.payload.toJson.compact)
  | .error e => (a, .fail (.session (.precondition e)))

/-- The scene of the save that is under way. -/
def saveSceneId (a : Annotator) : Option String := a.pendingSave.map (·.sceneId)

/-- Take the store's answer to the save that is under way. -/
def completeSave (a : Annotator) (status : Nat) (text : String) : Annotator × Reply Unit :=
  match a.pendingSave with
  | none => (a, .fail (.session (.precondition .nothingToSave)))
  | some _ =>
      ({ a with pendingSave := none },
        ⟨[], (saveResult status text).mapError fun e => .session (.collaborator e)⟩)

def trajectoryJson (a : Annotator) : String := (Action.listToJson a.session.trajectory).compact

def relationsJson (a : Annotator) : String := a.session.relations.toJson.compact

end Annotator

end Rearrangement
