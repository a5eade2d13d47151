import Rearrangement.Annotator

/-!
# Runs of an annotator

All calls of an annotator as one type, and what each of them replies.  To its session a call is an
operation or nothing at all (`session_perform`), so an annotator never leads its session where
operations do not.

What is wrong with the canvas can change from outside between calls (`Input.fault`), so that in a
run drawing may fail and succeed again.

* `works_perform`: to work with an annotator is one of three things (`Works`).
* `session_perform`, `session_run`: what calls do to the session.
-/

namespace Rearrangement

namespace Annotator

/-- What an annotator is called with. -/
inductive Input
  /-- Something is wrong with the canvas from now on, or nothing is any longer. -/
  | fault (fault : Option CanvasFault)
  | setViewport (width height pixelRatio : Float)
  | beginLoad (sceneId : String)
  | completeLoad (ticket : LoadTicket) (body : String)
  | failLoad (ticket : LoadTicket) (status : Nat) (text : String)
  | chooseAction (name : String)
  | pointerDown (pixel : Point Float)
  | pointerMove (pixel : Point Float)
  | pointerUp (pixel : Point Float)
  | finish
  | cancel
  | beginSave
  | completeSave (status : Nat) (text : String)

/-- What an annotator answers. -/
inductive Answer
  | done
  /-- Whether the selection or the action in progress has changed, or a scene has been loaded. -/
  | flag (b : Bool)
  | ticket (t : LoadTicket)
  | body (text : String)
deriving DecidableEq, Repr

/-- The operation on the session in a call. -/
def Input.operation? : Input → Option (Operation Float)
  | setViewport width height _ => some (.resize width height)
  | beginLoad id => some (.beginLoad id)
  | completeLoad ticket body => some (.completeLoad ticket (bundleOf body))
  | failLoad ticket status text => some (.completeLoad ticket (.error (.status status text)))
  | chooseAction name => (ActionKind.ofName? name).map .choose
  | pointerDown pixel => some (.pointerDown pixel)
  | pointerMove pixel => some (.pointerMove pixel)
  | pointerUp pixel => some (.pointerUp pixel)
  | finish => some .finish
  | cancel => some .cancel
  | fault _ | beginSave | completeSave _ _ => none

/-- The calls by which an annotator is worked with. -/
def Input.isInteraction : Input → Bool
  | chooseAction _ | pointerDown _ | pointerMove _ | pointerUp _ | finish | cancel => true
  | _ => false

/-- One call. -/
def perform (a : Annotator) : Input → Annotator × Reply Answer
  | .fault fault => (a.withFault fault, .ok .done)
  | .setViewport width height pixelRatio =>
      let (a, r) := a.setViewport width height pixelRatio; (a, r.map fun _ => .done)
  | .beginLoad id => let (a, t) := a.beginLoad id; (a, .ok (.ticket t))
  | .completeLoad ticket body => let (a, r) := a.completeLoad ticket body; (a, r.map .flag)
  | .failLoad ticket status text =>
      let (a, r) := a.failLoad ticket status text; (a, r.map fun _ => .done)
  | .chooseAction name => let (a, r) := a.chooseAction name; (a, r.map .flag)
  | .pointerDown pixel => let (a, r) := a.pointerDown pixel; (a, r.map .flag)
  | .pointerMove pixel => let (a, r) := a.pointerMove pixel; (a, r.map .flag)
  | .pointerUp pixel => let (a, r) := a.pointerUp pixel; (a, r.map .flag)
  | .finish => let (a, r) := a.finish; (a, r.map .flag)
  | .cancel => let (a, r) := a.cancel; (a, r.map .flag)
  | .beginSave => let (a, r) := a.beginSave; (a, r.map .body)
  | .completeSave status text =>
      let (a, r) := a.completeSave status text; (a, r.map fun _ => .done)

/-- The annotator after a list of calls. -/
def run (a : Annotator) (inputs : List Input) : Annotator :=
  inputs.foldl (fun a i => (a.perform i).1) a

@[simp] theorem run_nil (a : Annotator) : a.run [] = a := rfl

@[simp] theorem run_cons (a : Annotator) (i : Input) (inputs : List Input) :
    a.run (i :: inputs) = (a.perform i).1.run inputs := rfl

/-- Calls one after the other lead where the second lot leads from where the first one has led. -/
theorem run_append (a : Annotator) (xs ys : List Input) :
    a.run (xs ++ ys) = (a.run xs).run ys := List.foldl_append

end Annotator

/-! ## The session -/

namespace Easel

@[simp] theorem session_setCursor (e : Easel) (name : String) :
    (e.setCursor name).1.session = e.session := rfl

@[simp] theorem session_render (e : Easel) : e.render.1.session = e.session := rfl

/-- To do what effects ask for touches the canvas and not the session. -/
@[simp] theorem session_dispatch (e : Easel) (es : List (Effect Float)) :
    (e.dispatch es).1.session = e.session := by
  unfold dispatch
  generalize EffectSummary.ofEffects es = summary
  obtain ⟨render, cursor, changed⟩ := summary
  cases cursor with
  | none => cases render <;> rfl
  | some name =>
    dsimp only
    split
    next => rfl
    next => cases render <;> rfl

end Easel

namespace Annotator

/-- The session after an operation is the one that the operation has led to, whatever becomes of its
effects on the canvas. -/
@[simp] theorem session_follow (a : Annotator) (s : Session Float) (es : List (Effect Float)) :
    (a.follow s es).1.session = s := (a.withSession s).easel.session_dispatch es

/-- What comes of working with an annotator: the operation goes through and its effects are done, or
the call fails and nothing is done to the canvas. -/
inductive Works (a : Annotator) : Option (Operation Float) → Annotator × Reply Answer → Prop
  | follows {op : Operation Float} {s : Session Float} {es : List (Effect Float)}
      (h : a.session.perform op = (s, .effects es)) :
      Works a (some op) ((a.follow s es).1, (a.follow s es).2.map .flag)
  | fails {op : Operation Float} {s : Session Float} {e : SessionError}
      (h : a.session.perform op = (s, .failed e)) :
      Works a (some op) (a.withSession s, .fail (.session e))
  | unknown (name : String) : Works a none (a, .fail (.unknownAction name))

/-- To work with an annotator comes down to one of three things. -/
theorem works_perform (a : Annotator) {i : Input} (hi : i.isInteraction) :
    a.Works i.operation? (a.perform i) := by
  cases i with
  | chooseAction name =>
    change a.Works ((ActionKind.ofName? name).map .choose)
      ((a.chooseAction name).1, (a.chooseAction name).2.map .flag)
    unfold chooseAction
    cases ActionKind.ofName? name with
    | none => exact .unknown name
    | some kind => exact .follows rfl
  | pointerDown | cancel => exact .follows rfl
  | pointerMove pixel =>
    change a.Works _ ((a.pointerMove pixel).1, (a.pointerMove pixel).2.map .flag)
    unfold pointerMove
    split
    next hmove => exact .follows (by rw [Session.perform, hmove]; rfl)
    next hmove => exact .fails (s := a.session) (by rw [Session.perform, hmove]; rfl)
  | pointerUp pixel =>
    change a.Works _ ((a.pointerUp pixel).1, (a.pointerUp pixel).2.map .flag)
    unfold pointerUp
    split
    next hup => exact .follows (by rw [Session.perform, hup]; rfl)
    next hup => exact .fails (by rw [Session.perform, hup]; rfl)
  | finish =>
    change a.Works _ (a.finish.1, a.finish.2.map .flag)
    unfold finish
    split
    next hfinish => exact .follows (by rw [Session.perform, hfinish]; rfl)
    next hfinish => exact .fails (s := a.session) (by rw [Session.perform, hfinish]; rfl)
  | fault | setViewport | beginLoad | completeLoad | failLoad | beginSave | completeSave => cases hi

/-- To the session a call is an operation, or nothing at all. -/
theorem session_perform (a : Annotator) (i : Input) : (a.perform i).1.session =
    i.operation?.elim a.session fun op => (a.session.perform op).1 := by
  cases hi : i.isInteraction with
  | true =>
    have hworks := a.works_perform hi
    generalize i.operation? = op?, a.perform i = r at hworks ⊢
    cases hworks with
    | follows h =>
      rw [Option.elim_some, h]
      exact session_follow a _ _
    | fails h =>
      rw [Option.elim_some, h]
      rfl
    | unknown name => rfl
  | false =>
    cases i with
    | fault | beginLoad | failLoad => rfl
    | setViewport width height pixelRatio =>
      exact Easel.session_dispatch (a.easel.resize width height pixelRatio).1 [.renderNeeded]
    | completeLoad ticket body =>
      change (a.completeLoad ticket body).1.session = (a.session.deliver ticket (bundleOf body)).1
      unfold completeLoad
      dsimp only
      split <;> rfl
    | beginSave =>
      change a.beginSave.1.session = a.session
      unfold beginSave
      split <;> rfl
    | completeSave status text =>
      change (a.completeSave status text).1.session = a.session
      unfold completeSave
      split <;> rfl
    | chooseAction | pointerDown | pointerMove | pointerUp | finish | cancel => cases hi

/-- To the session a run is one of the operations in it. -/
theorem session_run (a : Annotator) (inputs : List Input) :
    (a.run inputs).session = a.session.run (inputs.filterMap (·.operation?)) := by
  induction inputs generalizing a with
  | nil => rfl
  | cons i inputs ih =>
    rw [run_cons, ih, session_perform, List.filterMap_cons]
    cases i.operation? <;> rfl

end Annotator

end Rearrangement
