import Rearrangement.Session.Handlers

/-!
# Runs of a session

All operations as one type, and what each of them answers.  An operation that fails leaves the
session as it was, up to what it has used up: a release forgets the press, and loading takes a
ticket.

An outcome keeps what the caller is told (`Outcome`): effects, a ticket, what has become of an
answer, a request to save, the replayed action, or the error.  The types of the single results are
put together here, so that statements about all operations need no case for each of them.
-/

namespace Rearrangement

open Scalar

variable {R : Type}

/-- What can be done to a session. -/
inductive Operation (R : Type)
  | beginLoad (sceneId : String)
  | completeLoad (ticket : LoadTicket) (answer : Except CollaboratorError (SceneBundle R))
  | load (bundle : SceneBundle R)
  | resize (width height : R)
  | choose (kind : ActionKind)
  | click (pixel : Point R)
  | clickObject (id : ObjectId)
  | clickEmpty
  | pointerDown (pixel : Point R)
  | pointerMove (pixel : Point R)
  | pointerUp (pixel : Point R)
  | finish
  | cancel
  | requestSave
  | completeSave (request : SaveRequest R) (answer : Except CollaboratorError Unit)
  | replay (action : Action R)

/-- What an operation answers. -/
inductive Outcome (R : Type)
  | effects (es : List (Effect R))
  | ticket (t : LoadTicket)
  | load (outcome : LoadOutcome)
  | request (r : SaveRequest R)
  | saved
  | replayed (action : Action R)
  | failed (error : SessionError)

namespace Session

/-- What comes of a fallible operation that changes the session only if it succeeds. -/
def settle {α ε : Type} (s : Session R) (cause : ε → SessionError) (outcome : α → Outcome R) :
    Except ε (Session R × α) → Session R × Outcome R
  | .ok (s, a) => (s, outcome a)
  | .error e => (s, .failed (cause e))

/-- The outcome of an operation that may fail. -/
def outcomeOf {α ε : Type} (cause : ε → SessionError) (outcome : α → Outcome R) :
    Except ε α → Outcome R
  | .ok a => outcome a
  | .error e => .failed (cause e)

variable [Scalar R]

/-- One operation. -/
def perform (s : Session R) : Operation R → Session R × Outcome R
  | .beginLoad id => let (s, t) := s.beginLoad id; (s, .ticket t)
  | .completeLoad t answer =>
      let (s, r) := s.deliver t answer; (s, outcomeOf .collaborator .load r)
  | .load b => let (s, r) := s.load b; (s, outcomeOf .collaborator .load r)
  | .resize w h => let (s, es) := s.resize w h; (s, .effects es)
  | .choose kind => let (s, es) := s.choose kind; (s, .effects es)
  | .click p => s.settle .precondition .effects (s.click p)
  | .clickObject id => s.settle .precondition .effects (s.clickObject id)
  | .clickEmpty => s.settle .precondition .effects s.clickEmpty
  | .pointerDown p => let (s, es) := s.pointerDown p; (s, .effects es)
  | .pointerMove p => s.settle id .effects (s.pointerMove p)
  | .pointerUp p => let (s, r) := s.pointerUp p; (s, outcomeOf .precondition .effects r)
  | .finish => s.settle .precondition .effects s.finish
  | .cancel => let (s, es) := s.cancel; (s, .effects es)
  | .requestSave => (s, outcomeOf .precondition .request s.saveRequest)
  | .completeSave _ answer => (s, outcomeOf .collaborator (fun _ => .saved) answer)
  | .replay a => s.settle id .replayed (s.replay a)

/-- The session after a list of operations. -/
def run (s : Session R) (ops : List (Operation R)) : Session R :=
  ops.foldl (fun s op => (s.perform op).1) s

@[simp] theorem run_nil (s : Session R) : s.run [] = s := rfl

@[simp] theorem run_cons (s : Session R) (op : Operation R) (ops : List (Operation R)) :
    s.run (op :: ops) = (s.perform op).1.run ops := rfl

theorem run_append (s : Session R) (xs ys : List (Operation R)) :
    s.run (xs ++ ys) = (s.run xs).run ys := List.foldl_append

/-- Replay actions in order.  The first one that is rejected ends it, with its position. -/
def replayAll (s : Session R) (as : List (Action R)) :
    Session R × Option (Nat × Action R × SessionError) :=
  go 1 s as
where
  go (step : Nat) (s : Session R) :
      List (Action R) → Session R × Option (Nat × Action R × SessionError)
    | [] => (s, none)
    | a :: as =>
        match s.replay a with
        | .ok (s, _) => go (step + 1) s as
        | .error e => (s, some (step, a, e))

end Session

end Rearrangement
