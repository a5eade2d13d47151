import Rearrangement.Cells.Handlers
import Rearrangement.Session.Run

/-!
# Runs of handlers

Each operation of a session has its handler.  An operation on cells answers what its handler answers
and leaves the cells that the handler leaves, whether it has gone through or has stopped.

`Cells.answer` and `Cells.after` read one and the same run of a handler.  What an operation answers
is an outcome like that of a session, except that a handler may also halt for a reason that no
caller is told of (`Halt`).
-/

namespace Rearrangement

variable {R : Type}

namespace Handler

variable {α β : Type} {f : α → β} {x : Handler R α} {c c' : Cells R}

/-- To say something else of a result makes no difference to the cells. -/
theorem run_map (f : α → β) (x : Handler R α) (c : Cells R) : (f <$> x).run c =
    match x.run c with
    | .ok a c' => .ok (f a) c'
    | .error h c' => .error h c' := by
  change EStateM.map f x c = _
  unfold EStateM.map EStateM.run
  cases x c <;> rfl

/-- A handler whose result is put in another way goes through just if the handler does. -/
theorem run_map_eq_ok {b : β} :
    (f <$> x).run c = .ok b c' ↔ ∃ a, x.run c = .ok a c' ∧ f a = b := by
  rw [run_map]
  constructor
  · intro h
    split at h
    next a c₁ hrun =>
      cases h
      exact ⟨a, hrun, rfl⟩
    next => cases h
  · rintro ⟨a, hrun, rfl⟩
    rw [hrun]

/-- It halts for the same reason and with the same cells. -/
theorem run_map_eq_error {h : Halt} : (f <$> x).run c = .error h c' ↔ x.run c = .error h c' := by
  rw [run_map]
  split <;> simp_all

end Handler

variable [Scalar R]

/-- The handler of an operation. -/
def Operation.handler : Operation R → Handler R (Outcome R)
  | beginLoad id => .ticket <$> Handler.beginLoad id
  | completeLoad ticket answer => .load <$> Handler.completeLoad ticket answer
  | load b => .load <$> Handler.load b
  | resize width height => .effects <$> Handler.resize width height
  | choose kind => .effects <$> Handler.choose kind
  | click pixel => .effects <$> Handler.click pixel
  | clickObject id => .effects <$> Handler.clickObject id
  | clickEmpty => .effects <$> Handler.clickEmpty
  | pointerDown pixel => .effects <$> Handler.pointerDown pixel
  | pointerMove pixel => .effects <$> Handler.pointerMove pixel
  | pointerUp pixel => .effects <$> Handler.pointerUp pixel
  | finish => .effects <$> Handler.finish
  | cancel => .effects <$> Handler.cancel
  | requestSave => .request <$> Handler.saveRequest
  | completeSave _ answer => (fun _ => .saved) <$> Handler.ask .collaborator answer
  | replay a => .replayed <$> Handler.replay a

namespace Cells

/-- What an operation answers, or why it stops. -/
def answer (c : Cells R) (op : Operation R) : Except Halt (Outcome R) :=
  match op.handler.run c with
  | .ok o _ => .ok o
  | .error h _ => .error h

/-- The cells that an operation leaves behind. -/
def after (c : Cells R) (op : Operation R) : Cells R :=
  match op.handler.run c with
  | .ok _ c' | .error _ c' => c'

variable {c : Cells R} {op : Operation R}

/-- An operation is answered if its handler goes through, and then the cells are those that the
handler has written. -/
theorem answer_eq_ok {o : Outcome R} :
    c.answer op = .ok o ↔ op.handler.run c = .ok o (c.after op) := by
  unfold answer after
  cases op.handler.run c <;> simp

/-- An operation is not answered if its handler halts.  What the handler has written by then
stays. -/
theorem answer_eq_error {h : Halt} :
    c.answer op = .error h ↔ op.handler.run c = .error h (c.after op) := by
  unfold answer after
  cases op.handler.run c <;> simp

/-- The cells after a list of operations. -/
def run (c : Cells R) (ops : List (Operation R)) : Cells R := ops.foldl after c

@[simp] theorem run_nil (c : Cells R) : c.run [] = c := rfl

@[simp] theorem run_cons (c : Cells R) (op : Operation R) (ops : List (Operation R)) :
    c.run (op :: ops) = (c.after op).run ops := rfl

end Cells

end Rearrangement
