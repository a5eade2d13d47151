import Rearrangement.Proofs.Session.Change

/-!
# How actions in progress end

An action in progress is recorded, or gives way to one that is replayed, to another kind of action
or to another scene; all that settles something.  Only giving it up ends it and settles nothing
(`seesThrough_perform`), and so nothing else puts the table back.

## Main statements

* `seesThrough_of_finish`, `seesThrough_of_clickObject` and their like: what each handler does to
  the action in progress.
* `seesThrough_perform`: giving up is the only operation that ends it and settles nothing.

What a change does to the phase is not part of `Change`, since most of what is said of sessions does
not depend on it; so the handlers are gone through once more here, by their `_cases` lemmas.
-/

namespace Rearrangement

variable {R : Type}

namespace Session

variable {s s' : Session R} {op : Operation R} {o : Outcome R} {es : List (Effect R)}

/-- The operation ends no action in progress without settling it. -/
def SeesThrough (s : Session R) (op : Operation R) (o : Outcome R) (s' : Session R) : Prop :=
  s'.phase = .idle → s.phase = .idle ∨ settles op o

/-- Who stays in the same phase ends nothing. -/
theorem seesThrough_of_phase_eq (h : s'.phase = s.phase) : s.SeesThrough op o s' :=
  fun hidle ↦ .inl (h.symm.trans hidle)

theorem seesThrough_of_ne (h : s'.phase ≠ .idle) : s.SeesThrough op o s' :=
  fun hidle ↦ absurd hidle h

/-- An operation that settles the action may end it. -/
theorem seesThrough_of_settles (h : settles op o) : s.SeesThrough op o s' := fun _ ↦ .inr h

/-- Finishing settles what it ends. -/
theorem seesThrough_of_finish (h : s.finish = .ok (s', es)) :
    s.SeesThrough op (.effects es) s' := by
  obtain ⟨a, -, -, rfl⟩ := finish_cases h
  exact seesThrough_of_settles rfl

theorem seesThrough_of_clickEmpty (h : s.clickEmpty = .ok (s', es)) :
    s.SeesThrough op (.effects es) s' := by
  obtain h | ⟨-, ⟨rfl, -⟩ | ⟨_, -, rfl, -⟩⟩ := clickEmpty_cases h
  · exact seesThrough_of_finish h
  · exact seesThrough_of_phase_eq rfl
  · exact seesThrough_of_ne nofun

theorem seesThrough_release : s.SeesThrough op o s.release := by
  unfold release
  split
  next => exact seesThrough_of_ne nofun
  next => exact seesThrough_of_phase_eq rfl

/-! ## Clicks -/

variable [Scalar R] {t : Table R} {kind : ActionKind} {id : ObjectId} {pixel : Point R}

theorem seesThrough_of_selectTarget (h : s.selectTarget t kind id = .ok (s', es)) :
    s.SeesThrough op o s' := by
  obtain ⟨-, h⟩ | ⟨-, ⟨-, rfl⟩ | ⟨-, -, rfl⟩⟩ := selectTarget_cases h
  · obtain ⟨_, _, _, -, -, rfl, -⟩ := toggleLid_cases h
    exact seesThrough_of_ne nofun
  all_goals exact seesThrough_of_ne nofun

theorem seesThrough_of_selectReference {target : ObjectId} {before : Table R}
    (h : s.selectReference t kind target before id = .ok (s', es)) : s.SeesThrough op o s' := by
  obtain ⟨-, -, _, _, -, -, -, ⟨-, rfl⟩ | ⟨-, _, -, rfl⟩⟩ := selectReference_cases h
  all_goals exact seesThrough_of_ne nofun

theorem seesThrough_of_clickObject (h : s.clickObject id = .ok (s', es)) :
    s.SeesThrough op o s' := by
  obtain ⟨rfl, -⟩ | ⟨t, x, -, -, ⟨kind, -, h⟩ | ⟨kind, target, before, -, h⟩⟩ :=
    clickObject_cases h
  · exact seesThrough_of_phase_eq rfl
  · exact seesThrough_of_selectTarget h
  · exact seesThrough_of_selectReference h

theorem seesThrough_of_click (h : s.click pixel = .ok (s', es)) :
    s.SeesThrough op (.effects es) s' := by
  obtain h | ⟨id, h⟩ := click_cases h
  · exact seesThrough_of_clickEmpty h
  · exact seesThrough_of_clickObject h

/-! ## The pointer -/

theorem seesThrough_pointerDown (s : Session R) (pixel : Point R) :
    s.SeesThrough op o (s.pointerDown pixel).1 := by
  obtain h | ⟨kind, target, reference, step, t, x, -, -, -, -, h⟩ := s.pointerDown_cases pixel
  all_goals rw [h]
  · exact seesThrough_of_phase_eq rfl
  · exact seesThrough_of_ne nofun

theorem seesThrough_of_pointerMove (h : s.pointerMove pixel = .ok (s', es)) :
    s.SeesThrough op o s' := by
  obtain ⟨rfl, -⟩ | ⟨kind, target, reference, grip, step, t, x, p, -, -, -, -, rfl, -⟩ :=
    pointerMove_cases h
  · exact seesThrough_of_phase_eq rfl
  · exact seesThrough_of_ne nofun

theorem seesThrough_pointerUp (s : Session R) (pixel : Point R) :
    s.SeesThrough op (outcomeOf .precondition .effects (s.pointerUp pixel).2)
      (s.pointerUp pixel).1 := by
  obtain ⟨es, -, h⟩ | ⟨e, h⟩ | ⟨-, s', es, hclick, h⟩ := s.pointerUp_cases pixel
  all_goals rw [h]
  · exact seesThrough_release
  · exact seesThrough_release
  · intro hidle
    obtain hreleased | hsettles := seesThrough_of_click hclick hidle
    · exact seesThrough_release hreleased
    · exact .inr hsettles

/-! ## All operations -/

omit [Scalar R] in
theorem seesThrough_deliver (s : Session R) (ticket : LoadTicket)
    (answer : Except CollaboratorError (SceneBundle R)) :
    s.SeesThrough op (outcomeOf .collaborator .load (s.deliver ticket answer).2)
      (s.deliver ticket answer).1 := by
  unfold deliver
  cases hload : s.completeLoad ticket answer with
  | error e => exact seesThrough_of_phase_eq rfl
  | ok r =>
    obtain ⟨s', o⟩ := r
    obtain ⟨rfl, -⟩ | ⟨b, t, -, -, -, rfl⟩ := completeLoad_cases hload
    · exact seesThrough_of_phase_eq rfl
    · exact seesThrough_of_settles rfl

omit [Scalar R] in
/-- A refusal ends nothing. -/
theorem seesThrough_settle {α ε : Type} {cause : ε → SessionError} {outcome : α → Outcome R}
    {x : Except ε (Session R × α)}
    (h : ∀ s' a, x = .ok (s', a) → s.SeesThrough op (outcome a) s') :
    s.SeesThrough op (s.settle cause outcome x).2 (s.settle cause outcome x).1 := by
  cases x with
  | ok r => exact h r.1 r.2 rfl
  | error e => exact seesThrough_of_phase_eq rfl

/-- Only giving up ends an action in progress without settling it. -/
theorem seesThrough_perform (s : Session R) (hop : op ≠ .cancel) :
    s.SeesThrough op (s.perform op).2 (s.perform op).1 := by
  cases op with
  | cancel => exact absurd rfl hop
  | beginLoad | resize | requestSave | completeSave => exact seesThrough_of_phase_eq rfl
  | choose => exact seesThrough_of_ne nofun
  | completeLoad ticket answer => exact seesThrough_deliver s ticket answer
  | load b => exact seesThrough_deliver (s.beginLoad b.scene.taskId).1 _ (.ok b)
  | click => exact seesThrough_settle fun _ _ h ↦ seesThrough_of_click h
  | clickObject => exact seesThrough_settle fun _ _ h ↦ seesThrough_of_clickObject h
  | clickEmpty => exact seesThrough_settle fun _ _ h ↦ seesThrough_of_clickEmpty h
  | pointerDown pixel => exact seesThrough_pointerDown s pixel
  | pointerMove => exact seesThrough_settle fun _ _ h ↦ seesThrough_of_pointerMove h
  | pointerUp pixel => exact seesThrough_pointerUp s pixel
  | finish => exact seesThrough_settle fun _ _ h ↦ seesThrough_of_finish h
  | replay => exact seesThrough_settle fun _ _ _ ↦ seesThrough_of_settles rfl

end Session

end Rearrangement
