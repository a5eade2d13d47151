import Rearrangement.Proofs.Cells.Coherence

/-!
# What is reported

What can be seen of a session is its `View`.  An operation that answers with effects tells by them
what has changed of the view, and one that is refused has changed nothing of it (`tells_perform`).
The branches that answer with no effect at all are those that leave the view as it is: they take
note of a press or forget it, or find nothing to do.  The same goes for the cells (`reported_run`).

## Main statements

* `tells_perform`: every operation on a session tells what it changes of the view.
* `reported_run`: so does every handler, after any run.

Loading and replaying answer by other means than effects, and a caller knows from the answer that
the view may be another one.
-/

namespace Rearrangement

variable {R : Type}

/-- What can be seen of a session. -/
structure View (R : Type) where
  scene : Option (Scene R)
  viewport : Viewport R
  target : Option ObjectId
  reference : Option ObjectId

/-- The objects that are marked in a view. -/
def View.selection (v : View R) : Option ObjectId × Option ObjectId := (v.target, v.reference)

def Session.view (s : Session R) : View R :=
  ⟨s.scene?, s.viewport, s.phase.target, s.phase.reference⟩

def Cells.view (c : Cells R) : View R := ⟨c.scene, c.viewport, c.stage.target, c.stage.reference⟩

/-- The effects tell what has changed from one view to another. -/
structure View.Reports (es : List (Effect R)) (v v' : View R) : Prop where
  drawn : v' ≠ v → .renderNeeded ∈ es
  selected : v'.selection ≠ v.selection → .selectionChanged ∈ es

/-- An operation tells what it has changed of the view, unless it answers that there is a new
scene or that an action has been replayed. -/
def Outcome.Tells (v v' : View R) : Outcome R → Prop
  | effects es => v.Reports es v'
  | load .loaded | replayed _ => True
  | ticket _ | load .superseded | request _ | saved | failed _ => v' = v

namespace View

variable {v v' : View R} {es : List (Effect R)}

theorem reports_of_eq (h : v' = v) : v.Reports es v' :=
  ⟨fun hne ↦ absurd h hne, fun hne ↦ absurd (congrArg selection h) hne⟩

/-- Who reports both parts of the view reports every change of it. -/
theorem reports_of_mem (hdrawn : .renderNeeded ∈ es) (hselected : .selectionChanged ∈ es) :
    v.Reports es v' := ⟨fun _ ↦ hdrawn, fun _ ↦ hselected⟩

theorem reports_of_selection_eq (hdrawn : .renderNeeded ∈ es) (h : v'.selection = v.selection) :
    v.Reports es v' := ⟨fun _ ↦ hdrawn, fun hne ↦ absurd h hne⟩

end View

namespace Session

@[simp] theorem view_release (s : Session R) : s.release.view = s.view := by
  unfold release
  split
  next hphase =>
    unfold view
    rw [hphase]
    rfl
  next => rfl

variable [Scalar R] {s s' : Session R} {es : List (Effect R)} {t : Table R} {kind : ActionKind}
  {id : ObjectId}

omit [Scalar R] in
/-- Whatever becomes of a choice, it is reported. -/
theorem reports_selectionEffects (s s' : Session R) :
    s.view.Reports selectionEffects s'.view :=
  View.reports_of_mem (by simp [selectionEffects]) (by simp [selectionEffects])

omit [Scalar R] in
/-- Finishing reports what it changes; the lemmas below say so of the other handlers. -/
theorem reports_of_finish (h : s.finish = .ok (s', es)) : s.view.Reports es s'.view := by
  obtain ⟨a, -, -, rfl⟩ := finish_cases h
  exact View.reports_of_mem (by simp) (by simp)

omit [Scalar R] in
theorem reports_of_clickEmpty (h : s.clickEmpty = .ok (s', es)) : s.view.Reports es s'.view := by
  obtain h | ⟨-, ⟨rfl, rfl⟩ | ⟨_, -, -, rfl⟩⟩ := clickEmpty_cases h
  · exact reports_of_finish h
  · exact View.reports_of_eq rfl
  · exact reports_selectionEffects _ _

theorem reports_of_selectTarget (h : s.selectTarget t kind id = .ok (s', es)) :
    s.view.Reports es s'.view := by
  obtain ⟨-, h⟩ | ⟨rfl, -⟩ := selectTarget_cases h
  · obtain ⟨_, _, _, -, -, -, rfl⟩ := toggleLid_cases h
    exact reports_selectionEffects _ _
  · exact reports_selectionEffects _ _

theorem reports_of_clickObject (h : s.clickObject id = .ok (s', es)) :
    s.view.Reports es s'.view := by
  obtain ⟨rfl, rfl⟩ | ⟨t, x, -, -, ⟨kind, -, h⟩ | ⟨kind, target, before, -, h⟩⟩ :=
    clickObject_cases h
  · exact View.reports_of_eq rfl
  · exact reports_of_selectTarget h
  · obtain ⟨rfl, -⟩ := selectReference_cases h
    exact reports_selectionEffects _ _

theorem reports_of_click {pixel : Point R} (h : s.click pixel = .ok (s', es)) :
    s.view.Reports es s'.view := by
  obtain h | ⟨id, h⟩ := click_cases h
  · exact reports_of_clickEmpty h
  · exact reports_of_clickObject h

theorem reports_pointerDown (s : Session R) (pixel : Point R) :
    s.view.Reports (s.pointerDown pixel).2 (s.pointerDown pixel).1.view := by
  obtain h | ⟨kind, target, reference, step, t, x, hphase, -, -, -, h⟩ := s.pointerDown_cases pixel
  all_goals
    rw [h]
    refine View.reports_of_eq ?_
  · rfl
  · unfold view
    rw [hphase]
    rfl

theorem reports_of_pointerMove {pixel : Point R} (h : s.pointerMove pixel = .ok (s', es)) :
    s.view.Reports es s'.view := by
  obtain ⟨rfl, rfl⟩ | ⟨kind, target, reference, grip, step, t, x, p, hphase, -, -, -, rfl, rfl⟩ :=
    pointerMove_cases h
  · exact View.reports_of_eq rfl
  · refine View.reports_of_selection_eq (by simp) ?_
    unfold View.selection view
    rw [hphase]
    rfl

theorem tells_pointerUp (s : Session R) (pixel : Point R) :
    (outcomeOf .precondition .effects (s.pointerUp pixel).2).Tells s.view
      (s.pointerUp pixel).1.view := by
  obtain ⟨es, -, h⟩ | ⟨e, h⟩ | ⟨-, s', es, hclick, h⟩ := s.pointerUp_cases pixel
  all_goals rw [h]
  · exact View.reports_of_eq s.view_release
  · exact s.view_release
  · have hreports := reports_of_click hclick
    rwa [view_release] at hreports

omit [Scalar R] in
/-- Giving up is silent only if there is nothing to give up. -/
theorem reports_cancel (s : Session R) : s.view.Reports s.cancel.2 s.cancel.1.view := by
  unfold cancel
  split
  next => exact View.reports_of_mem (by simp) (by simp)
  next =>
    split
    next hidle =>
      refine View.reports_of_eq ?_
      unfold view
      cases hphase : s.phase with
      | idle => rfl
      | _ =>
        rw [hphase] at hidle
        cases hidle
    next => exact View.reports_of_mem (by simp) (by simp)

omit [Scalar R] in
theorem tells_deliver (s : Session R) (ticket : LoadTicket)
    (answer : Except CollaboratorError (SceneBundle R)) :
    (outcomeOf .collaborator .load (s.deliver ticket answer).2).Tells s.view
      (s.deliver ticket answer).1.view := by
  unfold deliver
  cases hload : s.completeLoad ticket answer with
  | error e => rfl
  | ok r =>
    obtain ⟨s', o⟩ := r
    obtain ⟨rfl, rfl⟩ | ⟨b, t, -, -, rfl, rfl⟩ := completeLoad_cases hload
    · rfl
    · trivial

omit [Scalar R] in
/-- A failure changes nothing, so there is nothing to report of it. -/
theorem tells_settle {ε : Type} {cause : ε → SessionError}
    {x : Except ε (Session R × List (Effect R))}
    (h : ∀ s' es, x = .ok (s', es) → s.view.Reports es s'.view) :
    (s.settle cause .effects x).2.Tells s.view (s.settle cause .effects x).1.view := by
  cases x with
  | error e => rfl
  | ok r => exact h r.1 r.2 rfl

/-- Every operation tells what it has changed of the view. -/
theorem tells_perform (s : Session R) (op : Operation R) :
    (s.perform op).2.Tells s.view (s.perform op).1.view := by
  cases op with
  | beginLoad id => rfl
  | completeLoad ticket answer => exact tells_deliver s ticket answer
  | load b => exact tells_deliver (s.beginLoad b.scene.taskId).1 _ (.ok b)
  | resize width height => exact View.reports_of_selection_eq (by simp) rfl
  | choose kind => exact reports_selectionEffects _ _
  | click pixel => exact tells_settle fun _ _ ↦ reports_of_click
  | clickObject id => exact tells_settle fun _ _ ↦ reports_of_clickObject
  | clickEmpty => exact tells_settle fun _ _ ↦ reports_of_clickEmpty
  | pointerDown pixel => exact reports_pointerDown s pixel
  | pointerMove pixel => exact tells_settle fun _ _ ↦ reports_of_pointerMove
  | pointerUp pixel => exact tells_pointerUp s pixel
  | finish => exact tells_settle fun _ _ ↦ reports_of_finish
  | cancel => exact reports_cancel s
  | requestSave =>
    change (outcomeOf _ _ s.saveRequest).Tells s.view s.view
    cases s.saveRequest <;> rfl
  | completeSave request answer => cases answer <;> rfl
  | replay a =>
    change (s.settle _ _ (s.replay a)).2.Tells s.view (s.settle _ _ (s.replay a)).1.view
    cases s.replay a with
    | error e => rfl
    | ok r => trivial

omit [Scalar R] in
theorem view_cells (s : Session R) : s.cells.view = s.view := by
  change View.mk s.scene? s.viewport s.phase.stage.target s.phase.stage.reference = _
  rw [Phase.target_stage, Phase.reference_stage]
  rfl

end Session

namespace Cells

/-- A handler that answers with effects tells by them what it has changed of the view. -/
def Reported [Scalar R] (c : Cells R) : Prop :=
  ∀ op es, c.answer op = .ok (.effects es) → c.view.Reports es (c.after op).view

/-- No operation changes the view silently, whatever has been done before. -/
theorem reported_run [Scalar R] (config : Config R) (ops : List (Operation R)) :
    ((start config).run ops).Reported := by
  intro op es hes
  rw [run_start] at hes ⊢
  have hs : ((Session.start config).run ops).Coherent := (Session.coherent_start config).run ops
  have hvalid : ((Session.start config).run ops).progress.Valid := Session.valid_run config ops
  generalize (Session.start config).run ops = s at hes hs hvalid ⊢
  rw [hs.after_cells hvalid, Session.view_cells, Session.view_cells]
  have htells := s.tells_perform op
  rw [hs.answer_cells hvalid] at hes
  split at hes
  next => cases hes
  next =>
    rw [Except.ok.inj hes] at htells
    exact htells

end Cells

end Rearrangement
