import Rearrangement.Proofs.Cells.Honest
import Rearrangement.Proofs.Session.Valid

/-!
# Cells follow the session

A session that is laid out in cells stays so: each handler answers what the session answers and
leaves the cells of the session that the operation leads to (`run_handler`), and so do runs from the
start (`run_start`).  A handler stops only where the session refuses, for it writes its cells in
such an order that relations hold together whenever they are looked at.

## Main statements

* `run_bind_of_ok`, `run_ask_bind`, `run_loaded_bind`: a handler and the session are compared step
  by step.
* `run_clickObject`, `run_pointerMove`, `run_replay` and their like: each handler answers as the
  session does.
* `Coherent.run_handler`, `Coherent.after_cells`: so does each operation.
* `run_start`: so does each run.

This is a simulation with the layout `Session.cells` as its relation.  Some lemmas ask for relations
that are valid and for lids that are those of the step; coherence gives both, so they do not appear
in `run_start`.  What holds in every reachable session can therefore be told of the cells, and the
handlers are not opened again for it.
-/

namespace Rearrangement

open Scalar

variable {R α β ε : Type}

namespace Session

/-- What a handler comes to when it leaves a session behind and answers this. -/
def report (cause : ε → SessionError) : Session R × Except ε α → EStateM.Result Halt (Cells R) α
  | (s, .ok a) => .ok a s.cells
  | (s, .error e) => .error (.refused (cause e)) s.cells

/-- What a handler comes to when the session goes on from `s` like this, if it goes on. -/
def told (s : Session R) (cause : ε → SessionError) :
    Except ε (Session R × α) → EStateM.Result Halt (Cells R) α
  | .ok (s', a) => .ok a s'.cells
  | .error e => .error (.refused (cause e)) s.cells

/-- A session from its table and its phase. -/
theorem eq_mk {s : Session R} {table : Option (Table R)} {phase : Phase R} (ht : s.table = table)
    (hphase : s.phase = phase) :
    s = ⟨s.config, s.viewport, table, phase, s.trajectory, s.latestLoad, s.press⟩ := by
  subst ht hphase
  rfl

theorem table_cells (s : Session R) : s.cells.table = s.table := by
  obtain ⟨config, viewport, table, phase, trajectory, latestLoad, press⟩ := s
  cases table <;> rfl

theorem action_cells (s : Session R) : s.cells.action = s.phase.action := by
  obtain ⟨config, viewport, table, phase, trajectory, latestLoad, press⟩ := s
  cases phase <;> rfl

theorem scene_cells {s : Session R} {t : Table R} (h : s.table = some t) :
    s.cells.scene = some t.scene := by
  rw [show s.cells.scene = s.table.map (·.scene) from rfl, h]
  rfl

theorem object?_cells {s : Session R} {t : Table R} {x : ObjectId} {o : SceneObject R}
    (h : s.table = some t) (ho : t.scene.get? x = some o) : s.cells.object? x = some o := by
  rw [Cells.object?, scene_cells h]
  exact ho

theorem grip_release (s : Session R) : s.release.phase.grip = none := by
  obtain ⟨config, viewport, table, phase, trajectory, latestLoad, press⟩ := s
  cases phase with
  | idle | selectTarget | selectReference | awaitCommit => rfl
  | manipulate kind target reference grip step => cases grip <;> rfl

theorem table_release (s : Session R) : s.release.table = s.table := by
  unfold release
  split <;> rfl

/-- To release the pointer where nothing is held only empties the cell of the press. -/
theorem release_cells {s : Session R} (h : s.phase.grip = none) :
    s.release.cells = { s.cells with press := none } := by
  obtain ⟨config, viewport, table, phase, trajectory, latestLoad, press⟩ := s
  cases phase with
  | idle | selectTarget | selectReference | awaitCommit => rfl
  | manipulate kind target reference grip step =>
    obtain rfl : grip = none := h
    rfl

theorem stage_cells_ne {s : Session R} (h : s.phase.grip = none) {target : ObjectId}
    {reference : Option ObjectId} {grip : Grip R} :
    s.cells.stage ≠ .manipulate target reference (some grip) := by
  change s.phase.stage ≠ _
  cases hphase : s.phase with
  | idle | selectTarget | selectReference | awaitCommit => exact nofun
  | manipulate =>
    rw [hphase] at h
    rintro ⟨⟩
    cases h

end Session

namespace Handler

/-! ## One step after the other -/

section Steps

variable {s : Session R} {t : Table R} {c c' : Cells R} {cause : ε → SessionError}

/-- A handler that succeeds hands its answer and its cells to the next one. -/
theorem run_bind_of_ok {x : Handler R α} {f : α → Handler R β} {a : α} (h : x.run c = .ok a c') :
    (x >>= f).run c = (f a).run c' := by
  rw [EStateM.run_bind, h]

/-- What is asked on both sides may be taken as answered. -/
theorem run_ask_bind {x : Except ε α} {f : α → Handler R β} {g : α → Except ε (Session R × β)}
    (h : ∀ a, x = .ok a → (f a).run s.cells = s.told cause (g a)) :
    (ask cause x >>= f).run s.cells = s.told cause (x >>= g) := by
  cases x with
  | ok a => exact h a rfl
  | error e => rfl

theorem run_loaded (h : c.table = some t) : loaded.run c = .ok t c := by
  simp only [loaded, EStateM.run_bind, EStateM.run_get, h, EStateM.run_pure]

theorem run_loaded_eq (s : Session R) :
    loaded.run s.cells = (ask SessionError.precondition s.loaded).run s.cells := by
  simp only [loaded, EStateM.run_bind, EStateM.run_get, s.table_cells, Session.loaded]
  cases s.table <;> rfl

/-- A handler that begins by asking for the table may be compared with the session table by
table. -/
theorem run_loaded_bind {f : Table R → Handler R β}
    {g : Table R → Except PreconditionViolation (Session R × β)}
    (h : ∀ t, s.table = some t → (f t).run s.cells = s.told .precondition (g t)) :
    (loaded >>= f).run s.cells = s.told .precondition (s.loaded >>= g) := by
  rw [EStateM.run_bind, run_loaded_eq, ← EStateM.run_bind]
  exact run_ask_bind fun t ht ↦ h t (Session.loaded_eq_ok.1 ht)

/-- Relations that hold together still do when an object has been put somewhere. -/
theorem run_applyPose {id : ObjectId} {p : Pose R} {kind : ActionKind} {context : Option ObjectId}
    (ht : c.table = some t) (hvalid : t.relations.Valid) :
    (applyPose id p kind context).run c = .ok () { c with
      scene := some (t.place kind id p context).scene
      relations := (t.place kind id p context).relations } := by
  obtain ⟨scene, hscene, rfl⟩ := Option.map_eq_some_iff.1 ht
  have hplaced : (c.relations.update c.lids id kind context).validate = .ok () :=
    RelationSet.validate_eq_ok.2 hvalid.update
  simp only [applyPose, EStateM.run_bind, EStateM.run_modify, EStateM.run_get, hplaced,
    EStateM.run_pure, hscene]
  rfl

end Steps

/-! ## Clicks -/

section Clicks

variable {s : Session R} {t : Table R}

/-- Finishing writes the same cells and gives the same answer as the session's finishing does. -/
theorem run_finish (s : Session R) : finish.run s.cells = s.told .precondition s.finish := by
  simp only [finish, Session.finish, EStateM.run_bind, EStateM.run_get, s.action_cells]
  cases s.phase.action <;> rfl

/-- So does a click where no object is. -/
theorem run_clickEmpty (s : Session R) :
    clickEmpty.run s.cells = s.told .precondition s.clickEmpty := by
  refine run_loaded_bind fun t ht ↦ ?_
  rw [run_bind_of_ok (EStateM.run_get _), s.action_cells]
  split
  next => exact run_finish s
  next =>
    obtain ⟨config, viewport, table, phase, trajectory, latestLoad, press⟩ := s
    cases phase <;> rfl

/-- Giving up does so too, if the lids are still those of the step.  The handler reads them from the
cells and the session from the step, and only coherence makes the two agree. -/
theorem run_cancel (hlids : ∀ step ∈ s.phase.step, s.lids = step.before.lids) :
    cancel.run s.cells = .ok s.cancel.2 s.cancel.1.cells := by
  obtain ⟨config, viewport, table, phase, trajectory, latestLoad, press⟩ := s
  cases phase with
  | idle | selectTarget => rfl
  | selectReference | manipulate | awaitCommit =>
    simp only [cancel, Session.cancel, Phase.step, Session.cells, Session.lids, Option.map_some,
      Option.getD_some, Session.scene?, Session.relations]
    rw [← hlids _ rfl]
    rfl

variable [Scalar R] {kind : ActionKind}

/-- Opening and closing agree as long as the relations are valid.  On others the handler would stop
at its own check, of which a session knows nothing. -/
theorem run_toggleLid {clicked : ObjectId} (ht : s.table = some t)
    (hphase : s.phase = .selectTarget kind) (hvalid : t.relations.Valid) :
    (toggleLid kind clicked).run s.cells = s.told .precondition (s.toggleLid t kind clicked) := by
  have htable : s.cells.table = some t := s.table_cells.trans ht
  unfold toggleLid
  rw [run_bind_of_ok (run_loaded htable)]
  refine run_ask_bind ?_
  rintro ⟨lid, p⟩ -
  rw [run_bind_of_ok (run_applyPose htable hvalid)]
  rw [Session.eq_mk ht hphase]
  rfl

/-- Choosing what to move agrees. -/
theorem run_selectTarget {id : ObjectId} (ht : s.table = some t)
    (hphase : s.phase = .selectTarget kind) (hvalid : t.relations.Valid) :
    (selectTarget kind id).run s.cells = s.told .precondition (s.selectTarget t kind id) := by
  unfold selectTarget Session.selectTarget
  split
  next => exact run_toggleLid ht hphase hvalid
  next =>
    rw [run_bind_of_ok (run_loaded (s.table_cells.trans ht))]
    rw [Session.eq_mk ht hphase]
    cases kind <;> rfl

/-- Choosing where to move it to agrees. -/
theorem run_selectReference {target reference : ObjectId} {before : Table R}
    (ht : s.table = some t) (hphase : s.phase = .selectReference kind target before)
    (hvalid : t.relations.Valid) : (selectReference kind target reference).run s.cells =
      s.told .precondition (s.selectReference t kind target before reference) := by
  have htable : s.cells.table = some t := s.table_cells.trans ht
  unfold selectReference Session.selectReference
  split
  next => rfl
  next =>
    rw [run_bind_of_ok (run_loaded htable)]
    refine run_ask_bind fun moving _ ↦ run_ask_bind fun anchor _ ↦ run_ask_bind fun _ _ ↦ ?_
    split
    next =>
      rw [Session.eq_mk ht hphase]
      rfl
    next =>
      dsimp only
      rw [run_bind_of_ok (run_applyPose htable hvalid)]
      rw [Session.eq_mk ht hphase]
      rfl

/-- A click on an object agrees, whatever is being chosen. -/
theorem run_clickObject {id : ObjectId} (hvalid : ∀ t ∈ s.table, t.relations.Valid) :
    (clickObject id).run s.cells = s.told .precondition (s.clickObject id) := by
  refine run_loaded_bind fun t ht ↦ run_ask_bind fun _ _ ↦ ?_
  rw [run_bind_of_ok (EStateM.run_get _)]
  have hmode : s.cells.mode = s.phase.mode := rfl
  have hstage : s.cells.stage = s.phase.stage := rfl
  rw [hmode, hstage]
  cases hphase : s.phase with
  | idle => rfl
  | selectTarget kind => exact run_selectTarget ht hphase (hvalid t ht)
  | selectReference kind target before => exact run_selectReference ht hphase (hvalid t ht)
  | manipulate | awaitCommit => rfl

/-- A click on a pixel agrees. -/
theorem run_click {pixel : Point R} (hvalid : ∀ t ∈ s.table, t.relations.Valid) :
    (click pixel).run s.cells = s.told .precondition (s.click pixel) := by
  unfold Session.click Session.hit?
  rw [bind_assoc]
  refine run_loaded_bind fun t ht ↦ ?_
  rw [run_bind_of_ok (EStateM.run_get _), show s.cells.viewport = s.viewport from rfl, pure_bind]
  cases t.scene.hit? s.viewport pixel with
  | some id => exact run_clickObject hvalid
  | none => exact run_clickEmpty s

end Clicks

/-! ## The pointer -/

section Pointer

variable [Scalar R] {s : Session R} {pixel : Point R}

/-- A press always succeeds, and agrees. -/
theorem run_pointerDown (s : Session R) (pixel : Point R) :
    (pointerDown pixel).run s.cells =
      .ok (s.pointerDown pixel).2 (s.pointerDown pixel).1.cells := by
  obtain ⟨config, viewport, table, phase, trajectory, latestLoad, press⟩ := s
  cases phase with
  | idle | selectTarget | selectReference | awaitCommit => rfl
  | manipulate kind target reference grip step =>
    cases grip with
    | some grip => rfl
    | none =>
      cases table with
      | none => rfl
      | some t =>
        simp only [pointerDown, Session.pointerDown, Session.object?, Cells.object?, Session.cells,
          Session.scene?, Phase.mode, Phase.stage, EStateM.run_bind, EStateM.run_modify,
          EStateM.run_get, Option.map_some, Option.bind_some]
        cases t.scene.get? target with
        | none => rfl
        | some o =>
          dsimp only
          split <;> rfl

/-- A move of the pointer agrees. -/
theorem run_pointerMove (hvalid : ∀ t ∈ s.table, t.relations.Valid) :
    (pointerMove pixel).run s.cells = s.told id (s.pointerMove pixel) := by
  cases hphase : s.phase with
  | idle | selectTarget | selectReference | awaitCommit =>
    rw [Session.eq_mk rfl hphase]
    rfl
  | manipulate kind target reference grip step =>
    have hmode : s.cells.mode = some kind := congrArg Phase.mode hphase
    have hstage : s.cells.stage = .manipulate target reference grip := congrArg Phase.stage hphase
    cases ht : s.table with
    | none =>
      rw [Session.eq_mk ht hphase]
      rfl
    | some t =>
      simp only [pointerMove, Session.pointerMove, run_bind_of_ok (EStateM.run_get _), hmode,
        hstage, Cells.object?, Session.scene_cells ht, hphase, ht, Option.bind_some]
      cases t.scene.get? target with
      | none => rfl
      | some o =>
        refine run_ask_bind fun p? _ ↦ ?_
        cases p? with
        | none => rfl
        | some p =>
          dsimp only
          rw [run_bind_of_ok (run_applyPose (s.table_cells.trans ht) (hvalid t ht))]
          rw [Session.eq_mk ht hphase]
          rfl

/-- Letting go agrees, also where the click that it stands for is refused. -/
theorem run_pointerUp (hvalid : ∀ t ∈ s.table, t.relations.Valid) :
    (pointerUp pixel).run s.cells = Session.report .precondition (s.pointerUp pixel) := by
  cases hgrip : s.phase.grip with
  | some grip =>
    obtain ⟨config, viewport, table, phase, trajectory, latestLoad, press⟩ := s
    cases phase with
    | idle | selectTarget | selectReference | awaitCommit => cases hgrip
    | manipulate kind target reference grip' step =>
      obtain rfl : grip' = some grip := hgrip
      rfl
  | none =>
    have hclick : (click pixel).run s.release.cells =
        s.release.told .precondition (s.release.click pixel) :=
      run_click (by rwa [s.table_release])
    unfold pointerUp release Session.pointerUp
    rw [run_bind_of_ok (EStateM.run_get _), run_bind_of_ok (EStateM.run_modify _ _),
      run_bind_of_ok (EStateM.run_get _), ← Session.release_cells hgrip, hgrip]
    split
    next hstage => exact absurd hstage (Session.stage_cells_ne s.grip_release)
    next =>
      rw [show s.cells.press = s.press from rfl]
      cases s.press with
      | none => rfl
      | some start =>
        dsimp only
        rw [Option.isSome_none, if_neg Bool.false_ne_true]
        split
        next =>
          rw [hclick]
          cases s.release.click pixel <;> rfl
        next => rfl

end Pointer

/-! ## Loading and replaying -/

section Loading

variable {s : Session R}

/-- The answer to a load agrees. -/
theorem run_completeLoad (s : Session R) (ticket : LoadTicket)
    (answer : Except CollaboratorError (SceneBundle R)) : (completeLoad ticket answer).run s.cells =
      Session.report .collaborator (s.deliver ticket answer) := by
  rw [run_completeLoad_eq, show s.cells.latestLoad = s.latestLoad from rfl]
  unfold Session.deliver Session.completeLoad
  by_cases hnumber : ticket.number = s.latestLoad
  · rw [if_pos hnumber, if_neg (not_not_intro hnumber)]
    cases answer with
    | error e => rfl
    | ok b =>
      dsimp only [bind, Except.bind]
      cases b.table <;> rfl
  · rw [if_neg hnumber, if_pos hnumber]
    rfl

theorem run_load (s : Session R) (b : SceneBundle R) :
    (load b).run s.cells = Session.report .collaborator (s.load b) :=
  run_completeLoad (s.beginLoad b.scene.taskId).1 _ (.ok b)

/-- What is asked to be saved agrees. -/
theorem run_saveRequest (s : Session R) : saveRequest.run s.cells =
    Session.report .precondition (s, s.saveRequest) := by
  obtain ⟨config, viewport, table, phase, trajectory, latestLoad, press⟩ := s
  cases table <;> cases trajectory <;> rfl

/-- A replay agrees. -/
theorem run_replay [Scalar R] {a : Action R} (hvalid : ∀ t ∈ s.table, t.relations.Valid) :
    (replay a).run s.cells = s.told id (s.replay a) := by
  have hloaded : loaded.run s.cells =
      (ask id (s.loaded.mapError SessionError.precondition)).run s.cells := by
    rw [run_loaded_eq]
    cases s.loaded <;> rfl
  unfold replay Session.replay
  rw [EStateM.run_bind, hloaded, ← EStateM.run_bind]
  refine run_ask_bind fun t ht ↦ ?_
  rw [mapError_eq_ok, Session.loaded_eq_ok] at ht
  rw [run_bind_of_ok (EStateM.run_get _)]
  refine run_ask_bind fun p _ ↦ ?_
  rw [run_bind_of_ok (EStateM.run_modify _ _)]
  refine (run_bind_of_ok (run_applyPose (t := t) ?_ (hvalid t ht))).trans ?_
  · exact s.table_cells.trans ht
  · rw [Session.eq_mk ht rfl]
    rfl

end Loading

end Handler

/-! ## All operations -/

/-- What a handler comes to when it leaves the cells behind with this outcome. -/
def Outcome.told (c : Cells R) : Outcome R → EStateM.Result Halt (Cells R) (Outcome R)
  | failed e => .error (.refused e) c
  | o => .ok o c

namespace Handler

variable {s : Session R} {cause : ε → SessionError} {outcome : α → Outcome R} {x : Handler R α}

/-- An operation that changes the session only if it succeeds. -/
theorem run_map_settle {y : Except ε (Session R × α)} (h : x.run s.cells = s.told cause y)
    (houtcome : ∀ a c, (outcome a).told c = .ok (outcome a) c) : (outcome <$> x).run s.cells =
      (s.settle cause outcome y).2.told (s.settle cause outcome y).1.cells := by
  rw [run_map, h]
  cases y with
  | ok r => exact (houtcome _ _).symm
  | error e => rfl

/-- What a caller is told of a handler is what a caller is told of the session. -/
theorem run_map_report {r : Session R × Except ε α} (h : x.run s.cells = Session.report cause r)
    (houtcome : ∀ a c, (outcome a).told c = .ok (outcome a) c) :
    (outcome <$> x).run s.cells = (Session.outcomeOf cause outcome r.2).told r.1.cells := by
  rw [run_map, h]
  obtain ⟨s', answer⟩ := r
  cases answer with
  | ok a => exact (houtcome _ _).symm
  | error e => rfl

end Handler

namespace Session

variable [Scalar R] {s : Session R}

theorem Coherent.lids_eq (hs : s.Coherent) :
    ∀ step ∈ s.phase.step, s.lids = step.before.lids := by
  intro step hstep
  rw [lids_of_table (hs.sound.table_of_step hstep)]
  cases step.action <;> rfl

/-- The handler of an operation answers what the session answers, and leaves the cells of the
session that the operation leads to. -/
theorem Coherent.run_handler (hs : s.Coherent) (hvalid : s.progress.Valid) (op : Operation R) :
    op.handler.run s.cells = (s.perform op).2.told (s.perform op).1.cells := by
  have htable : ∀ t ∈ s.table, t.relations.Valid := hs.sound.valid_table hvalid
  cases op with
  | beginLoad id => rfl
  | completeLoad ticket answer =>
    exact Handler.run_map_report (Handler.run_completeLoad s ticket answer) fun _ _ ↦ rfl
  | load b => exact Handler.run_map_report (Handler.run_load s b) fun _ _ ↦ rfl
  | resize width height => rfl
  | choose kind => rfl
  | click pixel => exact Handler.run_map_settle (Handler.run_click htable) fun _ _ ↦ rfl
  | clickObject id => exact Handler.run_map_settle (Handler.run_clickObject htable) fun _ _ ↦ rfl
  | clickEmpty => exact Handler.run_map_settle (Handler.run_clickEmpty s) fun _ _ ↦ rfl
  | pointerDown pixel =>
    change (Outcome.effects <$> Handler.pointerDown pixel).run s.cells = _
    rw [Handler.run_map, Handler.run_pointerDown]
    rfl
  | pointerMove pixel =>
    exact Handler.run_map_settle (Handler.run_pointerMove htable) fun _ _ ↦ rfl
  | pointerUp pixel => exact Handler.run_map_report (Handler.run_pointerUp htable) fun _ _ ↦ rfl
  | finish => exact Handler.run_map_settle (Handler.run_finish s) fun _ _ ↦ rfl
  | cancel =>
    change (Outcome.effects <$> Handler.cancel).run s.cells = _
    rw [Handler.run_map, Handler.run_cancel hs.lids_eq]
    rfl
  | requestSave => exact Handler.run_map_report (Handler.run_saveRequest s) fun _ _ ↦ rfl
  | completeSave request answer => cases answer <;> rfl
  | replay a => exact Handler.run_map_settle (Handler.run_replay htable) fun _ _ ↦ rfl

/-- One operation on the cells of a coherent session leads to the cells of the session that the
operation leads to.  This is the step of the simulation, by cases on the operation. -/
theorem Coherent.after_cells (hs : s.Coherent) (hvalid : s.progress.Valid) (op : Operation R) :
    s.cells.after op = (s.perform op).1.cells := by
  unfold Cells.after
  rw [hs.run_handler hvalid]
  cases (s.perform op).2 <;> rfl

/-- What an operation answers to someone who only tells going through from stopping. -/
theorem Coherent.answer_cells (hs : s.Coherent) (hvalid : s.progress.Valid) (op : Operation R) :
    s.cells.answer op = match (s.perform op).2 with
      | .failed e => .error (.refused e)
      | o => .ok o := by
  unfold Cells.answer
  rw [hs.run_handler hvalid]
  cases (s.perform op).2 <;> rfl

/-- Cells through a run are those of the session through the same run. -/
theorem Coherent.run_cells (hs : s.Coherent) (hvalid : s.progress.Valid)
    (ops : List (Operation R)) : s.cells.run ops = (s.run ops).cells := by
  induction ops generalizing s with
  | nil => rfl
  | cons op ops ih =>
    rw [Cells.run_cons, hs.after_cells hvalid, Session.run_cons]
    exact ih (hs.perform op) ((Session.makes_perform s op).change.valid hs.sound hvalid)

end Session

namespace Cells

variable [Scalar R]

/-- Any operations on the cells do what they do on the session. -/
theorem run_start (config : Config R) (ops : List (Operation R)) :
    (start config).run ops = ((Session.start config).run ops).cells :=
  (Session.coherent_start config).run_cells nofun ops

end Cells

end Rearrangement
