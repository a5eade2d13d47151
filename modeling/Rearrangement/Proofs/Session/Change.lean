import Rearrangement.Proofs.Session.Handlers

/-!
# What an operation can change

The table, the phase and the trajectory of a session are its `Progress`; nothing else of it bears on
the actions.  `Quiet` lists the changes of progress that settle nothing: the selection, previews,
and taking a preview back.  `Change` adds the ones that do: recording an action, replaying one,
choosing a kind of action and showing a new scene.

`makes_perform` says that each operation makes one of these changes and leaves the configuration and
the world rectangle as they are.  What is said of runs goes by cases on it.

## Main statements

* `makes_of_clickObject`, `makes_of_pointerMove`, `makes_of_replay` and their like: the changes that
  each handler makes.
* `makes_perform`: the changes that an operation makes.

There is one constructor for each way in which progress can be made, with all that the handler has
checked by then among its arguments.  An invariant of sessions is shown by cases on `Quiet` and
`Change`, of which there are far fewer than branches in the handlers, and no handler is opened for
it; a branch that is added to a handler and makes one of these changes asks for no new proof beyond
its own lemma here.
-/

namespace Rearrangement

open Scalar

variable {R : Type}

/-- The part of a session that actions depend on. -/
structure Progress (R : Type) where
  table : Option (Table R)
  phase : Phase R
  trajectory : List (Action R)

namespace Session

def progress (s : Session R) : Progress R := ⟨s.table, s.phase, s.trajectory⟩

end Session

/-- The effect tells that an action has been recorded. -/
def Effect.records : Effect R → Bool
  | stepCommitted _ => true
  | _ => false

/-- An action has been recorded. -/
def Outcome.commits : Outcome R → Bool
  | effects es => es.any (·.records)
  | _ => false

/-- An action has been replayed. -/
def Outcome.replays : Outcome R → Bool
  | replayed _ => true
  | _ => false

/-- A new scene is shown. -/
def Outcome.loads : Outcome R → Bool
  | load .loaded => true
  | _ => false

def Operation.chooses : Operation R → Bool
  | choose _ => true
  | _ => false

/-- The operation settles what is certain about the table: it records the action in progress,
replays one, shows a new scene or chooses a kind of action. -/
def settles (op : Operation R) (o : Outcome R) : Bool :=
  o.commits || o.replays || o.loads || op.chooses

/-- The bundle that an operation brings, if it brings one. -/
def Operation.bundle? : Operation R → Option (SceneBundle R)
  | load b | completeLoad _ (.ok b) => some b
  | _ => none

variable [Scalar R]

/-- Changes that settle nothing. -/
inductive Quiet (v : Viewport R) : Progress R → Progress R → Prop
  | stay {p : Progress R} : Quiet v p p
  /-- A click where no object is, with nothing to record. -/
  | deselect {t : Option (Table R)} {phase : Phase R} {as : List (Action R)} {kind : ActionKind}
      (hmode : phase.mode = some kind) (haction : phase.action = none) :
      Quiet v ⟨t, phase, as⟩ ⟨t, .selectTarget kind, as⟩
  /-- The object of an action that relates it to a second one is chosen. -/
  | aim {t : Table R} {as : List (Action R)} {kind : ActionKind} {id : ObjectId}
      {o : SceneObject R} (ho : t.scene.get? id = some o) (hkind : kind.needsReference) :
      Quiet v ⟨some t, .selectTarget kind, as⟩ ⟨some t, .selectReference kind id t, as⟩
  /-- The object that is to be moved or turned is chosen. -/
  | take {t : Table R} {as : List (Action R)} {kind : ActionKind} {id : ObjectId}
      {o : SceneObject R} (ho : t.scene.get? id = some o) (hkind : kind = .move ∨ kind = .rotate) :
      Quiet v ⟨some t, .selectTarget kind, as⟩ ⟨some t, .manipulate kind id none none ⟨t, none⟩, as⟩
  | toggle {t : Table R} {as : List (Action R)} {kind : ActionKind} {container lid : ObjectId}
      {p : Pose R} (hkind : kind.isLidToggle)
      (htoggle : t.lidToggle kind container = .ok (lid, p)) :
      Quiet v ⟨some t, .selectTarget kind, as⟩
        ⟨some (t.carry ⟨kind, lid, some container, p⟩),
          .awaitCommit kind container none t ⟨kind, lid, some container, p⟩, as⟩
  /-- What the object is put near is chosen. -/
  | near {t before : Table R} {as : List (Action R)} {target reference : ObjectId}
      {anchor : SceneObject R} (hne : target ≠ reference)
      (hanchor : t.scene.get? reference = some anchor) :
      Quiet v ⟨some t, .selectReference .putNear target before, as⟩
        ⟨some t, .manipulate .putNear target (some reference) none ⟨before, none⟩, as⟩
  /-- What the object is put in or on is chosen. -/
  | put {t before : Table R} {as : List (Action R)} {kind : ActionKind}
      {target reference : ObjectId} {o anchor : SceneObject R} (hkind : kind ≠ .putNear)
      (hne : target ≠ reference) (ho : t.scene.get? target = some o)
      (hanchor : t.scene.get? reference = some anchor)
      (hcheck : t.checkReference kind anchor = .ok ()) (a : Action R)
      (ha : a = ⟨kind, target, some reference,
        if kind = .putIn then o.puttingIn anchor else o.puttingOn anchor⟩) :
      Quiet v ⟨some t, .selectReference kind target before, as⟩
        ⟨some (t.carry a), .awaitCommit kind target (some reference) before a, as⟩
  /-- The pointer takes hold of the object. -/
  | hold {t : Table R} {as : List (Action R)} {kind : ActionKind} {target : ObjectId}
      {reference : Option ObjectId} {step : Step R} {o : SceneObject R} {pixel : Point R}
      (hkind : kind.isDrag) (ho : t.scene.get? target = some o) :
      Quiet v ⟨some t, .manipulate kind target reference none step, as⟩
        ⟨some t, .manipulate kind target reference (some ⟨pixel, o.position.flat⟩) step, as⟩
  | letGo {t : Option (Table R)} {as : List (Action R)} {kind : ActionKind} {target : ObjectId}
      {reference : Option ObjectId} {grip : Grip R} {step : Step R} :
      Quiet v ⟨t, .manipulate kind target reference (some grip) step, as⟩
        ⟨t, .manipulate kind target reference none step, as⟩
  /-- The object follows the pointer. -/
  | follow {t : Table R} {as : List (Action R)} {kind : ActionKind} {target : ObjectId}
      {reference : Option ObjectId} {grip : Option (Grip R)} {step : Step R} {o : SceneObject R}
      {pixel : Point R} {p : Pose R} (ho : t.scene.get? target = some o)
      (hp : Session.followed o kind grip pixel v = .ok (some p)) :
      Quiet v ⟨some t, .manipulate kind target reference grip step, as⟩
        ⟨some (t.carry ⟨kind, target, reference, p⟩), .manipulate kind target reference grip
          ⟨step.before, some ⟨kind, target, reference, p⟩⟩, as⟩
  /-- The action in progress is given up. -/
  | rollback {t : Option (Table R)} {phase : Phase R} {as : List (Action R)} {step : Step R}
      (hstep : phase.step = some step) : Quiet v ⟨t, phase, as⟩ ⟨some step.before, .idle, as⟩
  /-- The kind of action is given up. -/
  | abandon {t : Option (Table R)} {phase : Phase R} {as : List (Action R)}
      (hstep : phase.step = none) : Quiet v ⟨t, phase, as⟩ ⟨t, .idle, as⟩

/-- All changes, with the operation that makes them and what it answers. -/
inductive Change (w : World R) (v : Viewport R) (op : Operation R) (o : Outcome R) :
    Progress R → Progress R → Prop
  | quiet {p q : Progress R} (h : Quiet v p q) (hop : settles op o = false) : Change w v op o p q
  | commit {t : Option (Table R)} {phase : Phase R} {as : List (Action R)} {a : Action R}
      (ha : phase.action = some a) (ho : o.commits) :
      Change w v op o ⟨t, phase, as⟩ ⟨t, .idle, as ++ [a]⟩
  | replay {t : Table R} {phase : Phase R} {as : List (Action R)} {a : Action R} {p : Pose R}
      (hop : op = .replay a) (hp : t.Replays w a p) (ho : o = .replayed { a with pose := p }) :
      Change w v op o ⟨some t, phase, as⟩
        ⟨some (t.carry { a with pose := p }), .idle, as ++ [{ a with pose := p }]⟩
  | choose {t : Option (Table R)} {phase : Phase R} {as : List (Action R)} {kind : ActionKind}
      (hop : op = .choose kind) (ho : o = .effects Session.selectionEffects) :
      Change w v op o ⟨t, phase, as⟩ ⟨t, .selectTarget kind, as⟩
  | install {p : Progress R} {b : SceneBundle R} {t : Table R} (hop : op.bundle? = some b)
      (ht : b.table = .ok t) (ho : o.loads) : Change w v op o p ⟨some t, .idle, []⟩

namespace Session

/-- From `s` the operation leads to `s'`: a change of progress, and neither the configuration nor
the world rectangle is touched. -/
structure Makes (s : Session R) (op : Operation R) (o : Outcome R) (s' : Session R) : Prop where
  change : Change s.config.world s.viewport op o s.progress s'.progress
  config : s'.config = s.config
  world : s'.viewport.world = s.viewport.world

variable {s s' : Session R} {op : Operation R} {o : Outcome R} {es : List (Effect R)}
  {t : Table R} {kind : ActionKind} {id : ObjectId}

omit [Scalar R] in
/-- Choosing apart, an operation that answers with effects settles something only by recording. -/
theorem not_settles (hop : op.chooses = false) (hes : es.any (·.records) = false) :
    settles op (.effects es) = false := by
  simp [settles, Outcome.commits, Outcome.replays, Outcome.loads, hop, hes]

omit [Scalar R] in
theorem not_settles_failed {e : SessionError} (hop : op.chooses = false) :
    settles op (.failed e) = false := by
  simp [settles, Outcome.commits, Outcome.replays, Outcome.loads, hop]

/-- To do nothing is a change, unless something is said to be settled. -/
theorem makes_self (h : settles op o = false) : s.Makes op o s := ⟨.quiet .stay h, rfl, rfl⟩

/-! ## Clicks -/

theorem makes_of_selectTarget {x : SceneObject R} (hop : op.chooses = false)
    (htable : s.table = some t) (hphase : s.phase = .selectTarget kind)
    (hx : t.scene.get? id = some x) (h : s.selectTarget t kind id = .ok (s', es)) :
    s.Makes op (.effects es) s' := by
  have hsettles : settles op (.effects selectionEffects) = false := not_settles hop rfl
  obtain ⟨hkind, h⟩ | ⟨rfl, hcases⟩ := selectTarget_cases h
  · obtain ⟨_, lid, pose, rfl, htoggle, rfl, rfl⟩ := toggleLid_cases h
    refine ⟨.quiet ?_ hsettles, rfl, rfl⟩
    rw [progress, htable, hphase]
    exact .toggle hkind htoggle
  · obtain ⟨hneeds, rfl⟩ | ⟨hkind, hneeds, rfl⟩ := hcases
    all_goals
      refine ⟨.quiet ?_ hsettles, rfl, rfl⟩
      rw [progress, progress, htable, hphase]
    · exact .aim hx hneeds
    · refine .take hx ?_
      cases kind <;> simp_all [ActionKind.isLidToggle, ActionKind.needsReference]

theorem makes_of_selectReference {target : ObjectId} {before : Table R}
    (hop : op.chooses = false) (htable : s.table = some t)
    (hphase : s.phase = .selectReference kind target before)
    (h : s.selectReference t kind target before id = .ok (s', es)) :
    s.Makes op (.effects es) s' := by
  obtain ⟨rfl, hne, moving, anchor, hmoving, hanchor, hcheck, hcases⟩ := selectReference_cases h
  have hsettles : settles op (.effects selectionEffects) = false := not_settles hop rfl
  obtain ⟨hnear, rfl⟩ | ⟨hnear, _, rfl, rfl⟩ := hcases
  all_goals
    refine ⟨.quiet ?_ hsettles, rfl, rfl⟩
    rw [progress, progress, htable, hphase]
  · rw [hnear]
    exact .near hne hanchor
  · exact .put hnear hne hmoving hanchor hcheck _ rfl

/-- A click on an object makes the change of what is being chosen. -/
theorem makes_of_clickObject (hop : op.chooses = false)
    (h : s.clickObject id = .ok (s', es)) : s.Makes op (.effects es) s' := by
  obtain ⟨rfl, rfl⟩ | ⟨t, x, htable, hx, hcases⟩ := clickObject_cases h
  · exact makes_self (not_settles hop rfl)
  · obtain ⟨kind, hphase, h⟩ | ⟨kind, target, before, hphase, h⟩ := hcases
    · exact makes_of_selectTarget hop htable hphase hx h
    · exact makes_of_selectReference hop htable hphase h

/-- Finishing records the action of the step. -/
theorem makes_of_finish (h : s.finish = .ok (s', es)) : s.Makes op (.effects es) s' := by
  obtain ⟨a, ha, rfl, rfl⟩ := finish_cases h
  exact ⟨.commit ha rfl, rfl, rfl⟩

theorem makes_of_clickEmpty (hop : op.chooses = false) (h : s.clickEmpty = .ok (s', es)) :
    s.Makes op (.effects es) s' := by
  obtain h | ⟨haction, ⟨rfl, rfl⟩ | ⟨kind, hmode, rfl, rfl⟩⟩ := clickEmpty_cases h
  · exact makes_of_finish h
  · exact makes_self (not_settles hop rfl)
  · exact ⟨.quiet (.deselect hmode haction) (not_settles hop rfl), rfl, rfl⟩

theorem makes_of_click {pixel : Point R} (hop : op.chooses = false)
    (h : s.click pixel = .ok (s', es)) : s.Makes op (.effects es) s' := by
  obtain h | ⟨id, h⟩ := click_cases h
  · exact makes_of_clickEmpty hop h
  · exact makes_of_clickObject hop h

/-! ## The pointer -/

theorem makes_of_pointerDown (s : Session R) (pixel : Point R) (hop : op.chooses = false) :
    s.Makes op (.effects (s.pointerDown pixel).2) (s.pointerDown pixel).1 := by
  obtain h | ⟨kind, target, reference, step, t, x, hphase, htable, hx, hkind, h⟩ :=
    s.pointerDown_cases pixel
  all_goals rw [h]
  · exact ⟨.quiet .stay (not_settles hop rfl), rfl, rfl⟩
  · refine ⟨.quiet ?_ (not_settles hop rfl), rfl, rfl⟩
    rw [progress, progress, htable, hphase]
    exact .hold hkind hx

/-- A move of the pointer makes a preview at most. -/
theorem makes_of_pointerMove {pixel : Point R} (hop : op.chooses = false)
    (h : s.pointerMove pixel = .ok (s', es)) : s.Makes op (.effects es) s' := by
  obtain ⟨rfl, rfl⟩ | ⟨kind, target, reference, grip, step, t, x, p, hphase, htable, hx, hp, rfl,
    rfl⟩ := pointerMove_cases h
  · exact makes_self (not_settles hop rfl)
  · refine ⟨.quiet ?_ (not_settles hop rfl), rfl, rfl⟩
    rw [progress, progress, htable, hphase]
    exact .follow hx hp

omit [Scalar R] in
theorem config_release (s : Session R) : s.release.config = s.config := by
  unfold release
  split <;> rfl

omit [Scalar R] in
theorem viewport_release (s : Session R) : s.release.viewport = s.viewport := by
  unfold release
  split <;> rfl

omit [Scalar R] in
theorem progress_release (h : s.phase.grip.isSome = false) : s.release.progress = s.progress := by
  unfold release
  split
  next hphase => simp [hphase, Phase.grip] at h
  next => rfl

theorem makes_release (h : settles op o = false) : s.Makes op o s.release := by
  refine ⟨.quiet ?_ h, config_release s, by rw [viewport_release]⟩
  unfold release
  split
  next hphase =>
    rw [progress, hphase]
    exact .letGo
  next => exact .stay

/-- Letting go makes the change of the click that it stands for. -/
theorem makes_of_pointerUp (s : Session R) (pixel : Point R) (hop : op.chooses = false) :
    s.Makes op (outcomeOf .precondition .effects (s.pointerUp pixel).2) (s.pointerUp pixel).1 := by
  obtain ⟨es, hes, h⟩ | ⟨e, h⟩ | ⟨hgrip, s', es, hclick, h⟩ := s.pointerUp_cases pixel
  all_goals rw [h]
  · refine makes_release (not_settles hop ?_)
    obtain rfl | rfl := hes
    all_goals rfl
  · exact makes_release (not_settles_failed hop)
  · obtain ⟨hchange, hconfig, hworld⟩ := makes_of_click hop hclick
    rw [progress_release hgrip, config_release, viewport_release] at hchange
    rw [config_release] at hconfig
    rw [viewport_release] at hworld
    exact ⟨hchange, hconfig, hworld⟩

/-! ## Loading and replaying -/

/-- The answer to a load installs what it brings. -/
theorem makes_of_deliver (s : Session R) (op : Operation R) (ticket : LoadTicket)
    (answer : Except CollaboratorError (SceneBundle R)) (hop : op.chooses = false)
    (hbundle : op.bundle? = answer.toOption) :
    s.Makes op (outcomeOf .collaborator .load (s.deliver ticket answer).2)
      (s.deliver ticket answer).1 := by
  unfold deliver
  cases hload : s.completeLoad ticket answer with
  | error e => exact makes_self (not_settles_failed hop)
  | ok r =>
    obtain ⟨s', o⟩ := r
    obtain ⟨rfl, rfl⟩ | ⟨b, t, hb, ht, rfl, rfl⟩ := completeLoad_cases hload
    · refine makes_self ?_
      simp [settles, outcomeOf, Outcome.commits, Outcome.replays, Outcome.loads, hop]
    · exact ⟨.install (by rw [hbundle, hb]; rfl) ht rfl, rfl, rfl⟩

/-- What is replayed is carried out at the place that replay finds, and recorded so. -/
theorem replay_cases {a b : Action R} (h : s.replay a = .ok (s', b)) : ∃ t p, s.table = some t ∧
    t.Replays s.config.world a p ∧ b = { a with pose := p } ∧
      s' = { s with
        table := some (t.carry b)
        phase := .idle
        trajectory := s.trajectory ++ [b] } := by
  obtain ⟨t, htable, h⟩ := bind_eq_ok.1 h
  obtain ⟨p, hp, h⟩ := bind_eq_ok.1 h
  obtain ⟨rfl, rfl⟩ := Prod.mk.inj (Except.ok.inj h)
  exact ⟨t, p, loaded_eq_ok.1 (mapError_eq_ok.1 htable), Table.replayPose_eq_ok.1 hp, rfl, rfl⟩

/-- A replay finishes the step and then carries the action out. -/
theorem makes_of_replay {a b : Action R} (h : s.replay a = .ok (s', b)) :
    s.Makes (.replay a) (.replayed b) s' := by
  obtain ⟨t, p, htable, hp, rfl, rfl⟩ := replay_cases h
  refine ⟨?_, rfl, rfl⟩
  rw [progress, htable]
  exact .replay rfl hp rfl

/-- Replay goes through as soon as it finds a place. -/
theorem replay_eq_ok {a : Action R} {p : Pose R} (htable : s.table = some t)
    (hp : t.Replays s.config.world a p) :
    s.replay a = .ok ({ s with
      table := some (t.carry { a with pose := p })
      phase := .idle
      trajectory := s.trajectory ++ [{ a with pose := p }] }, { a with pose := p }) := by
  unfold replay
  rw [loaded_eq_ok.2 htable, bind_eq_ok]
  refine ⟨t, rfl, ?_⟩
  rw [bind_eq_ok]
  exact ⟨p, Table.replayPose_eq_ok.2 hp, rfl⟩

theorem makes_cancel (h : settles op o = false) : s.Makes op o s.cancel.1 := by
  unfold cancel
  split
  next step hstep => exact ⟨.quiet (.rollback hstep) h, rfl, rfl⟩
  next hstep => exact ⟨.quiet (.abandon hstep) h, rfl, rfl⟩

/-! ## All operations -/

/-- Operations that change the session only if they succeed. -/
theorem makes_of_settle {α ε : Type} {cause : ε → SessionError} {outcome : α → Outcome R}
    {x : Except ε (Session R × α)} (hop : op.chooses = false)
    (h : ∀ s' a, x = .ok (s', a) → s.Makes op (outcome a) s') :
    s.Makes op (s.settle cause outcome x).2 (s.settle cause outcome x).1 := by
  cases x with
  | ok r => exact h r.1 r.2 rfl
  | error e => exact makes_self (not_settles_failed hop)

/-- Every operation makes one of the changes.  All that the program can do to a table is said here,
and the invariants are shown of the changes only. -/
theorem makes_perform (s : Session R) (op : Operation R) :
    s.Makes op (s.perform op).2 (s.perform op).1 := by
  cases op with
  | beginLoad id => exact ⟨.quiet .stay rfl, rfl, rfl⟩
  | completeLoad ticket answer =>
    exact makes_of_deliver s _ ticket answer rfl (by cases answer <;> rfl)
  | load b =>
    obtain ⟨hchange, hconfig, hworld⟩ :=
      makes_of_deliver (s.beginLoad b.scene.taskId).1 (.load b) _ (.ok b) rfl rfl
    exact ⟨hchange, hconfig, hworld⟩
  | resize width height => exact ⟨.quiet .stay rfl, rfl, rfl⟩
  | choose kind => exact ⟨.choose rfl rfl, rfl, rfl⟩
  | click pixel => exact makes_of_settle rfl fun s' es h ↦ makes_of_click rfl h
  | clickObject id => exact makes_of_settle rfl fun s' es h ↦ makes_of_clickObject rfl h
  | clickEmpty => exact makes_of_settle rfl fun s' es h ↦ makes_of_clickEmpty rfl h
  | pointerDown pixel => exact makes_of_pointerDown s pixel rfl
  | pointerMove pixel => exact makes_of_settle rfl fun s' es h ↦ makes_of_pointerMove rfl h
  | pointerUp pixel => exact makes_of_pointerUp s pixel rfl
  | finish => exact makes_of_settle rfl fun s' es h ↦ makes_of_finish h
  | cancel =>
    refine makes_cancel (not_settles rfl ?_)
    split
    · rfl
    · split <;> rfl
  | requestSave =>
    refine makes_self ?_
    change settles _ (outcomeOf _ _ s.saveRequest) = false
    cases s.saveRequest <;> rfl
  | completeSave request answer =>
    refine makes_self ?_
    cases answer <;> rfl
  | replay a => exact makes_of_settle rfl fun s' b h ↦ makes_of_replay h

end Session

end Rearrangement
