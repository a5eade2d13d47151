import Rearrangement.Proofs.Cells.Layout

/-!
# Clicking is replaying

Where an action puts its object may follow from the objects alone: an object that is put in or on
another one goes where that one is, and a lid goes where its container is.  Such actions can be
clicked together or replayed, and the two ways ask in an order of their own and find the lid each in
its own manner.  `Table.putting` and `Table.toggling` say what is asked and what is found, and
`Session.Does` what comes of it; clicks and replays do the same (`does_put`, `does_toggle`,
`does_replay`).  So they accept the same actions, stop for the same reason and lead to the same
cells (`clicks_agree`), whatever was in progress before and whatever pose was recorded.

## Main statements

* `replayPose_put`, `replayPose_toggle`: what replay asks, in terms of what clicks ask.
* `does_replay`: replaying an action does it.
* `does_put`, `does_toggle`: so does clicking it together.
* `clicks_agree`: the two agree in the cells, after any run.
* `clicks_agree_close`: on an example, with an action that goes through and one that is refused.

Clicking takes several operations, of which the first may already be refused.  `SparesAlong` is
about all beginnings of such a series, so that whichever of them is refused, nothing has been done.
That two refusals are for the same reason is part of `Session.Does`, which names the reason once.
-/

namespace Rearrangement

variable {R α β ε : Type}

theorem ok_bind (a : α) (f : α → Except ε β) : (Except.ok a >>= f) = f a := rfl

/-! ## What is asked -/

namespace Table

variable [Scalar R]

/-- What is asked before an object is put in or on another one, and where it goes. -/
def putting (t : Table R) (kind : ActionKind) (target reference : ObjectId) :
    Except PreconditionViolation (Pose R) := do
  let moving ← t.require target
  if reference = target then throw (.sameObject kind target)
  let anchor ← t.require reference
  t.checkReference kind anchor
  return if kind = .putIn then moving.puttingIn anchor else moving.puttingOn anchor

/-- What is asked before a lid is seated on a container or set aside, and where it goes. -/
def toggling (t : Table R) (kind : ActionKind) (lid container : ObjectId) :
    Except PreconditionViolation (Pose R) := do
  let _ ← t.require lid
  return (← t.lidToggle kind container).2

variable {t : Table R} {w : World R} {kind : ActionKind} {lid container target reference : ObjectId}
  {p : Pose R}

/-- Replay asks in the same order. -/
theorem replayPose_put (hkind : kind = .putIn ∨ kind = .putOn) :
    t.replayPose w ⟨kind, target, some reference, p⟩ =
      (t.putting kind target reference).mapError .precondition := by
  unfold replayPose putting replayReference
  cases t.require target with
  | error v => rfl
  | ok moving =>
    by_cases hsame : reference = target
    · subst hsame
      rcases hkind with rfl | rfl <;> simp only [if_true] <;> rfl
    · simp only [if_neg hsame]
      cases t.require reference with
      | error v => rcases hkind with rfl | rfl <;> rfl
      | ok anchor =>
        rcases hkind with rfl | rfl
        all_goals
          change (t.checkReference _ anchor).mapError _ >>= _ =
            (t.checkReference _ anchor >>= _).mapError _
          cases t.checkReference _ anchor <;> rfl

theorem lid_of_lidToggle {c : ObjectId} {r : ObjectId × Pose R}
    (h : t.lidToggle kind c = .ok r) : t.lids.lidFor? c = some r.1 := by
  obtain ⟨-, -, -, hlid, -⟩ := lidToggle_eq_ok.1 h
  exact hlid

/-- Replay asks for the container once more, and for the lid once less. -/
theorem replayPose_toggle (hkind : kind = .openLid ∨ kind = .closeLid) (hne : container ≠ lid)
    (hlid : t.lids.lidFor? container = some lid) :
    t.replayPose w ⟨kind, lid, some container, p⟩ =
      (t.toggling kind lid container).mapError .precondition := by
  unfold replayPose toggling replayReference
  cases t.require lid with
  | error v => rfl
  | ok l =>
    simp only [if_neg hne]
    cases hc : t.require container with
    | error v =>
      have htoggle : t.lidToggle kind container = .error v := by
        unfold lidToggle
        rw [hc]
        rfl
      rw [htoggle]
      rcases hkind with rfl | rfl <;> rfl
    | ok c =>
      obtain rfl : c.id = container := Scene.id_of_get? (require_eq_ok.1 hc)
      have hown : ∀ r, t.lidToggle kind c.id = .ok r → r.1 = lid := fun r hr ↦
        Option.some.inj ((lid_of_lidToggle hr).symm.trans hlid)
      rcases hkind with rfl | rfl
      all_goals
        change (t.lidToggle _ c.id).mapError _ >>= _ = (t.lidToggle _ c.id >>= _).mapError _
        cases htoggle : t.lidToggle _ c.id with
        | error v => rfl
        | ok r =>
          exact if_neg (not_not_intro (hown r htoggle))

end Table

/-! ## What comes of it -/

namespace Session

/-- Why the first operation to be refused is, if the operations are performed one after the other
until then. -/
def refusal? [Scalar R] (s : Session R) : List (Operation R) → Option SessionError
  | [] => none
  | op :: ops =>
      match (s.perform op).2 with
      | .failed e => some e
      | _ => (s.perform op).1.refusal? ops

/-- The session once an action has been carried out and recorded, with no pointer pressed. -/
def recording (s : Session R) (a : Action R) : Session R :=
  { s with
    table := s.table.map (·.carry a)
    phase := .idle
    trajectory := s.trajectory ++ [a]
    press := none }

/-- Nothing is done to the table and nothing is recorded from one session to the other. -/
structure Spares (s s' : Session R) : Prop where
  table : s'.table = s.table
  trajectory : s'.trajectory = s.trajectory

theorem spares_self (s : Session R) : s.Spares s := ⟨rfl, rfl⟩

/-- What two runs spare they spare in a row. -/
theorem Spares.trans {s s' s'' : Session R} (h : s.Spares s') (h' : s'.Spares s'') :
    s.Spares s'' := ⟨h'.table.trans h.table, h'.trajectory.trans h.trajectory⟩

variable [Scalar R]

/-- However many of the operations are performed, they spare everything. -/
def SparesAlong (s : Session R) (ops : List (Operation R)) : Prop :=
  ∀ part, part <+: ops → s.Spares (s.run part)

/-- The operations carry out the action where its object is found to go.  If that is not found, they
are refused and spare everything. -/
structure Does (s : Session R) (ops : List (Operation R)) (a : Action R)
    (found : Except PreconditionViolation (Pose R)) : Prop where
  refusal : s.refusal? ops = match found with
    | .ok _ => none
    | .error v => some (.precondition v)
  done : ∀ p, found = .ok p →
    { s.run ops with press := none } = s.recording { a with pose := p }
  refused : ∀ v, found = .error v → s.SparesAlong ops

variable {s s' : Session R} {t before : Table R} {kind : ActionKind} {op : Operation R}
  {o : Outcome R} {x lid container target reference : ObjectId} {p : Pose R} {a : Action R}
  {ops : List (Operation R)} {v : PreconditionViolation} {es : List (Effect R)}
  {found : Except PreconditionViolation (Pose R)}

theorem sparesAlong_nil : s.SparesAlong [] := by
  intro part hpart
  rw [List.prefix_nil.1 hpart]
  exact spares_self s

/-- A run spares what its first step and the rest of it spare. -/
theorem sparesAlong_cons (hop : s.perform op = (s', o)) (h : s.Spares s')
    (hops : s'.SparesAlong ops) : s.SparesAlong (op :: ops) := by
  intro part hpart
  rcases List.prefix_cons_iff.1 hpart with rfl | ⟨rest, rfl, hrest⟩
  · exact spares_self s
  · rw [run_cons, hop]
    exact h.trans (hops rest hrest)

/-- Operations that are all accepted do an action if they lead to where the replay of it leads. -/
theorem does_of_ok (hrefusal : s.refusal? ops = none)
    (hdone : { s.run ops with press := none } = s.recording { a with pose := p }) :
    s.Does ops a (.ok p) := by
  refine ⟨hrefusal, ?_, nofun⟩
  rintro _ ⟨⟩
  exact hdone

/-- Operations that only change the selection may come first. -/
theorem Does.cons {phase : Phase R} {press : Option (Point R)}
    (hop : s.perform op = ({ s with phase, press }, .effects es))
    (h : Does { s with phase, press } ops a found) : s.Does (op :: ops) a found := by
  refine ⟨?_, fun p hp ↦ ?_, fun v hv ↦ sparesAlong_cons hop ⟨rfl, rfl⟩ (h.refused v hv)⟩
  · rw [refusal?, hop]
    exact h.refusal
  · rw [run_cons, hop]
    exact h.done p hp

/-- The first operation that is refused says why; those after it must not do anything. -/
theorem does_cons_of_failed (hop : s.perform op = (s, .failed (.precondition v)))
    (hops : s.SparesAlong ops) : s.Does (op :: ops) a (.error v) := by
  refine ⟨?_, nofun, fun _ _ ↦ sparesAlong_cons hop (spares_self s) hops⟩
  rw [refusal?, hop]

omit [Scalar R] in
theorem loaded_of_table (h : s.table = some t) : s.loaded = .ok t := loaded_eq_ok.2 h

omit [Scalar R] in
theorem loaded_of_none (h : s.table = none) : s.loaded = .error .noSceneLoaded := by
  rw [loaded, h]

/-! ### Replaying -/

/-- A replay does an action as soon as its place is found as is said. -/
theorem does_replay {find : Table R → Except PreconditionViolation (Pose R)}
    (hfind : ∀ t, s.table = some t →
      t.replayPose s.config.world a = (find t).mapError .precondition) :
    s.Does [.replay a] a (s.loaded >>= find) := by
  have hreplay : s.replay a = s.loaded.mapError .precondition >>= fun t ↦
      t.replayPose s.config.world a >>= fun p ↦ .ok ({ s with
        table := some (t.carry { a with pose := p })
        phase := .idle
        trajectory := s.trajectory ++ [{ a with pose := p }] }, { a with pose := p }) := rfl
  have hperform : s.perform (.replay a) = s.settle id .replayed (s.replay a) := rfl
  cases htable : s.table with
  | none =>
    rw [hreplay, loaded_of_none htable] at hperform
    rw [loaded_of_none htable]
    exact does_cons_of_failed hperform sparesAlong_nil
  | some t =>
    rw [hreplay, loaded_of_table htable] at hperform
    rw [loaded_of_table htable]
    change s.perform (.replay a) = s.settle id .replayed (t.replayPose s.config.world a >>= _)
      at hperform
    change s.Does [.replay a] a (find t)
    rw [hfind t htable] at hperform
    cases hfound : find t with
    | error v =>
      rw [hfound] at hperform
      exact does_cons_of_failed hperform sparesAlong_nil
    | ok p =>
      rw [hfound] at hperform
      refine does_of_ok ?_ ?_
      · rw [refusal?, hperform]
        rfl
      · rw [run_cons, hperform, recording, htable]
        rfl

/-! ### Clicking -/

theorem perform_clickObject_of_error (h : s.clickObject x = .error v) :
    s.perform (.clickObject x) = (s, .failed (.precondition v)) := by
  rw [perform, h]
  rfl

theorem perform_clickObject_of_ok (h : s.clickObject x = .ok (s', es)) :
    s.perform (.clickObject x) = (s', .effects es) := by
  rw [perform, h]
  rfl

/-- Nothing is recorded if there is nothing to record. -/
theorem sparesAlong_finish (h : s.phase.action = none) : s.SparesAlong [.finish] := by
  have hfinish : s.perform .finish = (s, .failed (.precondition .nothingToCommit)) := by
    rw [perform, finish, h]
    rfl
  exact sparesAlong_cons hfinish (spares_self s) sparesAlong_nil

/-- A click that finds where an object goes shows it there, to be recorded. -/
theorem does_click {f : Pose R → Phase R} (htable : s.table = some t)
    (haction : s.phase.action = none) (hf : ∀ p, (f p).action = some { a with pose := p })
    (hclick : s.clickObject x = found >>= fun p ↦ .ok ({ s with
      table := some (t.carry { a with pose := p })
      phase := f p }, selectionEffects)) : s.Does [.clickObject x, .finish] a found := by
  cases found with
  | error v =>
    exact does_cons_of_failed (perform_clickObject_of_error hclick) (sparesAlong_finish haction)
  | ok p =>
    have hperform := perform_clickObject_of_ok hclick
    refine does_of_ok ?_ ?_
    · rw [refusal?, hperform, refusal?, perform, finish, hf]
      rfl
    · rw [run_cons, hperform, recording, htable, run_cons, perform, finish, hf]
      rfl

/-- The session once the object of an action is chosen that is put in or on another one. -/
theorem clickObject_target (target : ObjectId) (hkind : kind = .putIn ∨ kind = .putOn)
    (hphase : s.phase = .selectTarget kind) : s.clickObject target =
      s.loaded >>= fun t ↦ t.require target >>= fun _ ↦
        .ok ({ s with phase := .selectReference kind target t }, selectionEffects) := by
  unfold clickObject selectTarget
  rw [hphase]
  rcases hkind with rfl | rfl <;> rfl

/-- The session once a lid is seated on its container or set aside, and what is asked before. -/
theorem clickObject_lid (hkind : kind = .openLid ∨ kind = .closeLid)
    (hphase : s.phase = .selectTarget kind) (hlid : s.lids.lidFor? container = some lid)
    (hcontainer : s.lids.containerFor? lid = some container) : s.clickObject lid =
      s.loaded >>= fun t ↦ t.toggling kind lid container >>= fun p ↦
        .ok ({ s with
          table := some (t.carry ⟨kind, lid, some container, p⟩)
          phase := .awaitCommit kind container none t ⟨kind, lid, some container, p⟩ },
          selectionEffects) := by
  have htoggle : kind.isLidToggle = true := by rcases hkind with rfl | rfl <;> rfl
  unfold clickObject selectTarget toggleLid Table.toggling
  rw [hphase]
  cases htable : s.table with
  | none => rw [loaded_of_none htable]; rfl
  | some t =>
    rw [lids_of_table htable] at hlid hcontainer
    rw [loaded_of_table htable]
    simp only [ok_bind, bind_assoc, htoggle, if_true, hcontainer, Option.getD_some]
    cases hfound : t.lidToggle kind container with
    | error v => rfl
    | ok r =>
      obtain rfl : r.1 = lid := Option.some.inj ((Table.lid_of_lidToggle hfound).symm.trans hlid)
      rfl

/-- The session once an object is put in or on the clicked one, and what is asked before. -/
theorem clickObject_reference {o : SceneObject R} (reference : ObjectId)
    (hkind : kind = .putIn ∨ kind = .putOn) (htable : s.table = some t)
    (hphase : s.phase = .selectReference kind target before) (ho : t.require target = .ok o) :
    s.clickObject reference =
      t.putting kind target reference >>= fun p ↦
        .ok ({ s with
          table := some (t.carry ⟨kind, target, some reference, p⟩)
          phase := .awaitCommit kind target (some reference) before
            ⟨kind, target, some reference, p⟩ }, selectionEffects) := by
  have hnear : kind ≠ .putNear := by rcases hkind with rfl | rfl <;> exact nofun
  unfold clickObject selectReference Table.putting
  rw [hphase, loaded_of_table htable, ho]
  simp only [ok_bind]
  by_cases hsame : target = reference
  · subst hsame
    simp only [ho, if_true]
    rfl
  · simp only [ho, ok_bind, if_neg hsame, if_neg (Ne.symm hsame), if_neg hnear, bind_assoc]
    cases t.require reference <;> rfl

/-- A second object may be taken for the first one, and that does nothing. -/
theorem sparesAlong_target (hkind : kind = .putIn ∨ kind = .putOn)
    (hphase : s.phase = .selectTarget kind) : s.SparesAlong [.clickObject x, .finish] := by
  have hclick := clickObject_target x hkind hphase
  cases hclicked : s.clickObject x with
  | error v =>
    exact sparesAlong_cons (perform_clickObject_of_error hclicked) (spares_self s)
      (sparesAlong_finish (by rw [hphase]; rfl))
  | ok r =>
    obtain ⟨t, -, h⟩ := bind_eq_ok.1 (hclick.symm.trans hclicked)
    obtain ⟨o, -, h⟩ := bind_eq_ok.1 h
    obtain rfl := Except.ok.inj h
    exact sparesAlong_cons (perform_clickObject_of_ok hclicked) ⟨rfl, rfl⟩ (sparesAlong_finish rfl)

/-- To choose a kind of action first makes no difference, since what is asked later is asked of the
same table. -/
theorem does_choose {find : Table R → Except PreconditionViolation (Pose R)}
    (h : ∀ s' : Session R, s'.phase = .selectTarget kind → s'.lids = s.lids →
      s'.Does ops a (s'.loaded >>= find)) : s.Does (.choose kind :: ops) a (s.loaded >>= find) := by
  have hperform : s.perform (.choose kind) = ({ s with phase := .selectTarget kind, press := none },
    .effects selectionEffects) := rfl
  exact Does.cons hperform (h _ rfl rfl)

/-- Choosing an object and what it is put in or on comes to this. -/
theorem does_put (s : Session R) (hkind : kind = .putIn ∨ kind = .putOn)
    (target reference : ObjectId) (p : Pose R) :
    s.Does [.choose kind, .clickObject target, .clickObject reference, .finish]
      ⟨kind, target, some reference, p⟩ (s.loaded >>= (·.putting kind target reference)) := by
  refine does_choose fun s' hphase _ ↦ ?_
  have hspares : s'.SparesAlong [.clickObject reference, .finish] := sparesAlong_target hkind hphase
  have hclick := clickObject_target target hkind hphase
  cases htable : s'.table with
  | none =>
    rw [loaded_of_none htable] at hclick ⊢
    exact does_cons_of_failed (perform_clickObject_of_error hclick) hspares
  | some t =>
    rw [loaded_of_table htable, ok_bind] at hclick ⊢
    cases ho : t.require target with
    | error v =>
      rw [ho] at hclick
      rw [Table.putting, ho]
      exact does_cons_of_failed (perform_clickObject_of_error hclick) hspares
    | ok o =>
      rw [ho] at hclick
      refine Does.cons (perform_clickObject_of_ok hclick) ?_
      exact does_click htable rfl (fun _ ↦ rfl)
        (clickObject_reference reference hkind htable rfl ho)

/-- Choosing the lid of a container comes to this, if each is known by the other. -/
theorem does_toggle (hkind : kind = .openLid ∨ kind = .closeLid) (p : Pose R)
    (hlid : s.lids.lidFor? container = some lid)
    (hcontainer : s.lids.containerFor? lid = some container) :
    s.Does [.choose kind, .clickObject lid, .finish] ⟨kind, lid, some container, p⟩
      (s.loaded >>= (·.toggling kind lid container)) := by
  refine does_choose fun s' hphase hlids ↦ ?_
  rw [← hlids] at hlid hcontainer
  have haction : s'.phase.action = none := by rw [hphase]; rfl
  have hclick := clickObject_lid hkind hphase hlid hcontainer
  cases htable : s'.table with
  | none =>
    rw [loaded_of_none htable] at hclick ⊢
    exact does_cons_of_failed (perform_clickObject_of_error hclick) (sparesAlong_finish haction)
  | some t =>
    rw [loaded_of_table htable, ok_bind] at hclick ⊢
    exact does_click htable haction (fun _ ↦ rfl) hclick

end Session

/-! ## In cells -/

namespace Cells

variable [Scalar R]

/-- Why the first operation to stop does, if the operations are performed one after the other until
then. -/
def halt? (c : Cells R) : List (Operation R) → Option Halt
  | [] => none
  | op :: ops =>
      match c.answer op with
      | .error h => some h
      | .ok _ => (c.after op).halt? ops

/-- Clicks come to the same as the replay of an action. -/
structure Agree (c : Cells R) (clicks : List (Operation R)) (a : Action R) : Prop where
  /-- They stop for the same reason, if they stop. -/
  halt : c.halt? clicks = c.halt? [.replay a]
  /-- If they go through, they have recorded the same, which is the action where its object belongs,
  and leave the same cells; but only clicks forget where the pointer was pressed. -/
  done : c.halt? clicks = none →
    { c.run clicks with press := none } = { c.run [.replay a] with press := none } ∧
      ∃ p, (c.run clicks).trajectory = c.trajectory ++ [{ a with pose := p }]
  /-- If they stop, it is for something that was asked, and nothing has been done or recorded,
  however far they are carried on. -/
  stopped : ∀ h, c.halt? clicks = some h → (∃ v, h = .refused (.precondition v)) ∧
    ∀ part, part <+: clicks ∨ part <+: [.replay a] →
      (c.run part).scene = c.scene ∧ (c.run part).relations = c.relations ∧
        (c.run part).trajectory = c.trajectory

end Cells

namespace Session

variable [Scalar R] {s : Session R} {clicks : List (Operation R)} {a : Action R}
  {found : Except PreconditionViolation (Pose R)}

/-- Operations are refused in the cells for the reason for which the session refuses them. -/
theorem Coherent.halt?_cells (hs : s.Coherent) (hvalid : s.progress.Valid)
    (ops : List (Operation R)) : s.cells.halt? ops = (s.refusal? ops).map .refused := by
  induction ops generalizing s with
  | nil => rfl
  | cons op ops ih =>
    have hrest := ih (hs.perform op) ((makes_perform s op).change.valid hs.sound hvalid)
    rw [Cells.halt?, refusal?, hs.answer_cells hvalid, hs.after_cells hvalid]
    cases (s.perform op).2 with
    | failed e => rfl
    | _ => exact hrest

omit [Scalar R] in
/-- A session that is spared shows the same scene, relations and record. -/
theorem Spares.cells {s' : Session R} (h : s.Spares s') : s'.cells.scene = s.cells.scene ∧
    s'.cells.relations = s.cells.relations ∧ s'.cells.trajectory = s.cells.trajectory := by
  refine ⟨?_, ?_, h.trajectory⟩
  · exact congrArg (Option.map _) h.table
  · exact congrArg (fun t ↦ (Option.map _ t).getD _) h.table

/-- Two ways to do one action agree in the cells. -/
theorem Coherent.agree (hs : s.Coherent) (hvalid : s.progress.Valid)
    (hclicks : s.Does clicks a found) (hreplay : s.Does [.replay a] a found) :
    s.cells.Agree clicks a := by
  have hhalt := hs.halt?_cells hvalid
  have hrun := hs.run_cells hvalid
  refine ⟨?_, fun h ↦ ?_, fun h hstop ↦ ?_⟩
  · rw [hhalt, hhalt, hclicks.refusal, hreplay.refusal]
  · rw [hhalt, hclicks.refusal] at h
    cases found with
    | error v => cases h
    | ok p =>
      have hdone := hclicks.done p rfl
      refine ⟨?_, p, ?_⟩
      · rw [hrun, hrun]
        exact congrArg Session.cells (hdone.trans (hreplay.done p rfl).symm)
      · rw [hrun]
        exact congrArg Session.trajectory hdone
  · rw [hhalt, hclicks.refusal] at hstop
    cases found with
    | ok p => cases hstop
    | error v =>
      refine ⟨⟨v, (Option.some.inj hstop).symm⟩, fun part hpart ↦ ?_⟩
      rw [hrun]
      rcases hpart with hpart | hpart
      · exact (hclicks.refused v rfl part hpart).cells
      · exact (hreplay.refused v rfl part hpart).cells

end Session

namespace Cells

variable [Scalar R]

/-- At any time, and whatever pose was recorded: choosing an object and what it is put in or on
comes to the same as replaying that, and choosing the lid of a container comes to the same as
replaying that, if each of the two is known by the other. -/
theorem clicks_agree (config : Config R) (ops : List (Operation R)) (p : Pose R) :
    let c := (start config).run ops
    (∀ kind target reference, kind = .putIn ∨ kind = .putOn →
      c.Agree [.choose kind, .clickObject target, .clickObject reference, .finish]
        ⟨kind, target, some reference, p⟩) ∧
    ∀ kind lid container, kind = .openLid ∨ kind = .closeLid → container ≠ lid →
      c.lids.lidFor? container = some lid → c.lids.containerFor? lid = some container →
        c.Agree [.choose kind, .clickObject lid, .finish] ⟨kind, lid, some container, p⟩ := by
  rw [run_start]
  have hs : ((Session.start config).run ops).Coherent := (Session.coherent_start config).run ops
  have hvalid : ((Session.start config).run ops).progress.Valid := Session.valid_run config ops
  generalize (Session.start config).run ops = s at *
  refine ⟨fun kind target reference hkind ↦ ?_,
    fun kind lid container hkind hne hlid hcontainer ↦ ?_⟩
  · exact hs.agree hvalid (s.does_put hkind target reference p)
      (Session.does_replay fun t _ ↦ Table.replayPose_put hkind)
  · change s.lids.lidFor? container = some lid at hlid
    refine hs.agree hvalid (Session.does_toggle hkind p hlid hcontainer)
      (Session.does_replay fun t ht ↦ Table.replayPose_toggle hkind hne ?_)
    rwa [← Session.lids_of_table ht]

/-- The lid is clicked onto the bowl, as it would be replayed there; and then neither way puts the
cup in the bowl. -/
theorem clicks_agree_close :
    let c := (start Kitchen.config).run [Kitchen.loadOpen]
    let close := [.choose .closeLid, .clickObject "lid", .finish]
    let c' := (start Kitchen.config).run (Kitchen.loadOpen :: close)
    let put := [.choose .putIn, .clickObject "cup", .clickObject "bowl", .finish]
    (c.halt? close = none ∧ c.Agree close ⟨.closeLid, "lid", some "bowl", ⟨⟨7, 7, 7⟩, 7⟩⟩) ∧
      c'.halt? put = some (.refused (.precondition (.containerClosed "bowl"))) ∧
        c'.Agree put ⟨.putIn, "cup", some "bowl", ⟨⟨7, 7, 7⟩, 7⟩⟩ := by
  intro c close c' put
  refine ⟨⟨by decide +kernel, ?_⟩, by decide +kernel, ?_⟩
  · exact (clicks_agree Kitchen.config [Kitchen.loadOpen] _).2 _ _ _ (.inr rfl) (by decide)
      (by decide +kernel) (by decide +kernel)
  · exact (clicks_agree Kitchen.config (Kitchen.loadOpen :: close) _).1 _ _ _ (.inl rfl)

end Cells

end Rearrangement
