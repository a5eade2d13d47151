import Rearrangement.Proofs.Cells.Clicks
import Rearrangement.Proofs.Cells.Coherence
import Rearrangement.Proofs.Cells.Frame
import Rearrangement.Proofs.Session.Ending

/-!
# Closed containers gain no contents

Whether a container is closed is asked when an object is to be put in it, and of the relations as
they are shown then, so that no preview, no other lid and no change of the selection in between can
lead around the question.  An action that puts its object in a container has found it open
(`Change.findsOpen_cases`), and one that would put it in a closed one is refused before anything is
done, clicked or replayed (`Session.Coherent.refuses_putting`).

Giving up may put back what the action in progress has taken out of a closed container; no other
operation puts anything in (`tight_run`).

## Main statements

* `RelationSet.mem_nested`, `FindsOpen.mem_inside`: what an action puts in a container, and that it
  is not in a closed one if the action has found it open.
* `Change.findsOpen_cases`: a change carries out no other action.
* `Session.Coherent.refuses_putting`: an attempt on a closed container is refused and spares
  everything, whichever way it is made.
* `tight_run`: both, for the cells after any run.
* `tight_run_lid`: on an example in which the container has been closed without being recorded.

An attempt is a replay or a click, and a click is one on an object or on a pixel that shows one;
`container?` says of each operation what it attempts, so that the refusal is one statement.
-/

namespace Rearrangement

open Scalar

variable {R : Type}

/-- What an action puts in a container. -/
theorem RelationSet.mem_nested {moved : ObjectId} {kind : ActionKind} {context : Option ObjectId}
    {p : Placement} : p ∈ nested moved kind context ↔
      kind = .putIn ∧ context = some p.anchor ∧ p.object = moved := by
  obtain ⟨object, anchor⟩ := p
  cases kind <;> cases context <;> simp [nested, and_comm, eq_comm]

/-! ## Tables -/

namespace Table

variable {t : Table R} {a : Action R} {x reference : ObjectId} {anchor : SceneObject R}

/-- The action, if it puts its object in a container, finds it open. -/
def FindsOpen (t : Table R) (a : Action R) : Prop :=
  a.kind = .putIn → ∀ x ∈ a.reference, x ∉ t.relations.closed

/-- An action of another kind need not find anything open. -/
theorem findsOpen_of_ne (h : a.kind ≠ .putIn) : t.FindsOpen a := fun hkind ↦ absurd hkind h

/-- A closed container is not passed. -/
theorem not_mem_closed_of_checkReference (h : t.checkReference .putIn anchor = .ok ()) :
    anchor.id ∉ t.relations.closed := by
  intro hclosed
  rw [checkReference] at h
  by_cases hcategory : anchor.category = .container
  · simp [hcategory, RelationSet.isClosed, hclosed] at h
  · simp [hcategory] at h

/-- The check on the second object finds its container open. -/
theorem findsOpen_of_checkReference (hanchor : t.scene.get? reference = some anchor)
    (hreference : a.reference = some reference) (h : t.checkReference a.kind anchor = .ok ()) :
    t.FindsOpen a := by
  intro hkind x hx
  obtain rfl : reference = x := Option.some.inj (hreference.symm.trans hx)
  obtain rfl : anchor.id = reference := Scene.id_of_get? hanchor
  rw [hkind] at h
  exact not_mem_closed_of_checkReference h

/-- An action that has found its container open puts nothing in one that is closed. -/
theorem FindsOpen.mem_inside (h : t.FindsOpen a) (hx : x ∈ t.relations.closed) {p : Placement}
    (hp : p ∈ (t.carry a).relations.inside) (hanchor : p.anchor = x) : p ∈ t.relations.inside := by
  change p ∈ (t.relations.update t.lids a.object a.kind a.reference).inside at hp
  rw [RelationSet.inside_update, List.mem_append] at hp
  obtain hold | hnew := hp
  · exact (List.mem_filter.1 hold).1
  · obtain ⟨hkind, hreference, -⟩ := RelationSet.mem_nested.1 hnew
    exact absurd hx (h hkind x (hanchor ▸ hreference))

variable [Scalar R]

/-- Replay checks that the container is open. -/
theorem Replays.findsOpen {w : World R} {p : Pose R} (h : t.Replays w a p) :
    t.FindsOpen { a with pose := p } := by
  cases h with
  | put _ _ hreference _ hanchor hcheck =>
    exact findsOpen_of_checkReference hanchor hreference hcheck
  | toggle hkind | drag hkind =>
    refine findsOpen_of_ne fun hput : a.kind = .putIn ↦ ?_
    rw [hput] at hkind
    cases hkind
  | rotate hkind => exact findsOpen_of_ne fun hput ↦ nomatch hkind.symm.trans hput

/-- Nothing can be put in a closed container. -/
theorem exists_putting_eq_error (hx : x ∈ t.relations.closed) (target : ObjectId) :
    ∃ v, t.putting .putIn target x = .error v := by
  cases hputting : t.putting .putIn target x with
  | error v => exact ⟨v, rfl⟩
  | ok p =>
    obtain ⟨o, -, h⟩ := bind_eq_ok.1 hputting
    obtain ⟨-, h⟩ := unless_eq_ok.1 h
    obtain ⟨anchor, hanchor, h⟩ := bind_eq_ok.1 h
    obtain ⟨⟨⟩, hcheck, -⟩ := bind_eq_ok.1 h
    obtain rfl : anchor.id = x := Scene.id_of_get? (require_eq_ok.1 hanchor)
    exact absurd hx (not_mem_closed_of_checkReference hcheck)

end Table

/-! ## Changes -/

section Changes

variable [Scalar R] {w : World R} {v : Viewport R} {p q : Progress R} {op : Operation R}
  {o : Outcome R}

/-- As long as no new scene is shown and no action is given up, the table stays, or it has an action
carried out that finds open what it puts its object in. -/
theorem Change.findsOpen_cases (h : Change w v op o p q) (hload : o.loads = false)
    (hidle : q.phase = .idle → p.phase = .idle ∨ settles op o) : q.table = p.table ∨
      ∃ t a, p.table = some t ∧ q.table = some (t.carry a) ∧ t.FindsOpen a := by
  cases h with
  | quiet hquiet hop =>
    cases hquiet with
    | stay | deselect | aim | take | near | hold | letGo | abandon => exact .inl rfl
    | toggle hkind =>
      refine .inr ⟨_, _, rfl, rfl, Table.findsOpen_of_ne ?_⟩
      rintro rfl
      cases hkind
    | put _ _ _ hanchor hcheck a ha =>
      refine .inr ⟨_, a, rfl, rfl, ?_⟩
      subst ha
      exact Table.findsOpen_of_checkReference hanchor rfl hcheck
    | follow _ hfollowed =>
      refine .inr ⟨_, _, rfl, rfl, Table.findsOpen_of_ne ?_⟩
      rintro rfl
      obtain ⟨hkind, -⟩ | ⟨_, -, ⟨hkind, -⟩ | ⟨hkind, -⟩⟩ := followed_cases hfollowed
      all_goals cases hkind
    | rollback hstep =>
      obtain hp | hsettles := hidle rfl
      · obtain rfl : _ = Phase.idle := hp
        cases hstep
      · exact absurd hsettles (Bool.eq_false_iff.1 hop)
  | commit | choose => exact .inl rfl
  | replay _ hreplays => exact .inr ⟨_, _, rfl, rfl, hreplays.findsOpen⟩
  | install _ _ ho => cases hload.symm.trans ho

end Changes

/-! ## Attempts -/

namespace Cells

variable [Scalar R]

/-- The object that a pixel shows. -/
def hit? (c : Cells R) (pixel : Point R) : Option ObjectId := c.scene.bind (·.hit? c.viewport pixel)

/-- The object that the operation clicks on. -/
def clicked? (c : Cells R) : Operation R → Option ObjectId
  | .clickObject id => some id
  | .click pixel => c.hit? pixel
  | .pointerUp pixel => c.press.bind fun start ↦
      if hypot (pixel.x - start.x) (pixel.y - start.y) ≤ clickSlop then c.hit? pixel else none
  | _ => none

/-- What the operation attempts to put an object in: it is clicked on when that is what is to be
chosen, or it is the reference of an action that is replayed. -/
def container? (c : Cells R) (op : Operation R) : Option ObjectId :=
  match op, c.mode, c.stage with
  | .replay a, _, _ => if a.kind = .putIn then a.reference else none
  | _, some .putIn, .selectReference _ => c.clicked? op
  | _, _, _ => none

end Cells

namespace Session

variable [Scalar R] {s : Session R} {t : Table R} {x : ObjectId} {op : Operation R}

/-- The operation is refused for something that was asked, and spares everything. -/
def Refuses (s : Session R) (op : Operation R) : Prop :=
  ∃ v, (s.perform op).2 = .failed (.precondition v) ∧ s.Spares (s.perform op).1

/-- An operation that fails and spares the session is refused. -/
theorem refuses_of_perform {s' : Session R} {v : PreconditionViolation}
    (h : s.perform op = (s', .failed (.precondition v))) (hs : s.Spares s') : s.Refuses op :=
  ⟨v, by rw [h], by rw [h]; exact hs⟩

/-- An attempt is a replay, or a click while the container is to be chosen. -/
theorem container?_cells (h : s.cells.container? op = some x) :
    (∃ a, op = .replay a ∧ a.kind = .putIn ∧ a.reference = some x) ∨
      ∃ target before, s.phase = .selectReference .putIn target before ∧
        s.cells.clicked? op = some x := by
  unfold Cells.container? at h
  split at h
  next a =>
    split at h
    next hkind => exact .inl ⟨a, rfl, hkind, h⟩
    next => cases h
  next target _ hmode hstage =>
    obtain ⟨kind, before, hphase⟩ := Phase.exists_of_stage_selectReference hstage
    change s.phase.mode = some .putIn at hmode
    rw [hphase] at hmode
    obtain rfl : kind = .putIn := Option.some.inj hmode
    exact .inr ⟨target, before, hphase, h⟩
  next => cases h

/-- A replay that would put an object in a closed container is refused. -/
theorem refuses_replay (ht : s.table = some t) (hx : x ∈ t.relations.closed) {a : Action R}
    (hkind : a.kind = .putIn) (hreference : a.reference = some x) : s.Refuses (.replay a) := by
  obtain ⟨kind, object, reference, pose⟩ := a
  obtain rfl : kind = .putIn := hkind
  obtain rfl : reference = some x := hreference
  obtain ⟨v, hv⟩ := Table.exists_putting_eq_error hx object
  have hpose : t.replayPose s.config.world ⟨.putIn, object, some x, pose⟩ =
      .error (.precondition v) := by
    rw [Table.replayPose_put (.inl rfl), hv]
    rfl
  refine refuses_of_perform (v := v) ?_ (spares_self s)
  rw [perform, replay, loaded_of_table ht]
  change s.settle id .replayed (t.replayPose s.config.world _ >>= _) = _
  rw [hpose]
  rfl

/-- A click on a closed container is refused where an object is to be put in something. -/
theorem exists_clickObject_eq_error (ht : s.table = some t) (hx : x ∈ t.relations.closed)
    {target : ObjectId} {before : Table R} {o : SceneObject R}
    (hphase : s.phase = .selectReference .putIn target before)
    (ho : t.scene.get? target = some o) : ∃ v, s.clickObject x = .error v := by
  obtain ⟨v, hv⟩ := Table.exists_putting_eq_error hx target
  refine ⟨v, ?_⟩
  rw [clickObject_reference x (.inl rfl) ht hphase (Table.require_eq_ok.2 ho), hv]
  rfl

/-- A click on a pixel is one on the object that it shows. -/
theorem click_of_hit {pixel : Point R} (ht : s.table = some t)
    (hhit : t.scene.hit? s.viewport pixel = some x) : s.click pixel = s.clickObject x := by
  have hask : s.hit? pixel = .ok (some x) := by
    rw [hit?, loaded_of_table ht]
    exact congrArg Except.ok hhit
  rw [click, hask]
  rfl

/-- Both kinds of click on a closed container are refused. -/
theorem Coherent.refuses_click (hs : s.Coherent) (ht : s.table = some t)
    (hx : x ∈ t.relations.closed) {target : ObjectId} {before : Table R}
    (hphase : s.phase = .selectReference .putIn target before)
    (hclicked : s.cells.clicked? op = some x) : s.Refuses op := by
  obtain ⟨o, ho⟩ : ∃ o, t.scene.get? target = some o := by
    have hsound := hs.sound
    rw [progress, hphase] at hsound
    obtain ⟨htable, -, o, ho⟩ := hsound
    obtain rfl := Option.some.inj (ht.symm.trans htable)
    exact ⟨o, ho⟩
  have hhit {pixel : Point R} (h : s.cells.hit? pixel = some x) :
      t.scene.hit? s.viewport pixel = some x := by
    rwa [Cells.hit?, scene_cells ht] at h
  cases op with
  | clickObject id =>
    obtain rfl : id = x := Option.some.inj hclicked
    obtain ⟨v, hv⟩ := exists_clickObject_eq_error ht hx hphase ho
    exact refuses_of_perform (perform_clickObject_of_error hv) (spares_self s)
  | click pixel =>
    obtain ⟨v, hv⟩ := exists_clickObject_eq_error ht hx hphase ho
    refine refuses_of_perform (v := v) ?_ (spares_self s)
    rw [Session.perform, click_of_hit ht (hhit hclicked), hv]
    rfl
  | pointerUp pixel =>
    obtain ⟨start, hpress, hclicked⟩ := Option.bind_eq_some_iff.1 hclicked
    split at hclicked
    next hslop =>
      -- the release forgets the press, and what it clicks on is found in the session after that
      have hgrip : s.phase.grip = none := by rw [hphase]; rfl
      have hreleased : s.release.progress = s.progress := progress_release (by rw [hgrip]; rfl)
      have ht' : s.release.table = some t := (congrArg Progress.table hreleased).trans ht
      have hphase' := (congrArg Progress.phase hreleased).trans hphase
      obtain ⟨v, hv⟩ := exists_clickObject_eq_error ht' hx hphase' ho
      have hclick : s.release.click pixel = .error v := by
        rw [click_of_hit ht' (by rw [viewport_release]; exact hhit hclicked), hv]
      have hup : s.pointerUp pixel = (s.release, .error v) := by
        change s.press = some start at hpress
        unfold pointerUp
        simp only [hgrip, hpress, hslop, hclick, if_true]
        rfl
      have hperform : s.perform (.pointerUp pixel) = (s.release, .failed (.precondition v)) := by
        rw [Session.perform, hup]
        rfl
      exact refuses_of_perform hperform
        ⟨congrArg Progress.table hreleased, congrArg Progress.trajectory hreleased⟩
    next => cases hclicked
  | _ => cases hclicked

/-- What would be put in a closed container is refused. -/
theorem Coherent.refuses_putting (hs : s.Coherent) (ht : s.table = some t)
    (hx : x ∈ t.relations.closed) (h : s.cells.container? op = some x) : s.Refuses op := by
  obtain ⟨a, rfl, hkind, hreference⟩ | ⟨target, before, hphase, hclicked⟩ := container?_cells h
  · exact refuses_replay ht hx hkind hreference
  · exact hs.refuses_click ht hx hphase hclicked

omit [Scalar R] in
theorem exists_table_of_mem_closed (h : x ∈ s.relations.closed) :
    ∃ t, s.table = some t ∧ x ∈ t.relations.closed := by
  cases htable : s.table with
  | none =>
    rw [relations, htable] at h
    cases h
  | some t =>
    rw [relations_of_table htable] at h
    exact ⟨t, rfl, h⟩

/-- Nothing comes to be in a closed container unless something is given up or a scene is shown. -/
theorem mem_inside_perform (hop : op ≠ .cancel) (hload : (s.perform op).2.loads = false)
    (hx : x ∈ s.relations.closed) {p : Placement}
    (hp : p ∈ (s.perform op).1.relations.inside) (hanchor : p.anchor = x) :
    p ∈ s.relations.inside := by
  obtain ⟨t, ht, hclosed⟩ := exists_table_of_mem_closed hx
  rw [relations_of_table ht]
  obtain hsame | ⟨u, a, hu, hcarried, hopen⟩ := (makes_perform s op).change.findsOpen_cases hload
    (s.seesThrough_perform hop)
  · rwa [relations_of_table (hsame.trans ht)] at hp
  · obtain rfl := Option.some.inj (ht.symm.trans hu)
    rw [relations_of_table hcarried] at hp
    exact hopen.mem_inside hclosed hp hanchor

end Session

/-! ## Runs -/

namespace Cells

variable [Scalar R]

/-- Nothing gets into closed containers. -/
structure Tight (c : Cells R) : Prop where
  /-- No operation puts anything in a container that is closed, unless it shows another scene or
  gives up and puts back what has been there before. -/
  gains : ∀ x ∈ c.relations.closed, ∀ op, op ≠ .cancel → c.shows op = false →
    ∀ p ∈ (c.after op).relations.inside, p.anchor = x → p ∈ c.relations.inside
  /-- The attempt is refused, and nothing has been moved, related or recorded. -/
  refused : ∀ x ∈ c.relations.closed, ∀ op, c.container? op = some x →
    (∃ v, c.answer op = .error (.refused (.precondition v))) ∧
      (c.after op).scene = c.scene ∧ (c.after op).relations = c.relations ∧
        (c.after op).trajectory = c.trajectory

/-- Whatever has been done, nothing gets into containers that are closed then. -/
theorem tight_run (config : Config R) (ops : List (Operation R)) :
    ((start config).run ops).Tight := by
  rw [run_start]
  have hs : ((Session.start config).run ops).Coherent := (Session.coherent_start config).run ops
  have hvalid : ((Session.start config).run ops).progress.Valid := Session.valid_run config ops
  generalize (Session.start config).run ops = s at hs hvalid
  refine ⟨fun x hx op hop hshows p hp hanchor ↦ ?_, fun x hx op h ↦ ?_⟩
  · rw [hs.shows_cells hvalid] at hshows
    rw [hs.after_cells hvalid] at hp
    exact Session.mem_inside_perform hop hshows hx hp hanchor
  · obtain ⟨t, ht, hclosed⟩ := Session.exists_table_of_mem_closed hx
    obtain ⟨v, hfailed, hspares⟩ := hs.refuses_putting ht hclosed h
    rw [hs.after_cells hvalid, hs.answer_cells hvalid, hfailed]
    exact ⟨⟨v, rfl⟩, hspares.cells⟩

/-- The lid has been put on the bowl, which was not recorded but stays so, and the cup does not get
in any more. -/
theorem tight_run_lid :
    let c := (start Kitchen.config).run [Kitchen.loadOpen, .choose .closeLid, .clickObject "lid",
      .choose .putIn, .clickObject "cup"]
    let click := .clickObject "bowl"
    ("bowl" ∈ c.relations.closed ∧ c.shows click = false ∧ c.container? click = some "bowl") ∧
      (∀ p ∈ (c.after click).relations.inside, p.anchor = "bowl" → p ∈ c.relations.inside) ∧
        ∃ v, c.answer click = .error (.refused (.precondition v)) := by
  intro c click
  have hclosed : "bowl" ∈ c.relations.closed := by decide +kernel
  have hshows : c.shows click = false := by decide +kernel
  have hattempt : c.container? click = some "bowl" := by decide +kernel
  have htight := tight_run Kitchen.config [Kitchen.loadOpen, .choose .closeLid, .clickObject "lid",
    .choose .putIn, .clickObject "cup"]
  exact ⟨⟨hclosed, hshows, hattempt⟩, htight.gains _ hclosed _ nofun hshows,
    (htight.refused _ hclosed _ hattempt).1⟩

end Cells

end Rearrangement
