import Rearrangement.Proofs.Binary64.Dot
import Rearrangement.Proofs.Session.Rollback
import Rearrangement.Proofs.Table.Offer

/-!
# Replaying what was done

What a session saves are the recorded actions and the relations as they are.  The relations follow
from all that has been carried out on the table for good, and that is more than what is recorded:
choosing another kind of action, or replaying one, drops the action in progress and leaves its
preview on the table, and a preview may be there when the session is saved.  The journal of a run
(`journal`) lists all of it, and says of each action whether it was recorded.

Replaying the journal on the loaded scene goes through and ends with the saved relations
(`replayAll_journal`), and so does replaying the saved actions if no preview has been left on the
table.  The proof follows a second session that replays the journal.  Its table and the committed
one are alike (`Table.Alike`): they have the same objects, lids and relations, wherever the objects
are.  Whether replay goes through does not depend on any pose (`Alike.exists_replays`), and an
action keeps tables alike whatever pose it records (`Alike.carry`).
-/

namespace Rearrangement

/-! ## Tables that differ in poses -/

open Scalar

variable {R : Type}

namespace Table

/-- The tables have the same objects, lids and relations. -/
structure Alike (t u : Table R) : Prop where
  models : t.scene.models = u.scene.models
  lids : t.lids = u.lids
  relations : t.relations = u.relations

variable {t u : Table R} {kind : ActionKind} {a b : Action R} {x : ObjectId} {o : SceneObject R}

theorem Alike.refl (t : Table R) : t.Alike t := ⟨rfl, rfl, rfl⟩

/-- Tables that differ in poses only differ so after like actions. -/
theorem Alike.carry (h : t.Alike u) (hkind : a.kind = b.kind) (hobject : a.object = b.object)
    (hreference : a.reference = b.reference) : (t.carry a).Alike (u.carry b) := by
  refine ⟨?_, h.lids, ?_⟩
  · calc
      (t.carry a).scene.models = t.scene.models := Scene.models_setPose
      _ = u.scene.models := h.models
      _ = (u.carry b).scene.models := Scene.models_setPose.symm
  · change t.relations.update t.lids a.object a.kind a.reference =
      u.relations.update u.lids b.object b.kind b.reference
    rw [h.relations, h.lids, hkind, hobject, hreference]

theorem Alike.exists_object (h : t.Alike u) (ho : t.scene.get? x = some o) :
    ∃ o', u.scene.get? x = some o' ∧ o'.id = o.id ∧ o'.category = o.category := by
  obtain ⟨o', ho', hmodel⟩ := Scene.get?_of_models_eq h.models ho
  simp only [SceneObject.model, Prod.mk.injEq] at hmodel
  exact ⟨o', ho', hmodel.1, hmodel.2.2.1⟩

/-- On them the same references are accepted. -/
theorem Alike.checkReference {o' : SceneObject R} (h : t.Alike u) (hid : o'.id = o.id)
    (hcategory : o'.category = o.category) :
    u.checkReference kind o' = t.checkReference kind o := by
  cases kind <;> simp only [Table.checkReference, hid, hcategory, h.relations]

variable [Scalar R]

/-- And the same lids can be opened and closed. -/
theorem Alike.exists_lidToggle {container lid : ObjectId} {p : Pose R} (h : t.Alike u)
    (htoggle : t.lidToggle kind container = .ok (lid, p)) :
    ∃ q, u.lidToggle kind container = .ok (lid, q) := by
  obtain ⟨c, l, hc, hlid, hl, hclosed, -⟩ := lidToggle_eq_ok.1 htoggle
  obtain ⟨c', hc', -⟩ := h.exists_object hc
  obtain ⟨l', hl', -⟩ := h.exists_object hl
  rw [h.lids] at hlid
  rw [h.relations] at hclosed
  exact ⟨_, lidToggle_eq_ok.2 ⟨c', l', hc', hlid, hl', hclosed, rfl⟩⟩

/-- What can be replayed on one of two tables that are alike can be replayed on the other, with any
recorded pose. -/
theorem Alike.exists_replays {w : World R} {p : Pose R} (h : t.Alike u) (ha : t.Replays w a p)
    (hkind : a.kind = b.kind) (hobject : a.object = b.object)
    (hreference : a.reference = b.reference) : ∃ q, u.Replays w b q := by
  obtain ⟨kind, object, reference, pose⟩ := a
  obtain ⟨_, _, _, pose'⟩ := b
  obtain ⟨rfl, rfl, rfl⟩ : kind = _ ∧ object = _ ∧ reference = _ := ⟨hkind, hobject, hreference⟩
  cases ha with
  | toggle htoggles ho hcontainer hne htoggle =>
    obtain ⟨o', ho', -⟩ := h.exists_object ho
    obtain ⟨q, hq⟩ := h.exists_lidToggle htoggle
    exact ⟨q, .toggle htoggles ho' hcontainer hne hq⟩
  | put hput ho hanchored hne hanchor hcheck =>
    obtain ⟨o', ho', -⟩ := h.exists_object ho
    obtain ⟨anchor', hanchor', hid, hcategory⟩ := h.exists_object hanchor
    rw [← h.checkReference hid hcategory] at hcheck
    exact ⟨_, .put hput ho' hanchored hne hanchor' hcheck⟩
  | drag hdrag ho hnear hq =>
    obtain ⟨o', ho', -⟩ := h.exists_object ho
    have hw : w.Ordered := by
      obtain ⟨inside, hinside, -⟩ := Option.map_eq_some_iff.1 hq
      exact World.ordered_of_clamp? hinside
    obtain ⟨inside, hinside⟩ := hw.clamp?_isSome pose'.position.flat
    refine ⟨_, .drag hdrag ho' (fun hkind ↦ ?_) (by rw [World.clampMoved?, hinside]; rfl)⟩
    obtain ⟨y, anchor, hy, hne, hanchor⟩ := hnear hkind
    obtain ⟨anchor', hanchor', -⟩ := h.exists_object hanchor
    exact ⟨y, anchor', hy, hne, hanchor'⟩
  | rotate hrotate ho =>
    obtain ⟨o', ho', -⟩ := h.exists_object ho
    exact ⟨_, .rotate hrotate ho'⟩

end Table

/-! ## The journal -/

/-! ### Journals -/

/-- An action that has been carried out for good. -/
structure Entry (R : Type) where
  action : Action R
  recorded : Bool

/-- The bundle whose scene is shown, and all that has been carried out on it for good. -/
structure Journal (R : Type) where
  bundle : Option (SceneBundle R)
  entries : List (Entry R)

namespace Journal

def empty : Journal R := ⟨none, []⟩

def actions (j : Journal R) : List (Action R) := j.entries.map (·.action)

/-- The recorded actions. -/
def recorded (j : Journal R) : List (Action R) :=
  (j.entries.filter (·.recorded)).map (·.action)

/-- Enter an action, if there is one. -/
def enter (j : Journal R) (a : Option (Action R)) (recorded : Bool) : Journal R :=
  { j with entries := j.entries ++ (a.map (⟨·, recorded⟩)).toList }

variable {j : Journal R} {a : Option (Action R)} {b : Bool}

@[simp] theorem actions_enter : (j.enter a b).actions = j.actions ++ a.toList := by
  cases a <;> simp [actions, enter]

@[simp] theorem recorded_enter :
    (j.enter a b).recorded = j.recorded ++ if b then a.toList else [] := by
  cases a <;> cases b <;> simp [recorded, enter]

end Journal

/-- The action that has been replayed. -/
def Outcome.replayed? : Outcome R → Option (Action R)
  | replayed a => some a
  | _ => none

section

variable [Scalar R]

/-- The journal after an operation: the action in progress is entered where something is settled,
and after it the one that has been replayed. -/
def Journal.extend (j : Journal R) (s : Session R) (op : Operation R) : Journal R :=
  if (s.perform op).2.loads then ⟨op.bundle?, []⟩
  else if settles op (s.perform op).2 then
    (j.enter s.phase.action (s.perform op).2.commits).enter (s.perform op).2.replayed? true
  else j

section

variable {j : Journal R} {s : Session R} {op : Operation R}

theorem Journal.extend_of_loads (h : (s.perform op).2.loads) :
    j.extend s op = ⟨op.bundle?, []⟩ := if_pos h

theorem Journal.extend_of_not_settles (hloads : (s.perform op).2.loads = false)
    (hsettles : settles op (s.perform op).2 = false) : j.extend s op = j := by
  rw [extend, hloads, hsettles]
  rfl

/-- What settles enters the action in progress and the one replayed. -/
theorem Journal.extend_of_settles (hloads : (s.perform op).2.loads = false)
    (hsettles : settles op (s.perform op).2) : j.extend s op =
      (j.enter s.phase.action (s.perform op).2.commits).enter (s.perform op).2.replayed? true := by
  rw [extend, hloads, if_pos hsettles]
  rfl

end

/-- The journal after a run. -/
def Journal.extendAll (j : Journal R) (s : Session R) : List (Operation R) → Journal R
  | [] => j
  | op :: ops => (j.extend s op).extendAll (s.perform op).1 ops

namespace Session

/-- The journal of a run from the start, with the action that is in progress at its end. -/
def journal (config : Config R) (ops : List (Operation R)) : Journal R :=
  (Journal.empty.extendAll (start config) ops).enter ((start config).run ops).phase.action false

end Session

end

/-! ### Sequences of replays -/

namespace Session

variable [Scalar R]

/-- All actions are replayed, one after the other. -/
inductive Accepts : Session R → List (Action R) → Session R → Prop
  | nil {s : Session R} : Accepts s [] s
  | cons {s r q : Session R} {a b : Action R} {as : List (Action R)} (ha : s.replay a = .ok (r, b))
      (has : Accepts r as q) : Accepts s (a :: as) q

variable {s r q : Session R} {as bs : List (Action R)}

/-- Actions are accepted one list after the other. -/
theorem Accepts.append (h : s.Accepts as r) (h' : r.Accepts bs q) : s.Accepts (as ++ bs) q := by
  induction h with
  | nil => exact h'
  | cons ha _ ih => exact .cons ha (ih h')

theorem Accepts.replayAll (h : s.Accepts as r) : s.replayAll as = (r, none) := by
  unfold Session.replayAll
  generalize 1 = n
  induction h generalizing n with
  | nil => rfl
  | cons ha _ ih =>
    rw [replayAll.go, ha]
    exact ih (n + 1)

omit [Scalar R] in
/-- Loading a bundle that forms a scene shows it. -/
theorem load_eq {b : SceneBundle R} {t : Table R} (s : Session R) (ht : b.table = .ok t) :
    s.load b = ({ s with latestLoad := s.latestLoad + 1 }.install t, .ok .loaded) := by
  have hcomplete : (s.beginLoad b.scene.taskId).1.completeLoad (s.beginLoad b.scene.taskId).2
      (.ok b) = .ok ((s.beginLoad b.scene.taskId).1.install t, .loaded) := by
    unfold completeLoad
    rw [if_neg (by simp [beginLoad])]
    exact bind_eq_ok.2 ⟨b, rfl, bind_eq_ok.2 ⟨t, ht, rfl⟩⟩
  change (s.beginLoad b.scene.taskId).1.deliver (s.beginLoad b.scene.taskId).2 (.ok b) = _
  rw [deliver, hcomplete]
  rfl

/-- Replaying the actions on the scene of the bundle leads to a table like `t`. -/
def Reproduces (config : Config R) (b : SceneBundle R) (as : List (Action R)) (t : Table R) :
    Prop :=
  ∃ fresh r u, (start config).load b = (fresh, .ok .loaded) ∧ fresh.Accepts as r ∧
    r.config = config ∧ r.table = some u ∧ t.Alike u

variable {config : Config R} {b : SceneBundle R} {t : Table R} {a : Action R} {p : Pose R}

theorem reproduces_nil (ht : b.table = .ok t) : Reproduces config b [] t :=
  ⟨_, _, t, load_eq _ ht, .nil, rfl, rfl, .refl t⟩

/-- A table reproduced from a record is so with one more action that replays on it. -/
theorem Reproduces.snoc (h : Reproduces config b as t) (ha : t.Replays config.world a p) :
    Reproduces config b (as ++ [a]) (t.carry a) := by
  obtain ⟨fresh, r, u, hload, haccepts, hconfig, hu, halike⟩ := h
  obtain ⟨q, hq⟩ := halike.exists_replays ha rfl rfl rfl
  rw [← hconfig] at hq
  exact ⟨fresh, _, _, hload, haccepts.append (.cons (replay_eq_ok hu hq) .nil), hconfig, rfl,
    halike.carry rfl rfl rfl⟩

end Session

/-! ### What an operation does to the journal -/

/-- What replay asks of an action that nobody asked before: that a lid is moved with respect to
another object, and that there is a world rectangle to put an object near another in. -/
def Action.Replayable [Scalar R] (w : World R) (a : Action R) : Prop :=
  (a.kind.isLidToggle → a.reference ≠ some a.object) ∧ (a.kind = .putNear → w.Ordered)

instance [Scalar R] (w : World R) (a : Action R) : Decidable (a.Replayable w) :=
  inferInstanceAs (Decidable (_ ∧ _))

section Changes

variable [Scalar R] {w : World R} {v : Viewport R} {p q : Progress R} {op : Operation R}
  {o : Outcome R}

/-- What is settled besides showing another scene: the action in progress is recorded or left
behind, and another one may be replayed after it. -/
theorem Change.settled (h : Change w v op o p q) (hop : settles op o) (hload : o.loads = false) :
    (o.replayed? = none ∧ q.table = p.table ∧
      q.trajectory = p.trajectory ++ if o.commits then p.phase.action.toList else []) ∨
    ∃ t a x, o.replayed? = some a ∧ o.commits = false ∧ p.table = some t ∧ t.Replays w a x ∧
      q.table = some (t.carry a) ∧ q.trajectory = p.trajectory ++ [a] := by
  cases h with
  | quiet _ hquiet => simp [hquiet] at hop
  | commit ha ho =>
    refine .inl ⟨?_, rfl, by rw [if_pos ho, ha]; rfl⟩
    cases o <;> first | rfl | cases ho
  | choose _ ho =>
    subst ho
    exact .inl ⟨rfl, rfl, (List.append_nil _).symm⟩
  | @replay t _ _ a x _ hreplays ho =>
    subst ho
    obtain ⟨y, hy⟩ := (Table.Alike.refl t).exists_replays (b := { a with pose := x }) hreplays
      rfl rfl rfl
    exact .inr ⟨t, _, y, rfl, rfl, rfl, hy, rfl, rfl⟩
  | install _ _ ho => rw [hload] at ho; cases ho

/-- Without a scene there is none after any operation that does not show one. -/
theorem Change.unloaded (h : Change w v op o p q) (hload : o.loads = false) (hp : p.Sound w)
    (htable : p.table = none) (hcommitted : p.committed = none) :
    q.table = none ∧ q.committed = none := by
  cases h with
  | quiet hquiet =>
    refine ⟨?_, (hquiet.committed hp).trans hcommitted⟩
    cases hquiet with
    | stay | deselect | letGo | abandon => exact htable
    | aim | take | toggle | near | put | hold | follow => cases htable
    | rollback hstep => simp [Progress.committed, hstep] at hcommitted
  | commit | choose => exact ⟨htable, htable⟩
  | replay => cases htable
  | install _ _ ho => rw [hload] at ho; cases ho

end Changes

namespace Session

variable [Scalar R] {config : Config R} {s : Session R} {j : Journal R} {b : SceneBundle R}
  {c : Table R}

/-- The action in progress, if there is one, can be replayed on the committed table, and that leads
to the table as it is. -/
theorem Coherent.reproduces_table {as : List (Action R)} (hs : s.Coherent)
    (hconfig : s.config = config) (hcommitted : s.committed = some c)
    (h : Reproduces config b as c)
    (hreplayable : ∀ a ∈ s.phase.action, a.Replayable config.world) :
    ∃ t, s.table = some t ∧ Reproduces config b (as ++ s.phase.action.toList) t := by
  cases haction : s.phase.action with
  | none =>
    have htable : s.table = s.committed := hs.sound.table_eq haction
    refine ⟨c, htable.trans hcommitted, ?_⟩
    simpa using h
  | some a =>
    obtain ⟨before, hstep, htable, hoffers⟩ := hs.sound.exists_before haction
    have hbefore : s.committed = some before := by
      rw [committed, show s.phase.step = _ from hstep]
    obtain rfl : before = c := Option.some.inj (hbefore.symm.trans hcommitted)
    obtain ⟨hown, hordered⟩ := hreplayable a haction
    rw [hconfig] at hoffers
    obtain ⟨p, hp⟩ := hoffers.exists_replays hordered hown
    exact ⟨before.carry a, htable, h.snoc hp⟩

/-- The journal tells all there is to know of the committed table. -/
structure Documents (config : Config R) (j : Journal R) (s : Session R) : Prop where
  same : s.config = config
  coherent : s.Coherent
  trajectory : s.trajectory = j.recorded
  unloaded : j.bundle = none → s.table = none ∧ s.committed = none
  reproduces : ∀ b ∈ j.bundle, (∀ a ∈ j.actions, a.Replayable config.world) →
    ∃ c, s.committed = some c ∧ Reproduces config b j.actions c

theorem documents_start (config : Config R) : Documents config .empty (start config) :=
  ⟨rfl, coherent_start config, rfl, fun _ ↦ ⟨rfl, rfl⟩, nofun⟩

/-- The step: the journal documents the session after any operation. -/
theorem Documents.extend (h : Documents config j s) (op : Operation R) :
    Documents config (j.extend s op) (s.perform op).1 := by
  obtain ⟨hchange, hsame, -⟩ := makes_perform s op
  have hconfig : (s.perform op).1.config = config := hsame.trans h.same
  have hcoherent : (s.perform op).1.Coherent := h.coherent.perform op
  cases hloads : (s.perform op).2.loads with
  | true =>
    -- another scene is shown, and the journal starts again
    obtain ⟨b, t, hbundle, ht, hprogress⟩ := hchange.exists_bundle hloads
    have hcommitted : (s.perform op).1.committed = some t := congrArg Progress.committed hprogress
    rw [Journal.extend_of_loads hloads, hbundle]
    refine ⟨hconfig, hcoherent, congrArg Progress.trajectory hprogress, nofun, ?_⟩
    rintro b ⟨⟩ -
    exact ⟨t, hcommitted, reproduces_nil ht⟩
  | false =>
    have hunloaded (hbundle : j.bundle = none) :
        (s.perform op).1.table = none ∧ (s.perform op).1.committed = none := by
      obtain ⟨htable, hcommitted⟩ := h.unloaded hbundle
      exact hchange.unloaded hloads h.coherent.sound htable hcommitted
    cases hsettles : settles op (s.perform op).2 with
    | false =>
      -- nothing happens to the journal, nor to what is committed
      have hquiet := hchange.quiet_of_not_settles hsettles
      have hcommitted : (s.perform op).1.committed = s.committed :=
        hquiet.committed h.coherent.sound
      rw [Journal.extend_of_not_settles hloads hsettles]
      refine ⟨hconfig, hcoherent, hquiet.trajectory.trans h.trajectory, hunloaded, ?_⟩
      rw [hcommitted]
      exact h.reproduces
    | true =>
      have hcommitted : (s.perform op).1.committed = (s.perform op).1.table :=
        hchange.committed_of_settles hsettles
      rw [Journal.extend_of_settles hloads hsettles]
      have hsettled := hchange.settled hsettles hloads
      refine ⟨hconfig, hcoherent, ?_, hunloaded, ?_⟩
      · rw [Journal.recorded_enter, Journal.recorded_enter, ← h.trajectory]
        rcases hsettled with ⟨hreplayed, -, htrajectory⟩ |
          ⟨t, a, x, hreplayed, hcommits, -, -, -, htrajectory⟩
        · rw [hreplayed, if_pos rfl, Option.toList_none, List.append_nil]
          exact htrajectory
        · rw [hreplayed, hcommits, if_pos rfl, if_neg Bool.false_ne_true, List.append_nil]
          exact htrajectory
      · intro b hb hreplayable
        rw [Journal.actions_enter, Journal.actions_enter] at hreplayable ⊢
        obtain ⟨c, hc, hreproduces⟩ := h.reproduces b hb fun a ha ↦
          hreplayable a (by simp [ha])
        obtain ⟨t, ht, hreproduces⟩ := h.coherent.reproduces_table h.same hc hreproduces
          fun a ha ↦ hreplayable a (by simp [Option.mem_def.1 ha])
        rw [hcommitted]
        rcases hsettled with ⟨hreplayed, htable, -⟩ |
          ⟨t', a, x, hreplayed, -, ht', hreplays, htable, -⟩
        · rw [hreplayed, Option.toList_none, List.append_nil]
          exact ⟨t, htable.trans ht, hreproduces⟩
        · obtain rfl : t' = t := Option.some.inj (ht'.symm.trans ht)
          rw [hreplayed, Option.toList_some]
          exact ⟨t'.carry a, htable, hreproduces.snoc (h.same ▸ hreplays)⟩

/-- And so after a run. -/
theorem Documents.extendAll (h : Documents config j s) (ops : List (Operation R)) :
    Documents config (j.extendAll s ops) (s.run ops) := by
  induction ops generalizing j s with
  | nil => exact h
  | cons op ops ih => exact ih (h.extend op)

omit [Scalar R] in
theorem saveRequest_eq_ok {r : SaveRequest R} (h : s.saveRequest = .ok r) :
    ∃ t, s.table = some t ∧ r.payload = ⟨s.trajectory, t.relations⟩ := by
  unfold saveRequest at h
  split at h
  next t a as htable htrajectory =>
    obtain rfl := Except.ok.inj h
    exact ⟨t, htable, by rw [htrajectory]⟩
  next => cases h

/-- Whatever has been done, if there is something to save then the bundle that is shown can be
loaded into a new session, replaying the journal goes through there, and it ends with the saved
relations.  The saved actions are the recorded ones of the journal.  So if nothing has been carried
out for good without being recorded, replaying the saved actions goes through and ends with the
saved relations. -/
theorem replayAll_journal (config : Config R) (ops : List (Operation R)) {r : SaveRequest R}
    (hsave : ((start config).run ops).saveRequest = .ok r)
    (hreplayable : ∀ a ∈ (journal config ops).actions, a.Replayable config.world) :
    ∃ b fresh f, (journal config ops).bundle = some b ∧
      (start config).load b = (fresh, .ok .loaded) ∧
      fresh.replayAll (journal config ops).actions = (f, none) ∧
      f.relations = r.payload.relations ∧ r.payload.actions = (journal config ops).recorded ∧
      ((∀ e ∈ (journal config ops).entries, e.recorded) →
        fresh.replayAll r.payload.actions = (f, none)) := by
  have hdocuments := (documents_start config).extendAll ops
  obtain ⟨t, htable, hpayload⟩ := saveRequest_eq_ok hsave
  unfold journal at hreplayable ⊢
  generalize Journal.empty.extendAll (start config) ops = j at *
  generalize (start config).run ops = s at *
  rw [Journal.actions_enter] at hreplayable
  -- there is something to save, so there is a table, and a bundle that it comes from
  obtain ⟨b, hb⟩ : ∃ b, j.bundle = some b := by
    refine Option.ne_none_iff_exists'.1 fun hbundle ↦ ?_
    have hnone := (hdocuments.unloaded hbundle).1
    rw [htable] at hnone
    cases hnone
  obtain ⟨c, hc, hreproduces⟩ := hdocuments.reproduces b hb fun a ha ↦
    hreplayable a (List.mem_append_left _ ha)
  -- so far this is the committed table; the action in progress comes last
  obtain ⟨t', ht', hreproduces⟩ := hdocuments.coherent.reproduces_table hdocuments.same hc
    hreproduces fun a ha ↦ hreplayable a (by simp [Option.mem_def.1 ha])
  obtain rfl : t = t' := Option.some.inj (htable.symm.trans ht')
  obtain ⟨fresh, f, u, hload, haccepts, -, hu, halike⟩ := hreproduces
  have hrecorded : r.payload.actions = (j.enter s.phase.action false).recorded := by
    rw [hpayload, Journal.recorded_enter, if_neg Bool.false_ne_true, List.append_nil]
    exact hdocuments.trajectory
  have hreplayAll : fresh.replayAll (j.enter s.phase.action false).actions = (f, none) := by
    rw [Journal.actions_enter]
    exact haccepts.replayAll
  refine ⟨b, fresh, f, hb, hload, hreplayAll, ?_, hrecorded, fun hall ↦ ?_⟩
  · rw [relations, hu, hpayload, halike.relations]
    rfl
  · rw [hrecorded, Journal.recorded, List.filter_eq_self.2 hall]
    exact hreplayAll

/-- The cup is left in the bowl without being recorded, and the bowl is closed.  The journal has
both actions, and replaying it ends with the saved relations. -/
theorem replayAll_journal_left :
    let ops : List (Operation Float) := [Kitchen.loadOpen, .choose .putIn, .clickObject "cup",
      .clickObject "bowl", .choose .closeLid, .clickObject "lid", .finish]
    ∃ (r : SaveRequest Float) (fresh f : Session Float),
      ((start Kitchen.config).run ops).saveRequest = .ok r ∧
        fresh.replayAll (journal Kitchen.config ops).actions = (f, none) ∧
          f.relations = r.payload.relations ∧
            (journal Kitchen.config ops).actions.map (·.kind) = [.putIn, .closeLid] := by
  intro ops
  obtain ⟨r, hsave⟩ : ∃ r, ((start Kitchen.config).run ops).saveRequest = .ok r := ⟨_, rfl⟩
  obtain ⟨b, fresh, f, -, -, hreplay, hrelations, -⟩ :=
    replayAll_journal Kitchen.config ops hsave (by decide +kernel)
  exact ⟨r, fresh, f, hsave, hreplay, hrelations, by decide +kernel⟩

/-- Load, carry out the operations, and replay on the loaded scene what there is to save then:
whether that goes through and ends with the saved relations. -/
def reproducesSave (config : Config R) (load : Operation R) (later : List (Operation R)) : Bool :=
  match ((start config).run (load :: later)).saveRequest with
  | .error _ => true
  | .ok r =>
      let (f, failure) := ((start config).perform load).1.replayAll r.payload.actions
      failure.isNone && decide (f.relations = r.payload.relations)

/-- Saved actions need not lead to the saved relations, or be replayed at all: if a preview is left
behind or still there, if a recorded action follows from a preview that was left behind, if a lid is
its own container, and if the bounds of the world rectangle are not in order. -/
theorem not_reproducesSave :
    reproducesSave Kitchen.config Kitchen.loadOpen [.choose .putIn, .clickObject "cup",
      .clickObject "bowl", .choose .closeLid, .clickObject "lid", .finish] = false ∧
    reproducesSave Kitchen.config Kitchen.loadOpen [.choose .closeLid, .clickObject "lid",
      .finish, .choose .openLid, .clickObject "bowl"] = false ∧
    reproducesSave Kitchen.config Kitchen.loadOpen [.choose .closeLid, .clickObject "lid",
      .choose .openLid, .clickObject "bowl", .finish] = false ∧
    reproducesSave Kitchen.config Kitchen.loadOwn [.choose .closeLid, .clickObject "bowl",
      .finish] = false ∧
    reproducesSave ⟨⟨1, 0, 1, 0⟩, 50, 5⟩ Kitchen.loadPea ([.choose .putNear, .clickObject "pea",
      .clickObject "cup"] ++
        .pointerDown ⟨60, 60⟩ :: [.pointerMove ⟨60, 60⟩, .finish]) = false := by
  refine ⟨by decide +kernel, by decide +kernel, by decide +kernel, by decide +kernel, ?_⟩
  have hrun : (start ⟨⟨1, 0, 1, 0⟩, 50, 5⟩).run (Kitchen.loadPea :: ([.choose .putNear,
      .clickObject "pea", .clickObject "cup"] ++ .pointerDown ⟨60, 60⟩ ::
        [.pointerMove ⟨60, 60⟩, .finish])) = _ :=
    run_pointerDown _ [Kitchen.loadPea, .choose .putNear, .clickObject "pea", .clickObject "cup"]
      _ _ rfl (show _ = some Kitchen.pea from rfl) rfl rfl rfl rfl rfl
  rw [reproducesSave, hrun]
  decide +kernel

end Session

end Rearrangement
