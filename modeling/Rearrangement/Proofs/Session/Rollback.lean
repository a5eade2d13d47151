import Rearrangement.Proofs.Binary64.Dot
import Rearrangement.Proofs.Binary64.Order
import Rearrangement.Proofs.Session.Sound

/-!
# What is certain, giving up, and recording

The committed table of a session is the one before the action in progress.  A quiet change keeps it
(`Quiet.committed`), so it changes only where something is settled; and giving up the action in
progress, whatever has been clicked and dragged since, goes back to it (`transaction_law`).

An action in progress has been carried out on the table piece by piece, by clicks and pulls of the
pointer.  Giving it up and replaying what would have been recorded comes to the same
(`finish_eq_replay`): replay computes the place of the object again, with its own checks and its own
way to keep inside the world rectangle, and finds the place of the preview.

The kitchen at the end of the first part is a small scene for runs that can be computed.

## Main statements

* `table_cancel`: giving up goes back to the committed table.
* `Coherent.committed_run`: a run that settles nothing keeps it.
* `transaction_law`: what any operation does to it, and giving up after any such run.
* `finish_eq_replay`: recording an action is giving it up and replaying it.
-/

namespace Rearrangement

/-! ## What is certain -/

open Scalar

variable {R : Type}

/-- The table before the action in progress, if there is one, and the table as it is otherwise. -/
def Progress.committed (p : Progress R) : Option (Table R) :=
  match p.phase.step with
  | some step => some step.before
  | none => p.table

namespace Session

theorem lids_of_table {s : Session R} {t : Table R} (h : s.table = some t) : s.lids = t.lids := by
  rw [lids, h]
  rfl

theorem relations_of_table {s : Session R} {t : Table R} (h : s.table = some t) :
    s.relations = t.relations := by
  rw [relations, h]
  rfl

/-- Giving up goes back to the committed table. -/
theorem table_cancel (s : Session R) : s.cancel.1.table = s.committed := by
  unfold cancel committed
  cases s.phase.step <;> rfl

/-- Giving up takes nothing out of the trajectory. -/
theorem trajectory_cancel (s : Session R) : s.cancel.1.trajectory = s.trajectory := by
  unfold cancel
  cases s.phase.step <;> rfl

end Session

variable [Scalar R]

/-! ### Changes -/

section Changes

variable {w : World R} {v : Viewport R} {p q : Progress R} {op : Operation R} {o : Outcome R}

/-- The table is the committed one with at most one action carried out. -/
theorem Progress.Sound.table_cases (h : p.Sound w) : p.table = p.committed ∨
    ∃ t a, p.phase.action = some a ∧ p.committed = some t ∧ p.table = some (t.carry a) := by
  unfold Progress.committed Phase.action
  cases hstep : p.phase.step with
  | none => exact .inl rfl
  | some step =>
    have htable := h.table_of_step hstep
    cases haction : step.action with
    | none =>
      rw [haction] at htable
      exact .inl htable
    | some a =>
      rw [haction] at htable
      exact .inr ⟨step.before, a, haction, rfl, htable⟩

/-- As long as there is no action to record, the table is the committed one. -/
theorem Progress.Sound.table_eq (h : p.Sound w) (haction : p.phase.action = none) :
    p.table = p.committed := by
  rcases h.table_cases with h | ⟨_, a, ha, -⟩
  · exact h
  · cases haction.symm.trans ha

/-- What is quiet leaves the committed table as it is. -/
theorem Quiet.committed (h : Quiet v p q) (hp : p.Sound w) : q.committed = p.committed := by
  cases h with
  | stay | aim | take | toggle | near | put | hold | letGo | follow => rfl
  | deselect _ haction => exact hp.table_eq haction
  | rollback hstep | abandon hstep =>
    unfold Progress.committed
    simp only [hstep]
    rfl

theorem Quiet.trajectory (h : Quiet v p q) : q.trajectory = p.trajectory := by
  cases h <;> rfl

/-- What settles nothing is quiet. -/
theorem Change.quiet_of_not_settles (h : Change w v op o p q) (hop : settles op o = false) :
    Quiet v p q := by
  cases h with
  | quiet hquiet => exact hquiet
  | commit _ ho => simp [settles, ho] at hop
  | replay _ _ ho => simp [settles, ho, Outcome.replays] at hop
  | choose hchoose _ => simp [settles, hchoose, Operation.chooses] at hop
  | install _ _ ho => simp [settles, ho] at hop

/-- Where something is settled, no action is in progress any more. -/
theorem Change.committed_of_settles (h : Change w v op o p q) (hop : settles op o) :
    q.committed = q.table := by
  cases h with
  | quiet _ hquiet => exact absurd hop (Bool.eq_false_iff.1 hquiet)
  | commit | replay | choose | install => rfl

/-- A new scene is the one of the bundle that the operation brings. -/
theorem Change.exists_bundle (h : Change w v op o p q) (ho : o.loads) :
    ∃ b t, op.bundle? = some b ∧ b.table = .ok t ∧ q = ⟨some t, .idle, []⟩ := by
  cases h with
  | quiet _ hquiet => simp [settles, ho] at hquiet
  | commit _ hcommits => cases o <;> simp_all [Outcome.commits, Outcome.loads]
  | replay _ _ hreplay => rw [hreplay] at ho; cases ho
  | choose _ heffects => rw [heffects] at ho; cases ho
  | install hbundle ht _ => exact ⟨_, _, hbundle, ht, rfl⟩

/-- Recording an action and choosing a kind of action leave the table as it is. -/
theorem Change.table_eq (h : Change w v op o p q) (hop : o.commits ∨ op.chooses) :
    q.table = p.table := by
  cases h with
  | quiet _ hquiet => rcases hop with hop | hop <;> simp [settles, hop] at hquiet
  | commit | choose => rfl
  | replay hreplay _ ho =>
    subst hreplay ho
    rcases hop with hop | hop <;> cases hop
  | install hbundle _ ho =>
    rcases hop with hop | hop
    · cases o <;> simp_all [Outcome.commits, Outcome.loads]
    · cases op <;> simp_all [Operation.chooses, Operation.bundle?]

end Changes

/-! ### Runs -/

namespace Session

/-- No operation of the run settles anything. -/
abbrev Unsettled (s : Session R) (ops : List (Operation R)) : Prop :=
  s.Along (fun s op ↦ settles op (s.perform op).2 = false) ops

/-- A run in which nothing is settled keeps what is certain and what is recorded. -/
theorem Coherent.committed_run {s : Session R} {ops : List (Operation R)} (hs : s.Coherent)
    (h : s.Unsettled ops) :
    (s.run ops).committed = s.committed ∧ (s.run ops).trajectory = s.trajectory := by
  refine (along_induction (Q := fun s' ↦ s'.Coherent ∧ s'.committed = s.committed ∧
    s'.trajectory = s.trajectory) (fun s' op hop h ↦ ?_) ⟨hs, rfl, rfl⟩ h).2
  obtain ⟨hs', hcommitted, htrajectory⟩ := h
  have hquiet : Quiet s'.viewport s'.progress (s'.perform op).1.progress :=
    (makes_perform s' op).change.quiet_of_not_settles hop
  exact ⟨hs'.perform op, (hquiet.committed hs'.sound).trans hcommitted,
    hquiet.trajectory.trans htrajectory⟩

/-- At any time, an operation that settles nothing keeps the committed table, and one that settles
something makes the table that it leaves the committed one; recording and choosing leave the table
as they find it.  Giving up after operations that settle nothing goes back to the committed table,
and the trajectory is not touched. -/
theorem transaction_law (config : Config R) (ops : List (Operation R)) :
    let s := (start config).run ops
    (∀ op, let s' := (s.perform op).1
      let o := (s.perform op).2
      (settles op o = false → s'.committed = s.committed) ∧
        (settles op o → s'.committed = s'.table) ∧
          (o.commits ∨ op.chooses → s'.committed = s.table)) ∧
      ∀ later, s.Unsettled later → (s.run later).cancel.1.table = s.committed ∧
        (s.run later).cancel.1.trajectory = s.trajectory := by
  intro s
  have hs : s.Coherent := (coherent_start config).run ops
  refine ⟨fun op ↦ ?_, fun later hlater ↦ ?_⟩
  · obtain ⟨hchange, -, -⟩ := makes_perform s op
    refine ⟨fun hop ↦ (hchange.quiet_of_not_settles hop).committed hs.sound,
      hchange.committed_of_settles, fun hop ↦ ?_⟩
    have hsettles : settles op (s.perform op).2 := by
      rcases hop with hop | hop <;> simp [settles, hop]
    exact (hchange.committed_of_settles hsettles).trans (hchange.table_eq hop)
  · obtain ⟨hcommitted, htrajectory⟩ := hs.committed_run hlater
    rw [table_cancel, trajectory_cancel]
    exact ⟨hcommitted, htrajectory⟩

end Session

/-! ### A kitchen

A small scene in doubles, on which the laws can be seen at work. -/

namespace Kitchen

def config : Config Float := ⟨⟨0, 1, 0, 1⟩, 50, 5⟩

def bowl : SceneObject Float := ⟨"bowl", "bowl", .container, ⟨0, 0, 1⟩, 0, ⟨2, 2, 2⟩, none⟩

def lid : SceneObject Float := ⟨"lid", "lid", .lid, ⟨4, 4, 1⟩, 30, ⟨2, 2, 2⟩, none⟩

def pot : SceneObject Float := ⟨"pot", "pot", .container, ⟨0, 5, 1⟩, 0, ⟨3, 3, 2⟩, none⟩

def cup : SceneObject Float := ⟨"cup", "cup", .item, ⟨8, 8, 1⟩, 0, ⟨1, 1, 2⟩, none⟩

/-- Has no extent on the table, so that the pointer takes hold of it wherever it is pressed. -/
def pea : SceneObject Float := ⟨"pea", "pea", .item, ⟨0, 0, 1⟩, 0, ⟨0, 0, 2⟩, none⟩

/-- Load a scene with the given objects, lids and relations. -/
def load (objects : List (SceneObject Float)) (lids : List (ObjectId × ObjectId))
    (relations : RelationSet) : Operation Float :=
  .load ⟨⟨"kitchen", objects⟩, "kitchen.png", .ofList lids, relations⟩

/-- Load the bowl, its lid and the cup, with nothing said of them. -/
def loadOpen : Operation Float := load [bowl, lid, cup] [("bowl", "lid")] .empty

/-- Load the same with the lid on the bowl, which is closed. -/
def loadClosed : Operation Float :=
  load [bowl, lid.withPose ⟨⟨0, 0, 3⟩, 30⟩, cup] [("bowl", "lid")] ⟨[], [], ["bowl"]⟩

/-- Load the bowl, a pot and one lid for both. -/
def loadShared : Operation Float := load [bowl, lid, pot] [("bowl", "lid"), ("pot", "lid")] .empty

/-- Load a bowl that is its own lid. -/
def loadOwn : Operation Float := load [bowl] [("bowl", "bowl")] .empty

/-- Load the pea and the cup. -/
def loadPea : Operation Float := load [pea, cup] [] .empty

end Kitchen

namespace Session

/-- The cup is put in the bowl, with clicks in between that are refused; giving up takes it out
again. -/
theorem transaction_law_put_in :
    let s := (start Kitchen.config).run [Kitchen.loadOpen, .choose .putIn]
    let later := [.clickObject "cup", .clickObject "cup", .resize 100 100, .clickObject "bowl",
      .clickObject "spoon", .pointerMove ⟨3, 3⟩]
    s.Unsettled later ∧ (s.run later).table ≠ s.table ∧ (s.run later).cancel.1.table = s.table := by
  intro s later
  have hlater : s.Unsettled later := by decide +kernel
  exact ⟨hlater, by decide +kernel, ((transaction_law _ _).2 later hlater).1⟩

end Session

/-! ## Recording is replaying -/

namespace Session

variable [LawfulScalar R]

/-- At any time, an action in progress can be given up and replayed as it would have been recorded,
and the session is the same as if it had been recorded.  The lids must not be their own containers,
and the object must have been at a finite place. -/
theorem finish_eq_replay (config : Config R) (hw : config.world.Ordered) (ops : List (Operation R))
    {a : Action R} (ha : ((start config).run ops).phase.action = some a)
    (hlids : ((start config).run ops).lids.Irreflexive)
    (hfinite : ∀ o, ((start config).run ops).cancel.1.object? a.object = some o →
      IsFinite o.position.x ∧ IsFinite o.position.y) :
    ∃ s' es, ((start config).run ops).finish = .ok (s', es) ∧
      ((start config).run ops).cancel.1.replay a = .ok (s', a) := by
  have hconfig : ((start config).run ops).config = config := run_config _ ops
  have hs : ((start config).run ops).Coherent := (coherent_start config).run ops
  have hheld : ((start config).run ops).progress.Held config.world := held_run config ops
  generalize (start config).run ops = s at *
  have hsound : s.progress.Sound config.world := hconfig ▸ hs.sound
  obtain ⟨before, hstep, htable, hoffers⟩ := hsound.exists_before ha
  have hwithin : before.Within config.world a := hheld.within hsound hstep
  have hcancel : s.cancel.1 = { s with table := some before, phase := .idle, press := none } := by
    unfold cancel
    rw [show s.phase.step = _ from hstep]
  rw [hcancel] at hfinite ⊢
  have hlids : before.lids.Irreflexive := lids_of_table htable ▸ hlids
  have hreplays : before.Replays config.world a a.pose :=
    hoffers.replays hwithin hw (hoffers.reference_ne hlids) hfinite
  rw [← hconfig] at hreplays
  have hreplay := replay_eq_ok (s := { s with table := some before, phase := .idle, press := none })
    rfl hreplays
  refine ⟨_, [.stepCommitted a, .selectionChanged, .renderNeeded], ?_, hreplay⟩
  unfold finish
  rw [ha, show s.table = _ from htable]

/-- The pea is dragged near the cup.  It starts outside the world rectangle, and stays outside along
the axis on which it is not moved. -/
theorem finish_eq_replay_drag :
    let s := (start ⟨⟨1, 2, 1, 2⟩, 50, 5⟩).run ([Kitchen.loadPea, .resize 200 200, .choose .putNear,
      .clickObject "pea", .clickObject "cup"] ++
        .pointerDown ⟨60, 60⟩ :: [.pointerMove ⟨70, 65⟩, .pointerMove ⟨95, 62⟩])
    let a : Action Float := ⟨.putNear, "pea", some "cup", ⟨⟨0, 1, 1⟩, 0⟩⟩
    s.phase.action = some a ∧
      ∃ s' es, s.finish = .ok (s', es) ∧ s.cancel.1.replay a = .ok (s', a) := by
  intro s a
  have hs := run_pointerDown (start ⟨⟨1, 2, 1, 2⟩, 50, 5⟩) [Kitchen.loadPea, .resize 200 200,
    .choose .putNear, .clickObject "pea", .clickObject "cup"]
    [.pointerMove ⟨70, 65⟩, .pointerMove ⟨95, 62⟩] ⟨60, 60⟩ rfl
    (show _ = some Kitchen.pea from rfl) rfl rfl rfl rfl rfl
  have haction : s.phase.action = some a := by
    rw [show s = _ from hs]
    decide +kernel
  refine ⟨haction, finish_eq_replay _ (by decide +kernel) _ haction ?_ ?_⟩
  · change s.lids.Irreflexive
    rw [show s = _ from hs]
    exact LidMap.irreflexive_of_forall (by decide +kernel)
  · intro o ho
    change s.cancel.1.object? a.object = some o at ho
    rw [show s = _ from hs] at ho
    obtain rfl : Kitchen.pea = o := Option.some.inj (Eq.trans (by decide +kernel) ho)
    exact ⟨by decide +kernel, by decide +kernel⟩

end Session

end Rearrangement
