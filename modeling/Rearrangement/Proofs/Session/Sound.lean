import Rearrangement.Proofs.Session.Change

/-!
# What holds in every session

`Progress.Sound` ties the phase of a session to its table: while an action is in progress the table
is the one before it with at most one action carried out, and that action was on offer there.
`Progress.Held` adds where the pointer may have dragged the object, which takes coordinates with
laws.  A quiet change keeps both (`Quiet.sound`, `Quiet.held`), the other changes leave no action in
progress, and so every run keeps them (`Coherent.run`, `held_run`).

## Main statements

* `Change.sound`, `Coherent.run`: the phase fits the table in every session.
* `Change.held`, `held_run`: drags lead only where the rules of drags allow it.
* `Progress.Sound.exists_before`: an action that could be recorded was on offer before it.
* `run_induction`, `along_induction`, `prefixes_iff_along`: from one operation to runs.

The three rules for runs are used wherever an invariant is shown.  The last one is for invariants
that are kept under a condition on the operation and lost otherwise: it turns what each step does
into an equivalence between a condition on states and one on the operations of a run.
-/

namespace Rearrangement

open Scalar

variable {R : Type} [Scalar R]

/-- An action in progress is the one that the phase says, and was on offer before it. -/
structure Step.Fits (w : World R) (kind : ActionKind) (target : ObjectId)
    (reference : Option ObjectId) (step : Step R) : Prop where
  manual : kind.isDrag ∨ kind = .rotate
  present : ∃ o, step.before.scene.get? target = some o
  related : kind = .putNear → ∃ x anchor, reference = some x ∧ x ≠ target ∧
    step.before.scene.get? x = some anchor
  offered : ∀ a ∈ step.action, a.kind = kind ∧ a.object = target ∧ a.reference = reference ∧
    step.before.Offers w a

namespace Progress

/-- The phase fits the table. -/
def Sound (w : World R) (p : Progress R) : Prop :=
  match p.phase with
  | .idle | .selectTarget _ => True
  | .selectReference kind target before =>
      p.table = some before ∧ kind.needsReference ∧ ∃ o, before.scene.get? target = some o
  | .manipulate kind target reference _ step =>
      p.table = some (step.before.preview step.action) ∧ step.Fits w kind target reference
  | .awaitCommit _ _ _ before a => p.table = some (before.carry a) ∧ before.Offers w a

/-- The pointer has led the object only where drags lead. -/
def Held (w : World R) (p : Progress R) : Prop :=
  match p.phase with
  | .manipulate kind target _ grip step => kind.isDrag →
      ∀ o, step.before.scene.get? target = some o →
        (∀ g ∈ grip, w.Reaches o.position.flat g.origin) ∧
          ∀ a ∈ step.action, w.Reaches o.position.flat a.pose.position.flat
  | .awaitCommit _ _ _ before a => before.Within w a
  | _ => True

end Progress

/-! ## Previews -/

section Previews

omit [Scalar R]

variable {t : Table R} {action : Option (Action R)} {a : Action R}

theorem Table.carry_preview (h : ∀ b ∈ action, b.kind = a.kind ∧ b.object = a.object ∧
    b.reference = a.reference) : (t.preview action).carry a = t.carry a := by
  cases action with
  | none => rfl
  | some b =>
    obtain ⟨hkind, hobject, hreference⟩ := h b rfl
    exact Table.carry_carry hkind hobject hreference

/-- The object of an action is where the preview puts it. -/
theorem Table.get?_preview {x : ObjectId} {o : SceneObject R} (h : ∀ b ∈ action, b.object = x)
    (ho : t.scene.get? x = some o) : (t.preview action).scene.get? x =
      some (action.elim o fun b ↦ o.withPose b.pose) := by
  cases action with
  | none => exact ho
  | some b =>
    obtain rfl : b.object = x := h b rfl
    exact Table.get?_place ho

end Previews

/-- How an object can follow the pointer: it is turned in place, or held and dragged. -/
theorem followed_cases {o : SceneObject R} {kind : ActionKind} {grip : Option (Grip R)}
    {pixel : Point R} {v : Viewport R} {p : Pose R}
    (h : Session.followed o kind grip pixel v = .ok (some p)) :
    (kind = .rotate ∧ p = ⟨o.position, o.turnToward pixel v⟩) ∨
      ∃ g ∈ grip, (kind = .putNear ∧ g.alongAxis? pixel v = some p.position.flat) ∨
        (kind = .move ∧ g.free? pixel v = some p.position.flat) := by
  unfold Session.followed at h
  split at h
  next => exact .inl ⟨rfl, (Option.some.inj (Except.ok.inj h)).symm⟩
  next g =>
    dsimp only at h
    split at h
    next q hq =>
      obtain rfl := Option.some.inj (Except.ok.inj h)
      exact .inr ⟨g, rfl, .inl ⟨rfl, hq⟩⟩
    next => cases h
  next g =>
    dsimp only at h
    split at h
    next q hq =>
      obtain rfl := Option.some.inj (Except.ok.inj h)
      exact .inr ⟨g, rfl, .inr ⟨rfl, hq⟩⟩
    next => cases h
  next => cases h

/-! ## Steps -/

section Steps

variable {w : World R} {v : Viewport R} {p q : Progress R} {op : Operation R} {o : Outcome R}

/-- The object of an action that follows the pointer, before the action and now. -/
theorem Step.Fits.exists_preview {kind : ActionKind} {target : ObjectId}
    {reference : Option ObjectId} {step : Step R} {o : SceneObject R}
    (h : step.Fits w kind target reference)
    (ho : (step.before.preview step.action).scene.get? target = some o) :
    ∃ o₀, step.before.scene.get? target = some o₀ ∧
      o = step.action.elim o₀ fun b ↦ o₀.withPose b.pose := by
  obtain ⟨o₀, ho₀⟩ := h.present
  have hobject : ∀ b ∈ step.action, b.object = target := fun b hb ↦ (h.offered b hb).2.1
  rw [Table.get?_preview hobject ho₀] at ho
  exact ⟨o₀, ho₀, (Option.some.inj ho).symm⟩

/-- A turned object stays where it is. -/
theorem Step.Fits.position_eq {target : ObjectId} {reference : Option ObjectId} {step : Step R}
    {o₀ : SceneObject R} (h : step.Fits w .rotate target reference)
    (ho₀ : step.before.scene.get? target = some o₀) :
    (step.action.elim o₀ fun b ↦ o₀.withPose b.pose).position = o₀.position := by
  cases haction : step.action with
  | none => rfl
  | some b =>
    obtain ⟨hkind, hobject, -, hoffers⟩ := h.offered b haction
    change b.pose.position = o₀.position
    cases hoffers with
    | rotate ho =>
      obtain rfl : _ = target := hobject
      rw [Option.some.inj (ho.symm.trans ho₀)]
    | toggle htoggle => subst hkind; cases htoggle
    | put hput => subst hkind; rcases hput with h | h <;> cases h
    | drag hdrag => subst hkind; cases hdrag

theorem Step.Fits.follow {kind : ActionKind} {target : ObjectId} {reference : Option ObjectId}
    {grip : Option (Grip R)} {step : Step R} {o : SceneObject R} {pixel : Point R} {p : Pose R}
    (hv : v.world = w) (h : step.Fits w kind target reference)
    (ho : (step.before.preview step.action).scene.get? target = some o)
    (hp : Session.followed o kind grip pixel v = .ok (some p)) :
    Step.Fits w kind target reference ⟨step.before, some ⟨kind, target, reference, p⟩⟩ := by
  refine ⟨h.manual, h.present, h.related, ?_⟩
  rintro a ⟨⟩
  refine ⟨rfl, rfl, rfl, ?_⟩
  obtain ⟨o₀, ho₀, rfl⟩ := h.exists_preview ho
  rcases followed_cases hp with ⟨rfl, rfl⟩ | ⟨g, -, hdrag⟩
  · rw [h.position_eq ho₀]
    exact .rotate ho₀
  · refine .drag ?_ ho₀ h.related ?_
    · rcases hdrag with ⟨rfl, -⟩ | ⟨rfl, -⟩ <;> rfl
    · intro hnear
      rcases hdrag with ⟨rfl, -⟩ | ⟨rfl, hfree⟩
      · exact absurd rfl hnear
      · exact hv ▸ World.ordered_of_clamp? hfree

/-- A quiet change keeps the step and the table in accord. -/
theorem Quiet.sound (h : Quiet v p q) (hv : v.world = w) (hp : p.Sound w) : q.Sound w := by
  cases h with
  | stay => exact hp
  | deselect | rollback | abandon => trivial
  | aim ho hkind => exact ⟨rfl, hkind, _, ho⟩
  | take ho hkind =>
    refine ⟨rfl, ?_, ⟨_, ho⟩, ?_, nofun⟩
    · rcases hkind with rfl | rfl
      · exact .inl rfl
      · exact .inr rfl
    · rintro rfl
      rcases hkind with h | h <;> cases h
  | toggle hkind htoggle => exact ⟨rfl, .toggle hkind htoggle⟩
  | near hne hanchor =>
    obtain ⟨htable, hkind, hpresent⟩ := hp
    obtain rfl := Option.some.inj htable
    exact ⟨rfl, .inl rfl, hpresent, fun _ ↦ ⟨_, _, rfl, Ne.symm hne, hanchor⟩, nofun⟩
  | @put t before _ kind target reference o anchor hnear hne ho hanchor hcheck a ha =>
    obtain ⟨htable, hkind, -⟩ := hp
    obtain rfl := Option.some.inj htable
    have hput : kind = .putIn ∨ kind = .putOn := by
      cases kind <;> simp_all [ActionKind.needsReference]
    subst ha
    exact ⟨rfl, .put hput ho (Ne.symm hne) hanchor hcheck⟩
  | hold hkind ho => exact ⟨hp.1, hp.2⟩
  | letGo => exact ⟨hp.1, hp.2⟩
  | follow ho hfollowed =>
    obtain ⟨htable, hfits⟩ := hp
    obtain rfl := Option.some.inj htable
    refine ⟨?_, hfits.follow hv ho hfollowed⟩
    refine congrArg some (Table.carry_preview fun b hb ↦ ?_)
    obtain ⟨hkind, hobject, hreference, -⟩ := hfits.offered b hb
    exact ⟨hkind, hobject, hreference⟩

/-- So does every change. -/
theorem Change.sound (h : Change w v op o p q) (hv : v.world = w) (hp : p.Sound w) :
    q.Sound w := by
  cases h with
  | quiet hquiet => exact hquiet.sound hv hp
  | commit | replay | choose | install => trivial

/-- A preview by dragging shows the object where drags lead. -/
theorem reaches_preview {action : Option (Action R)} {o : SceneObject R}
    (h : ∀ a ∈ action, w.Reaches o.position.flat a.pose.position.flat) :
    w.Reaches o.position.flat (action.elim o fun b ↦ o.withPose b.pose).position.flat := by
  cases action with
  | none => exact w.reaches_self _
  | some b => exact h b rfl

variable [LawfulScalar R]

theorem Quiet.held (h : Quiet v p q) (hv : v.world = w) (hp : p.Sound w) (hheld : p.Held w) :
    q.Held w := by
  cases h with
  | stay => exact hheld
  | deselect | rollback | abandon | aim => trivial
  | take | near => exact fun _ _ _ ↦ ⟨nofun, nofun⟩
  | toggle hkind =>
    intro hdrag
    exact absurd hdrag (Bool.eq_false_iff.1 (ActionKind.isDrag_of_isLidToggle hkind))
  | @put _ _ _ kind _ _ _ _ hnear _ _ _ _ a ha =>
    obtain ⟨-, hkind, -⟩ := hp
    subst ha
    intro hdrag
    exact absurd hdrag (by cases kind <;> simp_all [ActionKind.needsReference, ActionKind.isDrag])
  | hold hkind ho =>
    obtain ⟨htable, hfits⟩ := hp
    obtain rfl := Option.some.inj htable
    -- the new grip starts where the object is shown, which earlier pulls have led it to
    obtain ⟨o₀, ho₀, rfl⟩ := hfits.exists_preview ho
    intro hdrag o ho
    obtain rfl := Option.some.inj (ho₀.symm.trans ho)
    have hactions := (hheld hdrag o₀ ho₀).2
    refine ⟨?_, hactions⟩
    rintro g ⟨⟩
    exact reaches_preview hactions
  | letGo => exact fun hdrag o ho ↦ ⟨nofun, (hheld hdrag o ho).2⟩
  | follow ho hfollowed =>
    obtain ⟨htable, hfits⟩ := hp
    obtain rfl := Option.some.inj htable
    intro hdrag o₀ ho₀
    have hgrips := (hheld hdrag o₀ ho₀).1
    refine ⟨hgrips, ?_⟩
    rintro a ⟨⟩
    subst hv
    rcases followed_cases hfollowed with ⟨rfl, -⟩ | ⟨g, hg, ⟨-, hq⟩ | ⟨-, hq⟩⟩
    · cases hdrag
    · exact Grip.reaches_of_alongAxis? (hgrips g hg) hq
    · exact Grip.reaches_of_free? hq

/-- No change leads an object anywhere else. -/
theorem Change.held (h : Change w v op o p q) (hv : v.world = w) (hp : p.Sound w)
    (hheld : p.Held w) : q.Held w := by
  cases h with
  | quiet hquiet => exact hquiet.held hv hp hheld
  | commit | replay | choose | install => trivial

end Steps

/-! ## Actions to record -/

section Recording

variable {w : World R} {p : Progress R} {before : Table R} {a : Action R}

/-- While an action is in progress, the table is the one before it with the preview. -/
theorem Progress.Sound.table_of_step {step : Step R} (h : p.Sound w)
    (hstep : p.phase.step = some step) : p.table = some (step.before.preview step.action) := by
  obtain ⟨table, phase, as⟩ := p
  cases phase with
  | idle | selectTarget => cases hstep
  | selectReference | manipulate | awaitCommit =>
    obtain rfl := Option.some.inj hstep
    exact h.1

/-- An action that could be recorded has been carried out on the table before it, which offered
it. -/
theorem Progress.Sound.exists_before (h : p.Sound w) (ha : p.phase.action = some a) :
    ∃ before, p.phase.step = some ⟨before, some a⟩ ∧ p.table = some (before.carry a) ∧
      before.Offers w a := by
  obtain ⟨table, phase, as⟩ := p
  cases phase with
  | idle | selectTarget | selectReference => cases ha
  | manipulate kind target reference grip step =>
    obtain ⟨htable, hfits⟩ := h
    obtain ⟨before, action⟩ := step
    obtain rfl : action = some a := ha
    exact ⟨before, rfl, htable, (hfits.offered a rfl).2.2.2⟩
  | awaitCommit kind target reference before b =>
    obtain rfl : b = a := Option.some.inj ha
    exact ⟨before, rfl, h.1, h.2⟩

theorem Progress.Held.within (h : p.Held w) (hp : p.Sound w)
    (hstep : p.phase.step = some ⟨before, some a⟩) : before.Within w a := by
  obtain ⟨table, phase, as⟩ := p
  cases phase with
  | idle | selectTarget | selectReference => cases hstep
  | manipulate kind target reference grip step =>
    obtain rfl : step = ⟨before, some a⟩ := Option.some.inj hstep
    obtain ⟨rfl, rfl, -, -⟩ := hp.2.offered a rfl
    exact fun hdrag o ho ↦ (h hdrag o ho).2 a rfl
  | awaitCommit kind target reference before' b =>
    cases hstep
    exact h

end Recording

/-! ## Runs -/

namespace Session

/-- What each operation keeps is kept by every run. -/
theorem run_induction {P : Session R → Prop} {s : Session R}
    (hstep : ∀ s op, P s → P (s.perform op).1) (h : P s) (ops : List (Operation R)) :
    P (s.run ops) := by
  induction ops generalizing s with
  | nil => exact h
  | cons op ops ih => exact ih (hstep s op h)

/-- Each operation of the run, in the session in which it is performed, is as `P` says. -/
def Along (P : Session R → Operation R → Prop) (s : Session R) : List (Operation R) → Prop
  | [] => True
  | op :: ops => P s op ∧ (s.perform op).1.Along P ops

instance decidableAlong (P : Session R → Operation R → Prop) [∀ s op, Decidable (P s op)]
    (s : Session R) : (ops : List (Operation R)) → Decidable (s.Along P ops)
  | [] => inferInstanceAs (Decidable True)
  | _ :: ops => @instDecidableAnd _ _ _ (decidableAlong P _ ops)

theorem along_of_forall {P : Operation R → Prop} {s : Session R} {ops : List (Operation R)}
    (h : ∀ op ∈ ops, P op) : s.Along (fun _ op ↦ P op) ops := by
  induction ops generalizing s with
  | nil => trivial
  | cons op ops ih =>
    obtain ⟨hop, hops⟩ := List.forall_mem_cons.1 h
    exact ⟨hop, ih hops⟩

/-- What the operations of a run keep is kept by the run. -/
theorem along_induction {P : Session R → Operation R → Prop} {Q : Session R → Prop} {s : Session R}
    {ops : List (Operation R)} (hstep : ∀ s op, P s op → Q s → Q (s.perform op).1) (h : Q s)
    (hops : s.Along P ops) : Q (s.run ops) := by
  induction ops generalizing s with
  | nil => exact h
  | cons op ops ih => exact ih (hstep s op hops.1 h) hops.2

/-- A condition on the states of a run against one on its operations.  Suppose that `I` entails `Q`,
and that an operation which finds `I` leads to `Q` exactly if it is as `P` says, and then to `I`
again.  Then `Q` holds throughout a run exactly if all its operations are as `P` says. -/
theorem prefixes_iff_along {E P : Session R → Operation R → Prop} {I Q : Session R → Prop}
    (hnow : ∀ s, I s → Q s)
    (hstep : ∀ s op, I s → E s op → (Q (s.perform op).1 ↔ P s op))
    (hkeep : ∀ s op, I s → E s op → Q (s.perform op).1 → I (s.perform op).1)
    {s : Session R} (h : I s) {ops : List (Operation R)} (hops : s.Along E ops) :
    (∀ ops', ops' <+: ops → Q (s.run ops')) ↔ s.Along P ops := by
  induction ops generalizing s with
  | nil =>
    refine iff_of_true (fun ops' hops' ↦ ?_) trivial
    obtain rfl := List.prefix_nil.1 hops'
    exact hnow s h
  | cons op ops ih =>
    obtain ⟨hop, hops⟩ := hops
    have hnext (hq : Q (s.perform op).1) := ih (hkeep s op h hop hq) hops
    constructor
    · intro hall
      have hq : Q (s.perform op).1 := hall [op] (List.prefix_append [op] ops)
      refine ⟨(hstep s op h hop).1 hq, (hnext hq).1 fun ops' hops' ↦ ?_⟩
      exact hall (op :: ops') (List.cons_prefix_cons.2 ⟨rfl, hops'⟩)
    · rintro ⟨hp, hlater⟩ ops' hops'
      rcases List.prefix_cons_iff.1 hops' with rfl | ⟨rest, rfl, hrest⟩
      · exact hnow s h
      · exact (hnext ((hstep s op h hop).2 hp)).2 hlater rest hrest

theorem run_config (s : Session R) (ops : List (Operation R)) : (s.run ops).config = s.config :=
  run_induction (P := fun s' ↦ s'.config = s.config)
    (fun s' op h ↦ (makes_perform s' op).config.trans h) rfl ops

/-- The session shows the world that it was configured with, and its phase fits its table. -/
structure Coherent (s : Session R) : Prop where
  world : s.viewport.world = s.config.world
  sound : s.progress.Sound s.config.world

/-- One operation keeps a session coherent. -/
theorem Coherent.perform {s : Session R} (h : s.Coherent) (op : Operation R) :
    (s.perform op).1.Coherent := by
  obtain ⟨hchange, hconfig, hworld⟩ := makes_perform s op
  refine ⟨by rw [hworld, hconfig, h.world], ?_⟩
  rw [hconfig]
  exact hchange.sound h.world h.sound

theorem coherent_start (config : Config R) : (start config).Coherent := ⟨rfl, trivial⟩

/-- So does a run. -/
theorem Coherent.run {s : Session R} (h : s.Coherent) (ops : List (Operation R)) :
    (s.run ops).Coherent := run_induction (fun _ op h ↦ h.perform op) h ops

/-- After any operations, the pointer has led the object only where drags lead. -/
theorem held_run [LawfulScalar R] (config : Config R) (ops : List (Operation R)) :
    ((start config).run ops).progress.Held config.world := by
  have hstep (s : Session R) (op : Operation R)
      (h : s.Coherent ∧ s.progress.Held s.config.world) :
      (s.perform op).1.Coherent ∧ (s.perform op).1.progress.Held (s.perform op).1.config.world := by
    obtain ⟨hs, hheld⟩ := h
    obtain ⟨hchange, hconfig, -⟩ := makes_perform s op
    refine ⟨hs.perform op, ?_⟩
    rw [hconfig]
    exact hchange.held hs.world hs.sound hheld
  have hrun := (run_induction hstep ⟨coherent_start config, trivial⟩ ops).2
  rwa [run_config] at hrun

end Session

end Rearrangement
