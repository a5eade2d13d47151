import Rearrangement.Proofs.Session.Sound

/-!
# What is chosen

The objects that a phase displays are those of its action: `Progress.Chosen` says which is which,
and every run keeps it (`chosen_run`).  They are on the table (`exists_chosen`), also under the
preview, which shows the object of the action where the action puts it (`exists_shown`).

## Main statements

* `Progress.Sound.exists_chosen`: what is chosen is on the table.
* `Progress.Sound.reference_ne`: it is not related to itself.
* `Progress.Sound.exists_shown`: an action to record is about an object that is shown where the
  action puts it.
* `chosen_run`: in every session, what is chosen fits the kind of action.

`Progress.Sound` knows that the action was on offer, and what is on offer is about objects of the
table; `Progress.Chosen` ties the objects of the phase to those of the action.  Only the two
together say anything about what is displayed.
-/

namespace Rearrangement

open Scalar

variable {R : Type}

/-- The action is about these: either it opens or closes the target by moving its lid, or it puts
the target in or on the reference. -/
def Action.About (a : Action R) (target : ObjectId) (reference : Option ObjectId) : Prop :=
  (a.kind.isLidToggle ∧ reference = none ∧ a.reference = some target) ∨
    ((a.kind = .putIn ∨ a.kind = .putOn) ∧ reference = a.reference ∧ target = a.object)

/-- What is chosen fits the kind of action, and the action to record is about it. -/
def Progress.Chosen (p : Progress R) : Prop :=
  match p.phase with
  | .manipulate kind _ reference grip _ =>
      (kind ≠ .putNear → reference = none) ∧ (grip.isSome → kind.isDrag)
  | .awaitCommit kind target reference _ a => a.kind = kind ∧ a.About target reference
  | _ => True

/-- A preview moves objects and leaves all of them there. -/
theorem Table.exists_preview {t : Table R} {action : Option (Action R)} {x : ObjectId}
    (h : ∃ o, t.scene.get? x = some o) : ∃ o, (t.preview action).scene.get? x = some o := by
  cases action with
  | none => exact h
  | some a =>
    obtain ⟨o, ho⟩ := h
    change ∃ o', (t.scene.setPose a.object a.pose).get? x = some o'
    rw [Scene.get?_setPose, ho]
    split
    · exact ⟨o.withPose a.pose, rfl⟩
    · exact ⟨o, rfl⟩

variable [Scalar R]

/-! ## The objects of an action -/

section Offers

variable {t : Table R} {w : World R} {a : Action R}

/-- An action on offer that puts an object in or on another one. -/
theorem Table.Offers.exists_anchor (h : t.Offers w a) (hkind : a.kind = .putIn ∨ a.kind = .putOn) :
    ∃ x anchor, a.reference = some x ∧ x ≠ a.object ∧ t.scene.get? x = some anchor := by
  cases h with
  | put _ _ hne hanchor => exact ⟨_, _, rfl, hne, hanchor⟩
  | toggle htoggle => rcases hkind with rfl | rfl <;> cases htoggle
  | drag hdrag => rcases hkind with rfl | rfl <;> cases hdrag
  | rotate => rcases hkind with h | h <;> cases h

/-- An action on offer that opens or closes a container. -/
theorem Table.Offers.exists_container (h : t.Offers w a) (hkind : a.kind.isLidToggle) :
    ∃ x container, a.reference = some x ∧ t.scene.get? x = some container ∧
      t.lids.lidFor? x = some a.object := by
  cases h with
  | toggle _ htoggle =>
    obtain ⟨container, _, hcontainer, hlid, -⟩ := lidToggle_eq_ok.1 htoggle
    exact ⟨_, container, rfl, hcontainer, hlid⟩
  | put hput => rcases hput with rfl | rfl <;> cases hkind
  | drag hdrag => exact absurd hdrag (Bool.eq_false_iff.1 (ActionKind.isDrag_of_isLidToggle hkind))
  | rotate => cases hkind

variable {target x : ObjectId} {reference : Option ObjectId}

/-- What an action on offer is about is there. -/
theorem Table.Offers.exists_about (h : t.Offers w a) (habout : a.About target reference)
    (hx : some target = some x ∨ reference = some x) : ∃ o, t.scene.get? x = some o := by
  rcases habout with ⟨htoggle, rfl, htarget⟩ | ⟨hput, rfl, rfl⟩
  · obtain ⟨y, container, hy, hcontainer, -⟩ := h.exists_container htoggle
    obtain rfl := Option.some.inj (hy.symm.trans htarget)
    rcases hx with hx | hx <;> cases hx
    exact ⟨container, hcontainer⟩
  · rcases hx with hx | hx
    · obtain rfl := Option.some.inj hx
      exact h.exists_object
    · obtain ⟨y, anchor, hy, -, hanchor⟩ := h.exists_anchor hput
      obtain rfl := Option.some.inj (hy.symm.trans hx)
      exact ⟨anchor, hanchor⟩

theorem Table.Offers.reference_ne_target (h : t.Offers w a) (habout : a.About target reference) :
    reference ≠ some target := by
  rcases habout with ⟨-, rfl, -⟩ | ⟨hput, rfl, rfl⟩
  · exact nofun
  · obtain ⟨y, -, hy, hne, -⟩ := h.exists_anchor hput
    rw [hy]
    exact fun hself ↦ hne (Option.some.inj hself)

end Offers

section Fits

variable {w : World R} {kind : ActionKind} {target x : ObjectId} {reference : Option ObjectId}
  {step : Step R}

/-- What an object that follows the pointer is related to is there. -/
theorem Step.Fits.exists_selected (h : step.Fits w kind target reference)
    (hreference : kind ≠ .putNear → reference = none)
    (hx : some target = some x ∨ reference = some x) :
    ∃ o, step.before.scene.get? x = some o := by
  rcases hx with hx | rfl
  · obtain rfl := Option.some.inj hx
    exact h.present
  · by_cases hnear : kind = .putNear
    · obtain ⟨y, anchor, hy, -, hanchor⟩ := h.related hnear
      obtain rfl := Option.some.inj hy
      exact ⟨anchor, hanchor⟩
    · cases hreference hnear

theorem Step.Fits.reference_ne_target (h : step.Fits w kind target reference)
    (hreference : kind ≠ .putNear → reference = none) : reference ≠ some target := by
  by_cases hnear : kind = .putNear
  · obtain ⟨y, -, rfl, hne, -⟩ := h.related hnear
    exact fun hself ↦ hne (Option.some.inj hself)
  · rw [hreference hnear]
    exact nofun

end Fits

/-! ## The table under the preview -/

section Shown

variable {w : World R} {p : Progress R} {x : ObjectId} {a : Action R}

/-- What is chosen is on the table. -/
theorem Progress.Sound.exists_chosen (h : p.Sound w) (hchosen : p.Chosen)
    (hx : p.phase.target = some x ∨ p.phase.reference = some x) :
    ∃ t o, p.table = some t ∧ t.scene.get? x = some o := by
  obtain ⟨table, phase, as⟩ := p
  cases phase with
  | idle | selectTarget => rcases hx with hx | hx <;> cases hx
  | selectReference kind target before =>
    obtain ⟨htable, -, o, ho⟩ := h
    rcases hx with hx | hx <;> cases hx
    exact ⟨before, o, htable, ho⟩
  | manipulate kind target reference grip step =>
    obtain ⟨htable, hfits⟩ := h
    obtain ⟨o, ho⟩ := Table.exists_preview (hfits.exists_selected hchosen.1 hx)
    exact ⟨_, o, htable, ho⟩
  | awaitCommit kind target reference before b =>
    obtain ⟨htable, hoffers⟩ := h
    have hshown : ∃ o, (before.preview (some b)).scene.get? x = some o :=
      Table.exists_preview (hoffers.exists_about hchosen.2 hx)
    exact ⟨before.carry b, hshown.imp fun _ ho ↦ ⟨htable, ho⟩⟩

/-- Nothing is put in, on or near itself. -/
theorem Progress.Sound.reference_ne (h : p.Sound w) (hchosen : p.Chosen)
    (hx : p.phase.target = some x) : p.phase.reference ≠ some x := by
  rw [← hx]
  obtain ⟨table, phase, as⟩ := p
  cases phase with
  | idle | selectTarget => cases hx
  | selectReference => exact nofun
  | manipulate kind target reference grip step => exact h.2.reference_ne_target hchosen.1
  | awaitCommit kind target reference before b => exact h.2.reference_ne_target hchosen.2

/-- The action to record is of the chosen kind. -/
theorem Progress.Sound.mode_eq (h : p.Sound w) (hchosen : p.Chosen)
    (ha : p.phase.action = some a) : p.phase.mode = some a.kind := by
  obtain ⟨table, phase, as⟩ := p
  cases phase with
  | idle | selectTarget | selectReference => cases ha
  | manipulate kind target reference grip step => exact congrArg some (h.2.offered a ha).1.symm
  | awaitCommit kind target reference before b =>
    obtain rfl : b = a := Option.some.inj ha
    exact congrArg some hchosen.1.symm

/-- The action to record is about an object that is shown where the action puts it. -/
theorem Progress.Sound.exists_shown (h : p.Sound w) (ha : p.phase.action = some a) :
    ∃ t o, p.table = some t ∧ t.scene.get? a.object = some o ∧ o.pose = a.pose := by
  obtain ⟨before, -, htable, hoffers⟩ := h.exists_before ha
  obtain ⟨o, ho⟩ := hoffers.exists_object
  exact ⟨before.carry a, o.withPose a.pose, htable, Table.get?_place ho, rfl⟩

end Shown

/-! ## Changes -/

section Changes

variable {w : World R} {v : Viewport R} {p q : Progress R} {op : Operation R} {o : Outcome R}

/-- Quiet changes keep the choice proper. -/
theorem Quiet.chosen (h : Quiet v p q) (hp : p.Sound w) (hchosen : p.Chosen) : q.Chosen := by
  cases h with
  | stay => exact hchosen
  | deselect | aim | rollback | abandon => trivial
  | take => exact ⟨fun _ ↦ rfl, nofun⟩
  | toggle hkind => exact ⟨rfl, .inl ⟨hkind, rfl, rfl⟩⟩
  | near => exact ⟨fun hkind ↦ absurd rfl hkind, nofun⟩
  | @put _ _ _ kind _ _ _ _ hnear _ _ _ _ a ha =>
    obtain ⟨-, hkind, -⟩ := hp
    subst ha
    refine ⟨rfl, .inr ⟨?_, rfl, rfl⟩⟩
    cases kind <;> simp_all [ActionKind.needsReference]
  | hold hkind => exact ⟨hchosen.1, fun _ ↦ hkind⟩
  | letGo => exact ⟨hchosen.1, nofun⟩
  | follow => exact hchosen

/-- So do all others. -/
theorem Change.chosen (h : Change w v op o p q) (hp : p.Sound w) (hchosen : p.Chosen) :
    q.Chosen := by
  cases h with
  | quiet hquiet => exact hquiet.chosen hp hchosen
  | commit | replay | choose | install => trivial

end Changes

/-! ## Runs -/

namespace Session

/-- What is chosen is proper after any operations. -/
theorem chosen_run (config : Config R) (ops : List (Operation R)) :
    ((start config).run ops).progress.Chosen := by
  have hstep (s : Session R) (op : Operation R) (h : s.Coherent ∧ s.progress.Chosen) :
      (s.perform op).1.Coherent ∧ (s.perform op).1.progress.Chosen :=
    ⟨h.1.perform op, (makes_perform s op).change.chosen h.1.sound h.2⟩
  exact (run_induction hstep ⟨coherent_start config, trivial⟩ ops).2

end Session

end Rearrangement
