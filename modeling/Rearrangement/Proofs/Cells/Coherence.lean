import Rearrangement.Proofs.Cells.Layout
import Rearrangement.Proofs.Session.Selection

/-!
# Cells that fit each other

Mode, stage and draft are written by many handlers, one after the other, and the scene changes under
them.  `Cells.Coherent` says what they have to do with each other whenever no handler is running,
and every run keeps it (`coherent_run`).  The relations are rewritten as objects are moved, and
always hold together (`relations_run`).

## Main statements

* `Session.Coherent.cells`: the cells of a coherent session fit each other.
* `coherent_run`: so do the cells after any run.
* `relations_run`: relations are valid whenever they are looked at, those shown and those from
  before the action in progress, and no handler is stopped by its own check of them.

The cells have no invariant of their own to be shown for each handler.  They follow a session
(`run_start`), whose phase says in one constructor what mode, stage and draft say in three cells;
what they have to do with each other is then read off the constructors, one lemma for each stage.
-/

namespace Rearrangement

variable {R : Type}

/-- No cell contradicts another one. -/
structure Cells.Coherent (c : Cells R) : Prop where
  mode : c.mode = none ↔ c.stage = .idle
  draft : c.draft.isSome ↔ c.stage ≠ .idle ∧ c.stage ≠ .selectTarget
  selecting : ∀ target, c.stage = .selectReference target →
    (c.mode = some .putIn ∨ c.mode = some .putOn ∨ c.mode = some .putNear) ∧ c.action = none
  manipulating : ∀ target reference grip, c.stage = .manipulate target reference grip →
    ((c.mode = some .putNear ∧ reference.isSome) ∨
        ((c.mode = some .move ∨ c.mode = some .rotate) ∧ reference = none)) ∧
      (grip.isSome → c.mode = some .putNear ∨ c.mode = some .move)
  /-- Either an object has been put in or on another one, or a container has been opened or closed
  by moving its lid. -/
  awaiting : ∀ target reference, c.stage = .awaitCommit target reference → ∃ a,
    c.action = some a ∧
      (((c.mode = some .putIn ∨ c.mode = some .putOn) ∧ a.object = target ∧
          reference.isSome ∧ a.reference = reference) ∨
        ((c.mode = some .openLid ∨ c.mode = some .closeLid) ∧ reference = none ∧
          a.reference = some target ∧ c.lids.lidFor? target = some a.object))
  selected : ∀ x, c.stage.target = some x ∨ c.stage.reference = some x →
    ∃ o, c.object? x = some o
  distinct : ∀ x, c.stage.target = some x → c.stage.reference ≠ some x
  /-- The action to record is of the chosen kind, and its object is where it says. -/
  action : ∀ a, c.action = some a → c.mode = some a.kind ∧
    ∃ o, c.object? a.object = some o ∧ o.pose = a.pose

/-! ## What a stage tells of the phase -/

namespace Phase

variable {p : Phase R} {target : ObjectId} {reference : Option ObjectId} {grip : Option (Grip R)}

theorem target_stage (p : Phase R) : p.stage.target = p.target := by cases p <;> rfl

theorem reference_stage (p : Phase R) : p.stage.reference = p.reference := by cases p <;> rfl

/-- No kind of action is chosen just in the first stage. -/
theorem mode_eq_none : p.mode = none ↔ p.stage = .idle := by
  cases p <;> simp [mode, stage]

/-- A table from before is kept just while an object is selected. -/
theorem isSome_step : p.step.isSome ↔ p.stage ≠ .idle ∧ p.stage ≠ .selectTarget := by
  cases p <;> simp [step, stage]

theorem exists_of_stage_selectReference (h : p.stage = .selectReference target) :
    ∃ kind before, p = .selectReference kind target before := by
  cases p with
  | selectReference kind target' before =>
    obtain rfl : target' = target := Stage.selectReference.inj h
    exact ⟨kind, before, rfl⟩
  | idle | selectTarget | manipulate | awaitCommit => cases h

theorem exists_of_stage_manipulate (h : p.stage = .manipulate target reference grip) :
    ∃ kind step, p = .manipulate kind target reference grip step := by
  cases p with
  | manipulate kind _ _ _ step =>
    cases h
    exact ⟨kind, step, rfl⟩
  | idle | selectTarget | selectReference | awaitCommit => cases h

theorem exists_of_stage_awaitCommit (h : p.stage = .awaitCommit target reference) :
    ∃ kind before a, p = .awaitCommit kind target reference before a := by
  cases p with
  | awaitCommit kind _ _ before a =>
    cases h
    exact ⟨kind, before, a, rfl⟩
  | idle | selectTarget | selectReference | manipulate => cases h

end Phase

variable [Scalar R]

/-! ## Cells of a session -/

section Sessions

variable {w : World R} {p : Progress R} {target : ObjectId} {reference : Option ObjectId}
  {grip : Option (Grip R)}

/-- Only three kinds of action ask for a second object, and none of them has done anything by
then. -/
theorem Progress.Sound.selecting (h : p.Sound w)
    (hstage : p.phase.stage = .selectReference target) :
    (p.phase.mode = some .putIn ∨ p.phase.mode = some .putOn ∨ p.phase.mode = some .putNear) ∧
      p.phase.action = none := by
  obtain ⟨table, phase, as⟩ := p
  obtain ⟨kind, before, rfl⟩ := Phase.exists_of_stage_selectReference hstage
  obtain ⟨-, hkind, -⟩ := h
  refine ⟨?_, rfl⟩
  cases kind <;> simp_all [Phase.mode, ActionKind.needsReference]

/-- An object that follows the pointer is dragged near another one, dragged freely or turned, and is
held only if it is dragged. -/
theorem Progress.Sound.manipulating (h : p.Sound w) (hchosen : p.Chosen)
    (hstage : p.phase.stage = .manipulate target reference grip) :
    ((p.phase.mode = some .putNear ∧ reference.isSome) ∨
        ((p.phase.mode = some .move ∨ p.phase.mode = some .rotate) ∧ reference = none)) ∧
      (grip.isSome → p.phase.mode = some .putNear ∨ p.phase.mode = some .move) := by
  obtain ⟨table, phase, as⟩ := p
  obtain ⟨kind, step, rfl⟩ := Phase.exists_of_stage_manipulate hstage
  obtain ⟨-, hfits⟩ := h
  obtain ⟨hreference, hgrip⟩ := hchosen
  constructor
  · by_cases hnear : kind = .putNear
    · obtain ⟨x, -, hx, -⟩ := hfits.related hnear
      exact .inl ⟨congrArg some hnear, Option.isSome_iff_exists.2 ⟨x, hx⟩⟩
    · refine .inr ⟨?_, hreference hnear⟩
      have hmanual := hfits.manual
      cases kind <;> simp_all [Phase.mode, ActionKind.isDrag]
  · intro hheld
    have hdrag := hgrip hheld
    cases kind <;> simp_all [Phase.mode, ActionKind.isDrag]

end Sessions

namespace Session

variable {s : Session R}

/-- An action that waits to be recorded has put one object in or on another one, or has moved the
lid of a container. -/
theorem Coherent.awaiting (hs : s.Coherent) (hchosen : s.progress.Chosen) {target : ObjectId}
    {reference : Option ObjectId} (hstage : s.phase.stage = .awaitCommit target reference) :
    ∃ a, s.phase.action = some a ∧
      (((s.phase.mode = some .putIn ∨ s.phase.mode = some .putOn) ∧ a.object = target ∧
          reference.isSome ∧ a.reference = reference) ∨
        ((s.phase.mode = some .openLid ∨ s.phase.mode = some .closeLid) ∧ reference = none ∧
          a.reference = some target ∧ s.lids.lidFor? target = some a.object)) := by
  have hsound := hs.sound
  rw [progress] at hsound hchosen
  obtain ⟨kind, before, a, hphase⟩ := Phase.exists_of_stage_awaitCommit hstage
  rw [hphase] at hsound hchosen ⊢
  obtain ⟨htable, hoffers⟩ := hsound
  obtain ⟨rfl, ⟨htoggle, rfl, htarget⟩ | ⟨hput, rfl, rfl⟩⟩ := hchosen
  · obtain ⟨x, container, hx, -, hlid⟩ := hoffers.exists_container htoggle
    obtain rfl := Option.some.inj (hx.symm.trans htarget)
    refine ⟨a, rfl, .inr ⟨?_, rfl, htarget, ?_⟩⟩
    · cases hkind : a.kind <;> simp_all [Phase.mode, ActionKind.isLidToggle]
    · rw [lids_of_table htable]
      exact hlid
  · obtain ⟨x, anchor, hx, -, -⟩ := hoffers.exists_anchor hput
    refine ⟨a, rfl, .inl ⟨hput.imp (congrArg some) (congrArg some), rfl, ?_, rfl⟩⟩
    exact Option.isSome_iff_exists.2 ⟨x, hx⟩

/-- The cells of a session fit each other. -/
theorem Coherent.cells (hs : s.Coherent) (hchosen : s.progress.Chosen) : s.cells.Coherent where
  mode := Phase.mode_eq_none
  draft := by
    change (s.phase.step.map Step.draft).isSome ↔ _
    rw [Option.isSome_map]
    exact Phase.isSome_step
  selecting target hstage := by
    rw [s.action_cells]
    exact hs.sound.selecting hstage
  manipulating target reference grip hstage := hs.sound.manipulating hchosen hstage
  awaiting target reference hstage := by
    rw [s.action_cells]
    exact hs.awaiting hchosen hstage
  selected x hx := by
    change s.phase.stage.target = some x ∨ s.phase.stage.reference = some x at hx
    rw [Phase.target_stage, Phase.reference_stage] at hx
    obtain ⟨t, o, ht, ho⟩ := hs.sound.exists_chosen hchosen hx
    exact ⟨o, object?_cells ht ho⟩
  distinct x hx := by
    change s.phase.stage.target = some x at hx
    change s.phase.stage.reference ≠ some x
    rw [Phase.target_stage] at hx
    rw [Phase.reference_stage]
    exact hs.sound.reference_ne hchosen hx
  action a ha := by
    rw [s.action_cells] at ha
    obtain ⟨t, o, ht, ho, hpose⟩ := hs.sound.exists_shown ha
    exact ⟨hs.sound.mode_eq hchosen ha, o, object?_cells ht ho, hpose⟩

end Session

namespace Cells

/-- Whatever is done, the cells fit each other afterwards. -/
theorem coherent_run (config : Config R) (ops : List (Operation R)) :
    ((start config).run ops).Coherent := by
  rw [run_start]
  exact ((Session.coherent_start config).run ops).cells (Session.chosen_run config ops)

/-- The cup is in the bowl, which is not recorded yet. -/
example :
    let c := (start Kitchen.config).run
      [Kitchen.loadOpen, .choose .putIn, .clickObject "cup", .clickObject "bowl"]
    c.mode = some .putIn ∧ c.stage = .awaitCommit "cup" (some "bowl") ∧
      c.action.map (·.reference) = some (some "bowl") := ⟨rfl, rfl, rfl⟩

end Cells

/-! ## Relations -/

namespace Session

variable {s : Session R}

/-- The relations that are shown hold together. -/
theorem Coherent.valid_relations (hs : s.Coherent) (hvalid : s.progress.Valid) :
    s.relations.Valid := by
  unfold relations
  cases htable : s.table with
  | none => exact RelationSet.valid_empty
  | some t => exact hs.sound.valid_table hvalid t htable

omit [Scalar R] in
/-- So do those from before the action in progress. -/
theorem valid_draft (hvalid : s.progress.Valid) {d : Draft R} (hd : d ∈ s.cells.draft) :
    d.relations.Valid := by
  obtain ⟨step, hstep, rfl⟩ := Option.map_eq_some_iff.1 hd
  refine hvalid step.before ?_
  rw [Progress.committed, progress, hstep]
  rfl

/-- No handler leaves relations behind that do not hold together. -/
theorem Coherent.answer_ne_broken (hs : s.Coherent) (hvalid : s.progress.Valid) (op : Operation R)
    (violation : InvariantViolation) : s.cells.answer op ≠ .error (.broken violation) := by
  rw [hs.answer_cells hvalid]
  cases (s.perform op).2 <;> exact nofun

end Session

namespace Cells

/-- Whatever is done, the relations hold together afterwards, those before the action in progress do
too, and no operation ever finds them broken. -/
theorem relations_run (config : Config R) (ops : List (Operation R)) :
    let c := (start config).run ops
    (c.relations.validate = .ok () ∧ c.relations.Valid) ∧
      (∀ d ∈ c.draft, d.relations.validate = .ok () ∧ d.relations.Valid) ∧
        ∀ op violation, c.answer op ≠ .error (.broken violation) := by
  rw [run_start]
  have hs : ((Session.start config).run ops).Coherent := (Session.coherent_start config).run ops
  have hvalid : ((Session.start config).run ops).progress.Valid := Session.valid_run config ops
  have hrelations := hs.valid_relations hvalid
  refine ⟨⟨RelationSet.validate_eq_ok.2 hrelations, hrelations⟩, ?_, hs.answer_ne_broken hvalid⟩
  intro d hd
  have hdraft := Session.valid_draft hvalid hd
  exact ⟨RelationSet.validate_eq_ok.2 hdraft, hdraft⟩

end Cells

end Rearrangement
