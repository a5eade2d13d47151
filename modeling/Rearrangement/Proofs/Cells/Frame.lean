import Rearrangement.Proofs.Cells.Layout
import Rearrangement.Proofs.Cells.Log
import Rearrangement.Proofs.Session.Frame

/-!
# What is left alone in the cells

Whatever is done, the objects of the scene shown stay what they are, a single operation moves at
most one of them, and so does the whole of an action in progress, however often it was previewed,
since each preview takes the place of the one before.  `Framed` puts this together, and every run
keeps it (`framed_run`).

## Main statements

* `Session.Coherent.sameBut_cells`: an operation moves at most one object.
* `Session.Coherent.setting_run`: runs keep the setting and the lids.
* `framed_run`: what any operation leaves alone, after any run.

An action in progress has updated the relations of its draft once, however often it has been
previewed.  Each preview updates the relations that are shown, and an update that is made again
changes nothing (`RelationSet.update_same`).
-/

namespace Rearrangement

variable {R : Type} [Scalar R]

namespace Session

variable {s : Session R} {op : Operation R}

/-- The cells show another scene just when the session does. -/
theorem Coherent.shows_cells (hs : s.Coherent) (hvalid : s.progress.Valid) :
    s.cells.shows op = (s.perform op).2.loads := by
  rw [Cells.shows, hs.answer_cells hvalid]
  cases (s.perform op).2 <;> rfl

omit [Scalar R] in
/-- Tables that differ by one object show scenes that do, with the same lids. -/
theorem sameBut_of_table {s' : Session R} {x : ObjectId}
    (h : Option.Rel (Table.SameBut x) s.table s'.table) :
    Option.Rel (Scene.SameBut x) s.cells.scene s'.cells.scene ∧ s'.cells.lids = s.cells.lids := by
  change Option.Rel _ (s.table.map (·.scene)) (s'.table.map (·.scene)) ∧
    (s'.table.map (·.lids)).getD _ = (s.table.map (·.lids)).getD _
  generalize s.table = t, s'.table = u at h
  cases h with
  | none => exact ⟨.none, rfl⟩
  | some hsame => exact ⟨.some hsame.scene, hsame.lids⟩

/-- Unless another scene is shown, an operation moves at most one object, and the lids stay. -/
theorem Coherent.sameBut_cells (hs : s.Coherent) (hvalid : s.progress.Valid)
    (hshows : s.cells.shows op = false) :
    ∃ x, Option.Rel (Scene.SameBut x) s.cells.scene (s.cells.after op).scene ∧
      (s.cells.after op).lids = s.cells.lids := by
  rw [hs.shows_cells hvalid] at hshows
  rw [hs.after_cells hvalid]
  obtain ⟨x, hrel⟩ := (makes_perform s op).change.sameBut hs.sound hshows
  exact ⟨x, sameBut_of_table hrel⟩

/-- As long as no other scene is shown, the scene keeps its setting, and the lids stay. -/
theorem Coherent.setting_run (hs : s.Coherent) (hvalid : s.progress.Valid)
    {ops : List (Operation R)} (h : s.cells.numbers Cells.shows ops = []) :
    (s.cells.run ops).scene.map (·.setting) = s.cells.scene.map (·.setting) ∧
      (s.cells.run ops).lids = s.cells.lids := by
  induction ops generalizing s with
  | nil => exact ⟨rfl, rfl⟩
  | cons op ops ih =>
    obtain ⟨hshows, hlater⟩ := Cells.numbers_shows_cons.1 h
    obtain ⟨x, hrel, hlids⟩ := hs.sameBut_cells hvalid hshows
    rw [hs.after_cells hvalid] at hlater hrel hlids
    have hvalid' : (s.perform op).1.progress.Valid :=
      (makes_perform s op).change.valid hs.sound hvalid
    obtain ⟨hsetting, hlids'⟩ := ih (hs.perform op) hvalid' hlater
    rw [Cells.run_cons, hs.after_cells hvalid]
    refine ⟨hsetting.trans ?_, hlids'.trans hlids⟩
    generalize s.cells.scene = scene, (s.perform op).1.cells.scene = scene' at hrel
    cases hrel with
    | none => rfl
    | some hsame => exact congrArg some hsame.setting

end Session

namespace Cells

/-- What stays as it is, whatever is done next. -/
structure Framed (c : Cells R) : Prop where
  /-- No two objects share an identifier. -/
  distinct : ∀ s ∈ c.scene, (s.objects.map (·.id)).Nodup
  /-- Up to the next answer that takes effect, nothing changes about the scene but where its objects
  are, and nothing about the lids. -/
  setting : ∀ later, c.numbers shows later = [] →
    (c.run later).scene.map (·.setting) = c.scene.map (·.setting) ∧ (c.run later).lids = c.lids
  /-- A single operation moves at most one object. -/
  moved : ∀ op, c.shows op = false → ∃ x, Option.Rel (Scene.SameBut x) c.scene (c.after op).scene
  /-- As long as there is no action to record, all is as it was before the one in progress. -/
  untouched : ∀ d ∈ c.draft, d.action = none → c.scene = some d.scene ∧ c.relations = d.relations
  /-- The action to record has moved its object only, and has updated the relations once. -/
  drafted : ∀ d ∈ c.draft, ∀ a ∈ d.action, (∃ s ∈ c.scene, d.scene.SameBut a.object s) ∧
    c.relations = d.relations.update c.lids a.object a.kind a.reference

/-- Whatever has been done, an operation leaves alone what it should. -/
theorem framed_run (config : Config R) (ops : List (Operation R)) :
    ((start config).run ops).Framed := by
  rw [run_start]
  have hs : ((Session.start config).run ops).Coherent := (Session.coherent_start config).run ops
  have hvalid : ((Session.start config).run ops).progress.Valid := Session.valid_run config ops
  have hdistinct := Session.distinct_run config ops
  generalize (Session.start config).run ops = s at hs hvalid hdistinct
  refine ⟨fun scene hscene ↦ ?_, fun later ↦ hs.setting_run hvalid, fun op hshows ↦ ?_,
    fun d hd hnone ↦ ?_, fun d hd a ha ↦ ?_⟩
  · obtain ⟨t, ht, rfl⟩ := Option.map_eq_some_iff.1 hscene
    exact hdistinct t ht
  · obtain ⟨x, hrel, -⟩ := hs.sameBut_cells hvalid hshows
    exact ⟨x, hrel⟩
  · obtain ⟨⟨before, action⟩, hstep, rfl⟩ := Option.map_eq_some_iff.1 hd
    obtain rfl : action = none := hnone
    have ht : s.table = some before := hs.sound.table_of_step hstep
    exact ⟨Session.scene_cells ht, Session.relations_of_table ht⟩
  · obtain ⟨⟨before, action⟩, hstep, rfl⟩ := Option.map_eq_some_iff.1 hd
    obtain rfl : action = some a := ha
    have ht : s.table = some (before.carry a) := hs.sound.table_of_step hstep
    refine ⟨⟨_, Session.scene_cells ht, before.scene.sameBut_setPose _ _⟩, ?_⟩
    have hlids : s.cells.lids = (before.carry a).lids := Session.lids_of_table ht
    rw [hlids]
    exact Session.relations_of_table ht

end Cells

end Rearrangement
