import Rearrangement.Proofs.Relations.Update
import Rearrangement.Proofs.Session.Rollback

/-!
# Relations of a session hold together

A bundle forms a scene if no two of its objects share an identifier and its relations, once lids on
their containers are read as closing them, hold together (`SceneBundle.table_eq_ok`).  From there on
relations change by actions only, so those of the committed table hold together through every run
(`valid_run`), and those that are shown do too (`Progress.Sound.valid_table`).

## Main statements

* `SceneBundle.table_eq_ok`: which bundles form a table, and which table.
* `Change.valid`: no change makes relations invalid.
* `valid_run`: they are valid in every session.

An update keeps relations valid whatever is moved (`RelationSet.Valid.update`), so there is no
condition on the operations.
-/

namespace Rearrangement

variable {R : Type}

/-! ## Bundles -/

/-- The bundle forms a scene. -/
structure SceneBundle.WellFormed (b : SceneBundle R) : Prop where
  objects : (b.scene.objects.map (·.id)).Nodup
  relations : (b.relations.normalize b.lids).Valid

/-- A bundle forms a table exactly if it is well formed, and then this one. -/
theorem SceneBundle.table_eq_ok {b : SceneBundle R} {t : Table R} : b.table = .ok t ↔
    b.WellFormed ∧ t = ⟨⟨b.scene.taskId, b.image, b.scene.objects⟩, b.lids,
      b.relations.normalize b.lids⟩ := by
  unfold SceneBundle.table Scene.ofObjects?
  constructor
  · intro h
    split at h
    next => cases h
    next scene hscene =>
      split at hscene
      next => cases hscene
      next hobjects =>
        obtain rfl := Except.ok.inj hscene
        dsimp only at h
        split at h
        next => cases h
        next hrelations =>
          obtain rfl := Except.ok.inj h
          exact ⟨⟨firstRepeated?_eq_none.1 hobjects, RelationSet.validate_eq_ok.1 hrelations⟩, rfl⟩
  · rintro ⟨⟨hobjects, hrelations⟩, rfl⟩
    simp only [firstRepeated?_eq_none.2 hobjects, RelationSet.validate_eq_ok.2 hrelations]
    rfl

/-! ## Changes -/

theorem Table.valid_carry {t : Table R} (a : Action R) (h : t.relations.Valid) :
    (t.carry a).relations.Valid := h.update

/-- The relations that are certain hold together. -/
def Progress.Valid (p : Progress R) : Prop := ∀ t ∈ p.committed, t.relations.Valid

section Changes

variable [Scalar R] {w : World R} {v : Viewport R} {p q : Progress R} {op : Operation R}
  {o : Outcome R}

theorem Progress.Sound.valid_table (hp : p.Sound w) (h : p.Valid) :
    ∀ t ∈ p.table, t.relations.Valid := by
  intro t ht
  rcases hp.table_cases with hcommitted | ⟨before, a, -, hbefore, htable⟩
  · exact h t (hcommitted ▸ ht)
  · obtain rfl := Option.some.inj (htable.symm.trans ht)
    exact before.valid_carry a (h before hbefore)

/-- Every change keeps the relations valid, those of the table and those to go back to. -/
theorem Change.valid (h : Change w v op o p q) (hp : p.Sound w) (hvalid : p.Valid) : q.Valid := by
  have htable : ∀ t ∈ p.table, t.relations.Valid := hp.valid_table hvalid
  cases h with
  | quiet hquiet =>
    unfold Progress.Valid
    rw [hquiet.committed hp]
    exact hvalid
  | commit | choose => exact htable
  | @replay t _ _ a pose =>
    rintro _ ⟨⟩
    exact t.valid_carry _ (htable t rfl)
  | @install _ b t _ ht =>
    rintro _ ⟨⟩
    obtain ⟨hb, rfl⟩ := SceneBundle.table_eq_ok.1 ht
    exact hb.relations

end Changes

/-! ## Runs -/

namespace Session

variable [Scalar R]

/-- Relations are valid after any operations. -/
theorem valid_run (config : Config R) (ops : List (Operation R)) :
    ((start config).run ops).progress.Valid := by
  have hstep (s : Session R) (op : Operation R) (h : s.Coherent ∧ s.progress.Valid) :
      (s.perform op).1.Coherent ∧ (s.perform op).1.progress.Valid :=
    ⟨h.1.perform op, (makes_perform s op).change.valid h.1.sound h.2⟩
  exact (run_induction hstep ⟨coherent_start config, nofun⟩ ops).2

end Session

end Rearrangement
