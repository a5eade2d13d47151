import Rearrangement.Proofs.Cells.Log
import Rearrangement.Proofs.Relations.Normal
import Rearrangement.Store

/-!
# Relations at the start

The store normalizes the relations of a problem file by the lids of its settings, and a session
normalizes what it is given by the lids that come with it.  Those are the lids of the settings, so
that the session finds nothing left to do: if it shows the scene at all, it holds the relations that
the store has handed out (`relations_served`).

## Main statements

* `exists_asserts_of_bundle`: a bundle has what is asserted of its scene, in normal form.
* `relations_after_of_shows`: a session that shows a bundle holds its relations in normal form.
* `relations_served`: so the two are the same.

The session may refuse a bundle whose relations do not hold together; nothing is changed then, and
nothing is said of it here.
-/

namespace Rearrangement

namespace Store

variable {s : Settings} {t : FileTree} {id : String} {r : RelationSet} {b : SceneBundle Float}

/-- The problem file of the scene asserts these relations; without a file there are none. -/
def Asserts (s : Settings) (t : FileTree) (id : String) (r : RelationSet) : Prop :=
  (∃ text, t.readText (s.initialFile id) = .ok text ∧ r = Problem.initRelations text) ∨
    t.readText (s.initialFile id) = .error .notFound ∧ r = .empty

theorem exists_asserts_of_relations (h : relations s t id = .ok r) :
    ∃ r₀, Asserts s t id r₀ ∧ r = r₀.normalize s.lids := by
  obtain ⟨⟨⟩, -, h⟩ := bind_eq_ok.1 h
  cases hfile : t.readText (s.initialFile id) with
  | ok text =>
    rw [hfile] at h
    exact ⟨_, .inl ⟨text, hfile, rfl⟩, (Except.ok.inj h).symm⟩
  | error e =>
    rw [hfile] at h
    cases e with
    | notFound => exact ⟨_, .inr ⟨hfile, rfl⟩, (Except.ok.inj h).symm⟩
    | _ => cases h

/-- The store hands out what is asserted in normal form, together with the lids that make it so. -/
theorem exists_asserts_of_bundle (h : bundle s t id = .ok b) :
    ∃ r, Asserts s t id r ∧ b.relations = r.normalize b.lids := by
  obtain ⟨scene, -, h⟩ := bind_eq_ok.1 h
  obtain ⟨r, hr, h⟩ := bind_eq_ok.1 h
  obtain rfl := Except.ok.inj h
  exact exists_asserts_of_relations hr

end Store

namespace Cells

variable {R : Type} [Scalar R] {c : Cells R} {op : Operation R} {b : SceneBundle R}

/-- A session that shows a bundle holds its relations in normal form. -/
theorem relations_after_of_shows (h : c.shows op) (hbundle : op.bundle? = some b) :
    (c.after op).relations = b.relations.normalize b.lids := by
  obtain ⟨-, b', t, hb, ht, hafter⟩ := exists_table_of_shows h
  obtain rfl := Option.some.inj (hb.symm.trans hbundle)
  obtain ⟨-, rfl⟩ := SceneBundle.table_eq_ok.1 ht
  rw [hafter]
  rfl

end Cells

namespace Store

/-- Relations are normalized to what they say in normal form, whatever they say and by any lids.
What is asserted of a scene is normalized before it is handed out, and a session that shows the
scene holds the relations that were handed out, whatever has been done in it before. -/
theorem relations_served :
    (∀ r lids, RelationSet.Normalizes lids r (r.normalize lids)) ∧
      ∀ s t id b, bundle s t id = .ok b →
        (∃ r, Asserts s t id r ∧ b.relations = r.normalize b.lids) ∧
          ∀ (c : Cells Float) op, op.bundle? = some b → c.shows op →
            (c.after op).relations = b.relations := by
  refine ⟨RelationSet.normalizes_normalize, fun s t id b hb ↦ ?_⟩
  obtain ⟨r, hasserts, hr⟩ := exists_asserts_of_bundle hb
  refine ⟨⟨r, hasserts, hr⟩, fun c op hbundle hshows ↦ ?_⟩
  rw [Cells.relations_after_of_shows hshows hbundle, hr, RelationSet.normalize_normalize]

/-! ## A pantry -/

namespace Pantry

def settings : Settings := .withDirectories "data" "output"

/-- One scene is recorded, without objects.  Its problem file says that a lid is on its container
and that another container is closed. -/
def tree : FileTree :=
  (((FileTree.empty.set ["data"] .directory).set ["data", "pddl"] .directory).set
    ["data", "poses.json"] (.file "[\x7b\"task_id\":\"pantry\",\"objects\":[]\x7d]".toUTF8)).set
      ["data", "pddl", "pantry.pddl"]
        (.file "(:init (on lid_01 container_07) (closed container_08))".toUTF8)

def bundle : SceneBundle Float :=
  ⟨⟨"pantry", []⟩, "/images/scene_pantry_rgb.png", Settings.standardLids,
    ⟨[], [], ["container_08", "container_07"]⟩⟩

end Pantry

/-- The pantry is handed out with both containers closed, and so a session shows it. -/
theorem relations_served_pantry :
    bundle Pantry.settings Pantry.tree "pantry" = .ok Pantry.bundle ∧
      (Cells.start .standard).shows (.load Pantry.bundle) ∧
        ((Cells.start .standard).after (.load Pantry.bundle)).relations =
          Pantry.bundle.relations := by
  have hbundle : bundle Pantry.settings Pantry.tree "pantry" = .ok Pantry.bundle := rfl
  have hshows : (Cells.start .standard).shows (.load Pantry.bundle) := by decide +kernel
  exact ⟨hbundle, hshows, (relations_served.2 _ _ _ _ hbundle).2 _ _ rfl hshows⟩

end Store

end Rearrangement
