import Mathlib.Data.List.Forall2
import Rearrangement.Proofs.Session.Seating
import Rearrangement.Proofs.Session.Valid

/-!
# What an operation leaves alone

A scene keeps its objects, and nothing about them changes but where they are.  `Scene.SameBut` says
that two scenes differ at most in where one object is.  A single operation makes no greater
difference (`Change.sameBut`), for giving an action up moves back what the action has moved.

## Main statements

* `sameBut_setPose`, `Table.sameBut_carry`: to place an object changes that object only.
* `Change.sameBut`: so does any operation that shows no other scene.
* `distinct_run`: identifiers are distinct after any run.

Giving up is why the statement is about one object and not about the object of an action: it moves
back what was previewed, which is the object that the phase says.
-/

namespace Rearrangement

variable {R : Type}

/-! ## Scenes -/

namespace Scene

/-- All of a scene but where its objects are. -/
def setting (s : Scene R) :
    String × String × List (ObjectId × String × Category × Vec3 R × Option Bool) :=
  (s.id, s.image, s.models)

/-- The scenes are the same, except that the object `x` may be elsewhere. -/
structure SameBut (x : ObjectId) (s s' : Scene R) : Prop where
  setting : s'.setting = s.setting
  others : List.Forall₂ (fun o o' ↦ o.id ≠ x → o' = o) s.objects s'.objects

variable {s s' : Scene R} {x : ObjectId} {p : Pose R}

@[simp] theorem setting_setPose : (s.setPose x p).setting = s.setting := by
  simp only [setting, models_setPose]
  rfl

/-- The identifiers are part of what the objects are. -/
theorem map_id_eq (s : Scene R) : s.objects.map (·.id) = s.models.map Prod.fst := by
  rw [models, List.map_map]
  rfl

theorem map_id_of_setting_eq (h : s'.setting = s.setting) :
    s'.objects.map (·.id) = s.objects.map (·.id) := by
  obtain ⟨-, hmodels⟩ := Prod.mk.inj (Prod.mk.inj h).2
  rw [map_id_eq, map_id_eq, hmodels]

theorem SameBut.refl (x : ObjectId) (s : Scene R) : s.SameBut x s :=
  ⟨rfl, List.forall₂_same.2 fun _ _ _ ↦ rfl⟩

/-- It does not matter which of the two scenes comes first. -/
theorem SameBut.symm (h : s.SameBut x s') : s'.SameBut x s := by
  refine ⟨h.setting.symm, ?_⟩
  have hids := map_id_of_setting_eq h.setting
  have hothers := h.others
  generalize s.objects = os at hids hothers
  generalize s'.objects = os' at hids hothers
  induction hothers with
  | nil => exact .nil
  | @cons o o' _ _ hsame _ ih =>
    obtain ⟨hid, hids⟩ := List.cons.inj hids
    exact .cons (fun hx ↦ (hsame fun ho ↦ hx (hid.trans ho)).symm) (ih hids)

theorem forall₂_modify (f : SceneObject R → SceneObject R) (os : List (SceneObject R)) :
    List.Forall₂ (fun o o' ↦ o.id ≠ x → o' = o) os (modify x f os) := by
  induction os with
  | nil => exact .nil
  | cons o os ih =>
    unfold modify
    split
    next ho => exact .cons (fun hx ↦ absurd ho hx) (List.forall₂_same.2 fun _ _ _ ↦ rfl)
    next => exact .cons (fun _ ↦ rfl) ih

/-- To place an object changes that object only. -/
theorem sameBut_setPose (s : Scene R) (x : ObjectId) (p : Pose R) : s.SameBut x (s.setPose x p) :=
  ⟨setting_setPose, forall₂_modify _ _⟩

end Scene

/-- The tables have the same lids, and their scenes are the same but for the object `x`. -/
structure Table.SameBut (x : ObjectId) (t u : Table R) : Prop where
  scene : t.scene.SameBut x u.scene
  lids : u.lids = t.lids

theorem Table.SameBut.refl (x : ObjectId) (t : Table R) : t.SameBut x t := ⟨.refl x _, rfl⟩

/-- So does to carry an action out. -/
theorem Table.sameBut_carry (t : Table R) (a : Action R) : t.SameBut a.object (t.carry a) :=
  ⟨t.scene.sameBut_setPose _ _, rfl⟩

theorem Table.SameBut.symm {t u : Table R} {x : ObjectId} (h : t.SameBut x u) : u.SameBut x t :=
  ⟨h.scene.symm, h.lids.symm⟩

variable [Scalar R]

/-! ## Changes -/

section Changes

variable {w : World R} {v : Viewport R} {p q : Progress R} {op : Operation R} {o : Outcome R}

/-- Unless another scene is shown, the tables before and after are the same but for one object. -/
theorem Change.sameBut (h : Change w v op o p q) (hp : p.Sound w) (hload : o.loads = false) :
    ∃ x, Option.Rel (Table.SameBut x) p.table q.table := by
  have hself : Option.Rel (Table.SameBut "") p.table p.table := by
    cases p.table with
    | none => exact .none
    | some t => exact .some (.refl _ t)
  rcases h.table_cases hp hload with hsame | hback | ⟨t, a, ht, hu, -⟩
  · rw [hsame]
    exact ⟨_, hself⟩
  · rcases hp.table_cases with hcommitted | ⟨t, a, -, hcommitted, ht⟩
    · rw [hback, ← hcommitted]
      exact ⟨_, hself⟩
    · -- giving the action up moves its object back
      rw [hback, hcommitted, ht]
      exact ⟨a.object, .some (t.sameBut_carry a).symm⟩
  · rw [ht, hu]
    exact ⟨a.object, .some (t.sameBut_carry a)⟩

/-- No two objects of the scene share an identifier. -/
def Progress.Distinct (p : Progress R) : Prop :=
  ∀ t ∈ p.table, (t.scene.objects.map (·.id)).Nodup

/-- No change gives two objects one identifier. -/
theorem Change.distinct (h : Change w v op o p q) (hp : p.Sound w) (hdistinct : p.Distinct) :
    q.Distinct := by
  intro u hu
  cases hload : o.loads with
  | true =>
    obtain ⟨b, t, -, ht, rfl⟩ := h.exists_bundle hload
    obtain rfl := Option.some.inj hu
    obtain ⟨hb, rfl⟩ := SceneBundle.table_eq_ok.1 ht
    exact hb.objects
  | false =>
    obtain ⟨x, hrel⟩ := h.sameBut hp hload
    rw [Option.mem_def.1 hu] at hrel
    cases hrel' : p.table with
    | none =>
      rw [hrel'] at hrel
      cases hrel
    | some t =>
      rw [hrel'] at hrel
      obtain ⟨hsame⟩ := hrel
      rw [Scene.map_id_of_setting_eq hsame.scene.setting]
      exact hdistinct t hrel'

end Changes

/-! ## Runs -/

namespace Session

/-- Identifiers are distinct after any operations. -/
theorem distinct_run (config : Config R) (ops : List (Operation R)) :
    ((start config).run ops).progress.Distinct := by
  have hstep (s : Session R) (op : Operation R) (h : s.Coherent ∧ s.progress.Distinct) :
      (s.perform op).1.Coherent ∧ (s.perform op).1.progress.Distinct :=
    ⟨h.1.perform op, (makes_perform s op).change.distinct h.1.sound h.2⟩
  exact (run_induction hstep ⟨coherent_start config, nofun⟩ ops).2

end Session

end Rearrangement
