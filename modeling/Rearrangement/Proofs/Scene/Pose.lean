import Rearrangement.Scene

/-!
# Moving an object of a scene

`Scene.setPose` changes one object and leaves all else alone: look-ups before and after are tied by
`get?_setPose`, and only the last pose of an object counts (`setPose_setPose`).  What a scene says
of its objects apart from their poses is `Scene.models`, and no pose changes that.

## Main statements

* `get?_setPose`: looking an object up after one has been moved.
* `setPose_setPose`: only the last pose of an object counts.
* `get?_of_models_eq`: which objects there are does not depend on poses.

A scene may hold two objects with one identifier as far as these lemmas go.  It is then the first
one that is moved, and the first one that is found.
-/

namespace Rearrangement

variable {R : Type}

namespace SceneObject

/-- What an object is, wherever it is. -/
def model (o : SceneObject R) : ObjectId × String × Category × Vec3 R × Option Bool :=
  (o.id, o.name, o.category, o.size, o.isOpen)

end SceneObject

namespace Scene

variable {s : Scene R} {x id : ObjectId} {p q : Pose R}

theorem id_of_get? {o : SceneObject R} (h : s.get? x = some o) : o.id = x := by
  have := List.find?_some h
  simpa using this

theorem mem_of_get? {o : SceneObject R} (h : s.get? x = some o) : o ∈ s.objects :=
  List.mem_of_find?_eq_some h

/-- An object after one has been changed is one from before, or comes from one. -/
theorem mem_modify {f : SceneObject R → SceneObject R} {o : SceneObject R}
    {os : List (SceneObject R)} (h : o ∈ modify id f os) : o ∈ os ∨ ∃ o' ∈ os, o = f o' := by
  induction os with
  | nil => cases h
  | cons a as ih =>
    unfold modify at h
    split at h
    · rcases List.mem_cons.1 h with rfl | h
      · exact .inr ⟨a, List.mem_cons_self, rfl⟩
      · exact .inl (List.mem_cons_of_mem a h)
    · rcases List.mem_cons.1 h with rfl | h
      · exact .inl List.mem_cons_self
      · rcases ih h with h | ⟨o', ho', rfl⟩
        · exact .inl (List.mem_cons_of_mem a h)
        · exact .inr ⟨o', List.mem_cons_of_mem a ho', rfl⟩

/-- To modify one object changes what is found only under its identifier. -/
theorem find?_modify {f : SceneObject R → SceneObject R} (hf : ∀ o, (f o).id = o.id)
    (os : List (SceneObject R)) : (modify id f os).find? (·.id = x) =
      if x = id then (os.find? (·.id = x)).map f else os.find? (·.id = x) := by
  induction os with
  | nil => simp [modify]
  | cons o os ih =>
    unfold modify
    by_cases ho : o.id = id
    · rw [if_pos ho]
      by_cases hx : o.id = x
      · simp [hf, ho, ← hx]
      · rw [if_neg fun h ↦ hx (ho.trans h.symm)]
        simp [hf, hx]
    · rw [if_neg ho]
      by_cases hx : o.id = x
      · rw [if_neg fun h ↦ ho (hx.trans h)]
        simp [hx]
      · simpa [hx] using ih

/-- Looking an object up after one has been moved. -/
theorem get?_setPose : (s.setPose id p).get? x =
    if x = id then (s.get? x).map (·.withPose p) else s.get? x :=
  find?_modify (f := (·.withPose p)) (fun _ ↦ rfl) s.objects

@[simp] theorem get?_setPose_self :
    (s.setPose id p).get? id = (s.get? id).map (·.withPose p) := by
  rw [get?_setPose, if_pos rfl]

/-- Two modifications of one object are one. -/
theorem modify_modify {f g : SceneObject R → SceneObject R} (hf : ∀ o, (f o).id = o.id)
    (os : List (SceneObject R)) : modify id g (modify id f os) = modify id (g ∘ f) os := by
  induction os with
  | nil => rfl
  | cons o os ih =>
    by_cases ho : o.id = id
    · simp [modify, hf, ho]
    · simp [modify, ho, ih]

@[simp] theorem setPose_setPose : (s.setPose id p).setPose id q = s.setPose id q := by
  simp only [setPose, modify_modify (f := (·.withPose p)) fun _ ↦ rfl]
  rfl

/-- What the objects of a scene are, in their order. -/
def models (s : Scene R) : List (ObjectId × String × Category × Vec3 R × Option Bool) :=
  s.objects.map (·.model)

@[simp] theorem models_setPose : (s.setPose id p).models = s.models := by
  simp only [models, setPose]
  induction s.objects with
  | nil => rfl
  | cons o os ih =>
    unfold modify
    split
    · rfl
    · rw [List.map_cons, ih, List.map_cons]

/-- Scenes with the same objects find the same objects. -/
theorem get?_of_models_eq {t : Scene R} (h : s.models = t.models) {o : SceneObject R}
    (ho : s.get? x = some o) : ∃ o', t.get? x = some o' ∧ o'.model = o.model := by
  unfold models at h
  unfold get? at ho ⊢
  generalize s.objects = os at h ho
  generalize t.objects = os' at h
  induction os generalizing os' with
  | nil => cases ho
  | cons a as ih =>
    cases os' with
    | nil => cases h
    | cons b bs =>
      obtain ⟨hab, h⟩ := List.cons.inj h
      have hid : a.id = b.id := congrArg Prod.fst hab
      by_cases hx : b.id = x
      · obtain rfl : a = o := by simpa [hid, hx] using ho
        exact ⟨b, by simp [hx], hab.symm⟩
      · obtain ⟨o', ho', hm⟩ := ih (by simpa [hid, hx] using ho) bs h
        exact ⟨o', by simpa [hx] using ho', hm⟩

end Scene

end Rearrangement
