import Rearrangement.Proofs.Files.Tree
import Rearrangement.Proofs.Store.Initial
import Rearrangement.Store

/-!
# How far a save gets

A save replaces the trajectory of a scene and then its problem file, and where it fails, what has
been done by then stays.  So there are three ways in which it can leave the files: none of them is
touched, or only the trajectory is replaced, or both are (`save_files`).  It is the second way just
if the save fails although the trajectory could be written (`ReplacesTrajectory`): then the two
files no longer belong together.

## Main statements

* `trajectory_ne_problem`: the two files are never one.
* `save_of_document`: the changes that a save makes.
* `save_files`: the three ways in which a save can leave the files, and when it is which.
* `halfSaved_pantry`: the second of them.

Nothing is assumed of the disk: it may refuse any change for a reason of its own.
-/

namespace Rearrangement

/-- An id that may become part of a file's name gives a name, whatever the ending is. -/
theorem SceneId.isName_append {id ending : String} (h : isValid id)
    (hslash : '/' ∉ ending.toList) (hlong : 2 < ending.toList.length) :
    Path.IsName (id ++ ending) := by
  have hid : '/' ∉ id.toList := by
    simp only [isValid, Bool.and_eq_true, Bool.not_eq_true', List.contains_eq_mem] at h
    exact of_decide_eq_false h.1.1.1.2
  have hlength : 2 < (id ++ ending).toList.length := by
    rw [String.toList_append, List.length_append]
    omega
  refine ⟨?_, ?_, ?_⟩
  · rw [String.toList_append, List.mem_append]
    exact not_or.2 ⟨hid, hslash⟩
  · have hnil : (id ++ ending).toList ≠ [] := fun h ↦ by simp [h] at hlength
    have hdot : (id ++ ending).toList ≠ ['.'] := fun h ↦ by simp [h] at hlength
    rw [Path.isIdle, decide_eq_false hnil, decide_eq_false hdot]
    rfl
  · intro hup
    rw [hup] at hlength
    exact absurd hlength (by decide)

namespace Store

variable {s : Settings} {t t' : FileTree} {id : String} {p : SavePayload Float}
  {d : SceneDocument Float}

/-- The store knows no scene by an id that may not become part of a file's name. -/
theorem isValid_of_document (h : document s t id = .ok d) : SceneId.isValid id := by
  obtain ⟨⟨⟩, hcheck, -⟩ := bind_eq_ok.1 h
  unfold SceneId.check at hcheck
  split at hcheck
  next hvalid => exact hvalid
  next => cases hcheck

/-! ## The files of a save -/

/-- The scene is known, and its trajectory can be replaced. -/
def ReplacesTrajectory (s : Settings) (disk : Disk) (id : String) (p : SavePayload Float) : Prop :=
  (∃ d, document s disk.tree id = .ok d) ∧ (disk.changeAll (trajectoryChanges s id p)).2 = .ok ()

/-- From `t` to `t'` the trajectory is replaced, and the problem file is as it was. -/
structure HalfSaved (s : Settings) (id : String) (p : SavePayload Float) (t t' : FileTree) :
    Prop where
  trajectory : t'.read (s.trajectoryFile id) = .ok (trajectoryText p.actions).toUTF8
  problem : ∀ l, t.locate (s.problemFile id) = .ok l ∨ t'.locate (s.problemFile id) = .ok l →
    t'.file? l = t.file? l
  others : ∀ l, t'.locate (s.trajectoryFile id) ≠ .ok l → t'.file? l = t.file? l

/-- From `t` to `t'` both files are replaced. -/
structure Saved (s : Settings) (id : String) (d : SceneDocument Float) (p : SavePayload Float)
    (t t' : FileTree) : Prop where
  trajectory : t'.read (s.trajectoryFile id) = .ok (trajectoryText p.actions).toUTF8
  problem : t'.read (s.problemFile id) = .ok (Problem.render id d.objects p.relations).toUTF8
  others : ∀ l, t'.locate (s.trajectoryFile id) ≠ .ok l → t'.locate (s.problemFile id) ≠ .ok l →
    t'.file? l = t.file? l

section Valid

variable (hid : SceneId.isValid id)

include hid

theorem isName_trajectory : Path.IsName (id ++ ".json") :=
  SceneId.isName_append hid (by decide) (by decide)

theorem isName_problem : Path.IsName (id ++ ".pddl") :=
  SceneId.isName_append hid (by decide) (by decide)

/-- The two files of a scene are never the same one. -/
theorem trajectory_ne_problem {l k : FileTree.Location}
    (hl : t.locate (s.trajectoryFile id) = .ok l) (hk : t'.locate (s.problemFile id) = .ok k) :
    k ≠ l := by
  rintro rfl
  have hjson := FileTree.getLast?_of_locate_join (isName_trajectory hid) hl
  have hpddl := FileTree.getLast?_of_locate_join (isName_problem hid) hk
  have hsame : id ++ ".json" = id ++ ".pddl" := Option.some.inj (hjson.symm.trans hpddl)
  simp at hsame

theorem halfSaved_of_replaces {l : FileTree.Location} (h : t.Replaces t' (s.trajectoryFile id)
    (trajectoryText p.actions).toUTF8 l) : HalfSaved s id p t t' where
  trajectory := h.read
  problem k hk := by
    refine h.others k ?_
    obtain hk | hk := hk
    all_goals exact trajectory_ne_problem hid h.located hk
  others k hk := h.others k fun hkl ↦ hk (hkl ▸ h.located)

theorem saved_of_replaces {t₁ : FileTree} {l k : FileTree.Location}
    (h : t.Replaces t₁ (s.trajectoryFile id) (trajectoryText p.actions).toUTF8 l)
    (hkeeps : t₁.KeepsDirectories t')
    (h' : t₁.Replaces t' (s.problemFile id) (Problem.render id d.objects p.relations).toUTF8 k) :
    Saved s id d p t t' := by
  have hl : t'.locate (s.trajectoryFile id) = .ok l :=
    hkeeps.locate_join (isName_trajectory hid) h.located
  have hlk : l ≠ k := (trajectory_ne_problem hid hl h'.located).symm
  refine ⟨FileTree.read_of_file? hl ((h'.others l hlk).trans h.content), h'.read,
    fun m hml hmk ↦ ?_⟩
  have hm : m ≠ l := fun hsame ↦ hml (hsame ▸ hl)
  have hm' : m ≠ k := fun hsame ↦ hmk (hsame ▸ h'.located)
  exact (h'.others m hm').trans (h.others m hm)

end Valid

/-- What a save does to the files once the scene is known. -/
theorem save_of_document {disk : Disk} (hd : document s disk.tree id = .ok d) :
    let saved := save s disk id p
    let half := disk.changeAll (trajectoryChanges s id p)
    (∃ e, half.2 = .error e ∧ saved.2 = .error (.unwritable e) ∧
        disk.tree.SameFiles saved.1.tree) ∨
      (∃ e, half.2 = .ok () ∧ saved.2 = .error (.unwritable e) ∧
        HalfSaved s id p disk.tree saved.1.tree) ∨
      half.2 = .ok () ∧ saved.2 = .ok ⟨s.trajectoryFile id, s.problemFile id⟩ ∧
        Saved s id d p disk.tree saved.1.tree := by
  have hid := isValid_of_document hd
  obtain ⟨disk₁, r₁, hhalf, -, htrajectory⟩ := disk.changeAll_replace s.trajectoryDirectory
    (isName_trajectory hid) (trajectoryText p.actions).toUTF8
  obtain ⟨disk₂, r₂, hrest, hkeeps, hproblem⟩ := disk₁.changeAll_replace s.problemDirectory
    (isName_problem hid) (Problem.render id d.objects p.relations).toUTF8
  change disk.changeAll (trajectoryChanges s id p) = _ at hhalf
  change disk₁.changeAll (problemChanges s id d p) = _ at hrest
  dsimp only
  unfold save
  rw [hd]
  dsimp only
  rw [Disk.changeAll_append, hhalf]
  -- each half has replaced its file or touched none
  obtain ⟨e, rfl, hfiles⟩ | ⟨l, rfl, hreplaces⟩ := htrajectory
  · exact .inl ⟨e, rfl, rfl, hfiles⟩
  · dsimp only
    rw [hrest]
    obtain ⟨e, rfl, hfiles⟩ | ⟨k, rfl, hreplaces'⟩ := hproblem
    · have hreplaces₂ := hreplaces.of_sameFiles (isName_trajectory hid) hfiles hkeeps
      exact .inr (.inl ⟨e, rfl, rfl, halfSaved_of_replaces hid hreplaces₂⟩)
    · exact .inr (.inr ⟨rfl, rfl, saved_of_replaces hid hreplaces hkeeps hreplaces'⟩)

/-- A save that succeeds replaces both files of the scene and no other.  One that fails touches no
file, unless the trajectory can be replaced: then just the trajectory is, and the problem file stays
as it was. -/
theorem save_files (s : Settings) (disk : Disk) (id : String) (p : SavePayload Float) :
    let saved := save s disk id p
    (∀ files, saved.2 = .ok files →
        ∃ d, document s disk.tree id = .ok d ∧ Saved s id d p disk.tree saved.1.tree) ∧
      ∀ e, saved.2 = .error e →
        (¬ReplacesTrajectory s disk id p → disk.tree.SameFiles saved.1.tree) ∧
          (ReplacesTrajectory s disk id p → HalfSaved s id p disk.tree saved.1.tree) := by
  intro saved
  cases hd : document s disk.tree id with
  | error e =>
    have hsaved : saved = (disk, .error e) := by
      change save s disk id p = _
      unfold save
      rw [hd]
    rw [hsaved]
    refine ⟨nofun, fun _ _ ↦ ⟨fun _ ↦ .refl _, fun hreplaces ↦ ?_⟩⟩
    obtain ⟨⟨d, hd'⟩, -⟩ := hreplaces
    cases hd.symm.trans hd'
  | ok d =>
    obtain ⟨e, hhalf, hresult, hfiles⟩ | ⟨e, hhalf, hresult, hsaved⟩ | ⟨-, hresult, hsaved⟩ :=
      save_of_document (p := p) hd
    · refine ⟨fun files hok ↦ ?_, fun _ _ ↦ ⟨fun _ ↦ hfiles, fun hreplaces ↦ ?_⟩⟩
      · cases hresult.symm.trans hok
      · cases hhalf.symm.trans hreplaces.2
    · refine ⟨fun files hok ↦ ?_, fun _ _ ↦ ⟨fun hreplaces ↦ ?_, fun _ ↦ hsaved⟩⟩
      · cases hresult.symm.trans hok
      · exact absurd ⟨⟨d, hd⟩, hhalf⟩ hreplaces
    · refine ⟨fun _ _ ↦ ⟨d, rfl, hsaved⟩, fun e herror ↦ ?_⟩
      cases hresult.symm.trans herror

namespace Pantry

/-- The pantry, with a file where the problem files of saves ought to go. -/
def blocked : FileTree :=
  (tree.set ["output"] .directory).set ["output", "pddl"] (.file "".toUTF8)

end Pantry

/-- An empty trajectory is saved for the pantry, but its problem file cannot be. -/
theorem halfSaved_pantry :
    let saved := save Pantry.settings (.ofTree Pantry.blocked) "pantry" ⟨[], .empty⟩
    let path := Pantry.settings.trajectoryFile "pantry"
    saved.2 = .error (.unwritable .notDirectory) ∧
      Pantry.blocked.read path = .error .notFound ∧
        saved.1.tree.read path = .ok "[]".toUTF8 := ⟨rfl, rfl, rfl⟩

end Store

end Rearrangement
