import Rearrangement.Proofs.Files.Location
import Rearrangement.Proofs.Store.Save

/-!
# Where a save goes

The files of a scene lie directly in three directories (`filesLie`), and no two scenes share one
(`destination_ne`).  A save touches two of them and no other file (`file?_save`).  So it leaves the
recorded scenes and the files of all other scenes alone, provided that the directory for saves and
the directory of the recorded scenes are apart (`spares_save`).  An id that may lead elsewhere is
refused, whatever there is on the disk (`refuses_of_not_isValid`).

That all files stay as they are is not to say that all questions are answered as before, for a save
makes the directories on its way.  Two dots can lead this way through a place among the recorded
scenes where nothing is, and a directory in the place of a problem file that is not there makes the
scene unreadable (`save_detours`).  Without such a detour no answer changes (`bundle_save`).

## Main statements

* `filesLie`, `destination_ne`: where the files of a scene are.
* `spares_save`: what a save for one scene leaves alone, file by file and answer by answer.
* `refuses_of_not_isValid`: what comes of an id that may not become part of a file's name.
* `save_confined`: all of it, for settings with two directories that are apart.
* `save_detours`: two directories that are apart, and a save that makes another scene unreadable.

Whether two places are apart is a matter of where their paths lead, and not of how they are spelled:
paths are compared by `destination`, for one who stands where the tree says.
-/

namespace Rearrangement

open FileTree

/-- A path leads on from that of a directory by one name. -/
structure Path.IsChild (path directory name : String) : Prop where
  rooted : Path.isRooted path = Path.isRooted directory
  parts : Path.parts path = Path.parts directory ++ [name]
  isName : Path.IsName name

theorem Path.isChild_join {name : String} (h : Path.IsName name) (directory : String) :
    Path.IsChild (Path.join directory name) directory name := ⟨h.isRooted_join, h.parts_join, h⟩

namespace Settings

variable {s : Settings} {here : FileTree.Location}

/-- For one who stands at `here`, neither the directory of the recorded scenes nor the one for saves
lies in the other. -/
structure Apart (s : Settings) (here : FileTree.Location) : Prop where
  data : ¬destination here s.dataDirectory <+: destination here s.outputDirectory
  output : ¬destination here s.outputDirectory <+: destination here s.dataDirectory

/-- On the way to the directory for saves there is a place among the recorded scenes where nothing
is, and the way to the problem file of the given scene leads through it, too.  It need not be the
place of that file: a name that is too long is noticed only where its directory is there. -/
def Detours (s : Settings) (t : FileTree) (id : String) : Prop :=
  ∃ k ∈ way t.here s.outputDirectory, k ∈ way t.here (s.initialFile id) ∧
    destination t.here s.dataDirectory <+: k ∧ t.get? k = none

/-- The files that are read or written for a scene. -/
def filesOf (s : Settings) (id : String) : List String :=
  [s.trajectoryFile id, s.problemFile id, s.initialFile id]

/-- What lies in one of two directories that are apart does not lie in the other. -/
theorem Apart.not_prefix (hs : s.Apart here) (xs : List String) :
    ¬destination here s.dataDirectory <+: destination here s.outputDirectory ++ xs := by
  intro hdata
  obtain h | h := List.prefix_or_prefix_of_prefix hdata (List.prefix_append _ xs)
  · exact hs.data h
  · exact hs.output h

/-- Only two dots make a detour. -/
theorem Apart.not_detours {t : FileTree} (hs : s.Apart t.here)
    (hup : ".." ∉ Path.parts s.outputDirectory) (id : String) : ¬s.Detours t id := by
  rintro ⟨k, hk, -, hdata, -⟩
  exact hs.data (hdata.trans (prefix_of_mem_wayFrom hup hk))

end Settings

namespace Store

variable {s : Settings} {t : FileTree} {id id' path path' : String} {p : SavePayload Float}
  {d : SceneDocument Float} {disk : Disk}
  {here k : FileTree.Location} {bytes : ByteArray}

/-! ## The files of a scene -/

theorem isName_pddl : Path.IsName "pddl" := ⟨by decide, by decide, by decide⟩

theorem isName_trajectories : Path.IsName "trajectories" := ⟨by decide, by decide, by decide⟩

theorem isName_poses : Path.IsName "poses.json" := ⟨by decide, by decide, by decide⟩

/-- The files of a scene lie directly in their directories, and these directly in the two that the
settings name. -/
structure FilesLie (s : Settings) (id : String) : Prop where
  trajectory : Path.IsChild (s.trajectoryFile id) s.trajectoryDirectory (id ++ ".json")
  problem : Path.IsChild (s.problemFile id) s.problemDirectory (id ++ ".pddl")
  initial : Path.IsChild (s.initialFile id) s.initialDirectory (id ++ ".pddl")
  trajectories : Path.IsChild s.trajectoryDirectory s.outputDirectory "trajectories"
  problems : Path.IsChild s.problemDirectory s.outputDirectory "pddl"
  initials : Path.IsChild s.initialDirectory s.dataDirectory "pddl"

/-- Under a valid identifier the files of a scene lie right below their directories. -/
theorem filesLie (s : Settings) (hid : SceneId.isValid id) : FilesLie s id where
  trajectory := Path.isChild_join (isName_trajectory hid) _
  problem := Path.isChild_join (isName_problem hid) _
  initial := Path.isChild_join (isName_problem hid) _
  trajectories := Path.isChild_join isName_trajectories _
  problems := Path.isChild_join isName_pddl _
  initials := Path.isChild_join isName_pddl _

/-- Where the trajectory file of a scene is. -/
theorem destination_trajectoryFile (hid : SceneId.isValid id) :
    destination here (s.trajectoryFile id) =
      destination here s.outputDirectory ++ ["trajectories"] ++ [id ++ ".json"] := by
  rw [Settings.trajectoryFile, destination_join (isName_trajectory hid),
    Settings.trajectoryDirectory, destination_join isName_trajectories]

theorem destination_problemFile (hid : SceneId.isValid id) : destination here (s.problemFile id) =
    destination here s.outputDirectory ++ ["pddl"] ++ [id ++ ".pddl"] := by
  rw [Settings.problemFile, destination_join (isName_problem hid), Settings.problemDirectory,
    destination_join isName_pddl]

theorem destination_initialFile (hid : SceneId.isValid id) : destination here (s.initialFile id) =
    destination here s.dataDirectory ++ ["pddl"] ++ [id ++ ".pddl"] := by
  rw [Settings.initialFile, destination_join (isName_problem hid), Settings.initialDirectory,
    destination_join isName_pddl]

/-- The id can be read off where a file of the scene lies. -/
theorem exists_getLast?_destination (here : FileTree.Location) (hid : SceneId.isValid id)
    (h : path ∈ s.filesOf id) :
    ∃ ending : String, ending.toList.length = 5 ∧
      (destination here path).getLast? = some (id ++ ending) := by
  simp only [Settings.filesOf, List.mem_cons, List.not_mem_nil, or_false] at h
  obtain rfl | rfl | rfl := h
  · refine ⟨".json", rfl, ?_⟩
    rw [destination_trajectoryFile hid, List.getLast?_concat]
  · refine ⟨".pddl", rfl, ?_⟩
    rw [destination_problemFile hid, List.getLast?_concat]
  · refine ⟨".pddl", rfl, ?_⟩
    rw [destination_initialFile hid, List.getLast?_concat]

/-- No two scenes share a file. -/
theorem destination_ne (hid : SceneId.isValid id) (hid' : SceneId.isValid id') (hne : id ≠ id')
    (h : path ∈ s.filesOf id) (h' : path' ∈ s.filesOf id') :
    destination here path ≠ destination here path' := by
  intro hsame
  obtain ⟨ending, hending, hlast⟩ := exists_getLast?_destination here hid h
  obtain ⟨ending', hending', hlast'⟩ := exists_getLast?_destination here hid' h'
  rw [hsame, hlast'] at hlast
  have hlists : id'.toList ++ ending'.toList = id.toList ++ ending.toList := by
    rw [← String.toList_append, ← String.toList_append, Option.some.inj hlast]
  have hids := List.append_inj_left' hlists (hending'.trans hending.symm)
  exact hne (String.toList_injective hids).symm

/-- A file of one scene is none of those that a save for another one writes. -/
theorem destination_ne_saved (hid : SceneId.isValid id) (hid' : SceneId.isValid id')
    (hne : id ≠ id') (h : path ∈ s.filesOf id) :
    destination here path ≠ destination here (s.trajectoryFile id') ∧
      destination here path ≠ destination here (s.problemFile id') := by
  refine ⟨destination_ne hid hid' hne h ?_, destination_ne hid hid' hne h ?_⟩
  all_goals simp [Settings.filesOf]

/-! ## What a save touches -/

/-- What a save has done to the disk are the changes to one scene, as far as they could be made. -/
theorem save_changes (s : Settings) (disk : Disk) (id : String) (p : SavePayload Float) :
    (save s disk id p).1 = disk ∨ ∃ d, document s disk.tree id = .ok d ∧ (save s disk id p).1 =
      (disk.changeAll (trajectoryChanges s id p ++ problemChanges s id d p)).1 := by
  unfold save
  cases hd : document s disk.tree id with
  | error e => exact .inl rfl
  | ok d =>
    refine .inr ⟨d, rfl, ?_⟩
    dsimp only
    split
    next h => rw [h]
    next h => rw [h]

/-- The two files of the scene are the only ones that a save touches. -/
theorem file?_save (hk : SceneId.isValid id →
    k ≠ destination disk.tree.here (s.trajectoryFile id) ∧
      k ≠ destination disk.tree.here (s.problemFile id)) :
    (save s disk id p).1.tree.file? k = disk.tree.file? k := by
  obtain h | ⟨d, hd, h⟩ := save_changes s disk id p
  · rw [h]
  · rw [h]
    obtain ⟨htrajectory, hproblem⟩ := hk (isValid_of_document hd)
    refine Disk.file?_changeAll disk fun c hc ↦ ?_
    simp only [trajectoryChanges, problemChanges, List.mem_append, List.mem_cons, List.not_mem_nil,
      or_false] at hc
    rintro ⟨path, bytes, rfl, hk⟩
    obtain (hc | hc) | (hc | hc) := hc
    all_goals cases hc
    · exact htrajectory hk
    · exact hproblem hk

/-- A save removes no directory, whether it succeeds or not. -/
theorem keepsDirectories_save (s : Settings) (disk : Disk) (id : String) (p : SavePayload Float) :
    disk.tree.KeepsDirectories (save s disk id p).1.tree := by
  obtain h | ⟨d, -, h⟩ := save_changes s disk id p
  · rw [h]
    exact .refl _
  · rw [h]
    exact Disk.keepsDirectories_changeAll disk _

/-- The files of other scenes are left alone. -/
theorem file?_save_of_ne (hid' : SceneId.isValid id') (hne : id' ≠ id) (h : path ∈ s.filesOf id') :
    (save s disk id p).1.tree.file? (destination disk.tree.here path) =
      disk.tree.file? (destination disk.tree.here path) :=
  file?_save fun hid ↦ destination_ne_saved hid' hid hne h

theorem exists_read_of_document (h : document s t id = .ok d) :
    ∃ bytes, t.read s.posesFile = .ok bytes := by
  obtain ⟨⟨⟩, -, h⟩ := bind_eq_ok.1 h
  obtain ⟨ds, hds, -⟩ := bind_eq_ok.1 h
  obtain ⟨bytes, hbytes, -⟩ := bind_eq_ok.1 hds
  cases hread : t.read s.posesFile with
  | ok bytes => exact ⟨bytes, rfl⟩
  | error e =>
    rw [hread] at hbytes
    cases hbytes

/-- What lies in the directory of the recorded scenes is left alone. -/
theorem file?_save_of_data (hs : s.Apart disk.tree.here)
    (hk : destination disk.tree.here s.dataDirectory <+: k) :
    (save s disk id p).1.tree.file? k = disk.tree.file? k := by
  refine file?_save fun hid ↦ ⟨?_, ?_⟩
  · rintro rfl
    rw [destination_trajectoryFile hid, List.append_assoc] at hk
    exact hs.not_prefix _ hk
  · rintro rfl
    rw [destination_problemFile hid, List.append_assoc] at hk
    exact hs.not_prefix _ hk

/-- Once the recorded scenes have been read, they are read again after a save. -/
theorem documents_save (hs : s.Apart disk.tree.here) (id : String) (p : SavePayload Float) :
    documents s (save s disk id p).1.tree = documents s disk.tree := by
  obtain hsave | ⟨d, hd, -⟩ := save_changes s disk id p
  · rw [hsave]
  · obtain ⟨bytes, hbytes⟩ := exists_read_of_document hd
    have hfile : (save s disk id p).1.tree.file? (destination disk.tree.here s.posesFile) =
        disk.tree.file? (destination disk.tree.here s.posesFile) := by
      refine file?_save_of_data hs ?_
      rw [Settings.posesFile, destination_join isName_poses]
      exact List.prefix_append _ _
    have hbytes' := (keepsDirectories_save s disk id p).read_join isName_poses hfile hbytes
    change (save s disk id p).1.tree.read s.posesFile = .ok bytes at hbytes'
    rw [documents, documents, hbytes, hbytes']

/-- The way to a recorded problem file leads to the recorded scenes, and then it stays there. -/
theorem mem_way_initialFile (hid : SceneId.isValid id) (hk : k ∈ way here (s.initialFile id)) :
    k ∈ way here s.dataDirectory ∨ destination here s.dataDirectory <+: k := by
  rw [Settings.initialFile, mem_way_join (isName_problem hid), Settings.initialDirectory,
    mem_way_join isName_pddl, destination_join isName_pddl] at hk
  obtain (hway | rfl) | rfl := hk
  · exact .inl hway
  · exact .inr (List.prefix_append _ _)
  · rw [List.append_assoc]
    exact .inr (List.prefix_append _ _)

/-- The ways to what is saved do not lead to the recorded scenes once they have led to the directory
for saves. -/
theorem not_mem_way {name name' : String} (hs : s.Apart here) (hname : Path.IsName name)
    (hname' : Path.IsName name') (hdata : destination here s.dataDirectory <+: k)
    (hway : k ∉ way here s.outputDirectory) :
    k ∉ way here (Path.join (Path.join s.outputDirectory name) name') := by
  rw [mem_way_join hname', mem_way_join hname, destination_join hname]
  rintro ((hmem | rfl) | rfl)
  · exact hway hmem
  · exact hs.not_prefix _ hdata
  · rw [List.append_assoc] at hdata
    exact hs.not_prefix _ hdata

/-- Among the recorded scenes a save makes no directories but those on the way to the directory for
saves. -/
theorem get?_save (hs : s.Apart disk.tree.here)
    (hdata : destination disk.tree.here s.dataDirectory <+: k)
    (hway : k ∉ way disk.tree.here s.outputDirectory) :
    (save s disk id p).1.tree.get? k = disk.tree.get? k := by
  obtain hsave | ⟨d, hd, hsave⟩ := save_changes s disk id p
  · rw [hsave]
  · rw [hsave]
    have hid := isValid_of_document hd
    have htrajectory := not_mem_way hs isName_trajectories (isName_trajectory hid) hdata hway
    have hproblem := not_mem_way hs isName_pddl (isName_problem hid) hdata hway
    refine Disk.get?_changeAll disk fun c hc ↦ ?_
    simp only [trajectoryChanges, problemChanges, List.mem_append, List.mem_cons, List.not_mem_nil,
      or_false] at hc
    obtain (rfl | rfl) | (rfl | rfl) := hc
    · exact mt (fun h ↦ (mem_way_join (isName_trajectory hid)).2 (.inl h)) htrajectory
    · exact htrajectory
    · exact mt (fun h ↦ (mem_way_join (isName_problem hid)).2 (.inl h)) hproblem
    · exact hproblem

/-- Without a detour, the problem file of a recorded scene is read as before, also if it is not
there. -/
theorem read_initialFile_save (hs : s.Apart disk.tree.here) (hdetours : ¬s.Detours disk.tree id')
    (id : String) (p : SavePayload Float) (hid' : SceneId.isValid id') :
    (save s disk id p).1.tree.read (s.initialFile id') = disk.tree.read (s.initialFile id') := by
  obtain hsave | ⟨d, hd, -⟩ := save_changes s disk id p
  · rw [hsave]
  · have hkeeps := keepsDirectories_save s disk id p
    obtain ⟨bytes, hbytes⟩ := exists_read_of_document hd
    obtain ⟨-, l, hwalk, hdirectory, -⟩ := (locate_join isName_poses).1 (read_eq_ok.1 hbytes).1
    refine read_congr hkeeps.here fun k hk ↦ ?_
    -- The recorded scenes have just been read, so that there are directories all the way to them.
    obtain hway | hdata := mem_way_initialFile hid' hk
    · have hk := directory_of_walk hwalk hdirectory hway
      rw [hk, hkeeps.directory k hk]
    · cases hentry : disk.tree.get? k with
      | none =>
        rw [← hentry]
        exact get?_save hs hdata fun hway ↦ hdetours ⟨k, hway, hk, hdata, hentry⟩
      | some e =>
        cases e with
        | directory => exact hkeeps.directory k hentry
        | file content =>
          rw [get?_eq_file, file?_save_of_data hs hdata]
          exact get?_eq_file.1 hentry

/-! ## Scenes are isolated -/

/-- What a save for one scene leaves alone. -/
structure Spares (s : Settings) (id : String) (t t' : FileTree) : Prop where
  others : ∀ k, k ≠ destination t.here (s.trajectoryFile id) →
    k ≠ destination t.here (s.problemFile id) → t'.file? k = t.file? k
  recorded : documents s t' = documents s t
  initial : ∀ id', SceneId.isValid id' → t'.file? (destination t.here (s.initialFile id')) =
    t.file? (destination t.here (s.initialFile id'))
  files : ∀ id', SceneId.isValid id' → id' ≠ id → ∀ path ∈ s.filesOf id',
    t'.file? (destination t.here path) = t.file? (destination t.here path) ∧
      ∀ bytes, t.read path = .ok bytes → t'.read path = .ok bytes
  /-- Questions about any scene are answered as before, but for a detour. -/
  answers : ∀ id', ¬s.Detours t id' → bundle s t' id' = bundle s t id'

/-- What can be read of another scene is read as before. -/
theorem read_save_of_ne (hid' : SceneId.isValid id') (hne : id' ≠ id) (h : path ∈ s.filesOf id')
    (hread : disk.tree.read path = .ok bytes) :
    (save s disk id p).1.tree.read path = .ok bytes := by
  have hfile : (save s disk id p).1.tree.file? (destination disk.tree.here path) =
      disk.tree.file? (destination disk.tree.here path) := file?_save_of_ne hid' hne h
  have hkeeps := keepsDirectories_save s disk id p
  simp only [Settings.filesOf, List.mem_cons, List.not_mem_nil, or_false] at h
  obtain rfl | rfl | rfl := h
  · exact hkeeps.read_join (isName_trajectory hid') hfile hread
  · exact hkeeps.read_join (isName_problem hid') hfile hread
  · exact hkeeps.read_join (isName_problem hid') hfile hread

/-- Without a detour, no answer about a scene changes. -/
theorem bundle_save (hs : s.Apart disk.tree.here) (hdetours : ¬s.Detours disk.tree id')
    (id : String) (p : SavePayload Float) :
    bundle s (save s disk id p).1.tree id' = bundle s disk.tree id' := by
  have hdocument : document s (save s disk id p).1.tree id' = document s disk.tree id' := by
    rw [document, document, documents_save hs]
  unfold bundle
  rw [hdocument]
  cases hd : document s disk.tree id' with
  | error e => simp only [bind, Except.bind]
  | ok d =>
    have hread := read_initialFile_save hs hdetours id p (isValid_of_document hd)
    rw [relations, relations, readText, readText, hread]

/-- A save for one scene leaves alone whatever belongs to the others. -/
theorem spares_save (hs : s.Apart disk.tree.here) (id : String) (p : SavePayload Float) :
    Spares s id disk.tree (save s disk id p).1.tree where
  others _ htrajectory hproblem := file?_save fun _ ↦ ⟨htrajectory, hproblem⟩
  recorded := documents_save hs id p
  initial id' hid' := by
    refine file?_save_of_data hs ?_
    rw [destination_initialFile hid', List.append_assoc]
    exact List.prefix_append _ _
  files _ hid' hne _ h := ⟨file?_save_of_ne hid' hne h, fun _ ↦ read_save_of_ne hid' hne h⟩
  answers _ hdetours := bundle_save hs hdetours id p

/-! ## Ids that are refused -/

/-- Whatever there is on the disk, the answer is that the id is refused, and the disk stays as it
is. -/
structure Refuses (s : Settings) (id : String) : Prop where
  document : ∀ t, document s t id = .error (.invalidId id)
  relations : ∀ t, relations s t id = .error (.invalidId id)
  bundle : ∀ t, bundle s t id = .error (.invalidId id)
  save : ∀ disk p, save s disk id p = (disk, .error (.invalidId id))

/-- An id that may lead elsewhere is refused before anything is looked at. -/
theorem refuses_of_not_isValid (s : Settings) (hid : ¬SceneId.isValid id) : Refuses s id := by
  have hcheck : SceneId.check id = .error (.invalidId id) := if_neg hid
  have hdocument (t : FileTree) : document s t id = .error (.invalidId id) := by
    rw [document, hcheck]
    rfl
  refine ⟨hdocument, fun t ↦ ?_, fun t ↦ ?_, fun disk p ↦ ?_⟩
  · rw [relations, hcheck]
    rfl
  · rw [bundle, hdocument]
    rfl
  · unfold save
    rw [hdocument]

/-- The files of a scene lie directly in three directories, and no two scenes share one.  Where the
directory for saves and that of the recorded scenes are apart, a save for one scene leaves alone all
that is read or written for any other, up to detours, and these take two dots.  An id that may lead
elsewhere is refused, whatever there is on the disk. -/
theorem save_confined (hs : s.Apart here) :
    (∀ id, SceneId.isValid id → FilesLie s id) ∧
      (∀ id id', SceneId.isValid id → SceneId.isValid id' → id ≠ id' →
        ∀ path ∈ s.filesOf id, ∀ path' ∈ s.filesOf id',
          path ≠ path' ∧ destination here path ≠ destination here path') ∧
      (∀ disk id p, disk.tree.here = here → Spares s id disk.tree (save s disk id p).1.tree) ∧
      (".." ∉ Path.parts s.outputDirectory → ∀ t id, t.here = here → ¬s.Detours t id) ∧
      ∀ id, ¬SceneId.isValid id → Refuses s id := by
  refine ⟨fun id ↦ filesLie s, fun id id' hid hid' hne path h path' h' ↦ ?_,
    fun disk id p hhere ↦ ?_, fun hup t id hhere ↦ ?_, fun id ↦ refuses_of_not_isValid s⟩
  · have hdestination : destination here path ≠ destination here path' :=
      destination_ne hid hid' hne h h'
    exact ⟨fun hsame ↦ hdestination (congrArg (destination here) hsame), hdestination⟩
  · subst hhere
    exact spares_save hs id p
  · subst hhere
    exact hs.not_detours hup id

/-- The pantry is recorded and saved in two directories that are apart. -/
theorem save_confined_pantry : Pantry.settings.Apart Pantry.tree.here ∧
    Spares Pantry.settings "pantry" Pantry.tree
      (save Pantry.settings (.ofTree Pantry.tree) "pantry" ⟨[], .empty⟩).1.tree ∧
        Refuses Pantry.settings "../pantry" := by
  have hs : Pantry.settings.Apart Pantry.tree.here := ⟨by decide, by decide⟩
  obtain ⟨-, -, hspares, -, hrefuses⟩ := save_confined hs
  exact ⟨hs, hspares (.ofTree Pantry.tree) "pantry" ⟨[], .empty⟩ rfl, hrefuses _ (by decide)⟩

/-! ## A detour -/

/-- Why the store could not answer. -/
def failure? {α : Type} : Except StoreError α → Option StoreError
  | .ok _ => none
  | .error e => some e

theorem failure?_eq_some {α : Type} {r : Except StoreError α} {e : StoreError} :
    failure? r = some e ↔ r = .error e := by
  cases r with
  | ok a => exact ⟨nofun, nofun⟩
  | error e' => simp [failure?]

namespace Pantry

/-- The way to the directory for saves leads to the problem file of the attic, and from there up
again. -/
def detour : Settings := .withDirectories "data" "data/pddl/attic.pddl/../../../output"

/-- The pantry and the attic are recorded, without problem files. -/
def withAttic : FileTree :=
  (FileTree.empty.set ["data"] .directory).set ["data", "poses.json"]
    (.file ("[\x7b\"task_id\":\"pantry\",\"objects\":[]\x7d," ++
      "\x7b\"task_id\":\"attic\",\"objects\":[]\x7d]").toUTF8)

end Pantry

/-- The directories are apart, and the pantry is saved; but that makes a directory in the place of
the problem file of the attic, which could be read before and cannot be read any more. -/
theorem save_detours :
    let saved := save Pantry.detour (.ofTree Pantry.withAttic) "pantry" ⟨[], .empty⟩
    Pantry.detour.Apart Pantry.withAttic.here ∧ saved.2.isOk ∧
      (bundle Pantry.detour Pantry.withAttic "attic").isOk ∧
        bundle Pantry.detour saved.1.tree "attic" = .error (.unreadable .isDirectory) := by
  intro saved
  have hrun : saved.2.isOk ∧ (bundle Pantry.detour Pantry.withAttic "attic").isOk ∧
      failure? (bundle Pantry.detour saved.1.tree "attic") =
        some (.unreadable .isDirectory) := by decide +kernel
  obtain ⟨hsaved, hbefore, hafter⟩ := hrun
  exact ⟨⟨by decide, by decide⟩, hsaved, hbefore, failure?_eq_some.1 hafter⟩

end Store

end Rearrangement
