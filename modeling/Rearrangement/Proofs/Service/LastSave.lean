import Mathlib.Data.List.Infix
import Rearrangement.Proofs.Service.Serial
import Rearrangement.Proofs.Store.Confinement

/-!
# The last save counts

Saves that are under way at the same time never mix.  They are made one after the other, and as long
as all can be written, each of them replaces both files of its scene or none
(`Turn.outcome_cases`).  A save for another scene touches neither, so the two files of a scene come
from the last of its saves (`files_serial`), and without one they are as they were (`file?_serial`).

## Main statements

* `Turn.outcome_cases`: a save replaces both files or none, if all can be written.
* `file?_serial`, `files_serial`: the files after saves in a row.
* `saves_in_turn`: the files and the answers after requests that were handled at the same time.
* `saves_in_turn_pantry`: on two requests for one scene, with others in between.

The only thing that is asked of the disk is that no write fails on the way (`IsUnwritable`), and it
is asked of the run and not of the requests in a row.  What the requests would do one after the
other is what they do (`Serializes`), so the two come to the same.
-/

namespace Rearrangement.Service

open FileTree Http

variable {s : Settings} {disk : Disk} {requests : List (String × ByteArray)} {order : List Nat}
  {seen : SaveStage → Prop} {as : List Acquisition} {c : Schedule} {t u : Turn} {n : Nat}
  {k : Location}

/-! ## Saves in a row -/

namespace Turn

/-- The save is accepted, and both its files are written. -/
def Completes (s : Settings) (t : Turn) : Prop := ∃ files, (t.outcome s).2 = .ok files

/-- Some change that the save asks for cannot be made. -/
def IsUnwritable (s : Settings) (t : Turn) : Prop := ∃ e, (t.outcome s).2 = .error (.unwritable e)

/-- Both files of the scene hold what has been saved, with the objects of the scene that was
found. -/
def Leaves (s : Settings) (t : Turn) (tree : FileTree) : Prop :=
  ∃ d, Store.document s t.disk.tree t.sceneId = .ok d ∧
    tree.read (s.trajectoryFile t.sceneId) =
        .ok (Store.trajectoryText t.payload.actions).toUTF8 ∧
      tree.read (s.problemFile t.sceneId) =
        .ok (Problem.render t.sceneId d.objects t.payload.relations).toUTF8

/-- If all can be written, a save does all that it is asked for or nothing. -/
theorem outcome_cases (hwritable : ¬t.IsUnwritable s) :
    ¬t.Completes s ∧ (t.outcome s).1 = t.disk ∨
      t.Completes s ∧ t.Leaves s (t.outcome s).1.tree := by
  cases hd : Store.document s t.disk.tree t.sceneId with
  | error e =>
    have houtcome : t.outcome s = (t.disk, .error e) := by
      rw [outcome, Store.save, hd]
    rw [Completes, houtcome]
    refine .inl ⟨?_, rfl⟩
    rintro ⟨files, hfiles⟩
    cases hfiles
  | ok d =>
    obtain ⟨e, -, hresult, -⟩ | ⟨e, -, hresult, -⟩ | ⟨-, hresult, hsaved⟩ :=
      Store.save_of_document (p := t.payload) hd
    · exact absurd ⟨e, hresult⟩ hwritable
    · exact absurd ⟨e, hresult⟩ hwritable
    · exact .inr ⟨⟨_, hresult⟩, d, hd, hsaved.trajectory, hsaved.problem⟩

/-- Only under a valid identifier is anything saved. -/
theorem Completes.isValid (h : t.Completes s) : SceneId.isValid t.sceneId := by
  obtain ⟨files, h⟩ := h
  unfold outcome Store.save at h
  cases hd : Store.document s t.disk.tree t.sceneId with
  | error e =>
    rw [hd] at h
    cases h
  | ok d => exact Store.isValid_of_document hd

/-- What has been saved for a scene outlasts saves for others and saves that do not complete. -/
theorem Leaves.outcome (h : t.Leaves s u.disk.tree) (hwritable : ¬u.IsUnwritable s)
    (hu : u.sceneId = t.sceneId → ¬u.Completes s) : t.Leaves s (u.outcome s).1.tree := by
  obtain ⟨-, hsame⟩ | ⟨hcompletes, -⟩ := outcome_cases hwritable
  · rwa [hsame]
  · have hne : t.sceneId ≠ u.sceneId := fun hid ↦ hu hid.symm hcompletes
    obtain ⟨d, hd, htrajectory, hproblem⟩ := h
    have hid := Store.isValid_of_document hd
    refine ⟨d, hd, Store.read_save_of_ne hid hne ?_ htrajectory,
      Store.read_save_of_ne hid hne ?_ hproblem⟩
    all_goals simp [Settings.filesOf]

end Turn

theorem here_serial : (serial s disk as).tree.here = disk.tree.here := by
  induction as using List.reverseRecOn with
  | nil => rfl
  | append_singleton as a ih =>
    rw [serial_concat]
    exact (Store.keepsDirectories_save ..).here.trans ih

/-- Files of scenes for which no save completes are as they were, and so are all others. -/
theorem file?_serial (hwritable : ∀ t ∈ turns s disk as, ¬t.IsUnwritable s)
    (hk : ∀ t ∈ turns s disk as, t.Completes s →
      k ≠ destination disk.tree.here (s.trajectoryFile t.sceneId) ∧
        k ≠ destination disk.tree.here (s.problemFile t.sceneId)) :
    (serial s disk as).tree.file? k = disk.tree.file? k := by
  induction as using List.reverseRecOn with
  | nil => rfl
  | append_singleton as a ih =>
    rw [turns_concat] at hwritable hk
    rw [serial_concat]
    obtain ⟨hwritable, hwritable'⟩ := List.forall_mem_append.1 hwritable
    obtain ⟨hk, hk'⟩ := List.forall_mem_append.1 hk
    refine Eq.trans ?_ (ih hwritable hk)
    obtain ⟨-, hsame⟩ | ⟨hcompletes, -⟩ :=
      Turn.outcome_cases (hwritable' _ (List.mem_singleton_self _))
    · rw [hsame]
    · refine Store.file?_save fun _ ↦ ?_
      rw [here_serial]
      exact hk' _ (List.mem_singleton_self _) hcompletes

/-- The files of a scene come from its last save, if there is one. -/
theorem files_serial (hwritable : ∀ t ∈ turns s disk as, ¬t.IsUnwritable s) (id : String) :
    (∀ t ∈ turns s disk as, t.sceneId = id → ¬t.Completes s) ∨
      ∃ xs t ys, turns s disk as = xs ++ t :: ys ∧ t.sceneId = id ∧ t.Completes s ∧
        (∀ u ∈ ys, u.sceneId = id → ¬u.Completes s) ∧ t.Leaves s (serial s disk as).tree := by
  induction as using List.reverseRecOn with
  | nil => exact .inl nofun
  | append_singleton as a ih =>
    rw [turns_concat] at hwritable ⊢
    rw [serial_concat]
    obtain ⟨hwritable, hwritable'⟩ := List.forall_mem_append.1 hwritable
    rw [List.forall_mem_singleton] at hwritable'
    by_cases hlast : a.sceneId = id ∧ Turn.Completes s ⟨a, serial s disk as⟩
    · obtain ⟨hid, hcompletes⟩ := hlast
      obtain ⟨hnot, -⟩ | ⟨-, hleaves⟩ := Turn.outcome_cases hwritable'
      · exact absurd hcompletes hnot
      · exact .inr ⟨turns s disk as, _, [], rfl, hid, hcompletes, nofun, hleaves⟩
    · have hnot : ∀ u ∈ [(⟨a, serial s disk as⟩ : Turn)], u.sceneId = id → ¬u.Completes s :=
        List.forall_mem_singleton.2 fun hid hcompletes ↦ hlast ⟨hid, hcompletes⟩
      obtain hnone | ⟨xs, t, ys, hturns, rfl, hcompletes, hlater, hleaves⟩ := ih hwritable
      · exact .inl (List.forall_mem_append.2 ⟨hnone, hnot⟩)
      · refine .inr ⟨xs, t, ys ++ [⟨a, serial s disk as⟩], ?_, rfl, hcompletes,
          List.forall_mem_append.2 ⟨hlater, hnot⟩, ?_⟩
        · rw [hturns, List.append_assoc, List.cons_append]
        · exact Turn.Leaves.outcome (u := ⟨a, serial s disk as⟩) hleaves hwritable'
            (List.forall_mem_singleton.1 hnot)

/-! ## Saves at the same time -/

theorem answerOf_eq_saved {r : Except StoreError Store.SavedFiles} :
    answerOf r = saved ↔ ∃ files, r = .ok files := by
  cases r with
  | ok files => exact ⟨fun _ ↦ ⟨files, rfl⟩, fun _ ↦ rfl⟩
  | error e =>
    refine ⟨fun h ↦ ?_, nofun⟩
    cases congrArg Response.contentType h

/-- What a request has been told. -/
def SaveStage.answer? : SaveStage → Option Response
  | answered r => some r
  | _ => none

namespace Schedule

/-- What the request with the given number has been told. -/
def answer? (c : Schedule) (n : Nat) : Option Response := c.requests[n]?.bind SaveStage.answer?

theorem answer?_eq_some {r : Response} :
    c.answer? n = some r ↔ c.requests[n]? = some (.answered r) := by
  rw [answer?, Option.bind_eq_some_iff]
  constructor
  · rintro ⟨stage, hstage, hr⟩
    cases stage with
    | answered r' => rwa [Option.some.inj hr] at hstage
    | _ => cases hr
  · exact fun h ↦ ⟨_, h, rfl⟩

/-- The request has been told that it is saved. -/
def IsSaved (c : Schedule) (n : Nat) : Prop := c.answer? n = some saved

instance : Decidable (c.IsSaved n) := inferInstanceAs (Decidable (_ = _))

/-- No request has saved the scene, and its files are as they were. -/
structure Untouched (disk : Disk) (requests : List (String × ByteArray)) (s : Settings)
    (c : Schedule) (id : String) : Prop where
  unsaved : ∀ (n : Nat) body, requests[n]? = some (id, body) → ¬c.IsSaved n
  files : SceneId.isValid id → ∀ path ∈ [s.trajectoryFile id, s.problemFile id],
    c.disk.tree.file? (destination disk.tree.here path) =
      disk.tree.file? (destination disk.tree.here path)

/-- Both files of the scene come from the request with the last of the turns for this scene in which
something is saved. -/
def HoldsLast (ts : List Turn) (s : Settings) (c : Schedule) (id : String) : Prop :=
  ∃ xs t ys, ts = xs ++ t :: ys ∧ t.sceneId = id ∧ c.IsSaved t.number ∧
    (∀ u ∈ ys, u.sceneId = id → ¬c.IsSaved u.number) ∧ t.Leaves s c.disk.tree

end Schedule

namespace Serializes

/-- Once the lock is free, those who had it have been answered as their turn went. -/
theorem isSaved_iff (h : Serializes s disk requests seen as c) (hfree : c.lockFree)
    (ht : t ∈ turns s disk as) : c.IsSaved t.number ↔ t.Completes s := by
  rw [Schedule.IsSaved, Schedule.answer?_eq_some.2 (h.answered_of_turn hfree ht).1,
    Option.some.injEq, answerOf_eq_saved]
  rfl

/-- Who is told that it is saved has had a turn. -/
theorem exists_turn (h : Serializes s disk requests seen as c) (hn : c.IsSaved n) :
    ∃ t ∈ turns s disk as, t.number = n := by
  have hstanding := h.standing n _ (Schedule.answer?_eq_some.1 hn)
  generalize hstage : SaveStage.answered saved = stage at hstanding
  cases hstanding with
  | received | waiting => cases hstage
  | refused => cases congrArg Response.contentType (SaveStage.answered.inj hstage)
  | holding last number outcome =>
    subst hstage
    cases outcome
  | answered turn number failure => exact ⟨_, turn, number⟩

section Writable

variable (h : Serializes s disk requests seen as c) (hfree : c.lockFree)
  (hwritable : ∀ e, ¬seen (.failed (.unwritable e)))

include h hfree hwritable

theorem not_isUnwritable : ∀ t ∈ turns s disk as, ¬t.IsUnwritable s := by
  rintro t ht ⟨e, he⟩
  exact hwritable e ((h.answered_of_turn hfree ht).2 _ he)

/-- No files but those of saved scenes are touched. -/
theorem file?_eq (hk : ∀ t ∈ turns s disk as, c.IsSaved t.number →
    k ≠ destination disk.tree.here (s.trajectoryFile t.sceneId) ∧
      k ≠ destination disk.tree.here (s.problemFile t.sceneId)) :
    c.disk.tree.file? k = disk.tree.file? k := by
  rw [h.disk hfree]
  exact file?_serial (h.not_isUnwritable hfree hwritable) fun t ht hcompletes ↦
    hk t ht ((h.isSaved_iff hfree ht).2 hcompletes)

/-- Where no turn for a scene completes, no request has saved it and its files are as they were. -/
theorem untouched {id : String}
    (hnone : ∀ t ∈ turns s disk as, t.sceneId = id → ¬t.Completes s) :
    c.Untouched disk requests s id where
  unsaved n body hasked hsaved := by
    obtain ⟨t, ht, rfl⟩ := h.exists_turn hsaved
    obtain ⟨body', hasked', -⟩ := h.asked _ (mem_of_mem_turns ht)
    have hid : t.sceneId = id := congrArg Prod.fst (Option.some.inj (hasked'.symm.trans hasked))
    exact hnone t ht hid ((h.isSaved_iff hfree ht).1 hsaved)
  files hid path hpath := by
    refine h.file?_eq hfree hwritable fun t ht hsaved ↦ ?_
    have hcompletes := (h.isSaved_iff hfree ht).1 hsaved
    have hne : id ≠ t.sceneId := fun hid ↦ hnone t ht hid.symm hcompletes
    have hfiles : path ∈ s.filesOf id := List.mem_append_left [s.initialFile id] hpath
    exact Store.destination_ne_saved hid hcompletes.isValid hne hfiles

/-- Of each scene, either no save has completed or both files are those of the last that has. -/
theorem untouched_or_holdsLast (id : String) :
    c.Untouched disk requests s id ∨ c.HoldsLast (turns s disk as) s id := by
  obtain hnone | ⟨xs, t, ys, hturns, hid, hcompletes, hlater, hleaves⟩ :=
    files_serial (h.not_isUnwritable hfree hwritable) id
  · exact .inl (h.untouched hfree hwritable hnone)
  · have hsaved {u} (hu : u ∈ t :: ys) : c.IsSaved u.number ↔ u.Completes s :=
      h.isSaved_iff hfree (hturns ▸ List.mem_append_right xs hu)
    rw [← h.disk hfree] at hleaves
    exact .inr ⟨xs, t, ys, hturns, hid, (hsaved List.mem_cons_self).2 hcompletes,
      fun u hu hid ↦ mt (hsaved (List.mem_cons_of_mem t hu)).1 (hlater u hu hid), hleaves⟩

end Writable

end Serializes

/-- Requests to save come in, and they make their steps in any order.  If all can be written, then
whenever nobody holds the lock, the disk is as if the saves were made one after the other, in the
order in which the requests have acquired the lock, and so are the answers.  Both files of a scene
come from the last request that has saved it; without one, they are as they were. -/
theorem saves_in_turn
    (hfree : ((Schedule.start disk requests).run s order).lockFree)
    (hwritable : ∀ e, ¬(Schedule.start disk requests).Reaches s order (.failed (.unwritable e))) :
    let c := (Schedule.start disk requests).run s order
    let as := (Schedule.start disk requests).acquisitions s order
    c.disk = serial s disk as ∧ (as.map (·.number)).Nodup ∧ (∀ a ∈ as, a.IsAsked requests) ∧
      (∀ t ∈ turns s disk as, c.answer? t.number = some (answerOf (t.outcome s).2)) ∧
      (∀ k, (∀ t ∈ turns s disk as, c.IsSaved t.number →
          k ≠ destination disk.tree.here (s.trajectoryFile t.sceneId) ∧
            k ≠ destination disk.tree.here (s.problemFile t.sceneId)) →
        c.disk.tree.file? k = disk.tree.file? k) ∧
      ∀ id, c.Untouched disk requests s id ∨ c.HoldsLast (turns s disk as) s id := by
  intro c as
  have h := Serializes.run s disk requests order
  refine ⟨h.disk hfree, h.nodup, h.asked, fun t ht ↦ ?_, fun k ↦ h.file?_eq hfree hwritable,
    h.untouched_or_holdsLast hfree hwritable⟩
  exact Schedule.answer?_eq_some.2 (h.answered_of_turn hfree ht).1

/-! ## Saves for the pantry -/

namespace SaveStage

/-- Whether a change could not be made. -/
def isUnwritable : SaveStage → Bool
  | failed (.unwritable _) => true
  | _ => false

end SaveStage

/-- Whether all can be written on the way is found out by trying all of it. -/
theorem Schedule.not_reaches_unwritable
    (h : order.inits.all fun before ↦ (c.run s before).requests.all (!·.isUnwritable))
    (e : FileError) : ¬c.Reaches s order (.failed (.unwritable e)) := by
  rintro ⟨before, hbefore, hmem⟩
  have hstages := List.all_eq_true.1 h before ((List.mem_inits _ _).2 hbefore)
  exact absurd (List.all_eq_true.1 hstages _ hmem) nofun

namespace Pantry

/-- A body without actions. -/
def body (relations : String) : ByteArray :=
  ("\x7b\"actions\":[],\"relations\":" ++ relations ++ "\x7d").toUTF8

/-- Two requests to save the pantry, with one between them that cannot be read and one for a scene
that is not recorded. -/
def incoming : List (String × ByteArray) :=
  [("pantry", body "\x7b\x7d"), ("pantry", "\x7b".toUTF8), ("attic", body "\x7b\x7d"),
    ("pantry", body "\x7b\"closed\":[\x7b\"obj1\":\"container_08\"\x7d]\x7d")]

def start : Schedule := .start (.ofTree Store.Pantry.tree) incoming

/-- The last request waits for the lock while the first one holds it. -/
def steps : List Nat := [0, 1, 3, 2, 0, 3, 0, 0, 3, 0, 3, 2, 0, 3, 3, 3, 3, 3, 2, 2, 2, 2]

end Pantry

/-- Both requests save the pantry, and the files come from the last one. -/
theorem saves_in_turn_pantry :
    let c := Pantry.start.run Store.Pantry.settings Pantry.steps
    let as := Pantry.start.acquisitions Store.Pantry.settings Pantry.steps
    as.map (·.number) = [0, 3, 2] ∧ c.IsSaved 0 ∧ c.IsSaved 3 ∧
      c.disk = serial Store.Pantry.settings (.ofTree Store.Pantry.tree) as ∧
        c.HoldsLast (turns Store.Pantry.settings (.ofTree Store.Pantry.tree) as)
          Store.Pantry.settings "pantry" := by
  intro c as
  have hrun : c.lockFree ∧ as.map (·.number) = [0, 3, 2] ∧ c.IsSaved 0 ∧ c.IsSaved 3 := by
    decide +kernel
  have hwritable (e : FileError) :
      ¬Pantry.start.Reaches Store.Pantry.settings Pantry.steps (.failed (.unwritable e)) :=
    Schedule.not_reaches_unwritable (by decide +kernel) e
  obtain ⟨hfree, hnumbers, hfirst, hlast⟩ := hrun
  obtain ⟨hdisk, -, -, -, -, hscenes⟩ := saves_in_turn hfree hwritable
  refine ⟨hnumbers, hfirst, hlast, hdisk, ?_⟩
  obtain huntouched | hholds := hscenes "pantry"
  · exact absurd hlast (huntouched.unsaved 3 _ rfl)
  · exact hholds

end Rearrangement.Service
