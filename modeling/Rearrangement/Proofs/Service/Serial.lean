import Mathlib.Data.List.Induction
import Mathlib.Data.List.Nodup
import Rearrangement.Proofs.Files.Tree
import Rearrangement.Service.Schedule

/-!
# One save after the other

Whatever the order in which requests to save make their steps, the disk becomes what it would be if
they were saved one after the other, in the order in which they acquire the lock
(`Serializes.disk`), and each of them is told what comes of its save then (`Serializes.standing`).

The invariant says of a request that holds the lock what comes of its save if nobody else changes
the disk (`SaveStage.outcome?`).  Its own steps keep that (`outcome?_next`), and the other requests
cannot but wait: two that hold the lock would both be the last that has acquired it.

## Main statements

* `outcome?_next`: a step of the request that holds the lock keeps what comes of its save.
* `Standing.append`: other requests do not notice.
* `Serializes.step`: every step keeps the invariant, whoever makes it.
* `Serializes.run`: so does every run.
* `Serializes.answered_of_turn`: when nobody holds the lock, whoever has had it is answered.

There are three kinds of steps: without the lock (`set_of_idle`), with it (`set_of_holdsLock`), and
the one that acquires it (`set_of_acquires`).  Each changes one request, and the invariant is about
all of them, so the lemmas say what becomes of the others.
-/

namespace Rearrangement.Service

open Http

/-- A request that acquires the lock, by its number, with what it has been asked to save. -/
structure Acquisition where
  number : Nat
  sceneId : String
  payload : SavePayload Float

/-- An acquisition, with the disk that is found by it. -/
structure Turn extends Acquisition where
  disk : Disk

/-- What comes of a save that is made at once. -/
def Turn.outcome (s : Settings) (t : Turn) : Disk × Except StoreError Store.SavedFiles :=
  Store.save s t.disk t.sceneId t.payload

/-- What a request is told of its save. -/
def answerOf : Except StoreError Store.SavedFiles → Response
  | .ok _ => saved
  | .error e => .bare (statusOf e)

variable {s : Settings} {disk : Disk} {n : Nat} {stage : SaveStage} {free : Bool}
  {as : List Acquisition} {a : Acquisition} {t : Turn} {c : Schedule} {order : List Nat}
  {requests : List (String × ByteArray)} {seen seen' : SaveStage → Prop}

/-! ## Saves in a row -/

/-- The disk after saves that are made one after the other. -/
def serial (s : Settings) (disk : Disk) (as : List Acquisition) : Disk :=
  as.foldl (fun disk a ↦ (Turn.outcome s ⟨a, disk⟩).1) disk

/-- Saves that are made one after the other, each with the disk that those before leave. -/
def turns (s : Settings) (disk : Disk) : List Acquisition → List Turn
  | [] => []
  | a :: as => ⟨a, disk⟩ :: turns s (Turn.outcome s ⟨a, disk⟩).1 as

/-- One more turn is taken on the disk that the turns before it leave. -/
theorem serial_concat : serial s disk (as ++ [a]) = (Turn.outcome s ⟨a, serial s disk as⟩).1 :=
  List.foldl_append ..

theorem turns_append (bs : List Acquisition) :
    turns s disk (as ++ bs) = turns s disk as ++ turns s (serial s disk as) bs := by
  induction as generalizing disk with
  | nil => rfl
  | cons a as ih =>
    rw [List.cons_append, turns, ih]
    rfl

theorem turns_concat : turns s disk (as ++ [a]) = turns s disk as ++ [⟨a, serial s disk as⟩] :=
  turns_append [a]

/-- Turns are taken in the order of the acquisitions. -/
theorem map_toAcquisition_turns (s : Settings) (disk : Disk) (as : List Acquisition) :
    (turns s disk as).map (·.toAcquisition) = as := by
  induction as generalizing disk with
  | nil => rfl
  | cons a as ih => rw [turns, List.map_cons, ih]

theorem mem_of_mem_turns (h : t ∈ turns s disk as) : t.toAcquisition ∈ as := by
  rw [← map_toAcquisition_turns s disk as]
  exact List.mem_map_of_mem h

/-! ## What comes of a save under way -/

/-- What comes of a save, by what comes of its changes. -/
def told (s : Settings) (id : String) (r : Disk × Except FileError Unit) :
    Disk × Except StoreError Store.SavedFiles :=
  (r.1, match r.2 with
    | .ok () => .ok ⟨s.trajectoryFile id, s.problemFile id⟩
    | .error e => .error (.unwritable e))

/-- A save is one list of changes, told as one answer. -/
theorem save_eq_told {id : String} {p : SavePayload Float} {d : SceneDocument Float}
    (hd : Store.document s disk.tree id = .ok d) : Store.save s disk id p = told s id
      (disk.changeAll (Store.trajectoryChanges s id p ++ Store.problemChanges s id d p)) := by
  unfold Store.save told
  rw [hd]
  dsimp only
  split
  next h => rw [h]
  next h => rw [h]

namespace SaveStage

/-- What comes of the save of a request that holds the lock, if nobody else changes the disk. -/
def outcome? (s : Settings) (disk : Disk) :
    SaveStage → Option (Disk × Except StoreError Store.SavedFiles)
  | locked id p => some (Store.save s disk id p)
  | resolved id p d => some (told s id
      (disk.changeAll (Store.trajectoryChanges s id p ++ Store.problemChanges s id d p)))
  | halfWritten id p d => some (told s id (disk.changeAll (Store.problemChanges s id d p)))
  | written id _ => some (disk, .ok ⟨s.trajectoryFile id, s.problemFile id⟩)
  | failed e => some (disk, .error e)
  | received _ _ | waiting _ _ | answered _ => none

/-- Only who holds the lock has an outcome to come. -/
theorem holdsLock_of_outcome? {o : Disk × Except StoreError Store.SavedFiles}
    (h : outcome? s disk stage = some o) : stage.holdsLock := by
  cases stage with
  | received | waiting | answered => cases h
  | _ => rfl

section Next

variable {id : String} {p : SavePayload Float} {d : SceneDocument Float}

theorem next_received {body : ByteArray} : (received id body).next s free disk =
    match payload? body with
    | some p => (disk, waiting id p)
    | none => (disk, answered (.bare 400)) := rfl

theorem next_waiting : (waiting id p).next s free disk =
    (disk, if free then locked id p else waiting id p) := rfl

theorem next_locked : (locked id p).next s free disk =
    match Store.document s disk.tree id with
    | .ok d => (disk, resolved id p d)
    | .error e => (disk, failed e) := rfl

theorem next_resolved : (resolved id p d).next s free disk =
    ((disk.changeAll (Store.trajectoryChanges s id p)).1,
      afterChanges (halfWritten id p d) (disk.changeAll (Store.trajectoryChanges s id p)).2) := rfl

theorem next_halfWritten : (halfWritten id p d).next s free disk =
    ((disk.changeAll (Store.problemChanges s id d p)).1,
      afterChanges (written id p) (disk.changeAll (Store.problemChanges s id d p)).2) := rfl

/-- When the lock is taken, the outcome to come is that of the whole save; the next two lemmas say
the same of what remains of it after each step. -/
theorem outcome?_locked : outcome? s disk (locked id p) = some (Store.save s disk id p) := rfl

theorem outcome?_resolved : outcome? s disk (resolved id p d) = some (told s id
    (disk.changeAll (Store.trajectoryChanges s id p ++ Store.problemChanges s id d p))) := rfl

theorem outcome?_halfWritten : outcome? s disk (halfWritten id p d) =
    some (told s id (disk.changeAll (Store.problemChanges s id d p))) := rfl

end Next

/-- A step of a request that holds the lock keeps what comes of its save, unless it has come: then
the request is answered. -/
theorem outcome?_next {o : Disk × Except StoreError Store.SavedFiles}
    (h : outcome? s disk stage = some o) (free : Bool) :
    outcome? s (stage.next s free disk).1 (stage.next s free disk).2 = some o ∨
      stage.next s free disk = (o.1, answered (answerOf o.2)) ∧
        ∀ e, o.2 = .error e → stage = failed e := by
  cases stage with
  | received | waiting | answered => cases h
  | locked id p =>
    refine .inl (Eq.trans ?_ h)
    rw [next_locked, outcome?_locked]
    cases hd : Store.document s disk.tree id with
    | ok d => rw [save_eq_told hd, outcome?_resolved]
    | error e =>
      rw [Store.save, hd]
      rfl
  | resolved id p d =>
    refine .inl (Eq.trans ?_ h)
    -- A save is described by all its changes in a row, and the first half of them is made here.
    rw [next_resolved, outcome?_resolved, Disk.changeAll_append]
    obtain ⟨disk', e | ⟨⟨⟩⟩⟩ := disk.changeAll (Store.trajectoryChanges s id p)
    · rfl
    · exact outcome?_halfWritten
  | halfWritten id p d =>
    refine .inl (Eq.trans ?_ h)
    rw [next_halfWritten, outcome?_halfWritten]
    obtain ⟨disk', e | ⟨⟨⟩⟩⟩ := disk.changeAll (Store.problemChanges s id d p) <;> rfl
  | written id p =>
    obtain rfl := Option.some.inj h
    exact .inr ⟨rfl, nofun⟩
  | failed e =>
    obtain rfl := Option.some.inj h
    exact .inr ⟨rfl, fun e' he ↦ congrArg failed (Except.error.inj he)⟩

end SaveStage

/-! ## Steps -/

namespace SaveStage

/-- The acquisition that is the next step of the request with the given number, if it is one. -/
def acquisition? (free : Bool) (n : Nat) : SaveStage → Option Acquisition
  | waiting id p => if free then some ⟨n, id, p⟩ else none
  | _ => none

theorem acquisition?_of_holdsLock (h : stage.holdsLock) : stage.acquisition? free n = none := by
  cases stage with
  | waiting => cases h
  | _ => rfl

end SaveStage

namespace Schedule

/-- The requests as they come in, each with a scene id and a body. -/
def start (disk : Disk) (requests : List (String × ByteArray)) : Schedule :=
  ⟨disk, requests.map fun (id, body) ↦ .received id body⟩

def acquisition? (c : Schedule) (n : Nat) : Option Acquisition :=
  c.requests[n]?.bind (SaveStage.acquisition? c.lockFree n)

/-- The acquisitions of the lock, in order. -/
def acquisitions (s : Settings) (c : Schedule) : List Nat → List Acquisition
  | [] => []
  | n :: order => (c.acquisition? n).toList ++ (c.step s n).acquisitions s order

/-- The last step of a run is taken by the configuration that the others lead to. -/
theorem run_concat : c.run s (order ++ [n]) = (c.run s order).step s n := List.foldl_append ..

theorem acquisitions_concat : c.acquisitions s (order ++ [n]) =
    c.acquisitions s order ++ ((c.run s order).acquisition? n).toList := by
  induction order generalizing c with
  | nil => exact List.append_nil _
  | cons m order ih =>
    rw [List.cons_append, acquisitions, ih, acquisitions, List.append_assoc]
    rfl

/-- The lock is free if no request holds it. -/
theorem lockFree_iff :
    c.lockFree ↔ ∀ (n : Nat) stage, c.requests[n]? = some stage → ¬stage.holdsLock := by
  simp only [lockFree, Bool.not_eq_true', List.any_eq_false]
  constructor
  · exact fun h n stage hn ↦ h stage (List.mem_of_getElem? hn)
  · intro h stage hmem
    obtain ⟨n, hn⟩ := List.mem_iff_getElem?.1 hmem
    exact h n stage hn

theorem step_of_getElem? (h : c.requests[n]? = some stage) : c.step s n =
    ⟨(stage.next s c.lockFree c.disk).1, c.requests.set n (stage.next s c.lockFree c.disk).2⟩ := by
  unfold step
  rw [h]

theorem getElem?_set_cases {l : List SaveStage} {m : Nat} {other : SaveStage}
    (h : (l.set m stage)[n]? = some other) :
    n = m ∧ other = stage ∨ n ≠ m ∧ l[n]? = some other := by
  rw [List.getElem?_set] at h
  split at h
  next hnm =>
    split at h
    next => exact .inl ⟨hnm.symm, (Option.some.inj h).symm⟩
    next => cases h
  next hnm => exact .inr ⟨Ne.symm hnm, h⟩

/-- The lock is free after a step that is made without it only if it was before. -/
theorem lockFree_of_set {m : Nat} {now : Disk} {stage' : SaveStage}
    (hm : c.requests[m]? = some stage) (hidle : ¬stage.holdsLock)
    (h : lockFree ⟨now, c.requests.set m stage'⟩) : c.lockFree := by
  refine lockFree_iff.2 fun n other hn ↦ ?_
  by_cases hnm : n = m
  · subst hnm
    rwa [Option.some.inj (hn.symm.trans hm)]
  · exact lockFree_iff.1 h n other ((List.getElem?_set_ne (Ne.symm hnm)).trans hn)

/-- If the lock is free after a step, who has taken the step does not hold it. -/
theorem idle_of_set {m : Nat} {now : Disk} {stage' : SaveStage} (hm : c.requests[m]? = some stage)
    (h : lockFree ⟨now, c.requests.set m stage'⟩) : ¬stage'.holdsLock := by
  obtain ⟨hlt, -⟩ := List.getElem?_eq_some_iff.1 hm
  exact lockFree_iff.1 h m stage' (List.getElem?_set_self hlt)

/-- At some point on the way, a request is at the given stage. -/
def Reaches (s : Settings) (c : Schedule) (order : List Nat) (stage : SaveStage) : Prop :=
  ∃ before, before <+: order ∧ stage ∈ (c.run s before).requests

end Schedule

/-! ## The invariant -/

/-- The request has come in with the body that spells what is to be saved. -/
def Acquisition.IsAsked (requests : List (String × ByteArray)) (a : Acquisition) : Prop :=
  ∃ body, requests[a.number]? = some (a.sceneId, body) ∧ payload? body = some a.payload

/-- How the request with number `n` stands when those of `as` have acquired the lock and the disk is
`now`.  Stages that have been seen tell why a save has failed. -/
inductive Standing (s : Settings) (disk : Disk) (requests : List (String × ByteArray))
    (seen : SaveStage → Prop) (as : List Acquisition) (now : Disk) (n : Nat) : SaveStage → Prop
  | received {id : String} {body : ByteArray} (asked : requests[n]? = some (id, body))
      (new : ∀ a ∈ as, a.number ≠ n) :
      Standing s disk requests seen as now n (.received id body)
  | refused {id : String} {body : ByteArray} (asked : requests[n]? = some (id, body))
      (unreadable : payload? body = none) (new : ∀ a ∈ as, a.number ≠ n) :
      Standing s disk requests seen as now n (.answered (.bare 400))
  | waiting {id : String} {p : SavePayload Float} (asked : Acquisition.IsAsked requests ⟨n, id, p⟩)
      (new : ∀ a ∈ as, a.number ≠ n) :
      Standing s disk requests seen as now n (.waiting id p)
  | holding {stage : SaveStage} {xs : List Acquisition} {a : Acquisition} (last : as = xs ++ [a])
      (number : a.number = n)
      (outcome : stage.outcome? s now = some (Turn.outcome s ⟨a, serial s disk xs⟩)) :
      Standing s disk requests seen as now n stage
  | answered {t : Turn} (turn : t ∈ turns s disk as) (number : t.number = n)
      (failure : ∀ e, (t.outcome s).2 = .error e → seen (.failed e)) :
      Standing s disk requests seen as now n (.answered (answerOf (t.outcome s).2))

/-- The saves are as if they were made one after the other, in the order in which the requests
acquire the lock. -/
structure Serializes (s : Settings) (disk : Disk) (requests : List (String × ByteArray))
    (seen : SaveStage → Prop) (as : List Acquisition) (c : Schedule) : Prop where
  length : c.requests.length = requests.length
  standing : ∀ (n : Nat) stage, c.requests[n]? = some stage →
    Standing s disk requests seen as c.disk n stage
  disk : c.lockFree → c.disk = serial s disk as
  asked : ∀ a ∈ as, a.IsAsked requests
  nodup : (as.map (·.number)).Nodup

section Invariant

variable {m : Nat} {now now' : Disk} {stage' : SaveStage} {bs : List Acquisition}

/-- Who holds the lock was the last to acquire it, so its turn is the last one. -/
theorem Standing.exists_last (h : Standing s disk requests seen as now n stage)
    (hholds : stage.holdsLock) : ∃ xs a, as = xs ++ [a] ∧ a.number = n ∧
      stage.outcome? s now = some (Turn.outcome s ⟨a, serial s disk xs⟩) := by
  cases h with
  | received | refused | waiting | answered => cases hholds
  | holding last number outcome => exact ⟨_, _, last, number, outcome⟩

theorem Standing.seen_mono (h : Standing s disk requests seen as now n stage)
    (hseen : ∀ stage, seen stage → seen' stage) :
    Standing s disk requests seen' as now n stage := by
  cases h with
  | received asked new => exact .received asked new
  | refused asked unreadable new => exact .refused asked unreadable new
  | waiting asked new => exact .waiting asked new
  | holding last number outcome => exact .holding last number outcome
  | answered turn number failure => exact .answered turn number fun e he ↦ hseen _ (failure e he)

/-- A request that does not hold the lock does not notice what others do. -/
theorem Standing.append (h : Standing s disk requests seen as now n stage)
    (hidle : ¬stage.holdsLock) (hbs : ∀ b ∈ bs, b.number ≠ n) :
    Standing s disk requests seen (as ++ bs) now' n stage := by
  have hnew (new : ∀ a ∈ as, a.number ≠ n) : ∀ a ∈ as ++ bs, a.number ≠ n :=
    List.forall_mem_append.2 ⟨new, hbs⟩
  cases h with
  | received asked new => exact .received asked (hnew new)
  | refused asked unreadable new => exact .refused asked unreadable (hnew new)
  | waiting asked new => exact .waiting asked (hnew new)
  | holding last number outcome =>
    exact absurd (SaveStage.holdsLock_of_outcome? outcome) hidle
  | answered turn number failure =>
    refine .answered ?_ number failure
    rw [turns_append]
    exact List.mem_append_left _ turn

namespace Serializes

/-- No two requests hold the lock. -/
theorem eq_of_holdsLock (h : Serializes s disk requests seen as c)
    (hn : c.requests[n]? = some stage) (hm : c.requests[m]? = some stage')
    (hholds : stage.holdsLock) (hholds' : stage'.holdsLock) : n = m := by
  obtain ⟨xs, a, rfl, rfl, -⟩ := (h.standing n stage hn).exists_last hholds
  obtain ⟨ys, b, hlast, rfl, -⟩ := (h.standing m stage' hm).exists_last hholds'
  obtain ⟨-, hab⟩ := List.append_inj' hlast rfl
  rw [List.singleton_inj.1 hab]

theorem start : Serializes s disk requests seen [] (.start disk requests) where
  length := List.length_map ..
  standing n stage hn := by
    rw [Schedule.start, List.getElem?_map, Option.map_eq_some_iff] at hn
    obtain ⟨⟨id, body⟩, hasked, rfl⟩ := hn
    exact .received hasked nofun
  disk _ := rfl
  asked := nofun
  nodup := List.nodup_nil

/-- What has been seen stays so. -/
theorem seen_mono (h : Serializes s disk requests seen as c)
    (hseen : ∀ stage, seen stage → seen' stage) : Serializes s disk requests seen' as c where
  length := h.length
  standing n stage hn := (h.standing n stage hn).seen_mono hseen
  disk := h.disk
  asked := h.asked
  nodup := h.nodup

/-- One request makes a step.  If another one holds the lock, it has to find all as it was. -/
theorem set (h : Serializes s disk requests seen as c)
    (hmine : Standing s disk requests seen (as ++ bs) now m stage')
    (hothers : ∀ (n : Nat) other, n ≠ m → c.requests[n]? = some other → other.holdsLock →
      bs = [] ∧ now = c.disk)
    (hdisk : Schedule.lockFree ⟨now, c.requests.set m stage'⟩ → now = serial s disk (as ++ bs))
    (hnew : ∀ b ∈ bs, b.number = m ∧ b.IsAsked requests)
    (hnodup : ((as ++ bs).map (·.number)).Nodup) :
    Serializes s disk requests seen (as ++ bs) ⟨now, c.requests.set m stage'⟩ where
  length := List.length_set.trans h.length
  standing n other hn := by
    obtain ⟨rfl, rfl⟩ | ⟨hne, hn⟩ := Schedule.getElem?_set_cases hn
    · exact hmine
    · have hother := h.standing n other hn
      by_cases hholds : other.holdsLock
      · obtain ⟨rfl, rfl⟩ := hothers n other hne hn hholds
        rwa [List.append_nil]
      · exact hother.append hholds fun b hb ↦ (hnew b hb).1 ▸ hne.symm
  disk := hdisk
  asked := List.forall_mem_append.2 ⟨h.asked, fun b hb ↦ (hnew b hb).2⟩
  nodup := hnodup

/-- A step without the lock that leaves the disk alone. -/
theorem set_of_idle (h : Serializes s disk requests seen as c) (hm : c.requests[m]? = some stage)
    (hidle : ¬stage.holdsLock) (hmine : Standing s disk requests seen as c.disk m stage') :
    Serializes s disk requests seen as ⟨c.disk, c.requests.set m stage'⟩ := by
  rw [← List.append_nil as] at hmine ⊢
  refine h.set hmine (fun _ _ _ _ _ ↦ ⟨rfl, rfl⟩) (fun hfree ↦ ?_) nofun ?_
  · rw [List.append_nil]
    exact h.disk (Schedule.lockFree_of_set hm hidle hfree)
  · rw [List.append_nil]
    exact h.nodup

/-- A step with the lock: nobody else has it. -/
theorem set_of_holdsLock (h : Serializes s disk requests seen as c)
    (hm : c.requests[m]? = some stage) (hholds : stage.holdsLock)
    (hmine : Standing s disk requests seen as now m stage')
    (hdisk : ¬stage'.holdsLock → now = serial s disk as) :
    Serializes s disk requests seen as ⟨now, c.requests.set m stage'⟩ := by
  rw [← List.append_nil as] at hmine hdisk ⊢
  refine h.set hmine (fun n other hne hn hother ↦ ?_) (fun hfree ↦ ?_) nofun ?_
  · exact absurd (h.eq_of_holdsLock hn hm hother hholds) hne
  · exact hdisk (Schedule.idle_of_set hm hfree)
  · rw [List.append_nil]
    exact h.nodup

/-- A request acquires the lock: nobody has it. -/
theorem set_of_acquires {id : String} {p : SavePayload Float}
    (h : Serializes s disk requests seen as c) (hm : c.requests[m]? = some (.waiting id p))
    (hfree : c.lockFree) (hasked : Acquisition.IsAsked requests ⟨m, id, p⟩)
    (hnew : ∀ a ∈ as, a.number ≠ m) :
    Serializes s disk requests seen (as ++ [⟨m, id, p⟩])
      ⟨c.disk, c.requests.set m (.locked id p)⟩ := by
  refine h.set ?_ (fun n other _ hn hother ↦ ?_) (fun hfree' ↦ ?_) (fun b hb ↦ ?_) ?_
  · refine .holding rfl rfl ?_
    rw [SaveStage.outcome?_locked, h.disk hfree]
    rfl
  · exact absurd hother (Schedule.lockFree_iff.1 hfree n other hn)
  · exact absurd rfl (Schedule.idle_of_set hm hfree')
  · obtain rfl := List.mem_singleton.1 hb
    exact ⟨rfl, hasked⟩
  · rw [List.map_append]
    refine List.nodup_append.2 ⟨h.nodup, List.pairwise_singleton _ _, fun n hn n' hn' ↦ ?_⟩
    obtain ⟨a, ha, rfl⟩ := List.mem_map.1 hn
    obtain rfl := List.mem_singleton.1 hn'
    exact hnew a ha

/-- Every step of a request keeps the invariant. -/
theorem step (h : Serializes s disk requests seen as c) (hseen : ∀ stage ∈ c.requests, seen stage)
    (m : Nat) : Serializes s disk requests seen (as ++ (c.acquisition? m).toList) (c.step s m) := by
  cases hm : c.requests[m]? with
  | none =>
    rw [Schedule.acquisition?, Schedule.step, hm]
    exact (List.append_nil as).symm ▸ h
  | some stage =>
    rw [Schedule.acquisition?, Schedule.step_of_getElem? hm, hm, Option.bind_some]
    have hquiet {stage' : SaveStage} (hidle : ¬stage.holdsLock)
        (hmine : Standing s disk requests seen as c.disk m stage') :
        Serializes s disk requests seen (as ++ []) ⟨c.disk, c.requests.set m stage'⟩ := by
      rw [List.append_nil]
      exact h.set_of_idle hm hidle hmine
    cases h.standing m stage hm with
    | @received id body asked new =>
      rw [SaveStage.next_received]
      cases hp : payload? body with
      | none => exact hquiet nofun (.refused asked hp new)
      | some p => exact hquiet nofun (.waiting ⟨body, asked, hp⟩ new)
    | refused asked unreadable new => exact hquiet nofun (.refused asked unreadable new)
    | @waiting id p asked new =>
      rw [SaveStage.next_waiting, SaveStage.acquisition?]
      cases hfree : c.lockFree with
      | false => exact hquiet nofun (.waiting asked new)
      | true => exact h.set_of_acquires hm hfree asked new
    | @holding _ xs a last number outcome =>
      -- Either the save goes on, or what has come of it is told and the lock is given back.
      have hholds := SaveStage.holdsLock_of_outcome? outcome
      rw [SaveStage.acquisition?_of_holdsLock hholds, Option.toList_none, List.append_nil]
      obtain hkept | ⟨hdone, hfailure⟩ := SaveStage.outcome?_next outcome c.lockFree
      · exact h.set_of_holdsLock hm hholds (.holding last number hkept) fun hidle ↦
          absurd (SaveStage.holdsLock_of_outcome? hkept) hidle
      · subst last
        rw [hdone]
        refine h.set_of_holdsLock hm hholds (.answered ?_ number fun e he ↦ ?_) fun _ ↦ ?_
        · rw [turns_concat]
          exact List.mem_append_right _ (List.mem_singleton_self _)
        · exact hfailure e he ▸ hseen stage (List.mem_of_getElem? hm)
        · rw [serial_concat]
    | answered turn number failure => exact hquiet nofun (.answered turn number failure)

/-- So do the steps of a whole run. -/
theorem run (s : Settings) (disk : Disk) (requests : List (String × ByteArray))
    (order : List Nat) : Serializes s disk requests ((Schedule.start disk requests).Reaches s order)
      ((Schedule.start disk requests).acquisitions s order)
      ((Schedule.start disk requests).run s order) := by
  induction order using List.reverseRecOn with
  | nil => exact start
  | append_singleton order m ih =>
    rw [Schedule.acquisitions_concat, Schedule.run_concat]
    refine (ih.seen_mono fun stage ↦ ?_).step (fun stage hstage ↦ ?_) m
    · exact fun ⟨before, hbefore, hstage⟩ ↦
        ⟨before, hbefore.trans (List.prefix_append _ _), hstage⟩
    · exact ⟨order, List.prefix_append _ _, hstage⟩

/-- When nobody holds the lock, every request that has had it is told what comes of its save. -/
theorem answered_of_turn (h : Serializes s disk requests seen as c) (hfree : c.lockFree)
    (ht : t ∈ turns s disk as) :
    c.requests[t.number]? = some (.answered (answerOf (t.outcome s).2)) ∧
      ∀ e, (t.outcome s).2 = .error e → seen (.failed e) := by
  have hmem := mem_of_mem_turns ht
  obtain ⟨body, hasked, -⟩ := h.asked _ hmem
  obtain ⟨hlt, -⟩ := List.getElem?_eq_some_iff.1 hasked
  obtain ⟨stage, hn⟩ : ∃ stage, c.requests[t.number]? = some stage :=
    ⟨_, List.getElem?_eq_getElem (h.length ▸ hlt)⟩
  rw [hn]
  cases h.standing _ _ hn with
  | received asked new | refused asked unreadable new | waiting asked new =>
    exact absurd rfl (new _ hmem)
  | holding last number outcome =>
    have hholds := SaveStage.holdsLock_of_outcome? outcome
    exact absurd hholds (Schedule.lockFree_iff.1 hfree _ _ hn)
  | @answered u turn number failure =>
    have hnodup : ((turns s disk as).map (·.number)).Nodup := by
      have hnumbers := h.nodup
      rwa [← map_toAcquisition_turns s disk as, List.map_map] at hnumbers
    obtain rfl := List.inj_on_of_nodup_map hnodup turn ht number
    exact ⟨rfl, failure⟩

end Serializes

end Invariant

end Rearrangement.Service
