import Rearrangement.Proofs.Files.Tree

/-!
# Where paths lead

For one who stands at a given location, a path leads to the same location in all trees in which it
leads anywhere (`destination_of_locate`): two dots lead up, any other part leads down, and there are
no links.  What is found by a path depends on the locations on its way alone (`read_congr`).  A
change touches none but those on the way of its own path (`Disk.get?_changeAll`), and of the files
only the one that it writes (`Disk.file?_changeAll`).

## Main statements

* `destination_join`, `mem_way_join`: where a file is, in terms of its directory.
* `destination_of_locate`: where a path leads does not depend on the tree.
* `read_congr`: what is read depends on the way only.
* `get?_apply`, `file?_apply`: what a change may touch.
* `Disk.get?_changeAll`, `Disk.file?_changeAll`: what many changes may touch, whether or not some of
  them are refused.

A location is a list of names from the root, and a way is a list of locations.  So whether two paths
can get in each other's way is a question about lists, which is settled without any tree.
-/

namespace Rearrangement

namespace FileTree

variable {t t' : FileTree} {here l l' k : Location} {base name path : String}
  {parts xs ys : List String} {bytes : ByteArray} {c : Change}

/-! ## Ways -/

/-- Where parts lead. -/
def follow (l : Location) (parts : List String) : Location := parts.foldl enter l

/-- The locations on the way, from where it begins to where it leads. -/
def wayFrom (l : Location) : List String → List Location
  | [] => [l]
  | part :: parts => l :: wayFrom (enter l part) parts

/-- Where a path leads if it leads anywhere, for one who stands at `here`. -/
def destination (here : Location) (path : String) : Location :=
  follow (origin here path) (Path.parts path)

/-- The locations on the way of a path, for one who stands at `here`. -/
def way (here : Location) (path : String) : List Location :=
  wayFrom (origin here path) (Path.parts path)

theorem mem_wayFrom_self (l : Location) (parts : List String) : l ∈ wayFrom l parts := by
  cases parts <;> exact List.mem_cons_self

/-- The end of a way is on it. -/
theorem follow_mem_wayFrom (l : Location) (parts : List String) :
    follow l parts ∈ wayFrom l parts := by
  induction parts generalizing l with
  | nil => exact List.mem_cons_self
  | cons part parts ih => exact List.mem_cons_of_mem _ (ih _)

theorem destination_mem_way (here : Location) (path : String) :
    destination here path ∈ way here path := follow_mem_wayFrom _ _

/-- One more part makes a way longer by the place that it leads to. -/
theorem mem_wayFrom_concat : k ∈ wayFrom l (xs ++ [name]) ↔
    k ∈ wayFrom l xs ∨ k = enter (follow l xs) name := by
  induction xs generalizing l with
  | nil => simp [wayFrom, follow]
  | cons x xs ih =>
    rw [List.cons_append, wayFrom, List.mem_cons, ih, wayFrom, List.mem_cons, or_assoc]
    rfl

/-- A file lies right below the directory that its path names. -/
theorem destination_join (h : Path.IsName name) :
    destination here (Path.join base name) = destination here base ++ [name] := by
  rw [destination, origin_join h, h.parts_join, follow, List.foldl_append]
  exact enter_of_isName h

/-- On the way to a file are the places on the way to its directory, and the file. -/
theorem mem_way_join (h : Path.IsName name) :
    k ∈ way here (Path.join base name) ↔
      k ∈ way here base ∨ k = destination here base ++ [name] := by
  rw [way, origin_join h, h.parts_join, mem_wayFrom_concat, enter_of_isName h]
  rfl

/-- Without two dots the way leads down all the time. -/
theorem prefix_of_mem_wayFrom (h : ".." ∉ parts) (hk : k ∈ wayFrom l parts) :
    k <+: follow l parts := by
  have hdown (l : Location) (parts : List String) (h : ".." ∉ parts) : l <+: follow l parts := by
    induction parts generalizing l with
    | nil => exact List.prefix_refl l
    | cons part parts ih =>
      obtain ⟨hpart, hparts⟩ := not_or.1 (mt List.mem_cons.2 h)
      have henter : enter l part = l ++ [part] := if_neg (Ne.symm hpart)
      exact (henter ▸ List.prefix_append l [part]).trans (ih _ hparts)
  induction parts generalizing l with
  | nil =>
    obtain rfl := List.mem_singleton.1 hk
    exact List.prefix_refl k
  | cons part parts ih =>
    obtain rfl | hk := List.mem_cons.1 hk
    · exact hdown k _ h
    · exact ih (fun hmem ↦ h (List.mem_cons_of_mem _ hmem)) hk

/-! ## What is found by a path -/

theorem walk_cons {part : String} : t.walk l (part :: parts) =
    match t.get? l with
    | none => .error .notFound
    | some (.file _) => .error .notDirectory
    | some .directory =>
        if nameLimit < part.utf8ByteSize then .error .nameTooLong
        else t.walk (enter l part) parts := rfl

/-- To walk is to follow the parts; the tree only decides whether one gets there. -/
theorem eq_follow_of_walk (h : t.walk l parts = .ok l') : l' = follow l parts := by
  induction parts generalizing l with
  | nil => exact (Except.ok.inj h).symm
  | cons part parts ih =>
    rw [walk_cons] at h
    split at h
    next => cases h
    next => cases h
    next =>
      split at h
      next => cases h
      next => exact ih h

/-- So where a path leads is decided by the path and by where paths begin. -/
theorem destination_of_locate (h : t.locate path = .ok l) : l = destination t.here path := by
  unfold locate at h
  split at h
  next => cases h
  next =>
    obtain ⟨l', hl', h⟩ := bind_eq_ok.1 h
    obtain rfl := eq_follow_of_walk hl'
    split at h
    next =>
      split at h
      next => cases h
      next => exact (Except.ok.inj h).symm
    next => exact (Except.ok.inj h).symm

/-- Before a directory that is reached there are directories all the way. -/
theorem directory_of_walk (h : t.walk l parts = .ok l') (hl' : t.get? l' = some .directory)
    (hk : k ∈ wayFrom l parts) : t.get? k = some .directory := by
  induction parts generalizing l with
  | nil =>
    obtain rfl := Except.ok.inj h
    obtain rfl := List.mem_singleton.1 hk
    exact hl'
  | cons part parts ih =>
    rw [walk_cons] at h
    split at h
    next => cases h
    next => cases h
    next hdirectory =>
      split at h
      next => cases h
      next =>
        obtain rfl | hk := List.mem_cons.1 hk
        · exact hdirectory
        · exact ih h hk

/-- A walk depends on the entries on its way only. -/
theorem walk_congr (h : ∀ k ∈ wayFrom l parts, t'.get? k = t.get? k) :
    t'.walk l parts = t.walk l parts := by
  induction parts generalizing l with
  | nil => rfl
  | cons part parts ih =>
    rw [walk_cons, walk_cons, h l List.mem_cons_self,
      ih fun k hk ↦ h k (List.mem_cons_of_mem _ hk)]

/-- So does what is found at the end. -/
theorem entry_congr (hhere : t'.here = t.here) (h : ∀ k ∈ way t.here path, t'.get? k = t.get? k) :
    t'.entry path = t.entry path := by
  have hwalk : t'.walk (origin t.here path) (Path.parts path) =
      t.walk (origin t.here path) (Path.parts path) := walk_congr h
  have hlocate : t'.locate path = t.locate path := by
    unfold locate
    rw [hhere, hwalk]
    split
    next => rfl
    next =>
      cases hl : t.walk (origin t.here path) (Path.parts path) with
      | error e => rfl
      | ok l =>
        obtain rfl := eq_follow_of_walk hl
        simp only [bind, Except.bind]
        rw [h _ (follow_mem_wayFrom _ _)]
  unfold entry
  rw [hlocate]
  cases hl : t.locate path with
  | error e => rfl
  | ok l =>
    obtain rfl := destination_of_locate hl
    simp only [bind, Except.bind]
    rw [h _ (destination_mem_way t.here path)]

/-- What is read depends on nothing but the locations on the way. -/
theorem read_congr (hhere : t'.here = t.here) (h : ∀ k ∈ way t.here path, t'.get? k = t.get? k) :
    t'.read path = t.read path := by
  unfold read
  rw [entry_congr hhere h]

theorem file?_congr (h : t'.get? l = t.get? l) : t'.file? l = t.file? l := by
  unfold file?
  rw [h]

/-- To read a path is to get to its end and to find a file there. -/
theorem read_eq_ok : t.read path = .ok bytes ↔
    t.locate path = .ok (destination t.here path) ∧
      t.file? (destination t.here path) = some bytes := by
  refine ⟨fun h ↦ ?_, fun ⟨hl, h⟩ ↦ read_of_file? hl h⟩
  obtain ⟨e, hentry, h⟩ := bind_eq_ok.1 h
  obtain ⟨l, hl, hfound⟩ := bind_eq_ok.1 hentry
  obtain rfl := destination_of_locate hl
  refine ⟨hl, ?_⟩
  cases e with
  | directory => cases h
  | file bytes' =>
    obtain rfl := Except.ok.inj h
    refine get?_eq_file.1 ?_
    split at hfound
    next => cases hfound
    next hget => rw [hget, Except.ok.inj hfound]

/-- What has been read in a directory is read again as long as directories stay and the file is not
touched. -/
theorem KeepsDirectories.read_join (h : t.KeepsDirectories t') (hname : Path.IsName name)
    (hfile : t'.file? (destination t.here (Path.join base name)) =
      t.file? (destination t.here (Path.join base name)))
    (hread : t.read (Path.join base name) = .ok bytes) :
    t'.read (Path.join base name) = .ok bytes := by
  obtain ⟨hl, hbytes⟩ := read_eq_ok.1 hread
  exact read_of_file? (h.locate_join hname hl) (hfile.trans hbytes)

/-! ## What changes touch -/

/-- The path that is made or written. -/
def Change.target : Change → String
  | .makeDirectory path => path
  | .write path _ => path

/-- The change writes a file, and its path leads there for one who stands at `here`. -/
def Change.Writes (here : Location) (c : Change) (l : Location) : Prop :=
  ∃ path bytes, c = .write path bytes ∧ l = destination here path

theorem makeOnWay_cons {part : String} : t.makeOnWay l (part :: parts) =
    if nameLimit < part.utf8ByteSize then .error .nameTooLong
    else
      match t.get? (enter l part) with
      | some (.file _) => .error .notDirectory
      | some .directory => t.makeOnWay (enter l part) parts
      | none => (t.set (enter l part) .directory).makeOnWay (enter l part) parts := rfl

/-- Directories are only made on the way. -/
theorem get?_makeOnWay (h : t.makeOnWay l parts = .ok t') (hk : k ∉ wayFrom l parts) :
    t'.get? k = t.get? k := by
  induction parts generalizing t l with
  | nil =>
    obtain rfl := Except.ok.inj h
    rfl
  | cons part parts ih =>
    have hrest : k ∉ wayFrom (enter l part) parts := fun hmem ↦ hk (List.mem_cons_of_mem _ hmem)
    have hnext : k ≠ enter l part := fun hsame ↦ hrest (hsame ▸ mem_wayFrom_self _ _)
    rw [makeOnWay_cons] at h
    split at h
    next => cases h
    next =>
      split at h
      next => cases h
      next => exact ih h hrest
      next => exact (ih h hrest).trans (get?_set_of_ne _ _ hnext)

/-- A change leaves alone whatever is not on the way to its target. -/
theorem get?_apply (h : t.apply c = .ok t') (hk : k ∉ way t.here c.target) :
    t'.get? k = t.get? k := by
  cases c with
  | makeDirectory path =>
    change t.makeDirectory path = .ok t' at h
    unfold makeDirectory at h
    split at h
    next => cases h
    next => exact get?_makeOnWay h hk
  | write path bytes =>
    obtain ⟨l, hl, -, rfl⟩ := write_cases h
    obtain rfl := destination_of_locate hl
    have hne : k ≠ destination t.here path :=
      fun hsame ↦ hk (hsame ▸ destination_mem_way t.here path)
    exact get?_set_of_ne _ _ hne

/-- It leaves alone every file but the one it writes. -/
theorem file?_apply (h : t.apply c = .ok t') (hk : ¬c.Writes t.here k) :
    t'.file? k = t.file? k := by
  cases c with
  | makeDirectory path => exact (makeDirectory_cases h).1 k
  | write path bytes =>
    obtain ⟨l, hl, -, rfl⟩ := write_cases h
    obtain rfl := destination_of_locate hl
    have hne : k ≠ destination t.here path := fun hsame ↦ hk ⟨path, bytes, rfl, hsame⟩
    exact file?_congr (get?_set_of_ne _ _ hne)

theorem keepsDirectories_apply (h : t.apply c = .ok t') : t.KeepsDirectories t' := by
  cases c with
  | makeDirectory path => exact (makeDirectory_cases h).2
  | write path bytes =>
    obtain ⟨l, -, hkeeps, -⟩ := write_cases h
    exact hkeeps

end FileTree

namespace Disk

open FileTree

variable {k : Location} {cs : List Change}

/-- What every change that the disk takes makes of its tree holds of the tree after some changes,
made in order up to the first that fails.  All of them are made from where one stands. -/
theorem changeAll_induction {P : FileTree → FileTree → Prop} (hrefl : ∀ t, P t t)
    (htrans : ∀ {t t' t''}, P t t' → P t' t'' → P t t'') (d : Disk)
    (happly : ∀ c ∈ cs, ∀ t t', t.here = d.tree.here → t.apply c = .ok t' → P t t') :
    P d.tree (d.changeAll cs).1.tree := by
  induction cs generalizing d with
  | nil => exact hrefl _
  | cons c cs ih =>
    obtain ⟨hc, hcs⟩ := List.forall_mem_cons.1 happly
    rw [changeAll]
    cases h : d.change c with
    | error e => exact hrefl _
    | ok d' =>
      have hhere := (keepsDirectories_apply (change_eq_ok h)).here
      exact htrans (hc _ _ rfl (change_eq_ok h))
        (ih d' fun c hc t t' ht ↦ hcs c hc t t' (ht.trans hhere))

/-- Many changes leave alone whatever is on the way to none of their targets. -/
theorem get?_changeAll (d : Disk) (hk : ∀ c ∈ cs, k ∉ way d.tree.here c.target) :
    (d.changeAll cs).1.tree.get? k = d.tree.get? k :=
  changeAll_induction (P := fun t t' ↦ t'.get? k = t.get? k) (fun _ ↦ rfl)
    (fun h h' ↦ h'.trans h) d fun c hc _ _ hhere h ↦ get?_apply h (hhere ▸ hk c hc)

theorem file?_changeAll (d : Disk) (hk : ∀ c ∈ cs, ¬c.Writes d.tree.here k) :
    (d.changeAll cs).1.tree.file? k = d.tree.file? k :=
  changeAll_induction (P := fun t t' ↦ t'.file? k = t.file? k) (fun _ ↦ rfl)
    (fun h h' ↦ h'.trans h) d fun c hc _ _ hhere h ↦ file?_apply h (hhere ▸ hk c hc)

/-- No changes remove a directory, also where some of them are refused. -/
theorem keepsDirectories_changeAll (d : Disk) (cs : List Change) :
    d.tree.KeepsDirectories (d.changeAll cs).1.tree :=
  changeAll_induction KeepsDirectories.refl KeepsDirectories.trans d
    fun _ _ _ _ _ ↦ keepsDirectories_apply

end Disk

end Rearrangement
