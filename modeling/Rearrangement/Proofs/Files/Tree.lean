import Rearrangement.Files
import Rearrangement.Proofs.Table.Offer

/-!
# Changes of a file tree

A path that ends in a name leads to that name in the directory before it (`locate_join`), so where
it leads stays the same as long as directories do (`KeepsDirectories`).  Making a directory changes
no file, and writing to a path changes the file there and no other (`Replaces`).  A change that
fails changes nothing, whatever the disk refuses.

## Main statements

* `locate_join`: where a path that ends in a name leads.
* `makeDirectory_cases`, `write_cases`: what a change does when it succeeds.
* `KeepsDirectories.locate_join`: changes never make a path lead somewhere else.
* `Disk.changeAll_replace`: to make a directory and write a file in it replaces that file or touches
  none.

A write can fail for many reasons, and the tree is then as it was.  What is left to say of a list of
changes is which of them have been made, and these are always the first ones (`changeAll_append`).
-/

namespace Rearrangement

/-! ## Paths -/

namespace Path

/-- A part of a path that leads on to something below. -/
structure IsName (name : String) : Prop where
  noSlash : '/' ∉ name.toList
  notIdle : isIdle name.toList = false
  notUp : name ≠ ".."

variable {base name : String}

theorem IsName.not_isRooted (h : IsName name) : isRooted name = false := by
  unfold isRooted
  have hslash := h.noSlash
  cases hname : name.toList with
  | nil => rfl
  | cons c cs =>
    rw [hname] at hslash
    simp only [List.head?_cons, decide_eq_false_iff_not, Option.some.injEq]
    rintro rfl
    exact hslash List.mem_cons_self

/-- A name is one part of a path. -/
theorem IsName.pieces_eq (h : IsName name) : pieces name.toList = [name.toList] :=
  pieces_of_not_mem h.noSlash

/-- Before a name comes the path, with or without a last slash. -/
theorem IsName.exists_pieces_join (h : IsName name) (base : String) : ∃ ps,
    pieces (join base name).toList = ps ++ [name.toList] ∧
      ps.filter (!isIdle ·) = (pieces base.toList).filter (!isIdle ·) ∧
        isRooted (join base name) = isRooted base := by
  rw [join, if_neg (by simp [h.not_isRooted])]
  by_cases hnil : base.toList = []
  · refine ⟨[], ?_, ?_, ?_⟩
    · rw [if_pos (.inl hnil), String.toList_append, hnil]
      exact h.pieces_eq
    · rw [hnil]
      rfl
    · have hbase : isRooted base = false := by
        rw [isRooted, hnil]
        rfl
      have hsame : base ++ name = name := String.toList_injective (by simp [hnil])
      rw [if_pos (.inl hnil), hsame, h.not_isRooted, hbase]
  · have hrooted (rest : String) : isRooted (base ++ rest) = isRooted base := by
      obtain ⟨c, cs, hbase⟩ := List.exists_cons_of_ne_nil hnil
      rw [isRooted, isRooted, String.toList_append, hbase]
      rfl
    by_cases hslash : base.toList.getLast? = some '/'
    · obtain ⟨b, hb⟩ := List.getLast?_eq_some_iff.1 hslash
      rw [if_pos (.inr hslash)]
      refine ⟨pieces b, ?_, ?_, hrooted _⟩
      · rw [String.toList_append, hb, List.append_assoc, List.singleton_append,
          pieces_append_slash, h.pieces_eq]
      · rw [hb, pieces_append_slash, List.filter_append]
        simp [pieces, isIdle]
    · rw [if_neg (not_or.2 ⟨hnil, hslash⟩), String.append_assoc]
      refine ⟨pieces base.toList, ?_, rfl, hrooted _⟩
      rw [String.toList_append, String.toList_append]
      exact (pieces_append_slash _ _).trans (congrArg _ h.pieces_eq)

/-- A name comes after the parts of the path before it. -/
theorem IsName.parts_join (h : IsName name) : parts (join base name) = parts base ++ [name] := by
  obtain ⟨ps, hpieces, hidle, -⟩ := h.exists_pieces_join base
  rw [parts, parts, hpieces, List.filter_append, hidle, List.map_append]
  simp [h.notIdle]

/-- A path begins where it began before a name was put after it. -/
theorem IsName.isRooted_join (h : IsName name) : isRooted (join base name) = isRooted base := by
  obtain ⟨ps, -, -, hrooted⟩ := h.exists_pieces_join base
  exact hrooted

/-- A path that ends in a name does not end in a separator or a dot. -/
theorem IsName.endsIdle_join (h : IsName name) : endsIdle (join base name) = false := by
  obtain ⟨ps, hpieces, -⟩ := h.exists_pieces_join base
  rw [endsIdle, hpieces, List.getLast?_concat]
  exact h.notIdle

end Path

namespace FileTree

variable {t t' t'' : FileTree} {l l' k : Location} {base name path : String} {bytes : ByteArray}

/-! ## What stays -/

/-- The content of the file at a location. -/
def file? (t : FileTree) (l : Location) : Option ByteArray :=
  match t.get? l with
  | some (.file bytes) => some bytes
  | _ => none

/-- From `t` to `t'` no file is touched. -/
def SameFiles (t t' : FileTree) : Prop := ∀ l, t'.file? l = t.file? l

/-- From `t` to `t'` directories stay, and one stands where one stood. -/
structure KeepsDirectories (t t' : FileTree) : Prop where
  here : t'.here = t.here
  directory : ∀ l, t.get? l = some .directory → t'.get? l = some .directory

theorem get?_eq_file : t.get? l = some (.file bytes) ↔ t.file? l = some bytes := by
  unfold file?
  split
  next h => simp [h]
  next h => exact ⟨fun hfile ↦ absurd hfile (h bytes), nofun⟩

theorem SameFiles.refl (t : FileTree) : t.SameFiles t := fun _ ↦ rfl

theorem SameFiles.trans (h : t.SameFiles t') (h' : t'.SameFiles t'') : t.SameFiles t'' :=
  fun l ↦ (h' l).trans (h l)

theorem KeepsDirectories.refl (t : FileTree) : t.KeepsDirectories t := ⟨rfl, fun _ ↦ id⟩

theorem KeepsDirectories.trans (h : t.KeepsDirectories t') (h' : t'.KeepsDirectories t'') :
    t.KeepsDirectories t'' :=
  ⟨h'.here.trans h.here, fun l hl ↦ h'.directory l (h.directory l hl)⟩

/-- Where parts lead they lead as long as the directories on the way stay. -/
theorem KeepsDirectories.walk (h : t.KeepsDirectories t') {parts : List String}
    (hl : t.walk l parts = .ok l') : t'.walk l parts = .ok l' := by
  induction parts generalizing l with
  | nil => exact hl
  | cons part parts ih =>
    unfold FileTree.walk at hl ⊢
    split at hl
    next => cases hl
    next => cases hl
    next hdirectory =>
      rw [h.directory _ hdirectory]
      split at hl
      next => cases hl
      next hlimit => simpa only [hlimit, if_false] using ih hl

/-- To walk two lists of parts is to walk one after the other. -/
theorem walk_append {xs ys : List String} :
    t.walk l (xs ++ ys) = .ok l' ↔ ∃ k, t.walk l xs = .ok k ∧ t.walk k ys = .ok l' := by
  induction xs generalizing l with
  | nil => simp [FileTree.walk]
  | cons part xs ih =>
    rw [List.cons_append, FileTree.walk, FileTree.walk]
    split
    · simp
    · simp
    · split
      · simp
      · exact ih

/-- To enter a name is to go one level down. -/
theorem enter_of_isName (h : Path.IsName name) : enter l name = l ++ [name] := if_neg h.notUp

theorem origin_join (h : Path.IsName name) : origin l (Path.join base name) = origin l base := by
  rw [origin, origin, h.isRooted_join]

/-- One gets to a name from a directory, if the name is not too long. -/
theorem walk_name (h : Path.IsName name) : t.walk k [name] = .ok l ↔
    t.get? k = some .directory ∧ ¬nameLimit < name.utf8ByteSize ∧ l = k ++ [name] := by
  unfold FileTree.walk
  split
  next hnone => simp [hnone]
  next hfile => simp [hfile]
  next hdirectory =>
    by_cases hlimit : nameLimit < name.utf8ByteSize
    · simp only [hlimit, if_true, not_true, false_and, and_false, reduceCtorEq]
    · simp only [hlimit, enter_of_isName h, if_false, hdirectory, not_false_eq_true, true_and,
        walk, Except.ok.injEq, eq_comm]

/-- A path that ends in a name leads to that name in the directory before it. -/
theorem locate_join (h : Path.IsName name) : t.locate (Path.join base name) = .ok l ↔
    ¬pathLimit < (Path.join base name).utf8ByteSize ∧
      ∃ k, t.walk (origin t.here base) (Path.parts base) = .ok k ∧ t.get? k = some .directory ∧
        ¬nameLimit < name.utf8ByteSize ∧ l = k ++ [name] := by
  have hwalk : t.locate (Path.join base name) = .ok l ↔
      ¬pathLimit < (Path.join base name).utf8ByteSize ∧
        t.walk (origin t.here base) (Path.parts (Path.join base name)) = .ok l := by
    unfold locate
    split
    next hlimit => simp [hlimit]
    next hlimit =>
      rw [h.endsIdle_join, origin_join h, bind_eq_ok]
      simp only [hlimit, not_false_eq_true, true_and, Bool.false_eq_true, if_false]
      constructor
      · rintro ⟨l', hl', hl⟩
        split at hl
        all_goals
          obtain rfl := Except.ok.inj hl
          exact hl'
      · intro hl
        refine ⟨l, hl, ?_⟩
        split <;> rfl
  rw [hwalk, h.parts_join, walk_append]
  simp only [walk_name h]

/-- What can be located stays so when directories are kept. -/
theorem KeepsDirectories.locate_join (h : t.KeepsDirectories t') (hname : Path.IsName name)
    (hl : t.locate (Path.join base name) = .ok l) : t'.locate (Path.join base name) = .ok l := by
  rw [FileTree.locate_join hname] at hl ⊢
  obtain ⟨hpath, k, hk, hdirectory, hrest⟩ := hl
  rw [h.here]
  exact ⟨hpath, k, h.walk hk, h.directory k hdirectory, hrest⟩

theorem getLast?_of_locate_join (h : Path.IsName name)
    (hl : t.locate (Path.join base name) = .ok l) : l.getLast? = some name := by
  obtain ⟨-, k, -, -, -, rfl⟩ := (locate_join h).1 hl
  exact List.getLast?_concat

/-! ## Making directories -/

/-- A directory is made where nothing is. -/
theorem sameFiles_set_directory (h : t.get? l = none) :
    t.SameFiles (t.set l .directory) ∧ t.KeepsDirectories (t.set l .directory) := by
  refine ⟨fun k ↦ ?_, rfl, fun k hk ↦ ?_⟩
  · by_cases hkl : k = l
    · rw [hkl, file?, file?, get?_set_self, h]
    · rw [file?, file?, get?_set_of_ne _ _ hkl]
  · have hkl : k ≠ l := by
      rintro rfl
      cases h.symm.trans hk
    rw [get?_set_of_ne _ _ hkl, hk]

/-- To make the directories of a way writes no file and removes no directory. -/
theorem makeOnWay_cases {parts : List String} (h : t.makeOnWay l parts = .ok t') :
    t.SameFiles t' ∧ t.KeepsDirectories t' := by
  induction parts generalizing t l with
  | nil =>
    obtain rfl := Except.ok.inj h
    exact ⟨.refl t, .refl t⟩
  | cons part parts ih =>
    unfold makeOnWay at h
    split at h
    next => cases h
    next =>
      split at h
      next => cases h
      next => exact ih h
      next hnone =>
        obtain ⟨hfiles, hdirectories⟩ := sameFiles_set_directory hnone
        obtain ⟨hfiles', hdirectories'⟩ := ih h
        exact ⟨hfiles.trans hfiles', hdirectories.trans hdirectories'⟩

/-- Making a directory touches no file. -/
theorem makeDirectory_cases (h : t.makeDirectory path = .ok t') :
    t.SameFiles t' ∧ t.KeepsDirectories t' := by
  unfold makeDirectory at h
  split at h
  next => cases h
  next => exact makeOnWay_cases h

/-! ## Writing -/

/-- From `t` to `t'` the file that the path leads to is replaced, and no other. -/
structure Replaces (t t' : FileTree) (path : String) (bytes : ByteArray) (l : Location) : Prop where
  located : t'.locate path = .ok l
  content : t'.file? l = some bytes
  others : ∀ k, k ≠ l → t'.file? k = t.file? k

theorem read_of_file? (hl : t.locate path = .ok l) (h : t.file? l = some bytes) :
    t.read path = .ok bytes := by
  have hfound : t.entry path = .ok (.file bytes) :=
    bind_eq_ok.2 ⟨l, hl, by rw [get?_eq_file.2 h]⟩
  exact bind_eq_ok.2 ⟨_, hfound, rfl⟩

/-- What has been written is read again. -/
theorem Replaces.read (h : t.Replaces t' path bytes l) : t'.read path = .ok bytes :=
  read_of_file? h.located h.content

/-- A file that has been replaced stays so as long as no file is touched. -/
theorem Replaces.of_sameFiles (h : t.Replaces t' (Path.join base name) bytes l)
    (hname : Path.IsName name) (hfiles : t'.SameFiles t'') (hkeeps : t'.KeepsDirectories t'') :
    t.Replaces t'' (Path.join base name) bytes l :=
  ⟨hkeeps.locate_join hname h.located, (hfiles l).trans h.content,
    fun k hk ↦ (hfiles k).trans (h.others k hk)⟩

/-- A file is written where no directory is. -/
theorem write_cases (h : t.write path bytes = .ok t') :
    ∃ l, t.locate path = .ok l ∧ t.KeepsDirectories t' ∧ t' = t.set l (.file bytes) := by
  obtain ⟨l, hl, h⟩ := bind_eq_ok.1 h
  have hwritten : t.get? l ≠ some .directory ∧ t' = t.set l (.file bytes) := by
    split at h
    next => cases h
    next hfile => exact ⟨by simp [hfile], (Except.ok.inj h).symm⟩
    next hnone =>
      split at h
      next => cases h
      next => exact ⟨by simp [hnone], (Except.ok.inj h).symm⟩
  obtain ⟨hfree, rfl⟩ := hwritten
  refine ⟨l, hl, ⟨rfl, fun k hk ↦ ?_⟩, rfl⟩
  have hkl : k ≠ l := by
    rintro rfl
    exact hfree hk
  rw [get?_set_of_ne _ _ hkl, hk]

/-- A write that succeeds replaces one file. -/
theorem write_join_cases (hname : Path.IsName name)
    (h : t.write (Path.join base name) bytes = .ok t') :
    t.KeepsDirectories t' ∧ ∃ l, t.Replaces t' (Path.join base name) bytes l := by
  obtain ⟨l, hl, hkeeps, rfl⟩ := write_cases h
  refine ⟨hkeeps, l, hkeeps.locate_join hname hl, ?_, fun k hk ↦ ?_⟩
  · rw [file?, get?_set_self]
  · rw [file?, file?, get?_set_of_ne _ _ hk]

end FileTree

/-! ## Disks -/

namespace Disk

variable {d d' : Disk} {name : String}

/-- Changes are made one after the other, up to the first that is refused. -/
theorem changeAll_append (d : Disk) (xs ys : List FileTree.Change) :
    d.changeAll (xs ++ ys) = match d.changeAll xs with
      | (d', .ok ()) => d'.changeAll ys
      | (d', .error e) => (d', .error e) := by
  induction xs generalizing d with
  | nil => rfl
  | cons c xs ih =>
    rw [List.cons_append, changeAll, changeAll]
    cases d.change c with
    | error e => rfl
    | ok d' => exact ih d'

/-- A change that the disk takes is made to its tree. -/
theorem change_eq_ok {c : FileTree.Change} (h : d.change c = .ok d') :
    d.tree.apply c = .ok d'.tree := by
  unfold change at h
  split at h
  next => cases h
  next =>
    cases happly : d.tree.apply c with
    | error e =>
      rw [happly] at h
      cases h
    | ok t =>
      rw [happly] at h
      obtain rfl := Except.ok.inj h
      rfl

/-- Making a directory and writing a file in it either replaces the file or touches none. -/
theorem changeAll_replace (d : Disk) (base : String) (hname : Path.IsName name)
    (bytes : ByteArray) : ∃ d' r,
      d.changeAll [.makeDirectory base, .write (Path.join base name) bytes] = (d', r) ∧
        d.tree.KeepsDirectories d'.tree ∧
          ((∃ e, r = .error e ∧ d.tree.SameFiles d'.tree) ∨
            ∃ l, r = .ok () ∧ d.tree.Replaces d'.tree (Path.join base name) bytes l) := by
  rw [changeAll]
  cases hmake : d.change (.makeDirectory base) with
  | error e => exact ⟨d, _, rfl, .refl _, .inl ⟨e, rfl, .refl _⟩⟩
  | ok d₁ =>
    obtain ⟨hfiles, hkeeps⟩ := FileTree.makeDirectory_cases (change_eq_ok hmake)
    dsimp only
    rw [changeAll]
    cases hwrite : d₁.change (.write (Path.join base name) bytes) with
    | error e => exact ⟨d₁, _, rfl, hkeeps, .inl ⟨e, rfl, hfiles⟩⟩
    | ok d₂ =>
      obtain ⟨hkeeps', l, hreplaces⟩ := FileTree.write_join_cases hname (change_eq_ok hwrite)
      exact ⟨d₂, _, rfl, hkeeps.trans hkeeps', .inr ⟨l, rfl, hreplaces.located, hreplaces.content,
        fun k hk ↦ (hreplaces.others k hk).trans (hfiles k)⟩⟩

end Disk

end Rearrangement
