import Mathlib.Tactic.SplitIfs
import Rearrangement.Proofs.Store.Save

/-!
# Listed scenes

The ids of the recorded scenes are listed in order and each once, whatever the order of the file and
however often a scene is recorded (`lists_listed`).  The order is the one of the bytes that spell
the ids.  Ids are compared character by character, and the two orders are the same one
(`utf8_lt_utf8`).

A scene is found by its id if the id is listed and may become part of a file's name; then it is the
first one with this id (`document_eq`).  So what is listed need not be found: a recorded id that may
lead elsewhere is listed like any other, and refused when it is asked for (`listed_refused`).

Nothing is supposed of the file but that it is read.  It may record a scene twice, or under an id
that no request can name.

## Main statements

* `utf8_lt_utf8`: the order of texts is that of their bytes.
* `lists_listed`: what the list of identifiers is.
* `document_eq_ok`: which scenes are found.
* `document_iff_listed`: both, for any tree in which the recorded scenes can be read.
* `listed_refused`: an identifier that is listed and not found.
-/

namespace Rearrangement.Text

/-! ## The order of bytes

Texts are compared character by character.  Of two characters the smaller one is also spelled by the
smaller bytes: if it has fewer of them, its first byte is smaller, and otherwise the bytes are the
digits of the two numbers (`utf8EncodeChar_append_lt`).  So the bytes that spell texts are in the
same order as the texts (`utf8_lt_utf8`). -/

/-- The bytes that spell a text. -/
def utf8 (s : String) : List UInt8 := s.toUTF8.data.toList

theorem utf8_eq (s : String) : utf8 s = s.toList.flatMap String.utf8EncodeChar := by
  have hbytes : s.toUTF8 = (s.toList.flatMap String.utf8EncodeChar).toByteArray :=
    String.utf8Encode_toList.symm
  rw [utf8, hbytes]
  exact List.toList_data_toByteArray

/-! ### Bytes as digits -/

section Digits

variable {m n : Nat}

theorem toNat_ofNat_of_lt (h : n < 256) : (UInt8.ofNat n).toNat = n := by
  rw [UInt8.toNat_ofNat', Nat.mod_eq_of_lt h]

theorem ofNat_lt_ofNat (hm : m < 256) (hn : n < 256) : UInt8.ofNat m < UInt8.ofNat n ↔ m < n := by
  rw [UInt8.lt_iff_toNat_lt, toNat_ofNat_of_lt hm, toNat_ofNat_of_lt hn]

theorem ofNat_eq_ofNat (hm : m < 256) (hn : n < 256) : UInt8.ofNat m = UInt8.ofNat n ↔ m = n := by
  rw [← UInt8.toNat_inj, toNat_ofNat_of_lt hm, toNat_ofNat_of_lt hn]

/-- Of two numbers the smaller one has the smaller digit where they first differ in base 64. -/
theorem digits_lt (h : m < n) : m / 262144 < n / 262144 ∨ m / 262144 = n / 262144 ∧
    (m / 4096 % 64 < n / 4096 % 64 ∨ m / 4096 % 64 = n / 4096 % 64 ∧
      (m / 64 % 64 < n / 64 % 64 ∨ m / 64 % 64 = n / 64 % 64 ∧ m % 64 < n % 64)) := by
  have hlow : m / 64 < n / 64 ∨ m / 64 = n / 64 ∧ m % 64 < n % 64 := by omega
  have hmiddle : m / 4096 < n / 4096 ∨ m / 4096 = n / 4096 ∧ m / 64 % 64 ≤ n / 64 % 64 := by omega
  have hhigh : m / 262144 < n / 262144 ∨
      m / 262144 = n / 262144 ∧ m / 4096 % 64 ≤ n / 4096 % 64 := by omega
  omega

end Digits

theorem toNat_val_lt (c : Char) : c.val.toNat < 0x110000 := by
  have hvalid := c.valid
  simp only [UInt32.isValidChar, Nat.isValidChar] at hvalid
  omega

/-! ### Characters and texts -/

/-- Two characters are told apart by their own bytes, whatever comes after them. -/
theorem utf8EncodeChar_append_lt {c d : Char} (h : c < d) (xs ys : List UInt8) :
    String.utf8EncodeChar c ++ xs < String.utf8EncodeChar d ++ ys := by
  have hlt : c.val.toNat < d.val.toNat := h
  have hc := toNat_val_lt c
  have hd := toNat_val_lt d
  unfold String.utf8EncodeChar
  generalize c.val.toNat = m at hlt hc ⊢
  generalize d.val.toNat = n at hlt hd ⊢
  have hdigits := digits_lt hlt
  have hm : m / 262144 % 8 = m / 262144 := Nat.mod_eq_of_lt (by omega)
  have hn : n / 262144 % 8 = n / 262144 := Nat.mod_eq_of_lt (by omega)
  dsimp only
  rw [hm, hn]
  -- one case for each pair of lengths
  split_ifs
  all_goals
    simp (disch := omega) only [List.cons_append, List.nil_append, List.cons_lt_cons_iff,
      ofNat_lt_ofNat, ofNat_eq_ofNat]
    omega

/-- The encoding keeps the order of characters, so it keeps that of texts. -/
theorem flatMap_utf8EncodeChar_lt {cs ds : List Char} (h : cs < ds) :
    cs.flatMap String.utf8EncodeChar < ds.flatMap String.utf8EncodeChar := by
  induction cs generalizing ds with
  | nil =>
    cases ds with
    | nil => exact absurd h (List.lt_irrefl [])
    | cons d ds =>
      obtain ⟨b, bs, hb⟩ := List.exists_cons_of_ne_nil (String.utf8EncodeChar_ne_nil (c := d))
      rw [List.flatMap_cons, hb]
      exact List.nil_lt_cons b _
  | cons c cs ih =>
    cases ds with
    | nil => exact absurd h (List.not_lt_nil _)
    | cons d ds =>
      rw [List.flatMap_cons, List.flatMap_cons]
      obtain hcd | ⟨rfl, hrest⟩ := List.cons_lt_cons_iff.1 h
      · exact utf8EncodeChar_append_lt hcd _ _
      · exact List.append_left_lt (ih hrest)

/-- Texts are in order as their bytes are. -/
theorem utf8_lt_utf8 {s t : String} (h : s < t) : utf8 s < utf8 t := by
  rw [utf8_eq, utf8_eq]
  exact flatMap_utf8EncodeChar_lt h

end Rearrangement.Text

namespace Rearrangement.Store

/-! ## The ids of the recorded scenes -/

variable {s : Settings} {t : FileTree} {ds : List (SceneDocument Float)} {id : String}

/-! ### Ids in order -/

theorem mem_insertId {x : String} {ids : List String} :
    x ∈ insertId id ids ↔ x = id ∨ x ∈ ids := by
  induction ids with
  | nil => simp [insertId]
  | cons y ys ih =>
    unfold insertId
    split
    next => exact List.mem_cons
    next =>
      split
      next heq =>
        subst heq
        simp
      next => rw [List.mem_cons, ih, List.mem_cons, or_left_comm]

/-- An identifier is inserted in order. -/
theorem pairwise_insertId {ids : List String} (h : ids.Pairwise (· < ·)) :
    (insertId id ids).Pairwise (· < ·) := by
  induction ids with
  | nil => exact List.pairwise_singleton _ _
  | cons y ys ih =>
    obtain ⟨hy, hys⟩ := List.pairwise_cons.1 h
    unfold insertId
    split
    next hlt =>
      refine List.pairwise_cons.2 ⟨fun x hx ↦ ?_, h⟩
      obtain rfl | hx := List.mem_cons.1 hx
      · exact hlt
      · exact String.lt_trans hlt (hy x hx)
    next hlt =>
      split
      next => exact h
      next hne =>
        have hyid : y < id := by
          refine String.not_le.1 fun hle ↦ hne ?_
          exact String.le_antisymm hle (String.not_lt.1 hlt)
        refine List.pairwise_cons.2 ⟨fun x hx ↦ ?_, ih hys⟩
        obtain rfl | hx := mem_insertId.1 hx
        · exact hyid
        · exact hy x hx

/-- The ids of scenes, each once and in order. -/
def listed (ds : List (SceneDocument Float)) : List String := (ds.map (·.taskId)).foldr insertId []

theorem mem_listed : id ∈ listed ds ↔ ∃ d ∈ ds, d.taskId = id := by
  induction ds with
  | nil => simp [listed]
  | cons d ds ih =>
    simp only [listed, List.map_cons, List.foldr_cons, mem_insertId, List.mem_cons,
      exists_eq_or_imp]
    exact or_congr eq_comm ih

theorem pairwise_listed (ds : List (SceneDocument Float)) : (listed ds).Pairwise (· < ·) := by
  induction ds with
  | nil => exact .nil
  | cons d ds ih => exact pairwise_insertId ih

/-- The ids are those of the scenes, each once and in the order of the bytes that spell them. -/
structure Lists (ds : List (SceneDocument Float)) (ids : List String) : Prop where
  mem : ∀ id, id ∈ ids ↔ ∃ d ∈ ds, d.taskId = id
  increasing : ids.Pairwise fun x y ↦ Text.utf8 x < Text.utf8 y

/-- The list is of the identifiers of the documents, each once and in order. -/
theorem lists_listed (ds : List (SceneDocument Float)) : Lists ds (listed ds) :=
  ⟨fun _ ↦ mem_listed, (pairwise_listed ds).imp Text.utf8_lt_utf8⟩

theorem sceneIds_eq (h : documents s t = .ok ds) : sceneIds s t = .ok (listed ds) := by
  unfold sceneIds
  rw [h]
  rfl

/-! ### Finding a scene -/

/-- The scene is the first one with the id. -/
structure IsFirst (ds : List (SceneDocument Float)) (id : String) (d : SceneDocument Float) :
    Prop where
  taskId : d.taskId = id
  first : ∃ before after, ds = before ++ d :: after ∧ ∀ e ∈ before, e.taskId ≠ id

/-- The search by identifier gives the first document that has it. -/
theorem find?_eq_some {d : SceneDocument Float} :
    ds.find? (·.taskId = id) = some d ↔ IsFirst ds id d := by
  rw [List.find?_eq_some_iff_append]
  simp only [decide_eq_true_eq, Bool.not_eq_true', decide_eq_false_iff_not]
  exact ⟨fun h ↦ ⟨h.1, h.2⟩, fun h ↦ ⟨h.taskId, h.first⟩⟩

theorem exists_isFirst : (∃ d, IsFirst ds id d) ↔ id ∈ listed ds := by
  simp only [← find?_eq_some, ← Option.isSome_iff_exists, List.find?_isSome, decide_eq_true_eq]
  exact mem_listed.symm

/-- What comes of asking for a scene once the recorded ones have been read. -/
theorem document_eq (h : documents s t = .ok ds) : document s t id =
    if SceneId.isValid id then
      match ds.find? (·.taskId = id) with
      | some d => .ok d
      | none => .error (.notFound id)
    else .error (.invalidId id) := by
  unfold document SceneId.check
  rw [h]
  split <;> rfl

/-- A document is served if its identifier is valid and it is the first to have it. -/
theorem document_eq_ok {d : SceneDocument Float} (h : documents s t = .ok ds) :
    document s t id = .ok d ↔ SceneId.isValid id ∧ IsFirst ds id d := by
  rw [document_eq h, ← find?_eq_some]
  split
  next hvalid => cases hfind : ds.find? (·.taskId = id) <;> simp [hvalid]
  next hvalid => simp [hvalid]

/-- The recorded ids are listed in order and each once.  A scene is found by exactly those that are
listed and may become part of a file's name, and it is the first one with the id.  Any other id is
refused, or no scene is found by it. -/
theorem document_iff_listed (h : documents s t = .ok ds) :
    ∃ ids, sceneIds s t = .ok ids ∧ Lists ds ids ∧
      (∀ id, (∃ d, document s t id = .ok d) ↔ id ∈ ids ∧ SceneId.isValid id) ∧
        (∀ id d, document s t id = .ok d → IsFirst ds id d) ∧
          ∀ id, (¬SceneId.isValid id → document s t id = .error (.invalidId id)) ∧
            (SceneId.isValid id → id ∉ ids → document s t id = .error (.notFound id)) := by
  refine ⟨listed ds, sceneIds_eq h, lists_listed ds, fun id ↦ ?_, fun id d hd ↦ ?_,
    fun id ↦ ⟨?_, ?_⟩⟩
  · simp only [document_eq_ok h, exists_and_left, exists_isFirst, and_comm]
  · exact ((document_eq_ok h).1 hd).2
  · intro hvalid
    rw [document_eq h, if_neg hvalid]
  · intro hvalid hid
    have hnone : ds.find? (·.taskId = id) = none := by
      rw [← Option.not_isSome_iff_eq_none, Option.isSome_iff_exists]
      simpa only [find?_eq_some, exists_isFirst] using hid
    rw [document_eq h, if_pos hvalid, hnone]

/-! ### An attic -/

namespace Attic

/-- A chest is recorded twice, before a box and after it.  The id of the box leads into a
directory. -/
def scenes : List (SceneDocument Float) := [⟨"chest", []⟩, ⟨"attic/box", []⟩, ⟨"chest", []⟩]

def tree : FileTree :=
  (FileTree.empty.set ["data"] .directory).set ["data", "poses.json"]
    (.file (Json.array (scenes.map SceneDocument.toJson)).compact.toUTF8)

theorem documents_tree : documents Pantry.settings tree = .ok scenes := by rfl

theorem listed_scenes : listed scenes = ["attic/box", "chest"] := by decide

end Attic

/-- The chest is listed once and found. -/
theorem document_iff_listed_attic :
    documents Pantry.settings Attic.tree = .ok Attic.scenes ∧
      sceneIds Pantry.settings Attic.tree = .ok ["attic/box", "chest"] ∧
        ∃ d, document Pantry.settings Attic.tree "chest" = .ok d := by
  obtain ⟨ids, hids, hlists, hfound, -⟩ := document_iff_listed Attic.documents_tree
  have hlisted : ids = ["attic/box", "chest"] := by
    rw [← Attic.listed_scenes]
    exact Except.ok.inj (hids.symm.trans (sceneIds_eq Attic.documents_tree))
  subst hlisted
  exact ⟨Attic.documents_tree, hids, (hfound "chest").2 ⟨by decide, by decide⟩⟩

/-- The box is listed, but it is not found. -/
theorem listed_refused :
    (∃ ids, sceneIds Pantry.settings Attic.tree = .ok ids ∧ "attic/box" ∈ ids) ∧
      document Pantry.settings Attic.tree "attic/box" = .error (.invalidId "attic/box") := by
  refine ⟨⟨_, sceneIds_eq Attic.documents_tree, by decide⟩, ?_⟩
  exact (document_eq Attic.documents_tree).trans (if_neg (by decide))

end Rearrangement.Store
