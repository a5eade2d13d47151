/-!
# Files

Paths, trees of files and directories, and disks that may refuse a change.

A tree tells what there is at every location, and where one stands in it.  Nothing is said of
owners, links or times: the store looks at none of them.  A path is followed part by part, so that
what is wrong with the first part that is wrong decides how it fails, and a limit on the length of
names and paths is among the things that can be wrong.

A disk is a tree together with the changes that cannot be made to it, for whatever reason.  What is
said about saves is said of every disk, so that it covers a full one as well as one that is taken
away in the middle of a save.
-/

-- Bytes are compared by this instance, whatever others are in scope.
attribute [instance (1100)] ByteArray.instDecidableEq

namespace Rearrangement.Path

/-! ## Paths

A path is a text whose parts are separated by slashes.  A path that begins with a slash is rooted
and begins at the root; any other path leads on from where one stands. -/

/-- The pieces of a text between slashes, at least one. -/
def pieces : List Char → List (List Char)
  | [] => [[]]
  | c :: r =>
      if c = '/' then [] :: pieces r
      else
        match pieces r with
        | [] => [[c]]
        | p :: ps => (c :: p) :: ps

theorem pieces_ne_nil (cs : List Char) : pieces cs ≠ [] := by
  cases cs with
  | nil => simp [pieces]
  | cons c r =>
    unfold pieces
    split
    · simp
    · split <;> simp

/-- A name without a slash is its own only piece. -/
theorem pieces_of_not_mem {cs : List Char} (h : '/' ∉ cs) : pieces cs = [cs] := by
  induction cs with
  | nil => rfl
  | cons c r ih =>
    obtain ⟨hc, hr⟩ : c ≠ '/' ∧ '/' ∉ r := by
      simp only [List.mem_cons, not_or] at h
      exact ⟨fun e => h.1 e.symm, h.2⟩
    simp [pieces, hc, ih hr]

/-- What follows the name of a directory and a slash comes after the pieces of that name. -/
theorem pieces_append_slash (cs r : List Char) :
    pieces (cs ++ '/' :: r) = pieces cs ++ pieces r := by
  induction cs with
  | nil => simp [pieces]
  | cons c cs ih =>
    by_cases hc : c = '/'
    · simp [pieces, hc, ih]
    · obtain ⟨p, ps, hp⟩ := List.exists_cons_of_ne_nil (pieces_ne_nil cs)
      simp [pieces, hc, ih, hp]

/-- Whether a piece leads nowhere: it is empty or a single dot. -/
def isIdle (piece : List Char) : Bool := piece = [] || piece = ['.']

/-- Whether a path begins with a slash. -/
def isRooted (path : String) : Bool := path.toList.head? = some '/'

/-- The parts of a path that lead on, from the first to the last. -/
def parts (path : String) : List String :=
  ((pieces path.toList).filter (!isIdle ·)).map String.ofList

/-- Whether a path can only name a directory, for it ends in a slash or in an idle part. -/
def endsIdle (path : String) : Bool := (pieces path.toList).getLast?.any isIdle

/-- The path that leads on from `base`; a rooted path replaces it. -/
def join (base next : String) : String :=
  if isRooted next then next
  else if base.toList = [] ∨ base.toList.getLast? = some '/' then base ++ next
  else base ++ "/" ++ next

end Rearrangement.Path

namespace Rearrangement

/-! ## Trees -/

/-- Why a file could not be read or written. -/
inductive FileError
  | notFound
  | notDirectory
  | isDirectory
  | nameTooLong
  /-- The content is no text. -/
  | notText
  /-- The disk does not take the change. -/
  | refused
deriving DecidableEq, Repr

/-- What there is at a location. -/
inductive FileTree.Entry
  | file (bytes : ByteArray)
  | directory
deriving DecidableEq

/-- A location is the list of the names that lead to it from the root. -/
abbrev FileTree.Location := List String

/-- What there is at every location, as it is seen from one of them. -/
structure FileTree where
  /-- Where one stands: a path that is not rooted begins there. -/
  here : FileTree.Location
  get? : FileTree.Location → Option FileTree.Entry

namespace FileTree

/-- The tree with no more than the directory where one stands and those that lead to it. -/
def standingAt (here : Location) : FileTree :=
  ⟨here, fun l => if l.isPrefixOf here then some .directory else none⟩

/-- The tree with no more than the root, where one stands. -/
def empty : FileTree := standingAt []

instance : Inhabited FileTree := ⟨empty⟩

/-- Put an entry at a location. -/
def set (t : FileTree) (l : Location) (e : Entry) : FileTree :=
  { t with get? := fun k => if k = l then some e else t.get? k }

@[simp] theorem here_set (t : FileTree) (l : Location) (e : Entry) : (t.set l e).here = t.here :=
  rfl

@[simp] theorem get?_set_self (t : FileTree) (l : Location) (e : Entry) :
    (t.set l e).get? l = some e := by simp [set]

/-- To put an entry at one location touches no other. -/
theorem get?_set_of_ne (t : FileTree) {k l : Location} (e : Entry) (h : k ≠ l) :
    (t.set l e).get? k = t.get? k := by simp [set, h]

/-- The number of bytes that a name may have. -/
def nameLimit : Nat := 255

/-- The number of bytes that a path may have. -/
def pathLimit : Nat := 4095

/-- Where a path begins for one who stands at the given location. -/
def origin (here : Location) (path : String) : Location := if Path.isRooted path then [] else here

/-- Where a part leads.  Above the root there is nothing but the root. -/
def enter (l : Location) (part : String) : Location :=
  if part = ".." then l.dropLast else l ++ [part]

/-- Follow parts from a location.  All but the last of the locations on the way have to be
directories. -/
def walk (t : FileTree) (l : Location) : List String → Except FileError Location
  | [] => .ok l
  | part :: parts =>
      match t.get? l with
      | none => .error .notFound
      | some (.file _) => .error .notDirectory
      | some .directory =>
          if nameLimit < part.utf8ByteSize then .error .nameTooLong
          else t.walk (enter l part) parts

/-- The location that a path leads to, whether or not something is there. -/
def locate (t : FileTree) (path : String) : Except FileError Location :=
  if pathLimit < path.utf8ByteSize then .error .nameTooLong
  else do
    let l ← t.walk (origin t.here path) (Path.parts path)
    match t.get? l with
    | some (.file _) => if Path.endsIdle path then .error .notDirectory else .ok l
    | _ => .ok l

/-- What a path leads to. -/
def entry (t : FileTree) (path : String) : Except FileError Entry := do
  match t.get? (← t.locate path) with
  | none => .error .notFound
  | some e => .ok e

/-- The content of a file. -/
def read (t : FileTree) (path : String) : Except FileError ByteArray := do
  match ← t.entry path with
  | .directory => .error .isDirectory
  | .file bytes => .ok bytes

/-- The content of a file that holds text. -/
def readText (t : FileTree) (path : String) : Except FileError String := do
  match String.fromUTF8? (← t.read path) with
  | some text => .ok text
  | none => .error .notText

/-- Whether a path leads to a directory. -/
def isDirectory (t : FileTree) (path : String) : Bool :=
  match t.locate path with
  | .ok l => t.get? l = some .directory
  | .error _ => false

/-- Follow parts from a directory and make the directories that are missing on the way. -/
def makeOnWay (t : FileTree) (l : Location) : List String → Except FileError FileTree
  | [] => .ok t
  | part :: parts =>
      if nameLimit < part.utf8ByteSize then .error .nameTooLong
      else
        match t.get? (enter l part) with
        | some (.file _) => .error .notDirectory
        | some .directory => t.makeOnWay (enter l part) parts
        | none => (t.set (enter l part) .directory).makeOnWay (enter l part) parts

/-- Make a directory and those that lead to it, unless they are there. -/
def makeDirectory (t : FileTree) (path : String) : Except FileError FileTree :=
  if pathLimit < path.utf8ByteSize then .error .nameTooLong
  else t.makeOnWay (origin t.here path) (Path.parts path)

/-- Give a file a new content.  Its directory has to be there. -/
def write (t : FileTree) (path : String) (bytes : ByteArray) : Except FileError FileTree := do
  let l ← t.locate path
  match t.get? l with
  | some .directory => .error .isDirectory
  | some (.file _) => .ok (t.set l (.file bytes))
  | none => if Path.endsIdle path then .error .isDirectory else .ok (t.set l (.file bytes))

/-- One change of a tree. -/
inductive Change
  | makeDirectory (path : String)
  | write (path : String) (bytes : ByteArray)
deriving DecidableEq

/-- The tree after a change. -/
def apply (t : FileTree) : Change → Except FileError FileTree
  | .makeDirectory path => t.makeDirectory path
  | .write path bytes => t.write path bytes

end FileTree

/-- A file tree together with the changes that cannot be made to it, whatever the reason. -/
structure Disk where
  tree : FileTree
  refuses : FileTree.Change → Bool

namespace Disk

/-- A disk that takes all changes. -/
def ofTree (t : FileTree) : Disk := ⟨t, fun _ => false⟩

/-- The disk after a change. -/
def change (d : Disk) (c : FileTree.Change) : Except FileError Disk :=
  if d.refuses c then .error .refused else (d.tree.apply c).map fun tree => { d with tree }

/-- Make changes in order up to the first that fails.  The changes before it stay. -/
def changeAll (d : Disk) : List FileTree.Change → Disk × Except FileError Unit
  | [] => (d, .ok ())
  | c :: cs =>
      match d.change c with
      | .ok d => d.changeAll cs
      | .error e => (d, .error e)

end Disk

end Rearrangement
