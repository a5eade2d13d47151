import Rearrangement.Files
import Rearrangement.Json.Reader
import Rearrangement.Problem
import Rearrangement.Relations
import Rearrangement.Text
import Rearrangement.Wire

/-!
# The store

Recorded scenes are read from one directory, and trajectories are saved in another one.

An id becomes part of a file's name, so one that could lead elsewhere is refused before any file is
looked at (`SceneId.check`).  The scenes are read anew for every question; a save looks its scene up
first and then replaces two files, one after the other.  Where a change fails, those before it stay.

What goes wrong is a `StoreError`, whose message tells of the id at most and of no path.  A file
that is not there is an error for the recorded scenes and none for the relations at the start, of
which there are none then.

The settings come from the environment.  A directory with a blank name counts as not set, and what
is no number of a port is replaced by the standard one.
-/

namespace Rearrangement

/-! ## Ids and errors

An id becomes part of a file's name, so one that could lead elsewhere is refused before any file is
looked at. -/

/-- Why the store could not do something. -/
inductive StoreError
  | notFound (sceneId : String)
  | invalidId (sceneId : String)
  /-- The recorded scenes could not be read. -/
  | unreadable (cause : FileError)
  /-- The recorded scenes are not what they should be. -/
  | malformed
  /-- A save could not be written. -/
  | unwritable (cause : FileError)
deriving DecidableEq, Repr

def StoreError.message : StoreError → String
  | notFound id => s!"scene not found: {id}"
  | invalidId id => s!"invalid scene id: {Text.quoted id}"
  | unreadable _ => "scene data unreadable"
  | malformed => "scene data malformed"
  | unwritable _ => "trajectory write failed"

namespace SceneId

/-- Whether two dots follow each other. -/
def hasDoubleDot : List Char → Bool
  | '.' :: '.' :: _ => true
  | _ :: r => hasDoubleDot r
  | [] => false

/-- Whether an id may become part of a file's name. -/
def isValid (id : String) : Bool :=
  let cs := id.toList
  cs ≠ [] && !cs.contains '/' && !cs.contains '\\' && !hasDoubleDot cs && !cs.any Text.isControl

/-- Refuse an id that may not become part of a file's name. -/
def check (id : String) : Except StoreError Unit :=
  if isValid id then .ok () else .error (.invalidId id)

/-- Where the image of a scene is found. -/
def image (id : String) : String := s!"/images/scene_{id}_rgb.png"

end SceneId

/-! ## Settings

Where the service listens, where the recorded scenes are, and where saved trajectories go. -/

structure Settings where
  listenPort : UInt16
  /-- Holds the recorded scenes, their problem files and their images. -/
  dataDirectory : String
  /-- Receives the saved trajectories and problem files. -/
  outputDirectory : String
  lids : LidMap
deriving DecidableEq, Repr

namespace Settings

def standardListenPort : UInt16 := 8000

/-- The containers of the recorded scenes with their lids. -/
def standardLids : LidMap :=
  .ofList [("container_07", "lid_01"), ("container_08", "lid_02"), ("container_09", "lid_03"),
    ("container_10", "lid_04")]

/-- The settings with the given directories and all else standard. -/
def withDirectories (dataDirectory outputDirectory : String) : Settings :=
  ⟨standardListenPort, dataDirectory, outputDirectory, standardLids⟩

/-- The number that digits spell in base ten; there has to be a digit. -/
def number? (cs : List Char) : Option Nat :=
  if cs ≠ [] ∧ cs.all Char.isDigit then
    some (cs.foldl (fun n c => 10 * n + (c.toNat - '0'.toNat)) 0)
  else none

/-- A number of sixteen bits, perhaps after a plus sign. -/
def listenPort? (text : String) : Option UInt16 := do
  let n ← number? (match text.toList with | '+' :: r => r | r => r)
  if n < UInt16.size then some (UInt16.ofNat n) else none

/-- A directory that is named, unless the name is blank. -/
def directoryOr (default : String) (named : Option String) : String :=
  (named.filter (!Text.isBlankText ·)).getD default

/-- The settings that the environment asks for.  What it does not say well is standard. -/
def ofEnvironment (listenPort dataDirectory outputDirectory : Option String) : Settings :=
  { withDirectories (directoryOr "data" dataDirectory) (directoryOr "output" outputDirectory) with
    listenPort := (listenPort >>= listenPort?).getD standardListenPort }

/-- The file with the recorded scenes. -/
def posesFile (s : Settings) : String := Path.join s.dataDirectory "poses.json"

/-- The directory with the problem files of recorded scenes. -/
def initialDirectory (s : Settings) : String := Path.join s.dataDirectory "pddl"

/-- The directory for trajectories. -/
def trajectoryDirectory (s : Settings) : String := Path.join s.outputDirectory "trajectories"

/-- The directory for the problem files of saves. -/
def problemDirectory (s : Settings) : String := Path.join s.outputDirectory "pddl"

/-- The problem file of a recorded scene. -/
def initialFile (s : Settings) (sceneId : String) : String :=
  Path.join s.initialDirectory (sceneId ++ ".pddl")

/-- Where the trajectory of a scene is saved. -/
def trajectoryFile (s : Settings) (sceneId : String) : String :=
  Path.join s.trajectoryDirectory (sceneId ++ ".json")

/-- Where the problem file of a scene is saved. -/
def problemFile (s : Settings) (sceneId : String) : String :=
  Path.join s.problemDirectory (sceneId ++ ".pddl")

end Settings

end Rearrangement

namespace Rearrangement.Store

/-! ## Recorded scenes

The scenes are read anew for every question.  The relations at the start come from the problem file
of a scene; without one there are none. -/

/-- The recorded scenes, in the order of the file. -/
def documents (s : Settings) (t : FileTree) : Except StoreError (List (SceneDocument Float)) := do
  let bytes ← (t.read s.posesFile).mapError .unreadable
  match Json.ofBytes? bytes >>= Json.list? SceneDocument.ofJson? with
  | some ds => .ok ds
  | none => .error .malformed

/-- Put an id in its place among ids that are in order, unless it is there. -/
def insertId (id : String) : List String → List String
  | [] => [id]
  | x :: xs =>
      if id < x then id :: x :: xs
      else if id = x then x :: xs
      else x :: insertId id xs

/-- The ids of the recorded scenes, each once and in order. -/
def sceneIds (s : Settings) (t : FileTree) : Except StoreError (List String) := do
  return ((← documents s t).map (·.taskId)).foldr insertId []

/-- The first recorded scene with the given id. -/
def document (s : Settings) (t : FileTree) (id : String) :
    Except StoreError (SceneDocument Float) := do
  SceneId.check id
  match (← documents s t).find? (·.taskId = id) with
  | some d => .ok d
  | none => .error (.notFound id)

/-- The relations of a scene at the start: a lid that rests on its container closes it. -/
def relations (s : Settings) (t : FileTree) (id : String) : Except StoreError RelationSet := do
  SceneId.check id
  let asserted ← match t.readText (s.initialFile id) with
    | .ok text => .ok (Problem.initRelations text)
    | .error .notFound => .ok .empty
    | .error e => .error (.unreadable e)
  return asserted.normalize s.lids

/-- All that is known about a scene at the start. -/
def bundle (s : Settings) (t : FileTree) (id : String) : Except StoreError (SceneBundle Float) := do
  let scene ← document s t id
  return { scene, image := SceneId.image id, lids := s.lids, relations := ← relations s t id }

/-! ## Saves

A save replaces two files: the list of actions, and a problem file with the objects of the scene and
the relations after the actions.  The scene is looked up first, so that nothing is written for an
unknown one. -/

/-- Where a save has gone. -/
structure SavedFiles where
  trajectory : String
  problem : String
deriving DecidableEq, Repr

/-- The content of a trajectory file. -/
def trajectoryText (actions : List (Action Float)) : String := (Action.listToJson actions).pretty

/-- The changes that replace the trajectory of a scene. -/
def trajectoryChanges (s : Settings) (id : String) (p : SavePayload Float) : List FileTree.Change :=
  [.makeDirectory s.trajectoryDirectory,
    .write (s.trajectoryFile id) (trajectoryText p.actions).toUTF8]

/-- The changes that replace the problem file of a scene. -/
def problemChanges (s : Settings) (id : String) (d : SceneDocument Float) (p : SavePayload Float) :
    List FileTree.Change :=
  [.makeDirectory s.problemDirectory,
    .write (s.problemFile id) (Problem.render id d.objects p.relations).toUTF8]

/-- Save a trajectory.  Where a change fails, those before it stay. -/
def save (s : Settings) (disk : Disk) (id : String) (p : SavePayload Float) :
    Disk × Except StoreError SavedFiles :=
  match document s disk.tree id with
  | .error e => (disk, .error e)
  | .ok d =>
      match disk.changeAll (trajectoryChanges s id p ++ problemChanges s id d p) with
      | (disk, .ok ()) => (disk, .ok ⟨s.trajectoryFile id, s.problemFile id⟩)
      | (disk, .error e) => (disk, .error (.unwritable e))

end Rearrangement.Store
