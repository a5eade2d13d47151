import Rearrangement.CommandLine.Client
import Rearrangement.CommandLine.Inputs
import Rearrangement.Service.Answer

/-!
# The program

The command line, with the service behind it: requests are answered from the directories that the
environment names.  Every address leads to this service.

The tree of files that the store is given holds no more than what a command can ask for: the
recorded scenes, and the problem file of the scene that it names.  What the store has changed in it
is then carried out on the disk (`changesOf`).
-/

namespace Rearrangement.Main

open CommandLine

/-- The bytes of a file, if it can be read. -/
def readBytes? (path : String) : IO (Option ByteArray) := do
  try return some (← IO.FS.readBinFile path) catch _ => return none

/-- The tree with what a file on the disk holds. -/
def withFile (t : FileTree) (path directory : String) : IO FileTree := do
  match ← readBytes? path with
  | none => return t
  | some bytes => return ((t.makeDirectory directory >>= (·.write path bytes)).toOption).getD t

/-- Carry out a change on the disk. -/
def carryOut : FileTree.Change → IO Unit
  | .makeDirectory path => IO.FS.createDirAll path
  | .write path bytes => IO.FS.writeBinFile path bytes

/-- The changes that make a file of `after` out of that of `before`. -/
def changesOf (before after : FileTree) (path directory : String) : List FileTree.Change :=
  match after.read path with
  | .ok bytes =>
      if (before.read path).toOption = some bytes then []
      else [.makeDirectory directory, .write path bytes]
  | .error _ => []

/-- The id in the target of a request. -/
def sceneIdOf? (target : String) : Option String :=
  match Http.Target.ofString? target >>= fun t => Route.ofPath? t.path with
  | some (.scene segment) | some (.saveTrajectory segment) => Percent.decode? segment
  | _ => none

/-- The tree with no more than the directory where the program runs. -/
def bareTree : IO FileTree :=
  return .standingAt (Path.parts (← IO.currentDir).toString)

/-- Answer a request from the disk. -/
def serve (s : Settings) (r : Http.Request) : IO Http.Response := do
  let scenes ← withFile (← bareTree) s.posesFile s.dataDirectory
  match (sceneIdOf? r.target).filter SceneId.isValid with
  | none => return (Service.answer s (.ofTree scenes) r).2
  | some id =>
      let before ← withFile scenes (s.initialFile id) s.initialDirectory
      let (after, response) := Service.answer s (.ofTree before) r
      let changes := changesOf before after.tree (s.trajectoryFile id) s.trajectoryDirectory ++
        changesOf before after.tree (s.problemFile id) s.problemDirectory
      try
        changes.forM carryOut
        return response
      catch _ => return .bare 500

/-- The text of an input. -/
def readInput (name : String) : IO (Except ClientError String) := do
  try
    if name = standardInput then return .ok (← (← IO.getStdin).readToEnd)
    else return .ok (← IO.FS.readFile name)
  catch e => return .error (.io (toString e))

/-- The means of a command whose requests are answered from the disk. -/
def means (s : Settings) : Means IO where
  send method url body :=
    match Url.target? url with
    | none => return none
    | some target => return some (← serve s ⟨method, target, body⟩)
  readInput := readInput

end Rearrangement.Main

open Rearrangement Rearrangement.CommandLine

def main (words : List String) : IO UInt32 := do
  match Arguments.ofWords (← IO.getEnv "TABLETOP_BASE_URL") words with
  | .error e =>
      if e = .displayHelp then IO.print usage else IO.eprint usage
      return e.exitStatus
  | .ok arguments =>
      let settings := Settings.ofEnvironment (← IO.getEnv "PORT") (← IO.getEnv "DATA_DIR")
        (← IO.getEnv "OUTPUT_DIR")
      let outcome ← run (Main.means settings) arguments
      IO.print outcome.text
      match outcome.result with
      | .ok () => pure ()
      | .error e => IO.eprintln e.message
      return outcome.exitStatus
