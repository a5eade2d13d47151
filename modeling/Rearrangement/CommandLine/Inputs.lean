import Rearrangement.CommandLine.Arguments
import Rearrangement.CommandLine.Client
import Rearrangement.Files

/-!
# What a command reads and prints

A command is run with the means to send requests and to read inputs, in any monad: the program gives
it those of the machine, and `Means.offline` those of a file tree.  It answers with the lines that
are printed and the way it ends.

Nothing that a command prints depends on the machine except through these means, so what is printed
for given files and responses can be worked out without one.  The lines and the way a command ends
are kept apart (`Outcome`): a replay whose save then fails has printed its report all the same.
-/

namespace Rearrangement.CommandLine

/-! ## Running a command -/

/-- The means that a command has. -/
structure Means (m : Type → Type) where
  /-- Send a request with the given method and body to an address; none if nobody answers. -/
  send : (method url : String) → (body : ByteArray) → m (Option Http.Response)
  /-- Read the input of the given name. -/
  readInput : String → m (Except ClientError String)

/-- The lines that a command prints, and how it ends. -/
structure Outcome where
  lines : List String
  result : Except ClientError Unit

namespace Outcome

def fail (e : ClientError) : Outcome := ⟨[], .error e⟩

def done (lines : List String) : Outcome := ⟨lines, .ok ()⟩

/-- Print a value, or fail. -/
def ofValue : Except ClientError Json → Outcome
  | .ok v => done [v.pretty]
  | .error e => fail e

/-- All that is printed, each line with its end. -/
def text (o : Outcome) : String := String.join (o.lines.map (· ++ "\n"))

end Outcome

variable {m : Type → Type} [Monad m]

namespace Means

/-- Send a request and take the response apart. -/
def ask {α : Type} (means : Means m) (method url : String) (body : ByteArray)
    (take : Http.Response → Except ClientError α) : m (Except ClientError α) := do
  match ← means.send method url body with
  | none => return .error .http
  | some r => return take r

end Means

/-- What is printed after a replay. -/
def replayReport (sceneId : String) (s : Session Float) : Json :=
  Json.sorted (.object [("scene_id", .string sceneId), ("steps", .nat s.trajectory.length),
    ("relations", s.relations.toJson)])

/-- Save the trajectory of a session.  Whatever goes wrong is the fault of the service. -/
def saveBack (means : Means m) (base : String) (s : Session Float) :
    m (Except ClientError Unit) := do
  match s.saveRequest with
  | .error e => return .error (.session (.precondition e))
  | .ok request =>
      let answer ← means.ask "POST" (pageUrl base s!"/save_trajectory/{request.sceneId}")
        request.payload.toJson.compact.toUTF8 successValue
      return (answer.map fun _ => ()).mapError fun e => .session (.collaborator e.toCollaborator)

/-- Replay an input in a scene. -/
def runReplay (means : Means m) (base sceneId input : String) (save : Bool) : m Outcome := do
  match (← means.readInput input) >>= actionsOf with
  | .error e => return .fail e
  | .ok actions =>
      let opened ← means.ask "GET" (pageUrl base s!"/scene/{sceneId}") .empty successBundle
      match opened >>= openBundle with
      | .error e => return .fail e
      | .ok s =>
          match replayIn s actions with
          | (_, .error e) => return .fail e
          | (s, .ok ()) =>
              let report := (replayReport sceneId s).pretty
              if save then
                match ← saveBack means base s with
                | .ok () => return .done [report, "saved"]
                | .error e => return ⟨[report], .error e⟩
              else return .done [report]

/-- Run a command. -/
def run (means : Means m) (a : Arguments) : m Outcome := do
  match a.command with
  | .ping =>
      let healthy (r : Http.Response) : Except ClientError Unit :=
        if r.isSuccess then .ok () else .error (.server r.status "health check failed")
      match ← means.ask "GET" (pageUrl a.baseUrl "/healthz") .empty healthy with
      | .ok () => return .done ["ok"]
      | .error e => return .fail e
  | .scenes => return .ofValue (← means.ask "GET" (pageUrl a.baseUrl "/scenes") .empty successValue)
  | .show id =>
      return .ofValue (← means.ask "GET" (pageUrl a.baseUrl s!"/scene/{id}") .empty successValue)
  | .replay id input save => runReplay means a.baseUrl id input save

/-! ## Inputs of a command

What a command can read: files and what is typed.  Devices stand among the files; one of them is
always empty, another one gives what is typed. -/

/-- The text of a file, if it is there and is text. -/
def fileText (t : FileTree) (path : String) : Except ClientError String :=
  (t.readText path).mapError fun _ => .io "unreadable"

/-- The tree with its devices, where `typed` is what is typed. -/
def withDevices (t : FileTree) (typed : ByteArray) : Except FileError FileTree := do
  let t ← t.makeDirectory "/dev"
  let t ← t.write "/dev/null" .empty
  t.write "/dev/stdin" typed

/-- The text of the input of the given name. -/
def inputText (t : FileTree) (typed : ByteArray) (name : String) : Except ClientError String :=
  let t := (withDevices t typed).toOption.getD t
  fileText t (if name = standardInput then "/dev/stdin" else name)

/-- The means of a command whose requests nobody answers. -/
def Means.offline (t : FileTree) (typed : ByteArray) : Means Id where
  send _ _ _ := none
  readInput := inputText t typed

/-! ## Help and exit statuses -/

/-- What is printed where help is asked for. -/
def usage : String :=
  "\n".intercalate [
    "Client for tabletop scenes and replayer of trajectories",
    "",
    "Usage: rearrangement [--base-url <URL>] <COMMAND>",
    "",
    "Commands:",
    "  ping                                     Check that the service is up",
    "  scenes                                   List the recorded scenes",
    "  show <SCENE_ID>                          Show a scene",
    "  replay <SCENE_ID> [--input <FILE>] [--save]",
    "                                           Replay a trajectory, and perhaps save it",
    "  help                                     Show this help",
    ""]

/-- The exit status where the words form no command. -/
def ArgumentError.exitStatus : ArgumentError → UInt32
  | displayHelp => 0
  | _ => 2

/-- The exit status of a command. -/
def Outcome.exitStatus (o : Outcome) : UInt32 :=
  match o.result with
  | .ok () => 0
  | .error _ => 1

end Rearrangement.CommandLine
