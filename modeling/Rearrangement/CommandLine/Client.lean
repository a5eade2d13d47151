import Rearrangement.Binary64
import Rearrangement.Files
import Rearrangement.Json.Reader
import Rearrangement.Service.Message
import Rearrangement.Session.Run
import Rearrangement.Text
import Rearrangement.Wire

/-!
# Talking to the service

Addresses, what the responses of the service tell, and how a recorded trajectory is replayed action
by action until one is rejected.

The address that is given on the command line is followed by the path of a page.  It need not name a
host that can be asked (`target?`).

A replay goes through the actions of a file in a session of its own (`replayIn`), one after the
other.  Where a pose turns out other than it was recorded the log has a warning (`warnings`), and
the first action that is rejected ends the replay.
-/

namespace Rearrangement.Url

/-! ## Addresses

An address names a host and, behind it, the target of a request.  Parts of the path that are dots
are resolved, and what may not stand in a target is written with percent signs. -/

/-- Whether a character may not stand in a path as it is. -/
def isEncodedInPath (c : Char) : Bool :=
  c.toNat ≤ 0x20 || 0x7E < c.toNat || ['"', '#', '<', '>', '?', '^', '`', '\x7b', '\x7d'].contains c

/-- Whether a character may not stand in a query as it is. -/
def isEncodedInQuery (c : Char) : Bool :=
  c.toNat ≤ 0x20 || 0x7E < c.toNat || ['"', '#', '<', '>', '\''].contains c

/-- Write the characters that may not stand as they are with percent signs. -/
def encode (isEncoded : Char → Bool) (cs : List Char) : List Char :=
  cs.flatMap fun c =>
    if isEncoded c then (String.singleton c).toUTF8.toList.flatMap Percent.encodeByte else [c]

/-- A segment with its percent signs for dots resolved, in small letters. -/
def dotted : List Char → List Char
  | '%' :: '2' :: d :: r =>
      if d = 'e' ∨ d = 'E' then '.' :: dotted r else '%' :: '2' :: d :: dotted r
  | c :: r => c :: dotted r
  | [] => []

/-- The segments of a path after those with dots are resolved; `done` are the segments before, the
last one first.  A path that ends in dots ends in a slash. -/
def resolve (done : List (List Char)) : List (List Char) → List (List Char)
  | [] => done.reverse
  | segment :: rest =>
      let done := if dotted segment = ['.', '.'] then done.drop 1 else done
      if dotted segment = ['.', '.'] ∨ dotted segment = ['.'] then
        resolve (if rest = [] then [] :: done else done) rest
      else resolve (encode isEncodedInPath segment :: done) rest

/-- The path that follows the host. -/
def path (cs : List Char) : List Char :=
  let cs := cs.map fun c => if c = '\\' then '/' else c
  let segments := match Path.pieces cs with
    | [] :: ss => ss
    | ss => ss
  match resolve [] segments with
  | [] => ['/']
  | ss => ss.flatMap ('/' :: ·)

/-- What stands before the first character with a property, and what stands from there. -/
def splitAt (p : Char → Bool) (cs : List Char) : List Char × List Char :=
  (cs.takeWhile (!p ·), cs.dropWhile (!p ·))

/-- The target of a request to an address, if the address names a host that can be asked. -/
def target? (url : String) : Option String :=
  let isEdge (c : Char) : Bool := c.toNat ≤ 0x20
  let cs := ((url.toList.dropWhile isEdge).reverse.dropWhile isEdge).reverse
  let cs := cs.filter fun c => c ≠ '\t' ∧ c ≠ '\n' ∧ c ≠ '\r'
  let isSlash (c : Char) : Bool := c = '/' || c = '\\'
  let (scheme, afterScheme) := splitAt (· = ':') cs
  if scheme.map Char.toLower ≠ ['h', 't', 't', 'p'] then none
  else
    let (host, afterHost) :=
      splitAt (fun c => isSlash c || c = '?' || c = '#') ((afterScheme.drop 1).dropWhile isSlash)
    let (path, afterPath) := splitAt (fun c => c = '?' || c = '#') afterHost
    let query := match afterPath with
      | '?' :: r => '?' :: encode isEncodedInQuery (r.takeWhile (· ≠ '#'))
      | _ => []
    if afterScheme = [] ∨ host = [] then none
    else some (String.ofList (Url.path path ++ query))

end Rearrangement.Url

namespace Rearrangement.CommandLine

/-! ## Responses and replays

What may go wrong on the way to the service and back, and what is done with what it tells. -/

/-- Why a command failed. -/
inductive ClientError
  /-- The service could not be reached. -/
  | http
  /-- The service refused. -/
  | server (status : Nat) (text : String)
  /-- A text is not what it should be. -/
  | invalidJson
  /-- An input could not be read. -/
  | io (text : String)
  | session (error : SessionError)
  /-- An action was rejected; actions are counted from one. -/
  | replay (step : Nat) (kind : ActionKind) (object : ObjectId) (cause : SessionError)
deriving DecidableEq, Repr

namespace ClientError

def message : ClientError → String
  | http => "http request failed"
  | server status text => s!"server returned HTTP {status}: {text}"
  | invalidJson => "invalid JSON payload"
  | io text => s!"cannot read input: {text}"
  | session error => error.message
  | replay step kind object cause =>
      s!"step {step} ({kind.name} {object}) rejected: {cause.message}"

/-- What a failure means to a session that waits for the service. -/
def toCollaborator : ClientError → CollaboratorError
  | server status text => .status status text
  | invalidJson => .unreadable
  | e => .transport e.message

end ClientError

/-- The address of a page: the base without the slashes at its end, and the path. -/
def pageUrl (base path : String) : String :=
  String.ofList ((base.toList.reverse.dropWhile (· = '/')).reverse ++ path.toList)

/-- The text of a successful response. -/
def successText (r : Http.Response) : Except ClientError String :=
  let text := Text.decodeLossy r.body
  if r.isSuccess then .ok text else .error (.server r.status text)

/-- The value of a successful response. -/
def successValue (r : Http.Response) : Except ClientError Json := do
  match Json.read? (← successText r) >>= Json.whole? with
  | some v => .ok v.sorted
  | none => .error .invalidJson

/-- The bundle of a successful response. -/
def successBundle (r : Http.Response) : Except ClientError (SceneBundle Float) := do
  match SceneBundle.read? (← successText r) with
  | some b => .ok b
  | none => .error .invalidJson

/-- The actions that an input spells. -/
def actionsOf (text : String) : Except ClientError (List (Action Float)) :=
  match Action.readList? text with
  | some as => .ok as
  | none => .error .invalidJson

/-- A session with a bundle loaded. -/
def openBundle (b : SceneBundle Float) : Except ClientError (Session Float) :=
  match (Session.start Config.standard : Session Float).load b with
  | (s, .ok _) => .ok s
  | (_, .error e) => .error (.session (.collaborator e))

/-- Replay actions in a session, up to the first that is rejected. -/
def replayIn (s : Session Float) (as : List (Action Float)) :
    Session Float × Except ClientError Unit :=
  match s.replayAll as with
  | (s, none) => (s, .ok ())
  | (s, some (step, a, cause)) => (s, .error (.replay step a.kind a.object cause))

/-- The replayed actions that are recorded with another pose than their objects get, which the log
tells of: their positions, counted from one, and their objects. -/
def warnings (s : Session Float) (as : List (Action Float)) : List (Nat × ObjectId) :=
  go 1 s as
where
  go (step : Nat) (s : Session Float) : List (Action Float) → List (Nat × ObjectId)
    | [] => []
    | a :: as =>
        match s.replay a with
        | .ok (s, applied) =>
            (if applied.pose != a.pose then [(step, a.object)] else []) ++ go (step + 1) s as
        | .error _ => []

end Rearrangement.CommandLine
