import Rearrangement.Files
import Rearrangement.MediaType
import Rearrangement.Service.Message
import Rearrangement.Store

/-!
# Answers of the service

The service lists recorded scenes, hands them out, takes trajectories back, and serves the files of
its data directory as they are.

A response is a function of the settings, the disk and the request (`answer`).  Only a save changes
the disk; all other requests are answered from the tree.

A request is refused for its target first, then for its path and its method, then for the segments
of the path and the body, and only then by the store.  What the store cannot answer gets a status by
the kind of the error (`statusOf`).
-/

namespace Rearrangement.Images

/-! ## Files of the data directory

Files are served as they are.  A path never leads out of the directory: one with two dots as a part,
or rooted, names nothing. -/

/-- The parts of the path to a file, if none of them leads elsewhere. -/
def parts? (path : String) : Option (List String) := do
  let inside ← Percent.decode? (String.ofList (path.toList.dropWhile (· = '/')))
  let parts := Path.parts inside
  if Path.isRooted inside || parts.contains ".." then none else some parts

/-- The page of a directory. -/
def indexName : String := "index.html"

/-- What a path leads to. -/
inductive Found
  | nothing
  /-- A file, or the place of one: the path to it and its name. -/
  | file (path name : String)
  /-- A directory that was asked for without a slash at the end. -/
  | directory
deriving DecidableEq, Repr

/-- What a path leads to from `directory`.  A directory asked for with a slash at the end stands for
its page. -/
def find (directory : String) (t : FileTree) (path : String) : Found :=
  match parts? path with
  | none => .nothing
  | some parts =>
      let file := parts.foldl Path.join directory
      if t.isDirectory file then
        if path = "" ∨ path.toList.getLast? = some '/' then
          .file (Path.join file indexName) indexName
        else .directory
      else .file file (parts.getLastD "")

/-- The response where a file cannot be had. -/
def failed : FileError → Http.Response
  | .nameTooLong => .bare 500
  | _ => .bare 404

/-- Whether no file can have a path, for it contains the character that ends names. -/
def isImpossible (path : String) : Bool := path.toList.contains '\x00'

/-- Serve the file that a path leads to. -/
def serve (directory : String) (t : FileTree) (path : String) : Http.Response :=
  match find directory t path with
  | .nothing => .bare 404
  | .directory => .bare 307
  | .file file name =>
      if isImpossible file then .bare 404
      else
        match t.read file with
        | .ok bytes => .ok (MediaType.ofName name) bytes
        | .error e => failed e

/-- Tell about the file that a path leads to.  It is not opened, so anything that stands in its
place will do. -/
def describe (directory : String) (t : FileTree) (path : String) : Http.Response :=
  match find directory t path with
  | .nothing => .bare 404
  | .directory => .bare 307
  | .file file name =>
      if isImpossible file then .bare 500
      else
        match t.entry file with
        | .ok _ => .ok (MediaType.ofName name) .empty
        | .error e => failed e

end Rearrangement.Images

namespace Rearrangement.Service

/-! ## Routes and their answers -/

open Http

def json (v : Json) : Response := .ok "application/json" v.compact.toUTF8

/-- The status of a question or save that failed. -/
def statusOf : StoreError → Nat
  | .notFound _ => 404
  | .invalidId _ => 400
  | .unreadable _ | .malformed | .unwritable _ => 500

/-- The response to a question that may fail. -/
def ofResult {α : Type} (encode : α → Json) : Except StoreError α → Response
  | .ok a => json (encode a)
  | .error e => .bare (statusOf e)

/-- The response where a segment of the path stands for no text. -/
def invalidSegment : Response :=
  ⟨400, some "text/plain; charset=utf-8", none, "Invalid URL: Invalid UTF-8 in `id`".toUTF8⟩

/-- The number of bytes that a body may have. -/
def bodyLimit : Nat := 2097152

/-- The response to a body that is too long. -/
def bodyTooLong : Response :=
  ⟨413, some "text/plain; charset=utf-8", none,
    "Failed to buffer the request body: length limit exceeded".toUTF8⟩

/-- The response to a save that has gone through. -/
def saved : Response := json (.object [("message", .string "Trajectory saved successfully")])

/-- The payload that the body of a request spells. -/
def payload? (body : ByteArray) : Option (SavePayload Float) :=
  Json.ofBytes? body >>= SavePayload.ofJson?

/-- Answer a question, which changes nothing. -/
def get (s : Settings) (t : FileTree) : Route → Response
  | .scenes => ofResult (fun ids => .object [("scene_ids", .strings ids)]) (Store.sceneIds s t)
  | .scene segment =>
      match Percent.decode? segment with
      | none => invalidSegment
      | some id => ofResult SceneBundle.toJson (Store.bundle s t id)
  | .health => .bare 200
  | .image path => Images.serve s.dataDirectory t path
  | .saveTrajectory _ => .methodNotAllowed "POST"

/-- Answer a question without the body of the answer. -/
def head (s : Settings) (t : FileTree) : Route → Response
  | .image path => Images.describe s.dataDirectory t path
  | route => (get s t route).withoutBody

/-- Save the trajectory in the body of a request.  A body that spells no payload is refused before
the scene is looked up. -/
def post (s : Settings) (disk : Disk) (segment : String) (body : ByteArray) : Disk × Response :=
  match Percent.decode? segment with
  | none => (disk, invalidSegment)
  | some id =>
      if bodyLimit < body.size then (disk, bodyTooLong)
      else
        match payload? body with
        | none => (disk, .bare 400)
        | some p =>
            match Store.save s disk id p with
            | (disk, .ok _) => (disk, saved)
            | (disk, .error e) => (disk, .bare (statusOf e))

/-- Answer a request.  Any page may ask which methods there are, even where there are none. -/
def answer (s : Settings) (disk : Disk) (r : Request) : Disk × Response :=
  match Target.ofString? r.target with
  | none => (disk, .bare 400)
  | some target =>
      let route? := Route.ofPath? target.path
      if r.method = "OPTIONS" then (disk, .options (route?.bind Route.announced?))
      else
        match route? with
        | none => (disk, .bare 404)
        | some route =>
            if !route.takes r.method then (disk, .methodNotAllowed route.allow)
            else
              match route with
              | .saveTrajectory segment => post s disk segment r.body
              | route => (disk, (if r.method = "HEAD" then head else get) s disk.tree route)

end Rearrangement.Service
