import Rearrangement.Files

/-!
# Messages of the service

Requests and responses, and how the target of a request is read: the path in it, what percent signs
stand for, and which page or file the path names.

A target is split before percent signs are decoded, so that an encoded slash never separates
segments.  A segment that spells no text after decoding is told apart from one that names nothing.

`Target.ofString?` accepts what may stand in the first line of a request, character by character,
and `Route.ofPath?` says which page its path names.  What methods a page takes is a matter of the
route alone (`Route.takes`), so a request can be refused before its body is looked at.
-/

-- Bytes are compared by this instance, whatever others are in scope.
attribute [instance (1100)] ByteArray.instDecidableEq

namespace Rearrangement.Http

/-! ## Requests and responses

Requests and responses, up to what the service looks at and what it sets. -/

structure Request where
  method : String
  target : String
  body : ByteArray
deriving DecidableEq

structure Response where
  status : Nat
  contentType : Option String
  /-- The methods that are allowed. -/
  allow : Option String
  body : ByteArray
deriving DecidableEq

namespace Response

/-- A response with nothing but a status. -/
def bare (status : Nat) : Response := ⟨status, none, none, .empty⟩

/-- A successful response with a body of the given type. -/
def ok (contentType : String) (body : ByteArray) : Response := ⟨200, some contentType, none, body⟩

/-- The answer to the question which methods there are. -/
def options (allow : Option String) : Response := ⟨200, none, allow, .empty⟩

/-- The refusal of a method where others are allowed. -/
def methodNotAllowed (allow : String) : Response := ⟨405, none, some allow, .empty⟩

/-- The response without its body. -/
def withoutBody (r : Response) : Response := { r with body := .empty }

/-- Whether the status tells of success. -/
def isSuccess (r : Response) : Bool := 200 ≤ r.status && r.status < 300

end Response

end Rearrangement.Http

namespace Rearrangement.Percent

/-! ## Percent signs

A percent sign with two hexadecimal digits stands for a byte.  Any other percent sign stands for
itself. -/

/-- The value of a hexadecimal digit. -/
def digit? (b : UInt8) : Option UInt8 :=
  if 0x30 ≤ b ∧ b ≤ 0x39 then some (b - 0x30)
  else if 0x41 ≤ b ∧ b ≤ 0x46 then some (b - 0x41 + 10)
  else if 0x61 ≤ b ∧ b ≤ 0x66 then some (b - 0x61 + 10)
  else none

/-- The bytes that bytes with percent signs stand for. -/
def decodeBytes : List UInt8 → List UInt8
  | [] => []
  | b :: high :: low :: r =>
      if b = 0x25 then
        match digit? high, digit? low with
        | some h, some l => (16 * h + l) :: decodeBytes r
        | _, _ => b :: decodeBytes (high :: low :: r)
      else b :: decodeBytes (high :: low :: r)
  | b :: r => b :: decodeBytes r

/-- The text that a text with percent signs stands for, if it stands for text. -/
def decode? (text : String) : Option String :=
  String.fromUTF8? ⟨(decodeBytes text.toUTF8.toList).toArray⟩

/-- A byte as a percent sign and two hexadecimal digits. -/
def encodeByte (b : UInt8) : List Char :=
  let digit (n : Nat) : Char := Char.ofNat (if n < 10 then 0x30 + n else 0x37 + n)
  ['%', digit (b.toNat / 16), digit (b.toNat % 16)]

end Rearrangement.Percent

namespace Rearrangement.Http

/-! ## Targets of requests

A target stands in one of four forms: a path on the server that is asked, a path on a host with a
scheme, a host alone, or a star for the server as a whole. -/

/-- What a request asks for. -/
inductive Target
  | origin (path : String)
  | absolute (scheme host path : String)
  | authority (host : String)
  | asterisk
deriving DecidableEq, Repr

namespace Target

/-- The path that a target names: none for a host alone, the root for an address that ends with its
host. -/
def path : Target → String
  | origin path => path
  | absolute _ _ path => if path = "" then "/" else path
  | authority _ => ""
  | asterisk => "*"

/-- Whether a character may stand in a path. -/
def isPathChar (c : Char) : Bool := 0x20 < c.toNat && !(['#', '<', '>', '?', '`'].contains c)

/-- Whether a character may stand in a query. -/
def isQueryChar (c : Char) : Bool := 0x20 < c.toNat && !(['"', '#', '<', '>'].contains c)

/-- The path at the start of a text that goes on with a query or a fragment, or ends there. -/
def path? (cs : List Char) : Option String :=
  let (path, rest) := cs.span fun c => c ≠ '?' && c ≠ '#'
  let query := match rest with
    | '?' :: r => r.takeWhile (· ≠ '#')
    | _ => []
  if path.all isPathChar && query.all isQueryChar then some (String.ofList path) else none

/-- Whether a character may stand in a host for itself. -/
def isHostChar (c : Char) : Bool :=
  c.isAlphanum ||
    ['!', '$', '&', '\'', '(', ')', '*', '+', ',', '-', '.', '_', '~', ';', '='].contains c

/-- What has been seen of a host, from its start.  Colons and percent signs before an at sign or
inside brackets do not count. -/
structure Host where
  colons : Nat := 0
  isOpened : Bool := false
  isClosed : Bool := false
  hasPercent : Bool := false

namespace Host

/-- The host with one more character, if it may follow. -/
def push? (h : Host) (c : Char) : Option Host :=
  match c with
  | ':' => if h.colons < 8 then some { h with colons := h.colons + 1 } else none
  | '[' => if h.hasPercent || h.isOpened then none else some { h with isOpened := true }
  | ']' =>
      if !h.isOpened || h.isClosed then none
      else some { h with isClosed := true, colons := 0, hasPercent := false }
  | '@' => some { h with colons := 0, hasPercent := false }
  | '%' => some { h with hasPercent := true }
  | c => if isHostChar c then some h else none

/-- Whether a host may end here. -/
def mayEnd (h : Host) : Bool := h.isOpened == h.isClosed && h.colons ≤ 1 && !h.hasPercent

end Host

/-- Whether a text spells a host. -/
def isHost (cs : List Char) : Bool :=
  cs ≠ [] && cs.getLast? ≠ some '@' && ((cs.foldlM Host.push? {}).map Host.mayEnd).getD false

/-- Whether a character may stand in a scheme. -/
def isSchemeChar (c : Char) : Bool := c.isAlphanum || ['+', '-', '.', '~'].contains c

/-- The scheme at the start of a text, and what follows the two slashes. -/
def scheme? (cs : List Char) : Option (List Char × List Char) :=
  match cs.span isSchemeChar with
  | (scheme, ':' :: '/' :: '/' :: rest) => some (scheme, rest)
  | _ => none

/-- The number of characters that a scheme may have. -/
def schemeLimit : Nat := 64

/-- The target that a text spells. -/
def ofString? (text : String) : Option Target :=
  match text.toList with
  | '/' :: r => (path? ('/' :: r)).map origin
  | ['*'] => some asterisk
  | cs =>
      match scheme? cs with
      | none => if isHost cs then some (authority text) else none
      | some (scheme, rest) =>
          let (host, rest) := rest.span fun c => !(['/', '?', '#'].contains c)
          if isHost host && scheme.length ≤ schemeLimit then
            (path? rest).map (absolute (String.ofList scheme) (String.ofList host))
          else none

end Target

end Rearrangement.Http

namespace Rearrangement

/-! ## Routes

What the paths of requests name. -/

/-- What a path names.  Segments are as they stand in the path, with their percent signs. -/
inductive Route
  | scenes
  | scene (segment : String)
  | saveTrajectory (segment : String)
  | health
  /-- A file of the data directory; the path is what follows the mount point. -/
  | image (path : String)
deriving DecidableEq, Repr

namespace Route

/-- What a path names, if anything. -/
def ofPath? (path : String) : Option Route :=
  match (Path.pieces path.toList).map String.ofList with
  | ["", "scenes"] => some .scenes
  | ["", "healthz"] => some .health
  | ["", "scene", id] => if id = "" then none else some (.scene id)
  | ["", "save_trajectory", id] => if id = "" then none else some (.saveTrajectory id)
  | "" :: "images" :: rest => some (.image (String.join (rest.map ("/" ++ ·))))
  | _ => none

/-- The methods that a route allows. -/
def allow : Route → String
  | saveTrajectory _ => "POST"
  | _ => "GET,HEAD"

/-- The methods that a route tells a page that asks.  Files tell none. -/
def announced? : Route → Option String
  | image _ => none
  | r => some r.allow

/-- Whether a route takes a method. -/
def takes (r : Route) (method : String) : Bool :=
  match r with
  | saveTrajectory _ => method = "POST"
  | _ => method = "GET" || method = "HEAD"

end Route

end Rearrangement
