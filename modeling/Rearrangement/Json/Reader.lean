import Rearrangement.Json.Basic
import Rearrangement.Text

/-!
# Reading JSON

From bytes to records, in four passes that know nothing of each other.

* `lex?` cuts text into tokens, so that the layout of the text is settled there;
* `Reader` is a machine with a stack that builds a value from tokens, one token at a time;
* `ofBytes?` reads bytes that need not all be text, as long as the faulty ones stand in strings that
  nobody asks for;
* `fields?` and the readers of single fields turn a value into a record: fields in any order, some
  of them missing, none of them twice.
-/

namespace Rearrangement.Json

/-! ## Tokens

Text is cut into tokens before values are built from them, so that the layout of the text is settled
here: `lex?` gives the same tokens for every layout of a value. -/

/-- A lexeme of JSON text.  A string or number without a value keeps its place. -/
inductive Token
  | openBrace
  | closeBrace
  | openBracket
  | closeBracket
  | comma
  | colon
  | null
  | bool (b : Bool)
  | number (n : Option Number)
  | string (s : Option String)
deriving Inhabited, Repr

namespace Token

/-- The four blanks of JSON text. -/
def isBlank (c : Char) : Bool := c = ' ' || c = '\t' || c = '\n' || c = '\r'

/-! ### Strings -/

def hexDigit? (c : Char) : Option Nat :=
  if '0' ≤ c ∧ c ≤ '9' then some (c.toNat - '0'.toNat)
  else if 'a' ≤ c ∧ c ≤ 'f' then some (c.toNat - 'a'.toNat + 10)
  else if 'A' ≤ c ∧ c ≤ 'F' then some (c.toNat - 'A'.toNat + 10)
  else none

def hexUnit? (a b c d : Char) : Option Nat := do
  return (((← hexDigit? a) * 16 + (← hexDigit? b)) * 16 + (← hexDigit? c)) * 16 + (← hexDigit? d)

/-- What follows a backslash in a string, other than a code unit. -/
def simpleEscape? (c : Char) : Option Char :=
  match c with
  | '"' => some '"'
  | '\\' => some '\\'
  | '/' => some '/'
  | 'b' => some '\x08'
  | 'f' => some '\x0c'
  | 'n' => some '\n'
  | 'r' => some '\r'
  | 't' => some '\t'
  | _ => none

/-- One piece of a string: a character, or an escaped code unit of UTF-16. -/
inductive Piece
  | char (c : Char)
  | unit (n : Nat)
deriving DecidableEq, Repr

/-- Whether a piece is a character that stands for none. -/
def Piece.isStray (stray : Char → Bool) : Piece → Bool
  | char c => stray c
  | unit _ => false

/-- The pieces of a string up to its closing quote, and what follows the quote. -/
def pieces? : List Char → Option (List Piece × List Char)
  | [] => none
  | '"' :: r => some ([], r)
  | '\\' :: 'u' :: a :: b :: c :: d :: r => do
      let n ← hexUnit? a b c d
      let (ps, r) ← pieces? r
      return (.unit n :: ps, r)
  | '\\' :: e :: r => do
      let c ← simpleEscape? e
      let (ps, r) ← pieces? r
      return (.char c :: ps, r)
  | c :: r =>
      if c.toNat < 0x20 ∨ c = '\\' then none
      else do
        let (ps, r) ← pieces? r
        return (.char c :: ps, r)

/-- The characters that pieces spell; an unpaired surrogate spells none. -/
def spell? : List Piece → Option (List Char)
  | [] => some []
  | .char c :: ps => (spell? ps).map (c :: ·)
  | .unit hi :: .unit lo :: ps =>
      if 0xD800 ≤ hi ∧ hi < 0xDC00 then
        if 0xDC00 ≤ lo ∧ lo < 0xE000 then
          (spell? ps).map (Char.ofNat (0x10000 + (hi - 0xD800) * 0x400 + (lo - 0xDC00)) :: ·)
        else none
      else if 0xDC00 ≤ hi ∧ hi < 0xE000 then none
      else (spell? (.unit lo :: ps)).map (Char.ofNat hi :: ·)
  | .unit n :: ps =>
      if 0xD800 ≤ n ∧ n < 0xE000 then none else (spell? ps).map (Char.ofNat n :: ·)

/-! ### Numbers -/

def natOf (ds : List Char) : Nat := ds.foldl (fun n c => n * 10 + (c.toNat - '0'.toNat)) 0

def digits (cs : List Char) : List Char × List Char :=
  (cs.takeWhile Char.isDigit, cs.dropWhile Char.isDigit)

/-- A digit zero, or digits that do not start with it. -/
def whole? : List Char → Option (List Char × List Char)
  | '0' :: r => some (['0'], r)
  | cs => match digits cs with
    | ([], _) => none
    | p => some p

/-- The digits after a point, if there is one. -/
def fraction? : List Char → Option (Option (List Char) × List Char)
  | '.' :: r => match digits r with
    | ([], _) => none
    | (ds, r) => some (some ds, r)
  | r => some (none, r)

/-- The power of ten after an `e`, if there is one. -/
def power? (cs : List Char) : Option (Option Int × List Char) :=
  match cs with
  | 'e' :: r => signed r
  | 'E' :: r => signed r
  | r => some (none, r)
where
  signed : List Char → Option (Option Int × List Char)
    | '-' :: r => unsigned r fun n => -n
    | '+' :: r => unsigned r id
    | r => unsigned r id
  unsigned (cs : List Char) (sign : Int → Int) : Option (Option Int × List Char) :=
    match digits cs with
    | ([], _) => none
    | (ds, r) => some (some (sign (natOf ds)), r)

/-- The number with the given parts: an integer if it is written as one and has at most 64 bits, and
otherwise a double.  There is none beyond the doubles. -/
def numberOf (negative : Bool) (wholePart : List Char) (fractionPart : Option (List Char))
    (power : Option Int) : Option Number :=
  let real (significand : Nat) (exponent : Int) : Option Number :=
    let x := Number.ofDecimal significand exponent
    if x.isFinite then some (.real (if negative then -x else x)) else none
  match fractionPart, power with
  | none, none =>
      let n := natOf wholePart
      if negative then
        if 0 < n ∧ n ≤ 2 ^ 63 then some (.integer (-(n : Int))) else real n 0
      else if n < 2 ^ 64 then some (.integer n) else real n 0
  | f, p =>
      let ds := f.getD []
      real (natOf (wholePart ++ ds)) (p.getD 0 - ds.length)

/-- A number at the start of the text. -/
def number? (negative : Bool) (cs : List Char) : Option (Option Number × List Char) := do
  let (w, r) ← whole? cs
  let (f, r) ← fraction? r
  let (p, r) ← power? r
  return (numberOf negative w f p, r)

/-! ### Texts -/

/-- One token at the start of the text, which holds no blank there.  A character for which `stray`
holds stands for bytes that are no text: a string with one has no value. -/
def next? (stray : Char → Bool) : List Char → Option (Token × List Char)
  | '\x7b' :: r => some (.openBrace, r)
  | '\x7d' :: r => some (.closeBrace, r)
  | '[' :: r => some (.openBracket, r)
  | ']' :: r => some (.closeBracket, r)
  | ',' :: r => some (.comma, r)
  | ':' :: r => some (.colon, r)
  | 'n' :: 'u' :: 'l' :: 'l' :: r => some (.null, r)
  | 't' :: 'r' :: 'u' :: 'e' :: r => some (.bool true, r)
  | 'f' :: 'a' :: 'l' :: 's' :: 'e' :: r => some (.bool false, r)
  | '"' :: r => do
      let (ps, r) ← pieces? r
      let spelt := if ps.any (Piece.isStray stray) then none else spell? ps
      return (.string (spelt.map String.ofList), r)
  | '-' :: r => (number? true r).map fun (n, r) => (.number n, r)
  | r => (number? false r).map fun (n, r) => (.number n, r)

/-- The tokens of a text; `fuel` bounds their number and that of the blanks. -/
def lexWith? (stray : Char → Bool) : Nat → List Char → Option (List Token)
  | _, [] => some []
  | 0, _ :: _ => none
  | fuel + 1, c :: r =>
      if isBlank c then lexWith? stray fuel r
      else do
        let (t, r) ← next? stray (c :: r)
        return t :: (← lexWith? stray fuel r)

/-- The tokens of a text.  Each takes at least one character, so the length is fuel enough. -/
def lex? (stray : Char → Bool) (cs : List Char) : Option (List Token) := lexWith? stray cs.length cs

end Token

/-! ## Values from tokens

Values are built from tokens by a machine with a stack of the arrays and objects that are still
open.  Each token moves the machine once, so reading is a fold over the tokens. -/

/-- An array or object that is still open, its finished parts last first. -/
inductive Frame
  | array (done : List Json)
  | object (done : List (Option String × Json)) (key : Option String)
deriving Inhabited

/-- What the reader has seen and may see next. -/
inductive Reader
  /-- A value has to come. -/
  | value (stack : List Frame)
  /-- An array has just been opened. -/
  | firstItem (stack : List Frame)
  /-- An object has just been opened. -/
  | firstKey (stack : List Frame)
  /-- A key has to come. -/
  | key (done : List (Option String × Json)) (stack : List Frame)
  /-- The colon after a key has to come. -/
  | colon (done : List (Option String × Json)) (key : Option String) (stack : List Frame)
  /-- A value is complete. -/
  | complete (v : Json) (stack : List Frame)
deriving Inhabited

namespace Reader

/-- The object with the given members, unless one has an unreadable key. -/
def close (members : List (Option String × Json)) : Json :=
  match members.mapM fun m => m.1.map (·, m.2) with
  | some ms => .object ms
  | none => .unreadable

/-- Begin or complete a value. -/
def onValue (stack : List Frame) : Token → Option Reader
  | .openBrace => some (.firstKey stack)
  | .openBracket => some (.firstItem stack)
  | .null => some (.complete .null stack)
  | .bool b => some (.complete (.bool b) stack)
  | .number (some n) => some (.complete (.number n) stack)
  | .string (some s) => some (.complete (.string s) stack)
  | .number none => some (.complete .unreadable stack)
  | .string none => some (.complete .unreadable stack)
  | _ => none

def step : Reader → Token → Option Reader
  | .value stack, t => onValue stack t
  | .firstItem stack, .closeBracket => some (.complete (.array []) stack)
  | .firstItem stack, t => onValue (.array [] :: stack) t
  | .firstKey stack, .closeBrace => some (.complete (.object []) stack)
  | .firstKey stack, .string k => some (.colon [] k stack)
  | .key done stack, .string k => some (.colon done k stack)
  | .colon done k stack, .colon => some (.value (.object done k :: stack))
  | .complete v (.array done :: stack), .comma => some (.value (.array (v :: done) :: stack))
  | .complete v (.array done :: stack), .closeBracket =>
      some (.complete (.array (v :: done).reverse) stack)
  | .complete v (.object done k :: stack), .comma => some (.key ((k, v) :: done) stack)
  | .complete v (.object done k :: stack), .closeBrace =>
      some (.complete (close ((k, v) :: done).reverse) stack)
  | _, _ => none

/-- The value that has been read, if all that was opened is closed. -/
def result? : Reader → Option Json
  | .complete v [] => some v
  | _ => none

end Reader

/-- The value that tokens spell. -/
def ofTokens? (ts : List Token) : Option Json := do
  (← ts.foldlM Reader.step (.value [])).result?

/-- The value of a text. -/
def ofChars? (stray : Char → Bool) (cs : List Char) : Option Json := do
  ofTokens? (← Token.lex? stray cs)

/-- The value of a text. -/
def read? (text : String) : Option Json := ofChars? (fun _ => false) text.toList

/-- How deep a value of any form may be nested. -/
def depthLimit : Nat := 127

/-- The value, if all of it is readable and it is not nested too deep. -/
def whole? (v : Json) : Option Json :=
  if v.legible && decide (v.depth ≤ depthLimit) then some v else none

/-! ## JSON from bytes

Bytes that are not all text may still hold a readable value, as long as the faulty ones stand in
strings that nobody asks for. -/

/-- A character that is not in the list: there are more candidates than the list is long. -/
def characterOutside (cs : List Char) : Char :=
  let candidates := (List.range (cs.length + 1)).map fun n => Char.ofNat (0x10000 + n)
  (candidates.find? (· ∉ cs)).getD '\uFFFD'

/-- The value that bytes spell.  A string with bytes that form no character is unreadable. -/
def ofBytes? (bytes : ByteArray) : Option Json :=
  match String.fromUTF8? bytes with
  | some s => read? s
  | none =>
      let bytes := bytes.toList
      let mark := characterOutside (Text.decode '\uFFFD' bytes)
      ofChars? (· == mark) (Text.decode mark bytes)

/-! ## Records

A record is written as an object with one member for each field, in any order and among others, or
as an array of its fields in order.  A field may be missing; a field given twice is refused. -/

/-- The only member with the given key, if there is one; none if there are several. -/
def member? (members : List (String × Json)) (key : String) : Option (Option Json) :=
  match members.filter (·.1 = key) with
  | [] => some none
  | [m] => some (some m.2)
  | _ => none

/-- The fields of a record with the given names, in the order of the names. -/
def fields? (names : List String) : Json → Option (List (Option Json))
  | .object members => names.mapM (member? members)
  | .array items =>
      if items.length ≤ names.length then
        some (items.map some ++ List.replicate (names.length - items.length) none)
      else none
  | _ => none

def string? : Json → Option String
  | .string s => some s
  | _ => none

def bool? : Json → Option Bool
  | .bool b => some b
  | _ => none

def float? : Json → Option Float
  | .number n => some n.toFloat
  | _ => none

def items? : Json → Option (List Json)
  | .array vs => some vs
  | _ => none

def list? {α : Type} (item : Json → Option α) (v : Json) : Option (List α) := do
  (← v.items?).mapM item

/-- A value that may also be `null`. -/
def nullable? {α : Type} (item : Json → Option α) : Json → Option (Option α)
  | .null => some none
  | v => (item v).map some

/-- A field that must be there. -/
def required? {α : Type} (item : Json → Option α) (field : Option Json) : Option α := field >>= item

/-- A field that stands for `default` when it is missing. -/
def withDefault? {α : Type} (default : α) (item : Json → Option α) : Option Json → Option α
  | none => some default
  | some v => item v

/-- A word from a fixed list, also written as an object with the word as its only key and `null`. -/
def word? : Json → Option String
  | .string s => some s
  | .object [(s, .null)] => some s
  | _ => none

end Rearrangement.Json
