import Rearrangement.Decimal

/-!
# JSON values and how they are written

The values that JSON text denotes, with the members of an object in the order of the text, and two
layouts of a value.

Text can also spell what no value is: a string with half of a surrogate pair, an object with such a
key, a number beyond the doubles.  Such a place reads as `unreadable`, so that a reader may step
over it but never gets a value from it.

Numbers keep whether they were written as integers, since the two are written differently again.  A
member that occurs twice stays twice: which of the two counts is for the reader of a record to say.
-/

namespace Rearrangement

/-! ## JSON values -/

/-- A JSON number: an integer of at most 64 bits, or a double. -/
inductive Json.Number
  | integer (i : Int)
  | real (x : Float)
deriving Inhabited, Repr

/-- A JSON value, or a place that spells none. -/
inductive Json
  | null
  | bool (b : Bool)
  | number (n : Json.Number)
  | string (s : String)
  | array (items : List Json)
  | object (members : List (String × Json))
  | unreadable
deriving Inhabited, Repr

namespace Json

def real (x : Float) : Json := .number (.real x)

def nat (n : Nat) : Json := .number (.integer n)

def strings (xs : List String) : Json := .array (xs.map .string)

namespace Number

/-- The nearest double. -/
def toFloat : Number → Float
  | .integer i => Float.ofInt i
  | .real x => x

/-- The double with the given decimal digits.  The bounds on the magnitude lie far outside the
doubles, so they only spare the arithmetic. -/
def ofDecimal (significand : Nat) (exponent : Int) : Float :=
  let top := exponent + Decimal.length significand
  if significand = 0 ∨ top < -400 then 0
  else if 400 < top then Float.ofScientific 1 false 400
  else Float.ofScientific significand (decide (exponent < 0)) exponent.natAbs

/-- The shape of a number in JSON text. -/
def shape : Decimal.Shape := ⟨-5, 16, true⟩

/-- The text of a number; a double that is not finite has none and is written as `null`. -/
def chars : Number → List Char
  | .integer i => (if i < 0 then ['-'] else []) ++ Decimal.digitsOf i.natAbs
  | .real x =>
      match Binary64.Parts.ofFloat? x with
      | some p => Decimal.written shape p
      | none => ['n', 'u', 'l', 'l']

end Number

mutual

/-- How deep arrays and objects are nested. -/
def depth : Json → Nat
  | .array items => depthItems items + 1
  | .object members => depthMembers members + 1
  | _ => 0

def depthItems : List Json → Nat
  | [] => 0
  | v :: vs => max v.depth (depthItems vs)

def depthMembers : List (String × Json) → Nat
  | [] => 0
  | (_, v) :: ms => max v.depth (depthMembers ms)

end

mutual

/-- Whether every place of the value could be read. -/
def legible : Json → Bool
  | .array items => legibleItems items
  | .object members => legibleMembers members
  | .unreadable => false
  | _ => true

def legibleItems : List Json → Bool
  | [] => true
  | v :: vs => v.legible && legibleItems vs

def legibleMembers : List (String × Json) → Bool
  | [] => true
  | (_, v) :: ms => v.legible && legibleMembers ms

end

/-- Put a member in its place by key; an equal key gets the new value. -/
def insertMember (key : String) (value : Json) : List (String × Json) → List (String × Json)
  | [] => [(key, value)]
  | (k, v) :: ms =>
      if key < k then (key, value) :: (k, v) :: ms
      else if key = k then (key, value) :: ms
      else (k, v) :: insertMember key value ms

mutual

/-- The value with the members of each object sorted by key; of equal keys the last one stays. -/
def sorted : Json → Json
  | .array items => .array (sortedItems items)
  | .object members => .object (sortedMembers members [])
  | v => v

def sortedItems : List Json → List Json
  | [] => []
  | v :: vs => v.sorted :: sortedItems vs

def sortedMembers : List (String × Json) → List (String × Json) → List (String × Json)
  | [], done => done
  | (k, v) :: ms, done => sortedMembers ms (insertMember k v.sorted done)

end

end Json

end Rearrangement

namespace Rearrangement.Json

/-! ## Writing JSON

Two layouts of a value: `compact` without any blank, and `pretty` with one part a line, two blanks
for each level. -/

/-- A lower-case hexadecimal digit. -/
def hexChar (n : Nat) : Char := if n < 10 then Char.ofNat (n + 48) else Char.ofNat (n + 87)

/-- A character inside a string: quotes, backslashes and controls are escaped. -/
def escape (c : Char) : List Char :=
  match c with
  | '"' => ['\\', '"']
  | '\\' => ['\\', '\\']
  | '\x08' => ['\\', 'b']
  | '\t' => ['\\', 't']
  | '\n' => ['\\', 'n']
  | '\x0c' => ['\\', 'f']
  | '\r' => ['\\', 'r']
  | c =>
      if c.toNat < 0x20 then ['\\', 'u', '0', '0', hexChar (c.toNat / 16), hexChar (c.toNat % 16)]
      else [c]

def quote (s : String) : List Char := '"' :: (s.toList.flatMap escape ++ ['"'])

mutual

def compactChars : Json → List Char
  | .null => ['n', 'u', 'l', 'l']
  | .bool true => ['t', 'r', 'u', 'e']
  | .bool false => ['f', 'a', 'l', 's', 'e']
  | .number n => n.chars
  | .string s => quote s
  | .array [] => ['[', ']']
  | .array (v :: vs) => '[' :: (compactChars v ++ compactItems vs)
  | .object [] => ['\x7b', '\x7d']
  | .object ((k, v) :: ms) => '\x7b' :: (quote k ++ ':' :: (compactChars v ++ compactMembers ms))
  | .unreadable => ['n', 'u', 'l', 'l']

def compactItems : List Json → List Char
  | [] => [']']
  | v :: vs => ',' :: (compactChars v ++ compactItems vs)

def compactMembers : List (String × Json) → List Char
  | [] => ['\x7d']
  | (k, v) :: ms => ',' :: (quote k ++ ':' :: (compactChars v ++ compactMembers ms))

end

/-- The start of a line at a level. -/
def newline (level : Nat) : List Char := '\n' :: List.replicate (2 * level) ' '

mutual

def prettyChars (level : Nat) : Json → List Char
  | .array (v :: vs) =>
      '[' :: (newline (level + 1) ++ prettyChars (level + 1) v ++ prettyItems level vs)
  | .object ((k, v) :: ms) =>
      '\x7b' :: (newline (level + 1) ++ quote k ++ ':' :: ' ' ::
        (prettyChars (level + 1) v ++ prettyMembers level ms))
  | v => compactChars v

def prettyItems (level : Nat) : List Json → List Char
  | [] => newline level ++ [']']
  | v :: vs => ',' :: (newline (level + 1) ++ prettyChars (level + 1) v ++ prettyItems level vs)

def prettyMembers (level : Nat) : List (String × Json) → List Char
  | [] => newline level ++ ['\x7d']
  | (k, v) :: ms =>
      ',' :: (newline (level + 1) ++ quote k ++ ':' :: ' ' ::
        (prettyChars (level + 1) v ++ prettyMembers level ms))

end

def compact (v : Json) : String := String.ofList v.compactChars

def pretty (v : Json) : String := String.ofList (v.prettyChars 0)

end Rearrangement.Json
