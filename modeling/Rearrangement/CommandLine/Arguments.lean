/-!
# Command lines

The words of a command line, and what they ask for: the address of the service, and what is to be
done there.

Options and flags may stand anywhere among the other words.  An option takes the next word as its
value, or what follows an equals sign.  After two dashes alone all words are plain.

The words are read from the left, with what has been read so far as the state (`Reading`).  Help is
shown as soon as it is asked for, also if what follows is in disorder, but not if the option before
it is.
-/

namespace Rearrangement.CommandLine

/-! ## Words of a command line -/

/-- Why the words form no command. -/
inductive ArgumentError
  | unknownArgument
  | invalidSubcommand
  | missingSubcommand
  | missingRequiredArgument
  /-- An option without a value. -/
  | invalidValue
  /-- A flag with a value. -/
  | tooManyValues
  /-- An option or flag that is given twice. -/
  | argumentConflict
  /-- Help has been asked for. -/
  | displayHelp
  /-- There is nothing to go by, so that help is in place. -/
  | displayHelpOnMissing
deriving DecidableEq, Repr

/-- What a word looks like. -/
inductive Word
  | escape
  | long (name : String) (value : Option String)
  | short (letters : List Char)
  | plain
deriving DecidableEq, Repr

namespace Word

/-- A word after two dashes: a name, and perhaps a value after the first equals sign. -/
def ofLong (cs : List Char) : Word :=
  let name := String.ofList (cs.takeWhile (· ≠ '='))
  match cs.dropWhile (· ≠ '=') with
  | [] => .long name none
  | _ :: value => .long name (some (String.ofList value))

/-- What a word looks like.  A single dash is plain. -/
def ofString (w : String) : Word :=
  match w.toList with
  | ['-', '-'] => .escape
  | '-' :: '-' :: cs => ofLong cs
  | '-' :: c :: cs => .short (c :: cs)
  | _ => .plain

end Word

/-- The options, flags and number of arguments that a command takes. -/
structure Form where
  options : List String
  flags : List String
  arguments : Nat
deriving DecidableEq, Repr

/-- What has been read of a command line. -/
structure Reading where
  options : List (String × String)
  flags : List String
  arguments : List String
  /-- The last option, not yet settled, and its value if that has come. -/
  pending : Option (String × Option String)
  /-- Whether all further words are plain. -/
  escaped : Bool
deriving DecidableEq, Repr

namespace Reading

def start : Reading := ⟨[], [], [], none, false⟩

/-- The value of an option. -/
def option? (r : Reading) (name : String) : Option String :=
  (r.options.find? (·.1 = name)).map (·.2)

/-- Give an option its value. -/
def put (r : Reading) (name value : String) : Except ArgumentError Reading :=
  if (r.option? name).isSome then .error .argumentConflict
  else .ok { r with options := r.options ++ [(name, value)] }

/-- Settle the last option. -/
def settle (r : Reading) : Except ArgumentError Reading :=
  match r.pending with
  | none => .ok r
  | some (_, none) => .error .invalidValue
  | some (name, some value) => { r with pending := none }.put name value

/-- Whether the last option still wants a value. -/
def wantsValue (r : Reading) : Bool :=
  match r.pending with
  | some (_, none) => !r.escaped
  | _ => false

/-- Read a plain word. -/
def plain (f : Form) (r : Reading) (w : String) : Except ArgumentError Reading :=
  match r.pending, r.wantsValue with
  | some (name, _), true => .ok { r with pending := some (name, some w) }
  | _, _ =>
      if r.arguments.length < f.arguments then do
        let r ← r.settle
        return { r with arguments := r.arguments ++ [w] }
      else .error .unknownArgument

/-- Show help, unless the option before it is in disorder. -/
def help {α : Type} (r : Reading) : Except ArgumentError α := do
  let _ ← r.settle
  .error .displayHelp

/-- Read an option or a flag. -/
def long (f : Form) (r : Reading) (name : String) (value : Option String) :
    Except ArgumentError Reading :=
  if f.options.contains name then do
    let r ← r.settle
    match value with
    | some v => r.put name v
    | none => return { r with pending := some (name, none) }
  else if f.flags.contains name || name = "help" then
    if value.isSome then .error .tooManyValues
    else if name = "help" then r.help
    else do
      let r ← r.settle
      if r.flags.contains name then .error .argumentConflict
      else return { r with flags := r.flags ++ [name] }
  else .error .unknownArgument

/-- Read a word. -/
def word (f : Form) (r : Reading) (w : String) : Except ArgumentError Reading :=
  if r.escaped then r.plain f w
  else
    match Word.ofString w with
    | .escape => .ok { r with escaped := true }
    | .long name value => r.long f name value
    | .short letters => if letters.head? = some 'h' then r.help else .error .unknownArgument
    | .plain => r.plain f w

/-- Read all words. -/
def words (f : Form) (r : Reading) (ws : List String) : Except ArgumentError Reading := do
  (← ws.foldlM (word f) r).settle

end Reading

/-! ## Arguments -/

/-- What is to be done. -/
inductive Command
  /-- Check that the service is up. -/
  | ping
  /-- List the recorded scenes. -/
  | scenes
  /-- Show a scene. -/
  | «show» (sceneId : String)
  /-- Replay a trajectory in a scene, and perhaps save it. -/
  | replay (sceneId : String) (input : String) (save : Bool)
deriving DecidableEq, Repr

structure Arguments where
  baseUrl : String
  command : Command
deriving DecidableEq, Repr

def standardBaseUrl : String := "http://127.0.0.1:8000"

/-- The input that stands for what is typed in. -/
def standardInput : String := "-"

/-- The name of the option with the address. -/
def baseUrlOption : String := "base-url"

def topForm : Form := ⟨[baseUrlOption], [], 0⟩

/-- The form of a command by its name. -/
def formOf? : String → Option Form
  | "ping" => some ⟨[], [], 0⟩
  | "scenes" => some ⟨[], [], 0⟩
  | "show" => some ⟨[], [], 1⟩
  | "replay" => some ⟨["input"], ["save"], 1⟩
  | _ => none

def helpName : String := "help"

/-- Whether a word names a command, or asks for help. -/
def isCommandName (w : String) : Bool := (formOf? w).isSome || w = helpName

/-- The command with the given name that has been read. -/
def commandOf (name : String) (r : Reading) : Except ArgumentError Command :=
  match name, r.arguments with
  | "ping", _ => .ok .ping
  | "scenes", _ => .ok .scenes
  | "show", id :: _ => .ok (.show id)
  | "replay", id :: _ =>
      .ok (.replay id ((r.option? "input").getD standardInput) (r.flags.contains "save"))
  | _, _ => .error .missingRequiredArgument

/-- What comes of a call for help, about the whole or about one command. -/
def helpAbout : List String → ArgumentError
  | [] => .displayHelp
  | [name] => if isCommandName name then .displayHelp else .invalidSubcommand
  | _ => .invalidSubcommand

/-- The words up to the name of a command, and that name with the words after it. -/
def readTop (r : Reading) :
    List String → Except ArgumentError (Reading × Option (String × List String))
  | [] => .ok (r, none)
  | w :: ws =>
      if r.escaped then .error (if isCommandName w then .unknownArgument else .invalidSubcommand)
      else if Word.ofString w = .plain ∧ !r.wantsValue then
        if isCommandName w then .ok (r, some (w, ws)) else .error .invalidSubcommand
      else do readTop (← r.word topForm w) ws

/-- The command with the given name and words. -/
def readCommand (name : String) (ws : List String) : Except ArgumentError Command :=
  match formOf? name with
  | some f => do commandOf name (← Reading.start.words f ws)
  | none => .error (helpAbout ws)

/-- What a command line asks for.  The environment may give the address instead. -/
def Arguments.ofWords (environment : Option String) (ws : List String) :
    Except ArgumentError Arguments := do
  let (r, named) ← readTop .start ws
  let command ← named.mapM fun (name, rest) => readCommand name rest
  let r ← r.settle
  let given := (r.option? baseUrlOption).or environment
  match command with
  | some command => return ⟨given.getD standardBaseUrl, command⟩
  | none => .error (if given.isSome then .missingSubcommand else .displayHelpOnMissing)

end Rearrangement.CommandLine
