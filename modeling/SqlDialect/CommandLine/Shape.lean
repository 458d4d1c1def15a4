/-
  SqlDialect.CommandLine.Shape
  ────────────────────────────────
  **SHAPES OF COMMANDS.**

  A command has options and arguments.  Reading the words of a command line
  takes two steps: `scan` tells options from arguments, `bind` gives every
  parameter its value.  Of several faults the one is reported that comes
  first in this order: options as they are given, then arguments, then
  options that are missing, then what is left over.
-/
import SqlDialect.Number.FloatText
import SqlDialect.Text.Quote
import SqlDialect.Text.Segment
import SqlDialect.Value.Text

namespace SqlDialect.CommandLine

open SqlDialect.Text SqlDialect.Number

/-! ## §1. Shapes. -/

/-- What a parameter takes. -/
inductive ParameterKind where
  | text
  | number
  | choice (all : List String)
  deriving Repr, DecidableEq

/-- An option of a command. -/
structure OptionShape where
  /-- How it is written; the first way names it. -/
  names : List String
  /-- What it takes; an option that takes nothing is a flag. -/
  kind : Option ParameterKind := none
  /-- Its value when it is not given. -/
  default : Option Value := none
  /-- Acts before anything else is looked at. -/
  isEager : Bool := false
  deriving Repr

/-- The name of an option. -/
def OptionShape.name (o : OptionShape) : String := o.names.headD ""

/-- An argument of a command. -/
structure ArgumentShape where
  name : String
  kind : ParameterKind := .text
  /-- How messages call it. -/
  label : String
  /-- Takes all words that are left, at least one. -/
  takesAll : Bool := false
  deriving Repr

/-- The options and arguments of a command. -/
structure CommandShape where
  options : List OptionShape := []
  arguments : List ArgumentShape := []
  /-- Options may stand behind arguments. -/
  isMixed : Bool := true
  /-- Unknown options count as arguments. -/
  keepsUnknown : Bool := false
  deriving Repr

/-- The option with the given name. -/
def CommandShape.option? (shape : CommandShape) (name : String) : Option OptionShape :=
  shape.options.find? (·.names.contains name)

/-! ## §2. Faults. -/

/-- Why a command line is refused. -/
inductive UsageError where
  | unknownOption (name : String)
  | valueMissing (option : String)
  | valueUnwanted (option : String)
  | unknownCommand (name : String)
  | commandMissing
  | argumentMissing (label : String) (choices : List String)
  | optionMissing (name : String)
  | notAmong (label given : String) (choices : List String)
  | notANumber (label given : String)
  | leftOver (words : List String)
  /-- A value is of the right kind but cannot be used. -/
  | unusable (label reason : String)
  deriving Repr, DecidableEq

/-- A text in quotes. -/
def inQuotes (s : String) : String := String.ofList (quoted s.toList)

/-- What to say about a refused command line. -/
def UsageError.message : UsageError → String
  | .unknownOption name => "No such option " ++ inQuotes name ++ "."
  | .valueMissing option => "Option " ++ inQuotes option ++ " requires an argument."
  | .valueUnwanted option => "Option " ++ inQuotes option ++ " does not take a value."
  | .unknownCommand name => "No such command " ++ inQuotes name ++ "."
  | .commandMissing => "Missing command."
  | .argumentMissing label choices =>
      "Missing argument '" ++ label ++ "'."
        ++ if choices.isEmpty then "" else " Choose from:\n\t" ++ ",\n\t".intercalate choices
  | .optionMissing name => "Missing option '" ++ name ++ "'."
  | .notAmong label given choices =>
      "Invalid value for '" ++ label ++ "': " ++ inQuotes given ++ " is not one of "
        ++ ", ".intercalate (choices.map inQuotes) ++ "."
  | .notANumber label given =>
      "Invalid value for '" ++ label ++ "': " ++ inQuotes given ++ " is not a valid float."
  | .leftOver words =>
      "Got unexpected extra argument" ++ (if words.length = 1 then "" else "s") ++ " ("
        ++ " ".intercalate words ++ ")"
  | .unusable label reason => "Invalid value for '" ++ label ++ "': " ++ reason

/-! ## §3. Telling options from arguments. -/

/-- The words of a command line, sorted out. -/
structure Scanned where
  /-- The options given, by name, with their values. -/
  given : List (String × String) := []
  words : List String := []
  deriving Repr

namespace Scanned

/-- An option is given. -/
def give (s : Scanned) (o : OptionShape) (value : String) : Scanned :=
  { s with given := s.given ++ [(o.name, value)] }

/-- A word is an argument. -/
def add (s : Scanned) (words : List String) : Scanned :=
  { s with words := s.words ++ words }

end Scanned

/-- The word has the form of an option. -/
def isOptionLike (word : String) : Bool :=
  match word.toList with
  | '-' :: _ :: _ => true
  | _ => false

/-- The name of an option and the value behind an equals sign. -/
def splitOption (word : String) : String × Option String :=
  match cut? '=' word.toList with
  | some (name, value) => (String.ofList name, some (String.ofList value))
  | none => (word, none)

/-- The flags of one letter each in a word like `-ab`.  Unknown letters are
an argument, if the command keeps them. -/
def scanLetters (shape : CommandShape) (s : Scanned) (unknown : List Char) :
    List Char → Except UsageError Scanned
  | [] => .ok (if unknown.isEmpty then s else s.add [String.ofList ('-' :: unknown)])
  | c :: rest =>
      let name := String.ofList ['-', c]
      match shape.option? name with
      | some o => scanLetters shape (s.give o "") unknown rest
      | none =>
          if shape.keepsUnknown then scanLetters shape s (unknown ++ [c]) rest
          else .error (.unknownOption name)

/-- A word that has the form of an option and is none. -/
def scanUnknown (shape : CommandShape) (s : Scanned) (word : String) :
    Except UsageError Scanned :=
  match word.toList with
  | '-' :: '-' :: _ =>
      if shape.keepsUnknown then .ok (s.add [word])
      else .error (.unknownOption (splitOption word).1)
  | _ => scanLetters shape s [] (word.toList.drop 1)

/-- What a single word of a command line means. -/
inductive WordRole where
  /-- The word is dealt with. -/
  | done (s : Scanned)
  /-- The word is an option whose value is the next word. -/
  | awaiting (name : String) (o : OptionShape)
  /-- Only arguments follow; this word is one of them or not. -/
  | rest (includesWord : Bool)

/-- The role of a word. -/
def scanWord (shape : CommandShape) (s : Scanned) (word : String) : Except UsageError WordRole :=
  if word = "--" then .ok (.rest false)
  else if isOptionLike word then
    let (name, value) := splitOption word
    match (shape.option? name).filter fun _ => name.startsWith "--" with
    | none => .done <$> scanUnknown shape s word
    | some o => match o.kind, value with
      | none, none => .ok (.done (s.give o ""))
      | none, some _ => .error (.valueUnwanted name)
      | some _, some v => .ok (.done (s.give o v))
      | some _, none => .ok (.awaiting name o)
  else .ok (if shape.isMixed then .done (s.add [word]) else .rest true)

/-- Sort out words, where the option before them may be waiting for its value. -/
def scanFrom (shape : CommandShape) (s : Scanned) (waiting : Option (String × OptionShape)) :
    List String → Except UsageError Scanned
  | [] => match waiting with
    | none => .ok s
    | some (name, _) => .error (.valueMissing name)
  | word :: rest => match waiting with
    | some (_, o) => scanFrom shape (s.give o word) none rest
    | none => do
        match ← scanWord shape s word with
        | .done s => scanFrom shape s none rest
        | .awaiting name o => scanFrom shape s (some (name, o)) rest
        | .rest includesWord => return s.add (if includesWord then word :: rest else rest)

/-- Sort out the words of a command line. -/
def scan (shape : CommandShape) (words : List String) : Except UsageError Scanned :=
  scanFrom shape {} none words

/-! ## §4. Values of parameters. -/

/-- The values of a command's parameters, by name. -/
abbrev Bound := List (String × Value)

namespace Bound

/-- The text of a parameter. -/
def text (b : Bound) (name : String) : String :=
  match b.lookup name with
  | some (.text s) => s
  | _ => ""

/-- The texts of a parameter that takes all words left. -/
def texts (b : Bound) (name : String) : List String :=
  match b.lookup name with
  | some (.list items) => items.map (·.shown)
  | _ => []

/-- The number of a parameter. -/
def number (b : Bound) (name : String) : Binary64 :=
  match b.lookup name with
  | some (.float x) => x
  | _ => .nan

/-- The flag is given. -/
def flag (b : Bound) (name : String) : Bool :=
  (b.lookup name).isSome

end Bound

/-- A word as a value of a kind. -/
def convert (label : String) (kind : ParameterKind) (word : String) :
    Except UsageError Value :=
  match kind with
  | .text => .ok (.text word)
  | .number => match Binary64.read? word.toList with
    | some x => .ok (.float x)
    | none => .error (.notANumber label word)
  | .choice all => if all.contains word then .ok (.text word) else .error (.notAmong label word all)

/-- The value of an option that is given; the last time counts. -/
def bindGiven (shape : CommandShape) (s : Scanned) (name : String) :
    Except UsageError (String × Value) := do
  let word := ((s.given.reverse.find? (·.1 == name)).map (·.2)).getD ""
  match (shape.option? name).bind (·.kind) with
  | none => return (name, .bool true)
  | some kind => return (name, ← convert name kind word)

/-- The choices of a kind. -/
def ParameterKind.choices : ParameterKind → List String
  | .choice all => all
  | _ => []

/-- The values of arguments, and the words left over. -/
def bindArguments : List ArgumentShape → List String → Except UsageError (Bound × List String)
  | [], words => .ok ([], words)
  | a :: _, [] => .error (.argumentMissing a.label a.kind.choices)
  | a :: rest, word :: words => do
      if a.takesAll then
        let (bound, left) ← bindArguments rest []
        return ((a.name, .list ((word :: words).map .text)) :: bound, left)
      else
        let v ← convert a.label a.kind word
        let (bound, left) ← bindArguments rest words
        return ((a.name, v) :: bound, left)

/-- The value of an option that is not given. -/
def bindMissing (o : OptionShape) : Except UsageError Bound :=
  match o.kind, o.default with
  | none, _ => .ok []
  | some _, some v => .ok [(o.name, v)]
  | some _, none => .error (.optionMissing o.name)

/-- The values of all parameters. -/
def bind (shape : CommandShape) (s : Scanned) : Except UsageError Bound := do
  let names := (s.given.map (·.1)).eraseDups
  let given ← names.mapM (bindGiven shape s)
  let (arguments, left) ← bindArguments shape.arguments s.words
  let missing ← (shape.options.filter fun o => !names.contains o.name).mapM bindMissing
  if left.isEmpty then return given ++ arguments ++ missing.flatten
  else throw (.leftOver left)

/-- The first eager option that is given. -/
def eager? (shape : CommandShape) (s : Scanned) : Option String :=
  (s.given.map (·.1)).find? fun name => (shape.option? name).any (·.isEager)

end SqlDialect.CommandLine
