import ApiStubs.Settings
import ApiStubs.Text.Search

/-!
# Arguments of the command

Every option takes a value and may be given once. The arguments are read from the left, and the
first one that decides what to do, or that is wrong, is the last one looked at.

* `OptionName`, `OptionName.accepts`: the options and their values;
* `Word`, `Word.read`: what a single argument is;
* `Given`, `Request`, `UsageError`: what all arguments ask for, or what is wrong with them;
* `Request.ofArguments`: the request of a list of arguments.
-/

namespace ApiStubs

/-- The options with a value. -/
inductive OptionName where
  | config
  | input
  | header
  | stubs
  | docTable
  | format
  deriving DecidableEq, Repr

namespace OptionName

/-- The options by the name after two dashes. -/
def longNames : List (String × OptionName) :=
  [("config", .config), ("input", .input), ("header", .header), ("stubs", .stubs),
   ("doc-table", .docTable), ("format", .format)]

/-- The options by the letter after one dash. -/
def letters : List (Char × OptionName) := [('c', .config), ('i', .input)]

/-- How messages name an option. -/
def name : OptionName → String
  | config => "--config"
  | input => "--input"
  | header => "--header"
  | stubs => "--stubs"
  | docTable => "--doc-table"
  | format => "--format"

/-- The option may have the value. -/
def accepts (o : OptionName) (value : String) : Bool :=
  match o with
  | format => (DocTable.Format.names.lookup value).isSome
  | _ => value != ""

end OptionName

/-! ### Single arguments -/

/-- What an argument is. -/
inductive Word where
  /-- An option, with a value if one is attached to it. -/
  | option (o : OptionName) (value : Option String)
  | version
  | help
  /-- Two dashes, after which there are no options. -/
  | separator
  | plain
  | unknown
  deriving DecidableEq, Repr

namespace Word

/-- An argument with two dashes; a value follows an equals sign. -/
def ofLong (body : List Char) : Word :=
  match Text.splitFirst? ['='] body with
  | some (name, value) =>
    match OptionName.longNames.lookup (String.ofList name) with
    | some o => option o (some (String.ofList value))
    | none => unknown
  | none =>
    match OptionName.longNames.lookup (String.ofList body) with
    | some o => option o none
    | none =>
      if body = "version".toList then version
      else if body = "help".toList then help
      else unknown

/-- An argument with one dash; a value follows the letter, and may follow an equals sign. -/
def ofLetter (c : Char) (rest : List Char) : Word :=
  if c = 'V' then version
  else if c = 'h' then help
  else
    match OptionName.letters.lookup c, rest with
    | none, _ => unknown
    | some o, [] => option o none
    | some o, '=' :: value => option o (some (String.ofList value))
    | some o, value => option o (some (String.ofList value))

/-- What an argument is. -/
def read (argument : String) : Word :=
  match argument.toList with
  | ['-', '-'] => separator
  | '-' :: '-' :: body => ofLong body
  | '-' :: c :: rest => ofLetter c rest
  | _ => plain

end Word

/-! ### All arguments -/

/-- The options that are given, with their values. -/
abbrev Given := List (OptionName × String)

/-- What is wrong with the arguments. -/
inductive UsageError where
  | unexpected (argument : String)
  | missingValue (o : OptionName)
  | invalidValue (o : OptionName) (value : String)
  | repeated (o : OptionName)
  deriving DecidableEq, Repr

/-- The wording of an error. -/
def UsageError.message : UsageError → String
  | unexpected argument => "error: unexpected argument '" ++ argument ++ "'"
  | missingValue o => "error: a value is required for '" ++ o.name ++ "'"
  | invalidValue o value => "error: invalid value '" ++ value ++ "' for '" ++ o.name ++ "'"
  | repeated o => "error: '" ++ o.name ++ "' cannot be used multiple times"

namespace Given

/-- Adds an option. -/
def add (o : OptionName) (value : String) (given : Given) : Except UsageError Given :=
  if !o.accepts value then .error (.invalidValue o value)
  else if (given.lookup o).isSome then .error (.repeated o)
  else .ok ((o, value) :: given)

/-- The flags among the options. -/
def flags (given : Given) : Flags where
  files :=
    { input := given.lookup .input
      header := given.lookup .header
      stubs := given.lookup .stubs
      table := given.lookup .docTable }
  format := (given.lookup .format).bind fun name => DocTable.Format.names.lookup name

end Given

/-- What the arguments ask for. -/
inductive Request where
  | run (given : Given)
  | version
  | help
  deriving DecidableEq, Repr

namespace Request

/-- The request of arguments, after some options. A value may stand in an argument of its own,
unless it looks like an option. -/
def following (given : Given) : List String → Except UsageError Request
  | [] => .ok (run given)
  | argument :: arguments =>
    match Word.read argument with
    | .version => .ok version
    | .help => .ok help
    | .plain | .unknown => .error (.unexpected argument)
    | .separator =>
      match arguments with
      | [] => .ok (run given)
      | extra :: _ => .error (.unexpected extra)
    | .option o (some value) =>
      match given.add o value with
      | .error e => .error e
      | .ok given => following given arguments
    | .option o none =>
      match arguments with
      | [] => .error (.missingValue o)
      | value :: arguments =>
        if Word.read value = .plain then
          match given.add o value with
          | .error e => .error e
          | .ok given => following given arguments
        else .error (.missingValue o)

/-- The request of a list of arguments. -/
def ofArguments (arguments : List String) : Except UsageError Request := following [] arguments

end Request

end ApiStubs
