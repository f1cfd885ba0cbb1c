import ApiStubs.Arguments
import ApiStubs.Doc.Codec
import ApiStubs.FileTree

/-!
# The command

A run settles what to do, reads the documentation, generates both artifacts, and only then writes
them. The first failure ends it.

* `Failure`: why a run ends early, with its report;
* `Config.discover`, `Settings.discover`: the configuration and the settings of a directory;
* `generateFrom`, `writeArtifacts`, `runCommand`: the parts of a run, and all of it;
* `Outcome`, `perform`: what a list of arguments leads to.
-/

namespace ApiStubs

/-- Why a run ends early. -/
inductive Failure where
  /-- A configuration is asked for by name and is not there. -/
  | missingConfig (path : String)
  | unreadableConfig (path : String)
  | malformedConfig (path : String)
  | unreadableDocumentation (path : String)
  | malformedDocumentation (path : String)
  | unreadableHeader (path : String)
  /-- The documentation has something for which there is no stub. -/
  | violated (violation : Violation)
  | unwritableStubs (path : String)
  | unwritableTable (path : String)
  deriving DecidableEq, Repr

namespace Failure

/-- The wording of a failure. -/
def message : Failure → String
  | missingConfig path => "config file not found: " ++ path
  | unreadableConfig path => "reading config at " ++ path
  | malformedConfig path => "parsing config at " ++ path
  | unreadableDocumentation path => "reading documentation at " ++ path
  | malformedDocumentation path => "parsing documentation at " ++ path
  | unreadableHeader path => "reading header at " ++ path
  | violated _ => "generating reference artifacts"
  | unwritableStubs path => "writing stubs to " ++ path
  | unwritableTable path => "writing doc table to " ++ path

/-- The lines of a text, each indented. -/
def indentedLines (text : String) : String :=
  "    " ++ String.ofList (Text.replaceAll ['\n'] "\n    ".toList text.toList)

/-- The report of a failure, with its cause if that is known. -/
def report (f : Failure) : String :=
  match f with
  | violated v => "Error: " ++ f.message ++ "\n\nCaused by:\n" ++ indentedLines v.message
  | _ => "Error: " ++ f.message

end Failure

section

variable {m : Type → Type} [Monad m] (files : FileAccess m)

/-- The text of a file, or a failure. -/
def readOr (failure : String → Failure) (path : String) : ExceptT Failure m String := do
  match ← files.read? path with
  | some text => return text
  | none => throw (failure path)

/-- Gives a file a text, or fails. -/
def writeOr (failure : String → Failure) (path text : String) : ExceptT Failure m Unit := do
  if ← files.write path text then return () else throw (failure path)

/-! ### Settings -/

/-- The configuration of a file. -/
def Config.load (path : String) : ExceptT Failure m Config := do
  let text ← readOr files .unreadableConfig path
  match Config.ofText? text with
  | some config => return config.relativeTo (Path.parent path)
  | none => throw (.malformedConfig path)

/-- The configuration that a directory has by default. -/
def Config.defaultFile (directory : String) : String := Path.join directory "noderef.toml"

/-- The configuration of a file, which must be there, or else the one of the directory, which need
not be. -/
def Config.discover (named : Option String) (directory : String) : ExceptT Failure m Config := do
  match named with
  | some path =>
    if ← files.isThere path then Config.load files path else throw (.missingConfig path)
  | none =>
    let path := Config.defaultFile directory
    if ← files.isThere path then Config.load files path else return {}

/-- The settings of a run in a directory. -/
def Settings.discover (named : Option String) (flags : Flags) (directory : String) :
    ExceptT Failure m Settings := do
  let config ← Config.discover files named directory
  let hasHeader ← files.isThere (Settings.defaultHeader directory)
  return Settings.resolve config flags directory hasHeader

/-- The text of the header, if there is one. -/
def Settings.headerText (s : Settings) : ExceptT Failure m (Option String) := do
  match s.header with
  | some path => return some (← readOr files .unreadableHeader path)
  | none => return none

/-! ### The parts of a run -/

/-- Both artifacts of the documentation. -/
def generateFrom (s : Settings) : ExceptT Failure m Artifacts := do
  let source ← readOr files .unreadableDocumentation s.input
  match Doc.Tree.ofText source with
  | .error _ => throw (.malformedDocumentation s.input)
  | .ok tree =>
    let header ← s.headerText files
    match generate (s.options header) tree with
    | .error violation => throw (.violated violation)
    | .ok artifacts => return artifacts

/-- Writes the stubs, and then the table. -/
def writeArtifacts (s : Settings) (a : Artifacts) : ExceptT Failure m Unit := do
  writeOr files .unwritableStubs s.stubs a.stubs
  writeOr files .unwritableTable s.table a.table

/-- A run in a directory. -/
def runCommand (directory : String) (given : Given) : ExceptT Failure m Unit := do
  let settings ← Settings.discover files (given.lookup .config) given.flags directory
  let artifacts ← generateFrom files settings
  writeArtifacts files settings artifacts

/-! ### All of the command -/

/-- What the command leaves behind besides files. -/
structure Outcome where
  status : UInt32 := 0
  output : String := ""
  report : String := ""
  deriving DecidableEq, Repr

/-- The name and version of the command. -/
def versionText : String := "noderef 0.1.0\n"

/-- How the command is used. -/
def helpText : String :=
  "Generate IntelliSense stubs and a module doc table from Node.js API docs\n\n" ++
  "Usage: noderef [OPTIONS]\n\n" ++
  "Options:\n" ++
  "  -c, --config <CONFIG>        Config file (defaults to ./noderef.toml when present)\n" ++
  "  -i, --input <INPUT>          Documentation tree in JSON form\n" ++
  "      --header <HEADER>        JavaScript file prepended to the stubs\n" ++
  "      --stubs <STUBS>          Output path of the JavaScript stubs\n" ++
  "      --doc-table <DOC_TABLE>  Output path of the doc table\n" ++
  "      --format <FORMAT>        Doc table format: csharp or json\n" ++
  "  -h, --help                   Print help\n" ++
  "  -V, --version                Print version\n"

/-- What the arguments lead to in a directory. -/
def perform (directory : String) (arguments : List String) : m Outcome := do
  match Request.ofArguments arguments with
  | .error e => return { status := 2, report := e.message }
  | .ok .version => return { output := versionText }
  | .ok .help => return { output := helpText }
  | .ok (.run given) =>
    match ← (runCommand files directory given).run with
    | .ok () => return {}
    | .error failure => return { status := 1, report := failure.report }

end

end ApiStubs
