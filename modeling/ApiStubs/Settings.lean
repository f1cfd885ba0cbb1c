import ApiStubs.Artifacts
import ApiStubs.Config

/-!
# Settings of a run

Settings come in layers: what the command line names, what the configuration says, and the files
that a directory has by default.

* `Flags`: the layer of the command line;
* `Settings`, `Settings.resolve`: the settings that the layers give;
* `Settings.options`: what goes into the artifacts.
-/

namespace ApiStubs

/-- What the command line may name. -/
structure Flags where
  files : FileNames := {}
  format : Option DocTable.Format := none
  deriving DecidableEq, Repr

/-- The settings of a run. -/
structure Settings where
  /-- The documentation. -/
  input : String
  /-- A file whose text is placed above the stubs. -/
  header : Option String
  /-- Where the stubs go. -/
  stubs : String
  /-- Where the table goes. -/
  table : String
  layout : DocTable.Options
  runtime : Inference.Runtime
  deriving DecidableEq, Repr

namespace Settings

/-- The header that a directory has by default, if it has one. -/
def defaultHeader (directory : String) : String := Path.join directory "IntellisenseHeader.js"

/-- The name of the table by default. -/
def defaultTable : DocTable.Format → String
  | .csharp => "modules.cs"
  | .json => "modules.json"

/-- The settings of flags and a configuration in a directory, which may have a header. -/
def resolve (config : Config) (flags : Flags) (directory : String) (hasHeader : Bool) : Settings :=
  let format := flags.format.getD config.layout.format
  let named := flags.files.or config.files
  { input := named.input.getD (Path.join directory "all.json")
    header := named.header.or (if hasHeader then some (defaultHeader directory) else none)
    stubs := named.stubs.getD (Path.join directory "all.js")
    table := named.table.getD (Path.join directory (defaultTable format))
    layout := { config.layout with format }
    runtime := config.runtime }

/-- What goes into the artifacts, with the text of the header. -/
def options (s : Settings) (header : Option String) : Options :=
  { header, table := s.layout, runtime := s.runtime }

end Settings

end ApiStubs
