import ApiStubs.DocTable
import ApiStubs.Inference
import ApiStubs.Path
import ApiStubs.Toml.Decode
import ApiStubs.Toml.Document

/-!
# Configuration files

* `FileNames`: the files of a run, as far as they are named;
* `Config`: what a configuration file says, with `Config.ofToml?` and `Config.ofText?`;
* `Config.relativeTo`: the files of a configuration, seen from outside its directory.
-/

namespace ApiStubs

/-- The files of a run, as far as they are named. -/
structure FileNames where
  input : Option String := none
  header : Option String := none
  stubs : Option String := none
  table : Option String := none
  deriving DecidableEq, Repr

/-- Changes every name. -/
def FileNames.map (f : String → String) (names : FileNames) : FileNames :=
  ⟨names.input.map f, names.header.map f, names.stubs.map f, names.table.map f⟩

/-- The names, and for files without one the others. -/
def FileNames.or (names others : FileNames) : FileNames :=
  ⟨names.input.or others.input, names.header.or others.header, names.stubs.or others.stubs,
    names.table.or others.table⟩

/-- What a configuration file says. -/
structure Config where
  files : FileNames := {}
  layout : DocTable.Options := {}
  runtime : Inference.Runtime := {}
  deriving DecidableEq, Repr

namespace Config

open Toml

/-- The layout of the table of descriptions. -/
def layout? (v : Toml) : Option DocTable.Options := do
  let absent : DocTable.Options := {}
  let members ← v.record? ["format", "namespace", "class_name", "field_name", "banner"]
  some
    { format := ← field? members "format" (keyword? DocTable.Format.names) absent.format
      space := ← field? members "namespace" text? absent.space
      className := ← field? members "class_name" text? absent.className
      fieldName := ← field? members "field_name" text? absent.fieldName
      banner := ← field? members "banner" (fun v => v.text?.map some) absent.banner }

/-- The runtime. -/
def runtime? (v : Toml) : Option Inference.Runtime := do
  let absent : Inference.Runtime := {}
  let members ← v.record? ["node_version", "v8_version", "platform"]
  some
    { nodeVersion := ← field? members "node_version" text? absent.nodeVersion
      v8Version := ← field? members "v8_version" text? absent.v8Version
      platform := ← field? members "platform" text? absent.platform }

/-- The configuration of a table. -/
def ofToml? (v : Toml) : Option Config := do
  let members ←
    v.record? ["input", "header", "stubs_output", "doc_table_output", "doc_table", "runtime"]
  let path? (key : String) : Option (Option String) :=
    field? members key (fun v => v.text?.map some) none
  let files : FileNames :=
    { input := ← path? "input"
      header := ← path? "header"
      stubs := ← path? "stubs_output"
      table := ← path? "doc_table_output" }
  some
    { files
      layout := ← field? members "doc_table" layout? {}
      runtime := ← field? members "runtime" runtime? {} }

/-- The configuration of a text. -/
def ofText? (text : String) : Option Config := (Toml.read? text).bind ofToml?

/-- The configuration of a file in the directory, for a reader outside of it. -/
def relativeTo (directory : String) (c : Config) : Config :=
  { c with files := c.files.map (Path.join directory) }

end Config

end ApiStubs
