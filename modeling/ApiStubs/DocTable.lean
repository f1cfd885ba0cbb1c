import ApiStubs.Doc.Basic
import ApiStubs.Fragment.Inline
import ApiStubs.Json.Printer
import ApiStubs.Json.Record
import ApiStubs.Name
import ApiStubs.Report
import ApiStubs.Writer

/-!
# The table of module descriptions

A completion list shows each module with a description. The table has one row per module, in the
order of the modules and with duplicates kept.

* `Format`, `Options`: what the table looks like;
* `Entry`, `entry`, `entries`: its rows, and the descriptions that could not be read;
* `openingLines`, `rowLine`, `closingLines`: the lines of the table as code;
* `codeTable`, `jsonTable`: the table as code, and as JSON;
* `emit`: the table in the chosen format.
-/

namespace ApiStubs.DocTable

open Doc Fragment

/-- The format of the table. -/
inductive Format where
  /-- Code with a dictionary in a class. -/
  | csharp
  /-- An array of objects. -/
  | json
  deriving DecidableEq, Repr

/-- The formats by name. -/
def Format.names : List (String × Format) := [("csharp", .csharp), ("json", .json)]

/-- The name of a format. -/
def Format.name : Format → String
  | .csharp => "csharp"
  | .json => "json"

/-- The format of a name, or what to say about a name that is none. -/
def Format.ofName (name : String) : Except String Format :=
  match Format.names.lookup name with
  | some format => .ok format
  | none =>
    .error ("unknown doc table format `" ++ name ++ "` (expected `csharp` or `json`)")

/-- The form of a format. -/
def Format.codec : Json.Codec Format := ⟨Json.Decoder.keyword Format.names, fun f => .str f.name⟩

/-- The layout of the table. -/
structure Options where
  format : Format := .csharp
  /-- The namespace of the class. -/
  space : String := "Microsoft.NodejsTools.Intellisense"
  className : String := "CompletionSource"
  /-- The name of the dictionary. -/
  fieldName : String := "_nodejsModules"
  /-- A comment placed above everything else in code. -/
  banner : Option String := none
  deriving DecidableEq, Repr

/-- The form of the options. Missing keys take their defaults, unknown ones are refused. -/
def Options.codec : Json.Codec Options :=
  let default : Options := {}
  Json.record "DocTableOptions" true
    (.cons (.withDefault "format" Format.codec default.format) <|
      .cons (.withDefault "namespace" .text default.space) <|
      .cons (.withDefault "class_name" .text default.className) <|
      .cons (.withDefault "field_name" .text default.fieldName) <|
      .cons (.nullable "banner" .text) .nil)
    (fun (format, space, className, fieldName, banner, _) =>
      ⟨format, space, className, fieldName, banner⟩)
    (fun o => (o.format, o.space, o.className, o.fieldName, o.banner, ()))

/-- A row of the table. -/
structure Entry where
  name : String
  doc : String
  deriving DecidableEq, Repr

/-- The row of a module, and what was noticed if its description cannot be read. -/
def entry (style : InlineStyle) (m : Module) : Entry × List Diagnostic :=
  let name := Name.identifier m.name
  match renderInline (m.desc.getD "") style with
  | .ok doc => (⟨name, doc⟩, [])
  | .error fault => (⟨name, ""⟩, [.unparseableDescription m.name fault])

/-- The rows of the table. -/
def entries (style : InlineStyle) (modules : List Module) : List Entry :=
  modules.map fun m => (entry style m).1

/-- What was noticed about the descriptions. Whether one can be read does not hang on the style. -/
def diagnostics (style : InlineStyle) (modules : List Module) : List Diagnostic :=
  modules.flatMap fun m => (entry style m).2

/-! ### The table as code -/

/-- The line of a row. The description is already escaped. -/
def rowLine (e : Entry) : String :=
  "\x7b\"" ++ String.ofList (Text.escapeLiteral e.name.toList) ++ "\", \"" ++ e.doc ++ "\" \x7d,"

/-- The lines above the rows. -/
def openingLines (o : Options) : List Line :=
  [⟨0, "using System.Collections.Generic;"⟩,
   ⟨0, "using Microsoft.VisualStudio.Language.Intellisense;"⟩,
   ⟨0, ""⟩,
   ⟨0, "namespace " ++ o.space ++ " \x7b"⟩,
   ⟨1, "sealed partial class " ++ o.className ++ " : ICompletionSource \x7b"⟩,
   ⟨2, "private static Dictionary<string, string> " ++ o.fieldName ++
      " = new Dictionary<string, string>() \x7b"⟩]

/-- The lines below the rows. -/
def closingLines : List Line := [⟨2, "\x7d;"⟩, ⟨1, "\x7d"⟩, ⟨0, "\x7d"⟩]

/-- The lines of the table. -/
def tableLines (o : Options) (rows : List Entry) : List Line :=
  openingLines o ++ rows.map (fun e => ⟨3, rowLine e⟩) ++ closingLines

/-- The table as code, below the banner. -/
def codeTable (o : Options) (rows : List Entry) : String :=
  onOwnLines (o.banner.getD "") ++ render 0 (tableLines o rows)

/-! ### The table as JSON -/

/-- The object of a row. -/
def Entry.toJson (e : Entry) : Json := .ofMembers [("name", .str e.name), ("doc", .str e.doc)]

/-- The table as an array over several lines. -/
def jsonTable (rows : List Entry) : String := (Json.array (rows.map Entry.toJson)).toIndentedText

/-! ### Either table -/

/-- How descriptions are written in a format. -/
def Format.style : Format → InlineStyle
  | .csharp => .escaped
  | .json => .plain

/-- The table of the modules, and what was noticed. -/
def emit (o : Options) (modules : List Module) : String × List Diagnostic :=
  let rows := entries o.format.style modules
  let table := match o.format with
    | .csharp => codeTable o rows
    | .json => jsonTable rows
  (table, diagnostics o.format.style modules)

end ApiStubs.DocTable
