import ApiStubs.DocTable
import ApiStubs.Doc.Codec
import ApiStubs.Stub.Loader

/-!
# The artifacts of a documentation

* `Options`: what goes into the artifacts besides the documentation;
* `stubsDraft`, `stubsText`: the declarations of global objects and the loader of the modules;
* `Artifacts`, `generate`: the stubs, the table, and what was noticed, or the first violation.
-/

namespace ApiStubs

open Doc Inference

/-- What goes into the artifacts besides the documentation. -/
structure Options where
  /-- Code placed above the stubs. -/
  header : Option String := none
  table : DocTable.Options := {}
  runtime : Runtime := {}
  deriving DecidableEq, Repr

/-- Both artifacts, with what was noticed in the order in which it was. -/
structure Artifacts where
  stubs : String
  table : String
  diagnostics : List Diagnostic
  deriving DecidableEq, Repr

/-- The first line of the stubs, below the header. -/
def prologue : String := "global = \x7b\x7d;"

/-- The stubs of a documentation, without their header. -/
def stubsDraft (registry : Registry) (tree : Tree) : Draft Unit := do
  .line prologue
  Draft.each (Stub.globalDraft registry) tree.declaredGlobals
  Stub.loaderDraft registry tree.modules

/-- The text of the stubs with these lines. -/
def stubsText (header : Option String) (lines : List Line) : String :=
  onOwnLines (header.getD "") ++ render 0 lines

/-- The artifacts of a documentation, by a registry of known properties. -/
def generateWith (registry : Registry) (options : Options) (tree : Tree) :
    Except Violation Artifacts :=
  let stubs := stubsDraft registry tree
  match stubs.result with
  | .error violation => .error violation
  | .ok () =>
    let table := DocTable.emit options.table tree.modules
    .ok ⟨stubsText options.header stubs.lines, table.1, stubs.diagnostics ++ table.2⟩

/-- The artifacts of a documentation. -/
def generate (options : Options) (tree : Tree) : Except Violation Artifacts :=
  generateWith (.ofRuntime options.runtime) options tree

end ApiStubs
