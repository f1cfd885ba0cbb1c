import ApiStubs.Stub.Scope
import ApiStubs.Text.Literal

/-!
# The loader

The loader is the function bound to `require`. It lists every module in a cache as `null` and makes
a module when it is first asked for. Every so many calls it lets the host show progress, and a name
that is not in the cache is left to the host, with the surrounding state restored afterwards.

* `moduleLabel`: the name of a module as a string literal holds it;
* `cacheDraft`, `dispatcherDraft`, `resolverLines`: the parts of the loader;
* `loaderDraft`: the whole.
-/

namespace ApiStubs.Stub

open Doc Inference

/-- The name the loader is bound to. -/
def loaderName : String := "require"

/-- Calls between two signs of progress. -/
def progressThreshold : Nat := 50

/-- How deep modules of the user may require each other. -/
def maxRequireDepth : Nat := 5

/-- The place where a host puts modules of its own. -/
def userModuleMarker : String := "// **NTVS** INSERT USER MODULE SWITCH HERE **NTVS**"

/-- The name of a module between the quotes of a string literal. -/
def moduleLabel (m : Module) : String :=
  String.ofList (Text.escapeLiteral (Name.identifier m.name).toList)

/-- The cache with an entry for every module. -/
def cacheDraft (modules : List Module) : Draft Unit := do
  .line "var cache = \x7b"
  Draft.nested (Draft.each (fun m => .line ("\"" ++ moduleLabel m ++ "\": null,")) modules)
  .line "\x7d"

/-- A case of the dispatcher. -/
def caseDraft (registry : Registry) (m : Module) : Draft Unit :=
  moduleDraft registry ("case \"" ++ moduleLabel m ++ "\": return new ") ";" m

/-- The function that makes a module by its name. -/
def dispatcherDraft (registry : Registry) (modules : List Module) : Draft Unit := do
  .line "function make_module(module_name) \x7b"
  Draft.nested do
    .line "switch(module_name) \x7b"
    Draft.nested (Draft.each (caseDraft registry) modules)
    .line "\x7d"
  .line "\x7d"

/-- The function that the loader returns. -/
def resolverLines : List String :=
  ["var f = function(module) \x7b",
   "    module = module.replace(/\\\\/g, '/');",
   "    if(require_count++ >= " ++ progressThreshold.repr ++ ") \x7b",
   "        require_count = 0;",
   "        intellisense.progress();",
   "    \x7d",
   "    var result = cache[module];",
   "    if(typeof result !== 'undefined') \x7b",
   "        if(result === null) \x7b",
   "            // modules are only built once something requires them",
   "            cache[module] = result = make_module(module);",
   "        \x7d",
   "        return result;",
   "    \x7d",
   "    // not a core module, see if the host can resolve it",
   "    var __prevFilename = __filename;",
   "    var __prevDirname = __dirname;",
   "    var __prevMaxRequireDepth = max_require_depth;",
   "    try \x7b",
   "        if(require_depth < max_require_depth) \x7b",
   "            require_depth++;",
   "            try \x7b",
   "                " ++ userModuleMarker,
   "            \x7d finally \x7b",
   "                require_depth--;",
   "            \x7d",
   "        \x7d",
   "    \x7d finally \x7b",
   "        __filename = __prevFilename;",
   "        __dirname = __prevDirname;",
   "        max_require_depth = __prevMaxRequireDepth;",
   "    \x7d",
   "\x7d"]

/-- The loader of the modules. -/
def loaderDraft (registry : Registry) (modules : List Module) : Draft Unit := do
  .line (loaderName ++ " = function () \x7b")
  Draft.nested do
    .line "var require_count = 0;"
    .line "var require_depth = 0;"
    .line ("var max_require_depth = " ++ maxRequireDepth.repr ++ ";")
    cacheDraft modules
    dispatcherDraft registry modules
    Draft.each .line resolverLines
    .line "return f;"
  .line "\x7d();"

end ApiStubs.Stub
