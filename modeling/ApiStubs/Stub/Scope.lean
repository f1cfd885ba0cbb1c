import ApiStubs.Stub.Member

/-!
# The stub of a scope

A scope becomes a function that makes its object: the summary, then methods, events, classes and
properties, each in the order of the documentation. Tools find members by their place, so the
order matters.

* `frame`: a function around its body;
* `classDraft`: a class, and the factory that stands for it in its container;
* `moduleDraft`, `globalDraft`: a module, and a global object.
-/

namespace ApiStubs.Stub

open Doc Inference

/-- A function around its body. -/
def frame (lead name trail : String) (body : Draft Unit) : Draft Unit := do
  .line (lead ++ "function " ++ name ++ "() \x7b")
  Draft.nested body
  .line ("\x7d" ++ trail)

/-- The members of a scope, with whatever stands between its events and its properties. -/
def membersDraft (name : String) (byHand : String → Option String) (classes : List Scope)
    (between : Draft Unit) (specializer : Option Specializer) (s : Scope) : Draft Unit := do
  summary s.desc
  Draft.each (methodDraft byHand name classes) (s.methods.getD [])
  eventsDraft? s.events
  between
  Draft.each (propertyDraft name specializer) (s.properties.getD [])

/-- No method has a body written by hand. -/
def noBody : String → Option String := fun _ => none

/-- A class. Its function is not visible outside; a factory of the class's name makes objects. -/
def classDraft (c : Scope) : Draft Unit := do
  let name ← .ofExcept (className c.name)
  let function ← .ofExcept (Role.nested.functionName c.name)
  frame "" function "" (membersDraft function noBody [] (.done ()) none c)
  .line ""
  .line ("this." ++ name ++ " = function() \x7b")
  Draft.nested (.line ("return new _" ++ name ++ "();"))
  .line "\x7d"

/-- The bodies written by hand for a module. -/
def handWritten (raw : String) : String → Option String :=
  if Name.identifier raw = Path.moduleName then Path.body? else noBody

/-- A module or global object under its function name. -/
def scopeDraft (registry : Registry) (role : Role) (byHand : String → Option String)
    (lead trail : String) (m : Module) : Draft Unit := do
  let name ← .ofExcept (role.functionName m.name)
  let classes := m.classes.getD []
  frame lead name trail
    (membersDraft name byHand classes (Draft.each classDraft classes) (registry.get? name)
      m.toScope)

/-- A module between two given texts. -/
def moduleDraft (registry : Registry) (lead trail : String) (m : Module) : Draft Unit :=
  scopeDraft registry .module (handWritten m.name) lead trail m

/-- The declaration of a global object. -/
def globalDraft (registry : Registry) (g : Module) : Draft Unit := do
  let name ← .ofExcept (memberName "" g.name)
  scopeDraft registry .global noBody ("var " ++ name ++ " = new ") ";" g

end ApiStubs.Stub
