import ApiStubs.Stub.Loader

/-!
# Emitting stubs

A draft says what a part of the stubs is. An emission writes the part line by line, on a writer that
already stands somewhere. It enters a level by changing the depth of the writer and leaves it by
changing the depth back, and a violation may come at any point in between.

* `Sheet`, `Emission`: the writer with what was noticed, and the work on them;
* `Emission.line`, `Emission.block`, `Emission.note`, `Emission.indented`: the steps;
* `emitMethod`, `emitEvents`, `emitProperty`, `emitClass`, `emitScope`, `emitLoader`: what is
  written for each kind of entry;
* `Part`, `Part.emit`: the parts that are emitted by themselves.
-/

namespace ApiStubs

/-- The writer, and what was noticed so far. -/
structure Sheet where
  writer : Writer := {}
  diagnostics : List Diagnostic := []
  deriving DecidableEq, Repr

/-- Work on a sheet. What was written and noticed before a violation stays on it. -/
abbrev Emission := EStateM Violation Sheet

namespace Emission

variable {α : Type}

/-- A step of the writer. -/
def onWriter (step : Writer → Writer) : Emission Unit :=
  modify fun s => { s with writer := step s.writer }

/-- Writes a line. -/
def line (text : String) : Emission Unit := onWriter (·.line text)

/-- Writes the lines of a text. -/
def block (text : String) : Emission Unit := onWriter (·.block text)

/-- Takes note of something. -/
def note (diagnostic : Diagnostic) : Emission Unit :=
  modify fun s => { s with diagnostics := s.diagnostics ++ [diagnostic] }

/-- The body one level deeper. The level is left however the body ends. -/
def indented (body : Emission α) : Emission α := do
  onWriter Writer.indent
  try body finally onWriter Writer.dedent

end Emission

namespace Stub

open Doc Inference Emission

/-! ### Members -/

def emitSummary : Option String → Emission Unit
  | some desc => line ("/// <summary>" ++ commentText desc ++ "</summary>")
  | none => pure ()

def emitReturn : Option Return → Emission Unit
  | some r => unless r.isEmpty do line (returnLine r)
  | none => pure ()

/-- The comment of a signature. One without parameters has none. -/
def emitSignature (s : Signature) : Emission Unit := do
  unless s.params.isEmpty do
    line "/// <signature>"
    s.params.forM fun p => line (paramLine p)
    emitReturn s.returns
    line "/// </signature>"

/-- Takes note of a factory method whose class the container does not declare. -/
def checkFactory (container method : String) (classes : List Scope) (target : String) :
    Emission Unit :=
  unless classes.any fun c => Name.className c.name == target do
    note (.missingFactoryTarget container method target)

def emitFactory (container method : String) (classes : List Scope) (target : String) :
    Emission Unit := do
  checkFactory container method classes target
  line ("return new this." ++ target ++ "();")

/-- The body of a method: written by hand, a factory, or empty. -/
def emitBody (byHand : String → Option String) (container : String) (classes : List Scope)
    (m : Method) : Emission Unit :=
  match byHand m.name with
  | some code => block code
  | none =>
    match m.factoryTarget? with
    | some target => emitFactory container m.name classes target
    | none => pure ()

def emitMethod (byHand : String → Option String) (container : String) (classes : List Scope)
    (m : Method) : Emission Unit := do
  let name ← ofExcept (memberName container m.name)
  match m.signatures with
  | [] => throw (.missingSignatures container m.name)
  | first :: _ =>
    let params ← ofExcept (parameterNames container first)
    line ("this." ++ name ++ " = function(" ++ ", ".intercalate params ++ ") \x7b")
    indented do
      emitSummary m.desc
      m.signatures.forM emitSignature
      emitBody byHand container classes m
    line "\x7d"

def emitListener (name params : String) (comment : List String) : Emission Unit := do
  let opening := "this." ++ name ++ " = function(" ++ params ++ ") \x7b"
  if comment.isEmpty then line (opening ++ " \x7d")
  else
    line opening
    indented (comment.forM line)
    line "\x7d"

/-- The functions that manage the listeners of events. Headings among the events are left out. -/
def emitEvents (events : List Doc.Event) : Emission Unit := do
  let listed := events.filter (·.isListable)
  let full := eventsComment listed
  let names := eventNamesComment listed
  emitListener "addListener" "event, listener" full
  emitListener "once" "event, listener" full
  emitListener "removeListener" "event, listener" names
  emitListener "removeAllListeners" "event" names
  emitListener "listeners" "event" names
  emitListener "setMaxListeners" "n" []
  emitListener "emit" "event, args" full
  emitListener "on" "event, listener" full

def emitEvents? : Option (List Doc.Event) → Emission Unit
  | some events => emitEvents events
  | none => pure ()

def emitField (p : Property) : Emission Unit :=
  match p.desc with
  | some desc => line ("/// <field name='" ++ p.name ++ "'>" ++ commentText desc ++ "</field>")
  | none => pure ()

def emitProperty (container : String) (specializer : Option Specializer) (p : Property) :
    Emission Unit := do
  let name ← ofExcept (memberName container p.name)
  emitField p
  let value := inferDefault p.name (p.desc.getD "") (p.textRaw.getD "") specializer
  line ("this." ++ name ++ " = " ++ value ++ ";")

/-! ### Scopes -/

/-- A function with the members of a scope. Between its events and its properties come the classes
that it declares. -/
def emitContainer (lead name trail : String) (byHand : String → Option String)
    (classes : List Scope) (emitClasses : Emission Unit) (specializer : Option Specializer)
    (s : Scope) : Emission Unit := do
  line (lead ++ "function " ++ name ++ "() \x7b")
  indented do
    emitSummary s.desc
    (s.methods.getD []).forM (emitMethod byHand name classes)
    emitEvents? s.events
    emitClasses
    (s.properties.getD []).forM (emitProperty name specializer)
  line ("\x7d" ++ trail)

/-- A class. Its function is not visible outside; a factory of the class's name makes objects. -/
def emitClass (c : Scope) : Emission Unit := do
  let name ← ofExcept (className c.name)
  let function ← ofExcept (Role.nested.functionName c.name)
  emitContainer "" function "" noBody [] (pure ()) none c
  line ""
  line ("this." ++ name ++ " = function() \x7b")
  indented (line ("return new _" ++ name ++ "();"))
  line "\x7d"

/-- A module or global object under its function name. -/
def emitScope (registry : Registry) (role : Role) (byHand : String → Option String)
    (lead trail : String) (m : Module) : Emission Unit := do
  let name ← ofExcept (role.functionName m.name)
  let classes := m.classes.getD []
  emitContainer lead name trail byHand classes (classes.forM emitClass) (registry.get? name)
    m.toScope

def emitModule (registry : Registry) (lead trail : String) (m : Module) : Emission Unit :=
  emitScope registry .module (handWritten m.name) lead trail m

def emitGlobal (registry : Registry) (g : Module) : Emission Unit := do
  let name ← ofExcept (memberName "" g.name)
  emitScope registry .global noBody ("var " ++ name ++ " = new ") ";" g

/-! ### The loader -/

def emitCache (modules : List Module) : Emission Unit := do
  line "var cache = \x7b"
  indented (modules.forM fun m => line ("\"" ++ moduleLabel m ++ "\": null,"))
  line "\x7d"

def emitDispatcher (registry : Registry) (modules : List Module) : Emission Unit := do
  line "function make_module(module_name) \x7b"
  indented do
    line "switch(module_name) \x7b"
    indented (modules.forM fun m =>
      emitModule registry ("case \"" ++ moduleLabel m ++ "\": return new ") ";" m)
    line "\x7d"
  line "\x7d"

def emitLoader (registry : Registry) (modules : List Module) : Emission Unit := do
  line (loaderName ++ " = function () \x7b")
  indented do
    line "var require_count = 0;"
    line "var require_depth = 0;"
    line ("var max_require_depth = " ++ maxRequireDepth.repr ++ ";")
    emitCache modules
    emitDispatcher registry modules
    block ("\n".intercalate resolverLines)
    line "return f;"
  line "\x7d();"

/-! ### Parts of the stubs -/

/-- A part of the stubs that is emitted by itself. -/
inductive Part where
  /-- A module between two given texts. -/
  | module (lead trail : String) (m : Module)
  /-- The declaration of a global object. -/
  | global (g : Module)
  /-- The loader of the modules. -/
  | loader (modules : List Module)

def Part.emit (registry : Registry) : Part → Emission Unit
  | .module lead trail m => emitModule registry lead trail m
  | .global g => emitGlobal registry g
  | .loader modules => emitLoader registry modules

end Stub

end ApiStubs
