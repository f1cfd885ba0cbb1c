/-!
# Documentation entries

The documentation of an API: modules with methods, events, properties and classes, and further
sections, one of which lists the global objects. Every facet may be absent, and a facet that is
present may be empty; the two are not the same.

* `Param`, `Return`, `Signature`, `Method`, `Event`, `Property`: the members of a scope;
* `Scope`, `Module`: a class, and a module or global object, which may declare classes;
* `Section`, `Tree`: the rest of a document, and the whole;
* `Tree.declaredGlobals`: the global objects that get a declaration.
-/

namespace ApiStubs.Doc

/-- A documented parameter. -/
structure Param where
  name : String
  type : Option String := none
  desc : Option String := none
  deriving DecidableEq, Repr

/-- The type and description of what a signature returns. -/
structure Return where
  type : Option String := none
  desc : Option String := none
  deriving DecidableEq, Repr

/-- One way to call a method. -/
structure Signature where
  params : List Param := []
  returns : Option Return := none
  deriving DecidableEq, Repr

/-- A method with its signatures, the first of which gives the parameters of the stub. -/
structure Method where
  name : String
  desc : Option String := none
  signatures : List Signature := []
  deriving DecidableEq, Repr

/-- An event that listeners can be added for. -/
structure Event where
  name : String
  desc : Option String := none
  deriving DecidableEq, Repr

/-- A property with its description and its raw signature. -/
structure Property where
  name : String
  desc : Option String := none
  textRaw : Option String := none
  deriving DecidableEq, Repr

/-- A named scope of members. A class is one. -/
structure Scope where
  name : String
  desc : Option String := none
  methods : Option (List Method) := none
  events : Option (List Event) := none
  properties : Option (List Property) := none
  deriving DecidableEq, Repr

/-- A scope that may declare classes: a module, or a global object. -/
structure Module extends Scope where
  classes : Option (List Scope) := none
  deriving DecidableEq, Repr

/-- A section besides the modules. -/
structure Section where
  name : String := ""
  globals : Option (List Module) := none
  deriving DecidableEq, Repr

/-- A whole documentation. -/
structure Tree where
  modules : List Module := []
  sections : List Section := []
  deriving DecidableEq, Repr

/-! ### Members -/

/-- The parameter name that stands for any number of further arguments. -/
def variadicName : String := "..."

/-- The parameter stands for any number of arguments. -/
def Param.isVariadic (p : Param) : Bool := p.name == variadicName

/-- The parameters that have a place of their own: those before a variadic one. -/
def Signature.positional (s : Signature) : List Param := s.params.takeWhile (!·.isVariadic)

/-- Nothing is documented. -/
def Return.isEmpty (r : Return) : Bool := r.type.isNone && r.desc.isNone

/-- The name of an event that code can use. A name with a space is a heading. -/
def Event.isListable (e : Event) : Bool := !e.name.toList.contains ' '

/-- The word that starts the name of a method that makes an object. -/
def factoryWord : List Char := "create".toList

/-- The class that a method makes objects of, by its name. -/
def Method.factoryTarget? (m : Method) : Option String :=
  if factoryWord.isPrefixOf m.name.toList then
    let target := m.name.toList.drop factoryWord.length
    if target.isEmpty then none else some (String.ofList target)
  else none

/-! ### Scopes -/

/-- Some facet of members is present. -/
def Module.hasMembers (m : Module) : Bool :=
  m.methods.isSome || m.events.isSome || m.properties.isSome || m.classes.isSome

/-- The name of the section that lists the global objects. -/
def globalsSectionName : String := "Global Objects"

/-- The global objects with members, from the first section of that name. -/
def Tree.declaredGlobals (t : Tree) : List Module :=
  match t.sections.find? (·.name == globalsSectionName) with
  | some s => (s.globals.getD []).filter Module.hasMembers
  | none => []

end ApiStubs.Doc
