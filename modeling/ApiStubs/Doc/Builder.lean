import ApiStubs.Doc.Basic

/-!
# Building documentation entries

Entries are built from a name, one piece at a time. Adding a member to an absent facet makes the
facet present.

* `Tree.addModule`, `Tree.addSection`, `Section.addGlobal`: the upper levels of a document;
* `Scope.withDesc`, `Scope.addMethod` and their like, for scopes and for modules;
* `Method.addSignature`, `Signature.addParam`, `Signature.withReturn`: a method and its calls.
-/

namespace ApiStubs.Doc

/-- The facet with a member added at its end. -/
def addMember {α : Type} (facet : Option (List α)) (a : α) : Option (List α) :=
  some (facet.getD [] ++ [a])

@[simp] theorem addMember_none {α : Type} (a : α) : addMember none a = some [a] := rfl

@[simp] theorem addMember_some {α : Type} (as : List α) (a : α) :
    addMember (some as) a = some (as ++ [a]) := rfl

def Tree.addModule (t : Tree) (m : Module) : Tree := { t with modules := t.modules ++ [m] }

def Tree.addSection (t : Tree) (s : Section) : Tree := { t with sections := t.sections ++ [s] }

def Section.addGlobal (s : Section) (g : Module) : Section :=
  { s with globals := addMember s.globals g }

def Scope.withDesc (s : Scope) (desc : String) : Scope := { s with desc := some desc }

def Scope.addMethod (s : Scope) (m : Method) : Scope :=
  { s with methods := addMember s.methods m }

def Scope.addEvent (s : Scope) (e : Event) : Scope := { s with events := addMember s.events e }

def Scope.addProperty (s : Scope) (p : Property) : Scope :=
  { s with properties := addMember s.properties p }

/-- The module with its scope changed. -/
def Module.mapScope (m : Module) (f : Scope → Scope) : Module := { m with toScope := f m.toScope }

def Module.withDesc (m : Module) (desc : String) : Module := m.mapScope (·.withDesc desc)

def Module.addMethod (m : Module) (x : Method) : Module := m.mapScope (·.addMethod x)

def Module.addEvent (m : Module) (e : Event) : Module := m.mapScope (·.addEvent e)

def Module.addProperty (m : Module) (p : Property) : Module := m.mapScope (·.addProperty p)

def Module.addClass (m : Module) (c : Scope) : Module :=
  { m with classes := addMember m.classes c }

def Method.withDesc (m : Method) (desc : String) : Method := { m with desc := some desc }

def Method.addSignature (m : Method) (s : Signature) : Method :=
  { m with signatures := m.signatures ++ [s] }

def Signature.addParam (s : Signature) (p : Param) : Signature :=
  { s with params := s.params ++ [p] }

def Signature.withReturn (s : Signature) (r : Return) : Signature := { s with returns := some r }

def Param.withType (p : Param) (type : String) : Param := { p with type := some type }

def Param.withDesc (p : Param) (desc : String) : Param := { p with desc := some desc }

def Property.withDesc (p : Property) (desc : String) : Property := { p with desc := some desc }

def Property.withTextRaw (p : Property) (textRaw : String) : Property :=
  { p with textRaw := some textRaw }

def Event.withDesc (e : Event) (desc : String) : Event := { e with desc := some desc }

end ApiStubs.Doc
