import ApiStubs.Doc.Basic
import ApiStubs.Json.Printer
import ApiStubs.Json.Record

/-!
# Documentation entries in JSON

Each entry is a record. Absent facets are left out; a facet that is present but empty is an empty
array.

* `Tree.codec`, `Module.codec` and so on: the records, each with its name in messages;
* `Tree.ofText`: the documentation that a text holds.
-/

namespace ApiStubs.Doc

open Json (Codec Field Fields record)

/-- The form of a parameter. -/
def Param.codec : Codec Param :=
  record "ParamDoc" false
    (.cons (.required "name" .text) <| .cons (.optional "type" .text) <|
      .cons (.optional "desc" .text) .nil)
    (fun (name, type, desc, _) => ⟨name, type, desc⟩) (fun p => (p.name, p.type, p.desc, ()))

/-- The form of what is returned. -/
def Return.codec : Codec Return :=
  record "ReturnDoc" false
    (.cons (.optional "type" .text) <| .cons (.optional "desc" .text) .nil)
    (fun (type, desc, _) => ⟨type, desc⟩) (fun r => (r.type, r.desc, ()))

/-- The form of a signature. -/
def Signature.codec : Codec Signature :=
  record "SignatureDoc" false
    (.cons (.required "params" (.list Param.codec)) <|
      .cons (.optional "return" Return.codec) .nil)
    (fun (params, returns, _) => ⟨params, returns⟩) (fun s => (s.params, s.returns, ()))

/-- The form of a method. -/
def Method.codec : Codec Method :=
  record "MethodDoc" false
    (.cons (.required "name" .text) <| .cons (.optional "desc" .text) <|
      .cons (.required "signatures" (.list Signature.codec)) .nil)
    (fun (name, desc, signatures, _) => ⟨name, desc, signatures⟩)
    (fun m => (m.name, m.desc, m.signatures, ()))

/-- The form of an event. -/
def Event.codec : Codec Event :=
  record "EventDoc" false
    (.cons (.required "name" .text) <| .cons (.optional "desc" .text) .nil)
    (fun (name, desc, _) => ⟨name, desc⟩) (fun e => (e.name, e.desc, ()))

/-- The form of a property. -/
def Property.codec : Codec Property :=
  record "PropertyDoc" false
    (.cons (.required "name" .text) <| .cons (.optional "desc" .text) <|
      .cons (.optional "textRaw" .text) .nil)
    (fun (name, desc, textRaw, _) => ⟨name, desc, textRaw⟩)
    (fun p => (p.name, p.desc, p.textRaw, ()))

/-- The form of a class. -/
def Scope.codec : Codec Scope :=
  record "ClassDoc" false
    (.cons (.required "name" .text) <| .cons (.optional "desc" .text) <|
      .cons (.optional "methods" (.list Method.codec)) <|
      .cons (.optional "events" (.list Event.codec)) <|
      .cons (.optional "properties" (.list Property.codec)) .nil)
    (fun (name, desc, methods, events, properties, _) =>
      ⟨name, desc, methods, events, properties⟩)
    (fun s => (s.name, s.desc, s.methods, s.events, s.properties, ()))

/-- The form of a module or global object. -/
def Module.codec : Codec Module :=
  record "ModuleDoc" false
    (.cons (.required "name" .text) <| .cons (.optional "desc" .text) <|
      .cons (.optional "methods" (.list Method.codec)) <|
      .cons (.optional "events" (.list Event.codec)) <|
      .cons (.optional "properties" (.list Property.codec)) <|
      .cons (.optional "classes" (.list Scope.codec)) .nil)
    (fun (name, desc, methods, events, properties, classes, _) =>
      ⟨⟨name, desc, methods, events, properties⟩, classes⟩)
    (fun m => (m.name, m.desc, m.methods, m.events, m.properties, m.classes, ()))

/-- The form of a section. -/
def Section.codec : Codec Section :=
  record "MiscDoc" false
    (.cons (.withDefault "name" .text "") <|
      .cons (.optional "globals" (.list Module.codec)) .nil)
    (fun (name, globals, _) => ⟨name, globals⟩) (fun s => (s.name, s.globals, ()))

/-- The form of a documentation. -/
def Tree.codec : Codec Tree :=
  record "DocTree" false
    (.cons (.withDefault "modules" (.list Module.codec) []) <|
      .cons (.withDefault "miscs" (.list Section.codec) []) .nil)
    (fun (modules, sections, _) => ⟨modules, sections⟩) (fun t => (t.modules, t.sections, ()))

/-- The documentation that a text holds. -/
def Tree.ofText (text : String) : Except Json.Fault Tree := Json.decode Tree.codec.decode text

/-- The text of a documentation. -/
def Tree.toText (t : Tree) : String := (Tree.codec.encode t).toText

end ApiStubs.Doc
