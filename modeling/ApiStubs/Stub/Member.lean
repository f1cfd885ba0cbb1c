import ApiStubs.Doc.Basic
import ApiStubs.Draft
import ApiStubs.Inference
import ApiStubs.Stub.Path
import ApiStubs.Stub.Role
import ApiStubs.Text.Comment

/-!
# The members of a stub

Members are assignments to `this`, with the documentation in comments.

* `summary`, `Signature.draft`: documentation comments;
* `methodDraft`: a method, its body written by hand, a factory, or empty;
* `eventsDraft`: the eight functions that manage listeners;
* `propertyDraft`: a property with its inferred value.
-/

namespace ApiStubs.Stub

open Doc

/-- A description inside a comment. -/
def commentText (desc : String) : String := String.ofList (Text.docComment desc.toList)

/-- The description of a member or parameter inside a comment; nothing if it is absent. -/
def commentText? (desc : Option String) : String := (desc.map commentText).getD ""

/-- The summary line of a description, if there is one. -/
def summary : Option String → Draft Unit
  | some desc => .line ("/// <summary>" ++ commentText desc ++ "</summary>")
  | none => .done ()

/-! ### Methods -/

/-- The attribute that gives a type, if there is one. -/
def typeAttribute : Option String → String
  | some type => " type=\"" ++ Name.identifier type ++ "\""
  | none => ""

/-- The comment line of a parameter. -/
def paramLine (p : Param) : String :=
  "/// <param name=\"" ++ p.name ++ "\"" ++ typeAttribute p.type ++ ">" ++
    commentText? p.desc ++ "</param>"

/-- The comment line of what is returned. -/
def returnLine (r : Return) : String :=
  "/// <returns" ++ typeAttribute r.type ++ ">" ++ commentText? r.desc ++ "</returns>"

/-- The line of what is returned, if anything is documented of it. -/
def returnDraft : Option Return → Draft Unit
  | some r => if r.isEmpty then .done () else .line (returnLine r)
  | none => .done ()

/-- The comment of a signature. One without parameters has none. -/
def signatureDraft (s : Signature) : Draft Unit :=
  if s.params.isEmpty then .done ()
  else do
    .line "/// <signature>"
    Draft.each (fun p => .line (paramLine p)) s.params
    returnDraft s.returns
    .line "/// </signature>"

/-- The body of a factory method: a new object of the target, which should be declared. -/
def factoryDraft (container method : String) (classes : List Scope) (target : String) :
    Draft Unit := do
  if classes.any fun c => Name.className c.name == target then pure ()
  else .note (.missingFactoryTarget container method target)
  .line ("return new this." ++ target ++ "();")

/-- The body of a method: written by hand, a factory, or empty. -/
def bodyDraft (byHand : String → Option String) (container : String) (classes : List Scope)
    (m : Method) : Draft Unit :=
  match byHand m.name with
  | some code => .block code
  | none =>
    match m.factoryTarget? with
    | some target => factoryDraft container m.name classes target
    | none => .done ()

/-- The names of the parameters that the stub of a signature takes. -/
def parameterNames (container : String) (s : Signature) : Except Violation (List String) :=
  s.positional.mapM fun p => memberName container p.name

/-- A method. Its parameters are those of the first signature. -/
def methodDraft (byHand : String → Option String) (container : String) (classes : List Scope)
    (m : Method) : Draft Unit := do
  let name ← .ofExcept (memberName container m.name)
  match m.signatures with
  | [] => .refuse (.missingSignatures container m.name)
  | first :: _ =>
    let params ← .ofExcept (parameterNames container first)
    .line ("this." ++ name ++ " = function(" ++ ", ".intercalate params ++ ") \x7b")
    Draft.nested do
      summary m.desc
      Draft.each signatureDraft m.signatures
      bodyDraft byHand container classes m
    .line "\x7d"

/-! ### Events -/

/-- The comment line of an event. -/
def eventLine (e : Event) : String :=
  let about := match e.desc with
    | some desc => ": " ++ String.ofList (Text.plainSummary desc.toList)
    | none => ""
  "/// " ++ e.name ++ about ++ "&#10;"

/-- The comment that lists events with their descriptions. -/
def eventsComment (events : List Event) : List String :=
  ["/// <summary>", "/// Supported events: &#10;"] ++ events.map eventLine ++ ["/// </summary>"]

/-- The comment that lists events by name. -/
def eventNamesComment (events : List Event) : List String :=
  ["/// <summary>Supported Events: " ++ ", ".intercalate (events.map (·.name)) ++ "</summary>"]

/-- A function that manages listeners, with a comment of at least one line or with none. -/
def listenerDraft (name params : String) (comment : List String) : Draft Unit :=
  let opening := "this." ++ name ++ " = function(" ++ params ++ ") \x7b"
  if comment.isEmpty then .line (opening ++ " \x7d")
  else do
    .line opening
    Draft.nested (Draft.each .line comment)
    .line "\x7d"

/-- The functions that manage the listeners of events. Headings among the events are left out. -/
def eventsDraft (events : List Event) : Draft Unit := do
  let listed := events.filter (·.isListable)
  let full := eventsComment listed
  let names := eventNamesComment listed
  listenerDraft "addListener" "event, listener" full
  listenerDraft "once" "event, listener" full
  listenerDraft "removeListener" "event, listener" names
  listenerDraft "removeAllListeners" "event" names
  listenerDraft "listeners" "event" names
  listenerDraft "setMaxListeners" "n" []
  listenerDraft "emit" "event, args" full
  listenerDraft "on" "event, listener" full

/-- The functions that manage listeners, if events are documented at all. -/
def eventsDraft? : Option (List Event) → Draft Unit
  | some events => eventsDraft events
  | none => .done ()

/-! ### Properties -/

/-- The comment line of a property, if it has a description. -/
def fieldDraft (p : Property) : Draft Unit :=
  match p.desc with
  | some desc => .line ("/// <field name='" ++ p.name ++ "'>" ++ commentText desc ++ "</field>")
  | none => .done ()

/-- A property with its inferred value. -/
def propertyDraft (container : String) (specializer : Option Inference.Specializer)
    (p : Property) : Draft Unit := do
  let name ← .ofExcept (memberName container p.name)
  fieldDraft p
  let value :=
    Inference.inferDefault p.name (p.desc.getD "") (p.textRaw.getD "") specializer
  .line ("this." ++ name ++ " = " ++ value ++ ";")

end ApiStubs.Stub
