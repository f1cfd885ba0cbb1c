import ApiStubs.Json.Printer
import ApiStubs.Json.Record
import ApiStubs.Text.Blank
import ApiStubs.Text.Search

/-!
# Values of properties

A stub gives every property some value, from which a tool can tell its type. The description is
asked first, then the raw signature, then what is known of the container; else the value is
undefined.

* `describedLiteral?`, `typeToken?`, `signatureLiteral?`: hints in the documentation;
* `Specializer`, `Registry`: known properties, by container;
* `Runtime`, `Runtime.specializer`, `Registry.ofRuntime`: the process object of a runtime;
* `inferDefault`: the value of a property.
-/

namespace ApiStubs.Inference

open Text

def trueLiteral : String := "true"
def zeroLiteral : String := "0"
def undefinedLiteral : String := "undefined"
def readableStreamLiteral : String := "require('stream').Readable()"
def writableStreamLiteral : String := "require('stream').Writable()"

/-- The raw signature of the one stream that is documented without a type. -/
def stderrSignature : String := "process.stderr"

/-! ### Hints -/

/-- The value of the first type, in this order, that the description marks up as code. -/
def describedLiteral? (desc textRaw : String) : Option String :=
  let mentions (type : String) := contains ("<code>" ++ type ++ "</code>").toList desc.toList
  if mentions "Boolean" then some trueLiteral
  else if mentions "Number" then some zeroLiteral
  else if mentions "Readable Stream" then some readableStreamLiteral
  else if mentions "Writable Stream" || textRaw == stderrSignature then
    some writableStreamLiteral
  else none

/-- The text in the first braces of a raw signature, without blanks around it. -/
def typeToken? (textRaw : String) : Option String :=
  match splitFirst? ['{'] textRaw.toList with
  | some (_, rest) =>
    match splitFirst? ['}'] rest with
    | some (token, _) => some (String.ofList (trim token))
    | none => none
  | none => none

/-- The value of the type that a raw signature gives. -/
def signatureLiteral? (textRaw : String) : Option String :=
  match typeToken? textRaw with
  | some "Boolean" => some trueLiteral
  | some "Number" => some zeroLiteral
  | _ => none

/-! ### Known properties -/

/-- The values of known properties of a container. -/
abbrev Specializer := String → Option String

/-- The known properties of each container. -/
def Registry := String → Option Specializer

namespace Registry

/-- No container is known. -/
def empty : Registry := fun _ => none

/-- What is known of a container. -/
def get? (r : Registry) (container : String) : Option Specializer := r container

/-- The registry with a specializer for a container, in place of any other. -/
def register (r : Registry) (container : String) (s : Specializer) : Registry :=
  fun c => if c = container then some s else r c

@[simp] theorem get?_empty (c : String) : empty.get? c = none := rfl

@[simp] theorem get?_register_self (r : Registry) (c : String) (s : Specializer) :
    (r.register c s).get? c = some s := by
  simp [get?, register]

theorem get?_register_of_ne (r : Registry) {c d : String} (s : Specializer) (h : d ≠ c) :
    (r.register c s).get? d = r.get? d := by
  simp [get?, register, h]

end Registry

/-- The runtime whose process object the stubs describe. -/
structure Runtime where
  nodeVersion : String := "0.10.0"
  v8Version : String := "3.14.5.8"
  platform : String := "win32"
  deriving DecidableEq, Repr

/-- The form of a runtime. Missing keys take their defaults, unknown ones are refused. -/
def Runtime.codec : Json.Codec Runtime :=
  let default : Runtime := {}
  Json.record "RuntimeProfile" true
    (.cons (.withDefault "node_version" .text default.nodeVersion) <|
      .cons (.withDefault "v8_version" .text default.v8Version) <|
      .cons (.withDefault "platform" .text default.platform) .nil)
    (fun (node, v8, platform, _) => ⟨node, v8, platform⟩)
    (fun r => (r.nodeVersion, r.v8Version, r.platform, ()))

/-- Text between apostrophes. -/
def apostrophed (s : String) : String := "'" ++ s ++ "'"

/-- The properties of the process object. -/
def Runtime.specializer (r : Runtime) : Specializer
  | "env" => some "\x7b\x7d"
  | "versions" =>
    some ("\x7bnode: " ++ apostrophed r.nodeVersion ++ ", v8: " ++ apostrophed r.v8Version ++
      "\x7d")
  | "pid" => some "0"
  | "title" => some "''"
  | "platform" => some (apostrophed r.platform)
  | "maxTickDepth" => some "1000"
  | "argv" => some "[ 'node.exe' ]"
  | _ => none

/-- The function name of the process object. -/
def processContainer : String := "__process"

/-- The registry that knows the process object of a runtime. -/
def Registry.ofRuntime (r : Runtime) : Registry := empty.register processContainer r.specializer

/-! ### The value of a property -/

/-- The value of a property, by its documentation and by what is known of its container. -/
def inferDefault (name desc textRaw : String) (specializer : Option Specializer) : String :=
  match describedLiteral? desc textRaw with
  | some literal => literal
  | none =>
    match signatureLiteral? textRaw with
    | some literal => literal
    | none => (specializer.bind fun s => s name).getD undefinedLiteral

end ApiStubs.Inference
