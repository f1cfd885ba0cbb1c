import ApiStubs.Decimal.Layout
import ApiStubs.Json.Number
import ApiStubs.Json.Reader
import ApiStubs.Text.Quoted

/-!
# Decoding JSON

What a program expects of a value, and what it says when the value is something else. A value is
looked at from the left, so the first problem is the one reported, and a broken place is a problem
only once it is reached.

* `Fault`, `Fault.message?`: the problems and their wording;
* `Decoder`: an expectation, with `text`, `list`, `optional` and `keyword`;
* `decode`: an expectation on a whole text.
-/

namespace ApiStubs.Json

/-- Why a value is not what is expected. -/
inductive Fault where
  /-- The text is not JSON, or it goes on where it should end. -/
  | malformed
  | invalidType (found : Kind) (expected : String)
  | invalidLength (count : Nat) (expected : String)
  | missingField (field : String)
  | duplicateField (field : String)
  | unknownField (field : String) (known : List String)
  | unknownVariant (variant : String) (known : List String)
  deriving DecidableEq, Repr

/-! ### Wording -/

/-- Numbers in messages: positional from `0.00001` up to sixteen digits before the point. -/
def numberLayout : Decimal.Layout := ⟨-5, 15⟩

/-- Text between grave accents. -/
def ticked (s : String) : String := "`" ++ s ++ "`"

/-- How a message names a value. -/
def Kind.describe : Kind → String
  | .null => "null"
  | .bool b => "boolean " ++ ticked (if b then "true" else "false")
  | .integer n => "integer " ++ ticked (toString n)
  | .floating bits => "floating point " ++ ticked (String.ofList (numberLayout.writeBits bits))
  | .text s => "string " ++ Text.quoted s
  | .sequence => "sequence"
  | .map => "map"

/-- The names one of which is expected. -/
def oneOf : List String → String
  | [a] => ticked a
  | [a, b] => ticked a ++ " or " ++ ticked b
  | names => "one of " ++ ", ".intercalate (names.map ticked)

/-- The wording of a fault. A malformed text has none of its own. -/
def Fault.message? : Fault → Option String
  | .malformed => none
  | .invalidType found expected =>
    some ("invalid type: " ++ Kind.describe found ++ ", expected " ++ expected)
  | .invalidLength count expected =>
    some ("invalid length " ++ count.repr ++ ", expected " ++ expected)
  | .missingField field => some ("missing field " ++ ticked field)
  | .duplicateField field => some ("duplicate field " ++ ticked field)
  | .unknownField field known =>
    some ("unknown field " ++ ticked field ++ ", expected " ++ oneOf known)
  | .unknownVariant variant known =>
    some ("unknown variant " ++ ticked variant ++ ", expected " ++ oneOf known)

/-! ### Expectations -/

/-- An expectation on a value. -/
abbrev Decoder (α : Type) := Json → Except Fault α

/-- The fault of a value that is not of the expected kind. -/
def mismatch (v : Json) (expected : String) : Fault :=
  match v.kind? with
  | some kind => .invalidType kind expected
  | none => .malformed

namespace Decoder

/-- A string. -/
def text : Decoder String
  | .text (some s) => .ok s
  | v => .error (mismatch v "a string")

/-- A value that is always null. -/
def unit : Decoder Unit
  | .null => .ok ()
  | v => .error (mismatch v "unit")

/-- Every item by the same expectation, from the left. -/
def items {α : Type} (d : Decoder α) : List Json → Except Fault (List α)
  | [] => .ok []
  | v :: vs =>
    match d v with
    | .error fault => .error fault
    | .ok a => (items d vs).map (a :: ·)

/-- An array. -/
def list {α : Type} (d : Decoder α) : Decoder (List α)
  | .array vs => items d vs
  | v => .error (mismatch v "a sequence")

/-- Null, or a value by the given expectation. -/
def optional {α : Type} (d : Decoder α) : Decoder (Option α)
  | .null => .ok none
  | v => (d v).map some

/-- One of the given words. -/
def known {α : Type} (words : List (String × α)) (word : String) : Except Fault α :=
  match words.lookup word with
  | some a => .ok a
  | none => .error (.unknownVariant word (words.map (·.1)))

/-- One of the given words, as a string, or as the only key of an object with the value null. -/
def keyword {α : Type} (words : List (String × α)) : Decoder α
  | .text (some word) => known words word
  | .object ((some word, v) :: members) =>
    match known words word with
    | .error fault => .error fault
    | .ok a =>
      match unit v with
      | .error fault => .error fault
      | .ok () => if members.isEmpty then .ok a else .error .malformed
  | _ => .error .malformed

end Decoder

/-- A value of a whole text. What follows the value is looked at last. -/
def decode {α : Type} (d : Decoder α) (text : String) : Except Fault α :=
  let source := read text
  match d source.value with
  | .error fault => .error fault
  | .ok a => if source.ended then .ok a else .error .malformed

end ApiStubs.Json
