import ApiStubs.Text.Alphanumeric
import ApiStubs.Text.Search

/-!
# Documented names and the names of stubs

Documentation names things in prose (`punycode (deprecated)`, `net.Server`); stubs need what of it
can stand in code.

* `identifier`: the name of a module, member or parameter, possibly empty;
* `className`, `classIdentifier?`: the name of a class, and the same if it is fit for code.
-/

namespace ApiStubs.Name

open Text

/-- A character that the name of a module or member may hold. -/
def isNameChar (c : Char) : Bool := isAlphanumeric c || c == '_'

/-- Documented names that are not an identifier with something after it. -/
def irregular : List (String × String) := [("tls_(ssl)", "tls"), ("Events", "events")]

/-- What the name starts with, up to the first character that no identifier holds. -/
def nameHead (raw : String) : String := String.ofList (raw.toList.takeWhile isNameChar)

/-- The name as code writes it: by the table of irregular names, or what the name starts with. -/
def identifier (raw : String) : String := (irregular.lookup raw).getD (nameHead raw)

/-- The name without spaces, and without a qualifier up to the first dot. -/
def className (raw : String) : String :=
  let name := raw.toList.filter (· != ' ')
  match splitFirst? ['.'] name with
  | some (_, rest) => String.ofList rest
  | none => String.ofList name

/-- A character that the name of a class may hold. -/
def isClassChar (c : Char) : Bool := isNameChar c || c == '$'

/-- The name of a class, if it is not empty and free of further qualifiers and other marks. -/
def classIdentifier? (raw : String) : Option String :=
  let name := className raw
  if name ≠ "" ∧ name.toList.all isClassChar then some name else none

theorem lookup_irregular {raw : String} (ht : raw ≠ "tls_(ssl)") (he : raw ≠ "Events") :
    irregular.lookup raw = none := by
  rw [irregular, List.lookup_cons, beq_false_of_ne ht, List.lookup_cons, beq_false_of_ne he]
  rfl

theorem identifier_of_lookup_eq_none {raw : String} (h : irregular.lookup raw = none) :
    identifier raw = nameHead raw := by
  simp [identifier, h]

theorem all_isNameChar_nameHead (raw : String) : (nameHead raw).toList.all isNameChar = true := by
  simp [nameHead, List.all_takeWhile]

theorem all_isNameChar_identifier (raw : String) :
    (identifier raw).toList.all isNameChar = true := by
  rw [identifier, irregular, List.lookup_cons, List.lookup_cons]
  split
  · show "tls".toList.all isNameChar = true
    decide
  split
  · show "events".toList.all isNameChar = true
    decide
  · exact all_isNameChar_nameHead raw

/-- A name that code writes has no line ends, quotes and other marks. -/
theorem not_mem_identifier {c : Char} (hc : isNameChar c = false) (raw : String) :
    c ∉ (identifier raw).toList := by
  intro h
  have := List.all_eq_true.1 (all_isNameChar_identifier raw) c h
  simp [hc] at this

end ApiStubs.Name
