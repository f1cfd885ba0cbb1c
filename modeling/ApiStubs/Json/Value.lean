/-!
# JSON values

A text need not be JSON to its end. A value says what a text means as far as it is JSON, and
`broken` marks the place where it stops being so; such a place is always the last of its list.

* `Numeral`: a number as it is written;
* `Kind`: what sort of value stands somewhere, for messages;
* `Json`: the values;
* `Json.complete`: no place is broken.
-/

namespace ApiStubs

/-- A number as it is written. The fraction is empty if there is no point. -/
structure Numeral where
  negative : Bool
  whole : List Nat
  fraction : List Nat
  /-- The sign and the digits of the exponent. -/
  exponent : Option (Bool × List Nat)
  deriving DecidableEq, Repr

/-- The sort of a value; a leaf with what it holds. -/
inductive Kind where
  | null
  | bool (b : Bool)
  | integer (n : Int)
  /-- A number of 64 bits in floating point, by its bits. -/
  | floating (bits : UInt64)
  | text (s : String)
  | sequence
  | map
  deriving DecidableEq, Repr

/-- A value of JSON, as far as a text gives one. -/
inductive Json where
  | null
  | bool (b : Bool)
  | number (n : Numeral)
  /-- A string; `none` if its escapes leave half of a surrogate pair alone. -/
  | text (s : Option String)
  | array (items : List Json)
  /-- An object with its members in order; a key is `none` as a string is, or if it is missing. -/
  | object (members : List (Option String × Json))
  /-- The text stops being JSON here. -/
  | broken

namespace Json

/-- A string. -/
def str (s : String) : Json := .text (some s)

/-- An object with these members. -/
def ofMembers (members : List (String × Json)) : Json :=
  .object (members.map fun m => (some m.1, m.2))

mutual

/-- The text is JSON from the start of the value to its end. -/
def complete : Json → Bool
  | .array items => allComplete items
  | .object members => membersComplete members
  | .broken => false
  | _ => true

/-- Every item is complete. -/
def allComplete : List Json → Bool
  | [] => true
  | v :: items => v.complete && allComplete items

/-- The value of every member is complete. -/
def membersComplete : List (Option String × Json) → Bool
  | [] => true
  | (_, v) :: members => v.complete && membersComplete members

end

end Json

end ApiStubs
