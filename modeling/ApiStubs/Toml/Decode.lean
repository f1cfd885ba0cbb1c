import ApiStubs.Toml.Value

/-!
# Decoding TOML

What a program makes of a value. A record is a table with known keys; it may also be written as the
array of its fields in the order of their declaration, and fields that are not there take a value
of their own.

* `text?`, `items?`, `keyword?`: strings, arrays, and words of a list;
* `record?`, `field?`: the members of a record, and one of its fields.
-/

namespace ApiStubs.Toml

/-- A string. -/
def text? : Toml → Option String
  | .text s => some s
  | _ => none

/-- The items of an array, or the tables of a header in double brackets. -/
def items? : Toml → Option (List Toml)
  | .array items => some items
  | .tables earlier last => some ((last :: earlier).reverse.map (.table .header))
  | _ => none

/-- An array or a table without anything in it. -/
def isEmpty : Toml → Bool
  | .array [] | .table _ [] => true
  | _ => false

/-- One of the given words, as a string, or as the only key of a table with an empty value. -/
def keyword? {α : Type} (words : List (String × α)) : Toml → Option α
  | .text word => words.lookup word
  | .table _ [(word, v)] => if v.isEmpty then words.lookup word else none
  | _ => none

/-- The members of a record with these keys. A table must not have others; items of an array beyond
the last key are left out. -/
def record? (keys : List String) : Toml → Option Members
  | .table _ members => if members.all fun m => keys.contains m.1 then some members else none
  | v => v.items?.map keys.zip

/-- A field of a record. -/
def field? {α : Type} (members : Members) (key : String) (decode : Toml → Option α)
    (absent : α) : Option α :=
  match members.lookup key with
  | some v => decode v
  | none => some absent

end ApiStubs.Toml
