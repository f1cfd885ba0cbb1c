import ApiStubs.Json.Decode

/-!
# Records in JSON

A record is an object with known keys. It may also be written as the array of its fields in the
order of their declaration. Fields are listed once, and reading and writing both follow the list.

* `Codec`: a type's form in JSON, both ways;
* `Row`, `Fields`: the values of a record, and its fields;
* `Fields.readMember`, `Fields.finish`: an object, member by member, and what is missing at its end;
* `Fields.readItems`: an array;
* `Fields.write`: the members of a record;
* `record`: the codec of a record.
-/

namespace ApiStubs.Json

/-- How values of a type are read and written. -/
structure Codec (α : Type) where
  decode : Decoder α
  encode : α → Json

/-- Strings. -/
def Codec.text : Codec String := ⟨Decoder.text, str⟩

/-- Arrays of values of one type. -/
def Codec.list {α : Type} (c : Codec α) : Codec (List α) :=
  ⟨Decoder.list c.decode, fun as => .array (as.map c.encode)⟩

/-! ### Fields -/

/-- A field of a record. -/
structure Field (α : Type) where
  key : String
  decode : Decoder α
  /-- The value of its member; `none` leaves the member out. -/
  encode : α → Option Json
  /-- The value if the member is missing; `none` if it must be there. -/
  absent : Option α

namespace Field

/-- A field that must be there. -/
def required {α : Type} (key : String) (c : Codec α) : Field α :=
  ⟨key, c.decode, fun a => some (c.encode a), none⟩

/-- A field that takes a value of its own if it is missing. -/
def withDefault {α : Type} (key : String) (c : Codec α) (value : α) : Field α :=
  ⟨key, c.decode, fun a => some (c.encode a), some value⟩

/-- A field that may be missing or null, and is left out if it has no value. -/
def optional {α : Type} (key : String) (c : Codec α) : Field (Option α) :=
  ⟨key, Decoder.optional c.decode, fun a => a.map c.encode, some none⟩

/-- A field that may be missing or null, and is null if it has no value. -/
def nullable {α : Type} (key : String) (c : Codec α) : Field (Option α) :=
  ⟨key, Decoder.optional c.decode, fun a => some ((a.map c.encode).getD .null), some none⟩

end Field

/-- One value of each type. -/
def Row : List Type → Type
  | [] => Unit
  | α :: αs => α × Row αs

/-- One value of each type, as far as it has been read. -/
def Slots : List Type → Type
  | [] => Unit
  | α :: αs => Option α × Slots αs

/-- The fields of a record, in the order of their declaration. -/
inductive Fields : List Type → Type 1 where
  | nil : Fields []
  | cons {α : Type} {αs : List Type} (field : Field α) (fields : Fields αs) : Fields (α :: αs)

namespace Fields

/-- The keys of the fields. -/
def keys {αs : List Type} : Fields αs → List String
  | nil => []
  | cons field fields => field.key :: fields.keys

/-- Nothing has been read yet. -/
def noSlots {αs : List Type} : Fields αs → Slots αs
  | nil => ()
  | cons _ fields => (none, fields.noSlots)

/-- Reads a member with a known key; `none` if no field has the key. A key that comes a second time
is refused before its value is looked at. -/
def readMember {αs : List Type} (key : String) (v : Json) :
    Fields αs → Slots αs → Option (Except Fault (Slots αs))
  | nil, _ => none
  | cons field fields, (slot, slots) =>
    if field.key = key then
      match slot with
      | some _ => some (.error (.duplicateField key))
      | none => some ((field.decode v).map fun a => (some a, slots))
    else (fields.readMember key v slots).map fun r => r.map fun slots => (slot, slots)

/-- The record, once all members have been read. -/
def finish {αs : List Type} : Fields αs → Slots αs → Except Fault (Row αs)
  | nil, _ => .ok ()
  | cons field fields, (slot, slots) =>
    match slot.or field.absent with
    | none => .error (.missingField field.key)
    | some a => (fields.finish slots).map fun row => (a, row)

/-- The record of an object. Members without a field must be complete, and are refused altogether
if the record is strict. -/
def readMembers {αs : List Type} (fields : Fields αs) (strict : Bool) :
    Slots αs → List (Option String × Json) → Except Fault (Row αs)
  | slots, [] => fields.finish slots
  | _, (none, _) :: _ => .error .malformed
  | slots, (some key, v) :: members =>
    match fields.readMember key v slots with
    | some (.error fault) => .error fault
    | some (.ok slots) => fields.readMembers strict slots members
    | none =>
      if strict then .error (.unknownField key fields.keys)
      else if v.complete then fields.readMembers strict slots members
      else .error .malformed

/-- The record of an array, whose items are the fields in order from number `i` on. Fields with a
value of their own may be missing; an item too many is an error. -/
def readItems {αs : List Type} (expected : String) :
    Fields αs → Nat → List Json → Except Fault (Row αs)
  | nil, _, [] => .ok ()
  | nil, _, _ :: _ => .error .malformed
  | cons field fields, i, [] =>
    match field.absent with
    | none => .error (.invalidLength i expected)
    | some a => (fields.readItems expected (i + 1) []).map fun row => (a, row)
  | cons field fields, i, v :: vs =>
    match field.decode v with
    | .error fault => .error fault
    | .ok a => (fields.readItems expected (i + 1) vs).map fun row => (a, row)

/-- The members of a record. -/
def write {αs : List Type} : Fields αs → Row αs → List (String × Json)
  | nil, _ => []
  | cons field fields, (a, row) =>
    match field.encode a with
    | some v => (field.key, v) :: fields.write row
    | none => fields.write row

end Fields

/-- The phrase for a number of elements. -/
def elements (n : Nat) : String :=
  if n = 1 then "1 element" else n.repr ++ " elements"

/-- A record by its name, its fields, and the two directions between it and the row of its values.
A strict record refuses unknown keys. -/
def record {αs : List Type} {β : Type} (name : String) (strict : Bool) (fields : Fields αs)
    (ofRow : Row αs → β) (toRow : β → Row αs) : Codec β where
  decode
    | .object members => (fields.readMembers strict fields.noSlots members).map ofRow
    | .array items =>
      (fields.readItems ("struct " ++ name ++ " with " ++ elements fields.keys.length) 0 items).map
        ofRow
    | v => .error (mismatch v ("struct " ++ name))
  encode b := ofMembers (fields.write (toRow b))

end ApiStubs.Json
