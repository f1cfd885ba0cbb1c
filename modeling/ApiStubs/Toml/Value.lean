/-!
# Values and tables

Tables are written in pieces: a header opens a table, and a key with dots leads into tables on the
way. Which pieces may add to a table depends on how the table came about.

* `Origin`, `Toml`, `Table`: values, and tables under construction;
* `alter`, `within`: a change of one member, and of a table further down;
* `Table.assign`, `Table.openTable`, `Table.openElement`: the changes that a text can write.
-/

namespace ApiStubs

/-- How a table came about. -/
inductive Toml.Origin where
  /-- By a header of its own. -/
  | header
  /-- On the way to the table of a header. -/
  | path
  /-- On the way to a key with dots. -/
  | dotted
  /-- Between braces. -/
  | braces
  deriving DecidableEq, Repr

/-- A value of TOML. -/
inductive Toml where
  | text (s : String)
  /-- A number, a truth value, a date or a time; which one does not matter. -/
  | scalar
  | array (items : List Toml)
  | table (origin : Toml.Origin) (members : List (String × Toml))
  /-- The tables of a header in double brackets, the earlier ones from the last to the first. -/
  | tables (earlier : List (List (String × Toml))) (last : List (String × Toml))

namespace Toml

/-- Keys with their values, each key once. -/
abbrev Members := List (String × Toml)

/-- A table under construction. -/
structure Table where
  origin : Origin
  members : Members := []

/-- A key, with the keys of the tables that it stands in. -/
structure Key where
  path : List String
  name : String
  deriving DecidableEq, Repr

/-- All parts of a key. -/
def Key.parts (k : Key) : List String := k.path ++ [k.name]

/-! ### Changes -/

/-- The members with a new value for a key, made from the one that it has. -/
def alter (key : String) (f : Option Toml → Option Toml) : Members → Option Members
  | [] => (f none).map fun v => [(key, v)]
  | (k, v) :: members =>
    if k = key then (f (some v)).map fun v => (k, v) :: members
    else (alter key f members).map ((k, v) :: ·)

/-- A way leads into the table. Nothing leads between braces once they are closed, and dots do not
lead into a table that has a header. -/
def Origin.admits (origin way : Origin) : Bool :=
  match origin with
  | .braces => false
  | .header => way != .dotted
  | _ => true

/-- Changes the table that stands as a value. A missing table is made by the way that leads to it;
of several tables under one key the last is meant. -/
def inside (way : Origin) (f : Table → Option Table) : Option Toml → Option Toml
  | none => (f ⟨way, []⟩).map fun t => .table t.origin t.members
  | some (.table origin members) =>
    if origin.admits way then (f ⟨origin, members⟩).map fun t => .table t.origin t.members
    else none
  | some (.tables earlier last) => (f ⟨.header, last⟩).map fun t => .tables earlier t.members
  | some _ => none

/-- Changes the table at the end of a path. -/
def within (way : Origin) : List String → (Table → Option Table) → Table → Option Table
  | [], f, t => f t
  | key :: path, f, t =>
    (alter key (inside way (within way path f)) t.members).map fun members =>
      { t with members }

namespace Table

/-- Gives a key a value that has none. -/
def insert (name : String) (v : Toml) (t : Table) : Option Table :=
  (alter name (fun old => if old.isSome then none else some v) t.members).map fun members =>
    { t with members }

/-- Gives a key with dots a value. The table it stands in must be one that dots made, if there are
any, and must not be one, if there are none. -/
def assign (k : Key) (v : Toml) : Table → Option Table :=
  within .dotted k.path fun t =>
    if (t.origin = .dotted) = (k.path ≠ []) then t.insert k.name v else none

/-- Opens the table of a header. It may have been on the way to another header, but must not have
had one of its own. -/
def openTable (k : Key) : Table → Option Table :=
  within .path k.path fun t =>
    (alter k.name (fun
      | none => some (.table .header [])
      | some (.table .path members) => some (.table .header members)
      | some _ => none) t.members).map fun members => { t with members }

/-- Opens another table of a header in double brackets. -/
def openElement (k : Key) : Table → Option Table :=
  within .path k.path fun t =>
    (alter k.name (fun
      | none => some (.tables [] [])
      | some (.tables earlier last) => some (.tables (last :: earlier) [])
      | some _ => none) t.members).map fun members => { t with members }

/-- The finished table. -/
def toToml (t : Table) : Toml := .table t.origin t.members

end Table

end Toml

end ApiStubs
