import ApiStubs.Toml.Quoted
import ApiStubs.Toml.Scalar
import ApiStubs.Toml.Value

/-!
# Documents

A document is a list of statements, one a line. Each gives a key a value or opens a table, and the
statements make the document's table from the first to the last.

* `readKey`, `readValue`: keys, and values that are nested no deeper than `depthLimit`;
* `Statement`, `readLine`, `readLines`: the lines of a document;
* `Document`, `Document.follow`: the table made so far;
* `read?`: the table of a text, unless the text is not TOML.
-/

namespace ApiStubs.Toml

open Text

/-- Blanks within a line. -/
def spaces : Scan Unit := (fun _ => ()) <$> Scan.run isSpace

/-- A comment, up to the end of its line. -/
def comment : Scan Unit := do
  Scan.exactly "#"
  let _ ← Scan.run isPrintable
  return ()

/-! ### Keys -/

/-- How deep values may be nested, and how many parts a key may have. -/
def depthLimit : Nat := 79

/-- A character of a key without quotation marks. -/
def isBare (c : Char) : Bool := c.isAlphanum || c == '_' || c == '-'

/-- A part of a key. -/
def readPart : Scan String := do
  spaces
  let part ← quotation1 <|> Scan.run1 isBare
  spaces
  return String.ofList part

/-- The key with these parts, unless there are too many. -/
def Key.ofParts? (first : String) (others : List String) : Option Key :=
  let parts := first :: others
  if parts.length ≤ depthLimit then some ⟨parts.dropLast, parts.getLast (by simp)⟩ else none

/-- A key; its parts stand between dots. -/
def readKey : Scan Key := do
  let first ← readPart
  let others ← Scan.many do
    Scan.exactly "."
    readPart
  Key.ofParts? first others

/-! ### Values -/

/-- A word. One blank may stand between a date and a time. -/
def readScalar : Scan Toml := do
  let word ← Scan.run1 isWordChar
  let time ← Scan.optional do
    if afterDate? word == some [] then Scan.exactly " " else failure
    Scan.run1 isWordChar
  let all := match time with
    | some time => word ++ ' ' :: time
    | none => word
  if isScalar all then return .scalar else failure

/-- Blanks, comments and line ends between the items of an array. -/
def gaps : Scan Unit := do
  spaces
  let _ ← Scan.many do
    let _ ← Scan.optional comment
    newline
    spaces
  return ()

/-- An array after its bracket. A comma may follow the last item. -/
def readArray (value : Scan Toml) : Scan Toml := do
  let item : Scan Toml := do
    gaps
    let v ← value
    gaps
    return v
  let items ← Scan.optional do
    let first ← item
    let others ← Scan.many do
      Scan.exactly ","
      item
    let _ ← Scan.optional (Scan.exactly ",")
    return first :: others
  gaps
  Scan.exactly "]"
  return .array (items.getD [])

/-- A key and its value. -/
def readMember (value : Scan Toml) : Scan (Key × Toml) := do
  let k ← readKey
  Scan.exactly "="
  spaces
  let v ← value
  spaces
  return (k, v)

/-- A table after its brace. -/
def readBraces (value : Scan Toml) : Scan Toml := do
  let members ← Scan.optional do
    let first ← readMember value
    let others ← Scan.many do
      Scan.exactly ","
      readMember value
    return first :: others
  spaces
  Scan.exactly "\x7d"
  let t ← (members.getD []).foldlM (fun t (k, v) => t.assign k v) (⟨.braces, []⟩ : Table)
  return t.toToml

/-- A value whose arrays and tables are nested no deeper than `n`. -/
def readValue (n : Nat) : Scan Toml := do
  match ← Scan.peek?, n with
  | some '"', _ | some '\'', _ => return .text (String.ofList (← quotation))
  | some '[', n + 1 => do
    Scan.exactly "["
    readArray (readValue n)
  | some '{', n + 1 => do
    Scan.exactly "\x7b"
    readBraces (readValue n)
  | _, _ => readScalar

/-! ### Lines -/

/-- What a line says. -/
inductive Statement where
  | assign (k : Key) (v : Toml)
  /-- A header. -/
  | openTable (k : Key)
  /-- A header in double brackets. -/
  | openElement (k : Key)

/-- The end of a line, after blanks and a comment. -/
def lineClose : Scan Unit := do
  spaces
  let _ ← Scan.optional comment
  newline <|> Scan.ended

/-- A header. -/
def readHeader : Scan Statement := do
  match ← Scan.optional (Scan.exactly "[[") with
  | some () => do
    let k ← readKey
    Scan.exactly "]]"
    return .openElement k
  | none => do
    Scan.exactly "["
    let k ← readKey
    Scan.exactly "]"
    return .openTable k

/-- A line, which need not say anything. -/
def readLine : Scan (Option Statement) := do
  spaces
  match ← Scan.peek? with
  | none => failure
  | some '[' => do
    let statement ← readHeader
    lineClose
    return some statement
  | some '#' | some '\n' | some '\r' => do
    lineClose
    return none
  | some _ => do
    let (k, v) ← readMember (readValue depthLimit)
    lineClose
    return some (.assign k v)

/-- All lines of a text. A byte order mark may stand in front. -/
def readLines : Scan (List Statement) := do
  let _ ← Scan.optional (Scan.exactly "\uFEFF")
  let ls ← Scan.many readLine
  spaces
  Scan.ended
  return ls.filterMap id

/-! ### The table of a document -/

/-- A document as far as it has been followed. -/
structure Document where
  root : Table := ⟨.header, []⟩
  /-- The table that keys stand in, by its path. -/
  current : List String := []

/-- Does what a line says. -/
def Document.follow (d : Document) : Statement → Option Document
  | .assign k v => (within .path d.current (Table.assign k v) d.root).map ({ d with root := · })
  | .openTable k => (d.root.openTable k).map (⟨·, k.parts⟩)
  | .openElement k => (d.root.openElement k).map (⟨·, k.parts⟩)

/-- The table of the statements. -/
def ofStatements? (statements : List Statement) : Option Toml :=
  (statements.foldlM Document.follow {}).map fun d => d.root.toToml

/-- The table of a text. -/
def read? (text : String) : Option Toml := do
  let (statements, _) ← readLines text.toList
  ofStatements? statements

end ApiStubs.Toml
