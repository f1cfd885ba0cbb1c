import ApiStubs.Path

/-!
# Files

A program reaches files through the few things it may do with them. Here is also a tree of files as
a value, on which a program can be followed without any outside effect.

A tree holds files of text. Of directories it has those that its files and the working directory
stand in, so that there is no other empty one, and no file in it is there without being text.

* `FileAccess`: what may be done with files;
* `FileTree`, `FileTree.locate?`: files in directories, and the location that a path leads to;
* `FileTree.isThere`, `FileTree.read?`, `FileTree.write?`: what may be done with a tree;
* `FileTree.access`: a tree as the state of a program.
-/

namespace ApiStubs

/-- What may be done with files. -/
structure FileAccess (m : Type → Type) where
  /-- There is a file or a directory. -/
  isThere : String → m Bool
  /-- The text of a file, if it can be read. -/
  read? : String → m (Option String)
  /-- Gives a file a text, and tells whether that was possible. -/
  write : String → String → m Bool

namespace Path

/-- The names in a path, between its separators. -/
def namesOf : List Char → List (List Char)
  | [] => [[]]
  | c :: s =>
    if c = '/' then [] :: namesOf s
    else
      match namesOf s with
      | [] => [[c]]
      | name :: names => (c :: name) :: names

/-- The names in a path. -/
def names (path : String) : List String := (namesOf path.toList).map String.ofList

/-- A name that a file can have. -/
def isName (name : String) : Bool :=
  decide (name.utf8ByteSize ≤ 255) && !name.toList.contains '\x00'

/-- A path that can lead somewhere: it says something, and is not too long. -/
def isWalkable (path : String) : Bool := path != "" && decide (path.utf8ByteSize < 4096)

end Path

/-- A place in a tree, by the names that lead to it from the root. -/
abbrev Location := List String

/-- Files with their texts. -/
structure FileTree where
  /-- The working directory. -/
  home : Location
  files : List (Location × String) := []
  deriving DecidableEq, Repr

namespace FileTree

/-- The text of the file at a location. -/
def textAt? (t : FileTree) (l : Location) : Option String := t.files.lookup l

/-- The location is that of the working directory, or above it or a file. -/
def isDirectory (t : FileTree) (l : Location) : Bool :=
  l.isPrefixOf t.home || t.files.any fun file => l.isPrefixOf file.1.dropLast

/-- Where a name leads, seen from a directory. -/
def step? (t : FileTree) (here : Location) (name : String) : Option Location :=
  if !t.isDirectory here then none
  else if name = "" ∨ name = "." then some here
  else if name = ".." then some here.dropLast
  else if Path.isName name then some (here ++ [name])
  else none

/-- Where a path leads. There need not be anything. -/
def locate? (t : FileTree) (path : String) : Option Location :=
  if Path.isWalkable path then
    (Path.names path).foldlM t.step? (if Path.isAbsolute path then [] else t.home)
  else none

/-- The path leads to a file or a directory. -/
def isThere (t : FileTree) (path : String) : Bool :=
  (t.locate? path).any fun l => t.isDirectory l || (t.textAt? l).isSome

/-- The text of the file that a path leads to. -/
def read? (t : FileTree) (path : String) : Option String := (t.locate? path).bind t.textAt?

/-- The files, with a text for one of them. -/
def put (l : Location) (text : String) : List (Location × String) → List (Location × String)
  | [] => [(l, text)]
  | (k, old) :: files => if k = l then (k, text) :: files else (k, old) :: put l text files

/-- The tree with a text for the file that a path leads to, unless that is a directory. -/
def write? (t : FileTree) (path text : String) : Option FileTree :=
  match t.locate? path with
  | some l => if t.isDirectory l then none else some { t with files := put l text t.files }
  | none => none

/-- A tree as the state of a program. -/
def access : FileAccess (StateM FileTree) where
  isThere path := do return (← get).isThere path
  read? path := do return (← get).read? path
  write path text := do
    match (← get).write? path text with
    | some t =>
      set t
      return true
    | none => return false

/-! ### Lemmas -/

@[simp] theorem lookup_put_self (l : Location) (text : String) (files : List (Location × String)) :
    (put l text files).lookup l = some text := by
  induction files with
  | nil => simp [put]
  | cons file files ih =>
    obtain ⟨k, old⟩ := file
    by_cases h : k = l
    · simp [put, h]
    · have hb : (l == k) = false := by simpa using Ne.symm h
      simp [put, h, List.lookup_cons, hb, ih]

theorem lookup_put_of_ne {l k : Location} (h : k ≠ l) (text : String)
    (files : List (Location × String)) : (put l text files).lookup k = files.lookup k := by
  induction files with
  | nil =>
    have hb : (k == l) = false := by simpa using h
    simp [put, List.lookup_cons, hb]
  | cons file files ih =>
    obtain ⟨j, old⟩ := file
    by_cases hj : j = l
    · subst hj
      have hb : (k == j) = false := by simpa using h
      simp [put, List.lookup_cons, hb]
    · simp only [put, hj, if_false, List.lookup_cons]
      split
      · rfl
      · exact ih

end FileTree

end ApiStubs
