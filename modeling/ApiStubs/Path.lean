/-!
# Paths of files

A path is kept as it is written: joining adds to it and tidies nothing up.

* `isAbsolute`, `join`: a path by itself, and a path within a directory;
* `parent`: the directory that a file is written in.
-/

namespace ApiStubs.Path

/-- The path starts at the root. -/
def isAbsolute (path : String) : Bool := path.toList.head? == some '/'

/-- The path, taken within the directory unless it is absolute. Nothing is put in front of the
separator of a directory that ends with one, or of a path in the empty directory. -/
def join (directory path : String) : String :=
  if isAbsolute path then path
  else
    match directory.toList.getLast? with
    | none | some '/' => directory ++ path
    | some _ => directory ++ "/" ++ path

/-- The end of a path, last character first, without separators and dots that name nothing. The
separator of the root stays, and so does a dot that is a whole path. -/
def trimEnd : List Char → List Char
  | ['/'] => ['/']
  | '/' :: rest => trimEnd rest
  | '.' :: '/' :: rest => trimEnd ('/' :: rest)
  | path => path

/-- The path without its last name: empty, if there is no other. -/
def parent (path : String) : String :=
  let above := (trimEnd path.toList.reverse).dropWhile (· != '/')
  String.ofList (trimEnd above).reverse

theorem join_of_isAbsolute {path : String} (h : isAbsolute path = true) (directory : String) :
    join directory path = path := by
  simp [join, h]

@[simp] theorem join_empty_directory (path : String) : join "" path = path := by
  by_cases h : isAbsolute path <;> simp [join, h]

end ApiStubs.Path
