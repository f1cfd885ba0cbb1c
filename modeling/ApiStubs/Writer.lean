/-!
# Writing code line by line

* `indentedLine`: a line as it is written at some depth;
* `onOwnLines`: a text that ends its last line;
* `textLines`: the lines of a block of text;
* `Writer`: the text written so far and the depth, with one function per operation;
* `Writer.Operation`, `Writer.trace`, `Writer.run`: sequences of operations;
* `Line`, `render`: lines with a depth of their own, and their text at some depth;
* `Writer.write_eq`: writing lines adds their text, whatever was written before.
-/

namespace ApiStubs

/-- Spaces per level. -/
def indentWidth : Nat := 4

/-- The line at a depth, ended by a line feed. An empty line is not indented. -/
def indentedLine (depth : Nat) (text : String) : String :=
  if text = "" then "\n"
  else String.ofList (List.replicate (depth * indentWidth) ' ') ++ text ++ "\n"

/-- A text on lines of its own: nothing if it is empty, else with a line feed at its end. -/
def onOwnLines (text : String) : String :=
  if text = "" ∨ text.toList.getLast? = some '\n' then text else text ++ "\n"

/-! ### The lines of a text -/

/-- A line, given last character first, without the carriage return it may end with. -/
def lineOfReverse : List Char → List Char
  | '\r' :: line => line.reverse
  | line => line.reverse

/-- `textLines` with the current line read so far, last character first. -/
def textLinesFrom : List Char → List Char → List (List Char)
  | [], [] => []
  | line, [] => [line.reverse]
  | line, c :: s =>
    if c = '\n' then lineOfReverse line :: textLinesFrom [] s else textLinesFrom (c :: line) s

/-- The lines of a text. A line ends with a line feed, perhaps after a carriage return; the last
need not end. -/
def textLines (text : String) : List String :=
  (textLinesFrom [] text.toList).map String.ofList

/-! ### The writer -/

/-- The text written so far, and the depth at which lines are written. -/
structure Writer where
  depth : Nat := 0
  output : String := ""
  deriving DecidableEq, Repr

namespace Writer

/-- Writes one line at the current depth. -/
def line (w : Writer) (text : String) : Writer :=
  { w with output := w.output ++ indentedLine w.depth text }

/-- Writes each line of a text at the current depth. -/
def block (w : Writer) (text : String) : Writer := (textLines text).foldl line w

/-- Writes a text as it is. -/
def raw (w : Writer) (text : String) : Writer := { w with output := w.output ++ text }

/-- Goes one level deeper. -/
def indent (w : Writer) : Writer := { w with depth := w.depth + 1 }

/-- Goes back to the level around this one. -/
def dedent (w : Writer) : Writer := { w with depth := w.depth - 1 }

@[simp] theorem depth_line (w : Writer) (text : String) : (w.line text).depth = w.depth := rfl

@[simp] theorem output_line (w : Writer) (text : String) :
    (w.line text).output = w.output ++ indentedLine w.depth text := rfl

@[simp] theorem depth_raw (w : Writer) (text : String) : (w.raw text).depth = w.depth := rfl

@[simp] theorem output_raw (w : Writer) (text : String) :
    (w.raw text).output = w.output ++ text := rfl

@[simp] theorem depth_indent (w : Writer) : w.indent.depth = w.depth + 1 := rfl

@[simp] theorem output_indent (w : Writer) : w.indent.output = w.output := rfl

@[simp] theorem depth_dedent (w : Writer) : w.dedent.depth = w.depth - 1 := rfl

@[simp] theorem output_dedent (w : Writer) : w.dedent.output = w.output := rfl

@[simp] theorem depth_block (w : Writer) (text : String) : (w.block text).depth = w.depth := by
  simp only [block]
  induction textLines text generalizing w with
  | nil => rfl
  | cons l ls ih => simp [ih]

end Writer

/-- An operation on a writer. -/
inductive Writer.Operation where
  | line (text : String)
  | block (text : String)
  | raw (text : String)
  | indent
  | dedent
  deriving DecidableEq, Repr

/-- The writer after an operation. -/
def Writer.apply (w : Writer) : Writer.Operation → Writer
  | .line text => w.line text
  | .block text => w.block text
  | .raw text => w.raw text
  | .indent => w.indent
  | .dedent => w.dedent

/-- The operation can be done: only a level that was gone into can be left. -/
def Writer.admits (w : Writer) : Writer.Operation → Bool
  | .dedent => w.depth != 0
  | _ => true

/-- The writer after each operation of a sequence, those left out that cannot be done. -/
def Writer.trace (w : Writer) : List Writer.Operation → List Writer
  | [] => []
  | op :: ops => if w.admits op then w.apply op :: (w.apply op).trace ops else w.trace ops

/-- The writer after a sequence of operations. -/
def Writer.run (w : Writer) (ops : List Writer.Operation) : Writer := ops.foldl apply w

/-! ### Lines with a depth of their own -/

/-- A line, with its depth below the place where it is written. -/
structure Line where
  depth : Nat
  text : String
  deriving DecidableEq, Repr

/-- The line one level deeper. -/
def Line.deeper (l : Line) : Line := { l with depth := l.depth + 1 }

/-- The operations that write a line at its depth and go back. -/
def Line.operations (l : Line) : List Writer.Operation :=
  List.replicate l.depth .indent ++ [.line l.text] ++ List.replicate l.depth .dedent

/-- Writes lines, each below the current depth. -/
def Writer.write (w : Writer) (lines : List Line) : Writer := w.run (lines.flatMap Line.operations)

/-- The text of lines at a depth. -/
def render (depth : Nat) (lines : List Line) : String :=
  String.join (lines.map fun l => indentedLine (depth + l.depth) l.text)

theorem toList_render_cons (depth : Nat) (l : Line) (lines : List Line) :
    (render depth (l :: lines)).toList =
      (indentedLine (depth + l.depth) l.text).toList ++ (render depth lines).toList := by
  simp [render, String.toList_join]

theorem toList_render_append (depth : Nat) (lines more : List Line) :
    (render depth (lines ++ more)).toList =
      (render depth lines).toList ++ (render depth more).toList := by
  simp [render, String.toList_join]

theorem render_cons (depth : Nat) (l : Line) (lines : List Line) :
    render depth (l :: lines) = indentedLine (depth + l.depth) l.text ++ render depth lines := by
  simp [render]

theorem render_append (depth : Nat) (lines more : List Line) :
    render depth (lines ++ more) = render depth lines ++ render depth more := by
  simp [render, String.join_append]

theorem render_deeper (depth : Nat) (lines : List Line) :
    render depth (lines.map Line.deeper) = render (depth + 1) lines := by
  have hdepth (l : Line) : depth + (l.depth + 1) = depth + 1 + l.depth := by omega
  simp [render, Line.deeper, Function.comp_def, hdepth]

/-! ### Lines on a writer -/

namespace Writer

theorem run_append (w : Writer) (ops more : List Operation) :
    w.run (ops ++ more) = (w.run ops).run more :=
  List.foldl_append

theorem run_indents (w : Writer) (n : Nat) :
    w.run (List.replicate n .indent) = { w with depth := w.depth + n } := by
  induction n generalizing w with
  | zero => rfl
  | succ n ih =>
    show w.indent.run (List.replicate n .indent) = _
    rw [ih, depth_indent, output_indent, Nat.add_assoc, Nat.add_comm 1 n]

theorem run_dedents (w : Writer) (n : Nat) :
    w.run (List.replicate n .dedent) = { w with depth := w.depth - n } := by
  induction n generalizing w with
  | zero => rfl
  | succ n ih =>
    show w.dedent.run (List.replicate n .dedent) = _
    rw [ih, depth_dedent, output_dedent, Nat.sub_sub, Nat.add_comm 1 n]

/-- A line is written below the current depth, which is then the current one again. -/
theorem run_operations (w : Writer) (l : Line) :
    w.run l.operations =
      { w with output := w.output ++ indentedLine (w.depth + l.depth) l.text } := by
  rw [Line.operations, run_append, run_append, run_indents, run_dedents]
  show (⟨w.depth + l.depth - l.depth, _⟩ : Writer) = _
  rw [Nat.add_sub_cancel]
  rfl

/-- Writing lines adds their text and nothing else: what was written before stays, and so does
the depth. -/
theorem write_eq (w : Writer) (lines : List Line) :
    w.write lines = { w with output := w.output ++ render w.depth lines } := by
  induction lines generalizing w with
  | nil => simp [write, run, render]
  | cons l lines ih =>
    have hcons : w.write (l :: lines) = (w.run l.operations).write lines := by
      rw [write, List.flatMap_cons, run_append]
      rfl
    rw [hcons, ih, run_operations]
    simp [render, String.append_assoc]

end Writer

end ApiStubs
