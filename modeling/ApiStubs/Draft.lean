import ApiStubs.Report
import ApiStubs.Writer

/-!
# Drafts

A draft is a piece of code that is being written: lines, what was noticed, and a result, unless a
violation ended the work. What was written and noticed before a violation is kept.

* `Draft`, with its monad: one draft after another;
* `Draft.line`, `Draft.block`, `Draft.note`, `Draft.refuse`: the steps;
* `Draft.nested`: a draft one level deeper;
* `Draft.each`: a draft for each entry of a list.
-/

namespace ApiStubs

/-- Code that is being written. -/
structure Draft (α : Type) where
  lines : List Line
  diagnostics : List Diagnostic
  result : Except Violation α

namespace Draft

variable {α β : Type}

/-- A result with nothing written. -/
def done (a : α) : Draft α := ⟨[], [], .ok a⟩

/-- One draft, and after it another that may use its result. -/
def andThen (d : Draft α) (f : α → Draft β) : Draft β :=
  match d.result with
  | .error violation => ⟨d.lines, d.diagnostics, .error violation⟩
  | .ok a =>
    let e := f a
    ⟨d.lines ++ e.lines, d.diagnostics ++ e.diagnostics, e.result⟩

instance : Monad Draft where
  pure := done
  bind := andThen

/-- Writes a line. -/
def line (text : String) : Draft Unit := ⟨[⟨0, text⟩], [], .ok ()⟩

/-- Writes the lines of a text. -/
def block (text : String) : Draft Unit := ⟨(textLines text).map (⟨0, ·⟩), [], .ok ()⟩

/-- Takes note of something. -/
def note (diagnostic : Diagnostic) : Draft Unit := ⟨[], [diagnostic], .ok ()⟩

/-- Ends the work. -/
def refuse (violation : Violation) : Draft α := ⟨[], [], .error violation⟩

/-- A result that may be a violation. -/
def ofExcept (result : Except Violation α) : Draft α := ⟨[], [], result⟩

/-- The draft one level deeper. -/
def nested (d : Draft α) : Draft α := { d with lines := d.lines.map Line.deeper }

/-- One draft for each entry, in order. -/
def each (f : α → Draft Unit) : List α → Draft Unit
  | [] => done ()
  | a :: as => (f a).andThen fun _ => each f as

/-! ### What is written -/

@[simp] theorem lines_pure (a : α) : (pure a : Draft α).lines = [] := rfl

@[simp] theorem result_pure (a : α) : (pure a : Draft α).result = .ok a := rfl

theorem bind_of_ok {d : Draft α} {f : α → Draft β} {a : α} (h : d.result = .ok a) :
    (d >>= f) = ⟨d.lines ++ (f a).lines, d.diagnostics ++ (f a).diagnostics, (f a).result⟩ := by
  show andThen d f = _
  simp [andThen, h]

theorem bind_of_error {d : Draft α} {f : α → Draft β} {v : Violation} (h : d.result = .error v) :
    (d >>= f) = ⟨d.lines, d.diagnostics, .error v⟩ := by
  show andThen d f = _
  simp [andThen, h]

@[simp] theorem result_bind (d : Draft α) (f : α → Draft β) :
    (d >>= f).result = d.result.bind fun a => (f a).result := by
  cases h : d.result with
  | error v => rw [bind_of_error h]; rfl
  | ok a => rw [bind_of_ok h]; rfl

@[simp] theorem lines_line (text : String) : (line text).lines = [⟨0, text⟩] := rfl

@[simp] theorem result_line (text : String) : (line text).result = .ok () := rfl

@[simp] theorem lines_nested (d : Draft α) : d.nested.lines = d.lines.map Line.deeper := rfl

@[simp] theorem result_nested (d : Draft α) : d.nested.result = d.result := rfl

@[simp] theorem diagnostics_nested (d : Draft α) : d.nested.diagnostics = d.diagnostics := rfl

end Draft

end ApiStubs
