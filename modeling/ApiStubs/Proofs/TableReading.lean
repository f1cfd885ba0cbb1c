import ApiStubs.DocTable
import ApiStubs.Proofs.CodeLiteral
import ApiStubs.Proofs.InlinePieces
import ApiStubs.Proofs.Markup

/-!
# Reading the table of descriptions as code

The rows of the table are read by the grammar of string literals, whatever stands above them. They
come back as one pair of texts for each module exactly if no description holds a carriage return
without its line feed: such a return stays in the literal as it is, and no literal can hold it.

* `describedText`: the description of a module as running text with paired line breaks;
* `readTable?`: the pairs of literals between the lines above and below the rows;
* `readTable?_codeTable`: what is read of a table whose descriptions are given in pieces;
* `emit_read_back`: what is read of the table of modules.
-/

namespace ApiStubs.Fragment

open Text

/-- A text has no return without its line feed; other events have no returns at all. -/
def Event.returnsPaired : Event → Bool
  | .text content => Text.returnsPaired content.toList
  | _ => true

theorem returnsPaired_inline (e : Event) :
    Text.returnsPaired (e.inline .plain) = e.returnsPaired := by
  cases e with
  | start name selfClosing =>
    rw [Event.inline]
    split
    · rfl
    · rfl
  | stop name =>
    rw [Event.inline]
    split
    · rfl
    · rfl
  | text content => rfl

theorem any_isReturn_event (e : Event) : e.pieces.any Piece.isReturn = !e.returnsPaired := by
  rw [← pieces_inline, any_isReturn_pieces, returnsPaired_inline]

theorem any_isReturn_events (events : List Event) :
    (events.flatMap Event.pieces).any Piece.isReturn = !events.all Event.returnsPaired := by
  induction events with
  | nil => rfl
  | cons e events ih => simp [List.any_append, any_isReturn_event, ih]

/-- Without lone returns the pieces of events mean the plain running text. -/
theorem flatMap_value_events {events : List Event} (he : events.all Event.returnsPaired = true) :
    (events.flatMap Event.pieces).flatMap Piece.value =
      pairedBreaks (events.flatMap (Event.inline .plain)) := by
  induction events with
  | nil => rfl
  | cons e events ih =>
    obtain ⟨h, hs⟩ : e.returnsPaired = true ∧ events.all Event.returnsPaired = true := by
      simpa using he
    have hp : Text.returnsPaired (e.inline .plain) = true := by rw [returnsPaired_inline, h]
    have hv : e.pieces.flatMap Piece.value = pairedBreaks (e.inline .plain) := by
      rw [← pieces_inline, flatMap_value_pieces hp]
    rw [List.flatMap_cons, List.flatMap_append, hv, ih hs, List.flatMap_cons,
      pairedBreaks_append hp]

/-- The line breaks that are dropped at the end are no returns. -/
theorem any_isReturn_rdropWhile (ps : List Piece) :
    (ps.rdropWhile isBreak).any Piece.isReturn = ps.any Piece.isReturn := by
  induction ps using List.reverseRecOn with
  | nil => rfl
  | append_singleton ps p ih =>
    by_cases hp : p = .lineBreak
    · subst hp
      rw [List.rdropWhile_concat_pos _ _ _ rfl, ih]
      simp [Piece.isReturn]
    · rw [List.rdropWhile_concat_neg _ _ _ (by simpa [isBreak] using hp)]

end ApiStubs.Fragment

namespace ApiStubs.DocTable

open Doc Fragment Text

/-! ### Names and descriptions -/

theorem any_isReturn_identifier (raw : String) :
    (pieces (Name.identifier raw).toList).any Piece.isReturn = false := by
  rw [any_isReturn_pieces, returnsPaired_of_not_mem (Name.not_mem_identifier (by decide) raw)]
  rfl

theorem flatMap_value_identifier (raw : String) :
    (pieces (Name.identifier raw).toList).flatMap Piece.value = (Name.identifier raw).toList := by
  have hr : '\r' ∉ (Name.identifier raw).toList := Name.not_mem_identifier (by decide) raw
  have hn : '\n' ∉ (Name.identifier raw).toList := Name.not_mem_identifier (by decide) raw
  rw [flatMap_value_pieces (returnsPaired_of_not_mem hr), pairedBreaks_of_not_mem hr hn]

/-- No text of the description of a module holds a carriage return without its line feed. A
description that cannot be read has no texts. -/
def returnsPaired (m : Module) : Bool :=
  match (read (m.desc.getD "")).toExcept with
  | .ok events => events.all Event.returnsPaired
  | .error _ => true

/-- The description of a module as plain running text, with every line break as carriage return and
line feed and none at the end. It is empty if the description cannot be read. -/
def describedText (m : Module) : String :=
  match (read (m.desc.getD "")).toExcept with
  | .ok events =>
    String.ofList (trimEndOf ['\r', '\n'] (pairedBreaks (events.flatMap (Event.inline .plain))))
  | .error _ => ""

/-- The pieces in which the description of a module is written in code. -/
def docPieces (m : Module) : List Piece :=
  match (read (m.desc.getD "")).toExcept with
  | .ok events => (events.flatMap Event.pieces).rdropWhile isBreak
  | .error _ => []

theorem entry_escaped (m : Module) :
    (entry .escaped m).1 =
      ⟨Name.identifier m.name, String.ofList ((docPieces m).flatMap Piece.written)⟩ := by
  rw [entry, renderInline, docPieces]
  cases (read (m.desc.getD "")).toExcept with
  | ok events => simp [Except.map, inlineText_escaped]
  | error fault => rfl

theorem any_isReturn_docPieces (m : Module) :
    (docPieces m).any Piece.isReturn = !returnsPaired m := by
  rw [docPieces, returnsPaired]
  cases (read (m.desc.getD "")).toExcept with
  | ok events =>
    show ((events.flatMap Event.pieces).rdropWhile isBreak).any Piece.isReturn = _
    rw [any_isReturn_rdropWhile, any_isReturn_events]
  | error fault => rfl

theorem flatMap_value_docPieces {m : Module} (hm : returnsPaired m = true) :
    (docPieces m).flatMap Piece.value = (describedText m).toList := by
  rw [returnsPaired] at hm
  rw [docPieces, describedText]
  cases h : (read (m.desc.getD "")).toExcept with
  | ok events =>
    rw [h] at hm
    have hne : Piece.value .lineBreak ≠ [] := by simp [Piece.value]
    show ((events.flatMap Event.pieces).rdropWhile isBreak).flatMap Piece.value = _
    rw [← trimEndOf_flatMap hne eq_lineBreak_of_suffix_value, flatMap_value_events hm]
    simp [Piece.value]
  | error fault => rfl

/-! ### Descriptions that are written markup -/

theorem toExcept_read_written {f : Forest} (hs : f.separated = true) :
    (Fragment.read (String.ofList f.written)).toExcept =
      .ok (.start rootElement false :: (f.events ++ [.stop rootElement])) := by
  rw [Fragment.read, toList_wrap_written, readFrom_rootElement hs]
  rfl

theorem returnsPaired_of_written {m : Module} {f : Forest} (hs : f.separated = true)
    (hm : m.desc = some (String.ofList f.written)) :
    returnsPaired m = f.events.all Event.returnsPaired := by
  rw [returnsPaired, hm, Option.getD_some, toExcept_read_written hs]
  simp [Event.returnsPaired]

/-- The root element adds nothing to the text of a description. -/
theorem describedText_of_written {m : Module} {f : Forest} (hs : f.separated = true)
    (hm : m.desc = some (String.ofList f.written)) :
    describedText m = String.ofList
      (trimEndOf ['\r', '\n'] (pairedBreaks (f.events.flatMap (Event.inline .plain)))) := by
  rw [describedText, hm, Option.getD_some, toExcept_read_written hs]
  simp [Event.inline, rootElement, blockElements]

/-! ### The grammar of the rows -/

/-- The pairs of literals that code starts with, each in the marks of a row, and the code behind
them. -/
def readRows : List CodeToken → List (String × String) × List CodeToken
  | .mark '{' :: .literal name :: .mark ',' :: .literal doc :: .mark '}' :: .mark ',' :: rest =>
    ((String.ofList name, String.ofList doc) :: (readRows rest).1, (readRows rest).2)
  | rest => ([], rest)

/-- The marks of the lines below the rows. -/
def closingMarks : List CodeToken := [.mark '}', .mark ';', .mark '}', .mark '}']

/-- The pairs of literals between the lines above and below the rows of a table. -/
def readTable? (o : Options) (table : String) : Option (List (String × String)) := do
  let code ← stripPrefix? (render 0 (openingLines o)).toList table.toList
  let tokens ← codeTokens code
  let rows := readRows tokens
  if rows.2 = closingMarks then some rows.1 else none

/-- The row of a module as code is read. -/
def rowTokens (m : Module) : List CodeToken :=
  [.mark '{', .literal (Name.identifier m.name).toList, .mark ',',
   .literal (describedText m).toList, .mark '}', .mark ',']

theorem readRows_rowTokens (modules : List Module) :
    readRows (modules.flatMap rowTokens ++ closingMarks) =
      (modules.map fun m => (Name.identifier m.name, describedText m), closingMarks) := by
  induction modules with
  | nil => rfl
  | cons m modules ih => simp [rowTokens, readRows, ih]

/-! ### The rows as they are written -/

/-- The line of a row as the text of its two literals between fixed marks. -/
theorem toList_indentedLine_rowLine (e : Entry) :
    (indentedLine 3 (rowLine e)).toList =
      List.replicate 12 ' ' ++ '{' :: '"' :: (escapeLiteral e.name.toList ++ '"' :: ',' :: ' ' ::
        '"' :: (e.doc.toList ++ ['"', ' ', '}', ',', '\n'])) := by
  have hne : rowLine e ≠ "" := by
    intro h
    have := congrArg String.toList h
    simp [rowLine] at this
  rw [indentedLine, if_neg hne]
  simp [rowLine, indentWidth]

/-- A row is read as its marks and its two literals, unless its description has a raw return. -/
theorem codeTokensFrom_row (m : Module) (s : List Char) :
    codeTokensFrom none ((indentedLine 3 (rowLine (entry .escaped m).1)).toList ++ s) =
      if returnsPaired m then (codeTokensFrom none s).map (rowTokens m ++ ·) else none := by
  rw [toList_indentedLine_rowLine, entry_escaped, List.append_assoc, codeTokensFrom_spaces]
  simp only [List.cons_append, List.append_assoc, String.toList_ofList, escapeLiteral_eq_pieces]
  -- the first literal is a name, which is always read
  rw [codeTokensFrom_mark (by decide) (by decide), codeTokensFrom_quote, codeTokensFrom_pieces,
    any_isReturn_identifier, flatMap_value_identifier,
    codeTokensFrom_mark (by decide) (by decide), codeTokensFrom_blank (by decide) (by decide),
    codeTokensFrom_quote, codeTokensFrom_pieces, any_isReturn_docPieces]
  cases hm : returnsPaired m with
  | false => simp
  | true =>
    rw [flatMap_value_docPieces hm, List.nil_append,
      codeTokensFrom_blank (by decide) (by decide), codeTokensFrom_mark (by decide) (by decide),
      codeTokensFrom_mark (by decide) (by decide), codeTokensFrom_blank (by decide) (by decide)]
    cases codeTokensFrom none s with
    | none => simp
    | some tokens => simp [rowTokens]

/-- The lines from the rows on are read if no description has a raw return. -/
theorem codeTokens_rows (modules : List Module) :
    codeTokens (render 0 ((entries .escaped modules).map (fun e => ⟨3, rowLine e⟩) ++
        closingLines)).toList =
      if modules.all returnsPaired then some (modules.flatMap rowTokens ++ closingMarks)
      else none := by
  rw [codeTokens, entries]
  induction modules with
  | nil => decide
  | cons m modules ih =>
    rw [List.map_cons, List.map_cons, List.cons_append, toList_render_cons, Nat.zero_add,
      codeTokensFrom_row, ih, List.all_cons, List.flatMap_cons]
    cases returnsPaired m with
    | false => rfl
    | true =>
      cases modules.all returnsPaired with
      | false => rfl
      | true => simp

/-- A table of code is read as one pair for each module, unless a description has a raw return. -/
theorem readTable?_codeTable {o : Options} (hb : o.banner = none) (modules : List Module) :
    readTable? o (codeTable o (entries .escaped modules)) =
      if modules.all returnsPaired then
        some (modules.map fun m => (Name.identifier m.name, describedText m))
      else none := by
  have htext : (codeTable o (entries .escaped modules)).toList =
      (render 0 (openingLines o)).toList ++
        (render 0 ((entries .escaped modules).map (fun e => ⟨3, rowLine e⟩) ++
          closingLines)).toList := by
    simp [codeTable, tableLines, hb, onOwnLines, toList_render_append]
  rw [readTable?, stripPrefix?_eq_some_iff.2 htext]
  simp only [Option.bind_eq_bind, Option.bind_some, codeTokens_rows]
  split
  · rw [Option.bind_some, readRows_rowTokens]
    exact if_pos rfl
  · rfl

theorem emit_csharp {o : Options} (hf : o.format = .csharp) (modules : List Module) :
    (emit o modules).1 = codeTable o (entries .escaped modules) := by
  simp only [emit, hf, Format.style]

/-- The table as code is read back as one pair of literals for each module, in their order: its
name, and its description as running text with paired line breaks. The one condition is that no
description holds a carriage return without its line feed; else the code cannot be read. -/
theorem emit_read_back {o : Options} (hf : o.format = .csharp) (hb : o.banner = none)
    (modules : List Module) :
    readTable? o (emit o modules).1 =
      if modules.all returnsPaired then
        some (modules.map fun m => (Name.identifier m.name, describedText m))
      else none := by
  rw [emit_csharp hf, readTable?_codeTable hb]

/-- A paragraph with marks that are escaped and a line break of two characters. -/
def markedParagraph : Forest :=
  .element ⟨'p', [], by decide, by simp⟩ [] (by decide)
    (.leaf (.text ['"', 'a', '\\', '"', '\r', '\n', 'b']) .nil) .nil

def markedModule : Module := { name := "net.Server", desc := some "<p>\"a\\\"\r\nb</p>" }

theorem emit_read_back_markedModule :
    readTable? {} (emit {} [markedModule]).1 = some [("net", "\"a\\\"\r\nb")] := by
  have hm : markedModule.desc = some (String.ofList markedParagraph.written) := by decide
  have hname : Name.identifier markedModule.name = "net" := by decide
  have hpaired : returnsPaired markedModule = true := by
    rw [returnsPaired_of_written (by decide) hm]
    decide
  have hbreaks : pairedBreaks (markedParagraph.events.flatMap (Event.inline .plain)) =
      ['"', 'a', '\\', '"', '\r', '\n', 'b'] ++ ['\r', '\n'] := by decide
  have htext : describedText markedModule = "\"a\\\"\r\nb" := by
    rw [describedText_of_written (by decide) hm, hbreaks, trimEndOf_append_self (by decide),
      trimEndOf_of_not_suffix (by decide)]
  rw [emit_read_back rfl rfl]
  simp [hpaired, htext, hname]

/-- A text with a carriage return of its own. -/
def loneReturn : Forest := .leaf (.text ['a', '\r', 'b']) .nil

def returnModule : Module := { name := "fs", desc := some "a\rb" }

/-- The return stands in the literal as it is, so that the row cannot be read. -/
theorem read_returnModule :
    describedText returnModule = "a\r\nb" ∧ readTable? {} (emit {} [returnModule]).1 = none := by
  have hm : returnModule.desc = some (String.ofList loneReturn.written) := by decide
  constructor
  · have hbreaks : pairedBreaks (loneReturn.events.flatMap (Event.inline .plain)) =
        ['a', '\r', '\n', 'b'] := by decide
    rw [describedText_of_written (by decide) hm, hbreaks, trimEndOf_of_not_suffix (by decide)]
  · have hpaired : returnsPaired returnModule = false := by
      rw [returnsPaired_of_written (by decide) hm]
      decide
    rw [emit_csharp rfl, readTable?_codeTable rfl]
    simp [hpaired]

end ApiStubs.DocTable
