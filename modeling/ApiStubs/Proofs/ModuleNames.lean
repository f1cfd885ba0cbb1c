import ApiStubs.Proofs.Composition
import ApiStubs.Proofs.EscapedReading
import ApiStubs.Proofs.JsonReading
import ApiStubs.Text.Scan

/-!
# The names of modules in the artifacts

The artifacts name every module four times: as a key of the cache, as the label of a case, as the
function that the case makes an object of, and in a row of the table. Here each list of names is
read off what is written, by a reader that knows nothing of the modules. All are the same.

* `literal`, `cacheKey`, `caseNames`, `rowName`: readers of single entries;
* `cacheKeys?`, `caseClauses?`: the names in the lines of the stubs;
* `codeNames`, `jsonNames?`, `tableNames?`: the names in the text of the table;
* `escapeLiteral_identifier`, `renderText_identifier`: no escape changes a name;
* `generateWith_names`: all lists of names are that of the modules.
-/

namespace ApiStubs

open Doc DocTable Inference Stub Text

/-! ### Readers -/

/-- A literal, whose opening quote has been read. -/
def literal : Scan String := fun s =>
  (readLiteral? s).map fun (value, rest) => (String.ofList value, rest)

/-- The key of an entry of the cache. -/
def cacheKey : Scan String := do
  Scan.exactly "\""
  let key ← literal
  Scan.exactly ": null,"
  Scan.ended
  return key

/-- The label of a case, and the function of its object. -/
def caseNames : Scan (String × String) := do
  Scan.exactly "case \""
  let label ← literal
  Scan.exactly ": return new function "
  let name ← Scan.run (· != '(')
  Scan.exactly "() \x7b"
  Scan.ended
  return (label, String.ofList name)

/-- The name in a row of the table as code. -/
def rowName : Scan String := do
  Scan.exactly "            \x7b\""
  let name ← literal
  Scan.exactly ", \""
  let _ ← literal
  Scan.exactly " \x7d,\n"
  return name

namespace Stub

/-! ### The lines of the stubs -/

/-- The first line of the loader. -/
def loaderFirst : Line := ⟨0, loaderName ++ " = function () \x7b"⟩

/-- The lines from the first one of the loader on. Lines are looked at as they are written, with
their depth: in the text a documented name with a line feed could look like any of them. -/
def loaderPart (lines : List Line) : List Line := lines.dropWhile (· != loaderFirst)

/-- The lines behind an opening one, up to a closing one. -/
def between (opening closing : Line) (lines : List Line) : List Line :=
  ((lines.dropWhile (· != opening)).drop 1).takeWhile (· != closing)

/-- The keys of the cache of the loader. -/
def cacheKeys? (lines : List Line) : Option (List String) :=
  (between ⟨1, "var cache = \x7b"⟩ ⟨1, "\x7d"⟩ (loaderPart lines)).mapM fun l =>
    cacheKey.run' l.text.toList

/-- The line begins a case. What is deeper is inside one, and a brace ends it. -/
def beginsCase (l : Line) : Bool := l.depth == 3 && l.text != "\x7d;"

/-- The labels and functions of the cases of the loader. -/
def caseClauses? (lines : List Line) : Option (List (String × String)) :=
  ((between ⟨2, "switch(module_name) \x7b"⟩ ⟨2, "\x7d"⟩ (loaderPart lines)).filter
    beginsCase).mapM fun l => caseNames.run' l.text.toList

end Stub

namespace DocTable

/-! ### The text of the table -/

/-- The names in the rows of a table as code, between the lines above and below the rows. -/
def codeNames (o : Options) : Scan (List String) := do
  Scan.exactly (onOwnLines (o.banner.getD "") ++ render 0 (openingLines o))
  let names ← Scan.many rowName
  Scan.exactly (render 0 closingLines)
  Scan.ended
  return names

/-- The name in an object of exactly two members, a name and a description. -/
def objectName? : Json → Option String
  | .object [(some "name", .text (some name)), (some "doc", .text (some _))] => some name
  | _ => none

/-- The names in a table as JSON. -/
def jsonNames? (table : String) : Option (List String) :=
  match Json.read table with
  | ⟨.array items, true⟩ => items.mapM objectName?
  | _ => none

/-- The names in a table. -/
def tableNames? (o : Options) (table : String) : Option (List String) :=
  match o.format with
  | .csharp => (codeNames o).run' table.toList
  | .json => jsonNames? table

end DocTable

/-! ### Lists -/

variable {α β γ : Type}

theorem forall_bne [BEq α] [LawfulBEq α] {a : α} {as : List α} (h : a ∉ as) :
    ∀ b ∈ as, (b != a) = true := by
  intro b hb
  refine bne_iff_ne.2 ?_
  rintro rfl
  exact h hb

theorem mapM_of_some {f : α → β} {g : β → Option γ} {h : α → γ} {as : List α}
    (hg : ∀ a ∈ as, g (f a) = some (h a)) : (as.map f).mapM g = some (as.map h) := by
  induction as with
  | nil => rfl
  | cons a as ih =>
    rw [List.map_cons, List.mapM_cons, hg a (by simp), ih fun b hb => hg b (by simp [hb])]
    rfl

/-- A run ends before the first character without the property. -/
theorem run_append {p : Char → Bool} {s : List Char} (hs : ∀ c ∈ s, p c = true) {c : Char}
    (hc : p c = false) (rest : List Char) :
    Scan.run p (s ++ c :: rest) = some (s, c :: rest) := by
  rw [Scan.run, List.takeWhile_append_of_pos hs, List.dropWhile_append_of_pos hs]
  simp [hc]

/-- A text of which each character is written as itself is written as it is. -/
theorem flatMap_eq_self {f : Char → List Char} {s : List Char} (h : ∀ c ∈ s, f c = [c]) :
    s.flatMap f = s := by
  rw [List.flatMap_congr h]
  exact List.flatMap_singleton' s

/-! ### Names and escapes -/

theorem ne_of_isNameChar {c d : Char} (hc : Name.isNameChar c = true)
    (hd : Name.isNameChar d = false) : c ≠ d := by
  rintro rfl
  rw [hc] at hd
  cases hd

theorem written_ofChar_of_isNameChar {c : Char} (h : Name.isNameChar c = true) :
    (Piece.ofChar c).written = [c] := by
  rw [Piece.ofChar, dif_neg (ne_of_isNameChar h (by decide)),
    dif_neg (ne_of_isNameChar h (by decide)), dif_neg (ne_of_isNameChar h (by decide))]
  rfl

/-- A name stands in a literal as it is. -/
theorem escapeLiteral_identifier (raw : String) :
    escapeLiteral (Name.identifier raw).toList = (Name.identifier raw).toList := by
  have hr : '\r' ∉ (Name.identifier raw).toList := Name.not_mem_identifier (by decide) raw
  have hall := List.all_eq_true.1 (Name.all_isNameChar_identifier raw)
  rw [escapeLiteral_eq_pieces, pieces_eq_map hr, List.flatMap_map]
  exact flatMap_eq_self fun c hc => written_ofChar_of_isNameChar (hall c hc)

theorem escapeChar_of_isNameChar {c : Char} (h : Name.isNameChar c = true) :
    Json.escapeChar c = [c] := by
  have hcontrol : ∀ n < 0x20, Name.isNameChar (Char.ofNat n) = false := by decide
  have hlow : ¬c.toNat < 0x20 := by
    intro hlt
    have hfalse : Name.isNameChar (Char.ofNat c.toNat) = false := hcontrol c.toNat hlt
    rw [Char.ofNat_toNat, h] at hfalse
    cases hfalse
  have hne {d : Char} (hd : Name.isNameChar d = false) : c ≠ d := ne_of_isNameChar h hd
  unfold Json.escapeChar
  rw [if_neg (hne (by decide)), if_neg (hne (by decide)), if_neg (hne (by decide)),
    if_neg (hne (by decide)), if_neg (hne (by decide)), if_neg (hne (by decide)),
    if_neg (hne (by decide)), if_neg hlow]

/-- A name stands in a string of JSON as it is. -/
theorem renderText_identifier (raw : String) :
    Json.renderText (Name.identifier raw) = '"' :: (Name.identifier raw).toList ++ ['"'] := by
  have hall := List.all_eq_true.1 (Name.all_isNameChar_identifier raw)
  rw [Json.renderText, flatMap_eq_self fun c hc => escapeChar_of_isNameChar (hall c hc)]

theorem literal_pieces (ps : List Piece) (rest : List Char) :
    literal (ps.flatMap Piece.written ++ '"' :: rest) =
      some (String.ofList (ps.map Piece.shown), rest) := by
  rw [literal, readLiteral?_pieces]
  rfl

theorem literal_identifier (raw : String) (rest : List Char) :
    literal (escapeLiteral (Name.identifier raw).toList ++ '"' :: rest) =
      some (Name.identifier raw, rest) := by
  have hr : '\r' ∉ (Name.identifier raw).toList := Name.not_mem_identifier (by decide) raw
  have hshown : Piece.shown ∘ Piece.ofChar = id := funext shown_ofChar
  rw [escapeLiteral_eq_pieces, literal_pieces, pieces_eq_map hr, List.map_map, hshown, List.map_id,
    String.ofList_toList]

/-! ### Names in the stubs -/

namespace Stub

theorem cacheKey_cacheLine (m : Module) :
    cacheKey.run' (cacheLine m).text.toList = some (Name.identifier m.name) := by
  have htext : (cacheLine m).text.toList =
      "\"".toList ++ (escapeLiteral (Name.identifier m.name).toList ++
        '"' :: (": null,".toList ++ [])) := by
    simp [cacheLine, moduleLabel]
  have hread : cacheKey (cacheLine m).text.toList = some (Name.identifier m.name, []) := by
    rw [htext, cacheKey, Scan.bind_of_some (Scan.exactly_eq_some_iff.2 rfl),
      Scan.bind_of_some (literal_identifier _ _),
      Scan.bind_of_some (Scan.exactly_eq_some_iff.2 rfl)]
    rfl
  exact Scan.run'_of_some hread

/-- The first line of a case. -/
def caseOpening (m : Module) : String :=
  "case \"" ++ moduleLabel m ++ "\": return new " ++ "function " ++ Name.identifier m.name ++
    "() \x7b"

theorem run_identifier (raw : String) (rest : List Char) :
    Scan.run (· != '(') ((Name.identifier raw).toList ++ '(' :: rest) =
      some ((Name.identifier raw).toList, '(' :: rest) :=
  run_append (forall_bne (Name.not_mem_identifier (c := '(') (by decide) raw)) rfl rest

theorem caseNames_caseOpening (m : Module) :
    caseNames.run' (caseOpening m).toList =
      some (Name.identifier m.name, Name.identifier m.name) := by
  have htext : (caseOpening m).toList =
      "case \"".toList ++ (escapeLiteral (Name.identifier m.name).toList ++
        '"' :: (": return new function ".toList ++ ((Name.identifier m.name).toList ++
          '(' :: [')', ' ', '\x7b']))) := by
    simp [caseOpening, moduleLabel]
  have hend : Scan.exactly "() \x7b" ['(', ')', ' ', '\x7b'] = some ((), []) := rfl
  have hread : caseNames (caseOpening m).toList =
      some ((Name.identifier m.name, Name.identifier m.name), []) := by
    rw [htext, caseNames, Scan.bind_of_some (Scan.exactly_eq_some_iff.2 rfl),
      Scan.bind_of_some (literal_identifier _ _),
      Scan.bind_of_some (Scan.exactly_eq_some_iff.2 rfl),
      Scan.bind_of_some (run_identifier _ _), Scan.bind_of_some hend, String.ofList_toList]
    rfl
  exact Scan.run'_of_some hread

theorem dropWhile_bne {a : Line} {before : List Line} (h : a ∉ before) (after : List Line) :
    (before ++ a :: after).dropWhile (· != a) = a :: after := by
  rw [List.dropWhile_append_of_pos (forall_bne h), List.dropWhile_cons_of_neg (by simp)]

theorem between_append {opening closing : Line} {before inner : List Line} (hb : opening ∉ before)
    (hi : closing ∉ inner) (after : List Line) :
    between opening closing (before ++ opening :: (inner ++ closing :: after)) = inner := by
  rw [between, dropWhile_bne hb, List.drop_one, List.tail_cons,
    List.takeWhile_append_of_pos (forall_bne hi), List.takeWhile_cons_of_neg (by simp),
    List.append_nil]

/-- Nothing above the loader is its first line. -/
theorem loaderFirst_notMem_globalLines (registry : Registry) (g : Module) :
    loaderFirst ∉ globalLines registry g := by
  intro h
  unfold globalLines scopeLines frameLines at h
  rcases List.mem_cons.1 h with h | h
  · have hhead : loaderFirst.text.toList.head? = some 'v' := by
      rw [h]
      repeat apply head?_append
      rfl
    exact absurd hhead (by decide)
  rcases List.mem_append.1 h with h | h
  · obtain ⟨l, -, hl⟩ := List.mem_map.1 h
    exact absurd (congrArg Line.depth hl) (Nat.succ_ne_zero _)
  · exact absurd (List.mem_singleton.1 h) (by decide)

theorem loaderPart_stubsLines (registry : Registry) (tree : Tree) :
    loaderPart (stubsLines registry tree) = loaderLines registry tree.modules := by
  have hglobals : loaderFirst ∉ tree.declaredGlobals.flatMap (globalLines registry) := by
    intro h
    obtain ⟨g, -, hg⟩ := List.mem_flatMap.1 h
    exact loaderFirst_notMem_globalLines registry g hg
  have habove : loaderFirst ∉
      ⟨0, prologue⟩ :: tree.declaredGlobals.flatMap (globalLines registry) := by
    intro h
    rcases List.mem_cons.1 h with h | h
    · exact absurd h (by decide)
    · exact hglobals h
  exact dropWhile_bne habove _

theorem cacheKeys?_stubsLines (registry : Registry) (tree : Tree) :
    cacheKeys? (stubsLines registry tree) =
      some (tree.modules.map fun m => Name.identifier m.name) := by
  have hinner : (⟨1, "\x7d"⟩ : Line) ∉ tree.modules.map cacheLine := by
    intro h
    obtain ⟨m, -, hm⟩ := List.mem_map.1 h
    exact absurd (congrArg Line.depth hm) (show ¬(2 : Nat) = 1 by decide)
  have hopening : (⟨1, "var cache = \x7b"⟩ : Line) ∉ loaderOpening.dropLast := by decide
  have hcache : between ⟨1, "var cache = \x7b"⟩ ⟨1, "\x7d"⟩ (loaderLines registry tree.modules) =
      tree.modules.map cacheLine := by
    rw [← between_append hopening hinner (loaderMiddle.tail ++
      inSwitch (tree.modules.flatMap (caseLines registry)) ++ loaderClosing), loaderLines_eq]
    simp [loaderOpening, loaderMiddle]
  rw [cacheKeys?, loaderPart_stubsLines, hcache]
  exact mapM_of_some fun m _ => cacheKey_cacheLine m

theorem exists_of_mem_inSwitch {lines : List Line} {l : Line} (h : l ∈ inSwitch lines) :
    ∃ k ∈ lines, l.depth = k.depth + 3 := by
  simp only [inSwitch, List.map_map, List.mem_map] at h
  obtain ⟨k, hk, rfl⟩ := h
  exact ⟨k, hk, rfl⟩

/-- The first line of a case begins it, and no other line of it does. -/
theorem filter_caseLines (registry : Registry) (m : Module) :
    (inSwitch (caseLines registry m)).filter beginsCase = [⟨3, caseOpening m⟩] := by
  have hopening : beginsCase ⟨3, caseOpening m⟩ = true := by
    have hhead : (caseOpening m).toList.head? = some 'c' := by
      repeat apply head?_append
      rfl
    have hne : caseOpening m ≠ "\x7d;" := by
      intro h
      rw [h] at hhead
      exact absurd hhead (by decide)
    simpa [beginsCase] using hne
  -- the lines of the body are in the braces of the case
  have hbody : (inSwitch ((scopeBody registry .module (handWritten m.name) m).map
      Line.deeper)).filter beginsCase = [] := by
    refine List.filter_eq_nil_iff.2 fun l hl => ?_
    obtain ⟨k, hk, hdepth⟩ := exists_of_mem_inSwitch hl
    obtain ⟨j, -, rfl⟩ := List.mem_map.1 hk
    have hdeep : l.depth ≠ 3 := by
      rw [hdepth]
      show j.depth + 1 + 3 ≠ 3
      omega
    simp [beginsCase, hdeep]
  have hcase : caseLines registry m = ⟨0, caseOpening m⟩ ::
      ((scopeBody registry .module (handWritten m.name) m).map Line.deeper ++ [⟨0, "\x7d;"⟩]) := rfl
  have hlines : inSwitch (caseLines registry m) = ⟨3, caseOpening m⟩ ::
      (inSwitch ((scopeBody registry .module (handWritten m.name) m).map Line.deeper) ++
        [⟨3, "\x7d;"⟩]) := by
    simp only [hcase, inSwitch, List.map_cons, List.map_append]
    rfl
  rw [hlines, List.filter_cons_of_pos hopening, List.filter_append, hbody]
  rfl

theorem caseClauses?_stubsLines (registry : Registry) (tree : Tree) :
    caseClauses? (stubsLines registry tree) =
      some (tree.modules.map fun m => (Name.identifier m.name, Name.identifier m.name)) := by
  have hopening : (⟨2, "switch(module_name) \x7b"⟩ : Line) ∉
      loaderOpening ++ tree.modules.map cacheLine ++ loaderMiddle.dropLast := by
    intro h
    rcases List.mem_append.1 h with h | h
    · rcases List.mem_append.1 h with h | h
      · exact absurd h (by decide)
      · obtain ⟨m, -, hm⟩ := List.mem_map.1 h
        have hhead : (cacheLine m).text.toList.head? = some '"' := by
          repeat apply head?_append
          rfl
        rw [hm] at hhead
        exact absurd hhead (by decide)
    · exact absurd h (by decide)
  have hinner : (⟨2, "\x7d"⟩ : Line) ∉ inSwitch (tree.modules.flatMap (caseLines registry)) := by
    intro h
    obtain ⟨k, -, hdepth⟩ := exists_of_mem_inSwitch h
    have hdepth : 2 = k.depth + 3 := hdepth
    omega
  have hcases : between ⟨2, "switch(module_name) \x7b"⟩ ⟨2, "\x7d"⟩
      (loaderLines registry tree.modules) =
        inSwitch (tree.modules.flatMap (caseLines registry)) := by
    rw [← between_append hopening hinner loaderClosing.tail, loaderLines_eq]
    simp [loaderMiddle, loaderClosing, inSwitch]
  have hfilter : (inSwitch (tree.modules.flatMap (caseLines registry))).filter beginsCase =
      tree.modules.map fun m => ⟨3, caseOpening m⟩ := by
    simp only [inSwitch, List.map_flatMap, List.filter_flatMap]
    rw [List.map_eq_flatMap]
    exact List.flatMap_congr fun m _ => filter_caseLines registry m
  rw [caseClauses?, loaderPart_stubsLines, hcases, hfilter]
  exact mapM_of_some fun m _ => caseNames_caseOpening m

end Stub

namespace DocTable

/-! ### Names in the table -/

/-- The text of the row of a module in code. -/
def rowText (m : Module) : List Char := (indentedLine 3 (rowLine (entry .escaped m).1)).toList

theorem rowName_rowText (m : Module) (rest : List Char) :
    rowName (rowText m ++ rest) = some (Name.identifier m.name, rest) := by
  have htext : rowText m ++ rest =
      "            \x7b\"".toList ++ (escapeLiteral (Name.identifier m.name).toList ++
        '"' :: (", \"".toList ++ ((docPieces m).flatMap Piece.written ++
          '"' :: (" \x7d,\n".toList ++ rest)))) := by
    rw [rowText, toList_indentedLine_rowLine, entry_escaped]
    simp
  rw [htext, rowName, Scan.bind_of_some (Scan.exactly_eq_some_iff.2 rfl),
    Scan.bind_of_some (literal_identifier _ _), Scan.bind_of_some (Scan.exactly_eq_some_iff.2 rfl),
    Scan.bind_of_some (literal_pieces _ _), Scan.bind_of_some (Scan.exactly_eq_some_iff.2 rfl)]
  rfl

theorem rowText_ne_nil (m : Module) : rowText m ≠ [] := by
  rw [rowText, toList_indentedLine_rowLine]
  simp

theorem toList_codeTable (o : Options) (modules : List Module) :
    (codeTable o (entries .escaped modules)).toList =
      (onOwnLines (o.banner.getD "") ++ render 0 (openingLines o)).toList ++
        (modules.flatMap rowText ++ (render 0 closingLines).toList) := by
  have hrows : (render 0 ((entries .escaped modules).map fun e => ⟨3, rowLine e⟩)).toList =
      modules.flatMap rowText := by
    rw [render, String.toList_join, entries, List.map_map, List.map_map, List.flatMap_map]
    rfl
  rw [codeTable, tableLines, String.toList_append, toList_render_append, toList_render_append,
    hrows, String.toList_append]
  simp only [List.append_assoc]

theorem codeNames_codeTable (o : Options) (modules : List Module) :
    (codeNames o).run' (codeTable o (entries .escaped modules)).toList =
      some (modules.map fun m => Name.identifier m.name) := by
  have hrows : Scan.many rowName (modules.flatMap rowText ++ (render 0 closingLines).toList) =
      some (modules.map fun m => Name.identifier m.name, (render 0 closingLines).toList) :=
    Scan.many_flatMap (fun m _ => rowName_rowText m) (fun m _ => rowText_ne_nil m) rfl
  have hclosing : Scan.exactly (render 0 closingLines) (render 0 closingLines).toList =
      some ((), []) := Scan.exactly_eq_some_iff.2 (List.append_nil _).symm
  have hread : codeNames o (codeTable o (entries .escaped modules)).toList =
      some (modules.map fun m => Name.identifier m.name, []) := by
    rw [toList_codeTable, codeNames, Scan.bind_of_some (Scan.exactly_eq_some_iff.2 rfl),
      Scan.bind_of_some hrows, Scan.bind_of_some hclosing]
    rfl
  exact Scan.run'_of_some hread

theorem textual_rows (rows : List Entry) : (Json.array (rows.map Entry.toJson)).textual = true := by
  show Json.allTextual (rows.map Entry.toJson) = true
  induction rows with
  | nil => rfl
  | cons e rows ih => exact Bool.and_eq_true_iff.2 ⟨rfl, ih⟩

theorem jsonNames?_jsonTable (rows : List Entry) :
    jsonNames? (jsonTable rows) = some (rows.map Entry.name) := by
  rw [jsonNames?, jsonTable, Json.read_toIndentedText (textual_rows rows)]
  exact mapM_of_some fun e _ => rfl

theorem tableNames?_emit (o : Options) (modules : List Module) :
    tableNames? o (emit o modules).1 = some (modules.map fun m => Name.identifier m.name) := by
  have hname (style : Fragment.InlineStyle) (m : Module) :
      (entry style m).1.name = Name.identifier m.name := by
    unfold entry
    cases Fragment.renderInline (m.desc.getD "") style <;> rfl
  cases hf : o.format with
  | csharp =>
    rw [tableNames?, hf, emit_csharp hf]
    exact codeNames_codeTable o modules
  | json =>
    rw [tableNames?, emit, hf]
    show jsonNames? (jsonTable (entries Format.json.style modules)) = _
    rw [jsonNames?_jsonTable, entries, List.map_map]
    exact congrArg some (List.map_congr_left fun m _ => hname _ m)

end DocTable

/-! ### All lists of names -/

/-- The names of the modules in the order of the documentation, with duplicates kept. -/
def Doc.Tree.moduleNames (tree : Tree) : List String :=
  tree.modules.map fun m => Name.identifier m.name

/-- The keys of the cache, the labels of the cases, the functions of the cases and the rows of the
table in either format are named alike: after the modules, in their order and with duplicates kept.
No name is empty, and no escape changes one. -/
theorem generateWith_names {registry : Registry} {options : Options} {tree : Tree}
    {artifacts : Artifacts} (h : generateWith registry options tree = .ok artifacts) :
    artifacts.stubs = stubsText options.header (stubsDraft registry tree).lines ∧
    cacheKeys? (stubsDraft registry tree).lines = some tree.moduleNames ∧
    caseClauses? (stubsDraft registry tree).lines =
      some (tree.moduleNames.map fun name => (name, name)) ∧
    tableNames? options.table artifacts.table = some tree.moduleNames ∧
    ∀ name ∈ tree.moduleNames, name ≠ "" ∧ escapeLiteral name.toList = name.toList ∧
      Json.renderText name = '"' :: name.toList ++ ['"'] := by
  have hnone : tree.violations = [] :=
    (stopsAt_generateWith registry options tree).exists_ok_iff.1 ⟨artifacts, h⟩
  obtain ⟨-, hm⟩ := tree.violations_eq_nil_iff.1 hnone
  have hlines : (stubsDraft registry tree).lines = stubsLines registry tree :=
    (writes_stubsDraft registry hnone).lines_eq
  obtain rfl := Except.ok.inj ((generateWith_eq_ok hnone).symm.trans h)
  rw [hlines]
  refine ⟨rfl, cacheKeys?_stubsLines registry tree, ?_, tableNames?_emit options.table tree.modules,
    ?_⟩
  · rw [caseClauses?_stubsLines, Tree.moduleNames, List.map_map]
    rfl
  · intro name hname
    obtain ⟨m, hmem, rfl⟩ := List.mem_map.1 hname
    have hname : nameViolations rootContainer m.name = [] :=
      (List.append_eq_nil_iff.1 (hm m hmem)).1
    have hne := (memberName_eq_ok_iff.1 (memberName_eq_ok hname)).2
    exact ⟨hne, escapeLiteral_identifier m.name, renderText_identifier m.name⟩

/-- Three modules, two of which have one name in code. -/
def repeatedTree : Tree :=
  { modules := [{ name := "net" }, { name := "tls_(ssl)" }, { name := "net (deprecated)" }] }

theorem generateWith_names_repeatedTree :
    ∃ artifacts, generateWith .empty { table := { format := .json } } repeatedTree =
        .ok artifacts ∧
      cacheKeys? (stubsDraft .empty repeatedTree).lines = some ["net", "tls", "net"] ∧
      caseClauses? (stubsDraft .empty repeatedTree).lines =
        some [("net", "net"), ("tls", "tls"), ("net", "net")] ∧
      tableNames? { format := .json } artifacts.table = some ["net", "tls", "net"] := by
  have hnone : repeatedTree.violations = [] := by decide
  have hnames : repeatedTree.moduleNames = ["net", "tls", "net"] := by decide
  obtain ⟨artifacts, h⟩ :=
    (stopsAt_generateWith .empty { table := { format := .json } } repeatedTree).exists_ok_iff.2
      hnone
  obtain ⟨-, hcache, hcases, htable, -⟩ := generateWith_names h
  rw [hnames] at hcache hcases htable
  exact ⟨artifacts, h, hcache, hcases, htable⟩

end ApiStubs
