import ApiStubs.Proofs.ModuleNames

/-!
# Reading names off the lines of stubs

Names stand in the stubs as functions of scopes, as variables, as members of `this` and as
parameters. Here they are read off a line by a reader that knows nothing of the documentation.

* `Name.IsWord`, `Name.IsIdentifier`: words, and words that start with no digit;
* `namesIn`, `writtenNames`: the names in identifier positions of a line, and of lines;
* `parameterList_intercalate`: parameters are read back;
* `namesIn_functionOpening`, `namesIn_valueLine`, `namesIn_classOpening`, `namesIn_globalOpening`,
  `namesIn_caseOpening`: what the reader finds in each kind of line;
* `namesIn_of_isComment`, `NamelessBodies`, `namesIn_of_mem_resolverLines`: lines without names.
-/

namespace ApiStubs

open Doc Inference Stub Text

/-! ### Words and identifiers -/

namespace Name

/-- The name is not empty, and made of letters, digits, underscores and dollar signs. -/
def IsWord (name : String) : Prop := name ≠ "" ∧ name.toList.all isClassChar = true

instance (name : String) : Decidable (IsWord name) := inferInstanceAs (Decidable (_ ∧ _))

/-- The name starts with one of these digits. -/
def startsWithDigit (digit : Char → Bool) (name : String) : Bool := name.toList.head?.any digit

/-- A word that starts with no digit. -/
def IsIdentifier (digit : Char → Bool) (name : String) : Prop :=
  IsWord name ∧ startsWithDigit digit name = false

theorem isClassChar_of_isNameChar {c : Char} (h : isNameChar c = true) : isClassChar c = true := by
  rw [isClassChar, h, Bool.true_or]

theorem isWord_identifier {raw : String} (h : identifier raw ≠ "") : IsWord (identifier raw) := by
  refine ⟨h, List.all_eq_true.2 fun c hc => ?_⟩
  exact isClassChar_of_isNameChar (List.all_eq_true.1 (all_isNameChar_identifier raw) c hc)

/-- A mark of underscores keeps a word a word. -/
theorem IsWord.marked {name mark : String} (h : IsWord name)
    (hmark : mark.toList.all isClassChar = true) : IsWord (mark ++ name) := by
  refine ⟨fun he => h.1 (String.append_eq_empty_iff.1 he).2, ?_⟩
  rw [String.toList_append, List.all_append, hmark, h.2, Bool.true_and]

/-- A word holds no character that ends one. -/
theorem IsWord.ne_of_mem {name : String} (h : IsWord name) {stop : Char}
    (hstop : isClassChar stop = false) : ∀ c ∈ name.toList, (c != stop) = true := by
  refine forall_bne fun hmem => ?_
  rw [List.all_eq_true.1 h.2 stop hmem] at hstop
  cases hstop

end Name

open Name

/-! ### Reading names off lines -/

namespace Stub

/-- A parameter, up to a comma or the closing parenthesis. -/
def parameterName : Scan (List Char) := Scan.run fun c => c != ',' && c != ')'

/-- A parameter before a further one. -/
def innerParameter : Scan String := do
  let name ← parameterName
  Scan.exactly ", "
  return String.ofList name

/-- The parameters of a function, up to the closing parenthesis. -/
def parameterList : Scan (List String) := do
  let init ← Scan.many innerParameter
  let last ← parameterName
  return if init.isEmpty && last.isEmpty then [] else init ++ [String.ofList last]

/-- The text ends as a line that opens a function, which it may close at once. -/
def opensFunction (s : List Char) : Bool :=
  ") \x7b".toList.isSuffixOf s || ") \x7b \x7d".toList.isSuffixOf s

/-- The parameters of a function that a line assigns. -/
def assignedFunction : Scan (List String) := fun s =>
  if opensFunction s then (do Scan.exactly "function("; parameterList) s else none

/-- A member of `this`, and the parameters if it is a function. -/
def memberNames : Scan (List String) := do
  Scan.exactly "this."
  let name ← Scan.run (· != ' ')
  Scan.exactly " = "
  let params ← Scan.optional assignedFunction
  return String.ofList name :: params.getD []

/-- The function of a scope. -/
def scopeFunction : Scan String := do
  Scan.exactly "function "
  let name ← Scan.run (· != '(')
  Scan.exactly "() \x7b"
  Scan.ended
  return String.ofList name

/-- The variable of a global object, and the function that it is an object of. -/
def globalNames : Scan (List String) := do
  Scan.exactly "var "
  let name ← Scan.run (· != ' ')
  Scan.exactly " = new "
  let function ← scopeFunction
  return [String.ofList name, function]

/-- The reader of a line, by its first character. -/
def lineReader : Option Char → Scan (List String)
  | some 't' => memberNames
  | some 'v' => globalNames
  | some 'c' => do return [(← caseNames).2]
  | some 'f' => do return [← scopeFunction]
  | _ => failure

/-- The names in identifier positions of a line. -/
def namesIn (s : List Char) : List String := ((lineReader s.head?).run' s).getD []

/-- The names in identifier positions of lines. -/
def writtenNames (lines : List Line) : List String := lines.flatMap fun l => namesIn l.text.toList

/-! ### Single lines -/

/-- Only four characters start a line with a name. -/
theorem namesIn_of_head {s : List Char} {c : Char} (h : s.head? = some c)
    (hc : c ∉ ['t', 'v', 'c', 'f']) : namesIn s = [] := by
  have hreader : lineReader (some c) = failure := by
    unfold lineReader
    split <;> simp_all
  rw [namesIn, h, hreader]
  rfl

theorem namesIn_of_isComment {text : String} (h : isComment text = true) :
    namesIn text.toList = [] := by
  obtain ⟨rest, hrest⟩ := List.isPrefixOf_iff_prefix.1 h
  refine namesIn_of_head (c := '/') ?_ (by decide)
  rw [← hrest]
  rfl

theorem namesIn_of_some {s : List Char} {c : Char} {names : List String} {rest : List Char}
    (hc : s.head? = some c) (h : lineReader (some c) s = some (names, rest)) :
    namesIn s = names := by
  rw [namesIn, hc, Scan.run'_of_some h, Option.getD_some]

theorem exists_of_run' {α : Type} {p : Scan α} {s : List Char} {a : α} (h : p.run' s = some a) :
    ∃ rest, p s = some (a, rest) := by
  obtain ⟨⟨b, rest⟩, hp, rfl⟩ := Option.map_eq_some_iff.1 (show (p s).map Prod.fst = some a from h)
  exact ⟨rest, hp⟩

theorem parameterName_append {name : String} (h : IsWord name) {c : Char}
    (hc : c = ',' ∨ c = ')') (rest : List Char) :
    parameterName (name.toList ++ c :: rest) = some (name.toList, c :: rest) := by
  refine run_append (fun d hd => ?_) ?_ rest
  · rw [h.ne_of_mem (by decide) d hd, h.ne_of_mem (by decide) d hd, Bool.true_and]
  · rcases hc with rfl | rfl <;> decide

theorem intercalate_concat (separator last : List Char) (init : List (List Char)) :
    separator.intercalate (init ++ [last]) = init.flatMap (· ++ separator) ++ last := by
  induction init with
  | nil => rw [List.nil_append, List.intercalate_singleton, List.flatMap_nil, List.nil_append]
  | cons p init ih =>
    obtain ⟨q, more, hmore⟩ := List.exists_cons_of_ne_nil (List.append_ne_nil_of_right_ne_nil init
      (List.cons_ne_nil last []))
    rw [List.cons_append, hmore, List.intercalate_cons_cons, ← hmore, ih, List.flatMap_cons]
    simp only [List.append_assoc]

theorem innerParameter_append {name : String} (h : IsWord name) (rest : List Char) :
    innerParameter (name.toList ++ ", ".toList ++ rest) = some (name, rest) := by
  have hname : parameterName (name.toList ++ ", ".toList ++ rest) =
      some (name.toList, ", ".toList ++ rest) := by
    rw [List.append_assoc]
    exact parameterName_append h (.inl rfl) (' ' :: rest)
  rw [innerParameter, Scan.bind_of_some hname, Scan.bind_of_some (Scan.exactly_eq_some_iff.2 rfl),
    String.ofList_toList]
  rfl

/-- In front of the closing parenthesis no further parameter is promised. -/
theorem innerParameter_last {name : String} (h : IsWord name) (rest : List Char) :
    innerParameter (name.toList ++ ')' :: rest) = none := by
  rw [innerParameter, Scan.bind_of_some (parameterName_append h (.inr rfl) rest)]
  rfl

theorem parameterList_intercalate {params : List String} (h : ∀ p ∈ params, IsWord p)
    (rest : List Char) :
    parameterList ((", ".intercalate params).toList ++ ')' :: rest) =
      some (params, ')' :: rest) := by
  rcases params.eq_nil_or_concat' with rfl | ⟨init, last, rfl⟩
  · rfl
  · have hlast : IsWord last := h last (by simp)
    have htext : (", ".intercalate (init ++ [last])).toList ++ ')' :: rest =
        init.flatMap (fun p => p.toList ++ ", ".toList) ++ (last.toList ++ ')' :: rest) := by
      rw [String.toList_intercalate, List.map_append, List.map_singleton, intercalate_concat,
        List.flatMap_map, List.append_assoc]
    have hmany : Scan.many innerParameter
        (init.flatMap (fun p => p.toList ++ ", ".toList) ++ (last.toList ++ ')' :: rest)) =
          some (init.map id, last.toList ++ ')' :: rest) :=
      Scan.many_flatMap (fun p hp s => innerParameter_append (h p (by simp [hp])) s) (by simp)
        (innerParameter_last hlast rest)
    have hne : last.toList.isEmpty = false := by
      rw [List.isEmpty_eq_false_iff]
      exact fun he => hlast.1 (String.toList_eq_nil_iff.1 he)
    rw [htext, parameterList, Scan.bind_of_some hmany, List.map_id,
      Scan.bind_of_some (parameterName_append hlast (.inr rfl) rest), hne, Bool.and_false,
      String.ofList_toList]
    rfl

/-- A member, whatever it is assigned. -/
theorem namesIn_member {name : String} (hname : ∀ c ∈ name.toList, (c != ' ') = true)
    (value : List Char) :
    namesIn ("this.".toList ++ (name.toList ++ " = ".toList ++ value)) =
      name :: ((assignedFunction value).map Prod.fst).getD [] := by
  have hrun : Scan.run (· != ' ') (name.toList ++ " = ".toList ++ value) =
      some (name.toList, " = ".toList ++ value) := by
    rw [List.append_assoc]
    exact run_append hname rfl ('=' :: ' ' :: value)
  have hread : ∃ rest, memberNames ("this.".toList ++ (name.toList ++ " = ".toList ++ value)) =
      some (name :: ((assignedFunction value).map Prod.fst).getD [], rest) := by
    rw [memberNames, Scan.bind_of_some (Scan.exactly_eq_some_iff.2 rfl), Scan.bind_of_some hrun,
      Scan.bind_of_some (Scan.exactly_eq_some_iff.2 rfl), String.ofList_toList]
    cases hvalue : assignedFunction value with
    | none =>
      have hoptional : Scan.optional assignedFunction value = some (none, value) := by
        rw [Scan.optional, hvalue]
      rw [Scan.bind_of_some hoptional]
      exact ⟨value, rfl⟩
    | some read =>
      have hoptional : Scan.optional assignedFunction value = some (some read.1, read.2) := by
        rw [Scan.optional, hvalue]
      rw [Scan.bind_of_some hoptional]
      exact ⟨read.2, rfl⟩
  obtain ⟨rest, hread⟩ := hread
  exact namesIn_of_some (c := 't') rfl hread

/-- A member whose value opens a function: its name, then the parameters. -/
theorem namesIn_functionOpening {name : String} {params : List String} (hname : IsWord name)
    (hparams : ∀ p ∈ params, IsWord p) {trail : String} (htrail : trail = "" ∨ trail = " \x7d") :
    namesIn (functionOpening name (", ".intercalate params) ++ trail).toList = name :: params := by
  have htext : (functionOpening name (", ".intercalate params) ++ trail).toList =
      "this.".toList ++ (name.toList ++ " = ".toList ++ ("function(".toList ++
        ((", ".intercalate params).toList ++ ')' :: (" \x7b".toList ++ trail.toList)))) := by
    simp [functionOpening]
  have hopens : opensFunction ("function(".toList ++
      ((", ".intercalate params).toList ++ ')' :: (" \x7b".toList ++ trail.toList))) = true := by
    rw [opensFunction, Bool.or_eq_true, List.isSuffixOf_iff_suffix, List.isSuffixOf_iff_suffix,
      ← List.append_assoc]
    rcases htrail with rfl | rfl
    · exact .inl (List.suffix_append ..)
    · exact .inr (List.suffix_append ..)
  have hvalue : assignedFunction ("function(".toList ++
      ((", ".intercalate params).toList ++ ')' :: (" \x7b".toList ++ trail.toList))) =
        some (params, ')' :: (" \x7b".toList ++ trail.toList)) := by
    rw [assignedFunction, if_pos hopens, Scan.bind_of_some (Scan.exactly_eq_some_iff.2 rfl),
      parameterList_intercalate hparams]
  rw [htext, namesIn_member (hname.ne_of_mem (by decide)), hvalue]
  rfl

/-- A property: whatever its value is, it ends the line as no function does. -/
theorem namesIn_valueLine (specializer : Option Specializer) (p : Property) :
    namesIn (valueLine specializer p).toList = [Name.identifier p.name] := by
  have hvalue (value : List Char) : assignedFunction (value ++ [';']) = none := by
    have hopens : opensFunction (value ++ [';']) = false := by
      rw [opensFunction, List.isSuffixOf, List.isSuffixOf, List.reverse_append]
      rfl
    rw [assignedFunction, hopens]
    rfl
  have htext : (valueLine specializer p).toList = "this.".toList ++
      ((Name.identifier p.name).toList ++ " = ".toList ++
        ((inferDefault p.name (p.desc.getD "") (p.textRaw.getD "") specializer).toList ++
          [';'])) := by
    simp [valueLine]
  rw [htext, namesIn_member (forall_bne (Name.not_mem_identifier (by decide) p.name)), hvalue]
  rfl

/-! ### Functions of scopes -/

theorem scopeFunction_text {name : String} (hname : IsWord name) :
    scopeFunction ("function ".toList ++ (name.toList ++ "() \x7b".toList)) = some (name, []) := by
  have hrun : Scan.run (· != '(') (name.toList ++ "() \x7b".toList) =
      some (name.toList, "() \x7b".toList) :=
    run_append (hname.ne_of_mem (by decide)) rfl _
  have hend : Scan.exactly "() \x7b" "() \x7b".toList = some ((), []) := rfl
  rw [scopeFunction, Scan.bind_of_some (Scan.exactly_eq_some_iff.2 rfl), Scan.bind_of_some hrun,
    Scan.bind_of_some hend, String.ofList_toList]
  rfl

/-- A class. -/
theorem namesIn_classOpening {name : String} (hname : IsWord name) :
    namesIn ("" ++ "function " ++ name ++ "() \x7b").toList = [name] := by
  have htext : ("" ++ "function " ++ name ++ "() \x7b").toList =
      "function ".toList ++ (name.toList ++ "() \x7b".toList) := by
    simp
  have hread : lineReader (some 'f') ("function ".toList ++ (name.toList ++ "() \x7b".toList)) =
      some ([name], []) := by
    rw [lineReader, Scan.bind_of_some (scopeFunction_text hname)]
    rfl
  rw [htext, namesIn_of_some rfl hread]

/-- A global object. -/
theorem namesIn_globalOpening {variable_ name : String} (hvariable : IsWord variable_)
    (hname : IsWord name) :
    namesIn ("var " ++ variable_ ++ " = new " ++ "function " ++ name ++ "() \x7b").toList =
      [variable_, name] := by
  have htext : ("var " ++ variable_ ++ " = new " ++ "function " ++ name ++ "() \x7b").toList =
      "var ".toList ++ (variable_.toList ++ (" = new ".toList ++
        ("function ".toList ++ (name.toList ++ "() \x7b".toList)))) := by
    simp
  have hrun : Scan.run (· != ' ') (variable_.toList ++ (" = new ".toList ++
      ("function ".toList ++ (name.toList ++ "() \x7b".toList)))) =
        some (variable_.toList, " = new ".toList ++
          ("function ".toList ++ (name.toList ++ "() \x7b".toList))) :=
    run_append (hvariable.ne_of_mem (by decide)) rfl _
  have hread : lineReader (some 'v') ("var ".toList ++ (variable_.toList ++ (" = new ".toList ++
      ("function ".toList ++ (name.toList ++ "() \x7b".toList))))) =
        some ([variable_, name], []) := by
    rw [lineReader, globalNames, Scan.bind_of_some (Scan.exactly_eq_some_iff.2 rfl),
      Scan.bind_of_some hrun, Scan.bind_of_some (Scan.exactly_eq_some_iff.2 rfl),
      Scan.bind_of_some (scopeFunction_text hname), String.ofList_toList]
    rfl
  rw [htext, namesIn_of_some rfl hread]

/-- A module. -/
theorem namesIn_caseOpening (m : Module) :
    namesIn (caseOpening m).toList = [Name.identifier m.name] := by
  have hhead : (caseOpening m).toList.head? = some 'c' := by
    repeat apply head?_append
    rfl
  obtain ⟨rest, hread⟩ := exists_of_run' (caseNames_caseOpening m)
  have hreader : lineReader (some 'c') (caseOpening m).toList =
      some ([Name.identifier m.name], rest) := by
    rw [lineReader, Scan.bind_of_some hread]
    rfl
  rw [namesIn_of_some hhead hreader]

/-! ### Code written by hand -/

/-- A literal is looked at character by character. -/
theorem namesIn_ofList {s : List Char} (h : namesIn s = []) :
    namesIn (String.ofList s).toList = [] := by
  rwa [String.toList_ofList]

open ApiStubs.Stub.Path in
theorem namesIn_of_mem_pathBodies {ls : List String}
    (hls : ls ∈ [collapseSegments, relativeBody, normalizeBody, resolveBody, joinBody]) :
    ∀ l ∈ ls, namesIn l.toList = [] := by
  simp only [List.mem_cons, List.not_mem_nil, or_false] at hls
  rcases hls with rfl | rfl | rfl | rfl | rfl
  all_goals
    simp only [collapseSegments, relativeBody, normalizeBody, resolveBody, joinBody,
      List.forall_mem_cons, List.not_mem_nil, false_implies, implies_true, and_true]
    repeat' apply And.intro
  all_goals exact namesIn_ofList (by decide)

theorem namesIn_of_mem_resolverLines : ∀ l ∈ resolverLines, namesIn l.toList = [] := by
  have hcount : namesIn ("    if(require_count++ >= " ++ progressThreshold.repr ++
      ") \x7b").toList = [] := by
    refine namesIn_of_head (c := ' ') ?_ (by decide)
    repeat apply head?_append
    rfl
  have hmarker : namesIn ("                " ++ userModuleMarker).toList = [] :=
    namesIn_of_head (c := ' ') (head?_append rfl _) (by decide)
  simp only [resolverLines, List.forall_mem_cons, List.not_mem_nil, false_implies, implies_true,
    and_true, hcount, hmarker, true_and]
  repeat' apply And.intro
  all_goals exact namesIn_ofList (by decide)

/-- No line of a body has a name in an identifier position. -/
def NamelessBodies (byHand : String → Option String) : Prop :=
  ∀ method code, byHand method = some code → ∀ l ∈ textLines code, namesIn l.toList = []

theorem namelessBodies_noBody : NamelessBodies noBody := by
  intro method code h
  cases h

theorem namelessBodies_handWritten (raw : String) : NamelessBodies (handWritten raw) := by
  intro method code h l hl
  unfold handWritten at h
  split at h
  · obtain ⟨ls, hls, hl⟩ := mem_pathBodies_of_body? h hl
    exact namesIn_of_mem_pathBodies hls l hl
  · cases h

end Stub

end ApiStubs
