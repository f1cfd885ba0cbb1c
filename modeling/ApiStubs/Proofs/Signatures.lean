import ApiStubs.Proofs.Factories
import ApiStubs.Proofs.Identifiers
import Mathlib.Data.List.Forall2

/-!
# The signatures of a method

The signatures of a method are written twice. The function takes the parameters of the first one,
as identifiers and up to the first `...`. The comments list the parameters of all of them, as they
are documented and to the end.

* `Signature.placedNames`: the documented names before the first `...`;
* `comments`, `signatureBlocks`: the comments among lines, and the blocks of signatures in them;
* `Documents`: what a block says of a signature;
* `TellsSignatures`: what the lines of a method say of its signatures;
* `methodDraft_signatures`: every method that is written says all of it, and which parameters its
  function takes depends on nothing else.
-/

namespace ApiStubs

open Doc Stub

/-! ### Parameters of functions -/

/-- The documented names of the parameters before the first `...`. -/
def Doc.Signature.placedNames (s : Signature) : List String :=
  (s.params.map (·.name)).takeWhile (· != "...")

theorem Doc.Signature.map_positional (s : Signature) :
    s.positional.map (·.name) = s.placedNames := by
  rw [positional, placedNames, List.takeWhile_map]
  rfl

theorem Doc.Method.parameters_eq {m : Method} {first : Signature} {later : List Signature}
    (h : m.signatures = first :: later) :
    m.parameters = first.placedNames.map Name.identifier := by
  rw [parameters, h, List.headD_cons, ← Signature.map_positional, List.map_map]
  rfl

namespace Stub

theorem methodViolations_eq {m : Method} {first : Signature} {later : List Signature}
    (h : m.signatures = first :: later) (container : String) :
    methodViolations container m = nameViolations container m.name ++
      first.placedNames.flatMap (nameViolations container) := by
  rw [methodViolations, h, ← Signature.map_positional, List.flatMap_map]

/-! ### Comments and their blocks -/

/-- The comments among lines. -/
def comments (lines : List Line) : List String :=
  (lines.filter fun l => isComment l.text).map Line.text

/-- The comment that begins a block. -/
def blockStart : String := "/// <signature>"

/-- The comment that ends a block. -/
def blockEnd : String := "/// </signature>"

/-- What stands behind each beginning of a block, up to the next end of one. -/
def signatureBlocks : List String → List (List String)
  | [] => []
  | text :: rest =>
    if text = blockStart then rest.takeWhile (· != blockEnd) :: signatureBlocks rest
    else signatureBlocks rest

/-- A block between its beginning and its end. -/
def enclosed (block : List String) : List String := blockStart :: (block ++ [blockEnd])

theorem comments_append (ls ms : List Line) : comments (ls ++ ms) = comments ls ++ comments ms := by
  simp [comments]

theorem comments_cons_of_eq_false {text : String} (h : isComment text = false) (depth : Nat)
    (ls : List Line) : comments (⟨depth, text⟩ :: ls) = comments ls := by
  simp [comments, h]

theorem comments_deeper (ls : List Line) : comments (ls.map Line.deeper) = comments ls := by
  simp [comments, List.filter_map, Line.deeper, Function.comp_def]

theorem comments_eq_map {ls : List Line} (h : ∀ l ∈ ls, isComment l.text = true) :
    comments ls = ls.map Line.text := by
  rw [comments, List.filter_eq_self.2 h]

theorem comments_eq_nil {ls : List Line} (h : ∀ l ∈ ls, isComment l.text = false) :
    comments ls = [] := by
  rw [comments, List.filter_eq_nil_iff.2 fun l hl => by simp [h l hl], List.map_nil]

theorem signatureBlocks_append {ls : List String} (h : blockStart ∉ ls) (rest : List String) :
    signatureBlocks (ls ++ rest) = signatureBlocks rest := by
  induction ls with
  | nil => rfl
  | cons text ls ih =>
    obtain ⟨htext, hls⟩ := List.ne_and_not_mem_of_not_mem_cons h
    rw [List.cons_append, signatureBlocks, if_neg htext.symm, ih hls]

theorem signatureBlocks_enclosed {block : List String} (hs : blockStart ∉ block)
    (he : blockEnd ∉ block) (rest : List String) :
    signatureBlocks (enclosed block ++ rest) = block :: signatureBlocks rest := by
  have hcut : (block ++ [blockEnd] ++ rest).takeWhile (· != blockEnd) = block := by
    rw [List.append_assoc, List.takeWhile_append_of_pos (forall_bne he)]
    simp
  have hend : blockStart ∉ block ++ [blockEnd] := by
    rw [List.mem_append, List.mem_singleton, not_or]
    exact ⟨hs, by decide⟩
  rw [enclosed, List.cons_append, signatureBlocks, if_pos rfl, hcut, signatureBlocks_append hend]

/-! ### What a block says -/

/-- The comment of a parameter, with its documented name. -/
def ListsParam (p : Param) (text : String) : Prop :=
  ∃ about, text = "/// <param name=\"" ++ p.name ++ "\"" ++ about

/-- A comment on what is returned, if it has a type or a description. -/
inductive ListsReturn : Option Return → List String → Prop
  | documented {r : Return} (hr : r.type ≠ none ∨ r.desc ≠ none) (about : String) :
      ListsReturn (some r) ["/// <returns" ++ about]
  | undocumented {r : Return} (ht : r.type = none) (hd : r.desc = none) : ListsReturn (some r) []
  | absent : ListsReturn none []

/-- The block lists all parameters of the signature in order, and then what is returned. -/
def Documents (s : Signature) (block : List String) : Prop :=
  ∃ params returns, block = params ++ returns ∧ List.Forall₂ ListsParam s.params params ∧
    ListsReturn s.returns returns

/-- The comments of a signature between the beginning and the end of its block. -/
def blockTexts (s : Signature) : List String :=
  s.params.map paramLine ++ (returnLines s.returns).map Line.text

theorem listsParam_paramLine (p : Param) : ListsParam p (paramLine p) := by
  unfold ListsParam paramLine
  refine ⟨typeAttribute p.type ++ ">" ++ commentText? p.desc ++ "</param>", ?_⟩
  simp only [String.append_assoc]

theorem listsReturn_returnLines (r : Option Return) :
    ListsReturn r ((returnLines r).map Line.text) := by
  cases r with
  | none => exact .absent
  | some r =>
    by_cases hr : r.isEmpty = true
    · obtain ⟨ht, hd⟩ : r.type = none ∧ r.desc = none := by simpa [Return.isEmpty] using hr
      rw [returnLines, if_pos hr]
      exact .undocumented ht hd
    · have hsome : r.type ≠ none ∨ r.desc ≠ none := by
        by_contra hnone
        obtain ⟨ht, hd⟩ := not_or.1 hnone
        exact hr (by simp [Return.isEmpty, not_not.1 ht, not_not.1 hd])
      rw [returnLines, if_neg hr]
      have hline : returnLine r = "/// <returns" ++
          (typeAttribute r.type ++ ">" ++ commentText? r.desc ++ "</returns>") := by
        unfold returnLine
        simp only [String.append_assoc]
      show ListsReturn (some r) [returnLine r]
      rw [hline]
      exact .documented hsome _

theorem documents_blockTexts (s : Signature) : Documents s (blockTexts s) := by
  refine ⟨_, _, rfl, ?_, listsReturn_returnLines s.returns⟩
  rw [List.forall₂_map_right_iff]
  exact List.forall₂_same.2 fun p _ => listsParam_paramLine p

/-! ### Marks in blocks -/

/-- A text that does not begin as the mark does is another one. -/
theorem append_ne {start mark : String} (h : ¬start.toList <+: mark.toList) (rest : String) :
    start ++ rest ≠ mark := by
  rintro rfl
  rw [String.toList_append] at h
  exact h (List.prefix_append ..)

theorem paramLine_ne {mark : String} (h : ¬"/// <param name=\"".toList <+: mark.toList)
    (p : Param) : paramLine p ≠ mark := by
  obtain ⟨about, hline⟩ := listsParam_paramLine p
  rw [hline, String.append_assoc, String.append_assoc]
  exact append_ne h _

theorem ne_of_mem_returnLines {mark : String} (h : ¬"/// <returns".toList <+: mark.toList)
    {r : Option Return} {text : String} (ht : text ∈ (returnLines r).map Line.text) :
    text ≠ mark := by
  generalize hls : (returnLines r).map Line.text = texts at ht
  have hr := listsReturn_returnLines r
  rw [hls] at hr
  cases hr with
  | documented _ about =>
    rw [List.mem_singleton.1 ht]
    exact append_ne h about
  | undocumented => cases ht
  | absent => cases ht

/-- A text that begins as no comment in a block does is not in one. -/
theorem notMem_blockTexts {mark : String} (hp : ¬"/// <param name=\"".toList <+: mark.toList)
    (hr : ¬"/// <returns".toList <+: mark.toList) (s : Signature) : mark ∉ blockTexts s := by
  intro hmem
  rcases List.mem_append.1 hmem with hmem | hmem
  · obtain ⟨p, -, hline⟩ := List.mem_map.1 hmem
    exact paramLine_ne hp p hline
  · exact ne_of_mem_returnLines hr hmem rfl

theorem signatureBlocks_blocks (ss : List Signature) :
    signatureBlocks (ss.flatMap fun s => enclosed (blockTexts s)) = ss.map blockTexts := by
  induction ss with
  | nil => rfl
  | cons s ss ih =>
    have hstart : blockStart ∉ blockTexts s := notMem_blockTexts (by decide) (by decide) s
    have hend : blockEnd ∉ blockTexts s := notMem_blockTexts (by decide) (by decide) s
    rw [List.flatMap_cons, signatureBlocks_enclosed hstart hend, ih, List.map_cons]

/-! ### The comments of a method -/

/-- The signatures with at least one parameter. -/
def listedSignatures (m : Method) : List Signature := m.signatures.filter fun s => s.params ≠ []

theorem texts_signatureLines (s : Signature) : (signatureLines s).map Line.text =
    if s.params ≠ [] then enclosed (blockTexts s) else [] := by
  unfold signatureLines
  by_cases hs : s.params = []
  · rw [if_pos (List.isEmpty_iff.2 hs), if_neg (not_not.2 hs), List.map_nil]
  · rw [if_neg (mt List.isEmpty_iff.1 hs), if_pos hs, List.map_cons, List.map_append,
      List.map_append, List.map_map]
    rfl

theorem texts_signatures (m : Method) : (m.signatures.flatMap signatureLines).map Line.text =
    (listedSignatures m).flatMap fun s => enclosed (blockTexts s) := by
  unfold listedSignatures
  induction m.signatures with
  | nil => rfl
  | cons s ss ih =>
    rw [List.flatMap_cons, List.map_append, ih, texts_signatureLines]
    by_cases hs : s.params = []
    · rw [if_neg (not_not.2 hs), List.filter_cons_of_neg (by simp [hs]), List.nil_append]
    · rw [if_pos hs, List.filter_cons_of_pos (by simp [hs]), List.flatMap_cons]

/-- The summary of a method, as a comment. -/
def summaryTexts (desc : Option String) : List String :=
  desc.toList.map fun d => "/// <summary>" ++ commentText d ++ "</summary>"

theorem isComment_eq_false_of_mem_bodyLines {byHand : String → Option String}
    (hb : PlainBodies byHand) {m : Method} {l : Line} (h : l ∈ bodyLines byHand m) :
    isComment l.text = false := by
  unfold bodyLines at h
  cases hcode : byHand m.name with
  | some code =>
    rw [hcode] at h
    obtain ⟨text, htext, rfl⟩ := List.mem_map.1 h
    have hplain : isPlainCode text.toList = true := hb m.name code hcode text htext
    simp only [isPlainCode, Bool.and_eq_true, Bool.not_eq_true'] at hplain
    exact hplain.1.2
  | none =>
    rw [hcode] at h
    obtain ⟨target, -, rfl⟩ := List.mem_map.1 h
    have hhead : (factoryReturn target).toList.head? = some 'r' := by
      repeat apply head?_append
      rfl
    refine isComment_eq_false ?_
    rw [hhead]
    decide

theorem comments_methodLines {byHand : String → Option String} (hb : PlainBodies byHand)
    (m : Method) : comments (methodLines byHand m) = summaryTexts m.desc ++
      (listedSignatures m).flatMap fun s => enclosed (blockTexts s) := by
  have hopening : isComment (functionOpening (Name.identifier m.name)
      (", ".intercalate m.parameters)) = false := by
    refine isComment_eq_false ?_
    rw [head?_functionOpening]
    decide
  have hsummary : comments (summaryLines m.desc) = summaryTexts m.desc := by
    rw [comments_eq_map fun _ => isComment_of_mem_summaryLines, summaryLines, List.map_map]
    rfl
  have hsignatures : comments (m.signatures.flatMap signatureLines) = _ :=
    (comments_eq_map fun _ => isComment_of_mem_signatures).trans (texts_signatures m)
  rw [methodLines, comments_cons_of_eq_false hopening, comments_append, comments_deeper,
    comments_append, comments_append, hsummary, hsignatures,
    comments_eq_nil fun _ => isComment_eq_false_of_mem_bodyLines hb, List.append_nil]
  exact List.append_nil _

theorem signatureBlocks_methodLines {byHand : String → Option String} (hb : PlainBodies byHand)
    (m : Method) : signatureBlocks (comments (methodLines byHand m)) =
      (listedSignatures m).map blockTexts := by
  have hsummary : blockStart ∉ summaryTexts m.desc := by
    intro hmem
    obtain ⟨d, -, hline⟩ := List.mem_map.1 hmem
    rw [String.append_assoc] at hline
    exact append_ne (by decide) _ hline
  rw [comments_methodLines hb, signatureBlocks_append hsummary, signatureBlocks_blocks]

end Stub

theorem Container.plainBodies_byHand (c : Container) : PlainBodies c.byHand := by
  unfold byHand
  split
  · exact plainBodies_handWritten c.scope.name
  · exact plainBodies_noBody

/-! ### Methods that are written -/

/-- What the lines of a method say of its signatures. -/
structure TellsSignatures (m : Method) (lines : List Line) : Prop where
  /-- The function takes the parameters of the first signature before `...`, as identifiers. -/
  takes : ∃ first later, m.signatures = first :: later ∧
    lines.head?.map (fun l => namesIn l.text.toList) =
      some (Name.identifier m.name :: first.placedNames.map Name.identifier)
  /-- The comments are the summary and blocks of signatures. -/
  comments_eq : comments lines =
    summaryTexts m.desc ++ (signatureBlocks (comments lines)).flatMap enclosed
  /-- There is a block for each signature with a parameter, in order, and no other. -/
  documents : List.Forall₂ Documents (listedSignatures m) (signatureBlocks (comments lines))

theorem tellsSignatures_methodLines {byHand : String → Option String} (hb : PlainBodies byHand)
    {container : String} {m : Method} (h : methodViolations container m = []) :
    TellsSignatures m (methodLines byHand m) where
  takes := by
    obtain ⟨first, later, hs, -⟩ := signatures_ne_nil h
    refine ⟨first, later, hs, ?_⟩
    rw [← Method.parameters_eq hs, ← namesIn_methodOpening (allWords_method h)]
    rfl
  comments_eq := by
    rw [signatureBlocks_methodLines hb, comments_methodLines hb, List.flatMap_map]
  documents := by
    rw [signatureBlocks_methodLines hb, List.forall₂_map_right_iff]
    exact List.forall₂_same.2 fun s _ => documents_blockTexts s

/-- A method that is written tells its signatures. Which parameters its function takes depends on
the names in the first signature before `...` only: another method of the same name with the same
such names is written too, and begins with the same line. -/
theorem methodDraft_signatures (c : Container) (m : Method)
    (h : (methodDraft c.byHand c.name c.classes m).result = .ok ()) :
    TellsSignatures m (methodDraft c.byHand c.name c.classes m).lines ∧
      ∀ m' first later first' later', m.signatures = first :: later →
        m'.signatures = first' :: later' → m'.name = m.name →
        first'.placedNames = first.placedNames →
        (methodDraft c.byHand c.name c.classes m').result = .ok () ∧
          (methodDraft c.byHand c.name c.classes m').lines.head? =
            (methodDraft c.byHand c.name c.classes m).lines.head? := by
  have hm : methodViolations c.name m = [] := (stopsAt_methodDraft ..).eq_ok_iff.1 h
  have hlines : (methodDraft c.byHand c.name c.classes m).lines = methodLines c.byHand m :=
    (writes_methodDraft hm).lines_eq
  refine ⟨?_, ?_⟩
  · rw [hlines]
    exact tellsSignatures_methodLines c.plainBodies_byHand hm
  · intro m' first later first' later' hs hs' hname hplaced
    have hm' : methodViolations c.name m' = [] := by
      rw [methodViolations_eq hs', hname, hplaced, ← methodViolations_eq hs, hm]
    have hwrites := @writes_methodDraft c.byHand c.name c.classes m' hm'
    refine ⟨hwrites.result_eq, ?_⟩
    rw [hlines, hwrites.lines_eq, methodLines, methodLines, List.head?_cons, List.head?_cons,
      Method.parameters_eq hs, Method.parameters_eq hs', hname, hplaced]

/-- A method with three signatures. The first has more parameters than its function takes, the
second has none at all. -/
def formatMethod : Method :=
  { name := "format",
    desc := some "Formats.",
    signatures :=
      [{ params := [{ name := "format", type := some "String", desc := some "template" },
           { name := "..." }],
         returns := some { type := some "String" } },
       {},
       { params := [{ name := "object" }], returns := some {} }] }

/-- The method with only one signature, of which only one parameter is left. -/
def shortMethod : Method :=
  { name := "format", signatures := [{ params := [{ name := "format" }] }] }

/-- A module without classes. -/
def utilContainer : Container := { role := .module, scope := { name := "util" } }

/-- The draft of a method of the module. -/
def utilMethodDraft (m : Method) : Draft Unit :=
  methodDraft utilContainer.byHand utilContainer.name utilContainer.classes m

theorem methodDraft_signatures_formatMethod :
    (utilMethodDraft formatMethod).result = .ok () ∧
      TellsSignatures formatMethod (utilMethodDraft formatMethod).lines ∧
      (utilMethodDraft shortMethod).lines.head? = (utilMethodDraft formatMethod).lines.head? ∧
      signatureBlocks (comments (utilMethodDraft formatMethod).lines) =
        [["/// <param name=\"format\" type=\"String\">template</param>",
          "/// <param name=\"...\"></param>", "/// <returns type=\"String\"></returns>"],
         ["/// <param name=\"object\"></param>"]] := by
  have hnone : methodViolations utilContainer.name formatMethod = [] := by decide
  have hok : (utilMethodDraft formatMethod).result = .ok () :=
    (stopsAt_methodDraft ..).eq_ok_iff.2 hnone
  have hlines : (utilMethodDraft formatMethod).lines =
      methodLines utilContainer.byHand formatMethod := (writes_methodDraft hnone).lines_eq
  obtain ⟨htells, hsame⟩ := methodDraft_signatures utilContainer formatMethod hok
  refine ⟨hok, htells, (hsame shortMethod _ _ _ _ rfl rfl rfl rfl).2, ?_⟩
  rw [hlines, signatureBlocks_methodLines utilContainer.plainBodies_byHand]
  decide

end ApiStubs
