import ApiStubs.Proofs.CommentText
import ApiStubs.Proofs.StubLines

/-!
# Comments on one line

A documentation comment ends with its line, so whatever follows a line end in it is code. Line
breaks of descriptions are written as references, but for a carriage return without its line feed,
and names go into comments as they are. Here it is shown which documentation keeps every comment on
its line.

* `onOneLine`, for each kind of entry: no documented text brings a line end into a comment;
* `commentsFit`: every comment among some lines is on one line;
* `Entry`: what becomes a function; `Entry.lines_draft`: its lines, if nothing refuses it;
* `comments_on_one_line_iff`: the comments of an entry are on one line exactly if its documentation
  keeps them there.
-/

namespace ApiStubs

open Doc Inference Text

/-! ### Documentation that keeps to its comments -/

/-- A description without carriage returns that lack their line feed. -/
def fitsComment (desc : Option String) : Bool := desc.all fun d => returnsPaired d.toList

namespace Doc

/-- The name of the parameter and its description fit a comment. -/
def Param.onOneLine (p : Param) : Bool := isOneLine p.name.toList && fitsComment p.desc

/-- The description of what is returned fits a comment. -/
def Return.onOneLine (r : Return) : Bool := fitsComment r.desc

/-- Nothing in the signature leaves its comment. One without parameters has no comment. -/
def Signature.onOneLine (s : Signature) : Bool :=
  s.params.isEmpty || (s.params.all Param.onOneLine && s.returns.all Return.onOneLine)

/-- Nothing in the method leaves its comment. -/
def Method.onOneLine (m : Method) : Bool :=
  fitsComment m.desc && m.signatures.all Signature.onOneLine

/-- The name of the event and the first line of its description fit a comment. -/
def Event.onOneLine (e : Event) : Bool :=
  isOneLine e.name.toList && e.desc.all fun d => firstLineReturnsPaired d.toList

/-- The name of the property and its description fit a comment, if there is one. -/
def Property.onOneLine (p : Property) : Bool :=
  p.desc.all fun d => isOneLine p.name.toList && returnsPaired d.toList

/-- Nothing in the scope leaves its comment. -/
def Scope.onOneLine (s : Scope) : Bool :=
  fitsComment s.desc && (s.methods.getD []).all Method.onOneLine &&
    ((s.events.getD []).filter Event.isListable).all Event.onOneLine &&
    (s.properties.getD []).all Property.onOneLine

/-- Nothing in the module or global object leaves its comment, nor in its classes. -/
def Module.onOneLine (m : Module) : Bool :=
  m.toScope.onOneLine && (m.classes.getD []).all Scope.onOneLine

end Doc

namespace Stub

/-! ### Comments among lines -/

/-- Every comment among the lines is on one line. -/
def commentsFit (lines : List Line) : Bool :=
  lines.all fun l => !isComment l.text || isOneLine l.text.toList

@[simp] theorem commentsFit_nil : commentsFit [] = true := rfl

@[simp] theorem commentsFit_append (ls ms : List Line) :
    commentsFit (ls ++ ms) = (commentsFit ls && commentsFit ms) := List.all_append

@[simp] theorem commentsFit_deeper (lines : List Line) :
    commentsFit (lines.map Line.deeper) = commentsFit lines := by
  unfold commentsFit
  rw [List.all_map]
  rfl

theorem commentsFit_flatMap {α : Type} (f : α → List Line) (as : List α) :
    commentsFit (as.flatMap f) = as.all fun a => commentsFit (f a) := List.all_flatMap

theorem commentsFit_iff {lines : List Line} :
    commentsFit lines = true ↔
      ∀ l ∈ lines, isComment l.text = true → isOneLine l.text.toList = true := by
  unfold commentsFit
  rw [List.all_eq_true]
  refine forall₂_congr fun l _ => ?_
  cases isComment l.text <;> simp

/-- A line of code fits, whatever stands in it. -/
theorem commentsFit_code {text : String} {c : Char} (h : text.toList.head? = some c) (hc : c ≠ '/')
    (depth : ℕ) (lines : List Line) : commentsFit (⟨depth, text⟩ :: lines) = commentsFit lines := by
  have hcode : isComment text = false := by
    apply isComment_eq_false
    rw [h]
    simpa using hc
  unfold commentsFit
  rw [List.all_cons, hcode]
  rfl

theorem commentsFit_empty (depth : ℕ) (lines : List Line) :
    commentsFit (⟨depth, ""⟩ :: lines) = commentsFit lines := by
  unfold commentsFit
  rw [List.all_cons]
  rfl

/-- A comment fits exactly if it is on one line. -/
theorem commentsFit_comment {l : Line} (h : isComment l.text = true) (lines : List Line) :
    commentsFit (l :: lines) = (isOneLine l.text.toList && commentsFit lines) := by
  unfold commentsFit
  rw [List.all_cons, h]
  rfl

/-- Comments fit exactly if all of them are on one line. -/
theorem commentsFit_comments {ls : List Line} (h : ∀ l ∈ ls, isComment l.text = true) :
    commentsFit ls = ls.all fun l => isOneLine l.text.toList := by
  induction ls with
  | nil => rfl
  | cons l ls ih =>
    rw [commentsFit_comment (h l (by simp)), ih fun k hk => h k (by simp [hk]), List.all_cons]

/-! ### Comments of members -/

theorem isOneLine_commentText (desc : String) :
    isOneLine (commentText desc).toList = returnsPaired desc.toList := by
  rw [commentText, String.toList_ofList, isOneLine_docComment]

theorem isOneLine_commentText? (desc : Option String) :
    isOneLine (commentText? desc).toList = fitsComment desc := by
  cases desc with
  | none => rfl
  | some desc => exact isOneLine_commentText desc

theorem isOneLine_typeAttribute (type : Option String) :
    isOneLine (typeAttribute type).toList = true := by
  cases type with
  | none => rfl
  | some type =>
    have hname : isOneLine (Name.identifier type).toList = true :=
      isOneLine_iff.2 ⟨Name.not_mem_identifier (by decide) type,
        Name.not_mem_identifier (by decide) type⟩
    simp only [typeAttribute, String.toList_append, isOneLine_append, hname]
    decide

theorem isOneLine_paramLine (p : Param) : isOneLine (paramLine p).toList = p.onOneLine := by
  have hopen : isOneLine "/// <param name=\"".toList = true := by decide
  have hquote : isOneLine "\"".toList = true := by decide
  have hclose : isOneLine "</param>".toList = true := by decide
  have hbracket : isOneLine ">".toList = true := by decide
  unfold paramLine Param.onOneLine
  simp only [String.toList_append, isOneLine_append, hopen, hquote, hclose, hbracket,
    isOneLine_typeAttribute, isOneLine_commentText?, Bool.true_and, Bool.and_true]

theorem isOneLine_returnLine (r : Return) : isOneLine (returnLine r).toList = r.onOneLine := by
  have hopen : isOneLine "/// <returns".toList = true := by decide
  have hclose : isOneLine "</returns>".toList = true := by decide
  have hbracket : isOneLine ">".toList = true := by decide
  unfold returnLine Return.onOneLine
  simp only [String.toList_append, isOneLine_append, hopen, hclose, hbracket,
    isOneLine_typeAttribute, isOneLine_commentText?, Bool.true_and, Bool.and_true]

theorem isOneLine_eventLine (e : Doc.Event) : isOneLine (eventLine e).toList = e.onOneLine := by
  have hmark : isOneLine "/// ".toList = true := by decide
  have hcolon : isOneLine ": ".toList = true := by decide
  have hbreak : isOneLine "&#10;".toList = true := by decide
  have hempty : isOneLine "".toList = true := rfl
  unfold eventLine Doc.Event.onOneLine
  cases e.desc with
  | none =>
    simp only [String.toList_append, isOneLine_append, hmark, hbreak, hempty, Option.all_none,
      Bool.true_and, Bool.and_true]
  | some desc =>
    simp only [String.toList_append, isOneLine_append, hmark, hcolon, hbreak, String.toList_ofList,
      isOneLine_plainSummary, Option.all_some, Bool.true_and, Bool.and_true]

theorem commentsFit_summaryLines (desc : Option String) :
    commentsFit (summaryLines desc) = fitsComment desc := by
  rw [commentsFit_comments fun _ => isComment_of_mem_summaryLines]
  unfold summaryLines fitsComment
  cases desc with
  | none => rfl
  | some desc =>
    simp only [Option.toList_some, List.map_cons, List.map_nil, List.all_cons, List.all_nil,
      Bool.and_true, Option.all_some]
    rw [isOneLine_between (by decide) (by decide), isOneLine_commentText]

theorem all_isOneLine_returnLines (r : Option Return) :
    ((returnLines r).all fun l => isOneLine l.text.toList) = r.all Return.onOneLine := by
  cases r with
  | none => rfl
  | some r =>
    simp only [returnLines]
    split
    · next hr =>
      -- what documents nothing has no description either
      have hdesc : r.desc = none := by
        simp only [Return.isEmpty, Bool.and_eq_true, Option.isNone_iff_eq_none] at hr
        exact hr.2
      simp [Return.onOneLine, fitsComment, hdesc]
    · simp [isOneLine_returnLine]

theorem commentsFit_signatureLines (s : Signature) :
    commentsFit (signatureLines s) = s.onOneLine := by
  rw [commentsFit_comments fun _ => isComment_of_mem_signatureLines]
  unfold signatureLines Signature.onOneLine
  cases hp : s.params.isEmpty with
  | true => rfl
  | false =>
    have hopen : isOneLine "/// <signature>".toList = true := by decide
    have hclose : isOneLine "/// </signature>".toList = true := by decide
    have hparams : (s.params.map fun p => (⟨0, paramLine p⟩ : Line)).all
        (fun l => isOneLine l.text.toList) = s.params.all Param.onOneLine := by
      simp [List.all_map, Function.comp_def, isOneLine_paramLine]
    simp only [Bool.false_eq_true, if_false, Bool.false_or, List.all_cons, List.all_append,
      List.all_nil, hopen, hclose, hparams, all_isOneLine_returnLines, Bool.true_and, Bool.and_true]

theorem commentsFit_bodyLines {byHand : String → Option String} (hb : PlainBodies byHand)
    (m : Method) : commentsFit (bodyLines byHand m) = true := by
  rw [commentsFit_iff]
  intro l hl hc
  unfold bodyLines at hl
  cases hm : byHand m.name with
  | some code =>
    rw [hm] at hl
    obtain ⟨text, ht, rfl⟩ := List.mem_map.1 hl
    exact isOneLine_of_isPlainCode (hb m.name code hm text ht)
  | none =>
    rw [hm] at hl
    obtain ⟨target, -, rfl⟩ := List.mem_map.1 hl
    have hhead : (factoryReturn target).toList.head? = some 'r' := by
      repeat apply head?_append
      rfl
    have hcode : isComment (factoryReturn target) = false := by
      apply isComment_eq_false
      rw [hhead]
      decide
    simp [hcode] at hc

theorem commentsFit_methodLines {byHand : String → Option String} (hb : PlainBodies byHand)
    (m : Method) : commentsFit (methodLines byHand m) = m.onOneLine := by
  unfold methodLines Method.onOneLine
  rw [commentsFit_code (head?_functionOpening _ _) (by decide), commentsFit_append,
    commentsFit_deeper, commentsFit_append, commentsFit_append, commentsFit_summaryLines,
    commentsFit_flatMap, commentsFit_bodyLines hb, commentsFit_code (c := '\x7d') rfl (by decide)]
  simp [commentsFit_signatureLines]

theorem isOneLine_intercalate (ls : List String) :
    isOneLine (", ".intercalate ls).toList = ls.all fun l => isOneLine l.toList := by
  rw [String.toList_intercalate]
  induction ls with
  | nil => rfl
  | cons l ls ih =>
    cases ls with
    | nil => simp
    | cons k ls =>
      have hcomma : isOneLine ", ".toList = true := by decide
      rw [List.map_cons, List.map_cons, List.intercalate_cons_cons, isOneLine_append,
        isOneLine_append, hcomma, ← List.map_cons, ih, Bool.and_true]
      rfl

theorem commentsFit_listenerLines (name params : String) {comment : List String}
    (h : ∀ text ∈ comment, isComment text = true) :
    commentsFit (listenerLines name params comment) =
      comment.all fun text => isOneLine text.toList := by
  have hopen := head?_functionOpening name params
  unfold listenerLines
  split
  · next hc =>
    rw [List.isEmpty_iff.1 hc, commentsFit_code (head?_append hopen _) (by decide)]
    rfl
  · have hcomments : ∀ l ∈ comment.map fun text => (⟨1, text⟩ : Line), isComment l.text = true := by
      intro l hl
      obtain ⟨text, ht, rfl⟩ := List.mem_map.1 hl
      exact h text ht
    rw [commentsFit_code hopen (by decide), commentsFit_append, commentsFit_comments hcomments,
      commentsFit_code (c := '\x7d') rfl (by decide)]
    simp [List.all_map, Function.comp_def]

theorem all_isOneLine_eventsComment (events : List Doc.Event) :
    ((eventsComment events).all fun text => isOneLine text.toList) =
      events.all Doc.Event.onOneLine := by
  have hopen : isOneLine "/// <summary>".toList = true := by decide
  have hlist : isOneLine "/// Supported events: &#10;".toList = true := by decide
  have hclose : isOneLine "/// </summary>".toList = true := by decide
  have hevents : ((events.map eventLine).all fun text => isOneLine text.toList) =
      events.all Doc.Event.onOneLine := by
    simp [List.all_map, Function.comp_def, isOneLine_eventLine]
  simp only [eventsComment, List.all_append, List.all_cons, List.all_nil, hopen, hlist, hclose,
    hevents, Bool.true_and, Bool.and_true]

theorem all_isOneLine_eventNamesComment (events : List Doc.Event) :
    ((eventNamesComment events).all fun text => isOneLine text.toList) =
      events.all fun e => isOneLine e.name.toList := by
  unfold eventNamesComment
  rw [List.all_cons, List.all_nil, Bool.and_true, isOneLine_between (by decide) (by decide),
    isOneLine_intercalate, List.all_map]
  rfl

/-- A listed event has a comment line. -/
theorem eventLine_mem_eventsLines {events : List Doc.Event} {e : Doc.Event} (he : e ∈ events)
    (hl : e.isListable = true) : ⟨1, eventLine e⟩ ∈ eventsLines events := by
  have hcomment : eventLine e ∈ eventsComment (events.filter Doc.Event.isListable) := by
    have hmem : e ∈ events.filter Doc.Event.isListable := List.mem_filter.2 ⟨he, hl⟩
    unfold eventsComment
    simp only [List.mem_append, List.mem_map]
    exact .inl (.inr ⟨e, hmem, rfl⟩)
  have hon : ⟨1, eventLine e⟩ ∈ listenerLines "on" "event, listener"
      (eventsComment (events.filter Doc.Event.isListable)) := by
    unfold listenerLines
    rw [if_neg (by simp [eventsComment])]
    exact List.mem_cons_of_mem _ (List.mem_append_left _ (List.mem_map.2 ⟨_, hcomment, rfl⟩))
  unfold eventsLines
  exact List.mem_append_right _ hon

/-- Two of the comments on events tell everything about them; the others are their copies. -/
theorem commentsFit_eventsLines (events : List Doc.Event) :
    commentsFit (eventsLines events) = (events.filter Doc.Event.isListable).all
      Doc.Event.onOneLine := by
  generalize hl : events.filter Doc.Event.isListable = listed
  have hfull (name params : String) :
      commentsFit (listenerLines name params (eventsComment listed)) =
        listed.all Doc.Event.onOneLine := by
    rw [commentsFit_listenerLines name params fun _ => isComment_of_mem_eventsComment,
      all_isOneLine_eventsComment]
  have hnames (name params : String) :
      commentsFit (listenerLines name params (eventNamesComment listed)) =
        listed.all fun e => isOneLine e.name.toList := by
    rw [commentsFit_listenerLines name params fun _ => isComment_of_mem_eventNamesComment,
      all_isOneLine_eventNamesComment]
  have hnone (name params : String) : commentsFit (listenerLines name params []) = true :=
    commentsFit_listenerLines name params fun _ h => nomatch h
  simp only [eventsLines, hl, commentsFit_append, hfull, hnames, hnone]
  cases hall : listed.all Doc.Event.onOneLine with
  | false => rfl
  | true =>
    have hn : (listed.all fun e => isOneLine e.name.toList) = true := by
      rw [List.all_eq_true] at hall ⊢
      intro e he
      exact (Bool.and_eq_true_iff.1 (hall e he)).1
    rw [hn]
    rfl

theorem commentsFit_propertyLines (specializer : Option Specializer) (p : Property) :
    commentsFit (propertyLines specializer p) = p.onOneLine := by
  unfold propertyLines Property.onOneLine
  rw [commentsFit_append, commentsFit_code (head?_valueLine _ _) (by decide), commentsFit_nil,
    Bool.and_true, commentsFit_comments fun _ => isComment_of_mem_fieldLines]
  unfold fieldLines
  cases p.desc with
  | none => rfl
  | some desc =>
    have hquote : isOneLine "'>".toList = true := by decide
    have hopen : isOneLine "/// <field name='".toList = true := by decide
    have hclose : isOneLine "</field>".toList = true := by decide
    simp only [Option.toList_some, List.map_cons, List.map_nil, List.all_cons, List.all_nil,
      Option.all_some, String.toList_append, isOneLine_append, hquote, hopen, hclose,
      isOneLine_commentText, Bool.true_and, Bool.and_true]

/-! ### Comments of scopes -/

theorem commentsFit_membersLines {byHand : String → Option String} (hb : PlainBodies byHand)
    (between : List Line) (specializer : Option Specializer) (s : Scope) :
    commentsFit (membersLines byHand between specializer s) =
      (s.onOneLine && commentsFit between) := by
  have hevents : commentsFit (s.events.elim [] eventsLines) =
      ((s.events.getD []).filter Event.isListable).all Event.onOneLine := by
    cases s.events with
    | none => rfl
    | some events => exact commentsFit_eventsLines events
  unfold membersLines Scope.onOneLine
  simp only [commentsFit_append, commentsFit_flatMap, commentsFit_summaryLines, hevents,
    commentsFit_methodLines hb, commentsFit_propertyLines, Bool.and_assoc]
  congr 3
  rw [Bool.and_comm]

theorem commentsFit_frameLines (lead name trail : String) (body : List Line) :
    commentsFit (frameLines lead name trail body).tail = commentsFit body := by
  have hclose : ("\x7d" ++ trail).toList.head? = some '\x7d' := head?_append rfl trail
  unfold frameLines
  rw [List.tail_cons, commentsFit_append, commentsFit_deeper, commentsFit_code hclose (by decide),
    commentsFit_nil, Bool.and_true]

theorem deeper_mem_frameLines {l : Line} {body : List Line} (h : l ∈ body)
    (lead name trail : String) : l.deeper ∈ frameLines lead name trail body :=
  List.mem_cons_of_mem _ (List.mem_append_left _ (List.mem_map_of_mem h))

/-- The first line of a class is code. -/
theorem commentsFit_tail_classLines (c : Scope) :
    commentsFit (classLines c).tail = commentsFit (classLines c) := by
  have hopen : ("" ++ "function " ++ Role.nested.container c.name ++ "() \x7b").toList.head? =
      some 'f' := by
    rw [String.empty_append]
    repeat apply head?_append
    rfl
  exact (commentsFit_code hopen (by decide) 0 _).symm

theorem commentsFit_factoryLines (c : Scope) : commentsFit (factoryLines c) = true := by
  have hreturn : ("return new _" ++ Name.className c.name ++ "();").toList.head? = some 'r' := by
    repeat apply head?_append
    rfl
  unfold factoryLines
  rw [commentsFit_code (head?_factoryOpening _) (by decide), commentsFit_code hreturn (by decide),
    commentsFit_code (c := '\x7d') rfl (by decide), commentsFit_nil]

theorem commentsFit_classLines (c : Scope) : commentsFit (classLines c) = c.onOneLine := by
  have htail : (classLines c).tail =
      (frameLines "" (Role.nested.container c.name) "" (classBody c)).tail ++
        ⟨0, ""⟩ :: factoryLines c := rfl
  rw [← commentsFit_tail_classLines, htail, commentsFit_append, commentsFit_frameLines,
    commentsFit_empty, commentsFit_factoryLines, Bool.and_true]
  unfold classBody
  rw [commentsFit_membersLines plainBodies_noBody, commentsFit_nil, Bool.and_true]

theorem commentsFit_scopeLines (registry : Registry) (role : Role)
    {byHand : String → Option String} (hb : PlainBodies byHand) (lead trail : String) (m : Module) :
    commentsFit (scopeLines registry role byHand lead trail m).tail = m.onOneLine := by
  unfold scopeLines scopeBody Module.onOneLine
  rw [commentsFit_frameLines, commentsFit_membersLines hb, commentsFit_flatMap]
  simp only [commentsFit_classLines]

end Stub

/-! ### Entries -/

/-- An entry that becomes a function: a module between two texts, a global object, or a class. -/
inductive Entry where
  | module (lead trail : String) (m : Module)
  | global (g : Module)
  | nested (c : Scope)

namespace Entry

/-- The stub of the entry. -/
def draft (registry : Registry) : Entry → Draft Unit
  | .module lead trail m => Stub.moduleDraft registry lead trail m
  | .global g => Stub.globalDraft registry g
  | .nested c => Stub.classDraft c

/-- Nothing in the documentation of the entry leaves its comment. -/
def onOneLine : Entry → Bool
  | .module _ _ m => m.onOneLine
  | .global g => g.onOneLine
  | .nested c => c.onOneLine

/-- What refuses the entry. -/
def violations : Entry → List Violation
  | .module _ _ m => Stub.scopeViolations .module m
  | .global g => Stub.scopeViolations .global g
  | .nested c => Stub.classViolations c

/-- The lines of the entry. -/
def lines (registry : Registry) : Entry → List Line
  | .module lead trail m =>
    Stub.scopeLines registry .module (Stub.handWritten m.name) lead trail m
  | .global g => Stub.globalLines registry g
  | .nested c => Stub.classLines c

theorem stopsAt_draft (registry : Registry) (e : Entry) :
    StopsAt (e.draft registry).result e.violations := by
  cases e with
  | module lead trail m => exact Stub.stopsAt_scopeDraft registry .module _ lead trail m
  | global g => exact Stub.stopsAt_globalDraft registry g
  | nested c => exact Stub.stopsAt_classDraft c

theorem result_draft_eq_ok_iff {registry : Registry} {e : Entry} :
    (e.draft registry).result = .ok () ↔ e.violations = [] :=
  (e.stopsAt_draft registry).eq_ok_iff

theorem lines_draft (registry : Registry) {e : Entry} (h : e.violations = []) :
    (e.draft registry).lines = e.lines registry := by
  cases e with
  | module lead trail m => exact (Stub.writes_scopeDraft h).lines_eq
  | global g => exact (Stub.writes_globalDraft h).lines_eq
  | nested c => exact (Stub.writes_classDraft h).lines_eq

theorem commentsFit_draft {registry : Registry} {e : Entry}
    (h : (e.draft registry).result = .ok ()) :
    Stub.commentsFit (e.draft registry).lines.tail = e.onOneLine := by
  rw [lines_draft registry (result_draft_eq_ok_iff.1 h)]
  cases e with
  | module lead trail m =>
    exact Stub.commentsFit_scopeLines registry .module (Stub.plainBodies_handWritten m.name) ..
  | global g => exact Stub.commentsFit_scopeLines registry .global Stub.plainBodies_noBody ..
  | nested c => exact (Stub.commentsFit_tail_classLines c).trans (Stub.commentsFit_classLines c)

/-- The comments of an entry keep to their lines exactly if nothing in its documentation leaves
them. -/
theorem comments_on_one_line_iff (registry : Registry) (e : Entry)
    (h : (e.draft registry).result = .ok ()) :
    (∀ l ∈ (e.draft registry).lines.tail, Stub.isComment l.text = true →
      '\n' ∉ l.text.toList ∧ '\r' ∉ l.text.toList) ↔ e.onOneLine = true := by
  rw [← commentsFit_draft h, Stub.commentsFit_iff]
  simp only [isOneLine_iff]

/-- A module with a comment of every kind. A line break in a description is no harm. -/
def commentedModule : Module :=
  { name := "net",
    desc := some "a\r\nb",
    methods := some
      [{ name := "connect", desc := some "c\nd",
         signatures := [{ params := [{ name := "port", desc := some "e" }],
                          returns := some { desc := some "f" } }] }],
    events := some [{ name := "close", desc := some "<p>g\r\nh" }],
    properties := some [{ name := "limit", desc := some "i" }] }

theorem comments_on_one_line_commentedModule :
    ((Entry.module "" "" commentedModule).draft .empty).result = .ok () ∧
      ∀ l ∈ ((Entry.module "" "" commentedModule).draft .empty).lines.tail,
        Stub.isComment l.text = true → '\n' ∉ l.text.toList ∧ '\r' ∉ l.text.toList := by
  have hok : ((Entry.module "" "" commentedModule).draft .empty).result = .ok () :=
    result_draft_eq_ok_iff.2 (by decide)
  exact ⟨hok, (comments_on_one_line_iff .empty (.module "" "" commentedModule) hok).2 (by decide)⟩

/-- A module with an event whose name has two lines. -/
def brokenEventModule : Module := { name := "fs", events := some [{ name := "a\nalert(1)" }] }

/-- The second line of the name stands in the stub as code. -/
theorem comment_leaves_line_brokenEventModule :
    ((Entry.module "" "" brokenEventModule).draft .empty).result = .ok () ∧
      ⟨2, "/// a\nalert(1)&#10;"⟩ ∈
        ((Entry.module "" "" brokenEventModule).draft .empty).lines := by
  have hw : ((Entry.module "" "" brokenEventModule).draft .empty).Writes _ _ :=
    Stub.writes_scopeDraft (m := brokenEventModule) (by decide)
  have hline : "/// a\nalert(1)&#10;" = Stub.eventLine { name := "a\nalert(1)" } := by decide
  have hmem : ⟨1, "/// a\nalert(1)&#10;"⟩ ∈ Stub.eventsLines [{ name := "a\nalert(1)" }] := by
    rw [hline]
    exact Stub.eventLine_mem_eventsLines (List.mem_singleton.2 rfl) (by decide)
  have hbody : ⟨1, "/// a\nalert(1)&#10;"⟩ ∈
      Stub.scopeBody .empty .module (Stub.handWritten "fs") brokenEventModule := by
    simp [Stub.scopeBody, Stub.membersLines, brokenEventModule, hmem]
  refine ⟨hw.result_eq, ?_⟩
  rw [hw.lines_eq]
  exact Stub.deeper_mem_frameLines hbody "" _ ""

end Entry

end ApiStubs
