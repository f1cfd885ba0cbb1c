import ApiStubs.Proofs.CommentText
import ApiStubs.Proofs.Descriptions

/-!
# The line ends of descriptions

Descriptions come with line feeds alone, or with a carriage return before each of them. The stubs
do not show which: every step that looks at a description takes both forms of a line end for one.

* `Text.pairedEnds`: the text with a carriage return before every line feed;
* `docComment_pairedEnds`, `plainSummary_pairedEnds`, `contains_pairedEnds`: what comments,
  summaries and searches make of it;
* `Tree.descriptions`, `Tree.mapDesc`: all descriptions of a documentation, and the documentation
  with each of them changed; likewise for every kind of entry;
* `ReadAlike`: a change of a description that no draft notices;
* `methodDraft_mapDesc`, `propertyDraft_mapDesc`, `membersDraft_mapDesc`, `scopeDraft_mapDesc`: the
  draft of each kind of entry, assembled in `stubsDraft_mapDesc`;
* `generateWith_pairedEnds`: the stubs and what is noticed about factories.
-/

namespace ApiStubs

/-! ### Line ends in texts -/

namespace Text

/-- The text with a carriage return before every line feed. -/
def pairedEnds (s : List Char) : List Char := replaceAll ['\n'] ['\r', '\n'] s

theorem pairedEnds_append (s t : List Char) :
    pairedEnds (s ++ t) = pairedEnds s ++ pairedEnds t := by
  simp only [pairedEnds, replaceAll_singleton, List.flatMap_append]

theorem pairedEnds_newline (s : List Char) :
    pairedEnds ('\n' :: s) = '\r' :: '\n' :: pairedEnds s := by
  simp only [pairedEnds, replaceAll_singleton, List.flatMap_cons, if_true, List.cons_append,
    List.nil_append]

theorem pairedEnds_cons_of_ne {c : Char} (hc : c ≠ '\n') (s : List Char) :
    pairedEnds (c :: s) = c :: pairedEnds s := by
  simp only [pairedEnds, replaceAll_singleton, List.flatMap_cons, if_neg hc, List.singleton_append]

theorem pairedEnds_eq_self {s : List Char} (hs : '\n' ∉ s) : pairedEnds s = s := by
  induction s with
  | nil => rfl
  | cons c s ih =>
    obtain ⟨hc, hs⟩ := List.ne_and_not_mem_of_not_mem_cons hs
    rw [pairedEnds_cons_of_ne (Ne.symm hc), ih hs]

/-- Without the carriage returns the text is the one before. -/
theorem filter_pairedEnds {s : List Char} (hs : '\r' ∉ s) :
    (pairedEnds s).filter (· != '\r') = s := by
  induction s with
  | nil => rfl
  | cons c s ih =>
    obtain ⟨hc, htail⟩ := List.ne_and_not_mem_of_not_mem_cons hs
    by_cases hn : c = '\n'
    · subst hn
      rw [pairedEnds_newline, List.filter_cons_of_neg (by decide),
        List.filter_cons_of_pos (by decide), ih htail]
    · rw [pairedEnds_cons_of_ne hn, List.filter_cons_of_pos (by simpa using Ne.symm hc), ih htail]

/-! ### Comments, summaries and searches -/

theorem docComment_newline (s : List Char) :
    docComment ('\n' :: s) = docLineBreak ++ docComment s := by
  simp only [docComment, replaceAll_pair_of_ne (show '\n' ≠ '\r' by decide), replaceAll_singleton,
    List.flatMap_cons, if_true]

theorem docComment_pair (s : List Char) :
    docComment ('\r' :: '\n' :: s) = docLineBreak ++ docComment s := by
  have hbreak : (docLineBreak.flatMap fun c => if c = '\n' then docLineBreak else [c]) =
      docLineBreak := by decide
  simp only [docComment, replaceAll_pair, replaceAll_singleton, List.flatMap_append, hbreak]

theorem docComment_cons_of_ne {c : Char} (hn : c ≠ '\n') (hr : c ≠ '\r') (s : List Char) :
    docComment (c :: s) = c :: docComment s := by
  simp only [docComment, replaceAll_pair_of_ne hr, replaceAll_singleton, List.flatMap_cons,
    if_neg hn, List.singleton_append]

theorem docComment_pairedEnds {s : List Char} (hs : '\r' ∉ s) :
    docComment (pairedEnds s) = docComment s := by
  induction s with
  | nil => rfl
  | cons c s ih =>
    obtain ⟨hr, htail⟩ := List.ne_and_not_mem_of_not_mem_cons hs
    by_cases hn : c = '\n'
    · subst hn
      rw [pairedEnds_newline, docComment_pair, docComment_newline, ih htail]
    · rw [pairedEnds_cons_of_ne hn, docComment_cons_of_ne hn (Ne.symm hr),
        docComment_cons_of_ne hn (Ne.symm hr), ih htail]

theorem dropTrailingReturns_append_return (s : List Char) :
    dropTrailingReturns (s ++ ['\r']) = dropTrailingReturns s := by
  simp [dropTrailingReturns]

theorem plainSummary_of_newline {first : List Char} (h : '\n' ∉ first) (rest : List Char) :
    plainSummary (first ++ '\n' :: rest) =
      dropParagraphs (dropTrailingReturns first) ++ ellipsis := by
  rw [plainSummary, splitFirst?_singleton h]

theorem plainSummary_pairedEnds (s : List Char) : plainSummary (pairedEnds s) = plainSummary s := by
  by_cases hn : '\n' ∈ s
  · -- the first line has one carriage return more, which a summary drops
    obtain ⟨first, rest, rfl, hfirst⟩ := List.eq_append_cons_of_mem hn
    have hpaired : pairedEnds (first ++ '\n' :: rest) =
        (first ++ ['\r']) ++ '\n' :: pairedEnds rest := by
      rw [pairedEnds_append, pairedEnds_newline, pairedEnds_eq_self hfirst, List.append_assoc]
      rfl
    have hline : '\n' ∉ first ++ ['\r'] := by simp [hfirst]
    rw [hpaired, plainSummary_of_newline hline, plainSummary_of_newline hfirst,
      dropTrailingReturns_append_return]
  · rw [pairedEnds_eq_self hn]

theorem contains_pairedEnds {pattern s : List Char} (hp : isOneLine pattern = true)
    (hs : '\r' ∉ s) : contains pattern (pairedEnds s) = contains pattern s := by
  obtain ⟨hn, hr⟩ := isOneLine_iff.1 hp
  rw [Bool.eq_iff_iff, contains_iff_isInfix, contains_iff_isInfix]
  constructor
  · intro h
    have hfiltered := h.filter (· != '\r')
    rwa [filter_pairedEnds hs, List.filter_eq_self.2 fun c hc => ?_] at hfiltered
    rw [bne_iff_ne]
    rintro rfl
    exact hr hc
  · rintro ⟨before, after, rfl⟩
    exact ⟨pairedEnds before, pairedEnds after, by
      rw [pairedEnds_append, pairedEnds_append, pairedEnds_eq_self hn]⟩

end Text

open Doc Inference Stub

/-! ### Descriptions -/

namespace Doc

/-- The description of a parameter. -/
def Param.descriptions (p : Param) : List String := p.desc.toList

/-- The description of what is returned. -/
def Return.descriptions (r : Return) : List String := r.desc.toList

/-- The descriptions in a signature. -/
def Signature.descriptions (s : Signature) : List String :=
  s.params.flatMap Param.descriptions ++ s.returns.toList.flatMap Return.descriptions

/-- The descriptions in a method. -/
def Method.descriptions (m : Method) : List String :=
  m.desc.toList ++ m.signatures.flatMap Signature.descriptions

/-- The description of an event. -/
def Event.descriptions (e : Event) : List String := e.desc.toList

/-- The description of a property. -/
def Property.descriptions (p : Property) : List String := p.desc.toList

/-- The descriptions in a scope. -/
def Scope.descriptions (s : Scope) : List String :=
  s.desc.toList ++ (s.methods.getD []).flatMap Method.descriptions ++
    (s.events.getD []).flatMap Event.descriptions ++
    (s.properties.getD []).flatMap Property.descriptions

/-- The descriptions in a module or global object. -/
def Module.descriptions (m : Module) : List String :=
  m.toScope.descriptions ++ (m.classes.getD []).flatMap Scope.descriptions

/-- The descriptions in a section. -/
def Section.descriptions (s : Section) : List String :=
  (s.globals.getD []).flatMap Module.descriptions

/-- All descriptions of a documentation. -/
def Tree.descriptions (tree : Tree) : List String :=
  tree.modules.flatMap Module.descriptions ++ tree.sections.flatMap Section.descriptions

variable (f : String → String)

/-- The parameter with its description changed. -/
def Param.mapDesc (p : Param) : Param := { p with desc := p.desc.map f }

/-- What is returned, with its description changed. -/
def Return.mapDesc (r : Return) : Return := { r with desc := r.desc.map f }

/-- The signature with every description changed. -/
def Signature.mapDesc (s : Signature) : Signature :=
  { params := s.params.map (Param.mapDesc f), returns := s.returns.map (Return.mapDesc f) }

/-- The method with every description changed. -/
def Method.mapDesc (m : Method) : Method :=
  { m with desc := m.desc.map f, signatures := m.signatures.map (Signature.mapDesc f) }

/-- The event with its description changed. -/
def Event.mapDesc (e : Event) : Event := { e with desc := e.desc.map f }

/-- The property with its description changed. -/
def Property.mapDesc (p : Property) : Property := { p with desc := p.desc.map f }

/-- The scope with every description changed. -/
def Scope.mapDesc (s : Scope) : Scope :=
  { name := s.name
    desc := s.desc.map f
    methods := s.methods.map (·.map (Method.mapDesc f))
    events := s.events.map (·.map (Event.mapDesc f))
    properties := s.properties.map (·.map (Property.mapDesc f)) }

/-- The module or global object with every description changed. -/
def Module.mapDesc (m : Module) : Module :=
  { m.toScope.mapDesc f with classes := m.classes.map (·.map (Scope.mapDesc f)) }

/-- The section with every description changed. -/
def Section.mapDesc (s : Section) : Section :=
  { s with globals := s.globals.map (·.map (Module.mapDesc f)) }

/-- The documentation with every description changed. -/
def Tree.mapDesc (tree : Tree) : Tree :=
  { modules := tree.modules.map (Module.mapDesc f)
    sections := tree.sections.map (Section.mapDesc f) }

end Doc

/-- No draft tells the changed description from the one before. -/
structure ReadAlike (f : String → String) (desc : String) : Prop where
  comment : commentText (f desc) = commentText desc
  summary : Text.plainSummary (f desc).toList = Text.plainSummary desc.toList
  literal : ∀ textRaw, describedLiteral? (f desc) textRaw = describedLiteral? desc textRaw

theorem Draft.each_map {α β : Type} {d : β → Draft Unit} {e : α → Draft Unit} {g : α → β}
    {as : List α} (h : ∀ a ∈ as, d (g a) = e a) : Draft.each d (as.map g) = Draft.each e as := by
  induction as with
  | nil => rfl
  | cons a as ih =>
    obtain ⟨ha, has⟩ := List.forall_mem_cons.1 h
    rw [List.map_cons, each, each, ha, ih has]

theorem getD_map_list {α β : Type} (g : α → β) (as : Option (List α)) :
    (as.map (·.map g)).getD [] = (as.getD []).map g :=
  Option.getD_map (List.map g) [] as

namespace Stub

variable {f : String → String}

/-! ### Methods -/

theorem commentText?_map {desc : Option String} (h : ∀ d ∈ desc.toList, ReadAlike f d) :
    commentText? (desc.map f) = commentText? desc := by
  cases desc with
  | none => rfl
  | some d => exact (h d (by simp)).comment

theorem summary_map {desc : Option String} (h : ∀ d ∈ desc.toList, ReadAlike f d) :
    summary (desc.map f) = summary desc := by
  cases desc with
  | none => rfl
  | some d =>
    rw [Option.map_some, summary, summary, (h d (by simp)).comment]

theorem paramLine_mapDesc {p : Param} (h : ∀ d ∈ p.descriptions, ReadAlike f d) :
    paramLine (p.mapDesc f) = paramLine p := by
  unfold paramLine Param.mapDesc
  rw [commentText?_map h]

theorem returnDraft_mapDesc {r : Option Return}
    (h : ∀ d ∈ r.toList.flatMap Return.descriptions, ReadAlike f d) :
    returnDraft (r.map (Return.mapDesc f)) = returnDraft r := by
  cases r with
  | none => rfl
  | some r =>
    have hdesc : ∀ d ∈ r.desc.toList, ReadAlike f d := List.forall_mem_flatMap.1 h r (by simp)
    have hempty : (r.mapDesc f).isEmpty = r.isEmpty := by
      simp [Return.isEmpty, Return.mapDesc]
    have hline : returnLine (r.mapDesc f) = returnLine r := by
      unfold returnLine Return.mapDesc
      rw [commentText?_map hdesc]
    rw [Option.map_some, returnDraft, returnDraft, hempty, hline]

theorem signatureDraft_mapDesc {s : Signature} (h : ∀ d ∈ s.descriptions, ReadAlike f d) :
    signatureDraft (s.mapDesc f) = signatureDraft s := by
  obtain ⟨hparams, hreturns⟩ := List.forall_mem_append.1 h
  have hlines : Draft.each (fun p => .line (paramLine p)) (s.params.map (Param.mapDesc f)) =
      Draft.each (fun p => .line (paramLine p)) s.params := by
    refine Draft.each_map fun p hp => ?_
    rw [paramLine_mapDesc (List.forall_mem_flatMap.1 hparams p hp)]
  unfold signatureDraft Signature.mapDesc
  simp only [List.isEmpty_map, hlines, returnDraft_mapDesc hreturns]

/-- The body of a method looks at names alone. -/
theorem bodyDraft_mapDesc (byHand : String → Option String) (container : String)
    (classes : List Scope) (m : Method) :
    bodyDraft byHand container (classes.map (Scope.mapDesc f)) (m.mapDesc f) =
      bodyDraft byHand container classes m := by
  have hname : (m.mapDesc f).name = m.name := rfl
  have htarget : (m.mapDesc f).factoryTarget? = m.factoryTarget? := rfl
  have hdeclared (target : String) :
      ((classes.map (Scope.mapDesc f)).any fun c => Name.className c.name == target) =
        classes.any fun c => Name.className c.name == target := by
    rw [List.any_map]
    rfl
  unfold bodyDraft factoryDraft
  simp only [hname, htarget, hdeclared]

theorem parameterNames_mapDesc (container : String) (s : Signature) :
    parameterNames container (s.mapDesc f) = parameterNames container s := by
  have hpositional : (s.mapDesc f).positional = s.positional.map (Param.mapDesc f) :=
    List.takeWhile_map ..
  unfold parameterNames
  rw [hpositional, List.mapM_map]
  rfl

theorem methodDraft_mapDesc (byHand : String → Option String) (container : String)
    (classes : List Scope) {m : Method} (h : ∀ d ∈ m.descriptions, ReadAlike f d) :
    methodDraft byHand container (classes.map (Scope.mapDesc f)) (m.mapDesc f) =
      methodDraft byHand container classes m := by
  obtain ⟨hdesc, hsignatures⟩ := List.forall_mem_append.1 h
  have heach : Draft.each signatureDraft (m.signatures.map (Signature.mapDesc f)) =
      Draft.each signatureDraft m.signatures :=
    Draft.each_map fun s hs => signatureDraft_mapDesc (List.forall_mem_flatMap.1 hsignatures s hs)
  have hsummary : summary (m.mapDesc f).desc = summary m.desc := summary_map hdesc
  unfold methodDraft
  rw [hsummary, bodyDraft_mapDesc]
  cases hs : m.signatures with
  | nil => simp [Method.mapDesc, hs]
  | cons first more =>
    rw [hs, List.map_cons] at heach
    simp only [Method.mapDesc, hs, heach, List.map_cons, parameterNames_mapDesc]

/-! ### Events and properties -/

theorem eventLine_mapDesc {e : Doc.Event} (h : ∀ d ∈ e.descriptions, ReadAlike f d) :
    eventLine (e.mapDesc f) = eventLine e := by
  cases e with | mk name desc =>
  cases desc with
  | none => rfl
  | some d =>
    have hd : ReadAlike f d := h d (by simp [Event.descriptions])
    simp only [eventLine, Event.mapDesc, Option.map_some, hd.summary]

theorem eventsDraft?_mapDesc {events : Option (List Doc.Event)}
    (h : ∀ d ∈ (events.getD []).flatMap Event.descriptions, ReadAlike f d) :
    eventsDraft? (events.map (·.map (Event.mapDesc f))) = eventsDraft? events := by
  cases events with
  | none => rfl
  | some events =>
    have hlistable : (fun e : Doc.Event => (e.mapDesc f).isListable) = fun e => e.isListable := rfl
    have hlisted : (events.map (Event.mapDesc f)).filter (·.isListable) =
        (events.filter (·.isListable)).map (Event.mapDesc f) := by
      rw [List.filter_map, Function.comp_def, hlistable]
    have hfull : eventsComment ((events.filter (·.isListable)).map (Event.mapDesc f)) =
        eventsComment (events.filter (·.isListable)) := by
      unfold eventsComment
      rw [List.map_map, List.map_congr_left fun e he => ?_]
      exact eventLine_mapDesc (List.forall_mem_flatMap.1 h e (List.mem_of_mem_filter he))
    have hnames : eventNamesComment ((events.filter (·.isListable)).map (Event.mapDesc f)) =
        eventNamesComment (events.filter (·.isListable)) := by
      unfold eventNamesComment
      rw [List.map_map]
      rfl
    show eventsDraft (events.map (Event.mapDesc f)) = eventsDraft events
    simp only [eventsDraft, hlisted, hfull, hnames]

theorem propertyDraft_mapDesc (container : String) (specializer : Option Specializer)
    {p : Property} (h : ∀ d ∈ p.descriptions, ReadAlike f d) :
    propertyDraft container specializer (p.mapDesc f) = propertyDraft container specializer p := by
  cases p with | mk name desc textRaw =>
  cases desc with
  | none => rfl
  | some d =>
    have hd : ReadAlike f d := h d (by simp [Property.descriptions])
    simp only [propertyDraft, fieldDraft, inferDefault, Property.mapDesc, Option.map_some,
      Option.getD_some, hd.comment, hd.literal]

/-! ### Scopes -/

theorem membersDraft_mapDesc (name : String) (byHand : String → Option String)
    (classes : List Scope) (between : Draft Unit) (specializer : Option Specializer) {s : Scope}
    (h : ∀ d ∈ s.descriptions, ReadAlike f d) :
    membersDraft name byHand (classes.map (Scope.mapDesc f)) between specializer (s.mapDesc f) =
      membersDraft name byHand classes between specializer s := by
  obtain ⟨hrest, hproperties⟩ := List.forall_mem_append.1 h
  obtain ⟨hrest, hevents⟩ := List.forall_mem_append.1 hrest
  obtain ⟨hdesc, hmethods⟩ := List.forall_mem_append.1 hrest
  have hsummary : summary (s.mapDesc f).desc = summary s.desc := summary_map hdesc
  have hlisteners : eventsDraft? (s.mapDesc f).events = eventsDraft? s.events :=
    eventsDraft?_mapDesc hevents
  have heach : Draft.each (methodDraft byHand name (classes.map (Scope.mapDesc f)))
        ((s.mapDesc f).methods.getD []) =
      Draft.each (methodDraft byHand name classes) (s.methods.getD []) := by
    have hmap : (s.mapDesc f).methods.getD [] = (s.methods.getD []).map (Method.mapDesc f) :=
      getD_map_list _ s.methods
    rw [hmap]
    exact Draft.each_map fun m hm =>
      methodDraft_mapDesc byHand name classes (List.forall_mem_flatMap.1 hmethods m hm)
  have hvalues : Draft.each (propertyDraft name specializer) ((s.mapDesc f).properties.getD []) =
      Draft.each (propertyDraft name specializer) (s.properties.getD []) := by
    have hmap : (s.mapDesc f).properties.getD [] =
        (s.properties.getD []).map (Property.mapDesc f) := getD_map_list _ s.properties
    rw [hmap]
    exact Draft.each_map fun p hp =>
      propertyDraft_mapDesc name specializer (List.forall_mem_flatMap.1 hproperties p hp)
  unfold membersDraft
  rw [hsummary, heach, hlisteners, hvalues]

theorem classDraft_mapDesc {c : Scope} (h : ∀ d ∈ c.descriptions, ReadAlike f d) :
    classDraft (c.mapDesc f) = classDraft c := by
  have hmembers (name : String) := membersDraft_mapDesc name noBody [] (.done ()) none h
  have hname : (c.mapDesc f).name = c.name := rfl
  unfold classDraft
  simp only [hname, ← hmembers, List.map_nil]

theorem scopeDraft_mapDesc (registry : Registry) (role : Role) (byHand : String → Option String)
    (lead trail : String) {m : Module} (h : ∀ d ∈ m.descriptions, ReadAlike f d) :
    scopeDraft registry role byHand lead trail (m.mapDesc f) =
      scopeDraft registry role byHand lead trail m := by
  obtain ⟨hscope, hclasses⟩ := List.forall_mem_append.1 h
  have hname : (m.mapDesc f).name = m.name := rfl
  have hmap : (m.mapDesc f).classes.getD [] = (m.classes.getD []).map (Scope.mapDesc f) :=
    getD_map_list _ m.classes
  have heach : Draft.each classDraft ((m.classes.getD []).map (Scope.mapDesc f)) =
      Draft.each classDraft (m.classes.getD []) :=
    Draft.each_map fun c hc => classDraft_mapDesc (List.forall_mem_flatMap.1 hclasses c hc)
  have hmembers (name : String) (classes : List Scope) (between : Draft Unit) :
      membersDraft name byHand (classes.map (Scope.mapDesc f)) between (registry.get? name)
          (m.mapDesc f).toScope =
        membersDraft name byHand classes between (registry.get? name) m.toScope :=
    membersDraft_mapDesc name byHand classes between (registry.get? name) hscope
  unfold scopeDraft
  simp only [hname, hmap, heach, hmembers]

theorem globalDraft_mapDesc (registry : Registry) {g : Module}
    (h : ∀ d ∈ g.descriptions, ReadAlike f d) :
    globalDraft registry (g.mapDesc f) = globalDraft registry g := by
  have hname : (g.mapDesc f).name = g.name := rfl
  unfold globalDraft
  simp only [hname, scopeDraft_mapDesc registry .global noBody _ _ h]

/-! ### The whole documentation -/

theorem loaderDraft_mapDesc (registry : Registry) {modules : List Module}
    (h : ∀ d ∈ modules.flatMap Module.descriptions, ReadAlike f d) :
    loaderDraft registry (modules.map (Module.mapDesc f)) = loaderDraft registry modules := by
  have hcache : cacheDraft (modules.map (Module.mapDesc f)) = cacheDraft modules := by
    have heach : Draft.each (fun m => .line ("\"" ++ moduleLabel m ++ "\": null,"))
          (modules.map (Module.mapDesc f)) =
        Draft.each (fun m => .line ("\"" ++ moduleLabel m ++ "\": null,")) modules :=
      Draft.each_map fun _ _ => rfl
    unfold cacheDraft
    rw [heach]
  have hcases : Draft.each (caseDraft registry) (modules.map (Module.mapDesc f)) =
      Draft.each (caseDraft registry) modules := by
    refine Draft.each_map fun m hm => ?_
    exact scopeDraft_mapDesc registry .module _ _ _ (List.forall_mem_flatMap.1 h m hm)
  unfold loaderDraft dispatcherDraft
  rw [hcache, hcases]

end Stub

open Stub

namespace Doc

variable {f : String → String}

theorem Tree.declaredGlobals_mapDesc (tree : Tree) :
    (tree.mapDesc f).declaredGlobals = tree.declaredGlobals.map (Module.mapDesc f) := by
  have hmembers (g : Module) : (g.mapDesc f).hasMembers = g.hasMembers := by
    simp [Module.hasMembers, Module.mapDesc, Scope.mapDesc]
  exact declaredGlobals_mapGlobals hmembers tree _

/-- A declared global object is one of some section. -/
theorem Tree.exists_section_of_mem_declaredGlobals {tree : Tree} {g : Module}
    (hg : g ∈ tree.declaredGlobals) : ∃ s ∈ tree.sections, g ∈ s.globals.getD [] := by
  unfold declaredGlobals at hg
  split at hg
  · next s hs => exact ⟨s, List.mem_of_find?_eq_some hs, List.mem_of_mem_filter hg⟩
  · cases hg

end Doc

theorem stubsDraft_mapDesc {f : String → String} (registry : Registry) {tree : Tree}
    (h : ∀ d ∈ tree.descriptions, ReadAlike f d) :
    stubsDraft registry (tree.mapDesc f) = stubsDraft registry tree := by
  obtain ⟨hmodules, hsections⟩ := List.forall_mem_append.1 h
  have hglobals : Draft.each (globalDraft registry) (tree.mapDesc f).declaredGlobals =
      Draft.each (globalDraft registry) tree.declaredGlobals := by
    rw [Tree.declaredGlobals_mapDesc]
    refine Draft.each_map fun g hg => globalDraft_mapDesc registry ?_
    obtain ⟨s, hs, hg⟩ := Tree.exists_section_of_mem_declaredGlobals hg
    exact List.forall_mem_flatMap.1 (List.forall_mem_flatMap.1 hsections s hs) g hg
  unfold stubsDraft
  rw [hglobals]
  show (do
    Draft.line prologue
    Draft.each (globalDraft registry) tree.declaredGlobals
    loaderDraft registry (tree.modules.map (Module.mapDesc f))) = _
  rw [loaderDraft_mapDesc registry hmodules]

/-- The stubs, and what is noticed about factories. -/
def Artifacts.stubsPart (artifacts : Artifacts) : String × List Diagnostic :=
  (artifacts.stubs, artifacts.factoryNotes)

/-- This part of the artifacts hangs on the draft of the stubs alone. -/
theorem generateWith_stubsPart {registry : Registry} {options : Options} {t u : Tree}
    (h : stubsDraft registry t = stubsDraft registry u) :
    (generateWith registry options t).map Artifacts.stubsPart =
      (generateWith registry options u).map Artifacts.stubsPart := by
  simp only [generateWith, h]
  cases (stubsDraft registry u).result with
  | error violation => rfl
  | ok _ =>
    simp only [Except.map, Artifacts.stubsPart, Artifacts.factoryNotes, List.filter_append,
      filter_emit_diagnostics]

/-! ### Either form of line ends -/

/-- The description with a carriage return before every line feed. -/
def Doc.pairedEnds (desc : String) : String := String.ofList (Text.pairedEnds desc.toList)

theorem readAlike_pairedEnds {desc : String} (h : '\r' ∉ desc.toList) :
    ReadAlike Doc.pairedEnds desc where
  comment := by
    rw [commentText, commentText, Doc.pairedEnds, String.toList_ofList,
      Text.docComment_pairedEnds h]
  summary := by
    rw [Doc.pairedEnds, String.toList_ofList, Text.plainSummary_pairedEnds]
  literal textRaw := by
    have hmentions {pattern : List Char} (hp : Text.isOneLine pattern = true) :
        Text.contains pattern (Doc.pairedEnds desc).toList = Text.contains pattern desc.toList := by
      rw [Doc.pairedEnds, String.toList_ofList, Text.contains_pairedEnds hp h]
    unfold describedLiteral?
    simp (disch := decide) only [hmentions]

/-- Descriptions with line feeds alone, and the same with a carriage return before each of them,
give the same violation, or the same stubs with the same notes about factories. -/
theorem generateWith_pairedEnds (registry : Registry) (options : Options) {tree : Tree}
    (h : ∀ desc ∈ tree.descriptions, '\r' ∉ desc.toList) :
    (generateWith registry options (tree.mapDesc Doc.pairedEnds)).map Artifacts.stubsPart =
      (generateWith registry options tree).map Artifacts.stubsPart :=
  generateWith_stubsPart
    (stubsDraft_mapDesc registry fun desc hdesc => readAlike_pairedEnds (h desc hdesc))

/-- A module with line feeds in the descriptions of its method, its event and its property. -/
def twoLinesTree : Tree :=
  { modules :=
      [{ name := "net", desc := some "<p>Sockets\n</p>"
         methods := some [{ name := "listen", desc := some "a\nb", signatures := [{}] }]
         events := some [{ name := "close", desc := some "c\nd" }]
         properties := some [{ name := "bytes", desc := some "Read\n<code>Number</code>" }] }] }

theorem generateWith_pairedEnds_twoLinesTree :
    twoLinesTree.mapDesc Doc.pairedEnds ≠ twoLinesTree ∧
      (∀ desc ∈ twoLinesTree.descriptions, '\r' ∉ desc.toList) ∧
      (generateWith .empty {} (twoLinesTree.mapDesc Doc.pairedEnds)).map Artifacts.stubsPart =
        (generateWith .empty {} twoLinesTree).map Artifacts.stubsPart := by
  have hnone : ∀ desc ∈ twoLinesTree.descriptions, '\r' ∉ desc.toList := by decide
  exact ⟨by decide, hnone, generateWith_pairedEnds .empty {} hnone⟩

end ApiStubs
